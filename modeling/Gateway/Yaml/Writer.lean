import Gateway.Text.Json
import Gateway.Yaml.Meaning

/-!
# Writing documents

A tree of values is written in block style, two columns further in for every level; the dashes of a
sequence stand below its key. A text is written plain where it reads back as the same text, between
single quotes where it would read as something else, in double quotes where it holds characters that
must be escaped, and line by line if it has several lines.
-/

namespace Gateway.Yaml

/-- A value to write. -/
inductive Tree where
  /-- Written as it stands: a number, a truth value or a name. -/
  | word (text : String)
  | text (text : String)
  | list (items : List Tree)
  | map (entries : List (String × Tree))
deriving Repr

/-! ## Texts -/

/-- Whether a character is shown as it is. -/
def isShown (c : Char) : Bool :=
  let n := c.toNat
  n == 0x0A || (0x20 ≤ n && n ≤ 0x7E) || (0xA0 ≤ n && n ≤ 0xD7FF)
    || (0xE000 ≤ n && n ≤ 0xFFFD && n != 0xFEFF) || 0x10000 ≤ n

/-- Whether a word may end before a character, or at the end of the text. -/
def isWordEnd (c : Option Char) : Bool := isGap c || c == some '\x00'

/-- Whether a character right behind another keeps a text from being plain: a colon that ends a
word, a number sign that begins one. -/
def marksInside (before c : Char) (after : Option Char) : Bool :=
  (c == ':' && isWordEnd after) || (c == '#' && isWordEnd (some before))

/-- Whether some character behind the first keeps a text from being plain. -/
def isMarkedFrom (before : Char) : List Char → Bool
  | [] => false
  | c :: rest => marksInside before c rest.head? || isMarkedFrom c rest

/-- Whether a text holds marks that a plain scalar cannot. -/
def isMarked (text : List Char) : Bool :=
  match text with
  | [] => false
  | c :: rest =>
    "---".toList.isPrefixOf text || "...".toList.isPrefixOf text
      || "#,[]\x7b\x7d&*!|>'\"%@`".toList.contains c
      || ("?:-".toList.contains c && isWordEnd rest.head?)
      || isMarkedFrom c rest

/-- Whether a character of one kind stands right before one of another. -/
def hasPair (p q : Char → Bool) : List Char → Bool
  | a :: b :: rest => (p a && q b) || hasPair p q (b :: rest)
  | _ => false

/-- Whether a text begins or ends with a character of a kind. -/
def isEdged (p : Char → Bool) (text : List Char) : Bool :=
  text.head?.any p || text.getLast?.any p

/-- Whether only double quotes can hold a text: it has characters to escape, or a space at the end
of a line. -/
def needsEscapes (text : List Char) : Bool :=
  text.any (!isShown ·) || hasPair (· == ' ') isBreak text

/-- How a text is written. -/
def styleOf (text : List Char) : Style :=
  if text.contains '\n' then
    if needsEscapes text || text.getLast? == some ' ' then .doubleQuoted else .literal
  else if needsEscapes text || hasPair isBreak (· == ' ') text then .doubleQuoted
  else if isAmbiguous text || isMarked text || text.any isBreak || isEdged (· == ' ') text then
    .singleQuoted
  else .plain

/-- A number in capital hexadecimal digits, at least so many. -/
def wideHex (width n : Nat) : List Char :=
  let digits := (Nat.toDigits 16 n).map Char.toUpper
  List.replicate (width - digits.length) '0' ++ digits

/-- A character between double quotes. -/
def escapedChar (c : Char) : List Char :=
  match c with
  | '\x00' => ['\\', '0']
  | '\x07' => ['\\', 'a']
  | '\x08' => ['\\', 'b']
  | '\t' => ['\\', 't']
  | '\n' => ['\\', 'n']
  | '\x0b' => ['\\', 'v']
  | '\x0c' => ['\\', 'f']
  | '\r' => ['\\', 'r']
  | '\x1b' => ['\\', 'e']
  | '"' => ['\\', '"']
  | '\\' => ['\\', '\\']
  | '\x85' => ['\\', 'N']
  | '\u2028' => ['\\', 'L']
  | '\u2029' => ['\\', 'P']
  | _ =>
    if isShown c then [c]
    else if c.toNat ≤ 0xFF then '\\' :: 'x' :: wideHex 2 c.toNat
    else if c.toNat ≤ 0xFFFF then '\\' :: 'u' :: wideHex 4 c.toNat
    else '\\' :: 'U' :: wideHex 8 c.toNat

/-- So many spaces. -/
def spaces (n : Nat) : List Char := List.replicate n ' '

/-- Lines with every line but an empty one moved in; `fresh` says that a line begins. -/
def indented (column : Nat) (form : Char → List Char) (fresh : Bool) : List Char → List Char
  | [] => []
  | c :: rest =>
    if isBreak c then c :: indented column form true rest
    else (if fresh then spaces column else []) ++ form c ++ indented column form false rest

/-- What stands behind the bar of a literal scalar: the indentation if the text does not show it,
and which line ends at its end belong to it. -/
def literalHeader (text : List Char) : List Char :=
  let hint := if text.head?.any fun c => c == ' ' || isBreak c then ['2'] else []
  let chomp := match text.reverse with
    | last :: rest =>
      if !isBreak last then ['-'] else if rest.isEmpty || rest.head?.any isBreak then ['+'] else []
    | [] => ['-']
  hint ++ chomp

/-- A text in its style with the line end after it; the further lines begin at a column. -/
def textLine (column : Nat) (text : List Char) : List Char :=
  match styleOf text with
  | .doubleQuoted => '"' :: text.flatMap escapedChar ++ ['"', '\n']
  | .singleQuoted =>
    let body := indented column (fun c => if c == '\'' then ['\'', '\''] else [c]) false text
    let margin := if text.getLast?.any isBreak then spaces column else []
    '\'' :: body ++ margin ++ ['\'', '\n']
  | .literal =>
    '|' :: literalHeader text ++ '\n' :: indented column ([·]) true text
      ++ (if text.getLast?.any isBreak then [] else ['\n'])
  | _ => text ++ ['\n']

/-! ## Trees -/

mutual

/-- A value behind its key or dash, with the line end after it; the lines of its own begin at a
column. The dashes of a sequence behind a key are not moved in. -/
def Tree.lines (column : Nat) : Tree → List Char
  | .word text => ' ' :: text.toList ++ ['\n']
  | .text text => ' ' :: textLine (column + 2) text.toList
  | .list [] => " []\n".toList
  | .map [] => " \x7b\x7d\n".toList
  | .list (item :: items) => '\n' :: itemLines column (item :: items)
  | .map (entry :: entries) => '\n' :: entryLines (column + 2) (entry :: entries)

/-- Items behind their dashes. -/
def itemLines (column : Nat) : List Tree → List Char
  | [] => []
  | item :: items => spaces column ++ '-' :: item.lines column ++ itemLines column items

/-- Entries behind their keys. -/
def entryLines (column : Nat) : List (String × Tree) → List Char
  | [] => []
  | (key, value) :: entries =>
    spaces column ++ key.toList ++ ':' :: value.lines column ++ entryLines column entries

end

mutual

/-- A value in one line, every text of it between double quotes; a name counts as a text. -/
def Tree.flowText : Tree → String
  | .word text => if (flag? text.toList).isSome || (natural? text.toList).isSome then text
    else Text.Json.string text
  | .text text => Text.Json.string text
  | .list items => Text.Json.array (flowItems items)
  | .map entries => Text.Json.object (flowEntries entries)

/-- Items in one line. -/
def flowItems : List Tree → List String
  | [] => []
  | item :: items => item.flowText :: flowItems items

/-- Entries in one line. -/
def flowEntries : List (String × Tree) → List (String × String)
  | [] => []
  | (key, value) :: entries => (key, value.flowText) :: flowEntries entries

end

/-- The text of a document that is a mapping. -/
def write (entries : List (String × Tree)) : String := String.ofList (entryLines 0 entries)

end Gateway.Yaml
