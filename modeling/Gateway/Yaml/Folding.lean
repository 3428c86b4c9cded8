import Gateway.Yaml.Cursor

/-!
# Folded text

Scalars over several lines. Between two words of a plain or quoted scalar stand blanks or line ends:
one line end reads as a space, and of more the first is dropped. In block scalars the line ends are
kept or folded as their header says.
-/

namespace Gateway.Yaml

/-! ## Gaps between words -/

/-- What stands between two words: blanks, or a first line end and more of them. -/
structure Gap where
  blanks : List Char
  first : List Char
  more : List Char
  /-- Whether a line end was read. -/
  broken : Bool
deriving Repr

namespace Gap

/-- Nothing at all. -/
def empty : Gap := ⟨[], [], [], false⟩

/-- What the gap reads as. -/
def text (g : Gap) : List Char :=
  if !g.broken then g.blanks
  else if g.first.head? == some '\n' then (if g.more.isEmpty then [' '] else g.more)
  else g.first ++ g.more

/-- The gap with another line end. -/
def addBreak (g : Gap) (text : List Char) : Gap :=
  if g.broken then { g with more := g.more ++ text }
  else { g with blanks := [], first := text, broken := true }

/-- Reads on through blanks and line ends. Blanks count only on the first line. A tab before the
column of the indentation, if one is given, is refused. -/
def read (indent : Option Nat) (c : Cursor) (g : Gap) : Nat → Option (Cursor × Gap)
  | 0 => some (c, g)
  | fuel + 1 =>
    match c.head with
    | none => some (c, g)
    | some ch =>
      if isBlank ch then
        if g.broken && ch == '\t' && indent.any (c.column < ·) then none
        else
          let g := if g.broken then g else { g with blanks := g.blanks ++ [ch] }
          read indent (c.skip 1) g fuel
      else if isBreak ch then read indent c.skipBreak (g.addBreak c.breakText) fuel
      else some (c, g)

end Gap

/-! ## Plain scalars -/

/-- The characters that end a plain scalar inside brackets. -/
def endsInFlow (c : Char) : Bool := c == ',' || c == '[' || c == ']' || c == '\x7b' || c == '\x7d'

/-- One word of a plain scalar and what follows it. Inside brackets a colon may not stand right
before a bracket, a comma or a question mark. -/
def plainWord (flow : Bool) : List Char → Option (List Char × List Char)
  | [] => some ([], [])
  | ch :: rest =>
    if isBlank ch || isBreak ch then some ([], ch :: rest)
    else if flow && ch == ':' && rest.head?.any (fun n => endsInFlow n || n == '?') then none
    else if (ch == ':' && isGap rest.head?) || (flow && endsInFlow ch) then some ([], ch :: rest)
    else (plainWord flow rest).map fun (word, rest) => (ch :: word, rest)

/-- A plain scalar as far as it was read. -/
structure PlainText where
  text : List Char
  cursor : Cursor
  /-- Whether it ended on another line. -/
  broken : Bool

/-- Reads a plain scalar from a gap on. Outside brackets it goes on while lines are indented. -/
def readPlain (flow : Bool) (indent : Nat) (text : List Char) (gap : Gap) (c : Cursor) :
    Nat → Option PlainText
  | 0 => none
  | fuel + 1 =>
    if c.isDocumentBoundary || c.isAt '#' then some ⟨text, c, gap.broken⟩
    else do
      let (word, _) ← plainWord flow c.rest
      let (text, gap) := if word.isEmpty then (text, gap) else (text ++ gap.text ++ word, Gap.empty)
      let c := c.skip word.length
      if c.head.any fun ch => isBlank ch || isBreak ch then
        let (c, gap) ← Gap.read (some indent) c gap c.rest.length
        if !flow && c.column < indent then some ⟨text, c, gap.broken⟩
        else readPlain flow indent text gap c fuel
      else some ⟨text, c, gap.broken⟩

/-! ## Quoted scalars -/

/-- What a single letter after a backslash stands for. -/
def escapeLetter? : Char → Option Char
  | '0' => some '\x00'
  | 'a' => some '\x07'
  | 'b' => some '\x08'
  | 't' | '\t' => some '\t'
  | 'n' => some '\n'
  | 'v' => some '\x0b'
  | 'f' => some '\x0c'
  | 'r' => some '\r'
  | 'e' => some '\x1b'
  | ' ' => some ' '
  | '"' => some '"'
  | '/' => some '/'
  | '\\' => some '\\'
  | 'N' => some '\x85'
  | '_' => some '\xa0'
  | 'L' => some '\u2028'
  | 'P' => some '\u2029'
  | _ => none

/-- How many hexadecimal digits follow a letter after a backslash. -/
def escapeLength? : Char → Option Nat
  | 'x' => some 2
  | 'u' => some 4
  | 'U' => some 8
  | _ => none

/-- The value of a hexadecimal digit. -/
def hexDigit? (c : Char) : Option Nat :=
  if '0' ≤ c ∧ c ≤ '9' then some (c.toNat - '0'.toNat)
  else if 'a' ≤ c ∧ c ≤ 'f' then some (c.toNat - 'a'.toNat + 10)
  else if 'A' ≤ c ∧ c ≤ 'F' then some (c.toNat - 'A'.toNat + 10)
  else none

/-- The value of hexadecimal digits. -/
def hexValue? (digits : List Char) : Option Nat :=
  digits.foldl (fun acc c => acc.bind fun n => (hexDigit? c).map (16 * n + ·)) (some 0)

/-- The character of a code point, which may not be a surrogate. -/
def charOf? (n : Nat) : Option Char :=
  if n < 0xD800 ∨ (0xDFFF < n ∧ n < 0x110000) then some (Char.ofNat n) else none

/-- The character that an escape stands for, and how long the escape is. -/
def escape? (rest : List Char) : Option (Char × Nat) :=
  match rest with
  | letter :: digits =>
    match escapeLength? letter with
    | some n =>
      if digits.length < n then none
      else (hexValue? (digits.take n)).bind fun v => (charOf? v).map fun c => (c, 2 + n)
    | none => (escapeLetter? letter).map fun c => (c, 2)
  | [] => none

/-- The end of a run of quoted characters. -/
inductive RunEnd where
  /-- The closing quote, or a blank, a line end or the end of the document. -/
  | plain
  /-- An escaped line end, which reads as nothing. -/
  | escapedBreak
deriving DecidableEq

/-- Quoted characters up to a gap or the closing quote. -/
def quotedRun (single : Bool) (text : List Char) (c : Cursor) :
    Nat → Option (List Char × Cursor × RunEnd)
  | 0 => some (text, c, .plain)
  | fuel + 1 =>
    match c.rest with
    | [] => some (text, c, .plain)
    | ch :: rest =>
      if isBlank ch || isBreak ch then some (text, c, .plain)
      else if single && ch == '\'' then
        if rest.head? == some '\'' then quotedRun single (text ++ ['\'']) (c.skip 2) fuel
        else some (text, c, .plain)
      else if !single && ch == '"' then some (text, c, .plain)
      else if !single && ch == '\\' then
        if rest.head?.any isBreak then some (text, (c.skip 1).skipBreak, .escapedBreak)
        else do
          let (e, n) ← escape? rest
          quotedRun single (text ++ [e]) (c.skip n) fuel
      else quotedRun single (text ++ [ch]) (c.skip 1) fuel

/-- Reads a quoted scalar after its opening quote. -/
def readQuoted (single : Bool) (text : List Char) (c : Cursor) :
    Nat → Option (List Char × Cursor)
  | 0 => none
  | fuel + 1 =>
    if c.isDocumentBoundary || c.head.isNone then none
    else do
      let (text, c, runEnd) ← quotedRun single text c c.rest.length
      if c.isAt (if single then '\'' else '"') then some (text, c.skip 1)
      else
        let gap := { Gap.empty with broken := runEnd = .escapedBreak }
        let (c, gap) ← Gap.read none c gap c.rest.length
        readQuoted single (text ++ gap.text) c fuel

/-! ## Block scalars -/

/-- What becomes of the line ends after a block scalar. -/
inductive Chomping where
  | strip
  | clip
  | keep
deriving DecidableEq, Repr

/-- The header of a block scalar: what becomes of the line ends, and the indentation, if given. -/
structure BlockHeader where
  chomping : Chomping
  indent : Option Nat

/-- The mark for what becomes of the line ends. -/
def chompingMark? : Option Char → Option Chomping
  | some '+' => some .keep
  | some '-' => some .strip
  | _ => none

/-- The indentation mark, a digit from 1 to 9. -/
def indentMark? (c : Option Char) : Option (Option Nat) :=
  match c.bind fun ch => if ch.isDigit then some (ch.toNat - '0'.toNat) else none with
  | some 0 => none
  | some n => some (some n)
  | none => some none

/-- Reads the header: the two marks in any order. -/
def readHeader (c : Cursor) : Option (BlockHeader × Cursor) :=
  match chompingMark? c.head with
  | some chomping => do
    let c := c.skip 1
    let indent ← indentMark? c.head
    some (⟨chomping, indent⟩, if indent.isSome then c.skip 1 else c)
  | none => do
    let indent ← indentMark? c.head
    if indent.isNone then some (⟨.clip, none⟩, c)
    else
      let c := c.skip 1
      match chompingMark? c.head with
      | some chomping => some (⟨chomping, indent⟩, c.skip 1)
      | none => some (⟨.clip, indent⟩, c)

/-- Reads the empty lines before a line with content; `widest` is the widest indentation so far. A
tab may not stand in the indentation. -/
def readEmptyLines (indent : Option Nat) (widest : Nat) (text : List Char) (c : Cursor) :
    Nat → Option (Nat × List Char × Cursor)
  | 0 => some (widest, text, c)
  | fuel + 1 =>
    let room := match indent with
      | some n => n - c.column
      | none => c.rest.length
    let spaces := ((c.rest.take room).takeWhile (· == ' ')).length
    let c := c.skip spaces
    let widest := max widest c.column
    if c.isAt '\t' && indent.all (c.column < ·) then none
    else if c.head.any isBreak then
      readEmptyLines indent widest (text ++ c.breakText) c.skipBreak fuel
    else some (widest, text, c)

/-- A block scalar as far as it was read: its text, the last line end and the empty lines after
it. -/
structure BlockText where
  text : List Char
  lastBreak : List Char
  emptyLines : List Char
  /-- Whether the last line began with a blank. -/
  blank : Bool
  cursor : Cursor

/-- The line ends between the text so far and a line that begins with a blank, or not. -/
def BlockText.joined (b : BlockText) (literal blank : Bool) : List Char :=
  let between :=
    if !literal && b.lastBreak.head? == some '\n' && !b.blank && !blank then
      (if b.emptyLines.isEmpty then [' '] else [])
    else b.lastBreak
  between ++ b.emptyLines

/-- Reads the lines of a block scalar. -/
def readBlockLines (literal : Bool) (indent : Nat) (b : BlockText) : Nat → Option BlockText
  | 0 => some b
  | fuel + 1 =>
    if b.cursor.column ≠ indent ∨ b.cursor.head.isNone then some b
    else do
      let blank := b.cursor.head.any isBlank
      let (line, c) := b.cursor.takeWhile fun ch => !isBreak ch
      let text := b.text ++ b.joined literal blank ++ line
      let (_, emptyLines, next) ← readEmptyLines (some indent) 0 [] c.skipBreak c.rest.length
      readBlockLines literal indent ⟨text, c.breakText, emptyLines, blank, next⟩ fuel

/-- Reads a block scalar after its mark. `parent` is the indentation around it, -1 outside all
collections. -/
def readBlock (literal : Bool) (parent : Int) (c : Cursor) : Option (List Char × Cursor) := do
  let (header, c) ← readHeader c
  let c ← c.finishLine?
  let given := header.indent.map fun n => if 0 ≤ parent then parent.toNat + n else n
  let (widest, emptyLines, c) ← readEmptyLines given 0 [] c (c.rest.length + 1)
  let indent := given.getD (max (max widest (parent + 1).toNat) 1)
  let b ← readBlockLines literal indent ⟨[], [], emptyLines, false, c⟩ (c.rest.length + 1)
  let tail := match header.chomping with
    | .strip => []
    | .clip => b.lastBreak
    | .keep => b.lastBreak ++ b.emptyLines
  some (b.text ++ tail, b.cursor)

end Gateway.Yaml
