import Gateway.Text.Utf8
import Gateway.Yaml.Folding

/-!
# Tokens of a document

A document is read into tokens: the marks of its structure, and scalars. Indentation shows as tokens
that open and close block collections. Whether a scalar is a key is known only at the colon after
it, so its place among the tokens is remembered and the key mark is put there later. A key that
may be put without a question mark stays on one line and below 1024 characters.
-/

namespace Gateway.Yaml

/-- How a scalar is written. -/
inductive Style where
  | plain
  | singleQuoted
  | doubleQuoted
  | literal
  | folded
deriving DecidableEq, Repr

/-- A token. -/
inductive Token where
  | versionDirective (major minor : Nat)
  | tagDirective (handle stem : List Char)
  | documentStart
  | documentEnd
  | blockSequenceStart
  | blockMappingStart
  | blockEnd
  | flowSequenceStart
  | flowSequenceEnd
  | flowMappingStart
  | flowMappingEnd
  | blockEntry
  | flowEntry
  | key
  | value
  | alias (name : List Char)
  | anchor (name : List Char)
  | tag (handle suffix : List Char)
  | scalar (style : Style) (text : List Char)
deriving DecidableEq, Repr

/-- A place where a key may begin that has no question mark. -/
structure KeyPlace where
  /-- Whether nothing but a key may stand there. -/
  required : Bool
  /-- How many tokens come before it. -/
  token : Nat
  index : Nat
  line : Nat
  column : Nat
deriving DecidableEq, Repr

/-- A document as far as it was read. -/
structure Scanner where
  cursor : Cursor
  tokens : Array Token
  /-- The column of the innermost open block collection, -1 outside all. -/
  indent : Int
  /-- The columns of the block collections around it. -/
  outer : List Int
  /-- Whether a key may begin here. -/
  keyAllowed : Bool
  /-- The place where a key may have begun, for every open bracket from the inside out and for the
  text outside brackets last. -/
  keys : List (Option KeyPlace)

namespace Scanner

/-- The beginning of a document. -/
def start (text : List Char) : Scanner := ⟨.start text, #[], -1, [], true, [none]⟩

/-- Whether a bracket is open. -/
def inFlow (s : Scanner) : Bool := 1 < s.keys.length

/-- The scanner with a token added. -/
def push (s : Scanner) (t : Token) : Scanner := { s with tokens := s.tokens.push t }

/-- The scanner with a token put after the first `n`. -/
def insertAt (s : Scanner) (n : Nat) (t : Token) : Scanner :=
  { s with tokens := (s.tokens.toList.take n ++ t :: s.tokens.toList.drop n).toArray }

/-- The scanner so many characters further, with a token added. -/
def pushAfter (s : Scanner) (n : Nat) (t : Token) : Scanner :=
  { s.push t with cursor := s.cursor.skip n }

/-! ## Indentation -/

/-- Opens a block collection at a column, unless one is open there; its token goes after the first
`n`. -/
def openBlock (s : Scanner) (column n : Nat) (t : Token) : Scanner :=
  if s.inFlow || (column : Int) ≤ s.indent then s
  else { s.insertAt n t with indent := column, outer := s.indent :: s.outer }

/-- Closes block collections up to a column, where the collections around are given. -/
def closeFrom (s : Scanner) (column : Int) : List Int → Scanner
  | [] => s
  | around :: outer =>
    if column < s.indent then
      closeFrom { s.push .blockEnd with indent := around, outer } column outer
    else s

/-- Closes the block collections that begin to the right of a column. -/
def closeBlocks (s : Scanner) (column : Int) : Scanner :=
  if s.inFlow then s else s.closeFrom column s.outer

/-! ## Places of keys -/

/-- Whether a key that began at a place can no longer end here. -/
def KeyPlace.isPast (k : KeyPlace) (c : Cursor) : Bool :=
  k.line < c.line || k.index + 1024 < c.index

/-- Forgets the places whose keys can no longer end; one that was required is an error. -/
def dropPast (s : Scanner) : Option Scanner :=
  if s.keys.any fun k => k.any fun k => KeyPlace.isPast k s.cursor && k.required then none
  else some { s with keys := s.keys.map fun k => k.filter fun k => !KeyPlace.isPast k s.cursor }

/-- Forgets the innermost place; one that was required is an error. -/
def dropKey (s : Scanner) : Option Scanner :=
  match s.keys with
  | some k :: rest => if k.required then none else some { s with keys := none :: rest }
  | _ => some s

/-- Remembers that a key may begin here. -/
def saveKey (s : Scanner) : Option Scanner :=
  if !s.keyAllowed then some s
  else do
    let s ← s.dropKey
    let place : KeyPlace := {
      required := !s.inFlow && s.indent == (s.cursor.column : Int)
      token := s.tokens.size
      index := s.cursor.index
      line := s.cursor.line
      column := s.cursor.column }
    some { s with keys := some place :: s.keys.drop 1 }

/-! ## Blanks and comments -/

/-- The place of the next token. A tab may not stand where a key may begin outside brackets. A line
may begin with the mark of the byte order, which takes a column of its own. -/
def skipGap (s : Scanner) : Nat → Scanner
  | 0 => s
  | fuel + 1 =>
    let tabs := s.inFlow || !s.keyAllowed
    let c := if s.cursor.column == 0 && s.cursor.isAt '\uFEFF' then s.cursor.skip 1 else s.cursor
    let (_, c) := c.takeWhile fun ch => ch == ' ' || (tabs && ch == '\t')
    let c := if c.isAt '#' then c.skipLine else c
    if c.head.any isBreak then
      skipGap { s with cursor := c.skipBreak, keyAllowed := s.keyAllowed || !s.inFlow } fuel
    else { s with cursor := c }

/-! ## Directives -/

/-- A number of a version: one to nine digits. -/
def versionNumber? (c : Cursor) : Option (Nat × Cursor) :=
  let (digits, c) := c.takeWhile Char.isDigit
  if digits.isEmpty || 9 < digits.length then none
  else some (digits.foldl (fun n d => 10 * n + (d.toNat - '0'.toNat)) 0, c)

/-- A tag handle: an exclamation mark, letters and another exclamation mark. In a tag only the first
mark is needed; in a directive a handle without the last one is the mark alone. -/
def tagHandle? (directive : Bool) (c : Cursor) : Option (List Char × Cursor) :=
  if !c.isAt '!' then none
  else
    let (name, c) := (c.skip 1).takeWhile isNameChar
    if c.isAt '!' then some ('!' :: name ++ ['!'], c.skip 1)
    else if directive && !name.isEmpty then none
    else some ('!' :: name, c)

/-- Whether a character may stand in a tag. -/
def isTagChar (verbatim : Bool) (c : Char) : Bool :=
  isNameChar c || ";/?:@&=+$.%!~*'()".toList.contains c || (verbatim && ",[]".toList.contains c)

/-- How many bytes the character has that begins with a byte. -/
def byteCount? (n : Nat) : Option Nat :=
  if n < 0x80 then some 1
  else if n / 0x20 = 6 then some 2
  else if n / 0x10 = 14 then some 3
  else if n / 8 = 30 then some 4
  else none

/-- A byte written as a percent sign and two hexadecimal digits. -/
def percentByte? (cs : List Char) : Option Nat :=
  match cs with
  | '%' :: a :: b :: _ => (hexDigit? a).bind fun x => (hexDigit? b).map fun y => 16 * x + y
  | _ => none

/-- The further bytes of a character, each written with a percent sign. -/
def percentTail? : Nat → List Char → Option (List UInt8)
  | 0, _ => some []
  | n + 1, cs => do
    let b ← percentByte? cs
    if b / 0x40 ≠ 2 then none
    else
      let rest ← percentTail? n (cs.drop 3)
      some (UInt8.ofNat b :: rest)

/-- The text of a tag, and the place after it. -/
def tagText (verbatim : Bool) (text : List Char) (c : Cursor) :
    Nat → Option (List Char × Cursor)
  | 0 => some (text, c)
  | fuel + 1 =>
    match c.head with
    | none => some (text, c)
    | some ch =>
      if !isTagChar verbatim ch then some (text, c)
      else if ch == '%' then do
        let first ← percentByte? c.rest
        let count ← byteCount? first
        let tail ← percentTail? (count - 1) (c.rest.drop 3)
        let text := text ++ Text.decodeLossy (UInt8.ofNat first :: tail)
        tagText verbatim text (c.skip (3 * count)) fuel
      else tagText verbatim (text ++ [ch]) (c.skip 1) fuel

/-- The text of a tag, which may not be empty unless a handle came before. -/
def tagText? (verbatim : Bool) (before : List Char) (c : Cursor) : Option (List Char × Cursor) := do
  let (text, after) ← tagText verbatim (before.drop 1) c c.rest.length
  if before.isEmpty && after.index == c.index then none else some (text, after)

/-- A directive; only those for the version and for tag handles are known. -/
def directive (s : Scanner) : Option Scanner := do
  let s ← (s.closeBlocks (-1)).dropKey
  let (name, c) := (s.cursor.skip 1).takeWhile isNameChar
  if !isGap c.head then none
  else
    let c := c.skipBlanks
    let (token, c) ←
      if name == "YAML".toList then do
        let (major, c) ← versionNumber? c
        if !c.isAt '.' then none
        else
          let (minor, c) ← versionNumber? (c.skip 1)
          some (Token.versionDirective major minor, c)
      else if name == "TAG".toList then do
        let (handle, c) ← tagHandle? true c
        if !c.head.any isBlank then none
        else
          let (stem, c) ← tagText? true [] c.skipBlanks
          if !isGap c.head then none else some (Token.tagDirective handle stem, c)
      else none
    let c ← c.finishLine?
    some { s.push token with cursor := c, keyAllowed := false }

/-! ## Tokens -/

/-- A mark between documents. -/
def documentMark (s : Scanner) (t : Token) : Option Scanner := do
  let s ← (s.closeBlocks (-1)).dropKey
  some { s.pushAfter 3 t with keyAllowed := false }

/-- An opening bracket. -/
def openFlow (s : Scanner) (t : Token) : Option Scanner := do
  let s ← s.saveKey
  some { s.pushAfter 1 t with keyAllowed := true, keys := none :: s.keys }

/-- A closing bracket. -/
def closeFlow (s : Scanner) (t : Token) : Option Scanner := do
  let s ← s.dropKey
  some { s.pushAfter 1 t with
    keyAllowed := false, keys := if s.inFlow then s.keys.drop 1 else s.keys }

/-- A comma. -/
def flowEntry (s : Scanner) : Option Scanner := do
  let s ← s.dropKey
  some { s.pushAfter 1 .flowEntry with keyAllowed := true }

/-- A dash before an entry. -/
def blockEntry (s : Scanner) : Option Scanner :=
  if !s.inFlow && !s.keyAllowed then none
  else do
    let s ← (s.openBlock s.cursor.column s.tokens.size .blockSequenceStart).dropKey
    some { s.pushAfter 1 .blockEntry with keyAllowed := true }

/-- A question mark before a key. -/
def questionMark (s : Scanner) : Option Scanner :=
  if !s.inFlow && !s.keyAllowed then none
  else do
    let s ← (s.openBlock s.cursor.column s.tokens.size .blockMappingStart).dropKey
    some { s.pushAfter 1 .key with keyAllowed := !s.inFlow }

/-- A colon before a value. What came before it becomes a key if one may have begun there. -/
def colon (s : Scanner) : Option Scanner :=
  match s.keys with
  | some k :: rest =>
    let s := (s.insertAt k.token .key).openBlock k.column k.token .blockMappingStart
    some { s.pushAfter 1 .value with keys := none :: rest, keyAllowed := false }
  | _ =>
    if !s.inFlow && !s.keyAllowed then none
    else
      let s := s.openBlock s.cursor.column s.tokens.size .blockMappingStart
      some { s.pushAfter 1 .value with keyAllowed := !s.inFlow }

/-- Whether a name may end at a character. -/
def endsName (c : Option Char) : Bool :=
  isGap c || c.any fun ch => "?:,]\x7d%@`".toList.contains ch

/-- An anchor or an alias. -/
def reference (s : Scanner) (t : List Char → Token) : Option Scanner := do
  let s ← s.saveKey
  let (name, c) := (s.cursor.skip 1).takeWhile isNameChar
  if name.isEmpty || !endsName c.head then none
  else some { s.push (t name) with cursor := c, keyAllowed := false }

/-- A tag: one between angle brackets, one with a handle, or one with a suffix alone. -/
def tagAt? (c : Cursor) : Option (Token × Cursor) :=
  if c.ahead 1 == some '<' then do
    let (suffix, c) ← tagText? true [] (c.skip 2)
    if c.isAt '>' then some (.tag [] suffix, c.skip 1) else none
  else do
    let (handle, c) ← tagHandle? false c
    if 2 ≤ handle.length && handle.getLast? == some '!' then
      let (suffix, c) ← tagText? false [] c
      some (.tag handle suffix, c)
    else
      let (suffix, c) ← tagText? false handle c
      some (if suffix.isEmpty then .tag [] ['!'] else .tag ['!'] suffix, c)

/-- A tag before a node. -/
def tag (s : Scanner) : Option Scanner := do
  let s ← s.saveKey
  let (token, c) ← tagAt? s.cursor
  if isGap c.head || (s.inFlow && c.isAt ',') then
    some { s.push token with cursor := c, keyAllowed := false }
  else none

/-- A block scalar. -/
def blockScalar (s : Scanner) (style : Style) : Option Scanner := do
  let s ← s.dropKey
  let (text, c) ← readBlock (style = .literal) s.indent (s.cursor.skip 1)
  some { s.push (.scalar style text) with cursor := c, keyAllowed := true }

/-- A quoted scalar. -/
def quotedScalar (s : Scanner) (style : Style) : Option Scanner := do
  let s ← s.saveKey
  let (text, c) ← readQuoted (style = .singleQuoted) [] (s.cursor.skip 1) s.cursor.rest.length
  some { s.push (.scalar style text) with cursor := c, keyAllowed := false }

/-- A plain scalar. After one that ended on another line a key may begin. -/
def plainScalar (s : Scanner) : Option Scanner := do
  let s ← s.saveKey
  let p ← readPlain s.inFlow (s.indent + 1).toNat [] .empty s.cursor (s.cursor.rest.length + 1)
  some { s.push (.scalar .plain p.text) with cursor := p.cursor, keyAllowed := p.broken }

/-- Characters that no plain scalar begins with. -/
def isIndicator (c : Char) : Bool := "-?:,[]\x7b\x7d#&*!|>'\"%@`".toList.contains c

/-- Whether a plain scalar begins here. -/
def startsPlain (s : Scanner) (ch : Char) : Bool :=
  let next := s.cursor.ahead 1
  !(isGap (some ch) || isIndicator ch)
    || (ch == '-' && !next.any isBlank)
    || (!s.inFlow && (ch == '?' || ch == ':') && !isGap next)

/-- Reads the token that begins with a character. -/
def token (s : Scanner) (ch : Char) : Option Scanner :=
  let c := s.cursor
  let gapNext := isGap (c.ahead 1)
  if c.column == 0 && ch == '%' then s.directive
  else if c.isDocumentMark '-' then s.documentMark .documentStart
  else if c.isDocumentMark '.' then s.documentMark .documentEnd
  else if ch == '[' then s.openFlow .flowSequenceStart
  else if ch == '\x7b' then s.openFlow .flowMappingStart
  else if ch == ']' then s.closeFlow .flowSequenceEnd
  else if ch == '\x7d' then s.closeFlow .flowMappingEnd
  else if ch == ',' then s.flowEntry
  else if ch == '-' && gapNext then s.blockEntry
  else if ch == '?' && (s.inFlow || gapNext) then s.questionMark
  else if ch == ':' && (s.inFlow || gapNext) then s.colon
  else if ch == '*' then s.reference .alias
  else if ch == '&' then s.reference .anchor
  else if ch == '!' then s.tag
  else if ch == '|' && !s.inFlow then s.blockScalar .literal
  else if ch == '>' && !s.inFlow then s.blockScalar .folded
  else if ch == '\'' then s.quotedScalar .singleQuoted
  else if ch == '"' then s.quotedScalar .doubleQuoted
  else if s.startsPlain ch then s.plainScalar
  else none

/-- The end of the document: the open collections are closed. -/
def finish (s : Scanner) : Option Scanner := (s.closeBlocks (-1)).dropKey

/-- Reads tokens to the end, so many at most. -/
def run (s : Scanner) : Nat → Option (List Token)
  | 0 => none
  | fuel + 1 => do
    let s ← (s.skipGap (s.cursor.rest.length + 1)).dropPast
    let s := s.closeBlocks s.cursor.column
    match s.cursor.head with
    | none => (s.finish).map (·.tokens.toList)
    | some ch => (← s.token ch).run fuel

end Scanner

/-- Whether a character may stand in a document. -/
def isAllowed (c : Char) : Bool :=
  let n := c.toNat
  n == 0x09 || n == 0x0A || n == 0x0D || (0x20 ≤ n && n ≤ 0x7E) || n == 0x85
    || (0xA0 ≤ n && n ≤ 0xD7FF) || (0xE000 ≤ n && n ≤ 0xFFFD) || 0x10000 ≤ n

/-- The tokens of a text. -/
def tokens? (text : List Char) : Option (List Token) :=
  if text.all isAllowed then (Scanner.start text).run (text.length + 2) else none

end Gateway.Yaml
