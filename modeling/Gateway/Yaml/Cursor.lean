/-!
# Places in a document

The rest of a document together with the place it begins at. Lines end at a line feed, a carriage
return, both in this order, a next-line character or one of the two Unicode separators; all but the
separators read as a line feed.
-/

namespace Gateway.Yaml

/-- Whether a character ends a line. -/
def isBreak (c : Char) : Bool :=
  c == '\n' || c == '\r' || c == '\x85' || c == '\u2028' || c == '\u2029'

/-- Whether a character is a space or a tab. -/
def isBlank (c : Char) : Bool := c == ' ' || c == '\t'

/-- Whether a place is at a blank, a line end or the end of the document. -/
def isGap : Option Char → Bool
  | none => true
  | some c => isBlank c || isBreak c

/-- Whether a place is at a line end or the end of the document. -/
def isLineEnd : Option Char → Bool
  | none => true
  | some c => isBreak c

/-- Whether a character belongs to the names of anchors, directives and tags. -/
def isNameChar (c : Char) : Bool := c.isAlphanum || c == '_' || c == '-'

/-- The rest of a document and where it begins. -/
structure Cursor where
  rest : List Char
  /-- How many characters came before. -/
  index : Nat
  line : Nat
  column : Nat
deriving Repr

namespace Cursor

/-- The beginning of a document. -/
def start (text : List Char) : Cursor := ⟨text, 0, 0, 0⟩

/-- The next character. -/
def head (c : Cursor) : Option Char := c.rest.head?

/-- The character so many places ahead. -/
def ahead (c : Cursor) (n : Nat) : Option Char := c.rest[n]?

/-- Whether the next character is the one given. -/
def isAt (c : Cursor) (ch : Char) : Bool := c.head == some ch

/-- The place so many characters further on the same line. -/
def skip (c : Cursor) (n : Nat) : Cursor :=
  { c with rest := c.rest.drop n, index := c.index + n, column := c.column + n }

/-- The beginning of the next line, from a line end. -/
def skipBreak (c : Cursor) : Cursor :=
  match c.rest with
  | '\r' :: '\n' :: rest => ⟨rest, c.index + 2, c.line + 1, 0⟩
  | ch :: rest => if isBreak ch then ⟨rest, c.index + 1, c.line + 1, 0⟩ else c
  | [] => c

/-- What the line end at a place reads as. -/
def breakText (c : Cursor) : List Char :=
  match c.head with
  | some ch =>
    if ch == '\u2028' || ch == '\u2029' then [ch] else if isBreak ch then ['\n'] else []
  | none => []

/-- The characters up to the first that fails a test, and the place after them. None of them may
end a line. -/
def takeWhile (c : Cursor) (p : Char → Bool) : List Char × Cursor :=
  let run := c.rest.takeWhile p
  (run, c.skip run.length)

/-- The place after the blanks. -/
def skipBlanks (c : Cursor) : Cursor := (c.takeWhile isBlank).2

/-- The place at the end of the line. -/
def skipLine (c : Cursor) : Cursor := (c.takeWhile fun ch => !isBreak ch).2

/-- Whether three marks and a gap stand at the beginning of a line. -/
def isDocumentMark (c : Cursor) (mark : Char) : Bool :=
  c.column == 0 && c.ahead 0 == some mark && c.ahead 1 == some mark && c.ahead 2 == some mark
    && isGap (c.ahead 3)

/-- Whether a line begins that separates documents. -/
def isDocumentBoundary (c : Cursor) : Bool := c.isDocumentMark '-' || c.isDocumentMark '.'

/-- The place after blanks and a comment, at the end of the line, and after it; `none` if anything
else stands there. -/
def finishLine? (c : Cursor) : Option Cursor :=
  let c := c.skipBlanks
  let c := if c.isAt '#' then c.skipLine else c
  if isLineEnd c.head then some c.skipBreak else none

end Cursor

end Gateway.Yaml
