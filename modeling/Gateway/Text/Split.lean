/-!
# Lines and fields

Cutting text into lines and into fields. A line ends at a line feed; a carriage return right before
the line feed belongs to the line end, so `lines` drops it. Text after the last line feed is a line
of its own if there is any, and keeps a trailing carriage return.
-/

namespace Gateway.Text

/-- A line read so far, latest character first, as it stands before a line feed. -/
def closeLine : List Char → List Char
  | '\r' :: line => line.reverse
  | line => line.reverse

/-- The lines of the text, the first of which begins with the reversed `line`. -/
def linesFrom : List Char → List Char → List (List Char)
  | line, [] => if line.isEmpty then [] else [line.reverse]
  | line, c :: rest =>
    if c = '\n' then closeLine line :: linesFrom [] rest else linesFrom (c :: line) rest

/-- The lines of a text. -/
def lines (cs : List Char) : List (List Char) := linesFrom [] cs

/-- The text before and after the first `sep`, if it occurs. -/
def cutAt (sep : Char) : List Char → Option (List Char × List Char)
  | [] => none
  | c :: rest =>
    if c = sep then some ([], rest)
    else (cutAt sep rest).map fun (before, after) => (c :: before, after)

/-- The fields that the elements satisfying `p` separate; always at least one. -/
def fields {α : Type} (p : α → Bool) : List α → List (List α)
  | [] => [[]]
  | c :: rest =>
    if p c then [] :: fields p rest
    else match fields p rest with
      | [] => [[c]]
      | f :: more => (c :: f) :: more

/-- Whether `pat` occurs in a list. -/
def occursIn {α : Type} [BEq α] (pat : List α) : List α → Bool
  | [] => pat.isEmpty
  | c :: rest => pat.isPrefixOf (c :: rest) || occursIn pat rest

/-- Every occurrence of the non-empty `pat` at the start of the text dropped. -/
def dropRepeated (pat cs : List Char) : List Char :=
  if _h : pat ≠ [] ∧ pat.isPrefixOf cs = true then dropRepeated pat (cs.drop pat.length) else cs
termination_by cs.length
decreasing_by
  obtain ⟨hne, hp⟩ := _h
  have hlen : pat.length ≤ cs.length := (List.isPrefixOf_iff_prefix.mp hp).length_le
  have hpos : 0 < pat.length := List.length_pos_iff.mpr hne
  simp only [List.length_drop]
  omega

/-- A text with its ASCII capitals made small. -/
def lowered (cs : List Char) : List Char := cs.map Char.toLower

/-- Whether two texts agree up to the case of ASCII letters. -/
def sameLetters (a b : List Char) : Bool := lowered a == lowered b

/-- Parts joined by a separator. -/
def joined (sep : String) (parts : List String) : String := sep.intercalate parts

end Gateway.Text
