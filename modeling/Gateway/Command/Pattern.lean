import Gateway.Text.Utf8

/-!
# Patterns

Patterns for texts: a star stands for any text, a question mark for any character, and brackets for
one of a set of characters. Quoted characters stand for themselves.
-/

namespace Gateway.Shell

/-- A character of an expanded word, and whether it is quoted. -/
abbrev Letter := Char × Bool

/-- A part of a pattern. -/
inductive PatternPart where
  | anyText
  | anyOne
  | one (c : Char)
  /-- A character between two others, or one outside of all these ranges. -/
  | set (negated : Bool) (ranges : List (Char × Char))
deriving DecidableEq, Repr

/-- The ranges of the class of a name. -/
def classRanges : String → List (Char × Char)
  | "alpha" => [('a', 'z'), ('A', 'Z')]
  | "digit" => [('0', '9')]
  | "alnum" => [('a', 'z'), ('A', 'Z'), ('0', '9')]
  | "upper" => [('A', 'Z')]
  | "lower" => [('a', 'z')]
  | "space" => [('\t', '\r'), (' ', ' ')]
  | "blank" => [('\t', '\t'), (' ', ' ')]
  | "punct" => [('!', '/'), (':', '@'), ('[', Char.ofNat 96), ('\x7b', '~')]
  | "xdigit" => [('0', '9'), ('a', 'f'), ('A', 'F')]
  | "print" => [(' ', '~')]
  | "graph" => [('!', '~')]
  | "cntrl" => [('\x00', '\x1f'), ('\x7f', '\x7f')]
  | _ => []

/-- The ranges of a set up to its closing bracket, and what follows it. A closing bracket that comes
first belongs to the set. The number bounds the length. -/
def setRanges (first : Bool) : Nat → List Letter → Option (List (Char × Char) × List Letter)
  | 0, _ | _, [] => none
  | fuel + 1, (c, quoted) :: rest =>
    if c = ']' && !quoted && !first then some ([], rest)
    else
      let name := (rest.drop 1).takeWhile fun l => l.1.isLower
      let behind := rest.drop (1 + name.length)
      match c, rest.head?.map (·.1), behind with
      | '[', some ':', (':', _) :: (']', _) :: rest =>
        (setRanges false fuel rest).map fun (more, rest) =>
          (classRanges (String.ofList (name.map (·.1))) ++ more, rest)
      | _, _, _ =>
        match rest with
        | ('-', false) :: (d, e) :: rest =>
          if d = ']' && !e then
            (setRanges false fuel ((d, e) :: rest)).map fun (more, rest) =>
              ((c, c) :: ('-', '-') :: more, rest)
          else (setRanges false fuel rest).map fun (more, rest) => ((c, d) :: more, rest)
        | _ => (setRanges false fuel rest).map fun (more, rest) => ((c, c) :: more, rest)

/-- The parts of a pattern whose length the number bounds. -/
def patternFrom : Nat → List Letter → List PatternPart
  | 0, _ | _, [] => []
  | fuel + 1, (c, quoted) :: rest =>
    if quoted then .one c :: patternFrom fuel rest
    else match c with
      | '*' => .anyText :: patternFrom fuel rest
      | '?' => .anyOne :: patternFrom fuel rest
      | '\\' =>
        match rest with
        | (d, _) :: rest => .one d :: patternFrom fuel rest
        | [] => [.one '\\']
      | '[' =>
        let negated := rest.head?.any fun l => (l.1 = '!' || l.1 = '^') && !l.2
        match setRanges true (rest.length + 1) (if negated then rest.tail else rest) with
        | some (ranges, rest) => .set negated ranges :: patternFrom fuel rest
        | none => .one '[' :: patternFrom fuel rest
      | _ => .one c :: patternFrom fuel rest

/-- The pattern of an expanded word. -/
def patternOf (letters : List Letter) : List PatternPart :=
  patternFrom (letters.length + 1) letters

/-- Whether a part stands for a character. -/
def PatternPart.accepts (c : Char) : PatternPart → Bool
  | anyText | anyOne => true
  | one d => c = d
  | set negated ranges => (ranges.any fun (a, b) => a ≤ c && c ≤ b) != negated

/-- Whether some end of a text has a property. -/
def someTail (holds : List Char → Bool) : List Char → Bool
  | [] => holds []
  | c :: rest => holds (c :: rest) || someTail holds rest

/-- Whether a pattern stands for a text. -/
def matchesAll : List PatternPart → List Char → Bool
  | [], cs => cs.isEmpty
  | .anyText :: parts, cs => someTail (matchesAll parts) cs
  | part :: parts, c :: cs => part.accepts c && matchesAll parts cs
  | _ :: _, [] => false

/-- A text without its beginning that a pattern stands for: the shortest one, or the longest. -/
def withoutFront (longest : Bool) (pattern : List PatternPart) (cs : List Char) : List Char :=
  let lengths := List.range (cs.length + 1)
  match (if longest then lengths.reverse else lengths).find? fun n =>
      matchesAll pattern (cs.take n) with
  | some n => cs.drop n
  | none => cs

/-- A text without its end that a pattern stands for: the shortest one, or the longest. -/
def withoutBack (longest : Bool) (pattern : List PatternPart) (cs : List Char) : List Char :=
  let lengths := List.range (cs.length + 1)
  match (if longest then lengths.reverse else lengths).find? fun n =>
      matchesAll pattern (cs.drop (cs.length - n)) with
  | some n => cs.take (cs.length - n)
  | none => cs

end Gateway.Shell
