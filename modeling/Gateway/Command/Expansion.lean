import Gateway.Command.Arithmetic
import Gateway.Command.Pattern
import Gateway.Command.Session

/-!
# Expansion

What words stand for when a command is run. A word becomes a row of marks: characters that stay
together, characters that come from values and may be cut, and bounds between words. The marks are
then cut into fields, and fields that are patterns are replaced by the paths they stand for.
-/

namespace Gateway.Shell

open Program

/-- A part of an expanded word. -/
inductive Mark where
  | letter (c : Char) (quoted : Bool)
  /-- A character of a value that is not quoted. -/
  | loose (c : Char)
  /-- There is a word here, if only an empty one. -/
  | shown
  /-- Here one word ends and another begins. -/
  | bound
deriving DecidableEq, Repr

/-- A word while its marks are collected. -/
structure Expanding where
  session : Session
  marks : List Mark

namespace Session

/-- The characters of a value as marks. -/
def valueMarks (quoted : Bool) (cs : List Char) : List Mark :=
  cs.map fun c => if quoted then .letter c true else .loose c

/-- All arguments as marks, with bounds between them. -/
def argumentMarks (s : Session) (quoted : Bool) : List Mark :=
  let marks := s.arguments.map fun a =>
    (if quoted then [Mark.shown] else []) ++ valueMarks quoted a.toList
  (marks.intersperse [.bound]).flatten

/-- The letters of marks. -/
def lettersOfMarks (marks : List Mark) : List Letter :=
  marks.filterMap fun m => match m with
    | .letter c quoted => some (c, quoted)
    | .loose c => some (c, false)
    | .bound => some (' ', true)
    | .shown => none

/-- The marks of a word that stands in place of a value: what is not quoted may be cut. -/
def loosened (quoted : Bool) (marks : List Mark) : List Mark :=
  marks.map fun m => match m with
    | .letter c q => if quoted then .letter c true else if q then m else .loose c
    | .loose c => if quoted then .letter c true else .loose c
    | _ => m

/-- What is said of an expression without a value. -/
def expressionFault (expression : List Char) : Expression.ExpressionFault → String
  | .nonsense => "arithmetic expression: expecting primary: \"" ++ String.ofList expression ++ "\""
  | .zeroDivision =>
    "arithmetic expression: division by zero: \"" ++ String.ofList expression ++ "\""
  | .illegal text => "Illegal number: " ++ String.ofList text

/-- The value of an expression. -/
def evaluate (s : Session) (expression : List Char) : Session × List Char :=
  match Expression.ofText? expression with
  | none => (s.breakOff (expressionFault expression .nonsense), [])
  | some e =>
    match Expression.eval Session.get Session.set e s with
    | .ok (n, s) => (s, (toString n).toList)
    | .error fault => (s.breakOff (expressionFault expression fault), [])

/-- Runs a command line and gives its output. -/
abbrev Outputs := Session → List Char → Session × List Char

/-- Adds the marks of a word's fragments. The number bounds how deep words lie in each other. -/
def expandWith (outputs : Outputs) : Nat → Expanding → Word → Expanding
  | 0, x, _ => x
  | _ + 1, x, [] => x
  | fuel + 1, x, f :: rest =>
    let s := x.session
    let add (s : Session) (marks : List Mark) : Expanding :=
      expandWith outputs fuel ⟨s, x.marks ++ marks⟩ rest
    let wordMarks (s : Session) (q : Option Quoting) (cs : List Char) : Expanding :=
      match q.elim (wordOf? cs) fun q => quotedWord? q cs with
      | some word => expandWith outputs fuel ⟨s, []⟩ word
      | none => ⟨s.breakOff "Bad substitution", []⟩
    if !s.goesOn then x
    else match f with
    | .text cs quoted =>
      add s ((if quoted then [.shown] else []) ++ cs.map fun c => .letter c quoted)
    | .output line quoted =>
      let (s, cs) := outputs s line
      add s (valueMarks quoted cs)
    | .value expression quoted =>
      let inner := wordMarks s (some .document) expression
      let (s, cs) := inner.session.evaluate ((lettersOfMarks inner.marks).map (·.1))
      add s (valueMarks quoted cs)
    | .bad => add (s.breakOff "Bad substitution") []
    | .parameter p quoted =>
      let value := s.parameter? p.name
      let isSet := value.isSome && !((p.name = ['@'] || p.name = ['*']) && s.arguments.isEmpty)
      let name := String.ofList p.name
      let inQuotes := if quoted then some Quoting.operand else none
      let plain (s : Session) : Expanding :=
        if (s.options.contains 'u') && !value.isSome then
          add (s.breakOff (name ++ ": parameter not set")) []
        else if p.name = ['@'] || (p.name = ['*'] && !quoted) then add s (s.argumentMarks quoted)
        else add s (valueMarks quoted (value.getD []))
      -- a colon makes an empty value count as none
      let there := isSet && !(p.operator.startsWith ":" && value = some [])
      if p.length then add s (valueMarks quoted (Nat.toDigits 10 (value.getD []).length))
      else match p.operator.toList.getLast? with
        | none => plain s
        | some '-' =>
          if there then plain s
          else
            let inner := wordMarks s inQuotes p.operand
            add inner.session (loosened quoted inner.marks)
        | some '+' =>
          if there then
            let inner := wordMarks s inQuotes p.operand
            add inner.session (loosened quoted inner.marks)
          else add s []
        | some '=' =>
          if there then plain s
          else
            let inner := wordMarks s inQuotes p.operand
            let cs := (lettersOfMarks inner.marks).map (·.1)
            add (inner.session.set p.name cs) (valueMarks quoted cs)
        | some '?' =>
          if there then plain s
          else
            let inner := wordMarks s inQuotes p.operand
            let cs := (lettersOfMarks inner.marks).map (·.1)
            let text := if cs.isEmpty then
                (if p.operator = ":?" then "parameter not set or null" else "parameter not set")
              else String.ofList cs
            add (inner.session.breakOff (name ++ ": " ++ text)) []
        | some operator =>
          let inner := wordMarks s none p.operand
          let pattern := patternOf (lettersOfMarks inner.marks)
          let longest := p.operator.length = 2
          let cs := value.getD []
          add inner.session (valueMarks quoted
            (if operator = '%' then withoutBack longest pattern cs
              else withoutFront longest pattern cs))

/-- How deep words may lie in each other, and how many fragments a word may have. -/
def wordLimit : Nat := 100000

/-- The marks of a word. -/
def marks (s : Session) (outputs : Outputs) (w : Word) : Expanding :=
  expandWith outputs wordLimit ⟨s, []⟩ w

/-- The letters of a word that is not cut. -/
def letters (s : Session) (outputs : Outputs) (w : Word) : Session × List Letter :=
  let x := s.marks outputs w
  (x.session, lettersOfMarks x.marks)

/-- The text of a word that is not cut. -/
def joined (s : Session) (outputs : Outputs) (w : Word) : Session × List Char :=
  let (s, ls) := s.letters outputs w
  (s, ls.map (·.1))

/-! ## Fields -/

/-- Fields while they are cut: those that are done, latest first; the one that is open, its latest
letter first; and whether the last one was ended by a blank. -/
structure Cutting where
  closed : List (List Letter)
  current : Option (List Letter)
  blank : Bool

/-- The fields without an open one. -/
def Cutting.close (c : Cutting) : Cutting :=
  match c.current with
  | some ls => { c with closed := ls.reverse :: c.closed, current := none }
  | none => c

/-- The fields with another mark. Characters that separate fields are given. -/
def Cutting.step (separators : List Char) (c : Cutting) : Mark → Cutting
  | .letter ch quoted => ⟨c.closed, some ((ch, quoted) :: c.current.getD []), false⟩
  | .shown => ⟨c.closed, some (c.current.getD []), false⟩
  | .bound => { c.close with blank := false }
  | .loose ch =>
    if !separators.contains ch then ⟨c.closed, some ((ch, false) :: c.current.getD []), false⟩
    else if ch = ' ' || ch = '\t' || ch = '\n' then
      if c.current.isSome then { c.close with blank := true } else c
    else if c.current.isSome then { c.close with blank := false }
    else if c.blank then { c with blank := false }
    else { c with closed := [] :: c.closed }

/-- The fields of a row of marks. -/
def fieldsOf (separators : List Char) (marks : List Mark) : List (List Letter) :=
  ((marks.foldl (Cutting.step separators) ⟨[], none, false⟩).close).closed.reverse

/-- The characters that separate fields. -/
def separators (s : Session) : List Char :=
  match (s.binding? "IFS".toList).bind (·.value) with
  | some cs => cs
  | none => [' ', '\t', '\n']

/-! ## Paths -/

/-- Whether a field is a pattern. -/
def isPattern (ls : List Letter) : Bool :=
  ls.any fun (c, quoted) => !quoted && (c = '*' || c = '?' || c = '[')

/-- A field cut at its slashes. -/
def fieldParts (ls : List Letter) : List (List Letter) :=
  ls.foldr (fun l parts => if l.1 = '/' then [] :: parts else match parts with
    | p :: rest => (l :: p) :: rest
    | [] => [[l]]) [[]]

/-- The paths that begin with one and go on as patterns say. -/
def matchingPaths (s : Session) : String → List (List Letter) → List String
  | path, [] => [path]
  | path, part :: rest =>
    let behind (name : String) : String := if rest.isEmpty then name else name ++ "/"
    if !isPattern part then
      matchingPaths s (path ++ behind (String.ofList (part.map (·.1)))) rest
    else
      let names := (s.files.names (s.path (if path.isEmpty then "." else path))).map Raw.ofText
      let pattern := patternOf part
      let hidden := part.head?.any fun l => l.1 = '.'
      (names.filter fun name => matchesAll pattern name.toList
        && (hidden || name.toList.head? ≠ some '.')).flatMap fun name =>
          matchingPaths s (path ++ behind name) rest

/-- What a field stands for: the paths that it is a pattern of, or itself. -/
def globbed (s : Session) (ls : List Letter) : List String :=
  let plain := String.ofList (ls.map (·.1))
  if !isPattern ls || s.options.contains 'f' then [plain]
  else
    let found := (s.matchingPaths "" (fieldParts ls)).filter fun path => s.files.has (s.path path)
    if found.isEmpty then [plain] else found

/-- The words that a word stands for. -/
def expand (s : Session) (outputs : Outputs) (w : Word) : Session × List String :=
  let x := s.marks outputs w
  let s := x.session
  (s, (fieldsOf s.separators x.marks).flatMap s.globbed)

/-- The words that words stand for. -/
def expandAll (s : Session) (outputs : Outputs) (words : List Word) : Session × List String :=
  words.foldl (fun (s, found) w =>
    if s.goesOn then
      let (s, more) := s.expand outputs w
      (s, found ++ more)
    else (s, found)) (s, [])

end Session

end Gateway.Shell
