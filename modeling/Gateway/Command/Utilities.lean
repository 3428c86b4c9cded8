import Gateway.Command.Format
import Gateway.Command.Process
import Gateway.Text.Numeral

/-!
# Programs that read and write text

The standard programs that make text, or pass it on changed.
-/

namespace Gateway.Program

/-! ## Making text -/

/-- Whether an argument of `echo` is an option of the letters n, e and E. -/
def isEchoOption (argument : String) : Bool :=
  match argument.toList with
  | '-' :: c :: letters => (c :: letters).all fun c => c = 'n' || c = 'e' || c = 'E'
  | _ => false

/-- Writes its arguments. Escapes are replaced if the last option among e and E is e. -/
def echo (p : Start) : Run :=
  let options := (p.arguments.takeWhile isEchoOption).flatMap fun s => s.toList.drop 1
  let text := " ".intercalate (p.arguments.dropWhile isEchoOption)
  let replaces := ((options.filter (· ≠ 'n')).getLast?).any (· = 'e')
  let (cs, ending) := if replaces then textRules.replaced text else (text.toList, .goesOn)
  p.answers (cs ++ if options.contains 'n' || ending = .stopped then [] else ['\n'])

/-- The rules of the program for formatted output. -/
def printfRules : FormatRules := ⟨formatRules, true, true, 64, 1⟩

/-- What the program for formatted output says of a number. -/
def NumberFault.text (argument : String) : NumberFault → String
  | missing => "'" ++ argument ++ "': expected a numeric value"
  | incomplete => "'" ++ argument ++ "': value not completely converted"
  | range => "'" ++ argument ++ "': Numerical result out of range"

/-- What is written when something happens on the way through a format. -/
def Happening.write (p : Start) : Happening → Nat × Source
  | text cs => (1, .ofText cs)
  | number argument fault => p.complaint (fault.text argument)
  | invalid spelling => p.complaint (String.ofList spelling ++ ": invalid conversion specification")
  | unfinished => p.complaint "missing hexadecimal number in escape"

/-- The status after what happened on the way through a format. -/
def formatStatus (rules : FormatRules) (happenings : List Happening) : UInt8 :=
  happenings.foldl (fun status h => match h with
    | .text _ => status
    | .number _ _ => max status 1
    | .invalid _ | .unfinished => rules.unknown) 0

/-- Writes its arguments as a format says. -/
def printf (p : Start) : Run :=
  let arguments := match p.arguments with
    | "--" :: rest => rest
    | arguments => arguments
  match arguments with
  | [] => p.fails 1 "missing operand"
  | format :: arguments =>
    let happenings := formatted printfRules format arguments
    ⟨happenings.map (·.write p), .status (formatStatus printfRules happenings), p.files, p.input⟩

/-- Writes a line without end. -/
def yes (p : Start) : Run :=
  let line := if p.arguments.isEmpty then "y" else " ".intercalate p.arguments
  ⟨[(1, ⟨[], line.toList ++ ['\n']⟩)], .status 0, p.files, p.input⟩

/-- A decimal number in units of its last place, and how many places it has. -/
def decimal? (argument : String) : Option (Int × Nat) :=
  let (negative, rest) := signOf argument.toList
  let (whole, rest) := digitRun rest
  let (part, rest) := match rest with
    | '.' :: after => digitRun after
    | _ => ([], rest)
  if (whole.isEmpty && part.isEmpty) || !rest.isEmpty then none
  else
    let n := (digits 10 (whole.length + part.length) 0 (whole ++ part)).1
    some (if negative then -(n : Int) else n, part.length)

/-- A number of units, with so many places, and filled up with zeros to a width. -/
def decimalText (places width : Nat) (n : Int) : List Char :=
  let cs := pointed places false (paddedDigits (places + 1) n.natAbs)
  let sign := if n < 0 then ['-'] else []
  sign ++ List.replicate (width - sign.length - cs.length) '0' ++ cs

/-- The numbers from one to another by steps, so many at most. -/
def stepsTo (last step : Int) : Nat → Int → List Int
  | 0, _ => []
  | most + 1, n =>
    if (0 < step ∧ last < n) ∨ (step < 0 ∧ n < last) then []
    else n :: stepsTo last step most (n + step)

/-- The options of `seq` in front of its numbers: whether all are to be as wide, what stands between
them, and the numbers. -/
def seqOptions (wide : Bool) (between : String) : List String → Option (Bool × String × List String)
  | "-w" :: rest => seqOptions true between rest
  | "-s" :: mark :: rest => seqOptions wide mark rest
  | word :: rest =>
    match word.toList with
    | '-' :: 's' :: mark => seqOptions wide (String.ofList mark) rest
    | '-' :: c :: _ => if c.isDigit || c = '.' then some (wide, between, word :: rest) else none
    | _ => some (wide, between, word :: rest)
  | [] => none

/-- Writes the numbers from one to another, or from one, a line for each. -/
def seq (p : Start) : Run :=
  match seqOptions false "\n" p.arguments with
  | none => p.misused 1
  | some (wide, between, words) =>
    match words.mapM decimal? with
    | none => p.misused 1
    | some numbers =>
      let lines (first step last : Int × Nat) : Run :=
        let places := max first.2 step.2
        let all := max places last.2
        let units (n : Int × Nat) : Int := n.1 * (Nat.pow 10 (all - n.2) : Nat)
        if step.1 = 0 then p.fails 1 "invalid Zero increment value: '0'"
        else
          let most := ((units last - units first) / units step).toNat + 1
          let found := stepsTo (units last) (units step) most (units first)
          let texts (width : Nat) : List (List Char) := found.map fun n =>
            decimalText places width (n / (Nat.pow 10 (all - places) : Nat))
          let width := if wide then (texts 0).foldl (fun w cs => max w cs.length) 0 else 0
          if found.isEmpty then p.silent 0
          else p.answers (((texts width).intersperse between.toList).flatten ++ ['\n'])
      match numbers with
      | [last] => lines (1, 0) (1, 0) last
      | [first, last] => lines first (1, 0) last
      | [first, step, last] => lines first step last
      | _ => p.misused 1

/-! ## Passing text on -/

/-- The sources that a program is to read: its input if it is given no names. -/
def Start.sources (p : Start) (names : List String) : List (String × Except FileFault Source) :=
  if names.isEmpty then [("-", .ok p.input)] else names.map fun name => (name, p.source name)

/-- Whether a program with these names reads its input. -/
def readsInput (names : List String) : Bool := names.isEmpty || names.contains "-"

/-- A run of a program that goes through sources and writes something for each; one that cannot be
read is complained about. -/
def Start.each (p : Start) (names : List String) (fault : String → FileFault → String)
    (write : Source → Source) : Run :=
  let found := p.sources names
  let writes := found.map fun (name, s) => match s with
    | .ok s => (1, write s)
    | .error f => p.complaint (fault name f)
  let status : UInt8 := if found.all fun (_, s) => s.isOk then 0 else 1
  let r : Run := ⟨writes, .status status, p.files, p.input⟩
  if readsInput names then p.drained r else r

/-- What is said of a source that cannot be read. -/
def plainFault (name : String) (f : FileFault) : String := name ++ ": " ++ f.summary

/-- What is said of a source that cannot be opened. -/
def openFault (name : String) (f : FileFault) : String :=
  match f with
  | .isDirectory => "error reading '" ++ name ++ "': " ++ f.summary
  | _ => "cannot open '" ++ name ++ "' for reading: " ++ f.summary

/-- The lines of a text; the last one may lack its end. -/
def linesOf (cs : List Char) : List (List Char) :=
  match cs.splitOn '\n' with
  | [] => []
  | parts => if parts.getLast? = some [] then parts.dropLast else parts

/-- Lines with an end each. -/
def ofLines (lines : List (List Char)) : List Char := lines.flatMap fun l => l ++ ['\n']

/-- A text filled up with blanks in front. -/
def rightAligned (width : Nat) (s : String) : List Char :=
  List.replicate (width - s.length) ' ' ++ s.toList

/-- Writes what it reads, with numbered lines if asked for. -/
def cat (p : Start) : Run :=
  match p.options "nu" "" with
  | none => p.misused 1
  | some (options, names) =>
    p.each names plainFault fun s =>
      if given options 'n' then
        .ofText ((linesOf s.text).zipIdx.flatMap fun (l, i) =>
          rightAligned 6 (toString (i + 1)) ++ ['\t'] ++ l ++ ['\n'])
      else s

/-- The arguments of `head` and `tail` with a leading number turned into an option. -/
def withCount : List String → List String
  | argument :: rest =>
    match argument.toList with
    | '-' :: d :: _ => if d.isDigit then "-n" :: String.ofList (argument.toList.drop 1) :: rest
      else argument :: rest
    | _ => argument :: rest
  | [] => []

/-- What a part of a text is counted in, and how many of that: whether these are counted from the
other end, and how many they are. -/
structure Extent where
  bytes : Bool
  other : Bool
  count : Nat
deriving DecidableEq, Repr

/-- The extent that options ask for; the sign says that it is counted from the other end. -/
def extentOf? (sign : Char) (options : List (Char × String)) : Option Extent :=
  match (options.filter fun o => o.1 = 'n' || o.1 = 'c').getLast? with
  | none => some ⟨false, false, 10⟩
  | some (letter, value) =>
    let cs := value.toList
    let other := cs.head? = some sign
    let number := if cs.head?.any fun c => c = '-' || c = '+' then cs.drop 1 else cs
    (Text.natural? number).map fun n => ⟨letter = 'c', other, n⟩

/-- The beginning of a source. -/
def Extent.head (e : Extent) (s : Source) : List Char :=
  if e.other then
    if e.bytes then s.text.take (s.text.length - e.count)
    else Source.firstLines ((linesOf s.text).length - e.count) s.text
  else if e.bytes then s.take e.count else s.takeLines e.count

/-- The end of a source. -/
def Extent.tail (e : Extent) (s : Source) : List Char :=
  let cs := s.text
  let lines := (linesOf cs).length
  let skipped (n : Nat) : List Char := cs.drop (Source.firstLines n cs).length
  if e.bytes then cs.drop (if e.other then e.count - 1 else cs.length - e.count)
  else skipped (if e.other then e.count - 1 else lines - e.count)

/-- Writes a part of what it reads. -/
def part (p : Start) (sign : Char) (of : Extent → Source → List Char) : Run :=
  let p := { p with arguments := withCount p.arguments }
  match p.options "qv" "nc" with
  | none => p.misused 1
  | some (options, names) =>
    match extentOf? sign options with
    | none => p.misused 1
    | some extent =>
      let found := p.sources names
      let titled := given options 'v' || (names.length > 1 && !given options 'q')
      let writes := found.zipIdx.map fun ((name, s), i) => match s with
        | .ok s =>
          let name := if name = "-" then "standard input" else name
          let title := if titled then
              (if i = 0 then "" else "\n") ++ "==> " ++ name ++ " <==\n" else ""
          (1, Source.ofText (title.toList ++ of extent s))
        | .error f => p.complaint (openFault name f)
      let status : UInt8 := if found.all fun (_, s) => s.isOk then 0 else 1
      let r : Run := ⟨writes, .status status, p.files, p.input⟩
      if readsInput names then p.drained r else r

/-- Writes the beginning of what it reads. -/
def head (p : Start) : Run := part p '-' Extent.head

/-- Writes the end of what it reads. -/
def tail (p : Start) : Run := part p '+' Extent.tail

/-- Writes its lines in reverse order. -/
def tac (p : Start) : Run :=
  p.each p.arguments openFault fun s => .ofText (ofLines (linesOf s.text).reverse)

/-- Writes every line backwards. -/
def rev (p : Start) : Run :=
  p.each p.arguments openFault fun s => .ofText (ofLines ((linesOf s.text).map List.reverse))

/-! ## Exchanging bytes -/

/-- The bytes from one to another. -/
def byteRange (a b : Char) : List Char :=
  (List.range (b.toNat + 1 - a.toNat)).map fun n => Char.ofNat (a.toNat + n)

/-- The bytes of a class. -/
def byteClass? : String → Option (List Char)
  | "lower" => some (byteRange 'a' 'z')
  | "upper" => some (byteRange 'A' 'Z')
  | "alpha" => some (byteRange 'A' 'Z' ++ byteRange 'a' 'z')
  | "digit" => some (byteRange '0' '9')
  | "alnum" => some (byteRange '0' '9' ++ byteRange 'A' 'Z' ++ byteRange 'a' 'z')
  | "space" => some (byteRange '\t' '\r' ++ [' '])
  | "blank" => some ['\t', ' ']
  | "punct" =>
    some ((byteRange '!' '~').filter fun c => !c.isAlphanum)
  | "print" => some (byteRange ' ' '~')
  | "graph" => some (byteRange '!' '~')
  | "cntrl" => some (byteRange '\x00' '\x1f' ++ ['\x7f'])
  | "xdigit" => some (byteRange '0' '9' ++ byteRange 'A' 'F' ++ byteRange 'a' 'f')
  | _ => none

/-- The escapes of a set. -/
def setRules : EscapeRules := ⟨false, false, false, false, false⟩

/-- The bytes that a set names, whose length the number bounds. -/
def setBytes : Nat → List Char → List Char
  | 0, _ | _, [] => []
  | fuel + 1, '[' :: ':' :: rest =>
    let name := rest.takeWhile Char.isLower
    match byteClass? (String.ofList name), rest.drop name.length with
    | some bytes, ':' :: ']' :: rest => bytes ++ setBytes fuel rest
    | _, _ => '[' :: setBytes fuel (':' :: rest)
  | fuel + 1, c :: rest =>
    let (first, rest) := match c with
      | '\\' =>
        -- a backslash before any other character stands for that
        match setRules.escape rest with
        | (.bytes cs, rest) => (cs.getLastD '\\', rest)
        | (_, rest) => ('\\', rest)
      | _ => (c, rest)
    match rest with
    | '-' :: last :: rest => byteRange first last ++ setBytes fuel rest
    | _ => first :: setBytes fuel rest

/-- The bytes that a set names. -/
def setOf (text : String) : List Char := setBytes (text.length + 1) text.toList

/-- What a byte of the first set becomes: the byte at its place in the second, whose last byte
stands for all that are missing. -/
def exchanged (set new : List Char) (c : Char) : Char :=
  match set.idxOf? c with
  | some place => (new[place]?).getD (new.getLast?.getD c)
  | none => c

/-- A text in which a byte of a set stands only once where it stood several times in a row. -/
def squeezed (set : List Char) : List Char → List Char
  | a :: b :: rest =>
    if a = b && set.contains a then squeezed set (b :: rest) else a :: squeezed set (b :: rest)
  | cs => cs

/-- Exchanges bytes, or leaves some out. -/
def tr (p : Start) : Run :=
  match p.options "cCdst" "" with
  | none => p.misused 1
  | some (options, names) =>
    let complement := given options 'c' || given options 'C'
    let first (text : String) : List Char :=
      let set := setOf text
      if complement then (byteRange '\x00' (Char.ofNat 255)).filter fun c => !set.contains c
      else set
    let write (f : Char → List Char) (set : List Char) : Run :=
      let s := p.input.flatMap f
      let s := if given options 's' then { s with text := squeezed set s.text } else s
      p.drained ⟨[(1, s)], .status 0, p.files, p.input⟩
    match given options 'd', given options 's', names with
    | true, false, [set] => write (fun c => if (first set).contains c then [] else [c]) []
    | true, true, [set, kept] =>
      write (fun c => if (first set).contains c then [] else [c]) (setOf kept)
    | false, true, [set] => write (fun c => [c]) (first set)
    | false, _, [set, new] => write (fun c => [exchanged (first set) (setOf new) c]) (setOf new)
    | _, _, _ => p.misused 1

/-! ## Counting and ordering -/

/-- The words of a text. -/
def wordCount (cs : List Char) : Nat :=
  (cs.foldl (fun (n, inside) c =>
    if isBlank c then (n, false) else (if inside then n else n + 1, true)) (0, false)).1

/-- Counts lines, words and bytes. -/
def wc (p : Start) : Run :=
  match p.options "lwcm" "" with
  | none => p.misused 1
  | some (options, names) =>
    let wanted (c : Char) : Bool := options.isEmpty || given options c
    let counts (cs : List Char) : List Nat :=
      (if wanted 'l' then [cs.count '\n'] else []) ++ (if wanted 'w' then [wordCount cs] else [])
        ++ if wanted 'c' || given options 'm' then [cs.length] else []
    let found := p.sources names
    let texts := found.filterMap fun (_, s) => s.toOption.map (·.text)
    let total := counts texts.flatten
    let width := if names.isEmpty && total.length > 1 then 7
      else if total.length = 1 && names.length ≤ 1 then 1
      else (toString texts.flatten.length).length
    let line (ns : List Nat) (name : String) : List Char :=
      ((ns.map fun n => rightAligned width (toString n)).intersperse [' ']).flatten
        ++ (if name.isEmpty then "" else " " ++ name).toList ++ ['\n']
    let writes := found.map fun (name, s) => match s with
      | .ok s => (1, Source.ofText (line (counts s.text) (if names.isEmpty then "" else name)))
      | .error f => p.complaint (plainFault name f)
    let sum := if names.length > 1 then [(1, Source.ofText (line total "total"))] else []
    let status : UInt8 := if found.all fun (_, s) => s.isOk then 0 else 1
    let r : Run := ⟨writes ++ sum, .status status, p.files, p.input⟩
    if readsInput names then p.drained r else r

/-- The value of a line where lines are ordered by number. -/
def lineValue (cs : List Char) : Int :=
  let (negative, rest) := match cs.dropWhile isBlank with
    | '-' :: rest => (true, rest)
    | rest => (false, rest)
  let n := (digits 10 rest.length 0 rest).1
  if negative then -(n : Int) else n

/-- Lines without those that equal the one before them. -/
def withoutRepeats {α : Type} (same : α → α → Bool) : List α → List α
  | a :: b :: rest =>
    if same a b then withoutRepeats same (a :: rest) else a :: withoutRepeats same (b :: rest)
  | xs => xs
  termination_by xs => xs.length

/-- Orders lines. -/
def sort (p : Start) : Run :=
  match p.options "rnu" "" with
  | none => p.misused 2
  | some (options, names) =>
    let found := p.sources names
    match found.find? fun (_, s) => !s.isOk with
    | some (name, .error f) => p.fails 2 ("cannot read: " ++ plainFault name f)
    | _ =>
      let lines := found.flatMap fun (_, s) => linesOf ((s.toOption.map (·.text)).getD [])
      let byText (a b : List Char) : Bool := String.ofList a ≤ String.ofList b
      let before (a b : List Char) : Bool :=
        if given options 'n' then
          lineValue a < lineValue b || (lineValue a = lineValue b && byText a b)
        else byText a b
      let same (a b : List Char) : Bool :=
        if given options 'n' then lineValue a = lineValue b else a = b
      let sorted := lines.mergeSort fun a b => if given options 'r' then before b a else before a b
      let kept := if given options 'u' then withoutRepeats same sorted else sorted
      let r := p.answers (ofLines kept)
      if readsInput names then p.drained r else r

/-- Lines that follow each other and are the same, each with how many there are. -/
def runsOf : List (List Char) → List (Nat × List Char)
  | [] => []
  | l :: rest =>
    match runsOf rest with
    | (n, m) :: more => if l = m then (n + 1, m) :: more else (1, l) :: (n, m) :: more
    | [] => [(1, l)]

/-- Leaves out lines that equal the one before them. -/
def uniq (p : Start) : Run :=
  match p.options "cdu" "" with
  | some (options, names) =>
    p.each (names.take 1) plainFault fun s =>
      let runs := (runsOf (linesOf s.text)).filter fun (n, _) =>
        (!given options 'd' || n > 1) && (!given options 'u' || n = 1)
      .ofText (runs.flatMap fun (n, l) =>
        (if given options 'c' then rightAligned 7 (toString n) ++ [' '] else []) ++ l ++ ['\n'])
  | none => p.misused 1

/-- The places that a list names: single ones and ranges. -/
def placesOf? (text : String) : Option (List (Nat × Option Nat)) :=
  (text.splitOn ",").mapM fun item =>
    match item.splitOn "-" with
    | [n] => (Text.natural? n.toList).map fun n => (n, some n)
    | [a, b] => do
      let first ← if a.isEmpty then some 1 else Text.natural? a.toList
      let last ← if b.isEmpty then some none else (Text.natural? b.toList).map some
      some (first, last)
    | _ => none

/-- Writes parts of every line. -/
def cut (p : Start) : Run :=
  match p.options "s" "dfcb" with
  | none => p.misused 1
  | some (options, names) =>
    let value (c : Char) : Option String := options.lookup c
    match (value 'f' <|> value 'c' <|> value 'b').bind placesOf? with
    | none => p.misused 1
    | some places =>
      let kept {α : Type} (xs : List α) : List α :=
        (xs.zipIdx.filter fun (_, i) =>
          places.any fun (first, last) => first ≤ i + 1 && last.all (i + 1 ≤ ·)).map (·.1)
      let mark := ((value 'd').getD "\t").toList.headD '\t'
      p.each names plainFault fun s =>
        .ofText (ofLines ((linesOf s.text).filterMap fun l =>
          if (value 'f').isNone then some (kept l)
          else if !l.contains mark then if given options 's' then none else some l
          else some (((kept (l.splitOn mark)).intersperse [mark]).flatten)))

/-! ## Names -/

/-- A path without slashes at its end. -/
def withoutSlashes (cs : List Char) : List Char := (cs.reverse.dropWhile (· = '/')).reverse

/-- Writes the last name of a path. -/
def basename (p : Start) : Run :=
  let base (path : String) : List Char :=
    let cs := withoutSlashes path.toList
    if cs.isEmpty then if path.isEmpty then [] else ['/']
    else (cs.reverse.takeWhile (· ≠ '/')).reverse
  match p.arguments with
  | [path] => p.answers (base path ++ ['\n'])
  | [path, ending] =>
    let cs := base path
    let whole := ending.toList.isSuffixOf cs && cs.length > ending.length
    p.answers ((if whole then cs.take (cs.length - ending.length) else cs) ++ ['\n'])
  | _ => p.misused 1

/-- Writes a path without its last name. -/
def dirname (p : Start) : Run :=
  let parent (path : String) : List Char :=
    let cs := withoutSlashes path.toList
    let above := (cs.reverse.dropWhile (· ≠ '/')).reverse
    if cs.isEmpty then if path.isEmpty then ['.'] else ['/']
    else if above.isEmpty then ['.']
    else
      let above := withoutSlashes above
      if above.isEmpty then ['/'] else above
  if p.arguments.isEmpty then p.misused 1
  else p.answers (ofLines (p.arguments.map parent))

/-! ## Waiting -/

/-- Whether a text is a length of time: a number with at most one letter for the unit. -/
def isDuration (argument : String) : Bool :=
  let cs := argument.toList
  let united := cs.getLast?.any fun c => c = 's' || c = 'm' || c = 'h' || c = 'd'
  let number := if united then cs.dropLast else cs
  let (negative, _, fault) := fraction number
  !number.isEmpty && !negative && fault.isNone

/-- Waits, which takes no time here. -/
def sleep (p : Start) : Run :=
  if p.arguments.isEmpty then p.fails 1 "missing operand"
  else match p.arguments.find? fun s => !isDuration s with
    | some bad => p.fails 1 ("invalid time interval '" ++ bad ++ "'")
    | none => p.silent 0

end Gateway.Program
