import Gateway.Command.Raw
import Gateway.Files

/-!
# Processes

What a program is started with and what it leaves: a function from arguments, input and files to
output, files and a status. What is written to different files is kept in its order.
-/

namespace Gateway.Program

/-- Something to be read: some text, and then another again and again. -/
structure Source where
  text : List Char
  /-- Nothing, if the source has an end. -/
  cycle : List Char
deriving DecidableEq, Repr

namespace Source

/-- Nothing to be read. -/
def empty : Source := ⟨[], []⟩

/-- A text and no more. -/
def ofText (text : List Char) : Source := ⟨text, []⟩

/-- Whether there is nothing to be read. -/
def isEmpty (s : Source) : Bool := s.text.isEmpty && s.cycle.isEmpty

/-- The first so many bytes of a source. -/
def take (n : Nat) (s : Source) : List Char :=
  let missing := n - s.text.length
  s.text.take n ++
    if s.cycle.isEmpty then [] else ((List.replicate missing s.cycle).flatten).take missing

/-- One source after another; nothing comes after one without end. -/
def append (a b : Source) : Source := if a.cycle.isEmpty then ⟨a.text ++ b.text, b.cycle⟩ else a

/-- Sources one after the other. -/
def join (sources : List Source) : Source := sources.foldl append empty

/-- The source with every byte exchanged. -/
def flatMap (f : Char → List Char) (s : Source) : Source := ⟨s.text.flatMap f, s.cycle.flatMap f⟩

/-- So many lines of a text at most. -/
def firstLines : Nat → List Char → List Char
  | 0, _ => []
  | _ + 1, [] => []
  | n + 1, c :: rest => c :: firstLines (if c = '\n' then n else n + 1) rest

/-- The first so many lines of a source. -/
def takeLines (n : Nat) (s : Source) : List Char :=
  firstLines n (s.text ++ (List.replicate n s.cycle).flatten)

end Source

/-- How a program ends. -/
inductive Exit where
  | status (n : UInt8)
  | signal (n : Nat)
deriving DecidableEq, Repr

/-- What a program is started with. -/
structure Start where
  /-- The name under which it is started. -/
  name : String
  arguments : List String
  input : Source
  files : Files
  /-- Where paths begin that do not begin at the root. -/
  directory : String
  /-- The variables that are handed on. -/
  environment : List (String × String)

/-- What a program leaves. -/
structure Run where
  /-- What it wrote, each with the number of the file. -/
  writes : List (Nat × Source)
  exit : Exit
  files : Files
  /-- What it left to be read. -/
  rest : Source

namespace Start

/-- The path of a name as it is seen from the directory. -/
def path (p : Start) (name : String) : String :=
  let text := Raw.text name.toList
  if text.startsWith "/" || text.isEmpty then text else Path.join p.directory text

/-- A run that writes nothing. -/
def silent (p : Start) (status : UInt8) : Run := ⟨[], .status status, p.files, p.input⟩

/-- A run that writes a text. -/
def answers (p : Start) (text : List Char) : Run :=
  ⟨[(1, .ofText text)], .status 0, p.files, p.input⟩

/-- A complaint of a program. -/
def complaint (p : Start) (text : String) : Nat × Source :=
  (2, .ofText (p.name ++ ": " ++ text ++ "\n").toList)

/-- A run that only complains. -/
def fails (p : Start) (status : UInt8) (text : String) : Run :=
  ⟨[p.complaint text], .status status, p.files, p.input⟩

/-- A program that reads what is to be read. -/
def drained (p : Start) (r : Run) : Run :=
  { r with rest := if p.input.cycle.isEmpty then .empty else r.rest }

/-- What a name has to be read: a dash stands for the input. -/
def source (p : Start) (name : String) : Except FileFault Source :=
  if name = "-" || name = "/dev/stdin" then .ok p.input
  else match p.files.find (p.path name) with
    | .error fault => .error fault
    | .ok (_, .directory) => .error .isDirectory
    | .ok (_, .file content) => .ok (.ofText (Raw.ofBytes content))
    | .ok (_, .dummy .null) | .ok (_, .program) => .ok .empty
    | .ok (_, .dummy _) => .ok ⟨[], ['\x00']⟩

end Start

/-! ## Options -/

/-- The options of one argument's letters: each with its value, if it takes one. The number bounds
the letters. -/
def letterOptions (plain valued : List Char) :
    List Char → List String → Option (List (Char × String) × List String)
  | [], rest => some ([], rest)
  | c :: letters, rest =>
    if valued.contains c then
      match letters, rest with
      | [], value :: rest => some ([(c, value)], rest)
      | [], [] => none
      | _, _ => some ([(c, String.ofList letters)], rest)
    else if plain.contains c then
      (letterOptions plain valued letters rest).map fun (more, rest) => ((c, "") :: more, rest)
    else none

/-- The options among arguments, and the others; `none` if one is not known or lacks its value. The
number bounds the arguments. -/
def optionsOf (plain valued : List Char) :
    Nat → List String → Option (List (Char × String) × List String)
  | 0, arguments => some ([], arguments)
  | _ + 1, [] => some ([], [])
  | _ + 1, "--" :: rest => some ([], rest)
  | fuel + 1, argument :: rest =>
    match argument.toList with
    | '-' :: c :: letters => do
      let (own, rest) ← letterOptions plain valued (c :: letters) rest
      let (more, names) ← optionsOf plain valued fuel rest
      some (own ++ more, names)
    | _ => do
      let (more, names) ← optionsOf plain valued fuel rest
      some (more, argument :: names)

/-- The options of a program, and its other arguments. -/
def Start.options (p : Start) (plain valued : String) :
    Option (List (Char × String) × List String) :=
  optionsOf plain.toList valued.toList (p.arguments.length + 1) p.arguments

/-- Whether an option is given. -/
def given (options : List (Char × String)) (c : Char) : Bool := options.any (·.1 = c)

/-- A run that complains about the arguments. -/
def Start.misused (p : Start) (status : UInt8) : Run :=
  ⟨[p.complaint "invalid arguments"], .status status, p.files, p.input⟩

end Gateway.Program
