import Gateway.Command.FileTools
import Gateway.Command.Grammar

/-!
# A shell's state

What a shell keeps between two commands: its variables and functions, the files that it has open,
and how it is to end. Output to other programs lies in pipes, each of which is read when its writer
is done.
-/

namespace Gateway.Shell

open Program

/-- What a file that is open leads to. -/
inductive Channel where
  | pipe (number : Nat)
  /-- One of the files that the shell was started with. -/
  | outer (number : Nat)
  | file (place : Place)
deriving DecidableEq, Repr

/-- Why no further command is run for now. -/
inductive Halt where
  | exit (status : UInt8)
  /-- A signal ends the shell, or only the part of it that runs apart. -/
  | signal (number : Nat) (whole : Bool)
  | leaveFunction (status : UInt8)
  | leaveLoops (levels : Nat)
  /-- Goes on with the next turn of a loop. -/
  | nextTurn (levels : Nat)
deriving DecidableEq, Repr

/-- A variable, which may have no value. -/
structure Variable where
  name : List Char
  value : Option (List Char)
  exported : Bool
  constant : Bool
deriving DecidableEq, Repr

/-- A shell between two commands. -/
structure Session where
  name : String
  /-- The text that stands for the shell's own number. -/
  number : List Char
  arguments : List String
  bindings : List Variable
  /-- The variables to be put back when functions end, those of the innermost function first. -/
  hidden : List (List Variable)
  functions : List (List Char × Command)
  /-- The letters of the options that are set. -/
  options : List Char
  /-- The status of the last command. -/
  status : UInt8
  files : Files
  directory : String
  channels : List (Nat × Channel)
  pipes : List (Nat × Source)
  /-- What was written to the files that the shell was started with, latest first. -/
  written : List (Nat × Source)
  /-- What is run at signals and in the end. -/
  traps : List (String × List Char)
  /-- What is to be run for signals that came. -/
  pending : List (List Char)
  /-- The status of the last command that was run in the background. -/
  behind : Option UInt8
  /-- How many loops the current command lies in. -/
  loops : Nat
  halt : Option Halt

namespace Session

/-- The text that stands for the number of the last command in the background. -/
def behindNumber : List Char := ['3']

/-- A shell as it is started. -/
def new (p : Start) (name : String) (arguments : List String) : Session where
  name := name
  number := ['2']
  arguments := arguments
  bindings :=
    [("OPTIND", "1"), ("PS1", "# "), ("PS2", "> "), ("PS4", "+ ")].map
        (fun (name, value) => ⟨name.toList, some value.toList, false, false⟩)
      ++ p.environment.map fun (name, value) => ⟨name.toList, some value.toList, true, false⟩
  hidden := []
  functions := []
  options := []
  status := 0
  files := p.files
  directory := p.directory
  channels := [(0, .pipe 0), (1, .outer 1), (2, .outer 2)]
  pipes := [(0, p.input)]
  written := []
  traps := []
  pending := []
  behind := none
  loops := 0
  halt := none

/-- Whether commands are run. -/
def goesOn (s : Session) : Bool := s.halt.isNone

/-- The shell with another status. -/
def withStatus (s : Session) (status : UInt8) : Session := { s with status }

/-- The shell ends with a status. -/
def exit (s : Session) (status : UInt8) : Session :=
  { s with status, halt := some (.exit status) }

/-- The path of a raw name as it is seen from the directory. -/
def path (s : Session) (name : String) : String :=
  let text := Raw.text name.toList
  if text.startsWith "/" || text.isEmpty then text else Path.join s.directory text

/-! ## Writing and reading -/

/-- The content of a pipe. -/
def pipe (s : Session) (number : Nat) : Source := (s.pipes.lookup number).getD .empty

/-- The shell with another content of a pipe. -/
def setPipe (s : Session) (number : Nat) (content : Source) : Session :=
  { s with pipes := (number, content) :: s.pipes.filter (·.1 ≠ number) }

/-- A new pipe with some content. -/
def newPipe (s : Session) (content : Source) : Nat × Session :=
  let number := s.pipes.foldl (fun n p => max n (p.1 + 1)) 0
  (number, s.setPipe number content)

/-- Opens a channel under a number, or closes it. -/
def attach (s : Session) (file : Nat) (channel : Option Channel) : Session :=
  { s with channels := (channel.map (file, ·)).toList ++ s.channels.filter (·.1 ≠ file) }

/-- Writes to a file that is open; the flag says whether that went well. -/
def write (s : Session) (file : Nat) (content : Source) : Session × Bool :=
  if content.isEmpty then (s, true)
  else match s.channels.lookup file with
    | none => (s, false)
    | some (.pipe number) => (s.setPipe number ((s.pipe number).append content), true)
    | some (.outer number) => ({ s with written := (number, content) :: s.written }, true)
    | some (.file place) =>
      match s.files.entry? place with
      | some (.file old) =>
        ({ s with files := s.files.put place (.file (old ++ Raw.bytes content.text)) }, true)
      | some (.dummy .full) => (s, false)
      | _ => (s, true)

/-- Complains. -/
def complain (s : Session) (text : String) : Session :=
  (s.write 2 (.ofText (s.name ++ ": 1: " ++ text ++ "\n").toList)).1

/-- Complains and ends the shell. -/
def breakOff (s : Session) (text : String) : Session := (s.complain text).exit 2

/-- Writes the output of one of the shell's own commands, which then has a status. -/
def say (s : Session) (command : String) (text : List Char) (status : UInt8) : Session :=
  match s.write 1 (.ofText text) with
  | (s, true) => s.withStatus status
  | (s, false) => (s.complain (command ++ ": " ++ command ++ ": I/O error")).withStatus 1

/-- What a file that is open has to be read. -/
def input (s : Session) (file : Nat) : Source :=
  match s.channels.lookup file with
  | some (.pipe number) => s.pipe number
  | _ => .empty

/-- The shell after something of a file was read. -/
def afterReading (s : Session) (file : Nat) (rest : Source) : Session :=
  match s.channels.lookup file with
  | some (.pipe number) => s.setPipe number rest
  | _ => s

/-! ## Variables -/

/-- A variable of a name. -/
def binding? (s : Session) (name : List Char) : Option Variable :=
  s.bindings.find? (·.name = name)

/-- The value of a variable; one that is not set is empty. -/
def get (s : Session) (name : List Char) : List Char :=
  ((s.binding? name).bind (·.value)).getD []

/-- The shell with another variable of the same name. -/
def put (s : Session) (v : Variable) : Session :=
  { s with bindings := v :: s.bindings.filter (·.name ≠ v.name) }

/-- Sets a variable; a constant cannot be set, which ends the shell. -/
def set (s : Session) (name value : List Char) : Session :=
  match s.binding? name with
  | some v =>
    if v.constant then s.breakOff (String.ofList name ++ ": is read only")
    else s.put { v with value := some value }
  | none => s.put ⟨name, some value, s.options.contains 'a', false⟩

/-- The variables that are handed on. -/
def environment (s : Session) : List (String × String) :=
  s.bindings.filterMap fun v =>
    if v.exported then v.value.map fun value => (String.ofList v.name, String.ofList value)
    else none

/-- The value of a parameter; `none` if it is not set. -/
def parameter? (s : Session) (name : List Char) : Option (List Char) :=
  let joined (between : List Char) : List Char :=
    ((s.arguments.map String.toList).intersperse between).flatten
  match name with
  | ['$'] => some s.number
  | ['?'] => some (Nat.toDigits 10 s.status.toNat)
  | ['#'] => some (Nat.toDigits 10 s.arguments.length)
  | ['-'] => some s.options
  | ['!'] => s.behind.map fun _ => behindNumber
  | ['@'] => some (joined [' '])
  | ['*'] =>
    some (joined (match (s.binding? "IFS".toList).bind (·.value) with
      | some cs => cs.take 1
      | none => [' ']))
  | ['0'] => some s.name.toList
  | _ =>
    match Text.natural? name with
    | some n => (s.arguments[n - 1]?).map String.toList
    | none => (s.binding? name).bind (·.value)

/-! ## Redirections -/

/-- The channel that a path leads to which stands for a file that is open. -/
def standing? (s : Session) (target : String) : Option (Option Channel) :=
  let number : Option Nat := match target with
    | "/dev/stdin" => some 0
    | "/dev/stdout" => some 1
    | "/dev/stderr" => some 2
    | _ => if target.startsWith "/dev/fd/" then Text.natural? (target.toList.drop 8) else none
  number.map fun n => s.channels.lookup n

/-- What is said of a file that cannot be made. -/
def creationFault (target : String) (f : FileFault) : String :=
  "cannot create " ++ target ++ ": " ++ match f with
    | .notFound => "Directory nonexistent"
    | _ => f.summary

/-- Opens a file to write to, after what is there or in place of it, unless it is to be kept. -/
def openOutput (s : Session) (target : String) (append kept : Bool) :
    Except String (Session × Channel) :=
  let emptied (place : Place) : Session := { s with files := s.files.put place (.file []) }
  match s.standing? target with
  | some (some channel) => .ok (s, channel)
  | some none => .error (creationFault target .notFound)
  | none =>
    let path := s.path target
    match s.files.fileTarget path with
    | .error f => .error (creationFault target f)
    | .ok place =>
      match s.files.entry? place with
      | some (.file _) =>
        if kept then .error (creationFault target .occupied)
        else .ok (if append then s else emptied place, .file place)
      | some _ => .ok (s, .file place)
      | none => .ok (emptied place, .file place)

/-- Opens a file to read from. -/
def openInput (s : Session) (target : String) : Except String (Session × Channel) :=
  let cannot (why : String) : String := "cannot open " ++ target ++ ": " ++ why
  match s.standing? target with
  | some (some channel) => .ok (s, channel)
  | some none => .error (cannot "No such file")
  | none =>
    let p : Start := ⟨"", [], .empty, s.files, s.directory, []⟩
    match p.source target with
    | .ok content =>
      let (number, s) := s.newPipe content
      .ok (s, .pipe number)
    | .error .isDirectory =>
      let (number, s) := s.newPipe .empty
      .ok (s, .pipe number)
    | .error .notFound => .error (cannot "No such file")
    | .error f => .error (cannot f.summary)

/-- Lays a file as a redirection says. -/
def redirect (s : Session) (r : Redirect) (target : List Char) : Except String Session :=
  let name := String.ofList target
  let opened (outcome : Except String (Session × Channel)) : Except String Session :=
    outcome.map fun (s, channel) => s.attach r.file (some channel)
  match r.text with
  | ">&" | "<&" =>
    if name = "-" then .ok (s.attach r.file none)
    else match Text.natural? target with
      | none => .error "Bad fd number"
      | some n =>
        match s.channels.lookup n with
        | some channel => .ok (s.attach r.file (some channel))
        | none => .error (name ++ ": Bad file descriptor")
  | "<" => opened (s.openInput name)
  | ">>" => opened (s.openOutput name true false)
  | "<>" => opened (s.openInput name)
  | "<<" | "<<-" =>
    let (number, s) := s.newPipe (.ofText target)
    .ok (s.attach r.file (some (.pipe number)))
  | ">" => opened (s.openOutput name false (s.options.contains 'C'))
  | _ => opened (s.openOutput name false false)

/-! ## Shells in shells -/

/-- A shell that begins as another one and runs apart from it. -/
def apart (s : Session) : Session := { s with traps := [], loops := 0 }

/-- The shell after another one that ran apart from it: files and pipes are shared, and a signal to
the shell as a whole is felt. -/
def after (s : Session) (t : Session) : Session :=
  let s := { s with files := t.files, pipes := t.pipes, written := t.written }
  match t.halt with
  | some (.exit n) => s.withStatus n
  | some (.signal n true) => { s with halt := some (.signal n true) }
  | some (.signal n false) => s.withStatus (UInt8.ofNat (128 + n))
  | some (.leaveFunction n) => s.withStatus n
  | _ => s.withStatus t.status

end Session

end Gateway.Shell
