/-!
# Command line

The arguments of the daemon: a configuration file, and switches for detaching and for debug
messages. An option's value may stand behind it or be attached to it; a value behind it counts only
when the next known option or the end of the line is reached.
-/

namespace Gateway

/-- What the command line asks for. -/
structure CommandLine where
  config : Option String
  daemonize : Bool
  verbose : Bool
deriving DecidableEq, Repr

/-- Why the daemon does not run: a text was asked for, or the arguments are wrong. -/
inductive CommandLineEnd where
  | displayHelp
  | displayVersion
  | unknownArgument
  | invalidValue
  /-- An option given twice. -/
  | argumentConflict
  /-- A value attached to a switch. -/
  | tooManyValues
deriving DecidableEq, Repr

/-- The name of an ending. -/
def CommandLineEnd.label : CommandLineEnd → String
  | displayHelp => "DisplayHelp"
  | displayVersion => "DisplayVersion"
  | unknownArgument => "UnknownArgument"
  | invalidValue => "InvalidValue"
  | argumentConflict => "ArgumentConflict"
  | tooManyValues => "TooManyValues"

namespace CommandLine

/-- Nothing asked for. -/
def initial : CommandLine := ⟨none, false, false⟩

/-- An option. -/
inductive Flag where
  | config
  | daemonize
  | verbose
  | help
  | version
deriving DecidableEq, Repr

/-- The option of a letter. -/
def ofLetter? : Char → Option Flag
  | 'c' => some .config
  | 'd' => some .daemonize
  | 'v' => some .verbose
  | 'h' => some .help
  | 'V' => some .version
  | _ => none

/-- The option of a name. -/
def ofName? (name : List Char) : Option Flag :=
  [("config", Flag.config), ("daemonize", .daemonize), ("verbose", .verbose), ("help", .help),
    ("version", .version)].findSome? fun (known, o) => if known.toList = name then some o else none

/-- The arguments read so far. -/
structure Progress where
  line : CommandLine
  /-- The configuration option that stands last, with the value behind it if one came yet. -/
  pending : Option (Option (List Char))
deriving DecidableEq, Repr

/-- Takes the file of the configuration option, once and not empty. -/
def takeConfig (l : CommandLine) (value : List Char) :
    Except CommandLineEnd CommandLine :=
  if l.config.isSome then .error .argumentConflict
  else if value.isEmpty then .error .invalidValue
  else .ok { l with config := some (String.ofList value) }

namespace Progress

/-- Settles the option that stands last. -/
def settle (p : Progress) : Except CommandLineEnd Progress :=
  match p.pending with
  | none => .ok p
  | some none => .error .invalidValue
  | some (some value) => (takeConfig p.line value).map (⟨·, none⟩)

/-- A switch. -/
def switch (p : Progress) (o : Flag) : Except CommandLineEnd Progress := do
  let p ← p.settle
  match o with
  | .help => .error .displayHelp
  | .version => .error .displayVersion
  | .daemonize =>
    if p.line.daemonize then .error .argumentConflict
    else .ok { p with line := { p.line with daemonize := true } }
  | .verbose =>
    if p.line.verbose then .error .argumentConflict
    else .ok { p with line := { p.line with verbose := true } }
  | .config => .ok { p with pending := some none }

/-- The configuration option with the value attached to it, if any. -/
def config (p : Progress) (attached : Option (List Char)) : Except CommandLineEnd Progress := do
  let p ← p.settle
  match attached with
  | none => .ok { p with pending := some none }
  | some value => (takeConfig p.line value).map (⟨·, none⟩)

/-- Letters behind one dash. What stands behind the letter of an option with a value is its value.
-/
def letters (p : Progress) : List Char → Except CommandLineEnd Progress
  | [] => .ok p
  | c :: rest =>
    match ofLetter? c with
    | none => .error .unknownArgument
    | some .config =>
      p.config (match rest with
        | [] => none
        | '=' :: value => some value
        | value => some value)
    | some o => do letters (← p.switch o) rest

/-- A name behind two dashes. -/
def name (p : Progress) (text : List Char) : Except CommandLineEnd Progress :=
  let attached := match text.dropWhile (· ≠ '=') with
    | [] => none
    | _ :: value => some value
  match ofName? (text.takeWhile (· ≠ '=')) with
  | none => .error .unknownArgument
  | some .config => p.config attached
  | some o => if attached.isSome then .error .tooManyValues else p.switch o

/-- An argument that is no option: the value that is waited for, or one too many. -/
def plain (p : Progress) (text : List Char) : Except CommandLineEnd Progress :=
  match p.pending with
  | some none => .ok { p with pending := some (some text) }
  | _ => .error .unknownArgument

/-- Reads the arguments. Behind two dashes alone no argument is known. -/
def run (p : Progress) : List (List Char) → Except CommandLineEnd Progress
  | [] => p.settle
  | [['-', '-']] => p.settle
  | ['-', '-'] :: _ => .error .unknownArgument
  | ('-' :: '-' :: text) :: rest => do run (← p.name text) rest
  | ['-'] :: rest => do run (← p.plain ['-']) rest
  | ('-' :: text) :: rest => do run (← p.letters text) rest
  | text :: rest => do run (← p.plain text) rest

end Progress

/-- What the arguments ask for. -/
def parse (arguments : List String) : Except CommandLineEnd CommandLine :=
  (Progress.run ⟨initial, none⟩ (arguments.map String.toList)).map (·.line)

end CommandLine

end Gateway
