import Gateway.Command.Expansion

/-!
# The shell's own commands

The commands that a shell runs itself, since they are about the shell, or to save a program.
-/

namespace Gateway.Shell

open Program

/-! ## Signals -/

/-- The names of signals from the first on; one without a name has its number. Those from 34 on
are counted from both ends. -/
def signalNames : List String :=
  ["HUP", "INT", "QUIT", "ILL", "TRAP", "ABRT", "BUS", "FPE", "KILL", "USR1", "SEGV", "USR2",
    "PIPE", "ALRM", "TERM", "16", "CHLD", "CONT", "STOP", "TSTP", "TTIN", "TTOU", "URG", "XCPU",
    "XFSZ", "VTALRM", "PROF", "WINCH", "IO", "PWR", "SYS", "32", "33", "RTMIN"]
    ++ (List.range 15).map (fun n => "RTMIN+" ++ toString (n + 1))
    ++ (List.range 14).map (fun n => "RTMAX-" ++ toString (14 - n)) ++ ["RTMAX"]

/-- The number of a signal, whose name may be in small letters; zero is the end of the shell. -/
def signal? (name : String) : Option Nat :=
  let name := name.toUpper
  if name = "EXIT" then some 0
  else match Text.natural? name.toList with
    | some n => if n ≤ 64 then some n else none
    | none => (signalNames.idxOf? name).map (· + 1)

/-- The name of a signal, or of the signal that a status tells of. -/
def signalName? (n : Nat) : Option String :=
  if n = 0 then none
  else if n ≤ 64 then signalNames[n - 1]?
  else if 128 < n then signalNames[n - 129]?
  else none

/-- Signals that are left unheeded unless asked for: a child's end, going on, urgent data and a new
window size. -/
def unheeded : List Nat := [0, 17, 18, 23, 28]

/-- What is said of a program that a signal ended. -/
def signalText : Nat → String
  | 1 => "Hangup"
  | 3 => "Quit"
  | 4 => "Illegal instruction"
  | 6 => "Aborted"
  | 8 => "Floating point exception"
  | 9 => "Killed"
  | 10 => "User defined signal 1"
  | 11 => "Segmentation fault"
  | 12 => "User defined signal 2"
  | 14 => "Alarm clock"
  | 15 => "Terminated"
  | _ => ""

namespace Session

/-- Sends a signal to the process of a number, which has to be the shell itself. -/
def send (s : Session) (signal : Nat) (target : String) : Session :=
  if target.toList ≠ s.number then
    if (Text.natural? target.toList).isSome then
      (s.complain "kill: No such process\n").withStatus 1
    else (s.complain ("kill: Illegal number: " ++ target)).withStatus 2
  else match s.traps.lookup (toString signal) with
    | some action =>
      if signal = 9 then { s with halt := some (.signal signal true) }
      else { s with pending := s.pending ++ [action], status := 0 }
    | none =>
      if unheeded.contains signal then s.withStatus 0
      else { s with halt := some (.signal signal true) }

/-- Names the signals, or the one of a number. -/
def nameSignals (s : Session) (words : List String) : Session :=
  match words with
  | [] => s.say "kill" (("0" :: signalNames).flatMap fun name => name.toList ++ ['\n']) 0
  | word :: _ =>
    match (Text.natural? word.toList).map signalName? with
    | some (some name) => s.say "kill" (name.toList ++ ['\n']) 0
    | some none =>
      (s.complain ("kill: invalid signal number or exit status: " ++ word)).withStatus 2
    | none => (s.complain ("kill: Illegal number: " ++ word)).withStatus 2

/-- Sends a signal as the arguments say. -/
def kill (s : Session) : List String → Session
  | "-l" :: words => s.nameSignals words
  | ["-s", name, target] | ["-n", name, target] =>
    match signal? name with
    | some n => s.send n target
    | none => (s.complain ("kill: invalid signal number or name: " ++ name)).withStatus 2
  | [option, target] =>
    match option.toList with
    | '-' :: name =>
      match signal? (String.ofList name) with
      | some n => s.send n target
      | none =>
        (s.complain ("kill: Illegal option -" ++ String.ofList (name.take 1))).withStatus 2
    | _ => s.withStatus 1
  | [target] => s.send 15 target
  | _ =>
    let usage := "kill: Usage: kill [-s sigspec | -signum | -sigspec] [pid | job]... or"
    (s.complain usage).withStatus 2

/-- A text in quotes, so that it would be read as itself. -/
def inQuotes (fuel : Nat) (cs : List Char) : List Char :=
  match fuel with
  | 0 => []
  | fuel + 1 =>
    let plain := cs.takeWhile (· ≠ '\'')
    let quotes := (cs.drop plain.length).takeWhile (· = '\'')
    let rest := cs.drop (plain.length + quotes.length)
    '\'' :: plain ++ '\'' :: (if quotes.isEmpty then [] else '"' :: quotes ++ ['"'])
      ++ if rest.isEmpty then [] else inQuotes fuel rest

/-- Shows what is run at signals. -/
def shownTraps (s : Session) : List Char :=
  (List.range 65).flatMap fun n => match s.traps.lookup (toString n) with
    | some action =>
      let name := if n = 0 then "EXIT" else (signalName? n).getD ""
      "trap -- ".toList ++ inQuotes (action.length + 1) action ++ ' ' :: name.toList ++ ['\n']
    | none => []

/-- Sets what is run at signals. -/
def trap (s : Session) (arguments : List String) : Session :=
  let arguments := if arguments.head? = some "--" then arguments.tail else arguments
  let each (s : Session) (names : List String) (f : Session → Nat → Session) : Session :=
    names.foldl (fun s name => match signal? name with
      | some n => f s n
      | none => (s.complain ("trap: " ++ name ++ ": bad trap")).withStatus 1) (s.withStatus 0)
  let without (s : Session) (n : Nat) : Session :=
    { s with traps := s.traps.filter (·.1 ≠ toString n) }
  match arguments with
  | [] => s.say "trap" s.shownTraps 0
  | ["-"] => s.withStatus 0
  | "-" :: names => each s names without
  | [name] => each s [name] without
  | action :: names =>
    let numeric := (signal? action).isSome && action.toList.all Char.isDigit
    if numeric then each s (action :: names) without
    else each s names fun s n =>
      { without s n with traps := (toString n, action.toList) :: (without s n).traps }

/-! ## Variables -/

/-- A word cut at its equals sign. -/
def definition (word : String) : List Char × Option (List Char) :=
  let cs := word.toList
  let name := cs.takeWhile (· ≠ '=')
  (name, if name.length < cs.length then some (cs.drop (name.length + 1)) else none)

/-- Whether a text can be the name of a variable. -/
def isName (cs : List Char) : Bool := cs.head?.any beginsName && cs.all inName

/-- Goes through the names and values that are given to a command. -/
def eachDefinition (s : Session) (command : String) (words : List String)
    (f : Session → List Char → Option (List Char) → Session) : Session :=
  words.foldl (fun s word =>
    let (name, value) := definition word
    if !s.goesOn then s
    else if isName name then f s name value
    else s.breakOff (command ++ ": " ++ String.ofList name ++ ": bad variable name"))
    (s.withStatus 0)

/-- Changes a variable after it is given a value, if there is one. -/
def mark (s : Session) (name : List Char) (value : Option (List Char))
    (f : Variable → Variable) : Session :=
  let s := match value with
    | some cs => s.set name cs
    | none => s
  if s.goesOn then s.put (f ((s.binding? name).getD ⟨name, none, false, false⟩)) else s

/-- Hands variables on to programs. -/
def handOn (s : Session) (words : List String) : Session :=
  if words.head? = some "-p" || words.isEmpty then s.withStatus 0
  else s.eachDefinition "export" words fun s name value =>
    s.mark name value fun v => { v with exported := true }

/-- Makes variables constant. -/
def readonly (s : Session) (words : List String) : Session :=
  if words.head? = some "-p" || words.isEmpty then s.withStatus 0
  else s.eachDefinition "readonly" words fun s name value =>
    s.mark name value fun v => { v with constant := true }

/-- Hides variables until the function ends. -/
def hide (s : Session) (words : List String) : Session :=
  match s.hidden with
  | [] => s.breakOff "local: not in a function"
  | _ :: _ => s.eachDefinition "local" words fun s name value =>
    match s.hidden with
    | inner :: outer =>
      let old := (s.binding? name).getD ⟨name, none, false, false⟩
      let s := { s with hidden := (old :: inner) :: outer }
      match value with
      | some cs => s.set name cs
      | none => s
    | [] => s

/-- Takes variables or functions away. -/
def unset (s : Session) (words : List String) : Session :=
  let functions := words.head? = some "-f"
  let words := if functions || words.head? = some "-v" then words.tail else words
  s.eachDefinition "unset" words fun s name _ =>
    if functions then { s with functions := s.functions.filter (·.1 ≠ name) }
    else match s.binding? name with
      | some v =>
        if v.constant then s.breakOff ("unset: " ++ String.ofList name ++ ": is read only")
        else { s with bindings := s.bindings.filter (·.name ≠ name) }
      | none => s

/-! ## Options and arguments -/

/-- The letters of options, with the long names of some. -/
def optionLetters : List (Char × String) :=
  [('e', "errexit"), ('f', "noglob"), ('u', "nounset"), ('x', "xtrace"), ('v', "verbose"),
    ('n', "noexec"), ('a', "allexport"), ('C', "noclobber"), ('b', "notify"), ('m', "monitor"),
    ('I', "ignoreeof"), ('V', "vi"), ('E', "emacs")]

/-- Sets options or lets them go. -/
def withOptions (s : Session) (on : Bool) (letters : List Char) : Session :=
  let others := s.options.filter fun c => !letters.contains c
  { s with options := if on then others ++ letters else others }

/-- Sets options and arguments; so many words at most are looked at. -/
def setOptions (s : Session) : Nat → List String → Session
  | 0, _ | _, [] => s
  | fuel + 1, word :: rest =>
    match word.toList with
    | ['-', '-'] => { s with arguments := rest }
    | ['-'] => { s with arguments := if rest.isEmpty then s.arguments else rest }
    | [sign, 'o'] =>
      if sign = '-' || sign = '+' then
        match rest with
        | name :: rest =>
          match optionLetters.find? (·.2 = name) with
          | some (c, _) => (s.withOptions (sign = '-') [c]).setOptions fuel rest
          | none => s.breakOff ("set: Illegal option " ++ String.ofList [sign] ++ "o " ++ name)
        | [] => s
      else { s with arguments := word :: rest }
    | sign :: c :: letters =>
      if sign = '-' || sign = '+' then
        match (c :: letters).find? fun c => !optionLetters.any (·.1 = c) with
        | some bad => s.breakOff ("set: Illegal option " ++ String.ofList [sign, bad])
        | none => (s.withOptions (sign = '-') (c :: letters)).setOptions fuel rest
      else { s with arguments := word :: rest }
    | _ => { s with arguments := word :: rest }

/-- The number that an argument of a command is; anything else ends the shell. -/
def counted (s : Session) (command : String) (argument : String) : Except Session Nat :=
  match (Text.natural? argument.toList).filter (· < Nat.pow 2 31) with
  | some n => .ok n
  | none => .error (s.breakOff (command ++ ": Illegal number: " ++ argument))

/-- Drops arguments. -/
def shift (s : Session) (words : List String) : Session :=
  let drop (n : Nat) : Session :=
    if s.arguments.length < n then s.breakOff "shift: can't shift that many"
    else { s with arguments := s.arguments.drop n, status := 0 }
  match words with
  | [] => drop 1
  | word :: _ =>
    match s.counted "shift" word with
    | .ok n => drop n
    | .error s => s

/-- Ends the shell or a function with a status of its own or that of the last command. -/
def leave (s : Session) (command : String) (words : List String) (halt : UInt8 → Halt) : Session :=
  match words with
  | [] => { s with halt := some (halt s.status) }
  | word :: _ =>
    match s.counted command word with
    | .ok n => { s with status := UInt8.ofNat n, halt := some (halt (UInt8.ofNat n)) }
    | .error s => s

/-- Leaves loops, or goes on with their next turn. -/
def leaveLoop (s : Session) (command : String) (words : List String) (halt : Nat → Halt) :
    Session :=
  let leaveBy (n : Nat) : Session :=
    if s.loops = 0 then s.withStatus 0
    else { s with status := 0, halt := some (halt (min n s.loops)) }
  match words with
  | [] => leaveBy 1
  | word :: _ =>
    match s.counted command word with
    | .ok 0 => s.breakOff (command ++ ": Illegal number: 0")
    | .ok n => leaveBy n
    | .error s => s

/-! ## Directories and input -/

/-- The directory as it is shown. -/
def shownDirectory (s : Session) : List Char :=
  (Raw.ofText (if s.directory.startsWith "/" then s.directory else "/" ++ s.directory)).toList

/-- Goes to a directory. -/
def cd (s : Session) (words : List String) : Session :=
  let words := words.filter fun w => w ≠ "-L" && w ≠ "-P" && w ≠ "--"
  let target := match words with
    | [] => String.ofList (s.get "HOME".toList)
    | word :: _ => if word = "-" then String.ofList (s.get "OLDPWD".toList) else word
  let shown (s : Session) : Session :=
    if words.head? = some "-" then s.say "cd" (s.shownDirectory ++ ['\n']) 0 else s
  if target.isEmpty then shown (s.withStatus 0)
  else
    let path := s.path target
    if s.files.isDirectory path then
      let names := (Path.names path).foldl (fun (names : List String) name =>
        if name = ".." then names.dropLast else if name = "." then names else names ++ [name]) []
      let plain := "/".intercalate names
      let directory := if path.startsWith "/" then "/" ++ plain else plain
      let old := s.shownDirectory
      let s := { s with directory, status := 0 }
      let s := (s.set "OLDPWD".toList old).set "PWD".toList s.shownDirectory
      if s.goesOn then shown s else s
    else (s.complain ("cd: can't cd to " ++ target)).withStatus 2

/-- A line at the beginning of a text, whether it has an end, and what follows it. A backslash joins
lines and quotes characters unless the text is taken as it is. -/
def lineOf (raw : Bool) : List Char → List Letter × Bool × List Char
  | [] => ([], false, [])
  | '\\' :: c :: rest =>
    if raw then
      let (line, ended, rest) := lineOf raw (c :: rest)
      (('\\', false) :: line, ended, rest)
    else
      let (line, ended, rest) := lineOf raw rest
      (if c = '\n' then line else (c, true) :: line, ended, rest)
  | c :: rest =>
    if c = '\n' then ([], true, rest)
    else
      let (line, ended, rest) := lineOf raw rest
      ((c, false) :: line, ended, rest)

/-- Cuts a line into so many fields at most; the last one has all that is left. -/
def lineFields (separators : List Char) : Nat → List Letter → List (List Char)
  | 0, _ => []
  | n + 1, line =>
    let isBlank (l : Letter) : Bool := !l.2 && (l.1 = ' ' || l.1 = '\t') && separators.contains l.1
    let separates (l : Letter) : Bool := !l.2 && separators.contains l.1
    let line := line.dropWhile isBlank
    if n = 0 then
      let bare := (line.reverse.dropWhile isBlank).reverse
      let inner := bare.filter separates
      -- a single separator behind the last field belongs to it no more than a blank does
      let cut := if inner.length = 1 && (bare.getLast?).any separates then bare.dropLast else bare
      [cut.map (·.1)]
    else
      let field := line.takeWhile fun l => !separates l
      let rest := (line.drop field.length).dropWhile isBlank
      let rest := match rest with
        | l :: more => if separates l && !isBlank l then more else rest
        | [] => []
      field.map (·.1) :: lineFields separators n rest

/-- Reads a line into variables. -/
def read (s : Session) (words : List String) : Session :=
  let raw := words.contains "-r"
  let names := words.filter fun w => w ≠ "-r"
  if names.isEmpty then (s.complain "read: arg count").withStatus 2
  else
    let (line, ended, rest) := lineOf raw (s.input 0).text
    let s := s.afterReading 0 (.ofText rest)
    let fields := lineFields s.separators names.length line
    let s := (names.zip fields).foldl (fun s (name, cs) => s.set name.toList cs) s
    if s.goesOn then s.withStatus (if ended then 0 else 1) else s

/-! ## Output -/

/-- The rules of the shell's own formatted output. -/
def ownRules : FormatRules := ⟨⟨false, false, false, false, false⟩, false, false, 53, 2⟩

/-- Writes its arguments, with escapes replaced, whatever the options. -/
def echo (s : Session) (words : List String) : Session :=
  let (quiet, words) := match words with
    | "-n" :: rest => (true, rest)
    | _ => (false, words)
  let (cs, ending) := EscapeRules.replaced ⟨true, false, false, true, false⟩ (" ".intercalate words)
  s.say "echo" (cs ++ if quiet || ending = .stopped then [] else ['\n']) 0

/-- What the shell says of something that happens on the way through a format. -/
def formatComplaint : Happening → Option String
  | .text _ | .unfinished => none
  | .number argument .missing => some (argument ++ ": expected numeric value")
  | .number argument .incomplete => some (argument ++ ": not completely converted")
  | .number argument .range => some (argument ++ ": Numerical result out of range")
  | .invalid spelling =>
    let ends := (directive ownRules.sizes (spelling.drop 1)).1 = .cut spelling
    some (if ends then "missing format character"
      else String.ofList spelling ++ ": invalid directive")

/-- Writes its arguments as a format says. What is wrong is said before. -/
def printf (s : Session) (words : List String) : Session :=
  match if words.head? = some "--" then words.tail else words with
  | [] => (s.complain "printf: usage: printf format [arg ...]").withStatus 2
  | format :: arguments =>
    if words.head? ≠ some "--" && format.startsWith "-" && format ≠ "-" then
      (s.complain ("printf: Illegal option " ++ (format.take 2).toString)).withStatus 2
    else
    let happenings := formatted ownRules format arguments
    let s := (happenings.filterMap formatComplaint).foldl (fun s text =>
      s.complain ("printf: " ++ text)) s
    let text := happenings.flatMap fun h => match h with
      | .text cs => cs
      | _ => []
    s.say "printf" text (formatStatus ownRules happenings)

/-- Tells by its status whether a test holds. -/
def test (s : Session) (name : String) (words : List String) : Session :=
  match (testArguments name words).bind (testOf (unaryTest? s.files s.path)) with
  | .ok b => s.withStatus (if b then 0 else 1)
  | .error fault => (s.complain (name ++ ": " ++ fault)).withStatus 2

/-! ## Names of commands -/

/-- The commands that change the shell in such a way that a mistake in them ends it. -/
def specialNames : List String :=
  [":", ".", "break", "continue", "eval", "exec", "exit", "export", "readonly", "return", "set",
    "shift", "times", "trap", "unset"]

/-- The other commands of the shell's own. -/
def ownNames : List String :=
  ["alias", "bg", "cd", "command", "echo", "false", "fg", "getopts", "hash", "jobs", "kill",
    "local", "printf", "pwd", "read", "test", "[", "true", "type", "ulimit", "umask", "unalias",
    "wait"]

/-- The directories that programs are looked for in. -/
def programDirectories (s : Session) : List String :=
  match (s.binding? "PATH".toList).bind (·.value) with
  | some cs => (String.ofList cs).splitOn ":"
  | none => ["/usr/local/sbin", "/usr/local/bin", "/usr/sbin", "/usr/bin", "/sbin", "/bin"]

/-- The path of the program that a name means. -/
def programPath? (s : Session) (name : String) : Except FileFault String :=
  if name.toList.contains '/' then
    match s.files.runFault? (s.path name) with
    | none => .ok name
    | some f => .error f
  else
    let places := s.programDirectories.map fun d => Path.join d name
    match places.find? fun place => (s.files.runFault? (s.path place)).isNone with
    | some place => if name.isEmpty then .error .notFound else .ok place
    | none => .error .notFound

/-- What a name of a command means. -/
def meaning (s : Session) (name : String) : Option (String × String) :=
  if keywords.contains name then some (name, name ++ " is a shell keyword")
  else if s.functions.any (·.1 = name.toList) then some (name, name ++ " is a shell function")
  else if specialNames.contains name then some (name, name ++ " is a special shell builtin")
  else if ownNames.contains name then some (name, name ++ " is a shell builtin")
  else match s.programPath? name with
    | .ok path => some (path, name ++ " is " ++ path)
    | .error _ => none

/-- Says what names mean, in brief or not; a name without a meaning is complained about. -/
def describe (s : Session) (command : String) (brief : Bool) (names : List String) : Session :=
  let found := names.map fun name => (name, s.meaning name)
  let text := found.flatMap fun (name, m) => match m with
    | some (short, long) => ((if brief then short else long) ++ "\n").toList
    | none => if brief then [] else (name ++ ": not found\n").toList
  s.say command text (if found.all fun (_, m) => m.isSome then 0 else 127)

/-- Waits for programs, all of which have ended. -/
def wait (s : Session) (words : List String) : Session :=
  match words with
  | [] => s.withStatus 0
  | word :: _ =>
    if word.toList = behindNumber && s.behind.isSome then s.withStatus (s.behind.getD 0)
    else if (Text.natural? word.toList).isSome then s.withStatus 127
    else (s.complain ("wait: Illegal number: " ++ word)).withStatus 2

/-- Runs one of the shell's own commands; `none` if there is none of this name. -/
def own? (s : Session) (name : String) (words : List String) : Option Session :=
  match name with
  | ":" | "true" | "times" | "alias" | "unalias" | "jobs" | "ulimit" | "hash" =>
    some (s.withStatus 0)
  | "false" => some (s.withStatus 1)
  | "exit" => some (s.leave name words .exit)
  | "return" => some (s.leave name words .leaveFunction)
  | "break" => some (s.leaveLoop name words .leaveLoops)
  | "continue" => some (s.leaveLoop name words .nextTurn)
  | "shift" => some (s.shift words)
  | "set" => some ((s.withStatus 0).setOptions (words.length + 1) words)
  | "unset" => some (s.unset words)
  | "export" => some (s.handOn words)
  | "readonly" => some (s.readonly words)
  | "local" => some (s.hide words)
  | "trap" => some (s.trap words)
  | "kill" => some (s.kill words)
  | "cd" => some (s.cd words)
  | "pwd" => some (s.say name (s.shownDirectory ++ ['\n']) 0)
  | "umask" => some (if words.isEmpty then s.say name "0022\n".toList 0 else s.withStatus 0)
  | "read" => some (s.read words)
  | "echo" => some (s.echo words)
  | "printf" => some (s.printf words)
  | "test" | "[" => some (s.test name words)
  | "type" => some (s.describe name false words)
  | "wait" => some (s.wait words)
  | "fg" | "bg" => some ((s.complain (name ++ ": No current job")).withStatus 2)
  | _ => none

end Session

end Gateway.Shell
