import Gateway.Command
import Gateway.Command.Builtin

/-!
# Running command lines

A shell runs the lines of a script one after the other. Commands that run apart from the shell begin
as it is and leave it their status, and the files and pipes that all share. A number bounds how long
a script may run; every loop and every command within another takes one off.
-/

namespace Gateway.Shell

open Program

/-- Runs a command; the flag says that someone looks at its status, so that no failure ends the
shell. -/
abbrev Evaluator := Bool → Command → Session → Session

namespace Session

/-! ## Scripts -/

/-- Runs what came to be run for signals. -/
def runPending (s : Session) (run : Session → List Char → Session) : Session :=
  match s.pending with
  | [] => s
  | actions =>
    let status := s.status
    let s := actions.foldl (fun s action => if s.goesOn then run s action else s)
      { s with pending := [] }
    if s.goesOn then s.withStatus status else s

/-- Runs the lines of a script. -/
def runScript (go : Evaluator) (s : Session) (text : List Char) : Session :=
  (scriptOf text).foldl (fun s line =>
    if s.goesOn && !s.options.contains 'n' then go false line s else s) s

/-- Ends a shell: what is to be run in the end is run, unless a signal ended it. -/
def finish (go : Evaluator) (s : Session) : Session :=
  match s.traps.lookup "0", s.halt with
  | _, some (.signal _ _) => s
  | none, _ => s
  | some action, halt =>
    let status := match halt with
      | some (.exit n) | some (.leaveFunction n) => n
      | _ => s.status
    let s := { s with traps := [], halt := none, status }.runScript go action
    match s.halt with
    | some _ => s
    | none => s.exit status

/-- The output of a command line that runs apart, without the line ends at its end. -/
def outputOf (go : Evaluator) : Outputs := fun s line =>
  let (number, s) := s.newPipe .empty
  let t := ((s.apart.attach 1 (some (.pipe number))).runScript go line).finish go
  let s := s.after t
  (s, ((s.pipe number).text.reverse.dropWhile (· = '\n')).reverse.filter (· ≠ '\x00'))

/-! ## Programs -/

/-- How a shell is started: the options, where its script comes from, its name and its
arguments. -/
structure Invocation where
  options : List Char
  text : List Char
  name : String
  arguments : List String

/-- The options at the beginning of a shell's arguments, and what follows them; `none` if one is not
known. -/
def leadingOptions (letters : List Char) : List String → Option (List Char × List String)
  | "-o" :: name :: rest =>
    (optionLetters.find? (·.2 = name)).bind fun (c, _) => leadingOptions (letters ++ [c]) rest
  | word :: rest =>
    match word.toList with
    | ['-'] | ['-', '-'] => some (letters, rest)
    | '-' :: more =>
      if more.all fun c => optionLetters.any (·.1 = c) || ['c', 'i', 'l', 's'].contains c then
        leadingOptions (letters ++ more) rest
      else none
    | '+' :: more =>
      if more.all fun c => optionLetters.any (·.1 = c) then
        leadingOptions (letters.filter fun c => !more.contains c) rest
      else none
    | _ => some (letters, word :: rest)
  | [] => some (letters, [])

/-- How a shell is started by its arguments, if that makes sense. -/
def invocation? (p : Start) : Option Invocation := do
  let (letters, rest) ← leadingOptions [] p.arguments
  let options := letters.filter fun c => optionLetters.any (·.1 = c)
  if letters.contains 'c' then
    match rest with
    | text :: rest => some ⟨options, text.toList, rest.headD p.name, rest.tail⟩
    | [] => none
  else if letters.contains 's' then some ⟨options, p.input.text, p.name, rest⟩
  else match rest with
    | [] => some ⟨options, p.input.text, p.name, []⟩
    | script :: rest =>
      (p.source script).toOption.map fun content => ⟨options, content.text, script, rest⟩

/-- Runs a shell as a program. -/
def asProgram (go : Evaluator) (p : Start) : Run :=
  match invocation? p with
  | none => p.fails 2 "0: cannot run"
  | some i =>
    let s := ({ new p i.name i.arguments with options := i.options }.runScript go i.text).finish go
    let exit : Exit := match s.halt with
      | some (.exit n) | some (.leaveFunction n) => .status n
      | some (.signal n _) => .signal n
      | _ => .status s.status
    ⟨s.written.reverse, exit, s.files, s.pipe 0⟩

/-- The variables that are handed on after the arguments of `env` in front of a command line, and
that command line. -/
def changedEnvironment (environment : List (String × String)) :
    List String → Option (List (String × String) × List String)
  | "-i" :: rest | "-" :: rest => changedEnvironment [] rest
  | "-u" :: name :: rest => changedEnvironment (environment.filter (·.1 ≠ name)) rest
  | "--" :: rest => some (withDefinitions environment rest)
  | word :: rest =>
    if word.startsWith "-" then none else some (withDefinitions environment (word :: rest))
  | [] => some (environment, [])
where
  /-- The variables after those that words set, and the words behind these. -/
  withDefinitions (environment : List (String × String)) :
      List String → List (String × String) × List String
    | word :: rest =>
      match definition word with
      | (name, some value) =>
        let name := String.ofList name
        withDefinitions (environment.filter (·.1 ≠ name) ++ [(name, String.ofList value)]) rest
      | (_, none) => (environment, word :: rest)
    | [] => (environment, [])

/-- Runs a command line in place of a program. -/
def handOver (launch : String → Start → Option Run) (p : Start) : List String → Run
  | [] => p.silent 0
  | name :: arguments =>
    let failed (status : UInt8) (text : String) : Run :=
      p.fails status ("'" ++ name ++ "': " ++ text)
    match (new p p.name []).programPath? name with
    | .ok path =>
      (launch path { p with name, arguments }).getD (failed 127 FileFault.notFound.summary)
    | .error f => failed (if f = .notFound then 127 else 126) f.summary

/-- Runs the program at a path, so many within each other at most. -/
def launch (go : Evaluator) : Nat → String → Start → Option Run
  | 0, _, _ => none
  | depth + 1, path, p =>
    match (Path.names path).getLast?.getD "" with
    | "sh" | "dash" => some (asProgram go p)
    | "env" =>
      match changedEnvironment p.environment p.arguments with
      | none => some (p.misused 125)
      | some (environment, words) =>
        let p := { p with environment }
        if words.isEmpty then some (p.answers (environment.flatMap fun (name, value) =>
          (name ++ "=" ++ value ++ "\n").toList))
        else some (handOver (launch go depth) p words)
    | "nice" => some (handOver (launch go depth) p (match p.arguments with
        | "-n" :: _ :: words => words
        | words => words))
    | "nohup" =>
      some (if p.arguments.isEmpty then p.misused 125 else handOver (launch go depth) p p.arguments)
    | name => (named? name).map fun program => program p

/-- How many programs may run within each other without a shell between them. -/
def launchLimit : Nat := 16

/-- Passes on what a program wrote; the flag says whether that went well. -/
def passOn (s : Session) (writes : List (Nat × Source)) : Session × Bool :=
  writes.foldl (fun (s, well) (file, content) =>
    let (s, ok) := s.write file content
    (s, well && ok)) (s, true)

/-- Runs a program that is not the shell's own. -/
def external (go : Evaluator) (s : Session) (values : List (String × String)) (name : String)
    (arguments : List String) : Session × Exit :=
  let failed (status : UInt8) (text : String) : Session × Exit :=
    ((s.complain (name ++ ": " ++ text)).withStatus status, .status status)
  match s.programPath? name with
  | .error .denied => failed 126 "Permission denied"
  | .error _ => failed 127 "not found"
  | .ok path =>
    let names := values.map (·.1)
    let environment := s.environment.filter fun (n, _) => !names.contains n
    let p : Start :=
      ⟨name, arguments, s.input 0, s.files, s.directory, environment ++ values⟩
    match launch go launchLimit path p with
    | none => failed 127 "not found"
    | some r =>
      let s := { s with files := r.files }.afterReading 0 r.rest
      let (s, well) := s.passOn r.writes
      if well then (s, r.exit)
      else
        let text := name ++ ": write error: No space left on device\n"
        ((s.write 2 (.ofText text.toList)).1, .status 1)

/-- The shell after a program. -/
def afterProgram (r : Session × Exit) : Session :=
  match r.2 with
  | .status n => r.1.withStatus n
  | .signal n =>
    let text := signalText n
    let (s, _) := r.1.write 2 (.ofText (if text.isEmpty then "" else text ++ "\n").toList)
    s.withStatus (UInt8.ofNat (128 + n))

/-! ## Simple commands -/

/-- The assignment that a word is: its name and the value's fragments. -/
def assignment? (w : Word) : Option (List Char × Word) :=
  let name := w.takeWhile fun f => match f with
    | .text [c] false => inName c
    | _ => false
  let letters := bareText name
  match w.drop name.length with
  | .text ['='] false :: value =>
    if letters.head?.any beginsName then some (letters, value) else none
  | _ => none

/-- Lays files as redirections say, in their order. -/
def plumb (outputs : Outputs) (s : Session) : List Redirect → Except Session Session
  | [] => .ok s
  | r :: rest =>
    let (s, target) := s.joined outputs r.target
    if !s.goesOn then .error s
    else match s.redirect r target with
      | .ok s => plumb outputs s rest
      | .error text => .error ((s.complain text).withStatus 2)

/-- Sets variables in their order. -/
def assign (outputs : Outputs) (s : Session) (assignments : List (List Char × Word)) :
    Session × List (String × String) :=
  assignments.foldl (fun (s, values) (name, value) =>
    let (s, cs) := s.joined outputs value
    (if s.goesOn then s.set name cs else s,
      values ++ [(String.ofList name, String.ofList cs)])) (s, [])

/-- The values that programs get which are set for one command. -/
def valuesFor (outputs : Outputs) (s : Session) (assignments : List (List Char × Word)) :
    Session × List (String × String) :=
  assignments.foldl (fun (s, values) (name, value) =>
    let (s, cs) := s.joined outputs value
    (s, values ++ [(String.ofList name, String.ofList cs)])) (s, [])

/-- Calls a function. -/
def callFunction (go : Evaluator) (s : Session) (looked : Bool) (body : Command)
    (arguments : List String) : Session :=
  let t := go looked body { s with arguments, hidden := [] :: s.hidden, loops := 0 }
  let bindings := (t.hidden.headD []).foldl (fun vs v =>
    (if v.value.isSome || v.exported then [v] else []) ++ vs.filter fun (w : Variable) =>
      w.name ≠ v.name) t.bindings
  let t := { t with
    arguments := s.arguments
    hidden := s.hidden
    loops := s.loops
    bindings }
  match t.halt with
  | some (.leaveFunction n) => { t with halt := none, status := n }
  | _ => t

/-- The variables as they were, after a command for which some were set. -/
def restored (s : Session) (names : List (List Char)) (t : Session) : Session :=
  { t with bindings :=
      s.bindings.filter (fun v => names.contains v.name)
        ++ t.bindings.filter fun v => !names.contains v.name }

/-- Runs a command whose words are known. Variables are set for it alone, unless it changes the
shell. -/
def dispatch (go : Evaluator) (s : Session) (looked : Bool)
    (assignments : List (List Char × Word)) (name : String) (arguments : List String) : Session :=
  let outputs := outputOf go
  let names := assignments.map (·.1)
  let program (s : Session) (name : String) (arguments : List String) : Session × Exit :=
    let (s, values) := s.valuesFor outputs assignments
    external go s values name arguments
  let function? := s.functions.lookup name.toList
  if specialNames.contains name then
    let (s, _) := s.assign outputs assignments
    if !s.goesOn then s
    else match name, arguments with
      | "eval", words =>
        let text := (" ".intercalate words).toList
        if (scriptOf text).isEmpty then s.withStatus 0 else s.runScript go text
      | ".", file :: _ =>
        let p : Start := ⟨"", [], .empty, s.files, s.directory, []⟩
        match p.source file with
        | .ok content => s.runScript go content.text
        | .error _ => s.breakOff (".: cannot open " ++ file ++ ": No such file")
      | "exec", name :: arguments =>
        match s.programPath? name with
        | .ok _ =>
          match program { s with traps := [] } name arguments with
          | (s, .status n) => s.exit n
          | (s, .signal n) => { s with halt := some (.signal n false) }
        | .error f =>
          let (text, status) : String × UInt8 :=
            if f = .denied then ("Permission denied", 126) else ("not found", 127)
          (s.complain ("exec: " ++ name ++ ": " ++ text)).exit status
      | "exec", [] => s.withStatus 0
      | _, _ => (s.own? name arguments).getD s
  else match function? with
    | some body =>
      let (t, _) := s.assign outputs assignments
      if t.goesOn then s.restored names (t.callFunction go looked body arguments) else t
    | none =>
      match name, arguments with
      | "command", "-v" :: words => s.describe "command" true words
      | "command", "-V" :: words => s.describe "command" false words
      | "command", [] => s.withStatus 0
      | "command", name :: arguments =>
        match s.own? name arguments with
        | some s => s
        | none => afterProgram (program s name arguments)
      | _, _ =>
        let (t, _) := s.assign outputs assignments
        match t.own? name arguments with
        | some t => if s.goesOn then s.restored names t else t
        | none => afterProgram (program s name arguments)

/-- Whether a word takes the output of a command line. -/
def takesOutput (w : Word) : Bool :=
  w.any fun f => match f with
    | .output _ _ => true
    | _ => false

/-- Runs a simple command. -/
def simple (go : Evaluator) (s : Session) (looked : Bool) (words : List Word)
    (redirects : List Redirect) : Session :=
  let outputs := outputOf go
  let assignments := (words.map assignment?).takeWhile Option.isSome
  let (s, expanded) := s.expandAll outputs (words.drop assignments.length)
  let assignments := assignments.reduceOption
  let channels := s.channels
  if !s.goesOn then s
  else match s.plumb outputs redirects with
    | .error t =>
      let special := expanded.head?.any specialNames.contains
      let t := { t with channels }
      if special && t.goesOn then t.exit 2 else t
    | .ok s =>
      match expanded with
      | [] =>
        let (t, _) := s.assign outputs assignments
        let kept := words.any takesOutput
        let t := if kept || !t.goesOn then t else t.withStatus 0
        { t with channels }
      | name :: arguments =>
        let t := s.dispatch go looked assignments name arguments
        if name = "exec" && arguments.isEmpty then t else { t with channels }

/-! ## Commands made of others -/

/-- Runs a command apart from the shell. -/
def runApart (go : Evaluator) (looked : Bool) (c : Command) (s t : Session) : Session :=
  s.after ((go looked c t).finish go)

/-- Runs the commands of a pipeline, each on the output of the one before, which begins as what a
channel leads to. -/
def stages (go : Evaluator) (looked : Bool) (s : Session) (input : Option Channel) :
    List Command → Session
  | [] => s
  | [c] => runApart go looked c s (s.apart.attach 0 input)
  | c :: rest =>
    let (number, s) := s.newPipe .empty
    let s := runApart go looked c s ((s.apart.attach 0 input).attach 1 (some (.pipe number)))
    if s.goesOn then s.stages go looked (some (.pipe number)) rest else s

/-- Whether a loop goes on after a turn, and the shell after it. -/
def afterTurn (s : Session) : Bool × Session :=
  match s.halt with
  | none => (true, s)
  | some (.leaveLoops n) =>
    (false, { s with halt := if n ≤ 1 then none else some (.leaveLoops (n - 1)) })
  | some (.nextTurn n) =>
    if n ≤ 1 then (true, { s with halt := none })
    else (false, { s with halt := some (.nextTurn (n - 1)) })
  | some _ => (false, s)

/-- Runs a body for every word. -/
def eachWord (go : Evaluator) (name : List Char) (body : Command) (s : Session) :
    List String → Session
  | [] => s
  | word :: rest =>
    let t := s.set name word.toList
    if !t.goesOn then t
    else match (go false body t).afterTurn with
      | (true, s) => eachWord go name body s rest
      | (false, s) => s

/-- Runs the first branch that has a pattern for a text. -/
def choose (go : Evaluator) (looked : Bool) (subject : List Char) (s : Session) :
    List (List Word × Command) → Session
  | [] => s.withStatus 0
  | (patterns, body) :: rest =>
    let (s, found) := patterns.foldl (fun (s, found) w =>
      if found || !Session.goesOn s then (s, found)
      else
        let (s, ls) := s.letters (outputOf go) w
        (s, matchesAll (patternOf ls) subject)) (s, false)
    if !s.goesOn then s
    else if found then go looked body (s.withStatus 0)
    else choose go looked subject s rest

/-- Ends the shell after a command that failed, if it is to end then. -/
def checked (s : Session) (looked : Bool) : Session :=
  if s.goesOn && s.status ≠ 0 && !looked && s.options.contains 'e' then s.exit s.status else s

end Session

open Session in
/-- Runs a command for so long at most. -/
def run : Nat → Evaluator
  | 0, _, _, s => s.exit 2
  | fuel + 1, looked, c, s =>
    let go : Evaluator := fun looked c s => if s.goesOn then run fuel looked c s else s
    match c with
    | .nothing => s
    | .broken => s.breakOff "Syntax error"
    | .simple words redirects =>
      (((s.simple go looked words redirects).runPending (runScript go)).checked looked)
    | .pipeline commands => (s.stages go looked (s.channels.lookup 0) commands).checked looked
    | .negated c =>
      let s := go true c s
      if s.goesOn then s.withStatus (if s.status = 0 then 1 else 0) else s
    | .sequence first second => go looked second (go looked first s)
    | .both first second =>
      let s := go true first s
      if s.goesOn && s.status = 0 then go looked second s else s
    | .either first second =>
      let s := go true first s
      if s.goesOn && s.status ≠ 0 then go looked second s else s
    | .background c =>
      let (number, t) := s.newPipe .empty
      let s := runApart go true c t (t.apart.attach 0 (some (.pipe number)))
      if s.goesOn then { s with behind := some s.status, status := 0 } else s
    | .apart c => (runApart go looked c s s.apart).checked looked
    | .conditional condition good bad =>
      let s := go true condition s
      if !s.goesOn then s
      else if s.status = 0 then go looked good s
      else go looked bad (s.withStatus 0)
    | .loop reversed condition body =>
      let inner := { s with loops := s.loops + 1 }
      let tested := go true condition inner
      let ends (t : Session) : Session := { t with loops := s.loops }
      match tested.afterTurn with
      | (false, t) => ends t
      | (true, t) =>
        if (t.status = 0) = reversed then ends (t.withStatus 0)
        else match (go false body t).afterTurn with
          | (false, t) => ends t
          | (true, t) => run fuel looked (.loop reversed condition body) (ends t)
    | .each name words body =>
      let (s, expanded) := match words with
        | some words => s.expandAll (outputOf go) words
        | none => (s, s.arguments)
      if !s.goesOn then s
      else
        let t := eachWord go name body { s with loops := s.loops + 1, status := 0 } expanded
        { t with loops := s.loops }
    | .choice subject branches =>
      let (s, text) := s.joined (outputOf go) subject
      if s.goesOn then choose go looked text s branches else s
    | .definition name body =>
      { s with functions := (name, body) :: s.functions.filter (·.1 ≠ name), status := 0 }
    | .redirected c redirects =>
      let channels := s.channels
      match s.plumb (outputOf go) redirects with
      | .error t => { t with channels }
      | .ok t => { go looked c t with channels }

/-- How long a script may run. -/
def runLimit : Nat := 200000

end Gateway.Shell

namespace Gateway

/-- The files that are there before the daemon brings any: some directories, devices and the
standard programs. -/
def standardFiles : Files :=
  let directories := ["bin", "dev", "etc", "home", "lib", "mnt", "opt", "proc/1", "root", "run",
    "sbin", "sys/class", "tmp", "usr/bin", "usr/lib", "usr/local/bin", "usr/sbin", "var/log",
    "var/tmp"]
  let accounts := "root:x:0:0:root:/root:/bin/sh\n"
  let devices : List (Place × Entry) := [(["dev", "null"], .dummy .null),
    (["dev", "zero"], .dummy .zero), (["dev", "full"], .dummy .full),
    (["etc", "passwd"], .file (Text.encode accounts.toList))]
  let programs (above : Place) : List (Place × Entry) :=
    Program.names.map fun name => (above ++ [name], .program)
  ⟨devices ++ programs ["usr", "bin"] ++ programs ["bin"]
    ++ (directories.foldl Files.makeDirectories Files.empty).entries⟩

/-- Why the program of a name cannot be started, if it cannot. A name without a slash is looked for
in the directories of programs. -/
def startFault? (files : Files) (program : String) : Option FileFault :=
  if program.toList.contains '/' || program.isEmpty then files.runFault? program
  else if Files.nameLimit < program.utf8ByteSize then some .nameTooLong
  else
    let faults := ["/usr/bin", "/bin"].map fun d => files.runFault? (Path.join d program)
    if faults.contains none then none
    else if faults.contains (some .denied) then some .denied else some .notFound

/-- Runs standard programs with some variables set. Nothing is there for them to read. A text with
a NUL names no program and cannot be an argument. -/
def standardRunner (environment : List (String × String)) : Runner := fun program arguments files =>
  let refused (text : String) : CommandResult × Files :=
    (.failed ["Failed to spawn " ++ program, text], files)
  if (program :: arguments).any fun s => s.toList.contains '\x00' then
    refused "nul byte found in provided data"
  else match startFault? files program with
    | some fault => refused fault.message
    | none =>
      let p : Program.Start := ⟨Raw.ofText program, arguments.map Raw.ofText, .empty, files, "",
        environment.map fun (name, value) => (Raw.ofText name, Raw.ofText value)⟩
      match Shell.Session.launch (Shell.run Shell.runLimit) Shell.Session.launchLimit program p with
      | none => refused FileFault.notFound.message
      | some r =>
        let output := (Program.Source.join ((r.writes.filter (·.1 = 1)).map (·.2))).text
        (.ended ⟨Raw.text output, match r.exit with
          | .status n => n.toNat
          | .signal _ => -1⟩, r.files)

end Gateway
