import Gateway.Command.Utilities

/-!
# Programs that change files

The standard programs that make, move and remove files and directories, or say what is there.
-/

namespace Gateway.Program

/-- The files after an attempt for each name, and the complaints about those that failed. -/
def Start.forEach (p : Start) (names : List String)
    (attempt : Files → String → Except FileFault Files) (fault : String → FileFault → String) :
    Run :=
  let (files, complaints) := names.foldl (fun (files, complaints) name =>
    match attempt files (p.path name) with
    | .ok files => (files, complaints)
    | .error f => (files, complaints ++ [p.complaint (fault name f)])) (p.files, [])
  ⟨complaints, .status (if complaints.isEmpty then 0 else 1), files, p.input⟩

/-- A fault that does not matter. -/
def forgiven (c : Bool) (files : Files) : Except FileFault Files → Except FileFault Files
  | .error .notFound => if c then .ok files else .error .notFound
  | outcome => outcome

/-- Makes files that are not there. -/
def touch (p : Start) : Run :=
  match p.options "acm" "dt" with
  | some (_, name :: names) =>
    p.forEach (name :: names)
      (fun files path => if files.has path then .ok files else files.write path [])
      fun name f => "cannot touch '" ++ name ++ "': " ++ f.summary
  | _ => p.misused 1

/-- Removes files, and trees if asked for. -/
def rm (p : Start) : Run :=
  match p.options "rRfiv" "" with
  | none => p.misused 1
  | some (options, names) =>
    if names.isEmpty then if given options 'f' then p.silent 0 else p.misused 1
    else
      let whole := given options 'r' || given options 'R'
      p.forEach names
        (fun files path => forgiven (given options 'f') files <|
          if whole && files.has path then .ok (files.removeTree path) else files.removeFile path)
        fun name f => "cannot remove '" ++ name ++ "': " ++ f.summary

/-- Makes directories. -/
def mkdir (p : Start) : Run :=
  match p.options "pv" "m" with
  | some (options, name :: names) =>
    p.forEach (name :: names)
      (fun files path =>
        if given options 'p' then
          let made := files.makeDirectories path
          if made.isDirectory path then .ok made else .error .occupied
        else files.makeDirectory path)
      fun name f => "cannot create directory '" ++ name ++ "': " ++ f.summary
  | _ => p.misused 1

/-- Removes empty directories. -/
def rmdir (p : Start) : Run :=
  match p.options "pv" "" with
  | some (_, name :: names) =>
    p.forEach (name :: names) Files.removeDirectory
      fun name f => "failed to remove '" ++ name ++ "': " ++ f.summary
  | _ => p.misused 1

/-- Where something goes that is put at a path: into it, if it is a directory. -/
def Start.into (p : Start) (files : Files) (name target : String) : String :=
  let path := p.path target
  let last := (Path.names (p.path name)).getLast?.getD ""
  if files.isDirectory path then Path.join path last else path

/-- Moves or copies files. -/
def transfer (p : Start) (attempt : Files → String → String → Except FileFault Files) : Run :=
  match p.options "rRfvap" "" with
  | none => p.misused 1
  | some (_, names) =>
    match names.reverse with
    | target :: source :: sources =>
      p.forEach (source :: sources).reverse
        (fun files path => attempt files path (p.into files path target))
        fun name f => "cannot stat '" ++ name ++ "': " ++ f.summary
    | _ => p.misused 1

/-- Moves files. -/
def mv (p : Start) : Run := transfer p Files.rename

/-- Copies files. -/
def cp (p : Start) : Run :=
  transfer p fun files source target =>
    match files.read source with
    | .ok content => files.write target content
    | .error f => .error f

/-- Writes what is in directories, a name a line; a name that is a file's is written itself. -/
def ls (p : Start) : Run :=
  match p.options "1adlAF" "" with
  | none => p.misused 2
  | some (options, names) =>
    let names := if names.isEmpty then ["."] else names
    let writes := names.map fun name =>
      let path := p.path name
      match p.files.find path with
      | .error f => p.complaint ("cannot access '" ++ name ++ "': " ++ f.summary)
      | .ok (place, .directory) =>
        let inside := if given options 'd' then [name] else p.files.namesAt place
        (1, Source.ofText (ofLines (inside.map fun s => (Raw.ofText s).toList)))
      | .ok _ => (1, Source.ofText (ofLines [name.toList]))
    let status : UInt8 := if names.all fun name => p.files.has (p.path name) then 0 else 2
    ⟨writes, .status status, p.files, p.input⟩

/-- Writes what it reads, also into files. -/
def tee (p : Start) : Run :=
  match p.options "ai" "" with
  | none => p.misused 1
  | some (options, names) =>
    let r := p.forEach names
      (fun files path =>
        let before := if given options 'a' then (files.read path).toOption.getD [] else []
        files.write path (before ++ Raw.bytes p.input.text)) plainFault
    p.drained { r with writes := (1, p.input) :: r.writes }

/-! ## Tests -/

/-- What a test of one argument asks. -/
def unaryTest? (files : Files) (path : String → String) (operator operand : String) :
    Option Bool :=
  let entry := (files.find (path operand)).toOption.map (·.2)
  match operator with
  | "-n" => some (!operand.isEmpty)
  | "-z" => some operand.isEmpty
  | "-e" | "-r" | "-w" => some entry.isSome
  | "-f" => some (entry.any fun e => match e with
      | .file _ | .program => true
      | _ => false)
  | "-d" => some (entry == some .directory)
  | "-x" => some (entry == some .directory || entry == some .program)
  | "-s" => some (entry.any fun e => match e with
      | .file content => !content.isEmpty
      | .directory | .program => true
      | .dummy _ => false)
  | "-c" => some (entry.any fun e => match e with
      | .dummy _ => true
      | _ => false)
  | "-b" | "-p" | "-S" | "-L" | "-h" | "-t" | "-g" | "-u" | "-k" => some false
  | _ => none

/-- The number that an argument of a test is. -/
def testNumber? (argument : String) : Option Int :=
  let cs := (argument.toList.dropWhile isBlank).reverse
  Text.signed? (Nat.pow 2 63 - 1) (cs.dropWhile isBlank).reverse

/-- Whether an operator stands between two operands. -/
def isBinaryTest (operator : String) : Bool :=
  ["=", "==", "!=", "<", ">", "-eq", "-ne", "-gt", "-ge", "-lt", "-le", "-nt", "-ot",
    "-ef"].contains operator

/-- What a test of two arguments asks; an error where they have to be numbers and are not. -/
def binaryTest (operator a b : String) : Except String Bool :=
  let numbers (holds : Int → Int → Bool) : Except String Bool :=
    match testNumber? a, testNumber? b with
    | some m, some n => .ok (holds m n)
    | none, _ => .error ("Illegal number: " ++ a)
    | some _, none => .error ("Illegal number: " ++ b)
  match operator with
  | "=" | "==" => .ok (a = b)
  | "!=" => .ok (a ≠ b)
  | "<" => .ok (a < b)
  | ">" => .ok (b < a)
  | "-eq" => numbers (· = ·)
  | "-ne" => numbers (· ≠ ·)
  | "-gt" => numbers (· > ·)
  | "-ge" => numbers (· ≥ ·)
  | "-lt" => numbers (· < ·)
  | "-le" => numbers (· ≤ ·)
  | _ => .ok false

mutual

/-- Alternatives at the beginning of arguments, and what follows them. The number bounds how deep
tests lie in each other. -/
def anyTest (unary? : String → String → Option Bool) :
    Nat → List String → Except String (Bool × List String)
  | 0, _ => .error "too many arguments"
  | fuel + 1, arguments => do
    let (b, rest) ← allTest unary? fuel arguments
    match rest with
    | "-o" :: rest =>
      let (c, rest) ← anyTest unary? fuel rest
      .ok (b || c, rest)
    | _ => .ok (b, rest)

/-- Tests that have to hold together, and what follows them. -/
def allTest (unary? : String → String → Option Bool) :
    Nat → List String → Except String (Bool × List String)
  | 0, _ => .error "too many arguments"
  | fuel + 1, arguments => do
    let (b, rest) ← oneTest unary? fuel arguments
    match rest with
    | "-a" :: rest =>
      let (c, rest) ← allTest unary? fuel rest
      .ok (b && c, rest)
    | _ => .ok (b, rest)

/-- A single test, and what follows it. -/
def oneTest (unary? : String → String → Option Bool) :
    Nat → List String → Except String (Bool × List String)
  | 0, _ => .error "too many arguments"
  | _ + 1, [] => .error "argument expected"
  | fuel + 1, a :: rest =>
    match rest with
    | operator :: b :: more =>
      if isBinaryTest operator then (binaryTest operator a b).map (·, more)
      else nestedTest unary? fuel a rest
    | _ => nestedTest unary? fuel a rest

/-- A test that begins with an operator, or asks whether a text is there. -/
def nestedTest (unary? : String → String → Option Bool) :
    Nat → String → List String → Except String (Bool × List String)
  | 0, _, _ => .error "too many arguments"
  | fuel + 1, a, rest =>
    if a = "!" && !rest.isEmpty then (oneTest unary? fuel rest).map fun (b, rest) => (!b, rest)
    else if a = "(" && !rest.isEmpty then
      match anyTest unary? fuel rest with
      | .ok (b, ")" :: rest) => .ok (b, rest)
      | .ok _ => .error "closing paren expected"
      | .error fault => .error fault
    else match rest with
      | operand :: more =>
        match unary? a operand with
        | some b => .ok (b, more)
        | none => .ok (!a.isEmpty, rest)
      | [] => .ok (!a.isEmpty, [])

end

/-- Whether a test holds; nothing to test does not. -/
def testOf (unary? : String → String → Option Bool) (arguments : List String) :
    Except String Bool :=
  if arguments.isEmpty then .ok false
  else match anyTest unary? (4 * arguments.length + 4) arguments with
    | .error fault => .error fault
    | .ok (b, []) => .ok b
    | .ok (_, extra :: _) => .error (extra ++ ": unexpected operator")

/-- The arguments of a test under either of its names. -/
def testArguments (name : String) (arguments : List String) : Except String (List String) :=
  if name = "[" then
    if arguments.getLast? = some "]" then .ok arguments.dropLast else .error "missing ]"
  else .ok arguments

/-- Tells by its status whether a test holds. -/
def test (p : Start) : Run :=
  let outcome := (testArguments p.name p.arguments).bind
    (testOf (unaryTest? p.files p.path))
  match outcome with
  | .ok b => p.silent (if b then 0 else 1)
  | .error fault => p.fails 2 fault

/-! ## Finding programs -/

/-- The program of a name. -/
def named? : String → Option (Start → Run)
  | "true" => some fun p => p.silent 0
  | "false" => some fun p => p.silent 1
  | "sleep" => some sleep
  | "echo" => some echo
  | "printf" => some printf
  | "yes" => some yes
  | "seq" => some seq
  | "cat" => some cat
  | "head" => some head
  | "tail" => some tail
  | "tac" => some tac
  | "rev" => some rev
  | "tr" => some tr
  | "wc" => some wc
  | "sort" => some sort
  | "uniq" => some uniq
  | "cut" => some cut
  | "basename" => some basename
  | "dirname" => some dirname
  | "touch" => some touch
  | "rm" => some rm
  | "mkdir" => some mkdir
  | "rmdir" => some rmdir
  | "mv" => some mv
  | "cp" => some cp
  | "ls" => some ls
  | "tee" => some tee
  | "test" | "[" => some test
  | "sync" => some fun p => p.silent 0
  | _ => none

/-- The names of the programs, with those that run others. -/
def names : List String :=
  ["true", "false", "sleep", "echo", "printf", "yes", "seq", "cat", "head", "tail", "tac", "rev",
    "tr", "wc", "sort", "uniq", "cut", "basename", "dirname", "touch", "rm", "mkdir", "rmdir", "mv",
    "cp", "ls", "tee", "test", "[", "sync", "env", "nice", "nohup", "sh", "dash"]

end Gateway.Program
