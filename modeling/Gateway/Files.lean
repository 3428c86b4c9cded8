import Gateway.Path
import Gateway.Text.Utf8

/-!
# Files

The part of the file system that the daemon reads and writes: a tree of directories, files and
devices, with the faults its operations meet. A path is followed name by name, and every name but
the last has to lead to a directory.
-/

namespace Gateway

/-- The names that lead from the root to an entry. -/
abbrev Place := List String

/-- Devices with no hardware behind them. -/
inductive DummyDevice where
  /-- Holds nothing and takes everything. -/
  | null
  /-- Holds zeros without end and takes everything. -/
  | zero
  /-- Holds zeros without end and has no room. -/
  | full
deriving DecidableEq, Repr

/-- What stands at a place. -/
inductive Entry where
  | directory
  | file (content : List UInt8)
  /-- A program that belongs to the system. -/
  | program
  | dummy (device : DummyDevice)
deriving DecidableEq, Repr

/-- Why an operation on files fails. -/
inductive FileFault where
  | notFound
  | denied
  | occupied
  | notDirectory
  | isDirectory
  | noSpace
  | nameTooLong
  | notEmpty
  /-- The path holds a character that no path can hold. -/
  | malformed
  | notText
deriving DecidableEq, Repr

namespace FileFault

/-- What a fault is called. -/
def summary : FileFault → String
  | notFound => "No such file or directory"
  | denied => "Permission denied"
  | occupied => "File exists"
  | notDirectory => "Not a directory"
  | isDirectory => "Is a directory"
  | noSpace => "No space left on device"
  | nameTooLong => "File name too long"
  | notEmpty => "Directory not empty"
  | malformed => "file name contained an unexpected NUL byte"
  | notText => "stream did not contain valid UTF-8"

/-- The system's number of a fault; a fault of the text around the system has none. -/
def number? : FileFault → Option Nat
  | notFound => some 2
  | denied => some 13
  | occupied => some 17
  | notDirectory => some 20
  | isDirectory => some 21
  | noSpace => some 28
  | nameTooLong => some 36
  | notEmpty => some 39
  | malformed => none
  | notText => none

/-- The text of a fault. -/
def message (f : FileFault) : String :=
  match f.number? with
  | some n => f.summary ++ " (os error " ++ toString n ++ ")"
  | none => f.summary

/-- The name of a fault. -/
def label : FileFault → String
  | notFound => "NotFound"
  | denied => "PermissionDenied"
  | occupied => "AlreadyExists"
  | notDirectory => "NotADirectory"
  | isDirectory => "IsADirectory"
  | noSpace => "StorageFull"
  | nameTooLong => "InvalidFilename"
  | notEmpty => "DirectoryNotEmpty"
  | malformed => "InvalidInput"
  | notText => "InvalidData"

end FileFault

/-- The entries below the root, each place at most once; the root itself is a directory. -/
structure Files where
  entries : List (Place × Entry)
deriving DecidableEq, Repr

namespace Files

/-! ## Places -/

/-- Only the root. -/
def empty : Files := ⟨[]⟩

/-- What stands at a place. -/
def entry? (fs : Files) (place : Place) : Option Entry :=
  if place.isEmpty then some .directory else fs.entries.lookup place

/-- The tree with an entry put at a place, whatever stood there. -/
def put (fs : Files) (place : Place) (entry : Entry) : Files :=
  ⟨(place, entry) :: fs.entries.filter (·.1 ≠ place)⟩

/-- The tree without a place and everything below it. -/
def prune (fs : Files) (place : Place) : Files :=
  ⟨fs.entries.filter fun e => !place.isPrefixOf e.1⟩

/-- The names in the directory at a place, in order. -/
def namesAt (fs : Files) (place : Place) : List String :=
  let inside := fs.entries.filterMap fun e =>
    match e.1.reverse with
    | name :: above => if above.reverse = place then some name else none
    | [] => none
  inside.mergeSort fun a b => a ≤ b

/-! ## Following paths -/

/-- The most bytes a name can have. -/
def nameLimit : Nat := 255

/-- More bytes than any path can have. -/
def pathLimit : Nat := 4096

/-- What is wrong with a path whatever the files are. -/
def pathFault? (path : String) : Option FileFault :=
  if path.toList.contains '\x00' then some .malformed
  else if path.isEmpty then some .notFound
  else if pathLimit ≤ path.utf8ByteSize then some .nameTooLong
  else none

/-- Follows a name from a place, which has to be a directory. Nothing has to stand where the name
leads. -/
def follow (fs : Files) (place : Place) (name : String) : Except FileFault Place :=
  match fs.entry? place with
  | none => .error .notFound
  | some .directory =>
    if name = "." then .ok place
    else if name = ".." then .ok place.dropLast
    else if nameLimit < name.utf8ByteSize then .error .nameTooLong
    else .ok (place ++ [name])
  | some _ => .error .notDirectory

/-- The place that a path names. -/
def target (fs : Files) (path : String) : Except FileFault Place :=
  match pathFault? path with
  | some fault => .error fault
  | none => (Path.names path).foldlM fs.follow []

/-- The place that a path leads to and what stands there. -/
def find (fs : Files) (path : String) : Except FileFault (Place × Entry) :=
  match fs.target path with
  | .error fault => .error fault
  | .ok place =>
    match fs.entry? place with
    | none => .error .notFound
    | some entry =>
      if Path.namesDirectory path && entry ≠ .directory then .error .notDirectory
      else .ok (place, entry)

/-- Whether a path leads to anything. -/
def has (fs : Files) (path : String) : Bool := (fs.find path).isOk

/-- Whether a path leads to a directory. -/
def isDirectory (fs : Files) (path : String) : Bool :=
  match fs.find path with
  | .ok (_, .directory) => true
  | _ => false

/-- The place of a file that is to be written. A directory cannot be, and no file has a path that
only a directory can have. -/
def fileTarget (fs : Files) (path : String) : Except FileFault Place :=
  match fs.target path with
  | .error fault => .error fault
  | .ok place =>
    if Path.namesDirectory path || fs.entry? place = some .directory then .error .isDirectory
    else .ok place

/-! ## Reading and writing -/

/-- The bytes of a file. A program is not looked into, and a device without end gives none. -/
def read (fs : Files) (path : String) : Except FileFault (List UInt8) :=
  match fs.find path with
  | .error fault => .error fault
  | .ok (_, .directory) => .error .isDirectory
  | .ok (_, .file content) => .ok content
  | .ok _ => .ok []

/-- The text of a file. -/
def readText (fs : Files) (path : String) : Except FileFault (List Char) :=
  match fs.read path with
  | .error fault => .error fault
  | .ok bytes =>
    match Text.decode? bytes with
    | some text => .ok text
    | none => .error .notText

/-- Replaces or creates a file. A device keeps nothing. -/
def write (fs : Files) (path : String) (content : List UInt8) : Except FileFault Files :=
  match fs.fileTarget path with
  | .error fault => .error fault
  | .ok place =>
    match fs.entry? place with
    | some (.dummy .full) => if content.isEmpty then .ok fs else .error .noSpace
    | some (.dummy _) => .ok fs
    | _ => .ok (fs.put place (.file content))

/-- Replaces or creates a file with a text. -/
def writeText (fs : Files) (path : String) (text : String) : Except FileFault Files :=
  fs.write path (Text.encode text.toList)

/-- Moves a file onto a path in one step, replacing a file that stands there. -/
def rename (fs : Files) (source path : String) : Except FileFault Files :=
  match fs.find source with
  | .error fault => .error fault
  | .ok (_, .directory) => .error .isDirectory
  | .ok (place, entry) =>
    match fs.fileTarget path with
    | .error fault => .error fault
    | .ok new => .ok ((fs.prune place).put new entry)

/-- Takes a file away. -/
def removeFile (fs : Files) (path : String) : Except FileFault Files :=
  match fs.find path with
  | .error fault => .error fault
  | .ok (_, .directory) => .error .isDirectory
  | .ok (place, _) => .ok (fs.prune place)

/-! ## Directories -/

/-- Takes a path away with everything below it, if it is there. -/
def removeTree (fs : Files) (path : String) : Files :=
  match fs.find path with
  | .ok (place, _) => fs.prune place
  | .error _ => fs

/-- Takes an empty directory away. -/
def removeDirectory (fs : Files) (path : String) : Except FileFault Files :=
  match fs.find path with
  | .error fault => .error fault
  | .ok (place, .directory) =>
    if (fs.namesAt place).isEmpty then .ok (fs.prune place) else .error .notEmpty
  | .ok _ => .error .notDirectory

/-- Makes a directory in one that is there. -/
def makeDirectory (fs : Files) (path : String) : Except FileFault Files :=
  match fs.target path with
  | .error fault => .error fault
  | .ok place =>
    if (fs.entry? place).isSome then .error .occupied else .ok (fs.put place .directory)

/-- Follows a name to a directory, which is made if nothing is there. -/
def enter (fs : Files) (place : Place) (name : String) : Except FileFault (Files × Place) :=
  match fs.follow place name with
  | .error fault => .error fault
  | .ok place =>
    match fs.entry? place with
    | none => .ok (fs.put place .directory, place)
    | some .directory => .ok (fs, place)
    | some _ => .error .occupied

/-- Makes a directory and those above it, as far as nothing is in the way. -/
def makeDirectories (fs : Files) (path : String) : Files :=
  ((Path.names path).foldl (fun (fs, place) name =>
    match place with
    | none => (fs, none)
    | some place =>
      match fs.enter place name with
      | .ok (fs, place) => (fs, some place)
      | .error _ => (fs, none)) (fs, some [])).1

/-- The names in a directory, in order. -/
def names (fs : Files) (path : String) : List String :=
  match fs.find path with
  | .ok (place, .directory) => fs.namesAt place
  | _ => []

/-! ## Programs -/

/-- Why the file at a path cannot be run, if it cannot: only programs can be. -/
def runFault? (fs : Files) (path : String) : Option FileFault :=
  match fs.find path with
  | .error fault => some fault
  | .ok (_, .program) => none
  | .ok _ => some .denied

end Files

end Gateway
