import Gateway.Files
import Gateway.Text.Blank
import Gateway.Text.Numeral

/-!
# The access point

Whether an access point process runs, told from the files that hold the processes' numbers and the
directory of running processes, and the latch that lets only changes through.
-/

namespace Gateway.Wifi

/-- Where to look for access point processes. -/
structure Probe where
  /-- The file of each radio that holds its process number. -/
  pidFiles : List String
  /-- The directory with one entry for each running process. -/
  processRoot : String
deriving DecidableEq, Repr

namespace Probe

/-- The process number that a text holds: not zero, and at most 32 bits long. -/
def processNumber? (text : List Char) : Option Nat :=
  (Text.unsigned? (UInt32.size - 1) (Text.trim text)).filter (0 < ·)

/-- Whether a process number file names a process that runs. -/
def namesRunning (p : Probe) (fs : Files) (pidFile : String) : Bool :=
  match fs.readText pidFile with
  | .error _ => false
  | .ok text =>
    match processNumber? text with
    | none => false
    | some n => fs.has (Path.join p.processRoot (toString n))

/-- Whether any radio's access point runs. -/
def isAlive (p : Probe) (fs : Files) : Bool := p.pidFiles.any (p.namesRunning fs)

end Probe

/-- Lets an observation through if it differs from the one before it. -/
structure Latch where
  last : Option Bool
deriving DecidableEq, Repr

namespace Latch

/-- A latch that saw nothing. -/
def new : Latch := ⟨none⟩

/-- Shows the latch an observation; it is passed on if it is new. -/
def observe (l : Latch) (alive : Bool) : Latch × Option Bool :=
  if l.last = some alive then (l, none) else (⟨some alive⟩, some alive)

/-- Forgets the last observation, so that the next one is passed on whatever it is. -/
def reset (_ : Latch) : Latch := new

end Latch

end Gateway.Wifi
