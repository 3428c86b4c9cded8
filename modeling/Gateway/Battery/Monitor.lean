import Gateway.Battery.Policy
import Gateway.Files

/-!
# The charge monitor

Reads the battery, moves the charger's switch and tells subscribers. A subscriber is told once when
it registers, and then whenever a battery event's reading has another key than the last one it was
told of.
-/

namespace Gateway.Battery

/-! ## The state file and the switch -/

/-- Reading the state file failed. -/
structure ReadFault where
  file : String
  cause : FileFault
deriving DecidableEq, Repr

/-- The text of a failed reading. -/
def ReadFault.message (f : ReadFault) : String :=
  "Failed to read battery state from " ++ f.file ++ ": " ++ f.cause.message

/-- Moving the switch failed. -/
structure SwitchFault where
  value : String
  file : String
  cause : FileFault
deriving DecidableEq, Repr

/-- The text of a failed switch. -/
def SwitchFault.message (f : SwitchFault) : String :=
  "Failed to write " ++ f.value ++ " to " ++ f.file ++ ": " ++ f.cause.message

/-- The reading that the state file holds. -/
def readState (fs : Files) (file : String) : Except ReadFault Reading :=
  match fs.readText file with
  | .ok text => .ok (Reading.parse text)
  | .error cause => .error ⟨file, cause⟩

/-- What the switch file holds: it stops the charger when it holds 1. -/
def switchValue (charge : Bool) : String := if charge then "0" else "1"

/-- Lets the charger charge or stops it. -/
def setSwitch (fs : Files) (file : String) (charge : Bool) : Except SwitchFault Files :=
  match fs.writeText file (switchValue charge) with
  | .ok fs => .ok fs
  | .error cause => .error ⟨switchValue charge, file, cause⟩

/-- The position that an action asks of the switch. -/
def ChargeAction.charge? : ChargeAction → Option Bool
  | .start => some true
  | .stop => some false
  | .hold => none

/-! ## The monitor -/

/-- The charge window in force and the subscribers. -/
structure Monitor where
  stateFile : String
  switchFile : String
  policy : ChargePolicy
  /-- The key each subscriber was told last, in the order of registration. -/
  told : List Key
deriving DecidableEq, Repr

namespace Monitor

/-- A monitor without subscribers. -/
def new (stateFile switchFile : String) (policy : ChargePolicy) : Monitor :=
  ⟨stateFile, switchFile, policy, []⟩

/-- The battery now; one that cannot be read gives an empty reading. -/
def current (m : Monitor) (fs : Files) : Reading :=
  match readState fs m.stateFile with
  | .ok r => r
  | .error _ => .empty

/-- A new subscriber, told of a reading. -/
def subscribe (m : Monitor) (r : Reading) : Monitor := { m with told := m.told ++ [r.key] }

/-- The subscribers that a reading is news to. -/
def audience (m : Monitor) (r : Reading) : List Nat :=
  (m.told.zipIdx.filter fun (key, _) => key ≠ r.key).map (·.2)

/-- The subscribers after those that a reading is news to were told. -/
def tell (m : Monitor) (r : Reading) : Monitor :=
  { m with told := m.told.map fun key => if key ≠ r.key then r.key else key }

/-- Moves the switch as the charge window asks. A switch that cannot be moved stays as it is; the
next reading tries again. -/
def enforce (m : Monitor) (fs : Files) (r : Reading) : ChargeAction × Files :=
  let action := m.policy.decide r
  match action.charge? with
  | none => (action, fs)
  | some charge =>
    match setSwitch fs m.switchFile charge with
    | .ok fs => (action, fs)
    | .error _ => (action, fs)

/-- Puts another charge window in force, if it is valid. -/
def setPolicy (m : Monitor) (policy : ChargePolicy) : Except ChargePolicyFault Monitor :=
  match policy.validate with
  | .error fault => .error fault
  | .ok () => .ok { m with policy }

/-- What a battery event leads to. -/
structure EventOutcome where
  monitor : Monitor
  files : Files
  reading : Reading
  /-- The subscribers told of the reading. -/
  audience : List Nat

/-- A battery event: the battery is read, the charge window enforced and subscribers told. -/
def handleEvent (m : Monitor) (fs : Files) : EventOutcome :=
  let r := m.current fs
  ⟨m.tell r, (m.enforce fs r).2, r, m.audience r⟩

/-- A new subscriber, told of the battery now. -/
def register (m : Monitor) (fs : Files) : Monitor × Reading :=
  let r := m.current fs
  (m.subscribe r, r)

end Monitor

end Gateway.Battery
