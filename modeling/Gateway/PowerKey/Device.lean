import Gateway.Files
import Gateway.PowerKey.Reader

/-!
# Key devices

The device that the power key is read from: the first of several that can be opened. Its records are
read to the end, and the watched key's presses and releases are handed on while someone takes them.
-/

namespace Gateway.PowerKey

/-- Whether a device can be opened; a directory can, though nothing can be read from it. -/
def opens (fs : Files) (device : String) : Bool := fs.has device

/-- The first device that can be opened. -/
def openFirst? (fs : Files) (devices : List String) : Option String := devices.find? (opens fs)

/-- The bytes that can be read from an opened device. -/
def contents (fs : Files) (device : String) : List UInt8 :=
  match fs.read device with
  | .ok bytes => bytes
  | .error _ => []

/-- What reading a device to its end hands on. Each read gets all that it asks for, where there is as
much. -/
def forwarded (takes : Nat → Bool) (keyCode : Nat) (bytes : List UInt8) : List Transition :=
  ((Reader.start bytes).run (fun _ => recordSize) takes keyCode).1.sent

/-- The name by which a device is shown: the last part of its path. -/
def deviceLabel (device : String) : String :=
  match ((device.splitOn "/").filter fun name => name ≠ "" ∧ name ≠ ".").getLast? with
  | some ".." => device
  | some name => name
  | none => device

/-- The switch that double clicks turn, and whether a device was opened. -/
structure KeySwitch where
  ledEnabled : Bool
  available : Bool
deriving DecidableEq, Repr

namespace KeySwitch

/-- LEDs are enabled, and no device was opened. -/
def initial : KeySwitch := ⟨true, false⟩

/-- Turns the switch. -/
def toggle (s : KeySwitch) : KeySwitch := { s with ledEnabled := !s.ledEnabled }

end KeySwitch

end Gateway.PowerKey
