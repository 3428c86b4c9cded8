import Gateway.Led.Channel
import Gateway.MessageBus.Variant
import Gateway.Modem.Band
import Gateway.Modem.Fault
import Gateway.Plain
import Gateway.Text.Json

/-!
# The control interface

What clients can ask of the daemon, how arguments are checked, and how answers and errors are shown.
-/

namespace Gateway.Control

/-- The interface's own name. -/
def interfaceName : String := "io.github.gatewayd1"

/-- The name that the daemon owns on the bus. -/
def serviceName : String := "io.github.gatewayd"

/-- The object that offers the interface. -/
def objectPath : String := "/io/github/gatewayd"

/-- A call with its arguments. -/
inductive Method where
  | executeAt (command : String)
  | setLedMode (channel mode : Nat)
  | setLedBrightness (channel : Nat) (brightness : UInt8)
  | allLedsOff
  | refreshLeds
  | setWifiRequested (requested : Bool)
  | ledSnapshot
  | batteryStatus
  | batteryInfo
  | setCharging (enable : Bool)
  | setChargePolicy (enabled : Bool) (start stop : UInt8)
  | lockBands (names : List String)
  | unlockBands
  | queryBands
  | lockCell (technology : String) (frequency : UInt32) (cell : UInt16)
  | unlockCell
  /-- Reads a property. -/
  | get (property : String)
  /-- Any call with an argument that cannot be read. -/
  | unreadable
deriving DecidableEq, Repr

/-- Whether an argument can be read. -/
def isReadable : PlainValue → Bool
  | .text s => MessageBus.isReadable s
  | .texts items => items.all MessageBus.isReadable
  | _ => true

/-- The call of a method by its name. An argument that is missing or of another type counts as zero,
false or empty. -/
def Method.ofCall? (method : String) (arguments : List PlainValue) : Option Method :=
  let number (n : Nat) : Nat := ((arguments[n]?).bind PlainValue.number?).getD 0
  let byte (n : Nat) : UInt8 := UInt8.ofNat (number n)
  let flag : Bool := (arguments.head?.bind PlainValue.flag?).getD false
  let text : String := (arguments.head?.bind PlainValue.text?).getD ""
  if !arguments.all isReadable then some .unreadable
  else match method with
  | "ExecuteAt" => some (.executeAt text)
  | "SetLedMode" => some (.setLedMode (number 0) (number 1))
  | "SetLedBrightness" => some (.setLedBrightness (number 0) (byte 1))
  | "AllLedsOff" => some .allLedsOff
  | "RefreshLeds" => some .refreshLeds
  | "SetWifiRequested" => some (.setWifiRequested flag)
  | "LedSnapshot" => some .ledSnapshot
  | "BatteryStatus" => some .batteryStatus
  | "BatteryInfo" => some .batteryInfo
  | "SetCharging" => some (.setCharging flag)
  | "SetChargePolicy" => some (.setChargePolicy flag (byte 1) (byte 2))
  | "LockBands" => some (.lockBands ((arguments.head?.bind PlainValue.texts?).getD []))
  | "UnlockBands" => some .unlockBands
  | "QueryBands" => some .queryBands
  | "LockCell" =>
    some (.lockCell text (UInt32.ofNat (number 1)) (UInt16.ofNat (number 2)))
  | "UnlockCell" => some .unlockCell
  | "Get" => some (.get text)
  | _ => none

/-- Why a call fails. -/
inductive Fault where
  | failed (text : String)
  | invalidArguments (text : String)
  | unknownProperty (name : String)
  /-- An argument cannot be read. -/
  | unreadable
deriving DecidableEq, Repr

namespace Fault

/-- The name of an error on the bus. -/
def label : Fault → String
  | failed _ => "org.freedesktop.DBus.Error.Failed"
  | invalidArguments _ => "org.freedesktop.DBus.Error.InvalidArgs"
  | unknownProperty _ => "org.freedesktop.DBus.Error.UnknownProperty"
  | unreadable => "org.freedesktop.zbus.Error"

/-- The text of an error. -/
def message : Fault → String
  | failed text => text
  | invalidArguments text => text
  | unknownProperty name => "Unknown property '" ++ name ++ "'"
  | unreadable => MessageBus.unreadable

end Fault

/-- What a call gives. -/
inductive Value where
  | nothing
  | text (text : String)
  | flag (b : Bool)
  /-- A capacity, and whether the battery is being charged. -/
  | battery (capacity : UInt8) (charging : Bool)
deriving DecidableEq, Repr

/-- What a client gets to see of an answer. -/
inductive Delivery where
  | value (v : Value)
  /-- An error by its name, and its text if that can be read. -/
  | fault (label : String) (text : Option String)
  /-- The client cannot read the answer, and this is why. -/
  | unreadable (text : String)
deriving DecidableEq, Repr

/-- How an answer reaches a client. -/
def delivered : Except Fault Value → Delivery
  | .error fault =>
    .fault fault.label (if MessageBus.isReadable fault.message then some fault.message else none)
  | .ok (.text s) =>
    if MessageBus.isReadable s then .value (.text s) else .unreadable MessageBus.unreadable
  | .ok v => .value v

/-! ## Arguments -/

/-- The channel of a number. -/
def channel? (n : Nat) : Except Fault Led.Channel :=
  match Led.Channel.ofNumber? n with
  | some c => .ok c
  | none => .error (.invalidArguments ("no LED channel " ++ toString n))

/-- The mode of a number. -/
def mode? (n : Nat) : Except Fault Led.Mode :=
  match Led.Mode.ofNumber? n with
  | some m => .ok m
  | none => .error (.invalidArguments ("no LED mode " ++ toString n))

/-- The bands of some names. -/
def bands? (names : List String) : Except Fault (List Modem.Band) :=
  names.mapM fun name =>
    match Modem.Band.ofName? name with
    | some b => .ok b
    | none => .error (.invalidArguments ("unknown band " ++ Text.quoted name))

/-- The technology of a name, whatever the case of its letters. -/
def technology? (name : String) : Except Fault Modem.Technology :=
  let small := Text.lowered name.toList
  if small = "lte".toList ∨ small = "4g".toList then .ok .lte
  else if small = "nr".toList ∨ small = "5g".toList then .ok .nr
  else .error (.invalidArguments ("unknown RAT " ++ Text.quoted name))

/-! ## Answers -/

/-- The locked bands as text, with their masks. -/
def bandsJson (m : Modem.BandMasks) : String :=
  Text.Json.object [
    ("locked", Text.Json.array (m.locked.map fun b => Text.Json.string b.name)),
    ("masks", Text.Json.object [
      ("lte_fdd", Text.Json.nat m.lteFdd.toNat),
      ("lte_tdd", Text.Json.nat m.lteTdd.toNat),
      ("nr_fdd", Text.Json.nat m.nrFdd.toNat),
      ("nr_tdd", Text.Json.nat m.nrTdd.toNat)])]

end Gateway.Control
