import Gateway.Text.Split
import Gateway.Text.Utf8

/-!
# Kernel events about the battery

A kernel event is a datagram of `name=value` fields with zero bytes between them. It is about the
battery if one field names the power supply subsystem and another the battery, by name or by the
path of its device. Fields that are not UTF-8 say nothing.
-/

namespace Gateway.Battery

/-- What the fields of a datagram named so far. -/
structure Named where
  subsystem : Bool
  battery : Bool
deriving DecidableEq, Repr

namespace Named

/-- With another field. One that is no text, or has no equals sign, names nothing. -/
def note (named : Named) (field : List UInt8) : Named :=
  match (Text.decode? field).bind (Text.cutAt '=') with
  | none => named
  | some (name, value) =>
    match String.ofList name, String.ofList value with
    | "SUBSYSTEM", "power_supply" => { named with subsystem := true }
    | "POWER_SUPPLY_NAME", "battery" => { named with battery := true }
    | "DEVPATH", _ =>
      if Text.occursIn "/battery".toList value then { named with battery := true } else named
    | _, _ => named

end Named

/-- Whether a datagram is about the battery. -/
def isBatteryEvent (datagram : List UInt8) : Bool :=
  let named := (Text.fields (· == 0) datagram).foldl Named.note ⟨false, false⟩
  named.subsystem && named.battery

end Gateway.Battery
