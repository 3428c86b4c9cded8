import Gateway.Single.Shortest
import Gateway.Text.Blank
import Gateway.Text.Json
import Gateway.Text.Numeral
import Gateway.Text.Split

/-!
# Battery readings

The battery's state file holds one `name=value` line per property. A reading keeps six of them; of
several lines with one name the last counts, also when its value cannot be read.
-/

namespace Gateway.Battery

/-- What the battery reports. -/
structure Reading where
  status : String
  health : String
  /-- Percent, at most 100. -/
  capacity : Option UInt8
  /-- Degrees Celsius. -/
  temperature : Option Single
  /-- Volts. -/
  voltage : Option Single
  /-- Amperes. -/
  current : Option Single
deriving DecidableEq, Repr

/-- What others are told of: the capacity and whether the battery is being charged. -/
structure Key where
  capacity : Option UInt8
  charging : Bool
deriving DecidableEq, Repr

namespace Reading

/-- The reading of an empty file. -/
def empty : Reading := ⟨"", "", none, none, none, none⟩

/-- A capacity, brought into the range from 0 to 100. -/
def percent? (value : List Char) : Option UInt8 :=
  (Text.signed? (Nat.pow 2 63 - 1) value).map fun n => UInt8.ofNat (min n.toNat 100)

/-- A number of parts of which `scale` make one unit. -/
def scaled? (scale : Nat) (value : List Char) : Option Single :=
  (Single.parse? value).map (·.dividedBy scale)

/-- A reading with one property noted. -/
def note (r : Reading) (name value : List Char) : Reading :=
  match String.ofList name with
  | "POWER_SUPPLY_STATUS" => { r with status := String.ofList value }
  | "POWER_SUPPLY_HEALTH" => { r with health := String.ofList value }
  | "POWER_SUPPLY_CAPACITY" => { r with capacity := percent? value }
  | "POWER_SUPPLY_TEMP" => { r with temperature := scaled? 10 value }
  | "POWER_SUPPLY_VOLTAGE_NOW" => { r with voltage := scaled? 1000000 value }
  | "POWER_SUPPLY_CURRENT_NOW" => { r with current := scaled? 1000000 value }
  | _ => r

/-- A reading with one line noted; a line without an equals sign says nothing. -/
def noteLine (r : Reading) (line : List Char) : Reading :=
  match Text.cutAt '=' line with
  | some (name, value) => r.note (Text.trim name) (Text.trim value)
  | none => r

/-- The reading that a text holds. -/
def parse (text : List Char) : Reading := (Text.lines text).foldl noteLine empty

/-- Whether the battery is being charged. -/
def isCharging (r : Reading) : Bool := r.status == "Charging"

/-- The part of the reading that the status LEDs show. -/
def key (r : Reading) : Key := ⟨r.capacity, r.isCharging⟩

/-- A number as text; one that is missing or not finite is null. -/
def numberJson (x : Option Single) : String := (x.bind Single.text).getD "null"

/-- The reading as text. -/
def json (r : Reading) : String :=
  Text.Json.object [
    ("status", Text.Json.string r.status),
    ("health", Text.Json.string r.health),
    ("capacity", Text.Json.option (Text.Json.nat ∘ UInt8.toNat) r.capacity),
    ("temperature", numberJson r.temperature),
    ("voltage", numberJson r.voltage),
    ("current", numberJson r.current)]

end Reading

end Gateway.Battery
