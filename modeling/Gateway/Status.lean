import Gateway.Led.Channel
import Gateway.Text.Json

/-!
# Device status

What is known of the device, and the rules that turn it into LED modes. Each rule names every
channel of its group, so the modes of a group depend on nothing but the status and the policy.
-/

namespace Gateway

/-- The state of the mobile network. -/
inductive NetworkState where
  /-- The modem could not be asked. -/
  | unknown
  | connected
  | offline
deriving DecidableEq, Repr, Inhabited

/-- The name of a network state. -/
def NetworkState.label : NetworkState → String
  | unknown => "Unknown"
  | connected => "Connected"
  | offline => "Offline"

/-- Everything the LEDs report; `none` where nothing is known. -/
structure DeviceStatus where
  batteryCapacity : Option UInt8
  batteryCharging : Option Bool
  network : NetworkState
  is5g : Option Bool
  wifiRunning : Option Bool
deriving DecidableEq, Repr

/-- The status before anything was learnt. -/
def DeviceStatus.unknown : DeviceStatus := ⟨none, none, .unknown, none, none⟩

/-- The status as text. -/
def DeviceStatus.json (s : DeviceStatus) : String :=
  Text.Json.object [
    ("battery_capacity", Text.Json.option (Text.Json.nat ∘ UInt8.toNat) s.batteryCapacity),
    ("battery_charging", Text.Json.option Text.Json.bool s.batteryCharging),
    ("network", Text.Json.string s.network.label),
    ("is_5g", Text.Json.option Text.Json.bool s.is5g),
    ("wifi_running", Text.Json.option Text.Json.bool s.wifiRunning)]

/-- Whether the access point is supposed to be up. -/
structure WifiPolicy where
  enabled : Bool
  apRequested : Bool
deriving DecidableEq, Repr

/-- The policy as text. -/
def WifiPolicy.json (p : WifiPolicy) : String :=
  Text.Json.object [
    ("enabled", Text.Json.bool p.enabled), ("ap_requested", Text.Json.bool p.apRequested)]

/-- The access point is wanted unless someone says otherwise. -/
def WifiPolicy.initial : WifiPolicy := ⟨true, true⟩

/-! ## Rules -/

/-- Channels with the modes they are to have. -/
abbrev ModeSet := List (Led.Channel × Led.Mode)

/-- A capacity below this counts as low. -/
def lowBattery : UInt8 := 30

open Led in
/-- Modes of the network group. The LEDs of the technology in use show the state; both reds flash
while it is unknown. -/
def networkModes (s : DeviceStatus) : ModeSet :=
  match s.network with
  | .unknown =>
    [(.lteRed, .slowFlash), (.lteGreen, .off), (.lteBlue, .off),
     (.nrRed, .slowFlash), (.nrGreen, .off), (.nrBlue, .off)]
  | state =>
    let (red, green) : Mode × Mode :=
      if state = .connected then (.off, .on) else (.slowFlash, .off)
    if s.is5g.getD false then
      [(.lteRed, .off), (.lteGreen, .off), (.lteBlue, .off),
       (.nrRed, red), (.nrGreen, green), (.nrBlue, .off)]
    else
      [(.lteRed, red), (.lteGreen, green), (.lteBlue, .off),
       (.nrRed, .off), (.nrGreen, .off), (.nrBlue, .off)]

open Led in
/-- The red and the green mode of a known capacity. -/
def capacityModes (capacity : UInt8) (charging : Bool) : Mode × Mode :=
  match charging, decide (capacity < lowBattery) with
  | true, true => (.slowFlash, .off)
  | true, false => if 100 ≤ capacity then (.off, .on) else (.off, .slowFlash)
  | false, true => (.on, .off)
  | false, false => (.off, .on)

/-- Modes of the battery group; both off while the capacity is unknown. -/
def batteryModes (s : DeviceStatus) : ModeSet :=
  let (red, green) := match s.batteryCapacity with
    | none => (.off, .off)
    | some capacity => capacityModes capacity (s.batteryCharging.getD false)
  [(.batteryRed, red), (.batteryGreen, green)]

/-- Modes of the WiFi group: off unless the access point is wanted, steady when it runs and flashing
until then. -/
def wifiModes (s : DeviceStatus) (policy : WifiPolicy) : ModeSet :=
  let green : Led.Mode :=
    if !policy.enabled || !policy.apRequested then .off
    else if s.wifiRunning = some true then .on
    else .slowFlash
  [(.wifiRed, .off), (.wifiGreen, green)]

/-- The shutdown pattern: every red flashes fast and all else is dark. -/
def shutdownModes : ModeSet :=
  Led.Channel.all.map fun c => (c, if c.isRed then .fastFlash else .off)

end Gateway
