import Gateway.Battery.Policy
import Gateway.Status

/-!
# Configuration

The sections of the configuration and their built-in values.
-/

namespace Gateway

/-- The message bus that the control interface is offered on. -/
inductive BusChoice where
  | system
  | session
deriving DecidableEq, Repr

/-- The name of a message bus. -/
def BusChoice.label : BusChoice → String
  | system => "system"
  | session => "session"

/-- The LEDs: the directory of their nodes, the time between two render ticks and how many of them
write every channel again. -/
structure LedSection where
  root : String
  renderMillis : UInt64
  forceEvery : UInt64
deriving DecidableEq, Repr

/-- The battery: its readings, the charger switch and the charge window. -/
structure BatterySection where
  readings : String
  stopSwitch : String
  charge : Battery.ChargePolicy
deriving DecidableEq, Repr

/-- The modem: the service that talks to it, its object if none can be found, the time an answer may
take and the time between two polls. -/
structure ModemSection where
  service : String
  defaultEndpoint : String
  answerMillis : UInt64
  pollSeconds : UInt64
deriving DecidableEq, Repr

/-- The access point: whether it is wanted, and where its processes show. -/
structure WifiSection where
  policy : WifiPolicy
  pidFiles : List String
  processRoot : String
  pollSeconds : UInt64
deriving DecidableEq, Repr

/-- The power key: its devices and code, the times of its gestures, and the shutdown. -/
structure PowerKeySection where
  enabled : Bool
  devices : List String
  keyCode : UInt16
  longPressMillis : UInt64
  doubleClickMillis : UInt64
  shutdownDelayMillis : UInt64
  shutdownCommand : List String
deriving DecidableEq, Repr

/-- The control interface: whether it is offered, and where. -/
structure ControlSection where
  enabled : Bool
  bus : BusChoice
deriving DecidableEq, Repr

/-- The whole configuration. -/
structure Config where
  version : UInt8
  leds : LedSection
  battery : BatterySection
  modem : ModemSection
  wifi : WifiSection
  powerKey : PowerKeySection
  control : ControlSection
deriving DecidableEq, Repr

/-- The built-in values. -/
def Config.builtIn : Config where
  version := 1
  leds := ⟨"/sys/class/leds", 500, 6⟩
  battery :=
    ⟨"/sys/class/power_supply/battery/uevent",
      "/sys/class/power_supply/battery/charger.0/stop_charge", .initial⟩
  modem := ⟨"org.ofono", "/ril_0", 8000, 2⟩
  wifi := ⟨.initial, ["/mnt/data/hw5pid", "/mnt/data/hw2pid"], "/proc", 2⟩
  powerKey :=
    ⟨true, (List.range 4).map fun n => "/dev/input/event" ++ toString n, 116, 2000, 500, 4000,
      ["poweroff"]⟩
  control := ⟨true, .system⟩

/-! ## Validity -/

/-- Why a configuration is refused. -/
inductive ConfigFault where
  | charge (fault : Battery.ChargePolicyFault)
  | zero (setting : String)
  | noShutdownCommand
  | noDevice
  | endpoint (path : String)
deriving DecidableEq, Repr

/-- The text of a fault. -/
def ConfigFault.message : ConfigFault → String
  | charge fault => "Invalid battery.charge section: " ++ fault.message
  | zero setting => setting ++ " must be greater than zero"
  | noShutdownCommand => "power_key.shutdown_command must not be empty"
  | noDevice => "power_key.devices must list at least one device when enabled"
  | endpoint path => "modem.default_endpoint '" ++ path ++ "' is not an object path"

namespace Config

/-- The numbers that may not be zero, as times and counts of the loops. -/
def positives (c : Config) : List (String × UInt64) := [
  ("leds.render_interval_ms", c.leds.renderMillis),
  ("leds.force_rewrite_every", c.leds.forceEvery),
  ("modem.at_timeout_ms", c.modem.answerMillis),
  ("modem.poll_interval_secs", c.modem.pollSeconds),
  ("wifi.poll_interval_secs", c.wifi.pollSeconds),
  ("power_key.long_press_ms", c.powerKey.longPressMillis),
  ("power_key.double_click_ms", c.powerKey.doubleClickMillis)]

/-- The first rule that a configuration breaks. -/
def validate (c : Config) : Except ConfigFault Unit :=
  match c.battery.charge.validate with
  | .error fault => .error (.charge fault)
  | .ok () =>
    match c.positives.find? (·.2 == 0) with
    | some (name, _) => .error (.zero name)
    | none =>
      if c.powerKey.shutdownCommand.isEmpty then .error .noShutdownCommand
      else if c.powerKey.enabled && c.powerKey.devices.isEmpty then .error .noDevice
      else if c.modem.defaultEndpoint.toList.head? != some '/' then
        .error (.endpoint c.modem.defaultEndpoint)
      else .ok ()

end Config

end Gateway
