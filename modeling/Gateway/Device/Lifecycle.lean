import Gateway.Device.Step
import Gateway.PowerKey.Device

/-!
# Starting and stopping

Services are started in the order of their priorities. One that is critical and fails to start ends
the start; of the others the device goes without. The main loop heeds notices until it is told to
end, and then stops every service.
-/

namespace Gateway

/-- A service of the daemon. -/
inductive Service where
  | leds
  | battery
  | powerKey
  | control
  | network
  | wifi
  | configWatcher
deriving DecidableEq, Repr

namespace Service

/-- The name of a service. -/
def name : Service → String
  | leds => "LedService"
  | battery => "BatteryService"
  | powerKey => "PowerKeyService"
  | control => "DBusService"
  | network => "NetworkService"
  | wifi => "WifiService"
  | configWatcher => "ConfigWatcherService"

/-- Services of higher priority start first. -/
def priority : Service → Nat
  | leds => 10
  | battery => 9
  | powerKey => 8
  | control => 8
  | network => 7
  | wifi => 7
  | configWatcher => 6

/-- Whether the daemon cannot do without. -/
def isCritical : Service → Bool
  | leds => true
  | _ => false

/-- The services in the order in which they start, with or without the control interface. -/
def registered (withControl : Bool) : List Service :=
  ([leds, battery, powerKey, network, wifi, configWatcher]
    ++ if withControl then [control] else []).mergeSort fun a b => b.priority ≤ a.priority

end Service

namespace Device

/-! ## Services -/

/-- Why a service does not start. -/
def alreadyStarted : String := "Status aggregator already started"

/-- Starts the LED loop, once. -/
def runLoop (d : Device) : Except String Device :=
  if d.loop.isWaiting then .ok { d with loop := d.loop.start d.now } else .error alreadyStarted

/-- Starts the battery service. -/
def startBattery (d : Device) : Device :=
  let service := if d.kernelEvents then BatteryService.listening
    else .polling ⟨batteryPeriod, d.now + batteryPeriod, .delay, by decide⟩
  { d.enforceWindow with battery := service }

/-- Hands the LED loop key events that all come now. -/
def press (d : Device) (keys : List PowerKey.Transition) : Device :=
  { d with loop := keys.foldl (fun loop k => (loop.press? ⟨k, d.now⟩).getD loop) d.loop }

/-- Hands the LED loop what a key device holds. -/
def readKeys (d : Device) (device : String) : Device :=
  { d with keyDevice := true }.press
    (PowerKey.forwarded (fun _ => d.loop.takes) d.store.config.powerKey.keyCode.toNat
      (PowerKey.contents d.files device))

/-- A double click of the power key. -/
def doubleClick (d : Device) : Device := (d.press [.down, .up, .down, .up]).settle

/-- Starts the power key service. -/
def startPowerKey (d : Device) : Except String Device :=
  let c := d.store.config.powerKey
  if !c.enabled then .ok d
  else match PowerKey.openFirst? d.files c.devices with
    | some device => .ok (d.readKeys device)
    | none => .error "no usable input device"

/-- The seconds between two polls in milliseconds. -/
def pollPeriod (seconds : UInt64) : Nat := seconds.toNat * 1000

/-- Starts the watcher, if there is a directory to watch. -/
def startWatcher (d : Device) : Except String Device :=
  if d.files.isDirectory (Path.parent d.store.path) then
    .ok { d with watcher := some (.start d.now) }
  else .error (FileFault.message .notFound)

/-- Offers the control interface under its name. Without the name no one is told of gestures. -/
def startControl (d : Device) : Device × Except String Unit :=
  let (bus, granted) := Control.requestName d.bus
  let d := { d with bus }
  if granted then
    ({ d with relay := some d.board.readers.length, board := d.board.subscribe }, .ok ())
  else (d, .error ("Failed to own " ++ Control.serviceName))

/-- A start that leaves the device as it is where it fails. -/
def attempt (d : Device) : Except String Device → Device × Except String Unit
  | .ok started => (started, .ok ())
  | .error text => (d, .error text)

/-- Starts a service. -/
def startService (d : Device) : Service → Device × Except String Unit
  | .leds => d.attempt (d.runLoop.map fun d => { d with loopService := true })
  | .battery => (d.startBattery, .ok ())
  | .powerKey => d.attempt d.startPowerKey
  | .control => d.startControl
  | .network =>
    let period := pollPeriod d.store.config.modem.pollSeconds
    ({ d with network := Network.Poller.start? d.now period }, .ok ())
  | .wifi =>
    let period := pollPeriod d.store.config.wifi.pollSeconds
    ({ d with wifi := Wifi.Poller.start? d.now period }, .ok ())
  | .configWatcher => d.attempt d.startWatcher

/-- Starts services in order, up to a critical one that fails. -/
def startServices (d : Device) : List Service → Device × Except String Unit
  | [] => (d, .ok ())
  | s :: rest =>
    match d.startService s with
    | (d, .ok ()) => startServices d rest
    | (d, .error text) =>
      if s.isCritical then
        (d, .error ("Critical service '" ++ s.name ++ "' failed to start: " ++ text))
      else startServices d rest

/-- The services of the device. Without a bus to offer it on there is no control interface. -/
def services (d : Device) : List Service :=
  Service.registered (d.store.config.control.enabled && d.bus.up)

/-! ## The main loop -/

/-- The main loop begins to heed notices. -/
def enterMain (d : Device) : Device :=
  { d with mainReader := some d.board.readers.length, board := d.board.subscribe }

/-- How long the services get to stop, in milliseconds. -/
def stopTime : Nat := 10000

/-- Asks the services to stop. A poll of the network that has begun is waited for. -/
def stopServices (d : Device) : Device :=
  { d with
    loop := if d.loopService then d.loop.cancel else d.loop
    battery := .off
    network := d.network.filter (·.asking)
    wifi := none
    watcher := none
    relay := none
    bus := if d.relay.isSome then Control.releaseName d.bus else d.bus
    board := (d.relay.map d.board.leave).getD d.board
    stopping := true }

/-- Stops the services and waits until they have. -/
def stop (d : Device) : Device :=
  d.stopServices.runUntil (fun d => d.network.isNone) (some (d.now + stopTime)) stepLimit

/-- The main loop ends: it heeds no more notices and stops the services. -/
def leaveMain (d : Device) : Device :=
  match d.mainReader with
  | none => d
  | some reader => { d with mainReader := none, board := d.board.leave reader }.stop

end Device

end Gateway
