import Gateway.Battery.Monitor
import Gateway.Command
import Gateway.Config.Store
import Gateway.Config.Watcher
import Gateway.Control.Publication
import Gateway.Loop.Task
import Gateway.Modem.Calls
import Gateway.Poller

/-!
# The device

Everything that runs in the daemon, with its files, its modem and its clock: the LED loop, the
charge monitor, the command bus, the notice board and the services. Nothing happens by itself; the
modules beside this one say what can be done and when.
-/

namespace Gateway

/-- How the battery service learns of changes. -/
inductive BatteryService where
  | off
  /-- By the kernel's events. -/
  | listening
  /-- By looking every so often. -/
  | polling (ticker : Ticker)
deriving DecidableEq, Repr

/-- The outcome of a call to the modem. -/
abbrev ModemOutcome := Except Modem.CommandFault Modem.CallValue

/-- The daemon with its surroundings. -/
structure Device where
  /-- The time in milliseconds. -/
  now : Nat
  files : Files
  store : ConfigStore
  board : NoticeBoard
  monitor : Battery.Monitor
  loop : Loop.Task
  /-- Whether the LED loop runs as a service. -/
  loopService : Bool
  probe : Wifi.Probe
  exchange : Modem.Exchange ModemOutcome
  /-- The number of the next caller of the modem. -/
  nextCaller : Nat
  runner : Runner
  shutdownCommand : List String
  /-- The command lines run, latest first. -/
  commands : List (List String)
  /-- What was noted of them, latest first. -/
  notes : List String
  /-- Whether a power key device was opened. -/
  keyDevice : Bool
  battery : BatteryService
  network : Option Network.Poller
  wifi : Option Wifi.Poller
  watcher : Option Watcher
  /-- The main loop's place among the readers of the notice board while it runs. -/
  mainReader : Option Nat
  /-- Whether the services were asked to stop. -/
  stopping : Bool
  /-- The bus that the control interface is offered on. -/
  bus : MessageBus.Bus
  /-- The place of the control interface among the readers of the notice board while it is offered.
  -/
  relay : Option Nat
  /-- Whether the kernel's events can be listened to. -/
  kernelEvents : Bool
  version : String

namespace Device

/-- The settings of the LED loop in a configuration. -/
def loopSettings (c : Config) : Loop.Settings where
  renderPeriod := c.leds.renderMillis.toNat
  forceEvery := c.leds.forceEvery
  timing := ⟨c.powerKey.longPressMillis.toNat, c.powerKey.doubleClickMillis.toNat⟩
  shutdownDelay := c.powerKey.shutdownDelayMillis.toNat
  shutdownCommand := c.powerKey.shutdownCommand
  wifiPolicy := c.wifi.policy

/-- What a device is built of. -/
structure Parts where
  files : Files
  store : ConfigStore
  output : Led.Output
  modem : Modem.Script
  runner : Runner
  bus : MessageBus.Bus
  kernelEvents : Bool
  version : String

/-- A device with nothing started and no one told of the battery. -/
def bare (p : Parts) : Device :=
  let c := p.store.config
  { now := 0
    files := p.files
    store := p.store
    board := .new Broadcast.usualCapacity
    monitor := .new c.battery.readings c.battery.stopSwitch c.battery.charge
    loop := .new (loopSettings c) p.output
    loopService := false
    probe := ⟨c.wifi.pidFiles, c.wifi.processRoot⟩
    exchange := .new c.modem.answerMillis.toNat p.modem
    nextCaller := 1
    runner := p.runner
    shutdownCommand := c.powerKey.shutdownCommand
    commands := []
    notes := []
    keyDevice := false
    battery := .off
    network := none
    wifi := none
    watcher := none
    mainReader := none
    stopping := false
    bus := p.bus
    relay := none
    kernelEvents := p.kernelEvents
    version := p.version }

/-- A message to the LED loop. -/
def tellLoop (d : Device) (m : Loop.Message) : Device := { d with loop := d.loop.send m }

/-- A device with nothing started, whose LED loop is told of the battery. -/
def new (p : Parts) : Device :=
  let d := bare p
  let (monitor, reading) := d.monitor.register d.files
  { d with monitor }.tellLoop (.battery reading)

/-- The LED table. -/
def table (d : Device) : Led.Table := d.loop.state.table

/-- The device with another LED table. -/
def withTable (d : Device) (table : Led.Table) : Device :=
  { d with loop := { d.loop with state := { d.loop.state with table } } }

/-- The notices that the first reader of the board has not read yet. -/
def observe (d : Device) : Device × List Notice :=
  let (board, notices) := d.board.drain 0
  ({ d with board }, notices)

/-! ## What parts do to others -/

/-- What the LED loop can see. -/
def surroundings (d : Device) : Loop.Surroundings :=
  ⟨d.now, d.monitor.current d.files, d.probe.isAlive d.files⟩

/-- The number of the last refresh, while there is a loop to ask for one. -/
def refreshNumber (d : Device) : Option Nat :=
  if d.loop.takes then some d.loop.state.refreshes else none

/-- Runs the shutdown command. -/
def runShutdown (d : Device) : Device :=
  let (result, files) := d.runner.runLine d.shutdownCommand d.files
  { d with
    files
    commands := if d.shutdownCommand.isEmpty then d.commands else d.shutdownCommand :: d.commands
    notes := result.shutdownNote :: d.notes }

/-- Does what a step of the LED loop wants. -/
def perform (d : Device) : List Loop.Effect → Device
  | [] => d
  | .publish notice :: rest => perform { d with board := d.board.publish notice } rest
  | .issueShutdown :: rest => perform d.runShutdown rest

/-- A battery event: the charge window is enforced, and the LED loop told if there is news. -/
def batteryEvent (d : Device) : Device × Battery.Key :=
  let o := d.monitor.handleEvent d.files
  let d := { d with monitor := o.monitor, files := o.files }
  (if o.audience.contains 0 then d.tellLoop (.battery o.reading) else d, o.reading.key)

/-- Enforces the charge window on the battery as it is now. -/
def enforceWindow (d : Device) : Device :=
  { d with files := (d.monitor.enforce d.files (d.monitor.current d.files)).2 }

/-- The configuration file was edited. -/
def noticeEdit (d : Device) : Device :=
  let edit := .event ⟨.modify, [d.store.path]⟩
  { d with watcher := d.watcher.map (·.hear d.store.path edit d.now) }

/-- Saves the configuration; what was written is an edit that the watcher notices. -/
def save (d : Device) : Device × Except SaveFault Unit :=
  let (files, saved) := d.store.save d.files
  let d := { d with files }
  (if saved.isOk then d.noticeEdit else d, saved)

/-- Starts a call to the modem. -/
def callModem (d : Device) (caller : Nat) (call : Modem.Call) : Device :=
  { d with exchange := d.exchange.proceed d.now caller call.procedure }

/-- Takes the outcome of a call to the modem, if it has one. -/
def takeOutcome? (d : Device) (caller : Nat) : Option (ModemOutcome × Device) :=
  (d.exchange.outcome? caller).map fun f =>
    (f.value, { d with
      exchange := { d.exchange with
        finished := d.exchange.finished.filter (·.caller ≠ caller) } })

end Device

end Gateway
