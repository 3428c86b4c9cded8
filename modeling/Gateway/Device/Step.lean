import Gateway.Battery.KernelEvent
import Gateway.Device.Basic

/-!
# What the device does

Each part of the device has a step that it takes when it is due. `Device.step?` takes one of those
that are due; `Device.settle` goes on until none is, and `Device.advanceTo` moves the clock from one
time at which something is due to the next.
-/

namespace Gateway.Device

/-! ## The LED loop and the notices -/

/-- A turn of the LED loop. -/
def loopStep? (d : Device) : Option Device :=
  (d.loop.turn? d.surroundings).map fun (loop, effects) => { d with loop }.perform effects

/-- A hot change of the configuration reaches the charge monitor and the LED loop. A charge window
that is refused holds the rest back. -/
def applyHotChange (d : Device) : Device :=
  match d.monitor.setPolicy d.store.config.battery.charge with
  | .error _ => d
  | .ok monitor =>
    { d with monitor }.enforceWindow.tellLoop
      (.command (.setWifiPolicy d.store.config.wifi.policy))

/-- What the main loop does about a notice. -/
def heed (d : Device) : Notice → Device
  | .configChanged .hot => d.applyHotChange
  | _ => d

/-- The main loop takes a notice. -/
def mainStep? (d : Device) : Option Device := do
  let reader ← d.mainReader
  match d.board.receive reader with
  | (board, .event notice) => some ({ d with board }.heed notice)
  | (board, .lagged _) => some { d with board }
  | _ => none

/-- The control interface takes a notice and tells its clients of gestures. -/
def relayStep? (d : Device) : Option Device := do
  let reader ← d.relay
  match d.board.receive reader with
  | (board, .event (.gesture g)) => some { d with board, bus := Control.announce d.bus g }
  | (board, .event _) | (board, .lagged _) => some { d with board }
  | _ => none

/-! ## The services -/

/-- How often the battery is looked at where the kernel's events cannot be listened to. -/
def batteryPeriod : Nat := 30000

/-- The battery service looks at the battery. -/
def batteryStep? (d : Device) : Option Device :=
  match d.battery with
  | .polling ticker =>
    if ticker.isDue d.now then
      some { d with battery := .polling (ticker.fire d.now) }.batteryEvent.1
    else none
  | _ => none

/-- An event of the kernel reaches the battery service, if it listens. -/
def kernelEvent (d : Device) (datagram : List UInt8) : Device :=
  if d.battery = .listening ∧ Battery.isBatteryEvent datagram = true then d.batteryEvent.1 else d

/-- The caller of the modem that is the network poller. -/
def networkCaller : Nat := 0

/-- What the network poller takes an outcome for. -/
def networkAnswer : ModemOutcome → Except Modem.CommandFault Network.Reading
  | .ok (.reading r) => .ok r
  | .ok _ => .error .emptyResponse
  | .error fault => .error fault

/-- The network poller goes on after a poll, and the LED loop is told of a sample that is news. The
poller stops with the services, and with the LED loop. -/
def reportNetwork (d : Device) : Network.Poller × Option Network.Sample → Device
  | (p, none) => { d with network := if d.stopping then none else some p }
  | (p, some s) =>
    { d.tellLoop (.network s) with
      network := if !d.loop.takes || d.stopping then none else some p }

/-- A poll of the network ends. -/
def networkEnd? (d : Device) : Option Device := do
  let p ← d.network
  let (outcome, d) ← d.takeOutcome? networkCaller
  some (d.reportNetwork (p.finish (networkAnswer outcome)))

/-- A poll of the network begins. -/
def networkStep? (d : Device) : Option Device := do
  let p ← d.network
  if p.isDue d.now then
    some <| { d with network := some (p.begin d.refreshNumber d.now) }.callModem
      networkCaller .network
  else none

/-- The access point's poller goes on after a poll, and the LED loop is told of news. The poller
stops with the LED loop. -/
def reportWifi (d : Device) : Wifi.Poller × Option Bool → Device
  | (p, none) => { d with wifi := some p }
  | (p, some alive) =>
    { d.tellLoop (.wifi alive) with wifi := if d.loop.takes then some p else none }

/-- A poll of the access point. -/
def wifiStep? (d : Device) : Option Device := do
  let p ← d.wifi
  if p.isDue d.now then
    some (d.reportWifi (p.poll d.refreshNumber d.now (d.probe.isAlive d.files)))
  else none

/-- The configuration file is read after edits. What cannot be loaded is ignored. -/
def rereadConfig (d : Device) : Device :=
  if !d.files.has d.store.path then d
  else match d.store.reload d.files with
    | .error _ => d
    | .ok (change, store) => { d with store, board := d.board.publish (.configChanged change) }

/-- The watcher acts on edits. -/
def watcherStep? (d : Device) : Option Device := do
  let w ← d.watcher
  if w.isDue d.now then some { d with watcher := some (w.act d.now) }.rereadConfig else none

/-- Something happens on the way to the modem. -/
def exchangeStep? (d : Device) : Option Device :=
  (d.exchange.step? d.now).map fun exchange => { d with exchange }

/-! ## Time -/

/-- One of the steps that are due. -/
def step? (d : Device) : Option Device :=
  d.loopStep? <|> d.mainStep? <|> d.relayStep? <|> d.batteryStep? <|> d.networkEnd?
    <|> d.networkStep? <|> d.wifiStep? <|> d.watcherStep? <|> d.exchangeStep?

/-- So many of the steps that are due at most. -/
def settleWithin (d : Device) : Nat → Device
  | 0 => d
  | fuel + 1 =>
    match d.step? with
    | none => d
    | some d => d.settleWithin fuel

/-- More steps than ever are due at one time, and more stops than a wait ever makes. -/
def stepLimit : Nat := 1000000

/-- Everything that is due is done. -/
def settle (d : Device) : Device := d.settleWithin stepLimit

/-- When the battery service looks next. -/
def batteryTime? (d : Device) : Option Nat :=
  match d.battery with
  | .polling ticker => some ticker.next
  | _ => none

/-- When the network is polled next. -/
def networkTime? (d : Device) : Option Nat :=
  d.network.bind fun p => if p.asking then none else some p.ticker.next

/-- The next time at which something is due. -/
def nextTime? (d : Device) : Option Nat :=
  (d.loop.nextTime?.toList ++ d.batteryTime?.toList ++ d.networkTime?.toList
    ++ (d.wifi.map (·.ticker.next)).toList ++ (d.watcher.bind (·.nextTime?)).toList
    ++ d.exchange.nextTime?.toList).min?

/-- Moves the clock to a time, so many stops on the way at most. -/
def advanceWithin (d : Device) (target : Nat) : Nat → Device
  | 0 => { d with now := target }.settle
  | fuel + 1 =>
    let d := d.settle
    match d.nextTime? with
    | none => { d with now := target }.settle
    | some time =>
      if target < time then { d with now := target }.settle
      else { d with now := max d.now time }.advanceWithin target fuel

/-- Moves the clock to a time; whatever is due on the way is done in its time. -/
def advanceTo (d : Device) (target : Nat) : Device :=
  d.advanceWithin (max d.now target) (target - d.now + 1)

/-- Moves the clock in one leap; what was due on the way is late. -/
def leap (d : Device) (time : Nat) : Device := { d with now := d.now + time }.settle

/-- Moves the clock from one time to the next until a test holds, up to a deadline if there is one.
-/
def runUntil (d : Device) (done : Device → Bool) (deadline : Option Nat) : Nat → Device
  | 0 => d
  | fuel + 1 =>
    let d := d.settle
    if done d then d
    else
      match (d.nextTime?.toList ++ deadline.toList).min? with
      | none => d
      | some time =>
        if deadline.any (· ≤ d.now) then d
        else { d with now := max d.now time }.runUntil done deadline fuel

end Gateway.Device
