import Gateway.Battery.Reading
import Gateway.Led.Table
import Gateway.Network
import Gateway.Notice
import Gateway.PowerKey.InputEvent

/-!
# The LED loop

The only part of the daemon that moves the LEDs. It takes one input after the other: what the
battery, the network and the access point report, commands, presses and releases of the power key,
and its own timers. Each input is one pure step that gives the next state and what the step wants of
the rest of the daemon.

- Reports and commands repaint the LEDs of their group by the rules of the status.
- A double click switches the LEDs on or off; on means a refresh.
- A long press shows the shutdown pattern, which nothing paints over, and starts the countdown.
-/

namespace Gateway.Loop

/-- A command to the loop. -/
inductive Command where
  | setMode (channel : Led.Channel) (mode : Led.Mode)
  | setBrightness (channel : Led.Channel) (brightness : UInt8)
  | allOff
  | refresh
  | setWifiPolicy (policy : WifiPolicy)
deriving DecidableEq, Repr

/-- A message to the loop: a report or a command. -/
inductive Message where
  | battery (reading : Battery.Reading)
  | network (sample : Network.Sample)
  | wifi (alive : Bool)
  | command (command : Command)
deriving DecidableEq, Repr

/-- A press or a release of the power key and its time. -/
structure KeyEvent where
  transition : PowerKey.Transition
  time : Nat
deriving DecidableEq, Repr

/-- The LEDs that one rule paints. -/
inductive Group where
  | network
  | battery
  | wifi
deriving DecidableEq, Repr

/-- What the loop is set up with. Times are in milliseconds. -/
structure Settings where
  renderPeriod : Nat
  forceEvery : UInt64
  timing : PowerKey.Timing
  shutdownDelay : Nat
  shutdownCommand : List String
  wifiPolicy : WifiPolicy
deriving DecidableEq, Repr

/-- The loop as it is set up unless told otherwise. -/
def Settings.initial : Settings := ⟨500, 6, ⟨2000, 500⟩, 4000, ["poweroff"], .initial⟩

/-- What the loop can see when it looks around. -/
structure Surroundings where
  now : Nat
  battery : Battery.Reading
  /-- Whether an access point process runs. -/
  apRunning : Bool

/-- What a step wants of the rest of the daemon. -/
inductive Effect where
  | publish (notice : Notice)
  | issueShutdown
deriving DecidableEq, Repr

/-- The loop between two steps. -/
structure State where
  table : Led.Table
  status : DeviceStatus
  wifiPolicy : WifiPolicy
  /-- Whether a long press asked for the shutdown. -/
  shuttingDown : Bool
  /-- Whether double clicks left the LEDs switched on. -/
  ledEnabled : Bool
  /-- How often a refresh told the pollers to report anew. -/
  refreshes : Nat
  classifier : PowerKey.Classifier
  longPressAt : Option Nat
  shutdownAt : Option Nat
  shutdownDelay : Nat

namespace State

/-- A loop that has done nothing. -/
def new (s : Settings) (output : Led.Output) : State where
  table := .new output s.forceEvery
  status := .unknown
  wifiPolicy := s.wifiPolicy
  shuttingDown := false
  ledEnabled := true
  refreshes := 0
  classifier := .new s.timing
  longPressAt := none
  shutdownAt := none
  shutdownDelay := s.shutdownDelay

/-! ## Painting -/

/-- The modes that the rules give a group. -/
def modesOf (s : State) : Group → ModeSet
  | .network => networkModes s.status
  | .battery => batteryModes s.status
  | .wifi => wifiModes s.status s.wifiPolicy

/-- Whether the rules paint: not while the LEDs are switched off or show the shutdown pattern. -/
def paints (s : State) : Bool := !s.shuttingDown && s.ledEnabled

/-- Paints a group. -/
def paint (s : State) (g : Group) : State :=
  if s.paints then { s with table := s.table.apply (s.modesOf g) } else s

/-- Paints every group. -/
def paintAll (s : State) : State := ((s.paint .network).paint .battery).paint .wifi

/-- The beginning: the channels are taken over and painted. -/
def begin (s : State) : State := { s with table := s.table.init }.paintAll

/-- The end: all LEDs are off. -/
def finish (s : State) : State := { s with table := s.table.allOff }

/-! ## Messages -/

/-- The status after a refresh: what can be looked at now, and nothing about the network. -/
def seen (around : Surroundings) : DeviceStatus :=
  ⟨around.battery.capacity, some around.battery.isCharging, .unknown, none, some around.apRunning⟩

/-- Forgets what was reported, looks around and paints anew. -/
def refresh (s : State) (around : Surroundings) : State × List Effect :=
  let s := { s with refreshes := s.refreshes + 1, status := seen around }
  (s.paintAll, [.publish (.statusChanged s.status)])

/-- A command. The shutdown pattern is kept from commands that would change modes. -/
def obey (s : State) (around : Surroundings) : Command → State × List Effect
  | .setMode c m => (if s.shuttingDown then s else { s with table := s.table.setMode c m }, [])
  | .setBrightness c b => ({ s with table := s.table.setBrightness c b }, [])
  | .allOff => (if s.shuttingDown then s else { s with table := s.table.allOff }, [])
  | .refresh => s.refresh around
  | .setWifiPolicy p => ({ s with wifiPolicy := p }.paint .wifi, [])

/-- A report: the status of its group is replaced and the group painted. -/
def report (s : State) (status : DeviceStatus) (g : Group) : State × List Effect :=
  ({ s with status }.paint g,
    if status = s.status then [] else [.publish (.statusChanged status)])

/-- A message. -/
def handle (s : State) (around : Surroundings) : Message → State × List Effect
  | .battery r =>
    s.report { s.status with
      batteryCapacity := r.capacity, batteryCharging := some r.isCharging } .battery
  | .network n => s.report { s.status with network := n.state, is5g := n.is5g } .network
  | .wifi alive => s.report { s.status with wifiRunning := some alive } .wifi
  | .command c => s.obey around c

/-! ## The power key -/

/-- A double click: the LEDs are switched off, or on and refreshed. -/
def doubleClick (s : State) (around : Surroundings) : State × List Effect :=
  let gesture := Effect.publish (.gesture .doubleClick)
  if s.ledEnabled then
    ({ s with ledEnabled := false, table := s.table.allOff }, [gesture])
  else
    let (s, effects) := { s with ledEnabled := true }.refresh around
    (s, effects ++ [gesture])

/-- A press or a release; during the countdown it does nothing. -/
def key (s : State) (around : Surroundings) (k : KeyEvent) : State × List Effect :=
  if s.shutdownAt.isSome then (s, [])
  else
    let (classifier, action) := match k.transition with
      | .down => s.classifier.onDown k.time
      | .up => s.classifier.onUp k.time
    let s := { s with classifier }
    match action with
    | .arm deadline => ({ s with longPressAt := some deadline }, [])
    | .cancel => ({ s with longPressAt := none }, [])
    | .emit _ => { s with longPressAt := none }.doubleClick around

/-! ## Timers -/

/-- A render tick. -/
def renderTick (s : State) : State := { s with table := s.table.renderTick.1 }

/-- The key was held long enough: the shutdown pattern is shown and the countdown begins. -/
def longPress (s : State) (now : Nat) : State × List Effect :=
  let (classifier, gesture) := s.classifier.onLongPress
  ({ s with
      classifier
      longPressAt := none
      shuttingDown := true
      table := s.table.apply shutdownModes
      shutdownAt := some (now + s.shutdownDelay) },
    [.publish (.gesture gesture), .publish .shutdownRequested])

/-- The countdown is over. -/
def countedDown (s : State) : State × List Effect :=
  ({ s with shutdownAt := none }, [.issueShutdown])

end State

/-! ## Steps -/

/-- An input of the loop. -/
inductive Input where
  | key (event : KeyEvent)
  | message (message : Message)
  | renderTick
  | longPress
  | countdown
deriving DecidableEq, Repr

/-- The step for an input. -/
def State.step (s : State) (around : Surroundings) : Input → State × List Effect
  | .key k => s.key around k
  | .message m => s.handle around m
  | .renderTick => (s.renderTick, [])
  | .longPress => s.longPress around.now
  | .countdown => s.countedDown

/-! ## Snapshots -/

/-- Snapshot text: the LEDs and what is behind them. -/
def State.snapshotJson (s : State) : String :=
  Text.Json.object [
    ("leds", s.table.snapshotJson),
    ("status", s.status.json),
    ("wifi_policy", s.wifiPolicy.json),
    ("led_enabled", Text.Json.bool s.ledEnabled),
    ("shutting_down", Text.Json.bool s.shuttingDown)]

end Gateway.Loop
