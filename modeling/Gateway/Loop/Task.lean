import Gateway.Loop.State
import Gateway.Ticker

/-!
# Running the LED loop

The loop with what waits for it. Messages and key events queue up in the order they were sent, also
before the loop is started. Of several inputs that are ready the loop takes, in this order, key
events, messages, the render tick, the long-press timer and the countdown; a release that is already
waiting therefore disarms the long-press timer. A request to stop goes before all of them.
-/

namespace Gateway.Loop

/-- How far the loop is. -/
inductive Phase where
  | waiting
  | running (ticker : Ticker)
  | finished
  /-- Taken away without being started. -/
  | dropped
deriving DecidableEq, Repr

/-- The loop with what waits for it. -/
structure Task where
  state : State
  renderPeriod : Nat
  keys : List KeyEvent
  messages : List Message
  phase : Phase
  /-- Whether the loop was asked to stop. -/
  cancelled : Bool

namespace Task

/-- A loop that is not started. -/
def new (s : Settings) (output : Led.Output) : Task where
  state := .new s output
  renderPeriod := s.renderPeriod
  keys := []
  messages := []
  phase := .waiting
  cancelled := false

/-- Whether the loop takes messages and key events. -/
def takes (t : Task) : Bool :=
  match t.phase with
  | .waiting | .running _ => true
  | .finished | .dropped => false

/-- Whether the loop was not started yet. -/
def isWaiting (t : Task) : Bool := t.phase = .waiting

/-- Queues a message, if the loop takes it. -/
def send? (t : Task) (m : Message) : Option Task :=
  if t.takes then some { t with messages := t.messages ++ [m] } else none

/-- Queues a message; one that the loop does not take is lost. -/
def send (t : Task) (m : Message) : Task := (t.send? m).getD t

/-- Queues a key event, if the loop takes it. -/
def press? (t : Task) (k : KeyEvent) : Option Task :=
  if t.takes then some { t with keys := t.keys ++ [k] } else none

/-- Asks the loop to stop. -/
def cancel (t : Task) : Task := { t with cancelled := true }

/-- Whether the loop came to its end. -/
def isFinished (t : Task) : Bool := t.phase = .finished

/-- The loop takes nothing any more; what waits for it is lost. -/
def close (t : Task) (phase : Phase) : Task := { t with phase, keys := [], messages := [] }

/-- Starts the loop: the LEDs are painted, and from then on rendered in every period. A loop without
a period breaks off there and leaves the LEDs as they are. -/
def start (t : Task) (now : Nat) : Task :=
  let t := { t with state := t.state.begin }
  match Ticker.start? now t.renderPeriod .delay with
  | some ticker => { t with phase := .running ticker }
  | none => t.close .finished

/-- The loop is taken away. -/
def drop (t : Task) : Task := t.close .dropped

/-! ## Turns -/

/-- The input that the loop takes next, and the loop without it. -/
def nextInput? (t : Task) (ticker : Ticker) (now : Nat) : Option (Input × Task) :=
  match t.keys, t.messages with
  | k :: keys, _ => some (.key k, { t with keys })
  | [], m :: messages => some (.message m, { t with messages })
  | [], [] =>
    if ticker.isDue now then some (.renderTick, { t with phase := .running (ticker.fire now) })
    else if t.state.longPressAt.any (· ≤ now) then some (.longPress, t)
    else if t.state.shutdownAt.any (· ≤ now) then some (.countdown, t)
    else none

/-- One turn of the loop, if there is anything to do. -/
def turn? (t : Task) (around : Surroundings) : Option (Task × List Effect) :=
  match t.phase with
  | .running ticker =>
    if t.cancelled then some ({ t with state := t.state.finish }.close .finished, [])
    else
      (t.nextInput? ticker around.now).map fun (input, t) =>
        let (state, effects) := t.state.step around input
        ({ t with state }, effects)
  | _ => none

/-- The next time at which a timer of the loop fires. -/
def nextTime? (t : Task) : Option Nat :=
  match t.phase with
  | .running ticker =>
    (ticker.next :: t.state.longPressAt.toList ++ t.state.shutdownAt.toList).min?
  | _ => none

end Task

end Gateway.Loop
