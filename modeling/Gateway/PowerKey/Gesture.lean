/-!
# Gestures

Presses and releases of the power key are told apart into long presses and double clicks. A press
arms the long-press timer and a release disarms it. A press shortly after a release, with another
press before that, is a double click; it arms nothing. Times only have to share a unit.
-/

namespace Gateway.PowerKey

/-- A gesture on the power key. -/
inductive Gesture where
  | longPress
  | doubleClick
deriving DecidableEq, Repr

namespace Gesture

/-- The name that events show. -/
def name : Gesture → String
  | longPress => "long-press"
  | doubleClick => "double-click"

/-- The name in snapshots. -/
def label : Gesture → String
  | longPress => "LongPress"
  | doubleClick => "DoubleClick"

end Gesture

/-- How long a press has to last, and how soon the second click has to follow. -/
structure Timing where
  longPress : Nat
  doubleClick : Nat
deriving DecidableEq, Repr

/-- What a press or a release leads to. -/
inductive KeyAction where
  /-- The long-press timer is set to a time. -/
  | arm (deadline : Nat)
  /-- The long-press timer is switched off. -/
  | cancel
  | emit (gesture : Gesture)
deriving DecidableEq, Repr

/-- What the gestures depend on: the last release and the clicks counted since the last gesture. -/
structure Classifier where
  timing : Timing
  lastRelease : Option Nat
  clicks : Nat
deriving DecidableEq, Repr

namespace Classifier

/-- A classifier that saw nothing. -/
def new (timing : Timing) : Classifier := ⟨timing, none, 0⟩

/-- Whether a time follows the last release soon enough for a double click. A time before the
release counts as no time after it. -/
def isQuick (c : Classifier) (time : Nat) : Bool :=
  match c.lastRelease with
  | none => false
  | some released => time - released < c.timing.doubleClick

/-- A press. -/
def onDown (c : Classifier) (time : Nat) : Classifier × KeyAction :=
  let clicks := if c.isQuick time then c.clicks + 1 else 1
  if c.isQuick time ∧ 2 ≤ clicks then
    ({ c with lastRelease := none, clicks := 0 }, .emit .doubleClick)
  else ({ c with clicks }, .arm (time + c.timing.longPress))

/-- A release. -/
def onUp (c : Classifier) (time : Nat) : Classifier × KeyAction :=
  ({ c with lastRelease := some time }, .cancel)

/-- The long-press timer fired. -/
def onLongPress (c : Classifier) : Classifier × Gesture :=
  ({ c with lastRelease := none, clicks := 0 }, .longPress)

end Classifier

end Gateway.PowerKey
