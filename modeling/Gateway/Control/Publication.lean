import Gateway.Control.Method
import Gateway.MessageBus.Bus
import Gateway.PowerKey.Gesture

/-!
# Offering the control interface

The daemon asks the bus for its name before it offers the interface, tells clients of gestures while
it does, and gives the name back in the end.
-/

namespace Gateway.Control

open MessageBus

/-- Whether a reply to the request for the name grants it, now or later: the daemon owns it, waits
for it, or owned it already. -/
def grants : Reply → Bool
  | .value (.number .uint32 n) => n = 1 || n = 2 || n = 4
  | _ => false

/-- The reply of a bus that does as it is asked. -/
def granted : Reply := .value (.number .uint32 1)

/-- Asks for the name; the flag says whether it is granted. -/
def requestName (b : Bus) : Bus × Bool :=
  let (reply, b) := b.call "RequestName" ("RequestName " ++ serviceName) granted
  (b, grants reply)

/-- Gives the name back, whatever the bus replies. -/
def releaseName (b : Bus) : Bus := (b.call "ReleaseName" ("ReleaseName " ++ serviceName) granted).2

/-- Tells clients of a gesture. -/
def announce (b : Bus) (g : PowerKey.Gesture) : Bus := b.see ("signal GestureDetected " ++ g.name)

end Gateway.Control
