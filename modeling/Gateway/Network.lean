import Gateway.Status
import Gateway.Text.Split

/-!
# Network samples

What a poll of the modem says about the network, and the latch that lets only changes through.
-/

namespace Gateway.Network

/-- What the modem answers to a poll. -/
structure Reading where
  /-- Signal strength, zero without a network. -/
  strength : UInt8
  technology : String
deriving DecidableEq, Repr

namespace Reading

/-- Whether there is a network. -/
def isConnected (r : Reading) : Bool := r.strength != 0

/-- Whether the technology in use is of the fifth generation. -/
def is5g (r : Reading) : Bool :=
  let name := Text.lowered r.technology.toList
  Text.occursIn "nr".toList name || Text.occursIn "5g".toList name

/-- The strength in decibels below a milliwatt. -/
def decibels (r : Reading) : Int := 2 * (r.strength.toNat : Int) - 113

end Reading

/-- What a poll says about the network. -/
structure Sample where
  state : NetworkState
  is5g : Option Bool
deriving DecidableEq, Repr

/-- The sample of a modem that cannot be asked. -/
def Sample.unknown : Sample := ⟨.unknown, none⟩

/-- The sample of a poll: one that failed says nothing, and one without signal strength says that
there is no network. -/
def Sample.classify {ε : Type} (poll : Except ε Reading) : Sample :=
  match poll with
  | .error _ => .unknown
  | .ok r => ⟨if r.isConnected then .connected else .offline, some r.is5g⟩

/-- Lets a sample through if it differs from the one before it. -/
structure Latch where
  last : Option Sample
deriving DecidableEq, Repr

namespace Latch

/-- A latch that saw nothing. -/
def new : Latch := ⟨none⟩

/-- Shows the latch a sample; it is passed on if it is new. -/
def observe (l : Latch) (s : Sample) : Latch × Option Sample :=
  if l.last = some s then (l, none) else (⟨some s⟩, some s)

/-- Forgets the last sample, so that the next one is passed on whatever it is. -/
def reset (_ : Latch) : Latch := new

end Latch

end Gateway.Network
