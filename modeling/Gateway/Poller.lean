import Gateway.Network
import Gateway.Ticker
import Gateway.Wifi

/-!
# Pollers

The network and the access point are asked again and again, and only what changed is passed on. Each
poller notices when a refresh asked for everything anew: it keeps the number of the refresh it saw
last, and forgets its latch at the next poll if there was another one since. Asking the network
takes time, so a poll of it begins and ends in two steps; the access point is seen at once.
-/

namespace Gateway

namespace Network

/-- The poller of the network. -/
structure Poller where
  ticker : Ticker
  /-- The number of the refresh seen last. -/
  seen : Nat
  latch : Latch
  /-- Whether a poll has begun and not ended. -/
  asking : Bool
deriving DecidableEq, Repr

namespace Poller

/-- A poller that polls now for the first time. Without a period there is none. -/
def start? (now period : Nat) : Option Poller :=
  (Ticker.start? now period .delay).map fun ticker => ⟨ticker, 0, .new, false⟩

/-- Whether a poll begins now. -/
def isDue (p : Poller) (now : Nat) : Bool := !p.asking && p.ticker.isDue now

/-- Notices a refresh, if its number is given and new. -/
def notice (p : Poller) (refresh : Option Nat) : Poller :=
  match refresh with
  | some n => if n = p.seen then p else { p with seen := n, latch := p.latch.reset }
  | none => p

/-- A poll begins. -/
def begin (p : Poller) (refresh : Option Nat) (now : Nat) : Poller :=
  { p.notice refresh with ticker := p.ticker.fire now, asking := true }

/-- A poll ends with what the modem answered; a sample is passed on if it is new. -/
def finish {ε : Type} (p : Poller) (answer : Except ε Reading) : Poller × Option Sample :=
  let (latch, sample) := p.latch.observe (.classify answer)
  ({ p with latch, asking := false }, sample)

end Poller

end Network

namespace Wifi

/-- The poller of the access point. -/
structure Poller where
  ticker : Ticker
  /-- The number of the refresh seen last. -/
  seen : Nat
  latch : Latch
deriving DecidableEq, Repr

namespace Poller

/-- A poller that polls now for the first time. Without a period there is none. -/
def start? (now period : Nat) : Option Poller :=
  (Ticker.start? now period .delay).map fun ticker => ⟨ticker, 0, .new⟩

/-- Whether a poll happens now. -/
def isDue (p : Poller) (now : Nat) : Bool := p.ticker.isDue now

/-- Notices a refresh, if its number is given and new. -/
def notice (p : Poller) (refresh : Option Nat) : Poller :=
  match refresh with
  | some n => if n = p.seen then p else { p with seen := n, latch := p.latch.reset }
  | none => p

/-- A poll; what is seen is passed on if it is new. -/
def poll (p : Poller) (refresh : Option Nat) (now : Nat) (alive : Bool) :
    Poller × Option Bool :=
  let p := p.notice refresh
  let (latch, news) := p.latch.observe alive
  ({ p with latch, ticker := p.ticker.fire now }, news)

end Poller

end Wifi

end Gateway
