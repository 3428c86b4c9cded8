import Gateway.Led.Channel

/-!
# The LED output

The hardware behind the LED table, seen through what is asked of it: every attempt to claim a
channel or to write its value, and whether it was accepted. Which attempts are accepted is a
function of how many writes came before and of the channel, so any pattern of failures is an output.
-/

namespace Gateway.Led

/-- An attempt to write a channel's value. -/
structure Write where
  channel : Channel
  value : UInt8
  accepted : Bool
deriving DecidableEq, Repr

/-- An attempt to take a channel under software control. -/
structure Claim where
  channel : Channel
  accepted : Bool
deriving DecidableEq, Repr

/-- The output and its record of attempts. -/
structure Output where
  /-- Whether the write attempt with this number is accepted on a channel. -/
  admits : Nat → Channel → Bool
  /-- Whether claiming a channel succeeds. -/
  admitsClaim : Channel → Bool
  /-- How many writes were attempted. -/
  attempts : Nat
  /-- The attempted writes, latest first. -/
  writes : List Write
  /-- The attempted claims, latest first. -/
  claims : List Claim

namespace Output

/-- An output that accepts everything. -/
def accepting : Output := ⟨fun _ _ => true, fun _ => true, 0, [], []⟩

/-- The output from now on accepts exactly what the two tests accept. -/
def restrict (p : Output) (admits admitsClaim : Channel → Bool) : Output :=
  { p with admits := fun _ c => admits c, admitsClaim := admitsClaim }

/-- The output from now on refuses writes and claims on just these channels. -/
def refuse (p : Output) (writes claims : List Channel) : Output :=
  p.restrict (fun c => !writes.contains c) (fun c => !claims.contains c)

/-- Whether the next write on a channel is accepted. -/
def accepts (p : Output) (c : Channel) : Bool := p.admits p.attempts c

/-- Attempts a write. -/
def write (p : Output) (c : Channel) (value : UInt8) : Output :=
  { p with attempts := p.attempts + 1, writes := ⟨c, value, p.accepts c⟩ :: p.writes }

/-- Attempts to claim a channel. -/
def claim (p : Output) (c : Channel) : Output :=
  { p with claims := ⟨c, p.admitsClaim c⟩ :: p.claims }

/-- The record so far in the order of the attempts, and the output with an empty record. -/
def drain (p : Output) : (List Write × List Claim) × Output :=
  ((p.writes.reverse, p.claims.reverse), { p with writes := [], claims := [] })

end Output

end Gateway.Led
