import Gateway.Modem.Procedure
import Gateway.Modem.Script

/-!
# The exchange

Many callers share one command bus. Each runs a procedure; its requests wait in line, first come
first served, and the caller at the head of the line holds the bus for a whole dialogue. A caller
may give up at any time, which frees its place. Time is given from outside; `turn?` does what one
caller can do at the present time, and `nextTime?` says when there is more to do. Waits are numbered
in the order in which they begin.
-/

namespace Gateway.Modem

/-- A caller whose dialogue holds the bus. -/
structure Holder (α : Type) where
  caller : Nat
  /-- When the dialogue goes on; `none` if the modem never answers. -/
  wake : Option Nat
  /-- The number of the wait. -/
  ticket : Nat
  /-- The dialogue from there. -/
  rest : Dialogue (Procedure α)

/-- A caller that waits in line. -/
structure Waiter (α : Type) where
  caller : Nat
  start : Option Endpoint → Dialogue (Procedure α)

/-- A caller between two requests. -/
structure Pausing (α : Type) where
  caller : Nat
  wake : Nat
  /-- The number of the wait. -/
  ticket : Nat
  rest : Procedure α

/-- A caller that has come to its end. -/
structure Finished (α : Type) where
  caller : Nat
  time : Nat
  value : α

/-- The bus, its modem and its callers. -/
structure Exchange (α : Type) where
  /-- The time within which the bus wants answers, in milliseconds. -/
  limit : Nat
  script : Script
  binding : Option Endpoint
  holder : Option (Holder α)
  line : List (Waiter α)
  pausing : List (Pausing α)
  finished : List (Finished α)
  /-- The calls made to the modem, latest first. -/
  calls : List String
  /-- How many waits have begun. -/
  tickets : Nat

namespace Exchange

variable {α : Type}

/-- A bus without callers. -/
def new (limit : Nat) (script : Script) : Exchange α :=
  ⟨limit, script, none, none, [], [], [], [], 0⟩

/-- Goes on with a dialogue as far as the modem answers at once. -/
def converse (x : Exchange α) (now caller : Nat) :
    Dialogue (Procedure α) → Exchange α × Option (Procedure α)
  | .done p => ({ x with holder := none }, some p)
  | .rebind binding next => converse { x with binding } now caller next
  | .ask q next =>
    let (arrival, script) := x.script.answer q
    let calls := match q.call? now with
      | some call => call :: x.calls
      | none => x.calls
    let x := { x with script, calls, tickets := x.tickets + 1 }
    match arrival with
    | .never => ({ x with holder := some ⟨caller, none, x.tickets, .ask q next⟩ }, none)
    | .after 0 value => converse x now caller (next value)
    | .after delay value =>
      ({ x with holder := some ⟨caller, some (now + delay), x.tickets, next value⟩ }, none)

/-- Goes on with a caller's procedure up to its next request, its next wait or its end. -/
def proceed (x : Exchange α) (now caller : Nat) : Procedure α → Exchange α
  | .done value => { x with finished := x.finished ++ [⟨caller, now, value⟩] }
  | .pause time next =>
    if time = 0 then x.proceed now caller next
    else { x with
      pausing := x.pausing ++ [⟨caller, now + time, x.tickets, next⟩]
      tickets := x.tickets + 1 }
  | .request r next =>
    match r.work x.limit with
    | .answer value => x.proceed now caller (next value)
    | .dialogue start =>
      { x with line := x.line ++ [⟨caller, fun binding => (start binding).map next⟩] }

/-- Goes on with a dialogue, and with the procedure behind it once the dialogue ends. -/
def resume (x : Exchange α) (now caller : Nat) (d : Dialogue (Procedure α)) : Exchange α :=
  match x.converse now caller d with
  | (x, some p) => x.proceed now caller p
  | (x, none) => x

/-- One thing that a caller can do now, if there is any: its wait is over, or the bus is free and it
is the first in line. -/
def turn? (x : Exchange α) (now caller : Nat) : Option (Exchange α) :=
  match x.pausing.find? fun p => p.caller = caller ∧ p.wake ≤ now with
  | some p =>
    some ({ x with pausing := x.pausing.filter (·.caller ≠ caller) }.proceed now caller p.rest)
  | none =>
    match x.holder, x.line with
    | some h, _ =>
      if h.caller = caller ∧ h.wake.any (· ≤ now) then some (x.resume now caller h.rest) else none
    | none, w :: line =>
      if w.caller = caller then some ({ x with line }.resume now caller (w.start x.binding))
      else none
    | none, [] => none

/-- The caller that can have the bus because it is free. -/
def next? (x : Exchange α) : Option Nat :=
  if x.holder.isNone then x.line.head?.map (·.caller) else none

/-- The callers that may have something to do, those with the bus or near it first. -/
def callers (x : Exchange α) : List Nat :=
  (x.holder.map (·.caller)).toList ++ x.next?.toList ++ x.pausing.map (·.caller)

/-- One thing that can be done now, if there is any. -/
def step? (x : Exchange α) (now : Nat) : Option (Exchange α) := x.callers.findSome? (x.turn? now)

/-- A caller does so many things at most that it can do now. -/
def advance (x : Exchange α) (now caller : Nat) : Nat → Exchange α
  | 0 => x
  | fuel + 1 =>
    match x.turn? now caller with
    | none => x
    | some x => x.advance now caller fuel

/-- The waits that are over, by their numbers and callers. -/
def ended (x : Exchange α) (now : Nat) : List (Nat × Nat) :=
  (x.holder.toList.filter fun h => h.wake.any (· ≤ now)).map (fun h => (h.ticket, h.caller))
    ++ (x.pausing.filter (·.wake ≤ now)).map fun p => (p.ticket, p.caller)

/-- The next time at which something can be done. -/
def nextTime? (x : Exchange α) : Option Nat :=
  ((x.holder.bind (·.wake)).toList ++ x.pausing.map (·.wake)).min?

/-- A caller gives up: its dialogue is cut short, and its place in line is free. -/
def abandon (x : Exchange α) (caller : Nat) : Exchange α :=
  { x with
    holder := x.holder.filter (·.caller ≠ caller)
    line := x.line.filter (·.caller ≠ caller)
    pausing := x.pausing.filter (·.caller ≠ caller) }

/-- What a caller came to. -/
def outcome? (x : Exchange α) (caller : Nat) : Option (Finished α) :=
  x.finished.find? (·.caller = caller)

end Exchange

end Gateway.Modem
