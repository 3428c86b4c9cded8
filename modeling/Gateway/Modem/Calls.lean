import Gateway.Modem.Exchange

/-!
# Calls

What a caller can want of the modem, and groups of calls that start together and are waited for
together. The clock stands still while anything can be done and then goes straight to the next time
at which something can.
-/

namespace Gateway.Modem

/-- What a caller wants of the modem. -/
inductive Call where
  | command (text : String)
  | limited (text : String) (limit : Nat)
  | network
  | lockBands (bands : List Band)
  | unlockBands
  | queryBands
  | lockCell (technology : Technology) (frequency : UInt32) (cell : UInt16)
  | unlockCell
  /-- Nothing, for some time. -/
  | wait (time : Nat)
deriving DecidableEq, Repr

/-- What a call gives. -/
inductive CallValue where
  | text (text : String)
  | reading (reading : Network.Reading)
  | masks (masks : BandMasks)
  | nothing
deriving DecidableEq, Repr

namespace Call

/-- The procedure of a call. -/
def procedure : Call → Procedure (Except CommandFault CallValue)
  | command text => (Procedure.execute text).map (·.map .text)
  | limited text limit => .request (.limited text limit) fun r => .done (r.map .text)
  | network => .request .network fun r => .done (r.map .reading)
  | lockBands bands => (Procedure.lockBands bands).map (·.map fun _ => .nothing)
  | unlockBands => Procedure.unlockBands.map (·.map fun _ => .nothing)
  | queryBands => Procedure.queryBands.map (·.map .masks)
  | lockCell t f c => (Procedure.lockCell t f c).map (·.map fun _ => .nothing)
  | unlockCell => Procedure.unlockCell.map (·.map fun _ => .nothing)
  | wait time => .pause time (.done (.ok .nothing))

end Call

/-- A call that may be given up after some time. -/
structure LimitedCall where
  call : Call
  patience : Option Nat
deriving DecidableEq, Repr

/-- How a call ended. -/
structure CallEnd where
  time : Nat
  /-- What it gave; `none` if it was given up. -/
  outcome : Option (Except CommandFault CallValue)

/-- A caller's limit: when it gives up, and the number of this wait among all others. -/
structure Patience where
  caller : Nat
  deadline : Nat
  ticket : Nat

/-- A bus for calls, with its clock. -/
structure CallBench where
  now : Nat
  exchange : Exchange (Except CommandFault CallValue)
  patience : List Patience
  /-- The callers that gave up, and when. -/
  gone : List (Nat × Nat)

namespace CallBench

/-- A bus whose clock begins. -/
def new (limit : Nat) (script : Script) : CallBench := ⟨0, .new limit script, [], []⟩

/-- Enough steps for anything that can be done at one time. -/
def stepBound : Nat := 100000

/-- How a caller's call ended, if it did. -/
def end? (b : CallBench) (caller : Nat) : Option CallEnd :=
  match b.exchange.outcome? caller with
  | some f => some ⟨f.time, some f.value⟩
  | none => (b.gone.lookup caller).map fun time => ⟨time, none⟩

/-- A caller gives up. -/
def giveUp (b : CallBench) (caller : Nat) : CallBench :=
  { b with exchange := b.exchange.abandon caller, gone := (caller, b.now) :: b.gone }

/-- A caller does what it can; what is left to do once its time is over is given up. -/
def act (b : CallBench) (caller : Nat) : CallBench :=
  let b := { b with exchange := b.exchange.advance b.now caller stepBound }
  let late := b.patience.any fun p => p.caller = caller ∧ p.deadline ≤ b.now
  if (b.end? caller).isNone && late then b.giveUp caller else b

/-- Callers act in turn. One that can have the bus then acts behind them; the number bounds how many
act. -/
def actAll (b : CallBench) : List Nat → Nat → CallBench
  | [], _ | _ :: _, 0 => b
  | caller :: rest, fuel + 1 =>
    let b := b.act caller
    b.actAll (rest ++ b.exchange.next?.toList.filter fun next => !rest.contains next) fuel

/-- Starts a call. Its limit begins after the first thing it does. -/
def start (b : CallBench) (caller : Nat) (c : LimitedCall) : CallBench :=
  let b := { b with exchange := b.exchange.proceed b.now caller c.call.procedure }.act caller
  match c.patience with
  | none => b
  | some time =>
    if (b.end? caller).isSome then b
    else if time = 0 then b.giveUp caller
    else
      let x := b.exchange
      { b with
        exchange := { x with tickets := x.tickets + 1 }
        patience := ⟨caller, b.now + time, x.tickets⟩ :: b.patience }

/-- The callers whose waits are over, in the order in which these began. -/
def woken (b : CallBench) : List Nat :=
  let limits := (b.patience.filter (·.deadline ≤ b.now)).map fun p => (p.ticket, p.caller)
  (((b.exchange.ended b.now ++ limits).mergeSort fun p q => p.1 ≤ q.1).map (·.2)).eraseDups

/-- The next time at which a wait is over. -/
def nextTime? (b : CallBench) : Option Nat :=
  (b.exchange.nextTime?.toList ++ b.patience.map (·.deadline)).min?

/-- Waits for callers while there is anything to wait for, so many turns of the clock at most. -/
def await (b : CallBench) (callers : List Nat) : Nat → CallBench
  | 0 => b
  | fuel + 1 =>
    let b := { b with patience := b.patience.filter fun p => (b.end? p.caller).isNone }
    if callers.all fun c => (b.end? c).isSome then b
    else
      match b.nextTime? with
      | none => b
      | some time =>
        let b := { b with now := max b.now time }
        (b.actAll b.woken stepBound).await callers fuel

/-- Starts calls in order and waits for all of them; their ends come in the same order. -/
def run (b : CallBench) (calls : List LimitedCall) : CallBench × List CallEnd :=
  let b := { b with exchange := { b.exchange with finished := [] }, gone := [] }
  let b := calls.zipIdx.foldl (fun b (c, caller) => b.start caller c) b
  let callers := List.range calls.length
  let b := b.await callers stepBound
  (b, callers.filterMap b.end?)

/-- The calls made to the modem so far, and the bench with none. -/
def drain (b : CallBench) : List String × CallBench :=
  (b.exchange.calls.reverse, { b with exchange := { b.exchange with calls := [] } })

end CallBench

end Gateway.Modem
