/-!
# Broadcasting

A channel from which every reader receives what was published since it joined. Only the latest
events are kept, as many as the capacity; a reader that falls further behind loses the oldest ones
and is told how many.
-/

namespace Gateway

/-- What a reader receives. -/
inductive Received (α : Type) where
  | event (a : α)
  /-- Nothing is waiting. -/
  | empty
  /-- Nothing is waiting, and nothing will come. -/
  | closed
  /-- So many events were lost. -/
  | lagged (count : Nat)
  /-- The reader has left. -/
  | gone
deriving DecidableEq, Repr

/-- A broadcast channel. Events are numbered in the order of publication. -/
structure Broadcast (α : Type) where
  /-- How many events are kept. -/
  capacity : Nat
  /-- How many events were published. -/
  published : Nat
  /-- The kept events, latest first. -/
  recent : List α
  /-- The number of the next event for each reader; `none` for one that left. -/
  readers : List (Option Nat)
  /-- Whether the channel takes no more events. -/
  closed : Bool
deriving DecidableEq, Repr

namespace Broadcast

variable {α : Type}

/-- A channel that keeps at least so many events; their number is a power of two. -/
def new (capacity : Nat) : Broadcast α := ⟨capacity.nextPowerOfTwo, 0, [], [], false⟩

/-- The capacity unless asked for another. -/
def usualCapacity : Nat := 100

/-- A new reader, who receives what is published from now on. -/
def subscribe (b : Broadcast α) : Broadcast α :=
  { b with readers := b.readers ++ [some b.published] }

/-- A reader leaves. -/
def leave (b : Broadcast α) (reader : Nat) : Broadcast α :=
  { b with readers := b.readers.set reader none }

/-- Whether anyone listens. -/
def hasReaders (b : Broadcast α) : Bool := b.readers.any Option.isSome

/-- The channel with an event published, if anyone listens. -/
def publish? (b : Broadcast α) (a : α) : Option (Broadcast α) :=
  if b.closed || !b.hasReaders then none
  else some { b with published := b.published + 1, recent := (a :: b.recent).take b.capacity }

/-- Publishes an event; without readers nothing happens. -/
def publish (b : Broadcast α) (a : α) : Broadcast α := (b.publish? a).getD b

/-- The channel takes no more events. -/
def close (b : Broadcast α) : Broadcast α := { b with closed := true }

/-- The number of the oldest kept event. -/
def oldest (b : Broadcast α) : Nat := b.published - b.recent.length

/-- A reader receives. -/
def receive (b : Broadcast α) (reader : Nat) : Broadcast α × Received α :=
  match b.readers[reader]? with
  | none | some none => (b, .gone)
  | some (some next) =>
    if next < b.oldest then
      ({ b with readers := b.readers.set reader (some b.oldest) }, .lagged (b.oldest - next))
    else
      match (b.recent.take (b.published - next)).getLast? with
      | some a => ({ b with readers := b.readers.set reader (some (next + 1)) }, .event a)
      | none => (b, if b.closed then .closed else .empty)

/-- Everything that waits for a reader, at most so many things. -/
def drainWithin (b : Broadcast α) (reader : Nat) : Nat → Broadcast α × List α
  | 0 => (b, [])
  | fuel + 1 =>
    match b.receive reader with
    | (b, .event a) =>
      let (b, rest) := drainWithin b reader fuel
      (b, a :: rest)
    | (b, .lagged _) => drainWithin b reader fuel
    | (b, _) => (b, [])

/-- Everything that waits for a reader; what it lost is passed over. -/
def drain (b : Broadcast α) (reader : Nat) : Broadcast α × List α :=
  b.drainWithin reader (b.recent.length + 2)

end Broadcast

end Gateway
