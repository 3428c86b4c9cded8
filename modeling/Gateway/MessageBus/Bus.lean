import Gateway.MessageBus.Variant

/-!
# The message bus

A bus that answers calls from queues prepared for each of them, and writes down what it sees. It may
go down and come up again; a connection made before does not outlive that.
-/

namespace Gateway.MessageBus

/-- A prepared reply, and whether it stays in its queue. -/
structure Prepared where
  reply : Reply
  stays : Bool
deriving DecidableEq, Repr

/-- The bus. -/
structure Bus where
  up : Bool
  /-- How often the bus came up. -/
  life : Nat
  /-- How many connections were made in this life. -/
  connections : Nat
  queues : List (String × List Prepared)
  /-- What the bus saw, latest first. -/
  seen : List String
deriving DecidableEq, Repr

/-- A connection, by the life of the bus in which it was made. -/
structure Connection where
  life : Nat
deriving DecidableEq, Repr

/-- The reply to a call that nothing is prepared for. -/
def unprepared : Reply := .fault "org.freedesktop.DBus.Error.UnknownMethod" "no script"

namespace Bus

/-- A bus that is up or down from the start. -/
def new (up : Bool) (queues : List (String × List Prepared)) : Bus :=
  ⟨up, if up then 1 else 0, 0, queues, []⟩

/-- No bus at all. -/
def absent : Bus := new false []

/-- The bus comes up. -/
def rise (b : Bus) : Bus :=
  if b.up then b else { b with up := true, life := b.life + 1, connections := 0 }

/-- The bus goes down. -/
def fall (b : Bus) : Bus := { b with up := false, connections := 0 }

/-- Makes a connection, if the bus is up. -/
def connect? (b : Bus) : Option (Connection × Bus) :=
  if b.up then some (⟨b.life⟩, { b with connections := b.connections + 1 }) else none

/-- Whether a connection still leads to the bus. -/
def reaches (b : Bus) (c : Connection) : Bool := b.up && c.life == b.life

/-- The bus sees something. -/
def see (b : Bus) (event : String) : Bus := { b with seen := event :: b.seen }

/-- The reply that is prepared for a call, and the bus without it unless it stays. -/
def take (b : Bus) (call : String) (otherwise : Reply) : Reply × Bus :=
  match b.queues.lookup call with
  | some (item :: rest) =>
    let left := if item.stays then item :: rest else rest
    (item.reply, { b with
      queues := b.queues.map fun (name, queue) => (name, if name = call then left else queue) })
  | _ => (otherwise, b)

/-- A call that is seen and answered. -/
def call (b : Bus) (name event : String) (otherwise : Reply) : Reply × Bus :=
  (b.see event).take name otherwise

/-- What the bus saw, in order, and the bus with nothing seen. -/
def drain (b : Bus) : List String × Bus := (b.seen.reverse, { b with seen := [] })

end Bus

end Gateway.MessageBus
