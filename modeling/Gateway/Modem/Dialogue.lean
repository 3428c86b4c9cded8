import Gateway.Modem.Endpoint
import Gateway.Modem.Fault

/-!
# Dialogues with the modem

What the command bus does while it holds the modem, as a tree: it asks the transport a question and
goes on as the answer tells. A dialogue says nothing about who answers or when, so one tree serves
every modem and every schedule. Times are in milliseconds.
-/

namespace Gateway.Modem

/-- A question to the modem's transport, or to the clock. -/
inductive Question where
  /-- Which modem carries data? -/
  | resolve
  /-- Sends a command text; the answer may take until the limit. -/
  | send (endpoint : Endpoint) (text : String) (limit : Nat)
  /-- Tears the connection down, so that the next call makes a new one. -/
  | reconnect
  | strength (endpoint : Endpoint) (limit : Nat)
  | technology (endpoint : Endpoint) (limit : Nat)
  /-- Waits. -/
  | pause (time : Nat)
deriving DecidableEq, Repr

/-- What comes of a question with a limit. -/
inductive Reply (α : Type) where
  | answered (answer : Except TransportFault α)
  /-- The limit passed without an answer. -/
  | lapsed

/-- What a question is answered with. A strength comes with the time that it took, which the
question after it has less. -/
def Question.Answer : Question → Type
  | resolve => Except TransportFault Endpoint
  | send .. => Reply String
  | reconnect => Except TransportFault Unit
  | strength .. => Reply UInt8 × Nat
  | technology .. => Reply String
  | pause _ => Unit

/-- A conversation that ends in a value. -/
inductive Dialogue (α : Type) where
  | done (value : α)
  /-- From now on the bus is bound to an endpoint, or to none. -/
  | rebind (binding : Option Endpoint) (next : Dialogue α)
  | ask (question : Question) (next : question.Answer → Dialogue α)

namespace Dialogue

/-- The dialogue with its value changed. -/
def map {α β : Type} (f : α → β) : Dialogue α → Dialogue β
  | done value => done (f value)
  | rebind binding next => rebind binding (next.map f)
  | ask question next => ask question fun answer => (next answer).map f

end Dialogue

end Gateway.Modem
