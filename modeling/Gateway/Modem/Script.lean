import Gateway.Modem.Dialogue

/-!
# Scripted modems

A modem that answers from queues prepared for each kind of question. An item may come late, may stay
in its queue, and may never come at all; an empty queue gives a fixed answer. Every call is written
down with its time.
-/

namespace Gateway.Modem

/-- What a scripted modem answers. -/
inductive ScriptAnswer (α : Type) where
  | value (a : α)
  | fault (f : TransportFault)
  /-- No answer ever comes. -/
  | hang

/-- One item of a queue. -/
structure ScriptItem (α : Type) where
  answer : ScriptAnswer α
  /-- How late the answer comes, in milliseconds. -/
  delay : Nat
  /-- Whether the item stays in the queue. -/
  stays : Bool

/-- The queues of a scripted modem. -/
structure Script where
  resolve : List (ScriptItem String)
  send : List (ScriptItem String)
  reconnect : List (ScriptItem Unit)
  strength : List (ScriptItem UInt8)
  technology : List (ScriptItem String)
  /-- Queues for single commands, which go before `send`. -/
  onCommand : List (String × List (ScriptItem String))

namespace Script

/-- A modem without prepared answers. -/
def empty : Script := ⟨[], [], [], [], [], []⟩

/-- The next item of a queue, or a fixed answer, and the queue after it. -/
def take {α : Type} (fixed : α) : List (ScriptItem α) → ScriptItem α × List (ScriptItem α)
  | [] => (⟨.value fixed, 0, false⟩, [])
  | item :: rest => (item, if item.stays then item :: rest else rest)

/-- The next answer to a command: from its own queue while that has items. -/
def takeSend (s : Script) (text : String) : ScriptItem String × Script :=
  match s.onCommand.lookup text with
  | some (item :: rest) =>
    let left := if item.stays then item :: rest else rest
    (item, { s with
      onCommand := s.onCommand.map fun (t, q) => if t = text then (t, left) else (t, q) })
  | _ =>
    let (item, rest) := take "OK" s.send
    (item, { s with send := rest })

end Script

/-- What comes of a question: an answer after some time, or none ever. -/
inductive Arrival (α : Type) where
  | after (delay : Nat) (value : α)
  | never

namespace ScriptItem

/-- What comes of a question without a limit. -/
def arrival {α : Type} (item : ScriptItem α) : Arrival (Except TransportFault α) :=
  match item.answer with
  | .value a => .after item.delay (.ok a)
  | .fault f => .after item.delay (.error f)
  | .hang => .never

/-- What comes of a question with a limit. An answer that comes just when the limit passes still
counts. -/
def reply {α : Type} (item : ScriptItem α) (limit : Nat) : Nat × Reply α :=
  match item.answer with
  | .hang => (limit, .lapsed)
  | .value a => if item.delay ≤ limit then (item.delay, .answered (.ok a)) else (limit, .lapsed)
  | .fault f => if item.delay ≤ limit then (item.delay, .answered (.error f)) else (limit, .lapsed)

end ScriptItem

/-- The text that records a call; a wait is no call. -/
def Question.call? (time : Nat) : Question → Option String
  | resolve => some (toString time ++ " resolve")
  | send endpoint text limit =>
    some (toString time ++ " send " ++ endpoint.path ++ " " ++ toString limit ++ " " ++ text)
  | reconnect => some (toString time ++ " reconnect")
  | strength endpoint _ => some (toString time ++ " strength " ++ endpoint.path)
  | technology endpoint _ => some (toString time ++ " technology " ++ endpoint.path)
  | pause _ => none

/-- What a scripted modem makes of a question. -/
def Script.answer (s : Script) : (q : Question) → Arrival q.Answer × Script
  | .resolve =>
    let (item, rest) := take "/ril_0" s.resolve
    (match item.arrival with
      | .after delay (.ok path) => .after delay (.ok ⟨path⟩)
      | .after delay (.error fault) => .after delay (.error fault)
      | .never => .never, { s with resolve := rest })
  | .send _ text limit =>
    let (item, s) := s.takeSend text
    let (delay, reply) := item.reply limit
    (.after delay reply, s)
  | .reconnect =>
    let (item, rest) := take () s.reconnect
    (item.arrival, { s with reconnect := rest })
  | .strength _ limit =>
    let (item, rest) := take 20 s.strength
    let (delay, reply) := item.reply limit
    (.after delay (reply, delay), { s with strength := rest })
  | .technology _ limit =>
    let (item, rest) := take "LTE only" s.technology
    let (delay, reply) := item.reply limit
    (.after delay reply, { s with technology := rest })
  | .pause time => (.after time (), s)

end Gateway.Modem
