import Gateway.Modem.Bus

/-!
# Conversations with the modem

What a command bus can come to, whoever answers. A dialogue is followed
question by question, and every question goes down in the record of the
session with the answer that came, or with none if the call was given up
or never heard of again.

- **Talks** (`Dialogue.Talk`): the ways a dialogue can go in a session.
- **Guarantees** (`Dialogue.Ensures`, `Talk.ensured`): a rule for what may
  be asked after what, and a goal for the end, shown once over the tree
  of a dialogue hold of all its talks.
- **Runs** (`Bus.Run`): calls one after the other, each of them whole,
  on a bus that begins unbound.
-/

namespace Gateway.Modem

/-! ## Records -/

/-- A question that a bus asked, the number of the call that asked it, and
what was answered. -/
structure Asked where
  call : Nat
  question : Question
  answer : Option question.Answer

/-- A bus and its record. -/
structure Session where
  /-- What was asked so far, latest first. -/
  asked : List Asked
  binding : Option Endpoint
  /-- The number of the present call. -/
  call : Nat

namespace Session

/-- A bus that was asked for nothing. -/
def new : Session := ⟨[], none, 0⟩

/-- A question is asked, and answered or not. -/
def hear (s : Session) (q : Question) (answer : Option q.Answer) :
    Session :=
  { s with asked := ⟨s.call, q, answer⟩ :: s.asked }

/-- The bus is bound to an endpoint, or to none. -/
def bind (s : Session) (binding : Option Endpoint) : Session :=
  { s with binding }

/-- The next call begins. -/
def turn (s : Session) : Session := { s with call := s.call + 1 }

/-- Everything was asked by a rule for what may be asked after what. -/
def Follows (s : Session) (rule : List Asked → Question → Prop) : Prop :=
  ∀ later x earlier, s.asked = later ++ x :: earlier →
    rule earlier x.question

theorem follows_new (rule : List Asked → Question → Prop) :
    new.Follows rule := by
  intro later x earlier heq
  cases later <;> cases heq

theorem Follows.hear {s : Session} {rule : List Asked → Question → Prop}
    (h : s.Follows rule) {q : Question} (hq : rule s.asked q)
    (answer : Option q.Answer) : (s.hear q answer).Follows rule := by
  intro later x earlier heq
  cases later with
  | nil =>
      obtain ⟨rfl, rfl⟩ := List.cons.inj heq
      exact hq
  | cons y later => exact h later x earlier (List.cons.inj heq).2

end Session

namespace Dialogue

variable {α β : Type}

/-! ## Talks -/

/-- How a dialogue can go: from one session to another, with its value if
it comes to its end. A talk is cut only where it waits for an answer. -/
inductive Talk : Dialogue α → Session → Session → Option α → Prop
  | done (value : α) (s : Session) : Talk (.done value) s s (some value)
  | rebind {binding : Option Endpoint} {next : Dialogue α}
      {s s' : Session} {outcome : Option α}
      (talk : Talk next (s.bind binding) s' outcome) :
      Talk (.rebind binding next) s s' outcome
  | ask {q : Question} {next : q.Answer → Dialogue α} {s s' : Session}
      {outcome : Option α} (answer : q.Answer)
      (talk : Talk (next answer) (s.hear q (some answer)) s' outcome) :
      Talk (.ask q next) s s' outcome
  | cut {q : Question} {next : q.Answer → Dialogue α} (s : Session) :
      Talk (.ask q next) s (s.hear q none) none

/-! ## Guarantees -/

/-- Whatever is answered, every question keeps to the rule, and where the
dialogue comes to its end or is cut the goal is reached. -/
def Ensures (rule : List Asked → Question → Prop)
    (goal : Option α → Session → Prop) : Dialogue α → Session → Prop
  | .done value, s => goal (some value) s
  | .rebind binding next, s => next.Ensures rule goal (s.bind binding)
  | .ask q next, s =>
      rule s.asked q ∧ goal none (s.hear q none)
        ∧ ∀ answer, (next answer).Ensures rule goal (s.hear q (some answer))

variable {rule : List Asked → Question → Prop}
  {goal : Option α → Session → Prop}

theorem Talk.ensured {d : Dialogue α} {s s' : Session} {outcome : Option α}
    (talk : d.Talk s s' outcome) (h : d.Ensures rule goal s)
    (hs : s.Follows rule) : s'.Follows rule ∧ goal outcome s' := by
  induction talk with
  | done value s => exact ⟨hs, h⟩
  | rebind talk ih => exact ih h hs
  | ask answer talk ih => exact ih (h.2.2 answer) (hs.hear h.1 _)
  | cut s => exact ⟨hs.hear h.1 none, h.2.1⟩

end Dialogue

/-! ## Runs -/

/-- What a bus can come to by calls. Commands, limits and answers are free,
and so is where a call is given up; so every order of callers and every
modem is among the runs. -/
inductive Bus.Run : Session → Prop
  | new : Run .new
  | execute {s s' : Session} {outcome : Option (Except CommandFault String)}
      (command : AtCommand) (run : Run s)
      (talk : (execute command s.binding).Talk s.turn s' outcome) : Run s'
  | query {s s' : Session}
      {outcome : Option (Except CommandFault Network.Reading)}
      (limit : Nat) (run : Run s)
      (talk : (query limit s.binding).Talk s.turn s' outcome) : Run s'

end Gateway.Modem
