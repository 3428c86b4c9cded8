import Gateway.Proofs.Modem.Conversation

/-!
# The conduct of the command bus

What the bus asks, by what it asked before. The record alone tells what
the bus is bound to (`bound`): the endpoint that the latest search found,
unless the connection was closed under a command or a network query
failed since. The bus asks endpoints for something only while it is bound
to them, and what it asks after a closed connection depends on whether
the call has another try left (`Proper`).

The walk over the two dialogues is done once (`ensures_attempt_of`,
`ensures_query`), with the invariant of the record between two questions
(`Orderly`). What the record says of a run follows by induction over its
calls (`orderly_run`).
-/

namespace Gateway.Modem

/-! ## Reading a record -/

/-- The endpoint that a question is put to. -/
def Question.endpoint? : Question → Option Endpoint
  | .send e _ _ | .strength e _ | .technology e _ => some e
  | .resolve | .reconnect | .pause _ => none

def Question.isSend : Question → Bool
  | .send .. => true
  | _ => false

namespace Asked

/-- Whether an endpoint's answer was that the connection is closed. -/
def closes : Asked → Bool
  | ⟨_, .send .., some (.answered (.error (.closed _)))⟩ => true
  | ⟨_, .strength .., some (.answered (.error (.closed _)), _)⟩ => true
  | ⟨_, .technology .., some (.answered (.error (.closed _)))⟩ => true
  | _ => false

/-- Whether the endpoint was lost by the answer: the connection was closed
under a command, or half of a network query failed or took too long. -/
def drops : Asked → Bool
  | ⟨_, .send .., some (.answered (.error (.closed _)))⟩ => true
  | ⟨_, .strength .., some (.answered (.ok _), _)⟩ => false
  | ⟨_, .strength .., some _⟩ => true
  | ⟨_, .technology .., some (.answered (.ok _))⟩ => false
  | ⟨_, .technology .., some _⟩ => true
  | _ => false

/-- Whether a question was the first command text that its call sent. -/
def isFirstSend (x : Asked) (past : List Asked) : Bool :=
  x.question.isSend
    && past.all fun y => y.call != x.call || !y.question.isSend

theorem drops_of_closes {x : Asked} (h : x.closes = true) :
    x.drops = true := by
  unfold closes at h
  split at h <;> first | rfl | cases h

end Asked

/-- The endpoint that a record leaves a bus bound to. -/
def bound : List Asked → Option Endpoint
  | [] => none
  | ⟨_, .resolve, some (.ok e)⟩ :: _ => some e
  | ⟨_, .resolve, _⟩ :: _ => none
  | x :: past => if x.drops then none else bound past

theorem bound_of_drops {x : Asked} {past : List Asked}
    (h : x.drops = true) : bound (x :: past) = none := by
  unfold bound
  split <;> simp_all [Asked.drops]

theorem bound_of_keeps {x : Asked} {past : List Asked} {e : Endpoint}
    (hx : x.question.endpoint? = some e) (h : x.drops = false) :
    bound (x :: past) = bound past := by
  obtain ⟨call, q, answer⟩ := x
  cases q with
  | send | strength | technology => simp [bound, h]
  | resolve | reconnect | pause => cases hx

/-! ## The rule and the invariant -/

/-- What the bus may ask by what it asked before. -/
structure Proper (past : List Asked) (q : Question) : Prop where
  current : ∀ e, q.endpoint? = some e → bound past = some e
  closed : ∀ x earlier, past = x :: earlier → x.closes = true →
    q = if x.isFirstSend earlier then .reconnect else .resolve

/-- Whether the present call has sent no command text yet. -/
def Session.unsent (s : Session) : Bool :=
  s.asked.all fun y => y.call != s.call || !y.question.isSend

theorem Session.unsent_hear {s : Session} {q : Question}
    (hq : q.isSend = false) (answer : Option q.Answer) :
    (s.hear q answer).unsent = s.unsent := by
  simp [unsent, hear, hq]

theorem Session.unsent_hear_send {s : Session} {q : Question}
    (hq : q.isSend = true) (answer : Option q.Answer) :
    (s.hear q answer).unsent = false := by
  simp [unsent, hear, hq]

/-- The record tells what the bus is bound to. -/
structure Recorded (s : Session) : Prop where
  known : s.binding = bound s.asked
  numbered : ∀ x ∈ s.asked, x.call ≤ s.call

/-- And no reconnect is due: if the last answer was that the connection is
closed, the call that asked has no other try left. -/
structure Orderly (s : Session) : Prop extends Recorded s where
  spent : ∀ x past, s.asked = x :: past → x.closes = true →
    x.isFirstSend past = false

namespace Recorded

variable {s : Session} {q : Question} {answer : Option q.Answer}

theorem bind_hear (h : Recorded s) {binding : Option Endpoint}
    (hbound : binding = bound (⟨s.call, q, answer⟩ :: s.asked)) :
    Recorded ((s.hear q answer).bind binding) where
  known := hbound
  numbered x hx := by
    rcases List.mem_cons.mp hx with rfl | hx
    · exact Nat.le_refl _
    · exact h.numbered x hx

/-- An answer that leaves the bus bound to what it was bound to. -/
theorem hear (h : Recorded s)
    (hbound : bound (⟨s.call, q, answer⟩ :: s.asked) = bound s.asked) :
    Recorded (s.hear q answer) :=
  h.bind_hear (h.known.trans hbound.symm)

theorem orderly (h : Recorded s) {x : Asked} {past : List Asked}
    (hpast : s.asked = x :: past)
    (hspent : x.closes = true → x.isFirstSend past = false) : Orderly s where
  toRecorded := h
  spent y earlier heq hy := by
    obtain ⟨rfl, rfl⟩ := List.cons.inj (hpast.symm.trans heq)
    exact hspent hy

end Recorded

namespace Orderly

variable {s : Session}

theorem proper_resolve (h : Orderly s) : Proper s.asked .resolve where
  current e he := by cases he
  closed x earlier hpast hx := by
    rw [h.spent x earlier hpast hx]
    rfl

/-- A question to the endpoint that the bus is bound to, or a wait. -/
theorem proper (h : Orderly s) {q : Question} {e : Endpoint}
    (hb : s.binding = some e) (hq : ∀ e', q.endpoint? = some e' → e' = e) :
    Proper s.asked q where
  current e' he := by rw [← h.known, hb, hq e' he]
  closed x earlier hpast hx := by
    have hnone : bound (x :: earlier) = none :=
      bound_of_drops (Asked.drops_of_closes hx)
    rw [← hpast, ← h.known, hb] at hnone
    cases hnone

/-- The first command text of a call may be followed by a reconnect. -/
theorem proper_reconnect {e : Endpoint} {text : String} {limit : Nat}
    {answer : Option (Reply String)} (hs : s.unsent = true) :
    Proper (s.hear (.send e text limit) answer).asked .reconnect where
  current e he := by cases he
  closed x earlier hpast _ := by
    obtain ⟨rfl, rfl⟩ := List.cons.inj hpast
    have hfirst : Asked.isFirstSend ⟨s.call, .send e text limit, answer⟩
        s.asked = true := hs
    rw [hfirst]
    rfl

/-- A search that found nothing leaves an unbound bus unbound. -/
theorem hear_resolve (h : Orderly s) (hb : s.binding = none)
    {answer : Option (Question.Answer .resolve)}
    (ha : ∀ e, answer ≠ some (.ok e)) : Orderly (s.hear .resolve answer) := by
  have hnone : bound s.asked = none := h.known.symm.trans hb
  refine (h.hear ?_).orderly rfl nofun
  match answer with
  | none => exact hnone.symm
  | some (.error fault) => exact hnone.symm
  | some (.ok e) => exact absurd rfl (ha e)

/-- An answer of an endpoint that is not lost by it. -/
theorem hear_kept (h : Orderly s) {q : Question} {e : Endpoint}
    (hq : q.endpoint? = some e) {answer : Option q.Answer}
    (hdrops : Asked.drops ⟨s.call, q, answer⟩ = false) :
    Orderly (s.hear q answer) := by
  refine (h.hear (bound_of_keeps hq hdrops)).orderly rfl fun hcloses => ?_
  rw [Asked.drops_of_closes hcloses] at hdrops
  cases hdrops

theorem hear_pause (h : Orderly s) {time : Nat}
    (answer : Option (Question.Answer (.pause time))) :
    Orderly (s.hear (.pause time) answer) :=
  (h.hear rfl).orderly rfl nofun

/-- A new call has sent nothing. -/
theorem turn (h : Orderly s) : Orderly s.turn ∧ s.turn.unsent = true := by
  have hbefore : ∀ x ∈ s.asked, x.call < s.turn.call := by
    intro x hx
    exact Nat.lt_succ_of_le (h.numbered x hx)
  refine ⟨⟨⟨h.known, ?_⟩, h.spent⟩, List.all_eq_true.mpr ?_⟩
  · intro x hx
    exact Nat.le_of_lt (hbefore x hx)
  · intro x hx
    simp [Nat.ne_of_lt (hbefore x hx)]

end Orderly

/-! ## The dialogues -/

namespace Bus

/-- The end of a call: the record is in order, and a result tells whether
the bus is still bound. -/
def Settled {α : Type} (lost : Except CommandFault α → Prop)
    (outcome : Option (Except CommandFault α)) (s : Session) : Prop :=
  Orderly s ∧ ∀ result, outcome = some result →
    (s.binding = none ↔ lost result)

/-- The ends of a command after which the bus is not bound. -/
def CommandLost (result : Except CommandFault String) : Prop :=
  ∃ text, result = .error (.transportClosed text)
    ∨ result = .error (.deviceUnavailable text)

/-- The ends of a network query after which the bus is not bound. -/
def QueryLost (result : Except CommandFault Network.Reading) : Prop :=
  ∃ fault, result = .error fault

section

variable {α : Type} {lost : Except CommandFault α → Prop}
  {result : Except CommandFault α} {s : Session}

theorem settled_cut (h : Orderly s) : Settled lost none s :=
  ⟨h, fun _ hr => nomatch hr⟩

theorem settled_lost (h : Orderly s) (hb : s.binding = none)
    (hr : lost result) : Settled lost (some result) s :=
  ⟨h, fun _ heq => Option.some.inj heq ▸ iff_of_true hb hr⟩

theorem settled_kept (h : Orderly s) {e : Endpoint}
    (hb : s.binding = some e) (hr : ¬ lost result) :
    Settled lost (some result) s := by
  refine ⟨h, fun _ heq => Option.some.inj heq ▸ iff_of_false ?_ hr⟩
  rw [hb]
  nofun

/-- The search for an endpoint, if the bus is not bound to one. -/
theorem ensures_withEndpoint
    {next : Endpoint → Dialogue (Except CommandFault α)}
    (hlost : ∀ text, lost (.error (.deviceUnavailable text)))
    (h : Orderly s)
    (hnext : ∀ e s', Orderly s' → s'.unsent = s.unsent →
      s'.binding = some e → (next e).Ensures Proper (Settled lost) s') :
    (withEndpoint s.binding next).Ensures Proper (Settled lost) s := by
  cases hb : s.binding with
  | some e => exact hnext e s h rfl hb
  | none =>
      refine ⟨h.proper_resolve, settled_cut (h.hear_resolve hb nofun),
        fun answer => ?_⟩
      cases answer with
      | error fault =>
          exact settled_lost (h.hear_resolve hb nofun) hb (hlost _)
      | ok e =>
          refine hnext e _ ?_ (Session.unsent_hear rfl _) rfl
          exact (h.bind_hear rfl).orderly rfl nofun

end

theorem not_commandLost_accepted (answer : String) :
    ¬ CommandLost (accepted answer) := by
  unfold accepted
  dsimp only
  split <;> simp [CommandLost]

/-- The wait for a busy modem. -/
theorem ensures_pause {e : Endpoint} {time : Nat}
    {next : Dialogue (Except CommandFault String)} {s : Session}
    (h : Orderly s) (hb : s.binding = some e)
    (hnext : ∀ s', Orderly s' → s'.unsent = s.unsent →
      s'.binding = some e → next.Ensures Proper (Settled CommandLost) s') :
    (Dialogue.ask (.pause time) fun () => next).Ensures Proper
      (Settled CommandLost) s := by
  refine ⟨h.proper hb nofun, settled_cut (h.hear_pause none), ?_⟩
  intro answer
  exact hnext _ (h.hear_pause _) (Session.unsent_hear rfl _) hb

/-- The reconnect, which ends the command if it fails. -/
theorem ensures_reconnect {next : Dialogue (Except CommandFault String)}
    {s : Session} (h : Recorded s) (hb : s.binding = none)
    (hproper : Proper s.asked .reconnect)
    (hnext : ∀ s', Orderly s' → s'.unsent = s.unsent →
      s'.binding = none → next.Ensures Proper (Settled CommandLost) s') :
    (Dialogue.ask .reconnect fun
      | .error fault => .done (.error (.transportClosed fault.message))
      | .ok () => next).Ensures Proper (Settled CommandLost) s := by
  have hafter : ∀ answer, Orderly (s.hear .reconnect answer) := by
    intro answer
    exact (h.hear rfl).orderly rfl nofun
  refine ⟨hproper, settled_cut (hafter none), ?_⟩
  intro answer
  cases answer with
  | error fault => exact settled_lost (hafter _) hb ⟨_, Or.inl rfl⟩
  | ok _ => exact hnext _ (hafter _) (Session.unsent_hear rfl _) hb

/-- One try of a command, and the next one if there is any. -/
theorem ensures_attempt_of {command : AtCommand} {left : Nat}
    (hfewer : ∀ n, left = n + 1 → ∀ s binding, Orderly s →
      s.unsent = false → s.binding = binding →
      (attempt command n binding).Ensures Proper (Settled CommandLost) s)
    {s : Session} (h : Orderly s) (hs : s.unsent = decide (left ≠ 0)) :
    (attempt command left s.binding).Ensures Proper
      (Settled CommandLost) s := by
  rw [attempt]
  refine ensures_withEndpoint (fun text => ⟨text, Or.inr rfl⟩) h ?_
  intro e s' h hs' hb
  rw [← hs'] at hs
  have hsent := @Session.unsent_hear_send s'
    (.send e command.text command.limit) rfl
  refine ⟨h.proper hb ?_, settled_cut (h.hear_kept rfl rfl), ?_⟩
  · intro e' he'
    exact (Option.some.inj he').symm
  intro reply
  match reply with
  | .lapsed | .answered (.error .timeout) | .answered (.error (.other _)) =>
      exact settled_kept (h.hear_kept rfl rfl) hb (by simp [CommandLost])
  | .answered (.ok answer) =>
      exact settled_kept (h.hear_kept rfl rfl) hb
        (not_commandLost_accepted answer)
  | .answered (.error (.busy text)) =>
      have hbusy : Orderly (s'.hear (.send e command.text command.limit)
          (some (.answered (.error (.busy text))))) := h.hear_kept rfl rfl
      cases left with
      | zero => exact settled_kept hbusy hb (by simp [CommandLost])
      | succ left =>
          refine ensures_pause hbusy hb ?_
          intro s'' h'' hunsent hb''
          exact hfewer left rfl _ _ h'' (hunsent.trans (hsent _)) hb''
  | .answered (.error (.closed text)) =>
      have hclosed : Recorded ((s'.hear (.send e command.text command.limit)
          (some (.answered (.error (.closed text))))).bind none) :=
        h.bind_hear rfl
      cases left with
      | zero =>
          exact settled_lost (hclosed.orderly rfl fun _ => hs) rfl
            ⟨text, Or.inl rfl⟩
      | succ left =>
          refine ensures_reconnect hclosed rfl
            (Orderly.proper_reconnect hs) ?_
          intro s'' h'' hunsent hb''
          exact hfewer left rfl _ _ h'' (hunsent.trans (hsent _)) hb''

/-- A command is sent at most twice. -/
theorem ensures_execute (command : AtCommand) {s : Session} (h : Orderly s)
    (hs : s.unsent = true) :
    (execute command s.binding).Ensures Proper (Settled CommandLost) s := by
  refine ensures_attempt_of ?_ h hs
  rintro n hn s binding h hs rfl
  obtain rfl := Nat.succ.inj hn
  refine ensures_attempt_of ?_ h hs
  intro n hn
  cases hn

/-- A failed query loses the endpoint. -/
theorem ensures_queryFailed {s : Session} {q : Question}
    {answer : Option q.Answer} (h : Orderly s) (hq : q.isSend = false)
    (hdrops : Asked.drops ⟨s.call, q, answer⟩ = true)
    (fault : CommandFault) :
    (queryFailed fault).Ensures Proper (Settled QueryLost)
      (s.hear q answer) := by
  have hrecorded : Recorded ((s.hear q answer).bind none) :=
    h.bind_hear (bound_of_drops hdrops).symm
  refine settled_lost (hrecorded.orderly rfl fun _ => ?_) rfl ⟨fault, rfl⟩
  simp [Asked.isFirstSend, hq]

/-- The two halves of a network query. -/
theorem ensures_query (limit : Nat) {s : Session} (h : Orderly s) :
    (query limit s.binding).Ensures Proper (Settled QueryLost) s := by
  rw [query]
  refine ensures_withEndpoint (fun text => ⟨_, rfl⟩) h ?_
  intro e s h _ hb
  refine ⟨h.proper hb ?_, settled_cut (h.hear_kept rfl rfl), ?_⟩
  · intro e' he'
    exact (Option.some.inj he').symm
  intro reply
  match reply with
  | (.lapsed, _) | (.answered (.error fault), _) =>
      exact ensures_queryFailed h rfl rfl _
  | (.answered (.ok strength), spent) =>
      have hread : Orderly (s.hear (.strength e limit)
          (some (.answered (.ok strength), spent))) := h.hear_kept rfl rfl
      refine ⟨hread.proper hb ?_, settled_cut (hread.hear_kept rfl rfl), ?_⟩
      · intro e' he'
        exact (Option.some.inj he').symm
      intro reply
      match reply with
      | .lapsed | .answered (.error fault) =>
          exact ensures_queryFailed hread rfl rfl _
      | .answered (.ok technology) =>
          exact settled_kept (hread.hear_kept rfl rfl) hb
            (by simp [QueryLost])

/-! ## Runs -/

theorem orderly_run {s : Session} (run : Run s) :
    s.Follows Proper ∧ Orderly s := by
  induction run with
  | new => exact ⟨Session.follows_new _, ⟨rfl, nofun⟩, nofun⟩
  | execute command run talk ih =>
      obtain ⟨hproper, horderly⟩ := ih
      obtain ⟨hturn, hunsent⟩ := horderly.turn
      have hcall := ensures_execute command hturn hunsent
      obtain ⟨hproper', hsettled⟩ := talk.ensured hcall hproper
      exact ⟨hproper', hsettled.1⟩
  | query limit run talk ih =>
      obtain ⟨hproper, horderly⟩ := ih
      have hcall := ensures_query limit horderly.turn.1
      obtain ⟨hproper', hsettled⟩ := talk.ensured hcall hproper
      exact ⟨hproper', hsettled.1⟩

end Bus

end Gateway.Modem
