import Gateway.Modem.Exchange
import Gateway.Proofs.Modem.Conversation

/-!
# Interleaved callers

Many callers may share a command bus, and give up whenever they like;
still the bus runs whole calls one after the other. At any time there is
a run of the bus that shows the calls that the exchange wrote down and
leaves the binding that the exchange has (`run_of_reachable`). So what
holds of all runs holds of everything that callers can do together.

The invariant (`Serves`) has a case for the free bus and one for the bus
that waits for an answer in the middle of a dialogue. A dialogue that is
given up there is a talk that was cut.
-/

namespace Gateway.Modem

variable {α β : Type}

/-- The calls of a record, as they are written down. -/
def Shows : List String → List Asked → Prop
  | calls, [] => calls = []
  | calls, x :: past => ∃ now rest,
      calls = (x.question.call? now).toList ++ rest ∧ Shows rest past

theorem Dialogue.talk_map {f : α → β} {d : Dialogue α} {s s' : Session}
    {outcome : Option β} (talk : (d.map f).Talk s s' outcome) :
    ∃ outcome', d.Talk s s' outcome' := by
  induction d generalizing s with
  | done value =>
      cases talk
      exact ⟨_, .done value _⟩
  | rebind binding next ih =>
      cases talk with
      | rebind talk =>
          obtain ⟨outcome', talk⟩ := ih talk
          exact ⟨outcome', .rebind talk⟩
  | ask q next ih =>
      cases talk with
      | ask answer talk =>
          obtain ⟨outcome', talk⟩ := ih answer talk
          exact ⟨outcome', .ask answer talk⟩
      | cut => exact ⟨none, .cut s⟩

namespace Exchange

/-! ## The invariant -/

/-- What waits in line is a command or a network query. -/
inductive IsCall : (Option Endpoint → Dialogue (Procedure α)) → Prop
  | execute (command : AtCommand)
      (next : Except CommandFault String → Procedure α) :
      IsCall fun binding => (Bus.execute command binding).map next
  | query (limit : Nat)
      (next : Except CommandFault Network.Reading → Procedure α) :
      IsCall fun binding => (Bus.query limit binding).map next

/-- The binding and the calls are those of a run. -/
def Idle (binding : Option Endpoint) (calls : List String) : Prop :=
  ∃ s, Bus.Run s ∧ s.binding = binding ∧ Shows calls s.asked

/-- A session is in the middle of a call: however the dialogue goes on, it
makes a run. -/
structure Engaged (binding : Option Endpoint) (calls : List String)
    (d : Dialogue (Procedure α)) (s : Session) : Prop where
  bound : s.binding = binding
  shows : Shows calls s.asked
  whole : ∀ s' outcome, d.Talk s s' outcome → Bus.Run s'

/-- A question was asked and its answer is yet to come; it may be known
already. -/
def Held (binding : Option Endpoint) (calls : List String)
    (h : Holder α) : Prop :=
  ∃ q next now rest s, calls = (q.call? now).toList ++ rest
    ∧ Engaged binding rest (.ask q next) s
    ∧ (h.wake = none ∨ ∃ answer, h.rest = next answer)

/-- The exchange runs whole calls. -/
structure Serves (x : Exchange α) : Prop where
  line : ∀ w ∈ x.line, IsCall w.start
  idle : x.holder = none → Idle x.binding x.calls
  held : ∀ h, x.holder = some h → Held x.binding x.calls h

theorem Engaged.hear {binding : Option Endpoint} {calls : List String}
    {q : Question} {next : q.Answer → Dialogue (Procedure α)} {s : Session}
    (h : Engaged binding calls (.ask q next) s) (now : Nat)
    (answer : q.Answer) :
    Engaged binding ((q.call? now).toList ++ calls) (next answer)
      (s.hear q (some answer)) where
  bound := h.bound
  shows := ⟨now, calls, rfl, h.shows⟩
  whole s' outcome talk := h.whole s' outcome (.ask answer talk)

theorem Held.cut {binding : Option Endpoint} {calls : List String}
    {h : Holder α} (hheld : Held binding calls h) : Idle binding calls := by
  obtain ⟨q, next, now, rest, s, hcalls, hs, -⟩ := hheld
  exact ⟨s.hear q none, hs.whole _ none (.cut s), hs.bound,
    now, rest, hcalls, hs.shows⟩

/-- Given up or not, what was done so far is a run. -/
theorem Serves.run {x : Exchange α} (h : x.Serves) :
    Idle x.binding x.calls := by
  cases hx : x.holder with
  | none => exact h.idle hx
  | some holder => exact (h.held holder hx).cut

theorem IsCall.engaged {start : Option Endpoint → Dialogue (Procedure α)}
    (hstart : IsCall start) {binding : Option Endpoint}
    {calls : List String} (h : Idle binding calls) :
    ∃ s, Engaged binding calls (start binding) s := by
  obtain ⟨s, run, rfl, hshows⟩ := h
  refine ⟨s.turn, rfl, hshows, fun s' outcome talk => ?_⟩
  cases hstart with
  | execute command next =>
      obtain ⟨_, talk⟩ := Dialogue.talk_map talk
      exact .execute command run talk
  | query limit next =>
      obtain ⟨_, talk⟩ := Dialogue.talk_map talk
      exact .query limit run talk

/-! ## What callers do -/

theorem isCall_commandWork {text : String} {limit : Nat}
    {start : Option Endpoint → Dialogue (Except CommandFault String)}
    (hwork : Bus.commandWork text limit = .dialogue start)
    (next : Except CommandFault String → Procedure α) :
    IsCall fun binding => (start binding).map next := by
  unfold Bus.commandWork at hwork
  split at hwork
  · cases hwork
  · cases hwork
    exact .execute _ next

theorem isCall_work {limit : Nat} {r : Bus.Request}
    {start : Option Endpoint → Dialogue r.Answer}
    (hwork : r.work limit = .dialogue start)
    (next : r.Answer → Procedure α) :
    IsCall fun binding => (start binding).map next := by
  cases r with
  | command text => exact isCall_commandWork hwork next
  | limited text limit => exact isCall_commandWork hwork next
  | network =>
      cases hwork
      exact .query limit next

theorem serves_proceed {x : Exchange α} (h : x.Serves) (now caller : Nat)
    (p : Procedure α) : (x.proceed now caller p).Serves := by
  induction p with
  | done value => exact ⟨h.line, h.idle, h.held⟩
  | pause time next ih =>
      rw [proceed]
      split
      · exact ih
      · exact ⟨h.line, h.idle, h.held⟩
  | request r next ih =>
      rw [proceed]
      split
      · exact ih _
      · next start hwork =>
          refine ⟨fun w hw => ?_, h.idle, h.held⟩
          rcases List.mem_append.mp hw with hw | hw
          · exact h.line w hw
          · obtain rfl := List.mem_singleton.mp hw
            exact isCall_work hwork next

theorem converse_ask (x : Exchange α) (now caller : Nat) (q : Question)
    (next : q.Answer → Dialogue (Procedure α)) :
    x.converse now caller (.ask q next)
      = let (arrival, script) := x.script.answer q
        let x := { x with
          script
          calls := (q.call? now).toList ++ x.calls
          tickets := x.tickets + 1 }
        match arrival with
        | .never =>
          ({ x with holder := some ⟨caller, none, x.tickets, .ask q next⟩ },
            none)
        | .after 0 value => converse x now caller (next value)
        | .after delay value =>
          ({ x with
              holder := some
                ⟨caller, some (now + delay), x.tickets, next value⟩ },
            none) := by
  rw [converse]
  cases q.call? now <;> rfl

theorem serves_converse {x : Exchange α} {d : Dialogue (Procedure α)}
    {s : Session} (hline : ∀ w ∈ x.line, IsCall w.start)
    (h : Engaged x.binding x.calls d s) (now caller : Nat) :
    (x.converse now caller d).1.Serves := by
  induction d generalizing x s with
  | done p =>
      refine ⟨hline, fun _ => ?_, nofun⟩
      exact ⟨s, h.whole _ _ (.done p s), h.bound, h.shows⟩
  | rebind binding next ih =>
      refine ih (x := { x with binding }) (s := s.bind binding) hline
        ⟨rfl, h.shows, fun s' outcome talk => ?_⟩
      exact h.whole s' outcome (.rebind talk)
  | ask q next ih =>
      rw [converse_ask]
      generalize x.script.answer q = arrived
      obtain ⟨arrival, script⟩ := arrived
      match arrival with
      | .never =>
          refine ⟨hline, nofun, fun holder hholder => ?_⟩
          cases hholder
          exact ⟨q, next, now, x.calls, s, rfl, h, Or.inl rfl⟩
      | .after 0 value => exact ih value hline (h.hear now value)
      | .after (delay + 1) value =>
          refine ⟨hline, nofun, fun holder hholder => ?_⟩
          cases hholder
          exact ⟨q, next, now, x.calls, s, rfl, h, Or.inr ⟨value, rfl⟩⟩

theorem serves_resume {x : Exchange α} {d : Dialogue (Procedure α)}
    {s : Session} (hline : ∀ w ∈ x.line, IsCall w.start)
    (h : Engaged x.binding x.calls d s) (now caller : Nat) :
    (x.resume now caller d).Serves := by
  have hconverse := serves_converse hline h now caller
  unfold resume
  split
  · next x' p heq =>
      rw [heq] at hconverse
      exact serves_proceed hconverse now caller p
  · next x' heq =>
      rw [heq] at hconverse
      exact hconverse

theorem serves_turn {x x' : Exchange α} (h : x.Serves) {now caller : Nat}
    (hturn : x.turn? now caller = some x') : x'.Serves := by
  unfold turn? at hturn
  split at hturn
  · next p _ =>
      cases hturn
      have hserves : Serves { x with
          pausing := x.pausing.filter (·.caller ≠ caller) } :=
        ⟨h.line, h.idle, h.held⟩
      exact serves_proceed hserves now caller p.rest
  split at hturn
  · next holder hholder =>
      split at hturn
      · next hwake =>
          cases hturn
          obtain ⟨q, next, asked, rest, s, hcalls, hs, hrest⟩ :=
            h.held holder hholder
          rcases hrest with hnever | ⟨answer, hanswer⟩
          · rw [hnever] at hwake
            cases hwake.2
          · have hheard := hs.hear asked answer
            rw [← hcalls] at hheard
            rw [hanswer]
            exact serves_resume h.line hheard now caller
      · cases hturn
  · next w line hnone hline =>
      split at hturn
      · cases hturn
        have hcalls : ∀ v ∈ w :: line, IsCall v.start := hline ▸ h.line
        obtain ⟨hw, hrest⟩ := List.forall_mem_cons.mp hcalls
        obtain ⟨s, hs⟩ := hw.engaged (h.idle hnone)
        exact serves_resume (x := { x with line }) hrest hs now caller
      · cases hturn
  · cases hturn

theorem serves_abandon {x : Exchange α} (h : x.Serves) (caller : Nat) :
    (x.abandon caller).Serves where
  line w hw := h.line w (List.mem_filter.mp hw).1
  idle _ := h.run
  held holder hholder := by
    have hkept : x.holder = some holder := by
      have := Option.filter_eq_some_iff.mp hholder
      exact this.1
    exact h.held holder hkept

/-! ## Everything that callers can do -/

/-- What an exchange can come to. Callers begin procedures, take turns and
give up at any times, outcomes are handed out, and the modem's answers
may change. -/
inductive Reachable (limit : Nat) : Exchange α → Prop
  | new (script : Script) : Reachable limit (.new limit script)
  | proceed {x : Exchange α} (now caller : Nat) (p : Procedure α)
      (h : Reachable limit x) : Reachable limit (x.proceed now caller p)
  | turn {x x' : Exchange α} {now caller : Nat} (h : Reachable limit x)
      (hturn : x.turn? now caller = some x') : Reachable limit x'
  | abandon {x : Exchange α} (caller : Nat) (h : Reachable limit x) :
      Reachable limit (x.abandon caller)
  | outside {x : Exchange α} (script : Script)
      (finished : List (Finished α)) (tickets : Nat)
      (h : Reachable limit x) :
      Reachable limit { x with script, finished, tickets }

theorem serves_of_reachable {limit : Nat} {x : Exchange α}
    (h : Reachable limit x) : x.Serves := by
  induction h with
  | new script => exact ⟨nofun, fun _ => ⟨.new, .new, rfl, rfl⟩, nofun⟩
  | proceed now caller p h ih => exact serves_proceed ih now caller p
  | turn h hturn ih => exact serves_turn ih hturn
  | abandon caller h ih => exact serves_abandon ih caller
  | outside script finished tickets h ih => exact ⟨ih.line, ih.idle, ih.held⟩

/-- Whatever the callers of an exchange do, its calls and its binding are
those of calls that ran one after the other. -/
theorem run_of_reachable {limit : Nat} {x : Exchange α}
    (h : Reachable limit x) :
    ∃ s, Bus.Run s ∧ s.binding = x.binding ∧ Shows x.calls s.asked :=
  (serves_of_reachable h).run

end Exchange

end Gateway.Modem
