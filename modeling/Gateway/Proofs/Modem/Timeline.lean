import Gateway.Proofs.Modem.Interleaving

/-!
# The bus in time

An exchange with everything that its callers do at their times. Callers
with different numbers begin procedures, take turns and give up, the clock
goes on, and the modem may be told to answer otherwise (`Timeline.step?`).
Every question that is put to the modem or to the clock goes into a log
with its caller, its answer and the time that it took (`Entry`); what a
caller's turn adds to the log is read off the exchange before the turn
(`Exchange.heard`).

What one stretch of a dialogue comes to is said once (`came_converse`):
either the dialogue ends, or the caller holds the bus and waits for the
answer to the latest question. From it follows that the questions come one
after the other (`Timely`): each of them is over before the next is put.
-/

namespace Gateway.Modem

variable {α β : Type}

/-! ## The log -/

/-- A question that a caller put, and what came of it. -/
structure Entry where
  caller : Nat
  question : Question
  /-- The answer, also while it is on its way; `none` if none ever comes or
  the caller did not stay for it. -/
  answer : Option question.Answer
  since : Nat
  /-- When the answer comes, or when the caller gave up. -/
  till : Option Nat

namespace Entry

/-- The entry as it goes into the record of a session. -/
def asked (e : Entry) : Asked := ⟨0, e.question, e.answer⟩

/-- The question is put and has no answer yet. -/
def outstanding (time : Nat) (e : Entry) : Bool :=
  decide (e.since ≤ time) && e.till.all fun till => decide (time < till)

/-- The question was answered or given up. -/
def Over (e : Entry) (time : Nat) : Prop :=
  ∃ till, e.till = some till ∧ till ≤ time

/-- The caller gave up before the answer. -/
def cut (e : Entry) (now : Nat) : Entry :=
  { e with answer := none, till := some now }

theorem Over.later {e : Entry} {time later : Nat} (h : e.Over time)
    (hle : time ≤ later) : e.Over later := by
  obtain ⟨till, htill, hover⟩ := h
  exact ⟨till, htill, Nat.le_trans hover hle⟩

end Entry

/-- The calls of a log, as they are written down. -/
def shown (log : List Entry) : List String :=
  log.filterMap fun e => e.question.call? e.since

theorem shown_append (later earlier : List Entry) :
    shown (later ++ earlier) = shown later ++ shown earlier :=
  List.filterMap_append

theorem shown_singleton (e : Entry) :
    shown [e] = (e.question.call? e.since).toList := by
  unfold shown
  cases hcall : e.question.call? e.since <;> simp [hcall]

/-- What a dialogue asks as far as the modem answers at once, latest
first. -/
def Script.heard (s : Script) (now caller : Nat) :
    Dialogue α → List Entry
  | .done _ => []
  | .rebind _ next => s.heard now caller next
  | .ask q next =>
    match s.answer q with
    | (.never, _) => [⟨caller, q, none, now, none⟩]
    | (.after 0 value, s) =>
      s.heard now caller (next value)
        ++ [⟨caller, q, some value, now, some now⟩]
    | (.after delay value, _) =>
      [⟨caller, q, some value, now, some (now + delay)⟩]

/-- What a caller's turn asks. -/
def Exchange.heard (x : Exchange α) (now caller : Nat) : List Entry :=
  match x.pausing.find? fun p => p.caller = caller ∧ p.wake ≤ now with
  | some _ => []
  | none =>
    match x.holder, x.line with
    | some h, _ => x.script.heard now caller h.rest
    | none, w :: _ => x.script.heard now caller (w.start x.binding)
    | none, [] => []

/-! ## What callers do -/

/-- An exchange in time. -/
structure Timeline (α : Type) where
  now : Nat
  exchange : Exchange α
  /-- The callers that began, and what each set out to do. -/
  begun : List (Nat × Procedure α)
  /-- The callers that gave up before their end. -/
  gone : List Nat
  /-- What was asked so far, latest first. -/
  log : List Entry

/-- What can happen to an exchange. -/
inductive Act (α : Type) where
  | begin (caller : Nat) (p : Procedure α)
  | turn (caller : Nat)
  | giveUp (caller : Nat)
  | pass (time : Nat)
  /-- The modem is going to answer otherwise, and others begin waits. -/
  | outside (script : Script) (tickets : Nat)

namespace Timeline

/-- A bus without callers. -/
def new (limit : Nat) (script : Script) : Timeline α :=
  ⟨0, .new limit script, [], [], []⟩

/-- The log after a caller gave up. What it waited for is cut. -/
def abandoned (t : Timeline α) (caller : Nat) : List Entry :=
  if t.exchange.holder.any (·.caller = caller) then
    match t.log with
    | [] => []
    | e :: log => e.cut t.now :: log
  else t.log

/-- What comes of an act, if it can happen. A caller begins once, and gives
up only before its end. -/
def step? (t : Timeline α) : Act α → Option (Timeline α)
  | .begin caller p =>
    if caller ∈ t.begun.map (·.1) then none
    else some { t with
      exchange := t.exchange.proceed t.now caller p
      begun := (caller, p) :: t.begun }
  | .turn caller =>
    (t.exchange.turn? t.now caller).map fun exchange =>
      { t with
        exchange
        log := t.exchange.heard t.now caller ++ t.log }
  | .giveUp caller =>
    if caller ∈ t.begun.map (·.1)
        ∧ caller ∉ t.exchange.finished.map (·.caller) then
      some { t with
        exchange := t.exchange.abandon caller
        gone := caller :: t.gone
        log := t.abandoned caller }
    else none
  | .pass time => some { t with now := t.now + time }
  | .outside script tickets =>
    some { t with exchange := { t.exchange with script, tickets } }

/-- What comes of acts in order, if they can happen. -/
def run? (t : Timeline α) : List (Act α) → Option (Timeline α)
  | [] => some t
  | act :: acts => (t.step? act).bind fun t => t.run? acts

/-- What a bus can come to. -/
inductive Reachable (limit : Nat) : Timeline α → Prop
  | new (script : Script) : Reachable limit (.new limit script)
  | step {t t' : Timeline α} {act : Act α} (h : Reachable limit t)
      (hstep : t.step? act = some t') : Reachable limit t'

theorem Reachable.run {limit : Nat} {t t' : Timeline α}
    {acts : List (Act α)} (h : Reachable limit t)
    (hrun : t.run? acts = some t') : Reachable limit t' := by
  induction acts generalizing t with
  | nil =>
      cases hrun
      exact h
  | cons act acts ih =>
      obtain ⟨t₁, hstep, hrest⟩ := Option.bind_eq_some_iff.mp hrun
      exact ih (h.step hstep) hrest

/-- Callers begin by acts and by nothing else. -/
theorem begun_step {t t' : Timeline α} {act : Act α}
    (hstep : t.step? act = some t') (c : Nat) (p : Procedure α) :
    (c, p) ∈ t'.begun ↔ (c, p) ∈ t.begun ∨ act = .begin c p := by
  cases act with
  | begin caller q =>
      simp only [step?] at hstep
      split at hstep
      · cases hstep
      · cases hstep
        rw [List.mem_cons, Prod.mk.injEq, Act.begin.injEq, or_comm,
          eq_comm (a := c), eq_comm (a := p)]
  | turn caller =>
      obtain ⟨x', -, rfl⟩ := Option.map_eq_some_iff.mp hstep
      simp
  | giveUp caller =>
      simp only [step?] at hstep
      split at hstep
      · cases hstep
        simp
      · cases hstep
  | pass time =>
      cases hstep
      simp
  | outside script tickets =>
      cases hstep
      simp

theorem begun_run {t t' : Timeline α} {acts : List (Act α)}
    (hrun : t.run? acts = some t') (c : Nat) (p : Procedure α) :
    (c, p) ∈ t'.begun ↔ (c, p) ∈ t.begun ∨ Act.begin c p ∈ acts := by
  induction acts generalizing t with
  | nil =>
      cases hrun
      simp
  | cons act acts ih =>
      obtain ⟨t₁, hstep, hrest⟩ := Option.bind_eq_some_iff.mp hrun
      rw [ih hrest, begun_step hstep, List.mem_cons, or_assoc,
        eq_comm (a := act)]

end Timeline

/-! ## A stretch of a dialogue -/

theorem Script.heard_map (s : Script) (now caller : Nat) (f : α → β)
    (d : Dialogue α) :
    s.heard now caller (d.map f) = s.heard now caller d := by
  induction d generalizing s with
  | done value => rfl
  | rebind binding next ih => exact ih s
  | ask q next ih =>
      rw [Dialogue.map, heard, heard]
      split
      · rfl
      · rw [ih]
      · rfl

namespace Exchange

/-- What a stretch of a dialogue comes to, and what it leaves in the
exchange and in the log. -/
inductive Came (now caller : Nat) (next : β → Procedure α)
    (d : Dialogue β) (binding : Option Endpoint) (x' : Exchange α)
    (heard : List Entry) : Option (Procedure α) → Prop
  /-- The dialogue ends, and the bus is free. -/
  | ended (value : β) (free : x'.holder = none)
      (answered : ∀ e ∈ heard, e.till = some now)
      (talk : ∀ past, d.Talk ⟨past, binding, 0⟩
        ⟨heard.map Entry.asked ++ past, x'.binding, 0⟩ (some value)) :
      Came now caller next d binding x' heard (some (next value))
  /-- The caller holds the bus and waits for an answer; however it goes on
  from there, the dialogue went so. -/
  | waits (h : Holder α) (holds : x'.holder = some h)
      (own : h.caller = caller) {q : Question}
      {k : q.Answer → Dialogue β} {answer : Option q.Answer}
      {earlier : List Entry}
      (latest : heard = ⟨caller, q, answer, now, h.wake⟩ :: earlier)
      (answered : ∀ e ∈ earlier, e.till = some now)
      (talk : ∀ past s' outcome,
        (Dialogue.ask q k).Talk
          ⟨earlier.map Entry.asked ++ past, x'.binding, 0⟩ s' outcome →
        d.Talk ⟨past, binding, 0⟩ s' outcome)
      (rest : h.wake = none
        ∨ ∃ value, answer = some value ∧ h.rest = (k value).map next) :
      Came now caller next d binding x' heard none

theorem came_converse (x : Exchange α) (now caller : Nat) (d : Dialogue β)
    (next : β → Procedure α) :
    Came now caller next d x.binding (x.converse now caller (d.map next)).1
      (x.script.heard now caller d)
      (x.converse now caller (d.map next)).2 := by
  induction d generalizing x with
  | done value =>
      exact .ended value rfl (List.forall_mem_nil _)
        fun past => .done value _
  | rebind binding d ih =>
      have hcame := ih { x with binding }
      rw [Dialogue.map, converse, Script.heard]
      generalize converse { x with binding } now caller (d.map next) = y
        at hcame ⊢
      obtain ⟨x', result⟩ := y
      cases hcame with
      | ended value free answered talk =>
          exact .ended value free answered fun past => .rebind (talk past)
      | waits h holds own latest answered talk rest =>
          exact .waits h holds own latest answered
            (fun past s' outcome hq => .rebind (talk past s' outcome hq))
            rest
  | ask q k ih =>
      rw [Dialogue.map, converse_ask, Script.heard]
      generalize x.script.answer q = arrived
      obtain ⟨arrival, script⟩ := arrived
      cases arrival with
      | never =>
          exact .waits _ rfl rfl rfl (List.forall_mem_nil _)
            (fun past s' outcome hq => hq) (.inl rfl)
      | after delay value =>
      cases delay with
      | succ delay =>
          exact .waits _ rfl rfl rfl (List.forall_mem_nil _)
            (fun past s' outcome hq => hq) (.inr ⟨value, rfl, rfl⟩)
      | zero =>
          have hcame := ih value { x with
            script
            calls := (q.call? now).toList ++ x.calls
            tickets := x.tickets + 1 }
          simp only
          generalize converse _ now caller ((k value).map next) = y
            at hcame ⊢
          obtain ⟨x', result⟩ := y
          have hlast : ∀ es : List Entry, (∀ e ∈ es, e.till = some now) →
              ∀ e ∈ es ++ [⟨caller, q, some value, now, some now⟩],
                e.till = some now := by
            intro es hes e he
            rcases List.mem_append.mp he with he | he
            · exact hes e he
            · rw [List.mem_singleton.mp he]
          have hpast : ∀ (es : List Entry) (past : List Asked),
              (es ++ [Entry.mk caller q (some value) now (some now)]).map
                Entry.asked ++ past
              = es.map Entry.asked ++ ⟨0, q, some value⟩ :: past := by
            intro es past
            rw [List.map_append, List.append_assoc]
            rfl
          cases hcame with
          | ended result free answered talk =>
              refine .ended result free (hlast _ answered) fun past => ?_
              rw [hpast]
              exact .ask value (talk _)
          | @waits h holds own _ _ _ earlier latest answered talk rest =>
              have hlatest := congrArg
                (· ++ [Entry.mk caller q (some value) now (some now)]) latest
              simp only [List.cons_append] at hlatest
              refine .waits h holds own hlatest (hlast _ answered)
                (fun past s' outcome hq => ?_) rest
              rw [hpast] at hq
              exact .ask value (talk _ s' outcome hq)

/-! ## What steps leave alone -/

/-- A stretch of a dialogue changes nothing but the binding, the holder and
the modem, and its calls are written down. -/
theorem converse_frame (x : Exchange α) (now caller : Nat)
    (d : Dialogue (Procedure α)) :
    ∃ script tickets binding holder,
      (x.converse now caller d).1 = { x with
        script, tickets, binding, holder
        calls := shown (x.script.heard now caller d) ++ x.calls } := by
  induction d generalizing x with
  | done p => exact ⟨_, _, _, _, rfl⟩
  | rebind binding next ih => exact ih { x with binding }
  | ask q next ih =>
      rw [converse_ask, Script.heard]
      generalize x.script.answer q = arrived
      obtain ⟨arrival, script⟩ := arrived
      match arrival with
      | .never | .after (delay + 1) value =>
          simp only [shown_singleton]
          exact ⟨_, _, _, _, rfl⟩
      | .after 0 value =>
          obtain ⟨script', tickets, binding, holder, heq⟩ := ih value
            { x with
              script
              calls := (q.call? now).toList ++ x.calls
              tickets := x.tickets + 1 }
          refine ⟨script', tickets, binding, holder, ?_⟩
          simp only [shown_append, shown_singleton, List.append_assoc]
          exact heq

/-- Going on with a procedure leaves the bus and its modem alone. -/
theorem proceed_frame (x : Exchange α) (now caller : Nat)
    (p : Procedure α) :
    ∃ tickets line pausing finished,
      x.proceed now caller p
        = { x with tickets, line, pausing, finished } := by
  induction p with
  | done value => exact ⟨_, _, _, _, rfl⟩
  | pause time next ih =>
      rw [proceed]
      split
      · exact ih
      · exact ⟨_, _, _, _, rfl⟩
  | request r next ih =>
      rw [proceed]
      split
      · exact ih _
      · exact ⟨_, _, _, _, rfl⟩

theorem calls_resume (x : Exchange α) (now caller : Nat)
    (d : Dialogue (Procedure α)) :
    (x.resume now caller d).calls
      = shown (x.script.heard now caller d) ++ x.calls := by
  obtain ⟨_, _, _, _, hconverse⟩ := converse_frame x now caller d
  unfold resume
  split
  · next x' p heq =>
      obtain ⟨_, _, _, _, hproceed⟩ := proceed_frame x' now caller p
      rw [heq] at hconverse
      rw [hproceed]
      exact congrArg Exchange.calls hconverse
  · next x' heq =>
      rw [heq] at hconverse
      exact congrArg Exchange.calls hconverse

/-- A caller's turn is the end of its wait between two requests, the answer
that it holds the bus for, or its first turn at the head of the line. -/
theorem turn?_cases {x x' : Exchange α} {now caller : Nat}
    (h : x.turn? now caller = some x') :
    (∃ w ∈ x.pausing, w.caller = caller ∧ x.heard now caller = []
      ∧ x' = { x with pausing := x.pausing.filter (·.caller ≠ caller)
          }.proceed now caller w.rest)
    ∨ (∃ holder wake, x.holder = some holder ∧ holder.caller = caller
      ∧ holder.wake = some wake ∧ wake ≤ now
      ∧ x.heard now caller = x.script.heard now caller holder.rest
      ∧ x' = x.resume now caller holder.rest)
    ∨ ∃ w line, x.holder = none ∧ x.line = w :: line ∧ w.caller = caller
      ∧ x.heard now caller
        = x.script.heard now caller (w.start x.binding)
      ∧ x' = { x with line }.resume now caller (w.start x.binding) := by
  unfold turn? at h
  split at h
  · next w hfind =>
      cases h
      have hown := List.find?_some hfind
      simp only [decide_eq_true_eq] at hown
      have hheard : x.heard now caller = [] := by
        unfold heard
        rw [hfind]
      exact .inl ⟨w, List.mem_of_find?_eq_some hfind, hown.1, hheard, rfl⟩
  · next hfind =>
      split at h
      · next holder hholder =>
          split at h
          · next hdue =>
              cases h
              obtain ⟨hown, hdue⟩ := hdue
              have hheard : x.heard now caller
                  = x.script.heard now caller holder.rest := by
                unfold heard
                rw [hfind, hholder]
              cases hwake : holder.wake with
              | none => simp [hwake] at hdue
              | some wake =>
                  have hle : wake ≤ now := by simpa [hwake] using hdue
                  exact .inr (.inl ⟨holder, wake, hholder, hown, hwake, hle,
                    hheard, rfl⟩)
          · cases h
      · next w line hnone hline =>
          split at h
          · next hown =>
              cases h
              have hheard : x.heard now caller
                  = x.script.heard now caller (w.start x.binding) := by
                unfold heard
                rw [hfind, hnone, hline]
              exact .inr (.inr ⟨w, line, hnone, hline, hown, hheard, rfl⟩)
          · cases h
      · cases h

end Exchange

/-! ## One question after the other -/

theorem Dialogue.map_id (d : Dialogue α) : d.map id = d := by
  induction d with
  | done value => rfl
  | rebind binding next ih => rw [map, ih]
  | ask q next ih =>
      rw [map]
      exact congrArg (ask q) (funext ih)

theorem Script.of_mem_heard {s : Script} {now caller : Nat}
    {d : Dialogue α} {e : Entry} (h : e ∈ s.heard now caller d) :
    e.caller = caller ∧ e.since = now := by
  induction d generalizing s with
  | done value => cases h
  | rebind binding next ih => exact ih h
  | ask q next ih =>
      rw [heard] at h
      split at h
      · rw [List.mem_singleton.mp h]
        exact ⟨rfl, rfl⟩
      · rcases List.mem_append.mp h with h | h
        · exact ih _ h
        · rw [List.mem_singleton.mp h]
          exact ⟨rfl, rfl⟩
      · rw [List.mem_singleton.mp h]
        exact ⟨rfl, rfl⟩

/-- The questions of a log come one after the other. While nobody holds the
bus all of them are over, and whoever holds it waits for the answer to the
latest. -/
structure Timely (now : Nat) (holder : Option (Holder α))
    (log : List Entry) : Prop where
  past : ∀ e ∈ log, e.since ≤ now
  serial : log.Pairwise fun later earlier => earlier.Over later.since
  free : holder = none → ∀ e ∈ log, e.Over now
  held : ∀ h, holder = some h → ∃ e earlier,
    log = e :: earlier ∧ e.caller = h.caller ∧ e.till = h.wake

namespace Timely

variable {now caller : Nat} {holder : Option (Holder α)} {log : List Entry}

/-- Where the latest question is answered, all are. -/
theorem over_of_head {e : Entry} (h : Timely now holder (e :: log))
    (hover : e.Over now) : ∀ e' ∈ e :: log, e'.Over now := by
  intro e' he'
  rcases List.mem_cons.mp he' with rfl | he'
  · exact hover
  have hbefore := (List.pairwise_cons.mp h.serial).1 e' he'
  exact hbefore.later (h.past e (List.mem_cons_self ..))

theorem over_of_due {h : Holder α} {wake : Nat}
    (htimely : Timely now (some h) log) (hwake : h.wake = some wake)
    (hdue : wake ≤ now) : ∀ e ∈ log, e.Over now := by
  obtain ⟨e, earlier, rfl, -, htill⟩ := htimely.held h rfl
  exact htimely.over_of_head ⟨wake, htill.trans hwake, hdue⟩

/-- What is put at once comes after everything that is answered. -/
theorem serial_append {later : List Entry}
    (hlater : ∀ e ∈ later, e.since = now ∧ e.till = some now)
    (hserial : log.Pairwise fun later earlier => earlier.Over later.since)
    (hover : ∀ e ∈ log, e.Over now) :
    (later ++ log).Pairwise fun later earlier =>
      earlier.Over later.since := by
  refine List.pairwise_append.mpr ⟨?_, hserial, fun e he e' he' => ?_⟩
  · refine List.pairwise_of_forall_mem_list fun e he e' he' => ?_
    exact ⟨now, (hlater e' he').2, Nat.le_of_eq (hlater e he).1.symm⟩
  · rw [(hlater e he).1]
    exact hover e' he'

theorem resume {x : Exchange α} (d : Dialogue (Procedure α))
    (hpast : ∀ e ∈ log, e.since ≤ now)
    (hserial : log.Pairwise fun later earlier => earlier.Over later.since)
    (hover : ∀ e ∈ log, e.Over now) :
    Timely now (x.resume now caller d).holder
      (x.script.heard now caller d ++ log) := by
  have hcame := Exchange.came_converse x now caller d id
  have hsince : ∀ e ∈ x.script.heard now caller d, e.since = now :=
    fun e he => (Script.of_mem_heard he).2
  have hpast' : ∀ e ∈ x.script.heard now caller d ++ log,
      e.since ≤ now := by
    intro e he
    rcases List.mem_append.mp he with he | he
    · exact Nat.le_of_eq (hsince e he)
    · exact hpast e he
  rw [Dialogue.map_id] at hcame
  unfold Exchange.resume
  generalize x.converse now caller d = y at hcame ⊢
  obtain ⟨x', result⟩ := y
  cases hcame with
  | ended p free answered talk =>
      obtain ⟨_, _, _, _, hproceed⟩ :=
        Exchange.proceed_frame x' now caller (id p)
      have hholder : (x'.proceed now caller (id p)).holder = none := by
        rw [hproceed]
        exact free
      rw [hholder]
      refine ⟨hpast', ?_, fun _ e he => ?_, nofun⟩
      · exact serial_append (fun e he => ⟨hsince e he, answered e he⟩)
          hserial hover
      · rcases List.mem_append.mp he with he | he
        · exact ⟨now, answered e he, Nat.le_refl now⟩
        · exact hover e he
  | @waits h holds own q k answer earlier latest answered talk rest =>
      have hholder : x'.holder = some h := holds
      simp only [hholder]
      refine ⟨hpast', ?_, nofun, fun h' hh' => ?_⟩
      · rw [latest] at hsince ⊢
        have hserial' : (earlier ++ log).Pairwise fun later earlier =>
            earlier.Over later.since := by
          refine serial_append (fun e he => ⟨?_, answered e he⟩) hserial hover
          exact hsince e (List.mem_cons_of_mem _ he)
        refine List.pairwise_cons.mpr ⟨fun e he => ?_, hserial'⟩
        rcases List.mem_append.mp he with he | he
        · exact ⟨now, answered e he, Nat.le_refl now⟩
        · exact hover e he
      · obtain rfl := Option.some.inj hh'
        exact ⟨_, earlier ++ log, congrArg (· ++ log) latest, own.symm, rfl⟩

theorem turn {x x' : Exchange α} (h : Timely now x.holder log)
    (hturn : x.turn? now caller = some x') :
    Timely now x'.holder (x.heard now caller ++ log) := by
  rcases Exchange.turn?_cases hturn with
    ⟨w, -, -, hheard, rfl⟩ | ⟨holder, wake, hholder, -, hwake, hdue,
      hheard, rfl⟩ | ⟨w, line, hnone, -, -, hheard, rfl⟩
  · obtain ⟨_, _, _, _, hproceed⟩ := Exchange.proceed_frame
      { x with pausing := x.pausing.filter (·.caller ≠ caller) }
      now caller w.rest
    rw [hheard, hproceed]
    exact h
  · rw [hholder] at h
    rw [hheard]
    exact resume _ h.past h.serial (h.over_of_due hwake hdue)
  · rw [hheard]
    exact resume _ h.past h.serial (h.free hnone)

theorem giveUp {t : Timeline α}
    (h : Timely t.now t.exchange.holder t.log) (caller : Nat) :
    Timely t.now (t.exchange.abandon caller).holder
      (t.abandoned caller) := by
  unfold Timeline.abandoned Exchange.abandon
  cases hholder : t.exchange.holder with
  | none =>
      rw [hholder] at h
      exact h
  | some holder =>
      rw [hholder] at h
      by_cases hown : holder.caller = caller
      · obtain ⟨e, earlier, hlog, -, -⟩ := h.held holder rfl
        rw [hlog] at h ⊢
        obtain ⟨hafter, hserial⟩ := List.pairwise_cons.mp h.serial
        obtain ⟨hnow, hpast⟩ := List.forall_mem_cons.mp h.past
        simp only [Option.filter_some, Option.any_some, hown, ne_eq,
          not_true_eq_false, decide_false, decide_true, Bool.false_eq_true,
          if_false, if_true]
        refine ⟨List.forall_mem_cons.mpr ⟨hnow, hpast⟩,
          List.pairwise_cons.mpr ⟨hafter, hserial⟩, fun _ => ?_, nofun⟩
        refine List.forall_mem_cons.mpr
          ⟨⟨t.now, rfl, Nat.le_refl t.now⟩, fun e' he' => ?_⟩
        exact (hafter e' he').later hnow
      · simpa [Option.filter_some, hown] using h

theorem pass (h : Timely now holder log) (time : Nat) :
    Timely (now + time) holder log where
  past e he := Nat.le_trans (h.past e he) (Nat.le_add_right now time)
  serial := h.serial
  free hnone e he := (h.free hnone e he).later (Nat.le_add_right now time)
  held := h.held

end Timely

namespace Timeline

theorem calls_turn {x x' : Exchange α} {now caller : Nat}
    (hturn : x.turn? now caller = some x') :
    x'.calls = shown (x.heard now caller) ++ x.calls := by
  rcases Exchange.turn?_cases hturn with
    ⟨w, -, -, hheard, rfl⟩ | ⟨holder, -, -, -, -, -, hheard, rfl⟩
      | ⟨w, line, -, -, -, hheard, rfl⟩
  · obtain ⟨_, _, _, _, hproceed⟩ := Exchange.proceed_frame
      { x with pausing := x.pausing.filter (·.caller ≠ caller) }
      now caller w.rest
    rw [hheard, hproceed]
    rfl
  · rw [hheard, Exchange.calls_resume]
  · rw [hheard, Exchange.calls_resume]

theorem shown_abandoned (t : Timeline α) (caller : Nat) :
    shown (t.abandoned caller) = shown t.log := by
  unfold abandoned
  split
  · cases t.log with
    | nil => rfl
    | cons e log => rfl
  · rfl

/-- The log is timely, and shows the calls that the exchange wrote down. -/
theorem timely_of_reachable {limit : Nat} {t : Timeline α}
    (h : Reachable limit t) :
    Timely t.now t.exchange.holder t.log
      ∧ t.exchange.calls = shown t.log := by
  induction h with
  | new script => exact ⟨⟨nofun, .nil, fun _ => nofun, nofun⟩, rfl⟩
  | @step t t' act h hstep ih =>
      obtain ⟨htimely, hcalls⟩ := ih
      cases act with
      | begin caller p =>
          simp only [step?] at hstep
          split at hstep
          · cases hstep
          · cases hstep
            obtain ⟨_, _, _, _, hproceed⟩ :=
              Exchange.proceed_frame t.exchange t.now caller p
            simp only [hproceed]
            exact ⟨htimely, hcalls⟩
      | turn caller =>
          obtain ⟨x', hturn, rfl⟩ := Option.map_eq_some_iff.mp hstep
          refine ⟨htimely.turn hturn, ?_⟩
          rw [calls_turn hturn, hcalls, shown_append]
      | giveUp caller =>
          simp only [step?] at hstep
          split at hstep
          · cases hstep
            refine ⟨htimely.giveUp caller, ?_⟩
            rw [shown_abandoned]
            exact hcalls
          · cases hstep
      | pass time =>
          cases hstep
          exact ⟨htimely.pass time, hcalls⟩
      | outside script tickets =>
          cases hstep
          exact ⟨htimely, hcalls⟩

/-- At no time more than one question is outstanding. -/
theorem outstanding_le_one {log : List Entry}
    (h : log.Pairwise fun later earlier => earlier.Over later.since)
    (time : Nat) : (log.filter (Entry.outstanding time)).length ≤ 1 := by
  induction log with
  | nil => exact Nat.zero_le 1
  | cons e log ih =>
      obtain ⟨hbefore, hserial⟩ := List.pairwise_cons.mp h
      rw [List.filter_cons]
      split
      · next hout =>
          have hsince : e.since ≤ time := by
            simp only [Entry.outstanding, Bool.and_eq_true,
              decide_eq_true_eq] at hout
            exact hout.1
          have hnone : log.filter (Entry.outstanding time) = [] := by
            refine List.filter_eq_nil_iff.mpr fun e' he' hout' => ?_
            obtain ⟨till, htill, hle⟩ := (hbefore e' he').later hsince
            simp only [Entry.outstanding, htill, Option.all_some,
              Bool.and_eq_true, decide_eq_true_eq] at hout'
            omega
          rw [hnone]
          exact Nat.le_refl 1
      · exact ih hserial

end Timeline

end Gateway.Modem
