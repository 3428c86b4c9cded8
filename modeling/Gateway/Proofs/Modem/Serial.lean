import Gateway.Proofs.Modem.Transcript

/-!
# One call after the other

What the callers of a bus do together is the same as their calls one after
the other: the log comes apart into transcripts, each with the questions of
one request and nothing in between, and every caller goes on with the
answers of its own transcripts (`calls_serial`).

Two invariants carry it. Every caller that began and did not give up is at
one place: it pauses, it waits in line, it holds the bus or it has finished
(`Placed`). And the log consists of the transcripts of requests that were
served, with one more while the bus is held, whose dialogue is known up to
the question that the bus waits for (`Keeps`). A turn at which the bus goes
on is the same argument whether the caller held the bus or was first in
line (`keeps_resume`).
-/

namespace Gateway.Modem

variable {α β : Type}

/-! ## Where callers are -/

/-- How often a caller is somewhere in an exchange. -/
def Exchange.places (x : Exchange α) (caller : Nat) : Nat :=
  x.holder.toList.countP (·.caller = caller)
    + x.line.countP (·.caller = caller)
    + x.pausing.countP (·.caller = caller)
    + x.finished.countP (·.caller = caller)

namespace Exchange

theorem countP_filter_ne (l : List β) (caller : β → Nat) (c c' : Nat) :
    (l.filter fun w => decide (caller w ≠ c)).countP
        (fun w => decide (caller w = c'))
      = if c = c' then 0 else l.countP fun w => decide (caller w = c') := by
  rw [List.countP_filter]
  split
  · next heq =>
      subst heq
      refine List.countP_eq_zero.mpr fun w _ => ?_
      simp
  · next hne =>
      refine List.countP_congr fun w _ => ?_
      simp only [Bool.and_eq_true, decide_eq_true_eq]
      refine and_iff_left_of_imp fun heq => ?_
      rw [heq]
      exact fun h => hne h.symm

theorem places_proceed (x : Exchange α) (now c : Nat) (p : Procedure α)
    (c' : Nat) :
    (x.proceed now c p).places c'
      = x.places c' + if c = c' then 1 else 0 := by
  induction p with
  | done value =>
      simp only [proceed, places, List.countP_append, List.countP_singleton,
        decide_eq_true_eq]
      omega
  | pause time next ih =>
      rw [proceed]
      split
      · exact ih
      · simp only [places, List.countP_append, List.countP_singleton,
          decide_eq_true_eq]
        omega
  | request r next ih =>
      rw [proceed]
      split
      · exact ih _
      · simp only [places, List.countP_append, List.countP_singleton,
          decide_eq_true_eq]
        omega

/-- A caller that has the bus keeps it or goes on elsewhere. -/
theorem places_resume (x : Exchange α) (now c : Nat)
    (d : Dialogue (Procedure α)) (c' : Nat) :
    (x.resume now c d).places c'
      = { x with holder := none }.places c' + if c = c' then 1 else 0 := by
  have hcame := came_converse x now c d id
  obtain ⟨_, _, _, _, hframe⟩ := converse_frame x now c d
  rw [Dialogue.map_id] at hcame
  unfold resume
  generalize x.converse now c d = y at hcame hframe ⊢
  obtain ⟨x', result⟩ := y
  obtain rfl := hframe
  cases hcame with
  | ended p free answered talk =>
      simp only at free
      simp only [places_proceed, id]
      rw [free]
      rfl
  | waits h holds own latest answered talk rest =>
      simp only at holds
      simp only [places, holds, Option.toList_some, Option.toList_none,
        List.countP_singleton, List.countP_nil, own, decide_eq_true_eq]
      omega

/-- Whoever takes a turn is there. -/
theorem places_pos {x x' : Exchange α} {now c : Nat}
    (hturn : x.turn? now c = some x') : 0 < x.places c := by
  unfold places
  rcases turn?_cases hturn with
    ⟨w, hw, hown, -, rfl⟩ | ⟨holder, wake, hholder, hown, -, -, -, rfl⟩
      | ⟨w, line, hnone, hline, hown, -, rfl⟩
  · have hpos : 0 < x.pausing.countP (·.caller = c) :=
      List.countP_pos_iff.mpr ⟨w, hw, decide_eq_true hown⟩
    omega
  · simp only [hholder, Option.toList_some, List.countP_singleton, hown,
      decide_true, if_true]
    omega
  · simp only [hline, List.countP_cons, hown, decide_true, if_true]
    omega

/-- A turn moves its caller and nobody else. -/
theorem places_turn {x x' : Exchange α} {now c : Nat}
    (hturn : x.turn? now c = some x') (hplaces : x.places c ≤ 1)
    (c' : Nat) : x'.places c' = x.places c' := by
  rcases turn?_cases hturn with
    ⟨w, hw, hown, -, rfl⟩ | ⟨holder, wake, hholder, hown, -, -, -, rfl⟩
      | ⟨w, line, hnone, hline, hown, -, rfl⟩
  · have hpos : 0 < x.pausing.countP (·.caller = c) :=
      List.countP_pos_iff.mpr ⟨w, hw, decide_eq_true hown⟩
    have hfilter := countP_filter_ne x.pausing (·.caller) c c'
    rw [places_proceed]
    simp only [places] at hplaces ⊢
    rw [hfilter]
    split
    · next heq =>
        subst heq
        omega
    · omega
  · rw [places_resume]
    simp only [places, hholder, Option.toList_some, Option.toList_none,
      List.countP_singleton, List.countP_nil, hown, decide_eq_true_eq]
    omega
  · rw [places_resume]
    simp only [places, hnone, hline, Option.toList_none, List.countP_nil,
      List.countP_cons, hown, decide_eq_true_eq]
    omega

/-- A caller that gives up is nowhere, unless it has finished. -/
theorem places_abandon (x : Exchange α) (c c' : Nat) :
    (x.abandon c).places c'
      = if c = c' then x.finished.countP (·.caller = c)
        else x.places c' := by
  have hholder : (x.abandon c).holder.toList
      = x.holder.toList.filter fun h => decide (h.caller ≠ c) := by
    unfold abandon
    cases x.holder with
    | none => rfl
    | some h =>
        by_cases hown : h.caller = c <;> simp [Option.filter_some, hown]
  rw [places, hholder, countP_filter_ne]
  simp only [abandon, countP_filter_ne]
  split
  · next heq =>
      subst heq
      omega
  · rfl

/-- Nobody of that number waits, pauses or has finished. -/
structure Without (x : Exchange α) (c : Nat) : Prop where
  line : ∀ w ∈ x.line, w.caller ≠ c
  pausing : ∀ w ∈ x.pausing, w.caller ≠ c
  finished : ∀ f ∈ x.finished, f.caller ≠ c

theorem without_of_places {x : Exchange α} {c : Nat}
    (h : { x with holder := none }.places c = 0) : x.Without c := by
  simp only [places, Nat.add_eq_zero_iff, List.countP_eq_zero,
    decide_eq_true_eq] at h
  exact ⟨h.1.1.2, h.1.2, h.2⟩

end Exchange

/-- Every caller that began and did not give up is at one place, and all
others are nowhere. -/
structure Placed (t : Timeline α) : Prop where
  once : ∀ c ∈ t.begun.map (·.1), c ∉ t.gone → t.exchange.places c = 1
  nowhere : ∀ c, c ∉ t.begun.map (·.1) ∨ c ∈ t.gone →
    t.exchange.places c = 0
  began : ∀ c ∈ t.gone, c ∈ t.begun.map (·.1)

namespace Placed

variable {t : Timeline α}

theorem le_one (h : Placed t) (c : Nat) : t.exchange.places c ≤ 1 := by
  by_cases hbegun : c ∈ t.begun.map (·.1)
  · by_cases hgone : c ∈ t.gone
    · rw [h.nowhere c (.inr hgone)]
      exact Nat.zero_le 1
    · exact Nat.le_of_eq (h.once c hbegun hgone)
  · rw [h.nowhere c (.inl hbegun)]
    exact Nat.zero_le 1

theorem begin (h : Placed t) {caller : Nat} (p : Procedure α)
    (hnew : caller ∉ t.begun.map (·.1)) :
    Placed { t with
      exchange := t.exchange.proceed t.now caller p
      begun := (caller, p) :: t.begun } where
  once c hc hgone := by
    simp only [Exchange.places_proceed]
    rcases List.mem_cons.mp hc with rfl | hc
    · rw [h.nowhere c (.inl hnew), if_pos rfl]
    · have hne : caller ≠ c := fun heq => hnew (heq ▸ hc)
      rw [h.once c hc hgone, if_neg hne]
  nowhere c hc := by
    have hne : caller ≠ c := by
      rintro rfl
      rcases hc with hc | hc
      · exact hc (List.mem_cons_self ..)
      · exact hnew (h.began _ hc)
    have hc' : c ∉ t.begun.map (·.1) ∨ c ∈ t.gone :=
      hc.imp_left fun hc hmem => hc (List.mem_cons_of_mem _ hmem)
    simp only [Exchange.places_proceed]
    rw [h.nowhere c hc', if_neg hne]
  began c hc := List.mem_cons_of_mem _ (h.began c hc)

theorem giveUp (h : Placed t) {caller : Nat}
    (hbegun : caller ∈ t.begun.map (·.1))
    (hfinished : caller ∉ t.exchange.finished.map (·.caller)) :
    Placed { t with
      exchange := t.exchange.abandon caller
      gone := caller :: t.gone
      log := t.abandoned caller } where
  once c hc hgone := by
    have hne : caller ≠ c := fun heq => hgone (heq ▸ List.mem_cons_self ..)
    have hstays : c ∉ t.gone := fun hc => hgone (List.mem_cons_of_mem _ hc)
    simp only [Exchange.places_abandon]
    rw [if_neg hne, h.once c hc hstays]
  nowhere c hc := by
    simp only [Exchange.places_abandon]
    split
    · refine List.countP_eq_zero.mpr fun f hf hown => ?_
      exact hfinished (List.mem_map.mpr ⟨f, hf, of_decide_eq_true hown⟩)
    · next hne =>
        refine h.nowhere c (hc.imp_right fun hc => ?_)
        exact (List.mem_cons.mp hc).resolve_left fun heq => hne heq.symm
  began := List.forall_mem_cons.mpr ⟨hbegun, h.began⟩

end Placed

theorem placed_of_reachable {limit : Nat} {t : Timeline α}
    (h : t.Reachable limit) : Placed t := by
  induction h with
  | new script => exact ⟨nofun, fun c _ => rfl, nofun⟩
  | @step t t' act h hstep ih =>
      cases act with
      | begin caller p =>
          simp only [Timeline.step?] at hstep
          split at hstep
          · cases hstep
          · next hnew =>
              cases hstep
              exact ih.begin p hnew
      | turn caller =>
          obtain ⟨x', hturn, rfl⟩ := Option.map_eq_some_iff.mp hstep
          have hplaces := Exchange.places_turn hturn (ih.le_one caller)
          exact ⟨fun c hc hgone => (hplaces c).trans (ih.once c hc hgone),
            fun c hc => (hplaces c).trans (ih.nowhere c hc), ih.began⟩
      | giveUp caller =>
          simp only [Timeline.step?] at hstep
          split at hstep
          · next hgives =>
              cases hstep
              exact ih.giveUp hgives.1 hgives.2
          · cases hstep
      | pass time =>
          cases hstep
          exact ⟨ih.once, ih.nowhere, ih.began⟩
      | outside script tickets =>
          cases hstep
          exact ⟨ih.once, ih.nowhere, ih.began⟩

/-! ## What callers wait for -/

variable {limit : Nat} {begun : List (Nat × Procedure α)}
  {past : List Transcript}

/-- Every caller off the bus got as far as the answers of its transcripts
led it. -/
structure Standing (limit : Nat) (begun : List (Nat × Procedure α))
    (past : List Transcript) (x : Exchange α) : Prop where
  line : ∀ w ∈ x.line, ∃ (r : Bus.Request) (next : r.Answer → Procedure α)
    (start : Option Endpoint → Dialogue r.Answer),
    r.work limit = .dialogue start
      ∧ w.start = (fun binding => (start binding).map next)
      ∧ Stands limit begun past w.caller (.request r next)
  pausing : ∀ w ∈ x.pausing, Stands limit begun past w.caller w.rest
  finished : ∀ f ∈ x.finished,
    Stands limit begun past f.caller (.done f.value)

namespace Standing

theorem begin {x : Exchange α} (h : Standing limit begun past x)
    (new : Nat × Procedure α) : Standing limit (new :: begun) past x where
  line w hw := by
    obtain ⟨r, next, start, hwork, hstart, hstands⟩ := h.line w hw
    exact ⟨r, next, start, hwork, hstart, hstands.begin new⟩
  pausing w hw := (h.pausing w hw).begin new
  finished f hf := (h.finished f hf).begin new

/-- Another caller's transcript is none of theirs, and a broken one leads
nobody on. -/
theorem cons {x : Exchange α} (h : Standing limit begun past x)
    {t : Transcript} (hothers : t.outcome = none ∨ x.Without t.caller) :
    Standing limit begun (t :: past) x := by
  have hkeeps : ∀ {c : Nat} {q : Procedure α},
      t.outcome = none ∨ c ≠ t.caller →
      Stands limit begun past c q → Stands limit begun (t :: past) c q := by
    intro c q hsame hstands
    have hanswers : answersTo c (t :: past) = answersTo c past := by
      rcases hsame with hbroken | hne
      · exact answersTo_cons_broken hbroken c past
      · exact answersTo_cons_of_ne (fun heq => hne heq.symm) past
    rw [Stands, hanswers]
    exact hstands
  refine ⟨fun w hw => ?_, fun w hw => ?_, fun f hf => ?_⟩
  · obtain ⟨r, next, start, hwork, hstart, hstands⟩ := h.line w hw
    exact ⟨r, next, start, hwork, hstart,
      hkeeps (hothers.imp_right fun h => h.line w hw) hstands⟩
  · exact hkeeps (hothers.imp_right fun h => h.pausing w hw)
      (h.pausing w hw)
  · exact hkeeps (hothers.imp_right fun h => h.finished f hf)
      (h.finished f hf)

/-- What is true of some callers is true of fewer. -/
theorem of_subset {x x' : Exchange α} (h : Standing limit begun past x)
    (hline : x'.line ⊆ x.line) (hpausing : x'.pausing ⊆ x.pausing)
    (hfinished : x'.finished ⊆ x.finished) :
    Standing limit begun past x' where
  line w hw := h.line w (hline hw)
  pausing w hw := h.pausing w (hpausing hw)
  finished f hf := h.finished f (hfinished hf)

/-- Going on with a procedure does not take a caller from its way. -/
theorem proceed {x : Exchange α} (h : Standing limit begun past x)
    (hlimit : x.limit = limit) (now : Nat) {c : Nat} {p : Procedure α}
    (hp : Stands limit begun past c p) :
    Standing limit begun past (x.proceed now c p) := by
  induction p with
  | done value =>
      refine ⟨h.line, h.pausing, fun f hf => ?_⟩
      rcases List.mem_append.mp hf with hf | hf
      · exact h.finished f hf
      · obtain rfl := List.mem_singleton.mp hf
        exact hp
  | pause time next ih =>
      have hnext := hp.led (.pause (.here next))
      rw [Exchange.proceed]
      split
      · exact ih hnext
      · refine ⟨h.line, fun w hw => ?_, h.finished⟩
        rcases List.mem_append.mp hw with hw | hw
        · exact h.pausing w hw
        · obtain rfl := List.mem_singleton.mp hw
          exact hnext
  | request r next ih =>
      rw [Exchange.proceed]
      split
      · next value hwork =>
          rw [hlimit] at hwork
          exact ih value (hp.led (.refused hwork (.here _)))
      · next start hwork =>
          rw [hlimit] at hwork
          refine ⟨fun w hw => ?_, h.pausing, h.finished⟩
          rcases List.mem_append.mp hw with hw | hw
          · exact h.line w hw
          · obtain rfl := List.mem_singleton.mp hw
            exact ⟨r, next, start, hwork, rfl, hp⟩

end Standing

/-- The transcript of the caller that holds the bus. The answer to its
latest question leads on in the dialogue; however that goes on, the
dialogue of the request goes so. -/
inductive Waits (limit : Nat) (begun : List (Nat × Procedure α))
    (past : List Transcript) (binding : Option Endpoint) (h : Holder α) :
    Transcript → Prop
  | intro {r : Bus.Request} {next : r.Answer → Procedure α}
      {start : Option Endpoint → Dialogue r.Answer}
      {before : Option Endpoint} {q : Question}
      {k : q.Answer → Dialogue r.Answer} {answer : Option q.Answer}
      {since : Nat} {earlier : List Entry}
      (served : Served limit begun past before)
      (closed : ∀ s ∈ past, s.caller = h.caller → s.outcome ≠ none)
      (asks : Stands limit begun past h.caller (.request r next))
      (work : r.work limit = .dialogue start)
      (own : ∀ e ∈ earlier, e.caller = h.caller)
      (talk : ∀ s' outcome,
        (Dialogue.ask q k).Talk ⟨earlier.map Entry.asked, binding, 0⟩
          s' outcome →
        (start before).Talk ⟨[], before, 0⟩ s' outcome)
      (rest : h.wake = none
        ∨ ∃ value, answer = some value ∧ h.rest = (k value).map next) :
      Waits limit begun past binding h
        ⟨h.caller, r, ⟨h.caller, q, answer, since, h.wake⟩ :: earlier,
          none⟩

namespace Waits

variable {binding : Option Endpoint} {h : Holder α} {t : Transcript}

theorem begin (hwaits : Waits limit begun past binding h t)
    (new : Nat × Procedure α) :
    Waits limit (new :: begun) past binding h t := by
  cases hwaits with
  | intro served closed asks work own talk rest =>
      exact .intro (served.begin new) closed (asks.begin new) work own talk
        rest

theorem caller_eq (hwaits : Waits limit begun past binding h t) :
    t.caller = h.caller ∧ t.outcome = none := by
  cases hwaits
  exact ⟨rfl, rfl⟩

/-- Cut at the question that it waits for, whatever becomes of that, it is
a broken transcript. -/
theorem broken (hwaits : Waits limit begun past binding h t) :
    Served limit begun (t :: past) binding
      ∧ ∃ latest earlier, t.entries = latest :: earlier ∧ ∀ now,
        Served limit begun ({ t with
          entries := latest.cut now :: earlier } :: past) binding := by
  cases hwaits with
  | @intro r next start before q k answer since earlier served closed asks
      work own talk rest =>
      have hwent := talk _ none (.cut _)
      have hown : ∀ e : Entry, e.caller = h.caller →
          ∀ e' ∈ e :: earlier, e'.caller = h.caller :=
        fun e he => List.forall_mem_cons.mpr ⟨he, own⟩
      refine ⟨?_, _, _, rfl, fun now => ?_⟩
      · exact .cons served closed (hown _ rfl)
          ⟨start, work, _, _, rfl, hwent⟩ asks
      · exact .cons served closed (hown _ rfl)
          ⟨start, work, _, _, rfl, hwent⟩ asks

end Waits

/-! ## The log in transcripts -/

/-- The log consists of the transcripts of served requests, and of one more
while the bus is held. Only callers that gave up have broken ones. -/
structure Keeps (limit : Nat) (t : Timeline α) (past : List Transcript) :
    Prop where
  within : t.exchange.limit = limit
  closed : ∀ s ∈ past, s.outcome = none → s.caller ∈ t.gone
  standing : Standing limit t.begun past t.exchange
  free : t.exchange.holder = none →
    Served limit t.begun past t.exchange.binding
      ∧ t.log = past.flatMap (·.entries)
  held : ∀ h, t.exchange.holder = some h → ∃ s,
    Waits limit t.begun past t.exchange.binding h s
      ∧ t.log = s.entries ++ past.flatMap (·.entries)

/-- A caller that has the bus goes on with the dialogue of its request, to
the end or to the next question that it has to wait for. -/
theorem keeps_resume {x : Exchange α} {gone : List Nat} {now c : Nat}
    {r : Bus.Request} {next : r.Answer → Procedure α}
    {start : Option Endpoint → Dialogue r.Answer}
    {before : Option Endpoint} {entries : List Entry}
    {d : Dialogue r.Answer} (hwithin : x.limit = limit)
    (hclosed : ∀ s ∈ past, s.outcome = none → s.caller ∈ gone)
    (hstays : c ∉ gone)
    (hstanding : Standing limit begun past x) (hothers : x.Without c)
    (hserved : Served limit begun past before)
    (hasks : Stands limit begun past c (.request r next))
    (hwork : r.work limit = .dialogue start)
    (hown : ∀ e ∈ entries, e.caller = c)
    (htalk : ∀ s' outcome,
      d.Talk ⟨entries.map Entry.asked, x.binding, 0⟩ s' outcome →
      (start before).Talk ⟨[], before, 0⟩ s' outcome) :
    ∃ past', Keeps limit
      { now, begun, gone
        exchange := x.resume now c (d.map next)
        log := x.script.heard now c d
          ++ (entries ++ past.flatMap (·.entries)) } past' := by
  have hcame := Exchange.came_converse x now c d next
  obtain ⟨script, tickets, binding, holder, hframe⟩ :=
    Exchange.converse_frame x now c (d.map next)
  have hheard : ∀ e ∈ x.script.heard now c d, e.caller = c :=
    fun e he => (Script.of_mem_heard he).1
  have hanswered : ∀ s ∈ past, s.caller = c → s.outcome ≠ none :=
    fun s hs hcaller hnone => hstays (hcaller ▸ hclosed s hs hnone)
  unfold Exchange.resume
  generalize x.converse now c (d.map next) = y at hcame hframe ⊢
  obtain ⟨x', result⟩ := y
  simp only at hframe
  have hwithin' : x'.limit = limit := by rw [hframe, hwithin]
  have hstanding' : Standing limit begun past x' := by
    rw [hframe]
    exact ⟨hstanding.line, hstanding.pausing, hstanding.finished⟩
  have hothers' : x'.Without c := by
    rw [hframe]
    exact ⟨hothers.line, hothers.pausing, hothers.finished⟩
  cases hcame with
  | ended value free answered talk =>
      have hfree : x'.holder = none := free
      let t : Transcript :=
        ⟨c, r, x.script.heard now c d ++ entries, some value⟩
      have hwent : t.Went limit before x'.binding := by
        refine ⟨start, hwork, htalk _ _ ?_⟩
        have htalk' := talk (entries.map Entry.asked)
        rw [← List.map_append] at htalk'
        exact htalk'
      have hserved' : Served limit begun (t :: past) x'.binding := by
        refine .cons hserved hanswered (fun e he => ?_) hwent hasks
        rcases List.mem_append.mp he with he | he
        · exact hheard e he
        · exact hown e he
      have hgoes : Stands limit begun (t :: past) c (next value) :=
        Stands.answered (t := t) hasks hwork rfl
      have hkept : (x'.proceed now c (next value)).limit = limit
          ∧ (x'.proceed now c (next value)).holder = none
          ∧ (x'.proceed now c (next value)).binding = x'.binding := by
        obtain ⟨_, _, _, _, hproceed⟩ :=
          Exchange.proceed_frame x' now c (next value)
        rw [hproceed]
        exact ⟨hwithin', hfree, rfl⟩
      refine ⟨t :: past, hkept.1,
        List.forall_mem_cons.mpr ⟨nofun, hclosed⟩,
        (hstanding'.cons (.inr hothers')).proceed hwithin' now hgoes,
        fun _ => ⟨?_, (List.append_assoc _ _ _).symm⟩, fun h hh => ?_⟩
      · exact hkept.2.2.symm ▸ hserved'
      · cases hkept.2.1.symm.trans hh
  | @waits h holds own q k answer earlier latest answered talk rest =>
      have hholder : x'.holder = some h := holds
      obtain rfl := own
      refine ⟨past, hwithin', hclosed, hstanding', fun hnone => ?_,
        fun h' hh' => ?_⟩
      · rw [hholder] at hnone
        cases hnone
      · obtain rfl := Option.some.inj (hholder.symm.trans hh')
        have hearlier : ∀ e ∈ earlier ++ entries, e.caller = h.caller := by
          intro e he
          rcases List.mem_append.mp he with he | he
          · exact hheard e (latest ▸ List.mem_cons_of_mem _ he)
          · exact hown e he
        let t : Transcript := ⟨h.caller, r,
          ⟨h.caller, q, answer, now, h.wake⟩ :: (earlier ++ entries), none⟩
        have hwaits : Waits limit begun past x'.binding h t := by
          refine .intro hserved hanswered hasks hwork hearlier
            (fun s' outcome hq => htalk s' outcome ?_) rest
          rw [List.map_append] at hq
          exact talk _ s' outcome hq
        refine ⟨t, hwaits, ?_⟩
        rw [latest]
        simp only [t, List.cons_append, List.append_assoc]

namespace Keeps

variable {t : Timeline α}

/-- Going on with a procedure is none of the bus's business. -/
theorem proceed (h : Keeps limit t past) {c : Nat} {p : Procedure α}
    (hp : Stands limit t.begun past c p) :
    Keeps limit { t with exchange := t.exchange.proceed t.now c p }
      past := by
  have hstanding := h.standing.proceed h.within t.now hp
  obtain ⟨_, _, _, _, hproceed⟩ :=
    Exchange.proceed_frame t.exchange t.now c p
  rw [hproceed] at hstanding ⊢
  exact ⟨h.within, h.closed, hstanding, h.free, h.held⟩

theorem begin (h : Keeps limit t past) {c : Nat}
    (hnew : c ∉ t.begun.map (·.1)) (p : Procedure α) :
    Keeps limit { t with
      exchange := t.exchange.proceed t.now c p
      begun := (c, p) :: t.begun } past := by
  have hserved : ∃ binding, Served limit t.begun past binding := by
    cases hholder : t.exchange.holder with
    | none => exact ⟨_, (h.free hholder).1⟩
    | some holder =>
        obtain ⟨s, hwaits, -⟩ := h.held holder hholder
        cases hwaits with
        | intro served => exact ⟨_, served⟩
  obtain ⟨binding, hserved⟩ := hserved
  have hstands : Stands limit ((c, p) :: t.begun) past c p := by
    rw [Stands, hserved.answersTo_of_not_begun hnew]
    exact ⟨p, List.mem_cons_self .., .here p⟩
  have hbegun : Keeps limit { t with begun := (c, p) :: t.begun } past := by
    refine ⟨h.within, h.closed, h.standing.begin (c, p), fun hnone => ?_,
      fun holder hholder => ?_⟩
    · exact ⟨(h.free hnone).1.begin (c, p), (h.free hnone).2⟩
    · obtain ⟨s, hwaits, hlog⟩ := h.held holder hholder
      exact ⟨s, hwaits.begin (c, p), hlog⟩
  exact hbegun.proceed hstands

theorem turn (h : Keeps limit t past) (hplaced : Placed t) {c : Nat}
    {x' : Exchange α} (hturn : t.exchange.turn? t.now c = some x') :
    ∃ past', Keeps limit { t with
      exchange := x'
      log := t.exchange.heard t.now c ++ t.log } past' := by
  have hplaces := hplaced.le_one c
  have hstays : c ∉ t.gone := by
    intro hgone
    have hpos := Exchange.places_pos hturn
    rw [hplaced.nowhere c (.inr hgone)] at hpos
    exact Nat.lt_irrefl 0 hpos
  rcases Exchange.turn?_cases hturn with
    ⟨w, hw, hown, hheard, rfl⟩ | ⟨holder, wake, hholder, hown, hwake, -,
      hheard, rfl⟩ | ⟨w, line, hnone, hline, hown, hheard, rfl⟩
  · have hrest : Stands limit t.begun past c w.rest :=
      hown ▸ h.standing.pausing w hw
    have hleft : Keeps limit { t with exchange := { t.exchange with
        pausing := t.exchange.pausing.filter (·.caller ≠ c) } } past :=
      ⟨h.within, h.closed,
        h.standing.of_subset (List.Subset.refl _)
          (fun v hv => (List.mem_filter.mp hv).1) (List.Subset.refl _),
        h.free, h.held⟩
    rw [hheard]
    exact ⟨past, hleft.proceed hrest⟩
  · obtain ⟨s, hwaits, hlog⟩ := h.held holder hholder
    have hothers : t.exchange.Without c := by
      refine Exchange.without_of_places ?_
      simp only [Exchange.places, hholder, Option.toList_some,
        List.countP_singleton, hown, decide_true, if_true] at hplaces
      simp only [Exchange.places, Option.toList_none, List.countP_nil]
      omega
    subst hown
    cases hwaits with
    | @intro r next start before q k answer since earlier served closed asks
        work own talk rest =>
        rcases rest with hnever | ⟨value, rfl, hrest⟩
        · cases hnever.symm.trans hwake
        rw [hheard, hlog, hrest, Script.heard_map]
        refine keeps_resume h.within h.closed hstays h.standing hothers
          served asks work (List.forall_mem_cons.mpr ⟨rfl, own⟩)
          fun s' outcome hgoes => ?_
        exact talk s' outcome (.ask value hgoes)
  · obtain ⟨hserved, hlog⟩ := h.free hnone
    obtain ⟨r, next, start, hwork, hstart, hasks⟩ :=
      h.standing.line w (hline ▸ List.mem_cons_self ..)
    have hothers : { t.exchange with line }.Without c := by
      refine Exchange.without_of_places ?_
      simp only [Exchange.places, hnone, hline, List.countP_cons, hown,
        decide_true, if_true] at hplaces
      simp only [Exchange.places]
      omega
    have hstanding : Standing limit t.begun past
        { t.exchange with line } :=
      h.standing.of_subset
        (fun v hv => hline ▸ List.mem_cons_of_mem w hv)
        (List.Subset.refl _) (List.Subset.refl _)
    subst hown
    have hempty : ∀ e ∈ ([] : List Entry), e.caller = w.caller := nofun
    rw [hheard, hlog, hstart, Script.heard_map]
    exact keeps_resume (x := { t.exchange with line }) h.within h.closed
      hstays hstanding hothers hserved hasks hwork hempty
      fun s' outcome hgoes => hgoes

/-- What the caller waited for goes into its transcript as cut. -/
theorem giveUp (h : Keeps limit t past) (c : Nat) :
    ∃ past', Keeps limit { t with
      exchange := t.exchange.abandon c
      gone := c :: t.gone
      log := t.abandoned c } past' := by
  have hclosed : ∀ s ∈ past, s.outcome = none → s.caller ∈ c :: t.gone :=
    fun s hs hnone => List.mem_cons_of_mem c (h.closed s hs hnone)
  have hstanding : Standing limit t.begun past (t.exchange.abandon c) :=
    h.standing.of_subset (fun w hw => (List.mem_filter.mp hw).1)
      (fun w hw => (List.mem_filter.mp hw).1) (List.Subset.refl _)
  cases hholder : t.exchange.holder with
  | none =>
      have hfree : (t.exchange.abandon c).holder = none := by
        rw [Exchange.abandon, hholder]
        rfl
      have hlog : t.abandoned c = t.log := by
        rw [Timeline.abandoned, hholder]
        rfl
      refine ⟨past, h.within, hclosed, hstanding, fun _ => ?_,
        fun holder hh => ?_⟩
      · rw [hlog]
        exact h.free hholder
      · cases hfree.symm.trans hh
  | some holder =>
      obtain ⟨s, hwaits, hlog⟩ := h.held holder hholder
      by_cases hown : holder.caller = c
      · obtain ⟨-, latest, earlier, hentries, hcut⟩ := hwaits.broken
        obtain ⟨hcaller, hbroken⟩ := hwaits.caller_eq
        have hfree : (t.exchange.abandon c).holder = none := by
          simp [Exchange.abandon, hholder, Option.filter_some, hown]
        have hlog' : t.abandoned c
            = latest.cut t.now :: (earlier ++ past.flatMap (·.entries)) := by
          rw [Timeline.abandoned, hholder, Option.any_some, hown, hlog,
            hentries]
          simp
        refine ⟨{ s with entries := latest.cut t.now :: earlier } :: past,
          h.within, ?_, hstanding.cons (.inl hbroken),
          fun _ => ⟨hcut t.now, hlog'⟩, fun holder hh => ?_⟩
        · refine List.forall_mem_cons.mpr ⟨fun _ => ?_, hclosed⟩
          exact List.mem_cons.mpr (.inl (hcaller.trans hown))
        · cases hfree.symm.trans hh
      · have hheld : (t.exchange.abandon c).holder = some holder := by
          simp [Exchange.abandon, hholder, Option.filter_some, hown]
        have hlog' : t.abandoned c = t.log := by
          simp [Timeline.abandoned, hholder, hown]
        refine ⟨past, h.within, hclosed, hstanding, fun hnone => ?_,
          fun holder' hh => ?_⟩
        · cases hheld.symm.trans hnone
        · rw [hlog']
          exact h.held holder' (hholder.trans (hheld.symm.trans hh))

end Keeps

theorem keeps_of_reachable {t : Timeline α} (h : t.Reachable limit) :
    ∃ past, Keeps limit t past := by
  induction h with
  | new script =>
      exact ⟨[], rfl, nofun, ⟨nofun, nofun, nofun⟩,
        fun _ => ⟨.nil, rfl⟩, nofun⟩
  | @step t t' act h hstep ih =>
      obtain ⟨past, hkeeps⟩ := ih
      cases act with
      | begin caller p =>
          simp only [Timeline.step?] at hstep
          split at hstep
          · cases hstep
          · next hnew =>
              cases hstep
              exact ⟨past, hkeeps.begin hnew p⟩
      | turn caller =>
          obtain ⟨x', hturn, rfl⟩ := Option.map_eq_some_iff.mp hstep
          exact hkeeps.turn (placed_of_reachable h) hturn
      | giveUp caller =>
          simp only [Timeline.step?] at hstep
          split at hstep
          · cases hstep
            exact hkeeps.giveUp caller
          · cases hstep
      | pass time =>
          cases hstep
          exact ⟨past, hkeeps.within, hkeeps.closed, hkeeps.standing,
            hkeeps.free, hkeeps.held⟩
      | outside script tickets =>
          cases hstep
          have hstanding := hkeeps.standing
          exact ⟨past, hkeeps.within, hkeeps.closed,
            ⟨hstanding.line, hstanding.pausing, hstanding.finished⟩,
            hkeeps.free, hkeeps.held⟩

/-- While the bus is held, what was asked so far is a broken transcript. -/
theorem Keeps.served {t : Timeline α} (h : Keeps limit t past) :
    ∃ ts : List Transcript, t.log = ts.flatMap (·.entries)
      ∧ Served limit t.begun ts t.exchange.binding := by
  cases hholder : t.exchange.holder with
  | none =>
      obtain ⟨hserved, hlog⟩ := h.free hholder
      exact ⟨past, hlog, hserved⟩
  | some holder =>
      obtain ⟨s, hwaits, hlog⟩ := h.held holder hholder
      exact ⟨s :: past, hlog, hwaits.broken.1⟩

/-! ## Whole calls -/

/-- A caller begins only one procedure. -/
theorem Timeline.begun_unique {t : Timeline α} (h : t.Reachable limit)
    {c : Nat} {p q : Procedure α} (hp : (c, p) ∈ t.begun)
    (hq : (c, q) ∈ t.begun) : p = q := by
  induction h generalizing c p q with
  | new script => cases hp
  | @step t t' act h hstep ih =>
      cases act with
      | begin caller p' =>
          simp only [step?] at hstep
          split at hstep
          · cases hstep
          · next hnew =>
              cases hstep
              have hold : ∀ {q : Procedure α}, (caller, q) ∉ t.begun :=
                fun hmem => hnew (List.mem_map.mpr ⟨_, hmem, rfl⟩)
              rcases List.mem_cons.mp hp with hnewp | holdp
              · cases hnewp
                rcases List.mem_cons.mp hq with hnewq | holdq
                · cases hnewq
                  rfl
                · exact absurd holdq hold
              · rcases List.mem_cons.mp hq with hnewq | holdq
                · cases hnewq
                  exact absurd holdp hold
                · exact ih holdp holdq
      | turn caller =>
          obtain ⟨x', hturn, rfl⟩ := Option.map_eq_some_iff.mp hstep
          exact ih hp hq
      | giveUp caller =>
          simp only [step?] at hstep
          split at hstep
          · cases hstep
            exact ih hp hq
          · cases hstep
      | pass time =>
          cases hstep
          exact ih hp hq
      | outside script tickets =>
          cases hstep
          exact ih hp hq

/-- Whatever the callers of a bus do at whatever times, and whatever its
modem answers and how late:

- the exchange writes down the calls of the log, and at no time more than
  one of its questions is outstanding;
- the log is made of the transcripts of requests, one after the other. Each
  has the questions of one caller only, goes as the dialogue of its request
  goes from the binding that the one before it left, and belongs to the
  request that its caller's procedure makes after the answers of its
  earlier transcripts, all of which came to their ends;
- only the latest can lack its end, while its caller holds the bus, and
  those whose callers gave up;
- a caller that has finished was led to its value by the answers of its
  own transcripts. If it had one request only, the value is that of the
  answer, which came without the bus or ends a transcript of the caller;
- a caller that began and did not give up pauses, waits in line, holds the
  bus or has finished. -/
theorem calls_serial {t : Timeline α} (h : t.Reachable limit) :
    t.exchange.calls = shown t.log
      ∧ (∀ time, (t.log.filter (Entry.outstanding time)).length ≤ 1)
      ∧ ∃ ts : List Transcript, t.log = ts.flatMap (·.entries)
        ∧ Served limit t.begun ts t.exchange.binding
        ∧ (∀ later s earlier, ts = later ++ s :: earlier →
            s.outcome = none → s.caller ∈ t.gone
              ∨ later = [] ∧ t.exchange.holder.any (·.caller = s.caller))
        ∧ (∀ f ∈ t.exchange.finished,
            Stands limit t.begun ts f.caller (.done f.value)
              ∧ ∀ (r : Bus.Request) (g : r.Answer → α),
                (f.caller, .request r fun a => .done (g a)) ∈ t.begun →
                ∃ a, f.value = g a ∧ (r.work limit = .answer a
                  ∨ ∃ entries, ⟨f.caller, r, entries, some a⟩ ∈ ts))
        ∧ ∀ c ∈ t.begun.map (·.1), c ∉ t.gone →
            t.exchange.places c = 1 := by
  obtain ⟨htimely, hcalls⟩ := Timeline.timely_of_reachable h
  obtain ⟨past, hkeeps⟩ := keeps_of_reachable h
  have hfinished : ∀ ts : List Transcript,
      Standing limit t.begun ts t.exchange →
      ∀ f ∈ t.exchange.finished,
        Stands limit t.begun ts f.caller (.done f.value)
          ∧ ∀ (r : Bus.Request) (g : r.Answer → α),
            (f.caller, .request r fun a => .done (g a)) ∈ t.begun →
            ∃ a, f.value = g a ∧ (r.work limit = .answer a
              ∨ ∃ entries, ⟨f.caller, r, entries, some a⟩ ∈ ts) := by
    intro ts hstanding f hf
    have hstands := hstanding.finished f hf
    refine ⟨hstands, fun r g hbegun => ?_⟩
    obtain ⟨p, hp, hled⟩ := hstands
    rw [Timeline.begun_unique h hp hbegun] at hled
    obtain ⟨a, hvalue, ha⟩ := hled.single
    exact ⟨a, hvalue, ha.imp_right exists_of_mem_answersTo⟩
  refine ⟨hcalls, Timeline.outstanding_le_one htimely.serial, ?_⟩
  cases hholder : t.exchange.holder with
  | none =>
      obtain ⟨hserved, hlog⟩ := hkeeps.free hholder
      refine ⟨past, hlog, hserved, fun later s earlier hpast hnone => ?_,
        hfinished past hkeeps.standing, (placed_of_reachable h).once⟩
      refine .inl (hkeeps.closed s ?_ hnone)
      rw [hpast]
      exact List.mem_append_right later (List.mem_cons_self ..)
  | some holder =>
      obtain ⟨s, hwaits, hlog⟩ := hkeeps.held holder hholder
      obtain ⟨hserved, -⟩ := hwaits.broken
      obtain ⟨hcaller, hnone⟩ := hwaits.caller_eq
      refine ⟨s :: past, hlog, hserved,
        fun later s' earlier hpast hbroken => ?_,
        hfinished (s :: past) (hkeeps.standing.cons (.inl hnone)),
        (placed_of_reachable h).once⟩
      cases later with
      | nil =>
          obtain ⟨rfl, -⟩ := List.cons.inj hpast
          exact .inr ⟨rfl, decide_eq_true hcaller.symm⟩
      | cons s'' later =>
          obtain ⟨-, rfl⟩ := List.cons.inj hpast
          refine .inl (hkeeps.closed s' ?_ hbroken)
          exact List.mem_append_right later (List.mem_cons_self ..)

/-- A modem that is busy at the first command. -/
def busyOnce : Script :=
  { Script.empty with send := [⟨.fault (.busy "dialling"), 10, false⟩] }

/-- A caller finds the modem busy, and another one comes meanwhile. -/
def crowded : List (Act (Except CommandFault String)) := [
  .begin 0 (Procedure.execute "AT"), .turn 0,
  .begin 1 (Procedure.execute "AT+CSQ"), .pass 10, .turn 0, .pass 500,
  .turn 0, .turn 1]

/-- The other one gets the bus after the pause and the second try. -/
theorem calls_serial_crowded :
    ∃ t : Timeline (Except CommandFault String), t.Reachable 8000
      ∧ t.log.map (fun e => (e.caller, e.question, e.since, e.till)) = [
        (1, .send ⟨"/ril_0"⟩ "AT+CSQ" 8000, 510, some 510),
        (0, .send ⟨"/ril_0"⟩ "AT" 8000, 510, some 510),
        (0, .pause Bus.busyPause, 10, some 510),
        (0, .send ⟨"/ril_0"⟩ "AT" 8000, 0, some 10),
        (0, .resolve, 0, some 0)]
      ∧ (t.log.filter (Entry.outstanding 200)).length ≤ 1
      ∧ ∃ ts : List Transcript, t.log = ts.flatMap (·.entries)
        ∧ Served 8000 t.begun ts t.exchange.binding := by
  have hrun : ((Timeline.new 8000 busyOnce).run? crowded).map (fun t =>
      t.log.map fun e => (e.caller, e.question, e.since, e.till)) = some [
        (1, .send ⟨"/ril_0"⟩ "AT+CSQ" 8000, 510, some 510),
        (0, .send ⟨"/ril_0"⟩ "AT" 8000, 510, some 510),
        (0, .pause Bus.busyPause, 10, some 510),
        (0, .send ⟨"/ril_0"⟩ "AT" 8000, 0, some 10),
        (0, .resolve, 0, some 0)] := by
    decide +kernel
  obtain ⟨t, hrun, hlog⟩ := Option.map_eq_some_iff.mp hrun
  have hreach : t.Reachable 8000 := Timeline.Reachable.run (.new busyOnce) hrun
  obtain ⟨-, hone, ts, hts, hserved, -⟩ := calls_serial hreach
  exact ⟨t, hreach, hlog, hone 200, ts, hts, hserved⟩

end Gateway.Modem
