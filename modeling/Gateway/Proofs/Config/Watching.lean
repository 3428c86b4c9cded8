import Gateway.Device.Step
import Gateway.Proofs.Config.Saving

/-!
# When an edited file is read again

The watcher's loop waits for reports and for its timer. A report that
arrives waits for its turn, also while the file is being read again, and
when a report waits and the timer is due as well, either comes first
(`WatchLoop.Step`).

What the watcher knows at any time is what the latest of all edits and acts
was (`WatchLoop.Tracks`, kept by every step): it is pending just if that was
an edit, and then its timer is set to the quiet time after it. So no edit is
lost and none is acted on early, at whatever times the reports arrive, and
reports of anything else can be left out of a run (`WatchLoop.Run.filter`).
-/

namespace Gateway

/-! ## Reports that are none of edits -/

/-- What happens to the temporary file of a save is no edit. -/
theorem FileEvent.touches_of_temporary {path name : String}
    (named : Path.fileName? path = some name) {e : FileEvent}
    (h : ∀ p ∈ e.paths,
      Path.fileName? p = Path.fileName? (ConfigStore.temporaryPath path)) :
    e.touches path = false := by
  obtain ⟨-, temporary, htemporary, hother⟩ :=
    ConfigStore.siblings_temporaryPath named
  have hnone : (e.paths.any fun p =>
      Path.same p path || Path.fileName? p == Path.fileName? path)
      = false := by
    refine List.any_eq_false.mpr fun p hp => ?_
    have hp := (h p hp).trans htemporary
    rw [Path.same_eq_false hp named hother, hp, named]
    simp [hother]
  rw [touches, hnone, Bool.and_false]

/-! ## The loop -/

/-- What the watcher's loop is at. -/
inductive WatchStage where
  | listening
  /-- The file is looked for, and read again if it is there. -/
  | acting
  | over
deriving DecidableEq, Repr

/-- The watcher's loop. -/
structure WatchLoop where
  watcher : Watcher
  /-- The reports that were not taken yet, the oldest first. -/
  waiting : List WatchReport
  stage : WatchStage
  now : Nat
deriving DecidableEq, Repr

/-- What can happen in the loop. -/
inductive WatchStep where
  /-- A report arrives. -/
  | arrive (report : WatchReport)
  /-- The oldest report is taken. -/
  | take (report : WatchReport)
  | act
  /-- What an act began is done. -/
  | finish
  | stop
deriving DecidableEq, Repr

/-- A step and its time. -/
structure WatchMoment where
  time : Nat
  step : WatchStep
deriving DecidableEq, Repr

namespace WatchMoment

def isAct (m : WatchMoment) : Bool := m.step = .act

/-- Whether the report of an edit was taken. -/
def isEdit (path : String) (m : WatchMoment) : Bool :=
  match m.step with
  | .take report => report.isEdit path
  | _ => false

/-- Whether a step is about no other reports than those of edits. -/
def matters (path : String) (m : WatchMoment) : Bool :=
  match m.step with
  | .arrive report | .take report => report.isEdit path
  | _ => true

theorem isAct_of_isEdit {path : String} {m : WatchMoment}
    (h : m.isEdit path = true) : m.isAct = false := by
  obtain ⟨time, step⟩ := m
  cases step with
  | act => cases h
  | _ => rfl

end WatchMoment

namespace WatchLoop

/-- A loop that begins. -/
def start (begun : Nat) : WatchLoop := ⟨.start begun, [], .listening, begun⟩

/-- The loop takes a step. -/
inductive Step (path : String) : WatchLoop → WatchMoment → WatchLoop → Prop
  | arrive {l : WatchLoop} {now : Nat} (report : WatchReport) :
      Step path l ⟨now, .arrive report⟩
        { l with waiting := l.waiting ++ [report], now }
  | take {l : WatchLoop} {now : Nat} {report : WatchReport}
      {rest : List WatchReport} (listens : l.stage = .listening)
      (oldest : l.waiting = report :: rest) :
      Step path l ⟨now, .take report⟩
        { l with
          watcher := l.watcher.hear path report now, waiting := rest, now }
  | act {l : WatchLoop} {now : Nat} (listens : l.stage = .listening)
      (due : l.watcher.isDue now = true) :
      Step path l ⟨now, .act⟩
        { l with watcher := l.watcher.act now, stage := .acting, now }
  | finish {l : WatchLoop} {now : Nat} (acts : l.stage = .acting) :
      Step path l ⟨now, .finish⟩ { l with stage := .listening, now }
  | stop {l : WatchLoop} {now : Nat} (listens : l.stage = .listening) :
      Step path l ⟨now, .stop⟩ { l with stage := .over, now }

/-- From its beginning the loop has come to a state by the steps of a
history, whose latest comes first. -/
inductive Run (path : String) (begun : Nat) :
    List WatchMoment → WatchLoop → Prop
  | start : Run path begun [] (.start begun)
  | step {past : List WatchMoment} {l l' : WatchLoop} {m : WatchMoment}
      (run : Run path begun past l) (later : l.now ≤ m.time)
      (step : Step path l m l') : Run path begun (m :: past) l'

variable {path : String} {begun : Nat} {past : List WatchMoment}
  {l l' : WatchLoop} {m : WatchMoment}

theorem Step.now (step : Step path l m l') : l'.now = m.time := by
  cases step <;> rfl

theorem Run.time_le_now (run : Run path begun past l) :
    ∀ m ∈ past, m.time ≤ l.now := by
  induction run with
  | start => simp
  | step _ later step ih =>
      rw [step.now]
      intro m hm
      rcases List.mem_cons.mp hm with rfl | hm
      · exact Nat.le_refl _
      · exact Nat.le_trans (ih m hm) later

/-- The clock never goes back. -/
theorem Run.ordered (run : Run path begun past l) :
    past.Pairwise fun m earlier => earlier.time ≤ m.time := by
  induction run with
  | start => exact .nil
  | step run later _ ih =>
      exact .cons (fun m hm => Nat.le_trans (run.time_le_now m hm) later) ih

/-- Every step of a run was taken from where the run was then. -/
theorem Run.before {later earlier : List WatchMoment}
    (run : Run path begun (later ++ m :: earlier) l) :
    ∃ l₁ l₂, Run path begun earlier l₁ ∧ Step path l₁ m l₂ := by
  induction later generalizing l with
  | nil =>
      cases run with
      | step run _ step => exact ⟨_, _, run, step⟩
  | cons _ later ih =>
      cases run with
      | step run _ _ => exact ih run

/-! ## What the watcher knows -/

/-- The latest edit or act. -/
def latest? (path : String) (past : List WatchMoment) : Option WatchMoment :=
  past.find? fun m => m.isAct || m.isEdit path

theorem latest?_append (later earlier : List WatchMoment) :
    latest? path (later ++ earlier)
      = (latest? path later).or (latest? path earlier) :=
  List.find?_append

theorem latest?_cons (h : m.isAct = true ∨ m.isEdit path = true) :
    latest? path (m :: past) = some m := by
  rw [latest?, List.find?_cons_of_pos (by simpa using h)]

theorem latest?_cons_of_quiet (hact : m.isAct = false)
    (hedit : m.isEdit path = false) :
    latest? path (m :: past) = latest? path past := by
  rw [latest?, List.find?_cons_of_neg (by simp [hact, hedit]), ← latest?]

theorem mem_of_latest? (h : latest? path past = some m) :
    m ∈ past ∧ (m.isAct = true ∨ m.isEdit path = true) :=
  ⟨List.mem_of_find?_eq_some h, by simpa using List.find?_some h⟩

theorem exists_after_latest? (h : latest? path past = some m) :
    ∃ after before, past = after ++ m :: before
      ∧ ∀ other ∈ after, other.isEdit path = false := by
  obtain ⟨-, after, before, hpast, hquiet⟩ :=
    List.find?_eq_some_iff_append.mp h
  refine ⟨after, before, hpast, fun other hmem => ?_⟩
  have hother : other.isAct = false ∧ other.isEdit path = false := by
    simpa using hquiet other hmem
  exact hother.2

/-- What a watcher knows of a run. -/
structure Tracks (path : String) (past : List WatchMoment) (w : Watcher) :
    Prop where
  period : w.ticker.period = Watcher.quietTime
  pending : w.pending = (latest? path past).any (·.isEdit path)
  next : ∀ m, latest? path past = some m → m.isEdit path = true →
    w.ticker.next = m.time + Watcher.quietTime
  count : past.countP (·.isAct) + w.pending.toNat
    ≤ past.countP (·.isEdit path)

namespace Tracks

variable {w : Watcher}

theorem start : Tracks path [] (.start begun) where
  period := rfl
  pending := rfl
  next _ h _ := nomatch h
  count := Nat.le_refl _

theorem pass (h : Tracks path past w) (hact : m.isAct = false)
    (hedit : m.isEdit path = false) : Tracks path (m :: past) w where
  period := h.period
  pending := by rw [latest?_cons_of_quiet hact hedit, h.pending]
  next := by
    rw [latest?_cons_of_quiet hact hedit]
    exact h.next
  count := by simpa [List.countP_cons, hact, hedit] using h.count

theorem notice (h : Tracks path past w) (hedit : m.isEdit path = true) :
    Tracks path (m :: past) (w.notice m.time) where
  period := h.period
  pending := by simp [latest?_cons (.inr hedit), hedit, Watcher.notice]
  next := by
    rw [latest?_cons (.inr hedit)]
    rintro m ⟨⟩ _
    simp [Watcher.notice, Ticker.reset, h.period]
  count := by
    have hact := WatchMoment.isAct_of_isEdit hedit
    have hcount := h.count
    simp only [List.countP_cons, hact, hedit, Watcher.notice, if_true,
      Bool.false_eq_true, if_false, Bool.toNat_true]
    omega

theorem act {now : Nat} (h : Tracks path past w) (hdue : w.isDue now = true) :
    Tracks path (⟨now, .act⟩ :: past) (w.act now) where
  period := by
    simp only [Watcher.act, Ticker.fire]
    split
    · split <;> exact h.period
    · exact h.period
  pending := by rw [latest?_cons (.inl rfl)]; rfl
  next := by
    rw [latest?_cons (.inl rfl)]
    rintro m ⟨⟩ hedit
    cases hedit
  count := by
    have hpending : w.pending = true := (Bool.and_eq_true_iff.mp hdue).1
    have hcount := h.count
    rw [hpending, Bool.toNat_true] at hcount
    simpa [List.countP_cons, WatchMoment.isAct, WatchMoment.isEdit,
      Watcher.act] using hcount

theorem step (h : Tracks path past l.watcher) (step : Step path l m l') :
    Tracks path (m :: past) l'.watcher := by
  cases step with
  | arrive report => exact h.pass rfl rfl
  | @take now report rest _ _ =>
      unfold Watcher.hear
      split
      · next hedit => exact h.notice hedit
      · next hother => exact h.pass rfl (Bool.not_eq_true _ ▸ hother)
  | act _ due => exact h.act due
  | finish _ => exact h.pass rfl rfl
  | stop _ => exact h.pass rfl rfl

end Tracks

theorem Run.tracks (run : Run path begun past l) :
    Tracks path past l.watcher := by
  induction run with
  | start => exact .start
  | step _ _ step ih => exact ih.step step

/-! ## What a run shows -/

/-- An act answers an edit that came before it, and no edit came within the
quiet time before it. -/
theorem Run.answered {now : Nat} {later earlier : List WatchMoment}
    (run : Run path begun (later ++ ⟨now, .act⟩ :: earlier) l) :
    ∃ m, latest? path earlier = some m ∧ m.isEdit path = true
      ∧ ∀ edit ∈ earlier, edit.isEdit path = true →
        edit.time + Watcher.quietTime ≤ now := by
  obtain ⟨l₁, _, run₁, step⟩ := run.before
  cases step with
  | act _ due =>
      have htracks := run₁.tracks
      simp only [Watcher.isDue, Ticker.isDue, Bool.and_eq_true,
        decide_eq_true_eq, htracks.pending, Option.any_eq_true] at due
      obtain ⟨⟨m, hlatest, hedit⟩, hdue⟩ := due
      rw [htracks.next m hlatest hedit] at hdue
      refine ⟨m, hlatest, hedit, fun edit hmem hisEdit => ?_⟩
      -- The timer was set by the latest edit; any other was taken before it.
      refine Nat.le_trans (Nat.add_le_add_right ?_ _) hdue
      obtain ⟨after, before, rfl, hquiet⟩ := exists_after_latest? hlatest
      have hordered := (List.pairwise_append.mp run₁.ordered).2.1
      rcases List.mem_append.mp hmem with hmem | hmem
      · rw [hquiet edit hmem] at hisEdit
        cases hisEdit
      · rcases List.mem_cons.mp hmem with rfl | hmem
        · exact Nat.le_refl _
        · exact List.rel_of_pairwise_cons hordered hmem

/-- After an edit that was taken, an act comes or the watcher is pending. -/
theorem Tracks.exists_act {w : Watcher} {later earlier : List WatchMoment}
    (h : Tracks path (later ++ m :: earlier) w) (hedit : m.isEdit path = true)
    (hidle : w.pending = false) : ∃ m' ∈ later, m'.isAct = true := by
  have hpending := h.pending
  rw [hidle, latest?_append, latest?_cons (.inr hedit)] at hpending
  cases hlatest : latest? path later with
  | none => simp [hlatest, hedit] at hpending
  | some m' =>
      obtain ⟨hmem, hact | hedit'⟩ := mem_of_latest? hlatest
      · exact ⟨m', hmem, hact⟩
      · simp [hlatest, hedit'] at hpending

/-- Between two acts there is an edit. -/
theorem Run.exists_edit {now before : Nat}
    {later between earlier : List WatchMoment}
    (run : Run path begun
      (later ++ ⟨now, .act⟩ :: (between ++ ⟨before, .act⟩ :: earlier)) l) :
    ∃ m ∈ between, m.isEdit path = true := by
  -- With no edit in between, the act before would be the latest of both.
  obtain ⟨m, hlatest, hedit, -⟩ := run.answered
  rw [latest?_append, latest?_cons (.inl rfl)] at hlatest
  cases hbetween : latest? path between with
  | none =>
      rw [hbetween, Option.none_or] at hlatest
      obtain rfl := Option.some.inj hlatest
      cases hedit
  | some m' =>
      rw [hbetween, Option.some_or] at hlatest
      obtain rfl := Option.some.inj hlatest
      exact ⟨m', (mem_of_latest? hbetween).1, hedit⟩

/-- An edit that is not acted on yet can be from the quiet time after the
latest edit on. -/
theorem Tracks.isDue_iff {w : Watcher} (h : Tracks path past w)
    (hpending : w.pending = true) :
    ∃ m, past.find? (·.isEdit path) = some m
      ∧ ∀ now, w.isDue now = true ↔ m.time + Watcher.quietTime ≤ now := by
  have hany := h.pending
  rw [hpending] at hany
  obtain ⟨m, hlatest, hedit⟩ := (Option.any_eq_true _ _).mp hany.symm
  obtain ⟨after, before, rfl, hquiet⟩ := exists_after_latest? hlatest
  refine ⟨m, ?_, fun now => ?_⟩
  · exact List.find?_eq_some_iff_append.mpr ⟨hedit, after, before, rfl,
      fun other hmem => by rw [hquiet other hmem]; rfl⟩
  · rw [Watcher.isDue, hpending, Bool.true_and, Ticker.isDue,
      h.next m hlatest hedit, decide_eq_true_iff]

/-- A run without the reports that are none of edits is a run too. It leaves
the watcher as it is, and all acts are in it. -/
theorem Run.filter (run : Run path begun past l) :
    ∃ now ≤ l.now, Run path begun (past.filter (·.matters path))
      { l with waiting := l.waiting.filter (·.isEdit path), now } := by
  induction run with
  | start => exact ⟨begun, Nat.le_refl _, .start⟩
  | @step past l l' m _ later step ih =>
      obtain ⟨now, hnow, run⟩ := ih
      have hlater : now ≤ m.time := Nat.le_trans hnow later
      cases step with
      | @arrive time report =>
          rw [List.filter_append]
          cases hedit : report.isEdit path with
          | true =>
              rw [List.filter_cons_of_pos (by exact hedit),
                List.filter_cons_of_pos hedit, List.filter_nil]
              exact ⟨time, Nat.le_refl _, run.step hlater (.arrive report)⟩
          | false =>
              have hother : ¬ report.isEdit path = true := by simp [hedit]
              rw [List.filter_cons_of_neg (by exact hother),
                List.filter_cons_of_neg hother, List.filter_nil,
                List.append_nil]
              exact ⟨now, hlater, run⟩
      | @take time report rest listens oldest =>
          cases hedit : report.isEdit path with
          | true =>
              rw [List.filter_cons_of_pos (by exact hedit)]
              refine ⟨time, Nat.le_refl _,
                run.step hlater (.take listens ?_)⟩
              rw [oldest, List.filter_cons_of_pos hedit]
          | false =>
              have hother : ¬ report.isEdit path = true := by simp [hedit]
              rw [oldest, List.filter_cons_of_neg hother] at run
              rw [List.filter_cons_of_neg (by exact hother), Watcher.hear,
                if_neg hother]
              exact ⟨now, hlater, run⟩
      | @act time listens due =>
          exact ⟨time, Nat.le_refl _, run.step hlater (.act listens due)⟩
      | @finish time acts =>
          exact ⟨time, Nat.le_refl _, run.step hlater (.finish acts)⟩
      | @stop time listens =>
          exact ⟨time, Nat.le_refl _, run.step hlater (.stop listens)⟩

/-- No edit is lost and none is acted on early, however reports and the
timer interleave. An act comes 2000 ms after the edits before it or later;
between two acts there is an edit, so there are no more acts than edits;
when nothing is pending, an act came after each edit; when something is, it
can be acted on from 2000 ms after the latest edit on. Without the reports
that are none of edits the run has the same acts and leaves the same watcher,
and reports of the temporary file of a save are such. -/
theorem debounced (run : Run path begun past l) :
    (∀ later now earlier, past = later ++ ⟨now, .act⟩ :: earlier →
        ∀ m ∈ earlier, m.isEdit path = true → m.time + 2000 ≤ now)
      ∧ (∀ later now between before earlier,
        past = later ++ ⟨now, .act⟩ :: (between ++ ⟨before, .act⟩ :: earlier) →
          ∃ m ∈ between, m.isEdit path = true)
      ∧ past.countP (·.isAct) ≤ past.countP (·.isEdit path)
      ∧ (l.watcher.pending = false →
        ∀ later m earlier, past = later ++ m :: earlier →
          m.isEdit path = true → ∃ m' ∈ later, m'.isAct = true)
      ∧ (l.watcher.pending = true →
        ∃ m, past.find? (·.isEdit path) = some m
          ∧ ∀ now, l.watcher.isDue now = true ↔ m.time + 2000 ≤ now)
      ∧ (∃ now ≤ l.now, Run path begun (past.filter (·.matters path))
        { l with waiting := l.waiting.filter (·.isEdit path), now })
      ∧ (∀ name, Path.fileName? path = some name → ∀ e : FileEvent,
        (∀ p ∈ e.paths, Path.fileName? p
          = Path.fileName? (ConfigStore.temporaryPath path)) →
        (WatchReport.event e).isEdit path = false) := by
  have htracks := run.tracks
  refine ⟨?_, ?_, ?_, ?_, fun hpending => htracks.isDue_iff hpending,
    run.filter, fun name named e h => FileEvent.touches_of_temporary named h⟩
  · rintro later now earlier rfl m hmem hedit
    obtain ⟨-, -, -, hquiet⟩ := run.answered
    exact hquiet m hmem hedit
  · rintro later now between before earlier rfl
    exact run.exists_edit
  · have hcount := htracks.count
    omega
  · rintro hidle later m earlier rfl hedit
    exact htracks.exists_act hedit hidle

/-- An edit that is taken just when the timer is due puts the act off, one
that comes during the act leads to another, and the temporary file to
none. -/
theorem debounced_twice :
    let path := "/config.yml"
    let edit : WatchReport := .event ⟨.modify, [path]⟩
    let other : WatchReport := .event ⟨.create, ["/config.yml.tmp"]⟩
    let first : List WatchMoment :=
      [⟨2200, .take other⟩, ⟨2100, .take edit⟩, ⟨2100, .arrive other⟩,
        ⟨2100, .arrive edit⟩, ⟨100, .take edit⟩, ⟨100, .arrive edit⟩]
    let between : List WatchMoment :=
      [⟨4110, .take edit⟩, ⟨4110, .finish⟩, ⟨4105, .arrive edit⟩]
    let past := ⟨6110, .act⟩ :: (between ++ ⟨4100, .act⟩ :: first)
    ∃ l, Run path 0 past l ∧ l.watcher.pending = false
      ∧ (∀ m ∈ first, m.isEdit path = true → m.time + 2000 ≤ 4100)
      ∧ (∃ m ∈ between, m.isEdit path = true)
      ∧ past.countP (·.isAct) ≤ past.countP (·.isEdit path)
      ∧ other.isEdit path = false := by
  intro path edit other first between past
  have hfirst : ∃ l, Run path 0 first l
      ∧ l = ⟨⟨⟨2000, 4100, .skip, by decide⟩, true⟩, [], .listening, 2200⟩ :=
    ⟨_, .step (.step (.step (.step (.step (.step .start
      (by decide) (.arrive edit)) (by decide) (.take rfl rfl))
      (by decide) (.arrive edit)) (by decide) (.arrive other))
      (by decide) (.take rfl rfl)) (by decide) (.take rfl rfl),
      by decide +kernel⟩
  obtain ⟨_, run, rfl⟩ := hfirst
  have hrun : ∃ l, Run path 0 past l ∧ l.watcher.pending = false :=
    ⟨_, .step (.step (.step (.step (.step run
      (by decide) (.act rfl (by decide))) (by decide) (.arrive edit))
      (by decide) (.finish rfl)) (by decide) (.take rfl rfl))
      (by decide) (.act rfl (by decide +kernel)), rfl⟩
  obtain ⟨l, run, hidle⟩ := hrun
  obtain ⟨hearly, hbetween, hcount, -, -, -, htemporary⟩ := debounced run
  exact ⟨l, run, hidle, hearly (⟨6110, .act⟩ :: between) 4100 first rfl,
    hbetween [] 6110 between 4100 first rfl, hcount,
    htemporary "config.yml" (by decide +kernel) _ (by decide +kernel)⟩

/-! ## The device -/

/-- When the device's watcher is due, the device begins an act and reads the
file again, if it is there. -/
theorem step_of_watcherStep? {d d' : Device} (h : d.watcherStep? = some d')
    (hwatcher : d.watcher = some l.watcher)
    (hlistens : l.stage = .listening) :
    ∃ l', Step d.store.path l ⟨d.now, .act⟩ l'
      ∧ d' = { d with watcher := some l'.watcher }.rereadConfig := by
  obtain ⟨w, hw, h⟩ := Option.bind_eq_some_iff.mp h
  obtain rfl := Option.some.inj (hwatcher.symm.trans hw)
  split at h
  · next hdue => exact ⟨_, .act hlistens hdue, (Option.some.inj h).symm⟩
  · cases h

/-- What the device notices of its own save arrives and is taken at once. -/
theorem steps_of_noticeEdit {d : Device}
    (hwatcher : d.watcher = some l.watcher)
    (hlistens : l.stage = .listening) (hfree : l.waiting = []) :
    ∃ report l₁ l₂, Step d.store.path l ⟨d.now, .arrive report⟩ l₁
      ∧ Step d.store.path l₁ ⟨d.now, .take report⟩ l₂
      ∧ d.noticeEdit.watcher = some l₂.watcher := by
  let report : WatchReport := .event ⟨.modify, [d.store.path]⟩
  have holdest : l.waiting ++ [report] = report :: [] := by
    rw [hfree, List.nil_append]
  have hnotice : d.noticeEdit.watcher
      = some (l.watcher.hear d.store.path report d.now) := by
    simp only [Device.noticeEdit, hwatcher, Option.map_some, report]
  exact ⟨report, _, _, .arrive report, .take hlistens holdest, hnotice⟩

end WatchLoop

end Gateway
