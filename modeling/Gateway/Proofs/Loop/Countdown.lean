import Gateway.Proofs.Loop.Run

/-!
# The countdown to the shutdown

A long press starts a countdown, and nothing but its own end disturbs it.
Runs are those in which no timer fires before its time, which is how the
loop takes its turns (`Task.turn?_running`).

- **Steps** (`mem_effects`, `step_counting`): only the long-press timer
  announces a long press, and only the countdown's end issues the
  shutdown. While the loop counts down, no other step moves the deadline,
  switches the LEDs or has a gesture published.
- **Runs** (`Counting`, `counting_run`): the deadline is that of the
  latest long press, and the commands issued fall short of the long
  presses by the one that is counted down, if there is one.
-/

namespace Gateway.Loop

/-! ## Long presses and shutdown commands -/

namespace Moment

/-- Whether the step announced a long press. -/
def pressesLong (m : Moment) : Bool :=
  .publish (.gesture .longPress) ∈ m.effects

/-- Whether the step issued the shutdown command. -/
def issues (m : Moment) : Bool := .issueShutdown ∈ m.effects

/-- What a step can want, by its input. -/
theorem mem_effects {m : Moment} {e : Effect} (h : e ∈ m.effects) :
    (∃ d, e = .publish (.statusChanged d))
      ∨ e = .publish (.gesture .doubleClick)
      ∨ m.input = .longPress
        ∧ (e = .publish (.gesture .longPress)
          ∨ e = .publish .shutdownRequested)
      ∨ m.input = .countdown ∧ e = .issueShutdown := by
  obtain ⟨before, around, input⟩ := m
  cases input with
  | key k => exact (State.effects_key h).imp_right Or.inl
  | message msg => exact Or.inl (State.effects_handle h)
  | renderTick => cases h
  | longPress =>
      refine Or.inr (Or.inr (Or.inl ⟨rfl, ?_⟩))
      simpa [effects, State.step, State.longPress,
        PowerKey.Classifier.onLongPress] using h
  | countdown =>
      refine Or.inr (Or.inr (Or.inr ⟨rfl, ?_⟩))
      simpa [effects, State.step, State.countedDown] using h

/-- A step announces just one long press if it is the timer's, and
otherwise none. -/
theorem count_longPress (m : Moment) :
    m.effects.count (.publish (.gesture .longPress))
      = if m.input = .longPress then 1 else 0 := by
  split
  case isTrue hinput =>
    rw [effects, hinput]
    rfl
  case isFalse hinput =>
    refine List.count_eq_zero.mpr fun hmem => ?_
    rcases mem_effects hmem with
      ⟨d, heq⟩ | heq | ⟨hpress, -⟩ | ⟨-, heq⟩
    · cases heq
    · cases heq
    · exact hinput hpress
    · cases heq

/-- A step issues just one shutdown command if it is the end of a
countdown, and otherwise none. -/
theorem count_issueShutdown (m : Moment) :
    m.effects.count .issueShutdown
      = if m.input = .countdown then 1 else 0 := by
  split
  case isTrue hinput =>
    rw [effects, hinput]
    rfl
  case isFalse hinput =>
    refine List.count_eq_zero.mpr fun hmem => ?_
    rcases mem_effects hmem with
      ⟨d, heq⟩ | heq | ⟨-, heq | heq⟩ | ⟨hover, -⟩
    · cases heq
    · cases heq
    · cases heq
    · cases heq
    · exact hinput hover

theorem pressesLong_iff {m : Moment} :
    m.pressesLong = true ↔ m.input = .longPress := by
  rw [pressesLong, decide_eq_true_iff, ← List.count_pos_iff,
    count_longPress]
  split <;> simp_all

theorem issues_iff {m : Moment} :
    m.issues = true ↔ m.input = .countdown := by
  rw [issues, decide_eq_true_iff, ← List.count_pos_iff,
    count_issueShutdown]
  split <;> simp_all

end Moment

namespace History

/-- What the steps wanted of the rest of the daemon, latest step first. -/
def effects (h : History) : List Effect := h.flatMap Moment.effects

/-- How many long presses were announced. -/
def longPresses (h : History) : Nat :=
  h.effects.count (.publish (.gesture .longPress))

/-- How many shutdown commands were issued. -/
def shutdowns (h : History) : Nat := h.effects.count .issueShutdown

theorem longPresses_cons (m : Moment) (past : History) :
    longPresses (m :: past)
      = (if m.input = .longPress then 1 else 0) + past.longPresses := by
  simp [longPresses, effects, List.count_append, m.count_longPress]

theorem shutdowns_cons (m : Moment) (past : History) :
    shutdowns (m :: past)
      = (if m.input = .countdown then 1 else 0) + past.shutdowns := by
  simp [shutdowns, effects, List.count_append, m.count_issueShutdown]

end History

/-! ## Steps while the loop counts down -/

namespace State

/-- Keys are dropped while the loop counts down. -/
theorem key_of_counting {s : State} {deadline : Nat}
    (h : s.shutdownAt = some deadline) (around : Surroundings)
    (k : KeyEvent) : s.key around k = (s, []) := by
  simp [key, h]

/-- While the loop counts down, no step but the end of the countdown moves
the deadline, switches the LEDs or has a gesture published. -/
theorem step_counting {s : State} {around : Surroundings} {input : Input}
    {deadline : Nat} (hcounting : s.shutdownAt = some deadline)
    (hdisarmed : s.longPressAt = none)
    (hdue : (⟨s, around, input⟩ : Moment).due = true)
    (hinput : input ≠ .countdown) :
    (s.step around input).1.shutdownAt = some deadline
      ∧ (s.step around input).1.ledEnabled = s.ledEnabled
      ∧ ∀ g, .publish (.gesture g) ∉ (s.step around input).2 := by
  cases input with
  | key k =>
      rw [step, key_of_counting hcounting]
      exact ⟨hcounting, rfl, fun g => List.not_mem_nil⟩
  | message m =>
      rw [step]
      refine ⟨?_, ?_, fun g hmem => ?_⟩
      · rw [handle_eq]
        exact hcounting
      · rw [handle_eq]
      · obtain ⟨d, heq⟩ := effects_handle hmem
        cases heq
  | renderTick =>
      rw [step, renderTick]
      exact ⟨hcounting, rfl, fun g => List.not_mem_nil⟩
  | longPress =>
      rw [Moment.due, hdisarmed] at hdue
      cases hdue
  | countdown => exact absurd rfl hinput

end State

/-! ## Runs -/

/-- What the history tells of the countdown. -/
structure Counting (delay : Nat) (h : History) (s : State) : Prop where
  delay_eq : s.shutdownDelay = delay
  /-- The loop counts down for the latest long press. -/
  since : ∀ deadline, s.shutdownAt = some deadline →
    s.shuttingDown = true ∧ s.longPressAt = none
      ∧ ∃ m, h.find? Moment.pressesLong = some m
        ∧ deadline = m.around.now + delay
  /-- Every long press but the one counted down had its command issued. -/
  count : h.longPresses = h.shutdowns + s.shutdownAt.toList.length

/-- A step of neither timer keeps what is told of the countdown, if it
leaves the deadline, and the disarmed timer while there is one. -/
theorem Counting.keep {delay : Nat} {past : History} {s s' : State}
    {m : Moment} (counting : Counting delay past s)
    (hpress : m.input ≠ .longPress) (hover : m.input ≠ .countdown)
    (hdelay : s'.shutdownDelay = s.shutdownDelay)
    (hdown : s'.shuttingDown = s.shuttingDown)
    (hdeadline : s'.shutdownAt = s.shutdownAt)
    (htimer : s.shutdownAt.isSome → s'.longPressAt = s.longPressAt) :
    Counting delay (m :: past) s' where
  delay_eq := hdelay.trans counting.delay_eq
  since deadline h := by
    rw [hdeadline] at h
    obtain ⟨hshutting, hdisarmed, press, hfind, heq⟩ :=
      counting.since deadline h
    have hpress' : m.pressesLong = false := by
      simpa [hpress] using (not_congr m.pressesLong_iff).mpr hpress
    refine ⟨hdown.trans hshutting, ?_, press, ?_, heq⟩
    · rw [htimer (by rw [h]; rfl), hdisarmed]
    · rw [List.find?_cons, hpress']
      exact hfind
  count := by
    rw [History.longPresses_cons, History.shutdowns_cons, if_neg hpress,
      if_neg hover, hdeadline, Nat.zero_add, Nat.zero_add]
    exact counting.count

theorem counting_begin (settings : Settings) (output : Led.Output) :
    Counting settings.shutdownDelay []
      (State.new settings output).begin := by
  rw [State.begin, State.paintAll_eq]
  refine ⟨rfl, fun deadline h => ?_, rfl⟩
  cases h

theorem counting_step {delay : Nat} {past : History} {s : State}
    (counting : Counting delay past s) (around : Surroundings)
    (input : Input) (hdue : (⟨s, around, input⟩ : Moment).due = true) :
    Counting delay (⟨s, around, input⟩ :: past)
      (s.step around input).1 := by
  cases input with
  | key k =>
      cases hdown : s.shutdownAt with
      | some deadline =>
          rw [State.step, State.key_of_counting hdown]
          exact counting.keep Input.noConfusion Input.noConfusion
            rfl rfl rfl fun _ => rfl
      | none =>
          rw [State.step, State.key_eq]
          refine counting.keep Input.noConfusion Input.noConfusion
            rfl rfl rfl fun h => ?_
          rw [hdown] at h
          cases h
  | message m =>
      rw [State.step, State.handle_eq]
      exact counting.keep Input.noConfusion Input.noConfusion
        rfl rfl rfl fun _ => rfl
  | renderTick =>
      rw [State.step, State.renderTick]
      exact counting.keep Input.noConfusion Input.noConfusion
        rfl rfl rfl fun _ => rfl
  | longPress =>
      rw [State.step, State.longPress]
      cases hdown : s.shutdownAt with
      | some deadline =>
          obtain ⟨-, hdisarmed, -⟩ := counting.since deadline hdown
          rw [Moment.due, hdisarmed] at hdue
          cases hdue
      | none =>
          have hcount := counting.count
          rw [hdown] at hcount
          refine ⟨counting.delay_eq, fun deadline h => ?_, ?_⟩
          · refine ⟨rfl, rfl, ⟨s, around, .longPress⟩, ?_, ?_⟩
            · exact List.find?_cons_of_pos (Moment.pressesLong_iff.mpr rfl)
            · rw [← counting.delay_eq]
              exact (Option.some.inj h).symm
          · rw [History.longPresses_cons, History.shutdowns_cons, hcount,
              if_pos rfl, if_neg Input.noConfusion]
            show 1 + (past.shutdowns + 0) = 0 + past.shutdowns + 1
            omega
  | countdown =>
      rw [State.step, State.countedDown]
      cases hdown : s.shutdownAt with
      | none =>
          rw [Moment.due, hdown] at hdue
          cases hdue
      | some deadline =>
          have hcount := counting.count
          rw [hdown] at hcount
          refine ⟨counting.delay_eq, fun deadline h => ?_, ?_⟩
          · cases h
          · rw [History.longPresses_cons, History.shutdowns_cons, hcount,
              if_neg Input.noConfusion, if_pos rfl]
            show 0 + (past.shutdowns + 1) = 1 + past.shutdowns + 0
            omega

theorem counting_run {settings : Settings} {output : Led.Output}
    {h : History} {s : State}
    (run : Run (State.new settings output).begin h s)
    (punctual : h.punctual = true) : Counting settings.shutdownDelay h s := by
  induction run with
  | start => exact counting_begin settings output
  | step around input run ih =>
      obtain ⟨hdue, hpast⟩ := History.punctual_cons.mp punctual
      exact counting_step (ih hpast) around input hdue

/-- From a long press on, until a shutdown command is issued, the deadline
stands, the LEDs are not switched and no gesture is published. -/
theorem undisturbed_of_longPress {settings : Settings} {output : Led.Output}
    {later earlier : History} {m : Moment} {s : State}
    (run : Run (State.new settings output).begin (later ++ m :: earlier) s)
    (punctual : History.punctual (later ++ m :: earlier) = true)
    (hpress : m.pressesLong = true)
    (hissues : ∀ x ∈ later, x.issues = false) :
    s.shutdownAt = some (m.around.now + settings.shutdownDelay)
      ∧ s.ledEnabled = m.before.ledEnabled
      ∧ ∀ x ∈ later, ∀ g, .publish (.gesture g) ∉ x.effects := by
  induction later generalizing s with
  | nil =>
      obtain ⟨-, hpast⟩ := History.punctual_cons.mp punctual
      obtain ⟨hbefore, hafter⟩ := run.of_cons
      have hdelay := (counting_run hbefore hpast).delay_eq
      rw [hafter, Moment.after, Moment.pressesLong_iff.mp hpress,
        State.step, State.longPress, ← hdelay]
      exact ⟨rfl, rfl, List.forall_mem_nil _⟩
  | cons x rest ih =>
      obtain ⟨hdue, hpast⟩ := History.punctual_cons.mp punctual
      obtain ⟨hissue, hrest⟩ := List.forall_mem_cons.mp hissues
      obtain ⟨hbefore, hafter⟩ := run.of_cons
      obtain ⟨hdeadline, hled, hquiet⟩ := ih hbefore hpast hrest
      obtain ⟨-, hdisarmed, -⟩ :=
        (counting_run hbefore hpast).since _ hdeadline
      have hinput : x.input ≠ .countdown := fun heq => by
        rw [Moment.issues_iff.mpr heq] at hissue
        cases hissue
      obtain ⟨hdeadline', hled', hquiet'⟩ :=
        State.step_counting hdeadline hdisarmed hdue hinput
      rw [hafter]
      exact ⟨hdeadline', hled'.trans hled,
        List.forall_mem_cons.mpr ⟨hquiet', hquiet⟩⟩

/-- Along every run in which no timer fires before its time, whatever
messages, keys and ticks come between:

- while the loop counts down, the shutdown pattern is on, no long press is
  waited for, and the deadline is the time of the latest long press and
  the delay;
- from a long press until a shutdown command is issued, the deadline stands
  as it was set, the LEDs are not switched and no gesture is published;
- a shutdown command is issued only when the delay is over since the
  latest long press;
- the shutdown commands issued are as many as the long presses, or one
  less. -/
theorem countdown_undisturbed {settings : Settings} {output : Led.Output}
    {h : History} {s : State}
    (run : Run (State.new settings output).begin h s)
    (punctual : h.punctual = true) :
    (∀ deadline, s.shutdownAt = some deadline →
      s.shuttingDown = true ∧ s.longPressAt = none
        ∧ ∃ m, h.find? Moment.pressesLong = some m
          ∧ deadline = m.around.now + settings.shutdownDelay)
    ∧ (∀ later m earlier, h = later ++ m :: earlier →
        m.pressesLong = true → (∀ x ∈ later, x.issues = false) →
        s.shutdownAt = some (m.around.now + settings.shutdownDelay)
          ∧ s.ledEnabled = m.before.ledEnabled
          ∧ ∀ x ∈ later, ∀ g, .publish (.gesture g) ∉ x.effects)
    ∧ (∀ later x past, h = later ++ x :: past → x.issues = true →
        ∃ m, past.find? Moment.pressesLong = some m
          ∧ m.around.now + settings.shutdownDelay ≤ x.around.now)
    ∧ h.shutdowns ≤ h.longPresses
    ∧ h.longPresses ≤ h.shutdowns + 1 := by
  have counting := counting_run run punctual
  have hpending : s.shutdownAt.toList.length ≤ 1 := by
    cases s.shutdownAt <;> simp
  refine ⟨counting.since, ?_, ?_, ?_, ?_⟩
  · intro later m earlier heq hpress hissues
    subst heq
    exact undisturbed_of_longPress run punctual hpress hissues
  · intro later x past heq hissue
    subst heq
    obtain ⟨hdue, hpast⟩ :=
      History.punctual_cons.mp (History.punctual_of_append punctual)
    have hbefore := counting_run run.before hpast
    rw [Moment.due, Moment.issues_iff.mp hissue] at hdue
    obtain ⟨deadline, hdeadline, hover⟩ := Option.any_eq_true _ _ |>.mp hdue
    obtain ⟨-, -, m, hfind, rfl⟩ := hbefore.since deadline hdeadline
    exact ⟨m, hfind, of_decide_eq_true hover⟩
  · rw [counting.count]
    omega
  · rw [counting.count]
    omega

/-- A long press whose key is let go during the countdown: the release, a
refresh and a press right after it change nothing, and the deadline stays
four seconds after the long press. -/
theorem countdown_undisturbed_released :
    ∃ h s, Run (State.new Settings.initial .accepting).begin h s
      ∧ h.punctual = true ∧ s.shutdownAt = some 6000 ∧ s.ledEnabled = true
      ∧ h.longPresses = 1 ∧ h.shutdowns = 0 := by
  let around (now : Nat) : Surroundings :=
    ⟨now, ⟨"Unknown", "Unknown", none, none, none, none⟩, false⟩
  have held := ((@Run.start (State.new Settings.initial .accepting).begin).step
    (around 0) (.key ⟨.down, 0⟩)).step (around 2000) .longPress
  have run := ((held.step (around 2100) (.key ⟨.up, 2100⟩)).step
    (around 2200) (.message (.command .refresh))).step (around 2300)
    (.key ⟨.down, 2300⟩)
  obtain ⟨-, hundisturbed, -, -⟩ := countdown_undisturbed run rfl
  obtain ⟨hdeadline, hled, -⟩ := hundisturbed [_, _, _] _ _ rfl rfl
    (List.forall_mem_cons.mpr ⟨rfl, List.forall_mem_cons.mpr
      ⟨rfl, List.forall_mem_cons.mpr ⟨rfl, List.forall_mem_nil _⟩⟩⟩)
  exact ⟨_, _, run, rfl, hdeadline, hled, rfl, rfl⟩

end Gateway.Loop
