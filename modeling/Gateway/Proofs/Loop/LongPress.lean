import Gateway.Proofs.Loop.Countdown
import Gateway.Proofs.Loop.Turns

/-!
# Long presses

The long-press timer runs while the key is held: since a press that
completed no double click, until the key is let go or the timer fires.
Presses and releases that the countdown drops do not count.

- **The hand on the key** (`History.held?`): when the key that is held was
  pressed, read off the history from its latest step on.
- **Steps and runs** (`armed_step`, `armed_run`): the timer is set to the
  end of that press, and not set if there is none.
- **Turns** (`Course.longPress`, `Course.press_after_release`): a turn that
  announces a long press found no key event waiting. So a release that had
  waited was taken by then, and what was pressed before it does not count.
-/

namespace Gateway.Loop

/-! ## The hand on the key -/

namespace Moment

/-- The key event that the step handled. The countdown drops them. -/
def handled? (m : Moment) : Option KeyEvent :=
  match m.input with
  | .key k => if m.before.shutdownAt.isSome then none else some k
  | _ => none

/-- Whether the step announced a double click. -/
def pressesTwice (m : Moment) : Bool :=
  .publish (.gesture .doubleClick) ∈ m.effects

end Moment

namespace History

/-- When the key that is held was pressed. -/
def held? : History → Option Nat
  | [] => none
  | m :: past =>
      match m.handled? with
      | some k =>
          if k.transition = .down ∧ m.pressesTwice = false then some k.time
          else none
      | none => if m.pressesLong then none else held? past

/-- The last key event that was handled is a press at some time that
completed no double click, and no long press was announced since. -/
def Held (h : History) (time : Nat) : Prop :=
  ∃ later m earlier, h = later ++ m :: earlier
    ∧ m.handled? = some ⟨.down, time⟩ ∧ m.pressesTwice = false
    ∧ ∀ x ∈ later, x.handled? = none ∧ x.pressesLong = false

theorem held?_cons_of_handled {m : Moment} {past : History} {k : KeyEvent}
    (h : m.handled? = some k) :
    held? (m :: past)
      = if k.transition = .down ∧ m.pressesTwice = false then some k.time
        else none := by
  simp [held?, h]

theorem held?_cons_of_idle {m : Moment} {past : History}
    (h : m.handled? = none) (hpress : m.pressesLong = false) :
    held? (m :: past) = past.held? := by
  simp [held?, h, hpress]

theorem held?_cons_eq_some {m : Moment} {past : History} {time : Nat} :
    held? (m :: past) = some time
      ↔ m.handled? = some ⟨.down, time⟩ ∧ m.pressesTwice = false
        ∨ m.handled? = none ∧ m.pressesLong = false
          ∧ past.held? = some time := by
  cases hm : m.handled? with
  | none => cases hpress : m.pressesLong <;> simp [held?, hm, hpress]
  | some k =>
      obtain ⟨transition, pressed⟩ := k
      rw [held?_cons_of_handled hm]
      cases transition <;> simp [and_comm]

/-- The key was pressed in the later steps, or it was held before them. -/
theorem held?_append {later earlier : History} {time : Nat}
    (h : held? (later ++ earlier) = some time) :
    (∃ m ∈ later, m.handled? = some ⟨.down, time⟩)
      ∨ earlier.held? = some time := by
  induction later with
  | nil => exact Or.inr h
  | cons m rest ih =>
      rw [List.cons_append, held?_cons_eq_some] at h
      rcases h with ⟨hm, -⟩ | ⟨-, -, hrest⟩
      · exact Or.inl ⟨m, List.mem_cons_self, hm⟩
      · refine (ih hrest).imp_left ?_
        rintro ⟨x, hx, hdown⟩
        exact ⟨x, List.mem_cons_of_mem m hx, hdown⟩

theorem held?_eq_some {h : History} {time : Nat} :
    h.held? = some time ↔ h.Held time := by
  constructor
  · intro hheld
    induction h with
    | nil => cases hheld
    | cons m past ih =>
        rcases held?_cons_eq_some.mp hheld with
          ⟨hm, htwice⟩ | ⟨hm, hpress, hpast⟩
        · exact ⟨[], m, past, rfl, hm, htwice, List.forall_mem_nil _⟩
        · obtain ⟨later, x, earlier, rfl, hx, htwice, hidle⟩ := ih hpast
          exact ⟨m :: later, x, earlier, rfl, hx, htwice,
            List.forall_mem_cons.mpr ⟨⟨hm, hpress⟩, hidle⟩⟩
  · rintro ⟨later, m, earlier, rfl, hm, htwice, hidle⟩
    induction later with
    | nil => exact held?_cons_eq_some.mpr (Or.inl ⟨hm, htwice⟩)
    | cons x rest ih =>
        obtain ⟨⟨hx, hpress⟩, hrest⟩ := List.forall_mem_cons.mp hidle
        exact held?_cons_eq_some.mpr (Or.inr ⟨hx, hpress, ih hrest⟩)

end History

/-! ## Steps and the timer -/

theorem timing_onDown (c : PowerKey.Classifier) (time : Nat) :
    (c.onDown time).1.timing = c.timing := by
  unfold PowerKey.Classifier.onDown
  dsimp only
  split <;> split <;> rfl

namespace State

theorem mem_doubleClick (s : State) (around : Surroundings) :
    .publish (.gesture .doubleClick) ∈ (s.doubleClick around).2 := by
  unfold doubleClick
  split <;> simp

theorem key_handled {s : State} (h : s.shutdownAt = none)
    (around : Surroundings) (k : KeyEvent) :
    (s.key around k).1.classifier.timing = s.classifier.timing
      ∧ (s.key around k).1.longPressAt
          = if k.transition = .down
              ∧ (⟨s, around, .key k⟩ : Moment).pressesTwice = false then
              some (k.time + s.classifier.timing.longPress)
            else none := by
  obtain ⟨transition, time⟩ := k
  cases transition with
  | up => simp [key, h, PowerKey.Classifier.onUp]
  | down =>
      have htiming := timing_onDown s.classifier time
      rcases onDown_cases s.classifier time with
        ⟨classifier, hdown⟩ | ⟨classifier, hdown⟩
      · have hkey : s.key around ⟨.down, time⟩
            = { s with classifier, longPressAt := none }.doubleClick around := by
          simp [key, h, hdown]
        have htwice : (⟨s, around, .key ⟨.down, time⟩⟩ : Moment).pressesTwice
            = true := by
          simpa [Moment.pressesTwice, Moment.effects, step, hkey]
            using mem_doubleClick _ around
        rw [hdown] at htiming
        rw [hkey, doubleClick_eq, htwice]
        exact ⟨htiming, by simp⟩
      · have hkey : s.key around ⟨.down, time⟩
            = ({ s with
                  classifier
                  longPressAt := some (time + s.classifier.timing.longPress) },
                []) := by
          simp [key, h, hdown]
        rw [hdown] at htiming
        rw [hkey]
        exact ⟨htiming, by simp [Moment.pressesTwice, Moment.effects, step, hkey]⟩

end State

/-- The timer as the history tells it. -/
structure Armed (timing : PowerKey.Timing) (h : History) (s : State) :
    Prop where
  timing_eq : s.classifier.timing = timing
  timer : s.longPressAt = h.held?.map (· + timing.longPress)

theorem Armed.keep {timing : PowerKey.Timing} {past : History} {s s' : State}
    {m : Moment} (armed : Armed timing past s) (hm : m.handled? = none)
    (hpress : m.input ≠ .longPress)
    (hclassifier : s'.classifier = s.classifier)
    (htimer : s'.longPressAt = s.longPressAt) :
    Armed timing (m :: past) s' where
  timing_eq := by rw [hclassifier, armed.timing_eq]
  timer := by
    have hquiet : m.pressesLong = false :=
      Bool.eq_false_iff.mpr (mt Moment.pressesLong_iff.mp hpress)
    rw [htimer, History.held?_cons_of_idle hm hquiet, armed.timer]

theorem armed_step {timing : PowerKey.Timing} {past : History} {s : State}
    (armed : Armed timing past s) (around : Surroundings) (input : Input) :
    Armed timing (⟨s, around, input⟩ :: past) (s.step around input).1 := by
  cases input with
  | key k =>
      cases hdown : s.shutdownAt with
      | some deadline =>
          rw [State.step, State.key_of_counting hdown]
          refine armed.keep ?_ Input.noConfusion rfl rfl
          simp [Moment.handled?, hdown]
      | none =>
          have hm : (⟨s, around, .key k⟩ : Moment).handled? = some k := by
            simp [Moment.handled?, hdown]
          obtain ⟨htiming, htimer⟩ := State.key_handled hdown around k
          refine ⟨htiming.trans armed.timing_eq, ?_⟩
          rw [State.step, htimer, History.held?_cons_of_handled hm,
            armed.timing_eq]
          split <;> rfl
  | message m =>
      rw [State.step, State.handle_eq]
      exact armed.keep rfl Input.noConfusion rfl rfl
  | renderTick =>
      rw [State.step, State.renderTick]
      exact armed.keep rfl Input.noConfusion rfl rfl
  | longPress =>
      have hm : (⟨s, around, .longPress⟩ : Moment).handled? = none := rfl
      have hpress : (⟨s, around, .longPress⟩ : Moment).pressesLong = true :=
        Moment.pressesLong_iff.mpr rfl
      refine ⟨armed.timing_eq, ?_⟩
      simp [State.step, State.longPress, History.held?, hm, hpress]
  | countdown =>
      rw [State.step, State.countedDown]
      exact armed.keep rfl Input.noConfusion rfl rfl

theorem armed_run {settings : Settings} {output : Led.Output} {h : History}
    {s : State} (run : Run (State.new settings output).begin h s) :
    Armed settings.timing h s := by
  induction run with
  | start =>
      rw [State.begin, State.paintAll_eq]
      exact ⟨rfl, rfl⟩
  | step around input run ih => exact armed_step ih around input

/-! ## Steps that announce a long press -/

section

variable {settings : Settings} {output : Led.Output} {past : History}

/-- The timer fires only for a key that is held long enough. -/
theorem held?_of_longPress {m : Moment}
    (run : Run (State.new settings output).begin past m.before)
    (hdue : m.due = true) (hpress : m.pressesLong = true) :
    ∃ time, past.held? = some time
      ∧ time + settings.timing.longPress ≤ m.around.now := by
  rw [Moment.due, Moment.pressesLong_iff.mp hpress] at hdue
  obtain ⟨deadline, hdeadline, hover⟩ := Option.any_eq_true _ _ |>.mp hdue
  rw [(armed_run run).timer] at hdeadline
  obtain ⟨time, hheld, rfl⟩ := Option.map_eq_some_iff.mp hdeadline
  exact ⟨time, hheld, of_decide_eq_true hover⟩

/-- No key is held while the loop counts down. -/
theorem held?_of_counting {s : State} {deadline : Nat}
    (run : Run (State.new settings output).begin past s)
    (punctual : past.punctual = true) (h : s.shutdownAt = some deadline) :
    past.held? = none := by
  obtain ⟨-, hdisarmed, -⟩ := (counting_run run punctual).since deadline h
  rw [(armed_run run).timer] at hdisarmed
  exact Option.map_eq_none_iff.mp hdisarmed

/-- A release lets go of the key, also if it is dropped. -/
theorem held?_of_release {m : Moment} {k : KeyEvent}
    (run : Run (State.new settings output).begin past m.before)
    (punctual : past.punctual = true) (hinput : m.input = .key k)
    (hup : k.transition = .up) : History.held? (m :: past) = none := by
  cases hdown : m.before.shutdownAt with
  | none =>
      have hm : m.handled? = some k := by simp [Moment.handled?, hinput, hdown]
      rw [History.held?_cons_of_handled hm, hup]
      exact if_neg fun h => nomatch h.1
  | some deadline =>
      have hm : m.handled? = none := by simp [Moment.handled?, hinput, hdown]
      simp [History.held?, hm, held?_of_counting run punctual hdown]

end

/-- A double click takes a press that was handled. -/
theorem Moment.handled?_of_pressesTwice {m : Moment}
    (h : m.pressesTwice = true) : ∃ k, m.handled? = some k := by
  obtain ⟨before, around, input⟩ := m
  have hmem := of_decide_eq_true h
  cases input with
  | key k =>
      cases hdown : before.shutdownAt with
      | none => exact ⟨k, by simp [handled?, hdown]⟩
      | some deadline =>
          simp [effects, State.step, State.key_of_counting hdown] at hmem
  | message m =>
      obtain ⟨d, heq⟩ := State.effects_handle hmem
      cases heq
  | renderTick => cases hmem
  | longPress =>
      simp [effects, State.step, State.longPress,
        PowerKey.Classifier.onLongPress] at hmem
  | countdown => simp [effects, State.step, State.countedDown] at hmem

theorem held?_of_pressesTwice {m : Moment} {past : History}
    (h : m.pressesTwice = true) : History.held? (m :: past) = none := by
  obtain ⟨k, hm⟩ := m.handled?_of_pressesTwice h
  rw [History.held?_cons_of_handled hm, h]
  exact if_neg fun hquiet => nomatch hquiet.2

/-! ## Courses -/

section

variable {settings : Settings} {output : Led.Output}
  {turns later earlier : List Turn} {x : Turn} {t : Task}

theorem Course.timer (course : Course (Task.new settings output) turns t) :
    t.state.longPressAt
      = (moments turns).held?.map (· + settings.timing.longPress) := by
  cases followed_course course with
  | idle hturns hidle hnew =>
      rw [hturns, hnew]
      rfl
  | ran run punctual started state =>
      rw [← (armed_run run).timer]
      rcases state with rfl | ⟨-, hended⟩
      · rfl
      · rw [hended, State.finish]

theorem Course.longPress
    (course : Course (Task.new settings output) (later ++ x :: earlier) t)
    (h : .publish (.gesture .longPress) ∈ x.effects) :
    x.before.keys = []
      ∧ ∃ time, (moments earlier).held? = some time
        ∧ time + settings.timing.longPress ≤ x.around.now := by
  obtain ⟨t', m, stepped, run, -⟩ := course.stepped h
  rw [stepped.effects] at h
  have hpress : m.pressesLong = true := decide_eq_true h
  have hinput := Moment.pressesLong_iff.mp hpress
  refine ⟨stepped.free (by rw [hinput]; rfl), ?_⟩
  rw [← stepped.around]
  exact held?_of_longPress run stepped.due hpress

/-- If the key is held when no key event waits, a release that once waited
was taken, and the key was pressed after it. -/
theorem Course.press_after_release
    (course : Course (Task.new settings output) (later ++ x :: earlier) t)
    (htakes : t.takes = true) (hkeys : t.keys = []) {time : Nat}
    (hheld : (moments (later ++ x :: earlier)).held? = some time)
    {k : KeyEvent} (hk : k ∈ x.before.keys) (hup : k.transition = .up) :
    ∃ after m rest, moments (later ++ [x]) = after ++ m :: rest
      ∧ m.input = .key k
      ∧ ∃ z ∈ after, z.handled? = some ⟨.down, time⟩ := by
  rcases course.waits_or_taken htakes hk with hwaits | ⟨m, hm, hinput⟩
  · rw [hkeys] at hwaits
    cases hwaits
  · obtain ⟨after, rest, hsplit⟩ := List.append_of_mem hm
    refine ⟨after, m, rest, hsplit, hinput, ?_⟩
    have hmoments : moments (later ++ x :: earlier)
        = after ++ m :: (rest ++ moments earlier) := by
      rw [List.append_cons, moments_append, hsplit, List.append_assoc,
        List.cons_append]
    rw [hmoments] at hheld
    -- it cannot be held since before the release, which let go of it
    refine (History.held?_append hheld).resolve_right fun hbefore => ?_
    cases followed_course course with
    | idle hturns => simp at hturns
    | ran run punctual started state =>
        rw [hmoments] at run punctual
        obtain ⟨-, hpast⟩ :=
          History.punctual_cons.mp (History.punctual_of_append punctual)
        rw [held?_of_release run.before hpast hinput hup] at hbefore
        cases hbefore

/-- Whatever order key events, messages, the request to stop and the turns
of the loop come in:

- the long-press timer is set just while the key is held, to the end of the
  time that a long press takes;
- when a long press is announced, no key event waits, and the key has been
  held for that time;
- no long press is announced while a release waits, and whatever is
  announced later is a press that was taken after that release;
- the press that completes a double click leads to none. -/
theorem longPress_held (course : Course (Task.new settings output) turns t) :
    (∀ deadline, t.state.longPressAt = some deadline ↔
      ∃ time, (moments turns).Held time
        ∧ deadline = time + settings.timing.longPress)
    ∧ (∀ later x earlier, turns = later ++ x :: earlier →
        .publish (.gesture .longPress) ∈ x.effects →
        x.before.keys = []
          ∧ ∃ time, (moments earlier).Held time
            ∧ time + settings.timing.longPress ≤ x.around.now)
    ∧ (∀ later x earlier, turns = later ++ x :: earlier →
        ∀ k ∈ x.before.keys, k.transition = .up →
          .publish (.gesture .longPress) ∉ x.effects)
    ∧ (∀ later y middle x earlier,
        turns = later ++ y :: (middle ++ x :: earlier) →
        .publish (.gesture .longPress) ∈ y.effects →
        ∀ k ∈ x.before.keys, k.transition = .up →
          ∃ after m rest, moments (middle ++ [x]) = after ++ m :: rest
            ∧ m.input = .key k
            ∧ ∃ z ∈ after, ∃ time, z.handled? = some ⟨.down, time⟩)
    ∧ (∀ later y between m earlier,
        moments turns = later ++ y :: (between ++ m :: earlier) →
        y.pressesLong = true → m.pressesTwice = true →
        ∃ z ∈ between, ∃ time, z.handled? = some ⟨.down, time⟩) := by
  refine ⟨fun deadline => ?_, ?_, ?_, ?_, ?_⟩
  · rw [course.timer, Option.map_eq_some_iff]
    exact exists_congr fun time => and_congr History.held?_eq_some eq_comm
  · rintro later x earlier rfl h
    obtain ⟨hkeys, time, hheld, hover⟩ := course.longPress h
    exact ⟨hkeys, time, History.held?_eq_some.mp hheld, hover⟩
  · rintro later x earlier rfl k hk - h
    rw [(course.longPress h).1] at hk
    cases hk
  · rintro later y middle x earlier rfl h k hk hup
    obtain ⟨hkeys, time, hheld, -⟩ := course.longPress h
    obtain ⟨hbefore, t', effects, hturn⟩ := course.before
    obtain ⟨after, m, rest, hsplit, hinput, z, hz, hdown⟩ :=
      hbefore.press_after_release (Task.takes_of_turn? hturn) hkeys hheld hk hup
    exact ⟨after, m, rest, hsplit, hinput, z, hz, time, hdown⟩
  · intro later y between m earlier hsplit hlong htwice
    cases followed_course course with
    | idle hturns =>
        rw [hturns] at hsplit
        simp [moments] at hsplit
    | ran run punctual =>
        rw [hsplit] at run punctual
        obtain ⟨hdue, hpast⟩ :=
          History.punctual_cons.mp (History.punctual_of_append punctual)
        obtain ⟨time, hheld, -⟩ := held?_of_longPress run.before hdue hlong
        rcases History.held?_append hheld with ⟨z, hz, hdown⟩ | hnone
        · exact ⟨z, hz, time, hdown⟩
        · rw [held?_of_pressesTwice htwice] at hnone
          cases hnone

/-- A key that was pressed two seconds before the loop is started, and is
still held then. -/
theorem longPress_held_late :
    ∃ x earlier t,
      Course (Task.new Settings.initial .accepting) (x :: earlier) t
        ∧ .publish (.gesture .longPress) ∈ x.effects
        ∧ x.before.keys = [] ∧ (moments earlier).Held 0 := by
  let around : Surroundings := ⟨2000, .empty, false⟩
  have started := (Course.press ⟨.down, 0⟩
    (@Course.set (Task.new Settings.initial .accepting)) rfl).start 2000 rfl
  have pressed := started.next around rfl
  have rendered := pressed.next around (by decide +kernel)
  have course := rendered.next around (by decide +kernel)
  obtain ⟨hkeys, time, hheld, hover⟩ :=
    (longPress_held course).2.1 [] _ _ rfl (by decide +kernel)
  have htime : time = 0 := Nat.le_zero.mp (Nat.le_of_add_le_add_right hover)
  rw [htime] at hheld
  exact ⟨_, _, _, course, by decide +kernel, hkeys, hheld⟩

end

end Gateway.Loop
