import Gateway.Proofs.Loop.Reports

/-!
# Turns and what comes between them

Messages, key events and the request to stop reach the loop between its
turns, in any order and at any time. A *course* is such a run of the loop
together with its queues.

- **Turns** (`Task.Ended`, `Task.Stepped`): a turn takes a loop that was
  asked to stop to its end, or it is a step of the loop.
- **Courses and runs** (`followed_course`): so the state of a loop in the
  course of its turns is that of a run, whatever waits in the queues.
- **Key events** (`Course.waits_or_taken`): they are taken before all else,
  and none is lost before the loop ends.
-/

namespace Gateway.Loop

/-- A turn: the loop with its queues when it began, and what it saw. -/
structure Turn where
  before : Task
  around : Surroundings

/-- From its first state the loop has come to another, by the turns of a
list, latest first, and what reached it before, between and after them. -/
inductive Course (first : Task) : List Turn → Task → Prop
  | set : Course first [] first
  | send {turns : List Turn} {t : Task} (m : Message)
      (course : Course first turns t) : Course first turns (t.send m)
  | press {turns : List Turn} {t t' : Task} (k : KeyEvent)
      (course : Course first turns t) (h : t.press? k = some t') :
      Course first turns t'
  | cancel {turns : List Turn} {t : Task} (course : Course first turns t) :
      Course first turns t.cancel
  | start {turns : List Turn} {t : Task} (now : Nat)
      (course : Course first turns t) (h : t.isWaiting = true) :
      Course first turns (t.start now)
  | turn {turns : List Turn} {t t' : Task} {effects : List Effect}
      (around : Surroundings) (course : Course first turns t)
      (h : t.turn? around = some (t', effects)) :
      Course first (⟨t, around⟩ :: turns) t'

/-- The latest turn but some, and the course that led to it. -/
theorem Course.before {first t : Task} {later earlier : List Turn} {x : Turn}
    (course : Course first (later ++ x :: earlier) t) :
    Course first earlier x.before
      ∧ ∃ t' effects, x.before.turn? x.around = some (t', effects) := by
  generalize hturns : later ++ x :: earlier = turns at course
  induction course generalizing later with
  | set => simp at hturns
  | send m course ih => exact ih hturns
  | press k course h ih => exact ih hturns
  | cancel course ih => exact ih hturns
  | start now course h ih => exact ih hturns
  | turn around course h ih =>
      cases later with
      | nil =>
          obtain ⟨rfl, rfl⟩ := List.cons.inj hturns
          exact ⟨course, _, _, h⟩
      | cons y rest => exact ih (List.cons.inj hturns).2

theorem Course.next {first t : Task} {turns : List Turn}
    (course : Course first turns t) (around : Surroundings)
    (h : (t.turn? around).isSome = true) :
    Course first (⟨t, around⟩ :: turns) ((t.turn? around).get h).1 :=
  course.turn around (Option.some_get h).symm

/-! ## The step that a turn is -/

namespace Turn

/-- The input that the turn took; none if it ended the loop. -/
def input? (x : Turn) : Option Input :=
  match x.before.phase with
  | .running ticker =>
      if x.before.cancelled then none
      else (x.before.nextInput? ticker x.around.now).map (·.1)
  | _ => none

/-- The step that the turn was. -/
def moment? (x : Turn) : Option Moment :=
  x.input?.map fun input => ⟨x.before.state, x.around, input⟩

/-- What the turn wanted of the rest of the daemon. -/
def effects (x : Turn) : List Effect :=
  ((x.before.turn? x.around).map (·.2)).getD []

end Turn

/-- The steps of some turns. -/
def moments (turns : List Turn) : History := turns.filterMap Turn.moment?

theorem moments_append (later earlier : List Turn) :
    moments (later ++ earlier) = moments later ++ moments earlier :=
  List.filterMap_append

/-- The key events that an input takes from those that wait. -/
def Input.pressed : Input → List KeyEvent
  | .key k => [k]
  | _ => []

namespace Task

/-- Key events are taken in their order and before all else. -/
theorem keys_of_nextInput? {t rest : Task} {ticker : Ticker} {now : Nat}
    {input : Input} (h : t.nextInput? ticker now = some (input, rest)) :
    t.keys = input.pressed ++ rest.keys
      ∧ (input.pressed = [] → t.keys = []) := by
  unfold nextInput? at h
  split at h
  case h_1 k keys hkeys =>
    cases h
    refine ⟨hkeys, fun hnone => ?_⟩
    cases hnone
  case h_2 hkeys hmessages =>
    cases h
    exact ⟨rfl, fun _ => hkeys⟩
  case h_3 hkeys hmessages =>
    split at h
    · cases h
      exact ⟨rfl, fun _ => hkeys⟩
    split at h
    · cases h
      exact ⟨rfl, fun _ => hkeys⟩
    split at h
    · cases h
      exact ⟨rfl, fun _ => hkeys⟩
    · cases h

theorem isWaiting_of_nextInput? {t rest : Task} {ticker : Ticker} {now : Nat}
    {input : Input} (hphase : t.phase = .running ticker)
    (h : t.nextInput? ticker now = some (input, rest)) :
    rest.isWaiting = false := by
  unfold nextInput? at h
  split at h
  case h_1 => cases h; simp [isWaiting, hphase]
  case h_2 => cases h; simp [isWaiting, hphase]
  case h_3 =>
    split at h
    · cases h; simp [isWaiting]
    split at h
    · cases h; simp [isWaiting, hphase]
    split at h
    · cases h; simp [isWaiting, hphase]
    · cases h

theorem isWaiting_of_turn? {t t' : Task} {around : Surroundings}
    {effects : List Effect} (h : t.turn? around = some (t', effects)) :
    t.isWaiting = false := by
  unfold turn? at h
  split at h
  case h_1 ticker hphase => simp [isWaiting, hphase]
  case h_2 => cases h

/-- The loop before and after something reached its queues. -/
structure Receives (t t' : Task) : Prop where
  state : t'.state = t.state
  phase : t'.phase = t.phase
  keys : t.keys ⊆ t'.keys

theorem Receives.takes {t t' : Task} (h : t.Receives t') :
    t'.takes = t.takes := by
  simp only [Task.takes, h.phase]

theorem Receives.isWaiting {t t' : Task} (h : t.Receives t') :
    t'.isWaiting = t.isWaiting := by
  simp only [Task.isWaiting, h.phase]

theorem receives_send (t : Task) (m : Message) : t.Receives (t.send m) := by
  unfold send send?
  split <;> exact ⟨rfl, rfl, List.Subset.refl _⟩

theorem receives_press? {t t' : Task} {k : KeyEvent}
    (h : t.press? k = some t') : t.Receives t' := by
  unfold press? at h
  split at h
  · cases h
    exact ⟨rfl, rfl, List.subset_append_left _ _⟩
  · cases h

theorem receives_cancel (t : Task) : t.Receives t.cancel :=
  ⟨rfl, rfl, List.Subset.refl _⟩

theorem takes_of_isWaiting {t : Task} (h : t.isWaiting = true) :
    t.takes = true := by
  have hphase : t.phase = .waiting := of_decide_eq_true h
  rw [takes, hphase]

theorem start_begins (t : Task) (now : Nat) :
    (t.start now).state = t.state.begin
      ∧ (t.start now).isWaiting = false := by
  unfold start
  dsimp only
  split <;> exact ⟨rfl, rfl⟩

/-- A turn ended the loop with all LEDs off. -/
structure Ended (t : Task) (around : Surroundings) (t' : Task)
    (effects : List Effect) : Prop where
  moment : (⟨t, around⟩ : Turn).moment? = none
  cancelled : t.cancelled = true
  after : t' = { t with state := t.state.finish }.close .finished
  effects : effects = []

/-- A turn was a step. -/
structure Stepped (t : Task) (around : Surroundings) (t' : Task)
    (effects : List Effect) (m : Moment) : Prop where
  moment : (⟨t, around⟩ : Turn).moment? = some m
  before : m.before = t.state
  around : m.around = around
  due : m.due = true
  after : t'.state = m.after
  effects : effects = m.effects
  running : t'.isWaiting = false
  keys : t.keys = m.input.pressed ++ t'.keys
  /-- Only a turn that finds no key event takes anything else. -/
  free : m.input.pressed = [] → t.keys = []

theorem turn?_ended_or_stepped {t t' : Task} {around : Surroundings}
    {effects : List Effect} (h : t.turn? around = some (t', effects)) :
    Ended t around t' effects ∨ ∃ m, Stepped t around t' effects m := by
  unfold turn? at h
  split at h
  case h_1 ticker hphase =>
    split at h
    case isTrue hcancel =>
      obtain ⟨rfl, rfl⟩ := Prod.mk.inj (Option.some.inj h)
      refine Or.inl ⟨?_, hcancel, rfl, rfl⟩
      simp [Turn.moment?, Turn.input?, hphase, hcancel]
    case isFalse hcancel =>
      obtain ⟨⟨input, rest⟩, hin, heq⟩ := Option.map_eq_some_iff.mp h
      obtain ⟨rfl, rfl⟩ := Prod.mk.inj heq
      obtain ⟨hstate, hdue, -⟩ := nextInput?_cases hin
      obtain ⟨hkeys, hfree⟩ := keys_of_nextInput? hin
      refine Or.inr ⟨⟨t.state, around, input⟩, ?_, rfl, rfl, hdue, ?_, ?_, ?_,
        hkeys, hfree⟩
      · simp [Turn.moment?, Turn.input?, hphase, hcancel, hin]
      · exact congrArg (fun s => (s.step around input).1) hstate
      · exact congrArg (fun s => (s.step around input).2) hstate
      · have hrunning := isWaiting_of_nextInput? hphase hin
        exact hrunning
  case h_2 => cases h

end Task

/-! ## Courses and runs -/

/-- The loop was not started and nothing happened to its state; or its state
is that of a run with the steps of its turns, or the end of one. -/
inductive Followed (settings : Settings) (output : Led.Output)
    (turns : List Turn) (t : Task) : Prop
  | idle (turns_eq : turns = []) (waiting : t.isWaiting = true)
      (state : t.state = State.new settings output)
  | ran {s : State}
      (run : Run (State.new settings output).begin (moments turns) s)
      (punctual : (moments turns).punctual = true)
      (started : t.isWaiting = false)
      (state : t.state = s ∨ t.takes = false ∧ t.state = s.finish)

namespace Followed

variable {settings : Settings} {output : Led.Output} {turns : List Turn}
  {t t' : Task}

theorem receives (followed : Followed settings output turns t)
    (h : t.Receives t') : Followed settings output turns t' := by
  cases followed with
  | idle hturns hidle hnew =>
      exact .idle hturns (h.isWaiting.trans hidle) (h.state.trans hnew)
  | ran run punctual started state =>
      exact .ran run punctual (h.isWaiting.trans started)
        (by rwa [h.state, h.takes])

/-- A loop that takes turns was started and has not ended. -/
theorem run_of_turn? {around : Surroundings} {effects : List Effect}
    (followed : Followed settings output turns t)
    (h : t.turn? around = some (t', effects)) :
    Run (State.new settings output).begin (moments turns) t.state
      ∧ (moments turns).punctual = true := by
  cases followed with
  | idle hturns hidle hnew =>
      rw [Task.isWaiting_of_turn? h] at hidle
      cases hidle
  | ran run punctual started state =>
      rcases state with rfl | ⟨hended, -⟩
      · exact ⟨run, punctual⟩
      · rw [Task.takes_of_turn? h] at hended
        cases hended

theorem turn {around : Surroundings} {effects : List Effect}
    (followed : Followed settings output turns t)
    (h : t.turn? around = some (t', effects)) :
    Followed settings output (⟨t, around⟩ :: turns) t' := by
  obtain ⟨run, punctual⟩ := followed.run_of_turn? h
  rcases Task.turn?_ended_or_stepped h with ended | ⟨m, stepped⟩
  · have hsame : moments (⟨t, around⟩ :: turns) = moments turns :=
      List.filterMap_cons_none ended.moment
    refine .ran (s := t.state) ?_ ?_ ?_ ?_
    · rw [hsame]
      exact run
    · rw [hsame]
      exact punctual
    · rw [ended.after]
      rfl
    · rw [ended.after]
      exact Or.inr ⟨rfl, rfl⟩
  · have hmore : moments (⟨t, around⟩ :: turns) = m :: moments turns :=
      List.filterMap_cons_some stepped.moment
    obtain ⟨before, seen, input⟩ := m
    obtain rfl : before = t.state := stepped.before
    refine .ran ?_ ?_ stepped.running (Or.inl stepped.after)
    · rw [hmore]
      exact run.step seen input
    · rw [hmore]
      exact History.punctual_cons.mpr ⟨stepped.due, punctual⟩

theorem start (followed : Followed settings output turns t)
    (h : t.isWaiting = true) (now : Nat) :
    Followed settings output turns (t.start now) := by
  cases followed with
  | ran run punctual started state =>
      -- a loop is started only once
      rw [started] at h
      cases h
  | idle hturns hidle hnew =>
      subst hturns
      obtain ⟨hstate, hstarted⟩ := t.start_begins now
      rw [hnew] at hstate
      exact .ran .start rfl hstarted (Or.inl hstate)

end Followed

/-- What a course has done to the loop's state, a run has done. -/
theorem followed_course {settings : Settings} {output : Led.Output}
    {turns : List Turn} {t : Task}
    (course : Course (Task.new settings output) turns t) :
    Followed settings output turns t := by
  induction course with
  | set => exact .idle rfl rfl rfl
  | send m course ih => exact ih.receives (Task.receives_send _ m)
  | press k course h ih => exact ih.receives (Task.receives_press? h)
  | cancel course ih => exact ih.receives (Task.receives_cancel _)
  | start now course h ih => exact ih.start h now
  | turn around course h ih => exact ih.turn h

theorem Course.stepped {settings : Settings} {output : Led.Output}
    {later earlier : List Turn} {x : Turn} {t : Task}
    (course : Course (Task.new settings output) (later ++ x :: earlier) t)
    {e : Effect} (h : e ∈ x.effects) :
    ∃ t' m, Task.Stepped x.before x.around t' x.effects m
      ∧ Run (State.new settings output).begin (moments earlier) m.before
      ∧ (moments earlier).punctual = true := by
  obtain ⟨hbefore, t', effects, hturn⟩ := course.before
  obtain rfl : x.effects = effects := by simp [Turn.effects, hturn]
  rcases Task.turn?_ended_or_stepped hturn with ended | ⟨m, stepped⟩
  · rw [ended.effects] at h
    cases h
  · obtain ⟨run, punctual⟩ := (followed_course hbefore).run_of_turn? hturn
    refine ⟨t', m, stepped, ?_, punctual⟩
    rw [stepped.before]
    exact run

/-! ## Key events on their way -/

namespace Task

theorem keys_start {t : Task} {now : Nat}
    (h : (t.start now).takes = true) : (t.start now).keys = t.keys := by
  unfold start at h ⊢
  dsimp only at h ⊢
  split
  · rfl
  · next hnone =>
      rw [hnone] at h
      cases h

theorem waits_turn? {t t' : Task} {around : Surroundings}
    {effects : List Effect} (h : t.turn? around = some (t', effects))
    (htakes : t'.takes = true) {k : KeyEvent} (hk : k ∈ t.keys) :
    k ∈ t'.keys
      ∨ ∃ m, (⟨t, around⟩ : Turn).moment? = some m ∧ m.input = .key k := by
  rcases turn?_ended_or_stepped h with ended | ⟨m, stepped⟩
  · rw [ended.after] at htakes
    cases htakes
  · rw [stepped.keys] at hk
    rcases List.mem_append.mp hk with htaken | hleft
    · refine Or.inr ⟨m, stepped.moment, ?_⟩
      cases hinput : m.input with
      | key pressed =>
          rw [hinput] at htaken
          rw [List.mem_singleton.mp htaken]
      | _ =>
          rw [hinput] at htaken
          cases htaken
    · exact Or.inl hleft

end Task

/-- A key event that waits at a turn is taken by it or by a later one, or
it still waits. -/
theorem Course.waits_or_taken {first t : Task} {later earlier : List Turn}
    {x : Turn} (course : Course first (later ++ x :: earlier) t)
    (htakes : t.takes = true) {k : KeyEvent} (hk : k ∈ x.before.keys) :
    k ∈ t.keys ∨ ∃ m ∈ moments (later ++ [x]), m.input = .key k := by
  generalize hturns : later ++ x :: earlier = turns at course
  have receives : ∀ {t t' : Task} {taken : Prop}, t.Receives t' →
      (t.takes = true → k ∈ t.keys ∨ taken) → t'.takes = true →
      k ∈ t'.keys ∨ taken := by
    intro t t' taken h hwaits htakes
    rw [h.takes] at htakes
    exact (hwaits htakes).imp_left fun hk => h.keys hk
  induction course generalizing later with
  | set => simp at hturns
  | send m course ih =>
      exact receives (Task.receives_send _ m) (ih · hturns) htakes
  | press k course h ih =>
      exact receives (Task.receives_press? h) (ih · hturns) htakes
  | cancel course ih =>
      exact receives (Task.receives_cancel _) (ih · hturns) htakes
  | start now course h ih =>
      rw [Task.keys_start htakes]
      exact ih (Task.takes_of_isWaiting h) hturns
  | @turn turns t t' effects around course h ih =>
      cases later with
      | nil =>
          obtain ⟨rfl, rfl⟩ := List.cons.inj hturns
          refine (Task.waits_turn? h htakes hk).imp_right ?_
          rintro ⟨m, hm, hinput⟩
          exact ⟨m, List.mem_filterMap.mpr ⟨_, by simp, hm⟩, hinput⟩
      | cons y rest =>
          obtain ⟨rfl, hrest⟩ := List.cons.inj hturns
          rcases ih (Task.takes_of_turn? h) hrest with hwaits | ⟨m, hm, hinput⟩
          · refine (Task.waits_turn? h htakes hwaits).imp_right ?_
            rintro ⟨m, hm, hinput⟩
            exact ⟨m, List.mem_filterMap.mpr ⟨_, by simp, hm⟩, hinput⟩
          · obtain ⟨z, hz, hmoment⟩ := List.mem_filterMap.mp hm
            refine Or.inr ⟨m, List.mem_filterMap.mpr ⟨z, ?_, hmoment⟩, hinput⟩
            exact List.mem_cons_of_mem _ hz

end Gateway.Loop
