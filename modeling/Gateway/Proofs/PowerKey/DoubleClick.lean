import Gateway.PowerKey.Gesture

/-!
# Double clicks

A classifier keeps a counter and one time; what it makes of a press is a
fact about everything that it was told since the last gesture. A press is
a double click just if the key was pressed before since then, and was let
go for the last time shortly before (`Completes`).

The calls may come in any order and at any times: presses without a
release between them, releases without a press, and times that go back.
The two fields of the classifier say about the calls since the last gesture
whether there was a press and when the latest release was (`Remembers`);
every call keeps this, and the rest is read off it.
-/

namespace Gateway.PowerKey

/-- What a classifier is told. -/
inductive Call where
  | down (time : Nat)
  | up (time : Nat)
  /-- The long-press timer fired. -/
  | fire
deriving DecidableEq

/-- A call and what came of it. -/
structure Handled where
  call : Call
  action : KeyAction

def Handled.resets (m : Handled) : Bool :=
  match m.action with
  | .emit _ => true
  | _ => false

/-- The calls since the last gesture, latest first. -/
def sinceReset : List Handled → List Call
  | [] => []
  | m :: past => if m.resets then [] else m.call :: sinceReset past

/-- The latest release among some calls, latest first, was at a time. -/
def LastRelease (calls : List Call) (released : Nat) : Prop :=
  ∃ later earlier, calls = later ++ .up released :: earlier
    ∧ ∀ time, .up time ∉ later

/-- What a press has to follow to be a double click: an earlier press, and
a release that was the last one and came less than the window before. A
release after the press, by the clock, came at no distance. -/
def Completes (window : Nat) (recent : List Call) (time : Nat) : Prop :=
  (∃ pressed, .down pressed ∈ recent)
    ∧ ∃ released, LastRelease recent released
      ∧ max ((time : Int) - released) 0 < window

namespace Classifier

def handle (c : Classifier) : Call → Classifier × KeyAction
  | .down time => c.onDown time
  | .up time => c.onUp time
  | .fire => let (c, gesture) := c.onLongPress; (c, .emit gesture)

/-- A fresh classifier after some calls, latest first. -/
def after (timing : Timing) : List Call → Classifier
  | [] => .new timing
  | call :: past => ((after timing past).handle call).1

/-- What came of these calls. -/
def history (timing : Timing) : List Call → List Handled
  | [] => []
  | call :: past =>
    ⟨call, ((after timing past).handle call).2⟩ :: history timing past

/-! ## What the classifier remembers -/

/-- The fields of a classifier, told from the calls since the last
gesture. -/
structure Remembers (c : Classifier) (timing : Timing)
    (recent : List Call) : Prop where
  timing : c.timing = timing
  released : ∀ time, c.lastRelease = some time ↔ LastRelease recent time
  pressed : c.clicks = 1 ↔ ∃ time, .down time ∈ recent
  clicks : c.clicks ≤ 1

end Classifier

theorem lastRelease_up {recent : List Call} {time released : Nat} :
    LastRelease (.up time :: recent) released ↔ time = released := by
  constructor
  · rintro ⟨later, earlier, heq, hnone⟩
    cases later with
    | nil =>
        obtain ⟨hup, -⟩ := List.cons.inj heq
        exact Call.up.inj hup
    | cons call later =>
        obtain ⟨rfl, -⟩ := List.cons.inj heq
        exact absurd (List.mem_cons_self ..) (hnone time)
  · rintro rfl
    exact ⟨[], recent, rfl, fun _ => List.not_mem_nil⟩

theorem lastRelease_down {recent : List Call} {time released : Nat} :
    LastRelease (.down time :: recent) released
      ↔ LastRelease recent released := by
  constructor
  · rintro ⟨later, earlier, heq, hnone⟩
    cases later with
    | nil => cases (List.cons.inj heq).1
    | cons call later =>
        obtain ⟨-, rfl⟩ := List.cons.inj heq
        exact ⟨later, earlier, rfl,
          fun t ht => hnone t (List.mem_cons_of_mem call ht)⟩
  · rintro ⟨later, earlier, rfl, hnone⟩
    refine ⟨.down time :: later, earlier, rfl, fun t ht => ?_⟩
    rcases List.mem_cons.mp ht with ht | ht
    · cases ht
    · exact hnone t ht

theorem not_lastRelease_nil (released : Nat) : ¬ LastRelease [] released := by
  rintro ⟨later, earlier, heq, -⟩
  cases later <;> cases heq

namespace Classifier

variable {c : Classifier} {timing : Timing} {recent : List Call}

theorem isQuick_iff {time : Nat} :
    c.isQuick time = true ↔ ∃ released, c.lastRelease = some released
      ∧ max ((time : Int) - released) 0 < c.timing.doubleClick := by
  unfold isQuick
  cases c.lastRelease with
  | none => simp
  | some released =>
      simp only [Option.some.injEq, exists_eq_left', decide_eq_true_eq]
      omega

/-- A press is a double click if it is quick and not the first one; if not,
it counts as the first one. -/
theorem onDown_eq (h : c.clicks ≤ 1) (time : Nat) :
    c.onDown time
      = if c.isQuick time = true ∧ c.clicks = 1
        then ({ c with lastRelease := none, clicks := 0 },
          .emit .doubleClick)
        else ({ c with clicks := 1 }, .arm (time + c.timing.longPress)) := by
  obtain hzero | hone : c.clicks = 0 ∨ c.clicks = 1 := by omega
  · cases hquick : c.isQuick time <;> simp [onDown, hquick, hzero]
  · cases hquick : c.isQuick time <;> simp [onDown, hquick, hone]

theorem remembers_fresh (timing : Timing) :
    Remembers ⟨timing, none, 0⟩ timing [] where
  timing := rfl
  released time := iff_of_false nofun (not_lastRelease_nil time)
  pressed := by simp
  clicks := Nat.zero_le 1

namespace Remembers

theorem completes_iff (h : c.Remembers timing recent) (time : Nat) :
    c.isQuick time = true ∧ c.clicks = 1
      ↔ Completes timing.doubleClick recent time := by
  rw [isQuick_iff, h.pressed, Completes, and_comm, h.timing]
  simp only [h.released]

theorem down (h : c.Remembers timing recent) (time : Nat) :
    Completes timing.doubleClick recent time
        ∧ c.onDown time = (⟨timing, none, 0⟩, .emit .doubleClick)
      ∨ ¬ Completes timing.doubleClick recent time
        ∧ (c.onDown time).2 = .arm (time + timing.longPress)
        ∧ (c.onDown time).1.Remembers timing (.down time :: recent) := by
  have htiming := h.timing
  have hquick := h.completes_iff time
  rw [onDown_eq h.clicks]
  by_cases hdouble : Completes timing.doubleClick recent time
  · refine Or.inl ⟨hdouble, ?_⟩
    rw [if_pos (hquick.mpr hdouble), ← htiming]
  · rw [if_neg (mt hquick.mp hdouble)]
    refine Or.inr ⟨hdouble, ?_, htiming, fun t => ?_, ?_, Nat.le_refl 1⟩
    · rw [htiming]
    · rw [lastRelease_down]
      exact h.released t
    · exact iff_of_true rfl ⟨time, List.mem_cons_self ..⟩

theorem up (h : c.Remembers timing recent) (time : Nat) :
    (c.onUp time).1.Remembers timing (.up time :: recent) where
  timing := h.timing
  released t := by
    rw [lastRelease_up]
    exact Option.some_inj
  pressed := by
    refine h.pressed.trans ⟨?_, ?_⟩
    · rintro ⟨t, ht⟩
      exact ⟨t, List.mem_cons_of_mem _ ht⟩
    · rintro ⟨t, ht⟩
      rcases List.mem_cons.mp ht with ht | ht
      · cases ht
      · exact ⟨t, ht⟩
  clicks := h.clicks

end Remembers

theorem remembers_handle {past : List Handled}
    (h : c.Remembers timing (sinceReset past)) (call : Call) :
    (c.handle call).1.Remembers timing
      (sinceReset (⟨call, (c.handle call).2⟩ :: past)) := by
  cases call with
  | down time =>
      rcases h.down time with ⟨-, heq⟩ | ⟨-, harm, hnext⟩
      · rw [handle, heq]
        exact remembers_fresh timing
      · simp only [handle, sinceReset, Handled.resets, harm]
        exact hnext
  | up time => exact h.up time
  | fire =>
      have htiming := h.timing
      subst htiming
      exact remembers_fresh c.timing

theorem remembers_after (timing : Timing) (calls : List Call) :
    (after timing calls).Remembers timing
      (sinceReset (history timing calls)) := by
  induction calls with
  | nil => exact remembers_fresh timing
  | cons call past ih => exact remembers_handle ih call

/-- After any calls at any times on a fresh classifier:

- a press is a double click if since the last gesture there was another
  press and a release, and the latest release came less than the window
  before it; in all other cases it arms the long-press timer;
- a release disarms it;
- the counter is zero or one. -/
theorem doubleClick_or_arm (timing : Timing) (calls : List Call)
    (time : Nat) :
    (Completes timing.doubleClick (sinceReset (history timing calls)) time
        ∧ ((after timing calls).onDown time).2 = .emit .doubleClick
      ∨ ¬ Completes timing.doubleClick
          (sinceReset (history timing calls)) time
        ∧ ((after timing calls).onDown time).2
          = .arm (time + timing.longPress))
    ∧ ((after timing calls).onUp time).2 = .cancel
    ∧ ((after timing calls).clicks = 0
      ∨ (after timing calls).clicks = 1) := by
  have h := remembers_after timing calls
  refine ⟨?_, rfl, ?_⟩
  · rcases h.down time with ⟨hcompletes, heq⟩ | ⟨hsingle, harm, -⟩
    · exact Or.inl ⟨hcompletes, by rw [heq]⟩
    · exact Or.inr ⟨hsingle, harm⟩
  · have hclicks := h.clicks
    omega

/-- By a clock that went back, the second press is before the release. -/
example : ((after ⟨2000, 500⟩ [.up 100, .down 0]).onDown 50).2
    = .emit .doubleClick := rfl

end Classifier

end Gateway.PowerKey
