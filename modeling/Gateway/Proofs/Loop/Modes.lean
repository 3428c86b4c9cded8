import Gateway.Proofs.Loop.Run

/-!
# Modes as a function of status and commands

Until a long press, the mode of every channel is told by the history of
the loop. While the LEDs are switched on it is what the rules give for
the *present* status and policy, unless a command ordered another one
since the channel's group was last recomputed. While they are switched
off it is dark, unless a command ordered otherwise since the double
click that switched them off.

The invariant (`Told`) keeps both halves for the regime the loop is in;
nothing is claimed about the rules while the LEDs are off, since the
double click that switches them on again recomputes every group
(`told_doubleClick`). The messages are covered by one lemma for both
regimes (`told_message`): where no recomputation happens, what the rules
give has not changed either.
-/

namespace Gateway.Loop

open Led (Channel Mode)

/-! ## Reading a history -/

namespace Moment

/-- Whether the step switched the LEDs off. -/
def switchesOff (m : Moment) : Bool :=
  match m.input with
  | .key k => m.before.ledEnabled && m.before.clicksTwice k
  | _ => false

/-- Whether the step switched the LEDs on. -/
def switchesOn (m : Moment) : Bool :=
  match m.input with
  | .key k => !m.before.ledEnabled && m.before.clicksTwice k
  | _ => false

/-- Whether the step recomputed a group: a message that has it recomputed
did so if the LEDs were on, and switching them on recomputes everything. -/
def recomputes (m : Moment) (g : Group) : Bool :=
  match m.input with
  | .message msg => m.before.ledEnabled && msg.recomputes g
  | .key _ => m.switchesOn
  | _ => false

/-- The mode that the step ordered for a channel by hand. -/
def orders (m : Moment) (c : Channel) : Option Mode :=
  match m.input with
  | .message msg => msg.orders c
  | _ => none

end Moment

/-- The latest mode ordered for a channel, going back to the latest step
of some kind and no further. -/
def History.ordered (stop : Moment → Bool) (c : Channel) :
    History → Option Mode
  | [] => none
  | m :: past =>
      if stop m then none
      else (m.orders c).or (History.ordered stop c past)

/-- What is ordered for a channel since its group was recomputed. -/
def History.override (h : History) (c : Channel) : Option Mode :=
  h.ordered (·.recomputes (Group.of c)) c

/-- What is ordered for a channel since the LEDs were switched off. -/
def History.orderedDark (h : History) (c : Channel) : Option Mode :=
  h.ordered Moment.switchesOff c

theorem History.override_cons (m : Moment) (past : History) (c : Channel) :
    History.override (m :: past) c
      = if m.recomputes (Group.of c) then none
        else (m.orders c).or (past.override c) := rfl

theorem History.orderedDark_cons (m : Moment) (past : History)
    (c : Channel) :
    History.orderedDark (m :: past) c
      = if m.switchesOff then none
        else (m.orders c).or (past.orderedDark c) := rfl

/-! ## The invariant -/

/-- The modes are told by the history, in the regime that the loop is in. -/
structure Told (h : History) (s : State) : Prop where
  lit : s.ledEnabled = true → ∀ c,
    some (s.table.node c).mode
      = (h.override c).or ((s.modesOf (Group.of c)).lookup c)
  dark : s.ledEnabled = false → ∀ c,
    (s.table.node c).mode = (h.orderedDark c).getD .off

/-- A step that orders nothing, recomputes nothing and switches nothing
leaves the modes told, if it replaces no more than what only the timers,
the classifier and the hardware are concerned with. -/
theorem Told.quiet {past : History} {s : State} {m : Moment}
    (told : Told past s)
    (horders : ∀ c, m.orders c = none)
    (hrecomputes : ∀ g, m.recomputes g = false)
    (hoff : m.switchesOff = false)
    {table : Led.Table}
    (hmodes : ∀ c, (table.node c).mode = (s.table.node c).mode)
    (classifier : PowerKey.Classifier) (longPressAt shutdownAt : Option Nat) :
    Told (m :: past) { s with table, classifier, longPressAt, shutdownAt }
    where
  lit hon c := by
    have hrules : ∀ g, State.modesOf
        { s with table, classifier, longPressAt, shutdownAt } g
          = s.modesOf g := fun g => by cases g <;> rfl
    rw [hrules, hmodes, told.lit hon]
    simp [History.override_cons, hrecomputes, horders]
  dark hdark c := by
    rw [hmodes, told.dark hdark]
    simp [History.orderedDark_cons, hoff, horders]

theorem told_begin (settings : Settings) (output : Led.Output) :
    Told [] (State.new settings output).begin where
  lit _ c := by
    have hpaint := ({ State.new settings output with
      table := (State.new settings output).table.init }).mode_paintAll c
    rw [← State.modesOf_paintAll] at hpaint
    exact hpaint
  dark hoff _ := by
    rw [State.begin, State.paintAll_eq] at hoff
    cases hoff

/-- A message in either regime. -/
theorem told_message {past : History} {s : State} (told : Told past s)
    (hs : s.shuttingDown = false) (around : Surroundings) (m : Message) :
    Told (⟨s, around, .message m⟩ :: past) (s.handle around m).1 where
  lit hon c := by
    have hled : s.ledEnabled = true := by
      rw [State.handle_eq] at hon
      exact hon
    have hmode := State.mode_handle hs around m c
    rw [hmode, History.override_cons]
    cases hr : m.recomputes (Group.of c) with
    | true => simp [Moment.recomputes, hled, hr]
    | false =>
        rw [State.modesOf_handle hr, told.lit hled]
        simp [Moment.recomputes, Moment.orders, hr, Option.or_assoc]
  dark hoff c := by
    have hled : s.ledEnabled = false := by
      rw [State.handle_eq] at hoff
      exact hoff
    have hmode := State.mode_handle hs around m c
    simp only [hled, Bool.false_eq_true, false_and, if_false] at hmode
    rw [told.dark hled] at hmode
    rw [History.orderedDark_cons]
    simp only [Moment.switchesOff, Moment.orders, Bool.false_eq_true, if_false]
    cases ho : m.orders c with
    | none => simpa [ho] using hmode
    | some mode => simpa [ho] using hmode

/-- A double click in either regime: all LEDs go dark, or every group is
recomputed for the status of the refresh. -/
theorem told_doubleClick {past : History} {s : State}
    (hs : s.shuttingDown = false) (around : Surroundings) {k : KeyEvent}
    (htwice : s.clicksTwice k = true) (classifier : PowerKey.Classifier) :
    Told (⟨s, around, .key k⟩ :: past)
      ({ s with classifier, longPressAt := none }.doubleClick around).1 := by
  cases hled : s.ledEnabled with
  | true =>
      rw [State.doubleClick_off rfl]
      refine ⟨fun hon => (by cases hon), fun _ c => ?_⟩
      rw [Led.Table.mode_allOff]
      simp [History.orderedDark_cons, Moment.switchesOff, hled, htwice]
  | false =>
      rw [State.doubleClick_on rfl]
      refine ⟨fun _ c => ?_, fun hoff => ?_⟩
      · rw [State.mode_refresh]
        simp [History.override_cons, Moment.recomputes, Moment.switchesOn,
          hled, htwice, State.paints, hs]
      · rw [State.refresh_eq] at hoff
        cases hoff

/-- A key event in either regime. -/
theorem told_key {past : History} {s : State} (told : Told past s)
    (hs : s.shuttingDown = false) (around : Surroundings) (k : KeyEvent) :
    Told (⟨s, around, .key k⟩ :: past) (s.key around k).1 := by
  rcases s.key_cases around k with
    ⟨htwice, classifier, hkey⟩ | ⟨htwice, classifier, longPressAt, hkey⟩
  · rw [hkey]
    exact told_doubleClick hs around htwice classifier
  · rw [hkey]
    refine told.quiet (fun _ => rfl) (fun _ => ?_) ?_ (fun _ => rfl)
      classifier longPressAt s.shutdownAt
    · simp [Moment.recomputes, Moment.switchesOn, htwice]
    · simp [Moment.switchesOff, htwice]

/-! ## Runs -/

/-- Nothing takes a long press back. -/
theorem shuttingDown_of_step {s : State} {around : Surroundings}
    {input : Input} (h : (s.step around input).1.shuttingDown = false) :
    s.shuttingDown = false := by
  cases input with
  | message m =>
      rw [State.step, State.handle_eq] at h
      exact h
  | renderTick =>
      rw [State.step, State.renderTick] at h
      exact h
  | longPress => cases h
  | countdown => exact h
  | key k =>
      rw [State.step] at h
      rcases s.key_cases around k with
        ⟨-, classifier, hkey⟩ | ⟨-, classifier, longPressAt, hkey⟩
      · rw [hkey] at h
        cases hled : s.ledEnabled with
        | true =>
            rw [State.doubleClick_off (by exact hled)] at h
            exact h
        | false =>
            rw [State.doubleClick_on (by exact hled), State.refresh_eq] at h
            exact h
      · rw [hkey] at h
        exact h

theorem told_run {settings : Settings} {output : Led.Output} {h : History}
    {s : State} (run : Run (State.new settings output).begin h s)
    (hs : s.shuttingDown = false) : Told h s := by
  induction run with
  | start => exact told_begin settings output
  | step around input run ih =>
      have hbefore := shuttingDown_of_step hs
      have told := ih hbefore
      cases input with
      | key k => exact told_key told hbefore around k
      | message m => exact told_message told hbefore around m
      | renderTick =>
          exact told.quiet (fun _ => rfl) (fun _ => rfl) rfl
            (fun c => Led.Table.mode_renderTick _ c) _ _ _
      | longPress => cases hs
      | countdown =>
          exact told.quiet (fun _ => rfl) (fun _ => rfl) rfl (fun _ => rfl)
            _ _ _

/-- Until a long press, along every run and whichever writes the output
refuses:

- while the LEDs are on, a channel has the mode ordered by hand since its
  group was last recomputed, and otherwise exactly the one that the
  group's rule gives for the present status and policy;
- while they are off, it has the mode ordered by hand since the double
  click that switched them off, and otherwise is dark; and no message but
  such an order changes a mode, though reports, refreshes and policies
  go on to replace what they report. -/
theorem mode_of_run {settings : Settings} {output : Led.Output}
    {h : History} {s : State}
    (run : Run (State.new settings output).begin h s)
    (hs : s.shuttingDown = false) :
    (s.ledEnabled = true → ∀ c, some (s.table.node c).mode
        = (h.override c).or ((s.modesOf (Group.of c)).lookup c))
    ∧ (s.ledEnabled = false →
        (∀ c, (s.table.node c).mode = (h.orderedDark c).getD .off)
        ∧ ∀ around m, (∀ c, m.orders c = none) →
          let s' := (s.step around (.message m)).1
          (∀ c, (s'.table.node c).mode = (s.table.node c).mode)
          ∧ s'.status = m.statusAfter around s.status
          ∧ s'.wifiPolicy = m.policyAfter s.wifiPolicy) := by
  have told := told_run run hs
  refine ⟨told.lit, fun hoff => ⟨told.dark hoff, fun around m horders => ?_⟩⟩
  refine ⟨fun c => ?_, ?_, ?_⟩
  · have hmode := State.mode_handle hs around m c
    simp only [hoff, horders, Bool.false_eq_true, false_and, if_false,
      Option.none_or] at hmode
    exact Option.some.inj hmode
  · exact congrArg State.status (s.handle_eq around m)
  · exact congrArg State.wifiPolicy (s.handle_eq around m)

/-- The access point's report takes back what was ordered for its LED, and
leaves what was ordered for the battery's; a double click takes back
everything, and what is ordered after it stays. -/
theorem mode_of_run_overridden :
    (∃ h s, Run (State.new Settings.initial .accepting).begin h s
      ∧ s.shuttingDown = false ∧ s.ledEnabled = true
      ∧ (s.table.node .batteryGreen).mode = .on
      ∧ (s.table.node .wifiRed).mode = .off)
    ∧ ∃ h s, Run (State.new Settings.initial .accepting).begin h s
      ∧ s.shuttingDown = false ∧ s.ledEnabled = false
      ∧ (s.table.node .batteryGreen).mode = .off
      ∧ (s.table.node .wifiRed).mode = .on := by
  let around : Surroundings :=
    ⟨0, ⟨"Unknown", "Unknown", none, none, none, none⟩, false⟩
  have begun := @Run.start (State.new Settings.initial .accepting).begin
  have green := begun.step around
    (.message (.command (.setMode .batteryGreen .on)))
  constructor
  · have run := (green.step around
        (.message (.command (.setMode .wifiRed .fastFlash)))).step around
        (.message (.wifi true))
    have told := (mode_of_run run rfl).1 rfl
    exact ⟨_, _, run, rfl, rfl, Option.some.inj (told .batteryGreen),
      Option.some.inj (told .wifiRed)⟩
  · have clicked := ((green.step around (.key ⟨.down, 0⟩)).step around
        (.key ⟨.up, 100⟩)).step around (.key ⟨.down, 200⟩)
    have run := clicked.step around
      (.message (.command (.setMode .wifiRed .on)))
    have told := ((mode_of_run run rfl).2 rfl).1
    exact ⟨_, _, run, rfl, rfl, told .batteryGreen, told .wifiRed⟩

end Gateway.Loop
