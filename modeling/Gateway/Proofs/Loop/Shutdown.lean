import Gateway.Proofs.Loop.Countdown
import Gateway.Proofs.Loop.Modes

/-!
# The shutdown pattern

A long press shows the shutdown pattern: the reds flash fast and all else
is dark. Reports, commands, refreshes and ticks leave it as it is, and
during the countdown keys do too. What takes it away is a double click
*after* the countdown that switches the LEDs off: keys are heard again by
then, and a double click does not ask whether a shutdown is under way. All
channels are then dark, and stay so until another long press; switching
the LEDs on again does not paint, because the rules still see the
shutdown.

The history tells which of the two it is (`History.darkened`), and
`Patterned` is the invariant that every step keeps.
-/

namespace Gateway.Loop

open Led (Channel Mode)

/-- Whether a double click switched the LEDs off since the latest long
press. -/
def History.darkened : History → Bool
  | [] => false
  | m :: past =>
      if m.pressesLong then false else m.switchesOff || History.darkened past

theorem History.darkened_cons_of_ne {m : Moment} (past : History)
    (h : m.input ≠ .longPress) :
    History.darkened (m :: past)
      = (m.switchesOff || past.darkened) := by
  have hpress : m.pressesLong = false :=
    Bool.eq_false_iff.mpr fun hp => h (Moment.pressesLong_iff.mp hp)
  rw [darkened, hpress, if_neg Bool.false_ne_true]

theorem exists_lookup_shutdownModes (c : Channel) :
    ∃ mode, shutdownModes.lookup c = some mode := by
  cases c <;> exact ⟨_, rfl⟩

/-! ## Steps after a long press -/

namespace State

theorem mode_longPress (s : State) (now : Nat) (c : Channel) :
    some ((s.longPress now).1.table.node c).mode
      = shutdownModes.lookup c := by
  have hnd : (shutdownModes.map (·.1)).Nodup := by decide
  obtain ⟨mode, hmode⟩ := exists_lookup_shutdownModes c
  simp only [longPress]
  rw [Led.Table.mode_apply hnd, hmode, Option.getD_some]

variable {s : State} (hs : s.shuttingDown = true)
include hs

theorem paints_of_shuttingDown : s.paints = false := by
  simp [paints, hs]

theorem mode_paint_of_shuttingDown (g : Group) (c : Channel) :
    ((s.paint g).table.node c).mode = (s.table.node c).mode := by
  simp [paint, paints_of_shuttingDown hs]

theorem mode_refresh_of_shuttingDown (around : Surroundings) (c : Channel) :
    ((s.refresh around).1.table.node c).mode = (s.table.node c).mode := by
  have h := s.mode_refresh around c
  rw [paints_of_shuttingDown hs, if_neg Bool.false_ne_true] at h
  exact Option.some.inj h

/-- After a long press no message changes a mode. -/
theorem mode_handle_of_shuttingDown (around : Surroundings) (m : Message)
    (c : Channel) :
    ((s.handle around m).1.table.node c).mode = (s.table.node c).mode := by
  cases m with
  | battery r =>
      refine mode_paint_of_shuttingDown ?_ .battery c
      exact hs
  | network n =>
      refine mode_paint_of_shuttingDown ?_ .network c
      exact hs
  | wifi alive =>
      refine mode_paint_of_shuttingDown ?_ .wifi c
      exact hs
  | command cmd =>
      cases cmd with
      | setMode d mode => simp [handle, obey, hs]
      | setBrightness d b => exact Led.Table.mode_setBrightness _ d c b
      | allOff => simp [handle, obey, hs]
      | refresh => exact mode_refresh_of_shuttingDown hs around c
      | setWifiPolicy p =>
          refine mode_paint_of_shuttingDown ?_ .wifi c
          exact hs

end State

/-! ## Runs -/

/-- After a long press, the modes are told by the history. -/
structure Patterned (h : History) (s : State) : Prop where
  modes : ∀ c, some (s.table.node c).mode
    = if h.darkened then some .off else shutdownModes.lookup c
  counting : s.shutdownAt.isSome = true → h.darkened = false

/-- A step that leaves the modes and the deadline, and switches nothing
off, keeps the pattern or the darkness. -/
theorem Patterned.keep {past : History} {s s' : State} {m : Moment}
    (patterned : Patterned past s) (hpress : m.input ≠ .longPress)
    (hoff : m.switchesOff = false)
    (hmodes : ∀ c, (s'.table.node c).mode = (s.table.node c).mode)
    (hdeadline : s'.shutdownAt.isSome = true → s.shutdownAt.isSome = true) :
    Patterned (m :: past) s' where
  modes c := by
    rw [hmodes, past.darkened_cons_of_ne hpress, hoff, Bool.false_or]
    exact patterned.modes c
  counting h := by
    rw [past.darkened_cons_of_ne hpress, hoff, Bool.false_or]
    exact patterned.counting (hdeadline h)

theorem patterned_longPress (past : History) (s : State)
    (around : Surroundings) :
    Patterned (⟨s, around, .longPress⟩ :: past)
      (s.longPress around.now).1 := by
  have hdarkened : History.darkened (⟨s, around, .longPress⟩ :: past) = false := by
    rw [History.darkened, Moment.pressesLong_iff.mpr rfl, if_pos rfl]
  refine ⟨fun c => ?_, fun _ => hdarkened⟩
  rw [hdarkened, if_neg Bool.false_ne_true]
  exact s.mode_longPress around.now c

/-- A key event: the double click that switches the LEDs off is the only
one that changes a mode, and there is none during the countdown. -/
theorem patterned_key {past : History} {s : State}
    (patterned : Patterned past s) (hs : s.shuttingDown = true)
    (around : Surroundings) (k : KeyEvent) :
    Patterned (⟨s, around, .key k⟩ :: past) (s.key around k).1 := by
  rcases s.key_cases around k with
    ⟨htwice, classifier, hkey⟩ | ⟨htwice, classifier, longPressAt, hkey⟩
  · have hdown : s.shutdownAt = none := by
      simp only [State.clicksTwice, Bool.and_eq_true] at htwice
      exact Option.isNone_iff_eq_none.mp htwice.1.1
    rw [hkey]
    cases hled : s.ledEnabled with
    | true =>
        have hoff : History.darkened (⟨s, around, .key k⟩ :: past) = true := by
          simp [History.darkened_cons_of_ne, Moment.switchesOff, hled, htwice]
        rw [State.doubleClick_off rfl]
        refine ⟨fun c => ?_, fun hsome => ?_⟩
        · rw [hoff, if_pos rfl, Led.Table.mode_allOff]
        · rw [hdown] at hsome
          cases hsome
    | false =>
        rw [State.doubleClick_on rfl]
        refine patterned.keep Input.noConfusion ?_ (fun c => ?_) fun hsome => ?_
        · simp [Moment.switchesOff, hled]
        · refine State.mode_refresh_of_shuttingDown ?_ around c
          exact hs
        · rw [State.refresh_eq, hdown] at hsome
          cases hsome
  · rw [hkey]
    refine patterned.keep Input.noConfusion ?_ (fun _ => rfl) id
    simp [Moment.switchesOff, htwice]

theorem patterned_step {past : History} {s : State}
    (patterned : Patterned past s) (hs : s.shuttingDown = true)
    (around : Surroundings) (input : Input) :
    Patterned (⟨s, around, input⟩ :: past) (s.step around input).1 := by
  cases input with
  | key k => exact patterned_key patterned hs around k
  | message m =>
      refine patterned.keep Input.noConfusion rfl
        (State.mode_handle_of_shuttingDown hs around m) fun h => ?_
      rw [State.step, State.handle_eq] at h
      exact h
  | renderTick =>
      rw [State.step, State.renderTick]
      refine patterned.keep Input.noConfusion rfl (fun c => ?_) id
      dsimp only
      exact s.table.mode_renderTick c
  | longPress => exact patterned_longPress past s around
  | countdown =>
      rw [State.step, State.countedDown]
      refine patterned.keep Input.noConfusion rfl (fun _ => rfl) fun h => ?_
      cases h

/-- Only a long press puts the loop on its way down. -/
theorem longPress_of_step {s : State} {around : Surroundings}
    {input : Input} (hbefore : s.shuttingDown = false)
    (hs : (s.step around input).1.shuttingDown = true) :
    input = .longPress := by
  cases input with
  | longPress => rfl
  | key k =>
      rw [State.step, State.key_eq, hbefore] at hs
      cases hs
  | message m =>
      rw [State.step, State.handle_eq, hbefore] at hs
      cases hs
  | renderTick =>
      rw [State.step, State.renderTick, hbefore] at hs
      cases hs
  | countdown =>
      rw [State.step, State.countedDown, hbefore] at hs
      cases hs

theorem patterned_run {settings : Settings} {output : Led.Output}
    {h : History} {s : State}
    (run : Run (State.new settings output).begin h s)
    (hs : s.shuttingDown = true) : Patterned h s := by
  induction run with
  | start =>
      rw [State.begin, State.paintAll_eq] at hs
      cases hs
  | @step past s around input run ih =>
      cases hbefore : s.shuttingDown with
      | true => exact patterned_step (ih hbefore) hbefore around input
      | false =>
          -- the pattern is shown for the first time
          obtain rfl := longPress_of_step hbefore hs
          exact patterned_longPress past s around

/-- After a long press, whatever messages, keys, ticks and timers come
later:

- the modes are those of the shutdown pattern, unless a double click has
  switched the LEDs off since the latest long press, and then all are off;
- while the loop counts down, there was no such double click. -/
theorem mode_of_shuttingDown {settings : Settings} {output : Led.Output}
    {h : History} {s : State}
    (run : Run (State.new settings output).begin h s)
    (hs : s.shuttingDown = true) :
    (∀ c, some (s.table.node c).mode
        = if h.darkened then some .off else shutdownModes.lookup c)
    ∧ (s.shutdownAt.isSome = true → h.darkened = false) := by
  have patterned := patterned_run run hs
  exact ⟨patterned.modes, patterned.counting⟩

/-- The pattern in every state from a long press to the shutdown command,
and after it, until the key is double clicked. -/
theorem mode_of_shuttingDown_counted :
    ∃ h s, Run (State.new Settings.initial .accepting).begin h s
      ∧ h.punctual = true ∧ s.shuttingDown = true ∧ s.shutdownAt = none
      ∧ (s.table.node .nrRed).mode = .fastFlash
      ∧ (s.table.node .wifiGreen).mode = .off := by
  let around (now : Nat) : Surroundings :=
    ⟨now, ⟨"Unknown", "Unknown", none, none, none, none⟩, true⟩
  have held := ((@Run.start (State.new Settings.initial .accepting).begin).step
    (around 0) (.key ⟨.down, 0⟩)).step (around 2000) .longPress
  have run := ((held.step (around 2500) (.message (.wifi true))).step
    (around 6000) .countdown).step (around 6100) (.key ⟨.up, 6100⟩)
  have modes := (mode_of_shuttingDown run rfl).1
  exact ⟨_, _, run, by decide +kernel, rfl, rfl,
    Option.some.inj (modes .nrRed), Option.some.inj (modes .wifiGreen)⟩

/-- A double click after the shutdown command switches the LEDs off. -/
theorem exists_darkened :
    ∃ h s, Run (State.new Settings.initial .accepting).begin h s
      ∧ h.punctual = true ∧ s.shuttingDown = true
      ∧ h.darkened = true := by
  let around (now : Nat) : Surroundings :=
    ⟨now, ⟨"Unknown", "Unknown", none, none, none, none⟩, false⟩
  have held := ((@Run.start (State.new Settings.initial .accepting).begin).step
    (around 0) (.key ⟨.down, 0⟩)).step (around 2000) .longPress
  have issued := held.step (around 6000) .countdown
  have run := (((issued.step (around 6000) (.key ⟨.up, 6000⟩)).step
    (around 6000) (.key ⟨.down, 6000⟩)).step (around 6000)
    (.key ⟨.up, 6000⟩)).step (around 6000) (.key ⟨.down, 6000⟩)
  exact ⟨_, _, run, by decide +kernel, rfl, by decide +kernel⟩

/-- So the shutdown pattern does not stay until the loop ends. -/
theorem shutdown_pattern_not_kept :
    ¬ ∀ settings output h s, Run (State.new settings output).begin h s →
      h.punctual = true → s.shuttingDown = true →
      ∀ c, some (s.table.node c).mode = shutdownModes.lookup c := by
  intro kept
  obtain ⟨h, s, run, punctual, hs, hdark⟩ := exists_darkened
  have hmode := (patterned_run run hs).modes .lteRed
  rw [kept _ _ h s run punctual hs .lteRed, hdark, if_pos rfl] at hmode
  cases hmode

end Gateway.Loop
