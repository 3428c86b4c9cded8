import Gateway.Proofs.Led.AllOff
import Gateway.Proofs.Loop.Turns

/-!
# The LEDs when the loop has ended

A loop that is asked to stop switches everything off and ends. That does
not write the channels whose mode is off already. One of them stays lit if
it was refused when its mode was switched off, and no tick has come since
to write it again. All other channels are dark if the last writes are not
refused.

- **Steps** (`State.reaches_step`): whatever a step does to the table it
  does by the table's operations.
- **Runs** (`settled_run`): so what the operations keep holds along every
  run: the table is truthful, and switched off channels were written so.
- **The last turn** (`Task.turn?_cancel`): it is all that a loop does
  that was asked to stop.
-/

namespace Gateway

namespace Led.Table

/-- Operations lead from one table to the other. -/
def Reaches (t t' : Table) : Prop := ∃ ops, t' = t.performAll ops

theorem reaches_self (t : Table) : t.Reaches t := ⟨[], rfl⟩

theorem Reaches.trans {t t' t'' : Table} (h : t.Reaches t')
    (h' : t'.Reaches t'') : t.Reaches t'' := by
  obtain ⟨ops, rfl⟩ := h
  obtain ⟨later, rfl⟩ := h'
  exact ⟨ops ++ later, (List.foldl_append ..).symm⟩

theorem reaches_perform {t t' : Table} (op : Operation)
    (h : t.perform op = t') : t.Reaches t' := ⟨[op], h.symm⟩

theorem reaches_setMode (t : Table) (c : Channel) (mode : Mode) :
    t.Reaches (t.setMode c mode) :=
  reaches_perform (.setMode c mode) (by rw [perform])

theorem reaches_apply (t : Table) (modes : List (Channel × Mode)) :
    t.Reaches (t.apply modes) := reaches_perform (.apply modes) (by rw [perform])

theorem reaches_setBrightness (t : Table) (c : Channel) (b : UInt8) :
    t.Reaches (t.setBrightness c b) :=
  reaches_perform (.setBrightness c b) (by rw [perform])

theorem reaches_allOff (t : Table) : t.Reaches t.allOff :=
  reaches_perform .allOff (by rw [perform])

theorem reaches_renderTick (t : Table) : t.Reaches t.renderTick.1 :=
  reaches_perform .renderTick (by rw [perform])

end Led.Table

namespace Loop

open Led (Channel Table)

/-! ## Steps and the table -/

namespace State

/-- What is painted on, the table may already be part of another state. -/
theorem reaches_paint {s : State} {t : Table} (h : s.table = t) (g : Group) :
    t.Reaches (s.paint g).table := by
  subst h
  unfold paint
  split
  · exact s.table.reaches_apply (s.modesOf g)
  · exact s.table.reaches_self

theorem reaches_paintAll {s : State} {t : Table} (h : s.table = t) :
    t.Reaches s.paintAll.table :=
  ((reaches_paint h .network).trans (reaches_paint rfl .battery)).trans
    (reaches_paint rfl .wifi)

theorem reaches_refresh {s : State} {t : Table} (h : s.table = t)
    (around : Surroundings) : t.Reaches (s.refresh around).1.table := by
  unfold refresh
  exact reaches_paintAll h

theorem reaches_handle (s : State) (around : Surroundings) (m : Message) :
    s.table.Reaches (s.handle around m).1.table := by
  unfold handle
  cases m with
  | battery r => exact reaches_paint rfl .battery
  | network n => exact reaches_paint rfl .network
  | wifi alive => exact reaches_paint rfl .wifi
  | command c =>
      unfold obey
      cases c with
      | setMode c mode =>
          dsimp only
          split
          · exact s.table.reaches_self
          · exact s.table.reaches_setMode c mode
      | setBrightness c b => exact s.table.reaches_setBrightness c b
      | allOff =>
          cases hs : s.shuttingDown with
          | true => exact s.table.reaches_self
          | false =>
              simp only [Bool.false_eq_true, if_false]
              exact s.table.reaches_allOff
      | refresh => exact reaches_refresh rfl around
      | setWifiPolicy p => exact reaches_paint rfl .wifi

theorem reaches_key (s : State) (around : Surroundings) (k : KeyEvent) :
    s.table.Reaches (s.key around k).1.table := by
  rcases s.key_cases around k with
    ⟨-, classifier, hkey⟩ | ⟨-, classifier, longPressAt, hkey⟩
  · rw [hkey]
    cases hled : s.ledEnabled with
    | true =>
        rw [doubleClick_off rfl]
        dsimp only
        exact s.table.reaches_allOff
    | false =>
        rw [doubleClick_on rfl]
        exact reaches_refresh rfl around
  · rw [hkey]
    exact s.table.reaches_self

/-- Every step works on the table by its operations. -/
theorem reaches_step (s : State) (around : Surroundings) (input : Input) :
    s.table.Reaches (s.step around input).1.table := by
  cases input with
  | key k => exact s.reaches_key around k
  | message m => exact s.reaches_handle around m
  | renderTick =>
      rw [step, renderTick]
      dsimp only
      exact s.table.reaches_renderTick
  | longPress =>
      rw [step, longPress]
      dsimp only
      exact s.table.reaches_apply shutdownModes
  | countdown => exact s.table.reaches_self

end State

theorem reaches_run {first s : State} {h : History} (run : Run first h s) :
    first.table.Reaches s.table := by
  induction run with
  | start => exact first.table.reaches_self
  | step around input run ih =>
      exact ih.trans (State.reaches_step _ around input)

/-- Along every run the table is truthful, and the latest write of a
channel whose mode is off was to darken it. -/
theorem settled_run {settings : Settings} {output : Led.Output} {h : History}
    {s : State} (run : Run (State.new settings output).begin h s) :
    s.table.Truthful ∧ ∀ c, s.table.WrittenOff c := by
  have hnew := Table.truthful_new output settings.forceEvery
  have hbegin : (Table.new output settings.forceEvery).init.Reaches
      (State.new settings output).begin.table :=
    State.reaches_paintAll rfl
  obtain ⟨ops, hops⟩ := hbegin.trans (reaches_run run)
  have hinit := hnew.perform .init
  rw [hops]
  exact ⟨hinit.performAll ops,
    Table.writtenOff_performAll hinit (Table.writtenOff_init _) ops⟩

/-! ## The last turn -/

/-- A loop that is asked to stop does nothing else any more. -/
theorem Task.turn?_cancel {t : Task} {ticker : Ticker}
    (hrunning : t.phase = .running ticker) (around : Surroundings) :
    ∃ t', t.cancel.turn? around = some (t', []) ∧ t'.isFinished = true
      ∧ t'.state.table = t.state.table.allOff := by
  refine ⟨{ t.cancel with state := t.state.finish }.close .finished, ?_, rfl, ?_⟩
  · simp only [turn?, cancel, hrunning, if_true]
  · simp only [close, State.finish]

theorem Task.table_of_cancel {t t' : Task} {ticker : Ticker}
    {around : Surroundings} {effects : List Effect}
    (hrunning : t.phase = .running ticker)
    (h : t.cancel.turn? around = some (t', effects)) :
    t'.state.table = t.state.table.allOff := by
  obtain ⟨ended, hturn, -, htable⟩ := turn?_cancel hrunning around
  obtain rfl : t' = ended :=
    congrArg Prod.fst (Option.some.inj (h.symm.trans hturn))
  exact htable

/-- An output that refuses one write: the second after a loop was started
and has rendered once. -/
def refusingOne : Led.Output :=
  ⟨fun n _ => n != 21, fun _ => true, 0, [], []⟩

/-- A green LED is switched on, and its switching off is refused. -/
theorem exists_refused :
    ∃ turns t ticker,
      Course (Task.new Settings.initial refusingOne) turns t
      ∧ t.phase = .running ticker
      ∧ t.state.table.output.delivered? .lteRed = some 1
      ∧ (t.state.table.node .lteRed).mode = .slowFlash
      ∧ t.state.table.output.delivered? .batteryGreen = some 1
      ∧ (t.state.table.node .batteryGreen).mode = .off
      ∧ t.state.table.allOff.output.writes
        = [⟨.wifiGreen, 0, true⟩, ⟨.nrRed, 0, true⟩, ⟨.lteRed, 0, true⟩]
          ++ t.state.table.output.writes := by
  let around : Surroundings := ⟨0, .empty, false⟩
  have started := (@Course.set (Task.new Settings.initial refusingOne)).start
    0 rfl
  have rendered := started.next around (by decide +kernel)
  have lit := (rendered.send (.command (.setMode .batteryGreen .on))).next
    around (by decide +kernel)
  have course := (lit.send (.command (.setMode .batteryGreen .off))).next
    around (by decide +kernel)
  exact ⟨_, _, ⟨500, 500, .delay, by decide⟩, course, by decide +kernel,
    by decide +kernel, by decide +kernel, by decide +kernel, by decide +kernel,
    by decide +kernel⟩

/-- When a running loop is asked to stop, whatever messages, key events,
turns and refused writes came before:

- its next turn ends it and switches every mode off;
- if none of the writes of that turn is refused, a channel has then taken 0
  last just if its mode was another one before, or it had taken 0 last
  before;
- so a channel that has not was off, and had refused its latest write. -/
theorem dark_iff_of_teardown {settings : Settings} {output : Led.Output}
    {turns : List Turn} {t : Task} {ticker : Ticker}
    (course : Course (Task.new settings output) turns t)
    (hrunning : t.phase = .running ticker) (around : Surroundings) :
    ∃ t', t.cancel.turn? around = some (t', []) ∧ t'.isFinished = true
      ∧ (∀ c, (t'.state.table.node c).mode = .off)
      ∧ ∃ added, t'.state.table.output.writes
          = added ++ t.state.table.output.writes
        ∧ ((∀ w ∈ added, w.accepted = true) → ∀ c,
          (t'.state.table.output.delivered? c = some 0
            ↔ (t.state.table.node c).mode ≠ .off
              ∨ t.state.table.output.delivered? c = some 0)
          ∧ (t'.state.table.output.delivered? c ≠ some 0 →
              (t.state.table.node c).mode = .off
                ∧ t.state.table.output.last? c = some ⟨c, 0, false⟩)) := by
  obtain ⟨t', hturn, hfinished, htable⟩ := Task.turn?_cancel hrunning around
  obtain ⟨run, -⟩ := (followed_course course.cancel).run_of_turn? hturn
  have hoff : ∀ c, t.state.table.WrittenOff c := (settled_run run).2
  obtain ⟨added, hadded, hdelivered⟩ := t.state.table.delivered_allOff
  rw [← htable] at hadded hdelivered
  refine ⟨t', hturn, hfinished, fun c => ?_, added, hadded, fun hacc c => ?_⟩
  · rw [htable]
    exact t.state.table.mode_allOff c
  rw [hdelivered hacc c]
  by_cases hmode : (t.state.table.node c).mode = .off
  · rw [if_pos hmode]
    exact ⟨⟨Or.inr, fun h => h.resolve_left (absurd hmode)⟩,
      fun hlit => ⟨hmode, (hoff c).refused hmode hlit⟩⟩
  · rw [if_neg hmode]
    exact ⟨⟨fun _ => Or.inl hmode, fun _ => rfl⟩, absurd rfl⟩

/-- The loop is stopped before a tick comes that would make up for the
refusal: the red LED, which was lit, is dark, and the green one is not. -/
theorem dark_iff_of_teardown_refused :
    ∃ turns t, ∃ t' : Task,
      Course (Task.new Settings.initial refusingOne) turns t
      ∧ t.state.table.output.delivered? .lteRed = some 1
      ∧ t'.isFinished = true
      ∧ t'.state.table.output.delivered? .lteRed = some 0
      ∧ t'.state.table.output.delivered? .batteryGreen ≠ some 0
      ∧ t.state.table.output.last? .batteryGreen
        = some ⟨.batteryGreen, 0, false⟩ := by
  obtain ⟨turns, t, ticker, course, hrunning, hred, hflash, hgreen, hoff,
    hwrites⟩ := exists_refused
  let around : Surroundings := ⟨0, .empty, false⟩
  obtain ⟨t', hturn, hfinished, -, added, hadded, hdark⟩ :=
    dark_iff_of_teardown course hrunning around
  have htable := Task.table_of_cancel hrunning hturn
  have haccepted : ∀ w ∈ added, w.accepted = true := by
    rw [htable] at hadded
    rw [List.append_cancel_right (hadded.symm.trans hwrites)]
    decide
  have hlit : t'.state.table.output.delivered? .batteryGreen ≠ some 0 := by
    intro hzero
    rcases (hdark haccepted .batteryGreen).1.mp hzero with hmode | hbefore
    · exact hmode hoff
    · rw [hgreen] at hbefore
      cases hbefore
  refine ⟨turns, t, t', course, hred, hfinished, ?_, hlit,
    ((hdark haccepted .batteryGreen).2 hlit).2⟩
  refine (hdark haccepted .lteRed).1.mpr (Or.inl ?_)
  rw [hflash]
  decide

/-- So not every LED is dark when a loop has ended, even if it could write
again by then. -/
theorem channel_left_lit :
    ¬ ∀ settings output turns t around, ∀ t' : Task, ∀ effects,
      Course (Task.new settings output) turns t →
      t.cancel.turn? around = some (t', effects) →
      (∃ added, t'.state.table.output.writes
          = added ++ t.state.table.output.writes
        ∧ ∀ w ∈ added, w.accepted = true) →
      ∀ c, t'.state.table.output.delivered? c = some 0 := by
  intro dark
  obtain ⟨turns, t, ticker, course, hrunning, -, -, hgreen, hoff,
    hwrites⟩ := exists_refused
  let around : Surroundings := ⟨0, .empty, false⟩
  obtain ⟨t', hturn, -, htable⟩ := Task.turn?_cancel hrunning around
  obtain ⟨added, hadded, hdelivered⟩ := t.state.table.delivered_allOff
  have haccepted : ∀ w ∈ added, w.accepted = true := by
    rw [List.append_cancel_right (hadded.symm.trans hwrites)]
    decide
  rw [← htable] at hadded hdelivered
  have hzero := dark _ _ _ _ _ _ _ course hturn ⟨added, hadded, haccepted⟩
    .batteryGreen
  rw [hdelivered haccepted, if_pos hoff, hgreen] at hzero
  cases hzero

end Loop

end Gateway
