import Gateway.Loop.Task
import Gateway.Proofs.Led.Table

/-!
# Runs of the LED loop

What one step of the loop does, said once, and runs as chains of steps.

- **Painting** (`mode_paint`, `mode_paintAll`): painting a group gives
  its channels the modes of the rules, and only while the rules paint.
- **Messages** (`handle_eq`, `mode_handle`): a message either has the
  rules repaint a channel, or orders a mode for it by hand, or leaves it.
- **Keys** (`key_cases`): a press or release either completes a double
  click, or touches nothing but the classifier and the long-press timer.
- **Effects** (`effects_handle`, `effects_key`): messages and keys have
  nothing published but the status and double clicks.
- **Runs** (`Run`, `Task.turn?_cases`): a run keeps its history, each
  step with the state in which it began. A turn of the loop is one such
  step, so what holds of all runs holds whatever the loop's schedule; and
  no turn has a timer fire before its time (`History.punctual`).
-/

namespace Gateway.Loop

open Led (Channel Mode)

/-! ## Groups and their channels -/

namespace Group

/-- The channels that the rule of a group names. -/
def channels : Group → List Channel
  | network => [.lteRed, .lteGreen, .lteBlue, .nrRed, .nrGreen, .nrBlue]
  | battery => [.batteryRed, .batteryGreen]
  | wifi => [.wifiRed, .wifiGreen]

/-- The group of a channel. -/
def of : Channel → Group
  | .lteRed | .lteGreen | .lteBlue | .nrRed | .nrGreen | .nrBlue => network
  | .batteryRed | .batteryGreen => battery
  | .wifiRed | .wifiGreen => wifi

theorem mem_channels {g : Group} {c : Channel} : c ∈ g.channels ↔ of c = g := by
  cases g <;> cases c <;> decide

theorem nodup_channels (g : Group) : g.channels.Nodup := by
  cases g <;> decide

end Group

theorem networkModes_channels (d : DeviceStatus) :
    (networkModes d).map (·.1) = Group.network.channels := by
  unfold networkModes
  split
  · rfl
  · dsimp only
    split <;> rfl

namespace State

/-- Each rule names every channel of its group once. -/
theorem modesOf_channels (s : State) (g : Group) :
    (s.modesOf g).map (·.1) = g.channels := by
  cases g with
  | network => exact networkModes_channels s.status
  | battery => rfl
  | wifi => rfl

theorem lookup_modesOf {s : State} {g : Group} {c : Channel}
    (h : Group.of c ≠ g) : (s.modesOf g).lookup c = none := by
  refine List.lookup_eq_none_iff.mpr fun entry hentry => ?_
  have hmem : entry.1 ∈ g.channels := by
    rw [← s.modesOf_channels g]
    exact List.mem_map_of_mem hentry
  have hne : c ≠ entry.1 := fun heq =>
    h (Group.mem_channels.mp (heq ▸ hmem))
  simpa using hne

theorem exists_lookup_modesOf (s : State) (c : Channel) :
    ∃ mode, (s.modesOf (Group.of c)).lookup c = some mode := by
  cases hl : (s.modesOf (Group.of c)).lookup c with
  | some mode => exact ⟨mode, rfl⟩
  | none =>
      have hmem : c ∈ (s.modesOf (Group.of c)).map (·.1) := by
        rw [modesOf_channels]
        exact Group.mem_channels.mpr rfl
      obtain ⟨entry, hentry, rfl⟩ := List.mem_map.mp hmem
      simpa using List.lookup_eq_none_iff.mp hl entry hentry

/-! ## Painting -/

/-- Painting replaces nothing but the table. -/
theorem paint_eq (s : State) (g : Group) :
    s.paint g = { s with table := (s.paint g).table } := by
  unfold paint
  split <;> rfl

theorem modesOf_paint (s : State) (g g' : Group) :
    (s.paint g).modesOf g' = s.modesOf g' := by
  rw [paint_eq]
  rfl

theorem paints_paint (s : State) (g : Group) :
    (s.paint g).paints = s.paints := by
  rw [paint_eq]
  rfl

/-- Painting a group gives its channels the modes of its rule, while the
rules paint, and leaves the others. -/
theorem mode_paint (s : State) (g : Group) (c : Channel) :
    some ((s.paint g).table.node c).mode
      = if s.paints ∧ Group.of c = g then (s.modesOf g).lookup c
        else some (s.table.node c).mode := by
  by_cases hp : s.paints = true
  · have hnd : ((s.modesOf g).map (·.1)).Nodup := by
      rw [modesOf_channels]
      exact g.nodup_channels
    have htable : (s.paint g).table = s.table.apply (s.modesOf g) := by
      simp [paint, hp]
    rw [htable, Led.Table.mode_apply hnd]
    by_cases hg : Group.of c = g
    · subst hg
      obtain ⟨mode, hmode⟩ := s.exists_lookup_modesOf c
      simp [hp, hmode]
    · simp [hg, lookup_modesOf hg]
  · simp [paint, hp]

/-- The same before a long press, when only the switch of the LEDs keeps
the rules from painting. -/
theorem mode_paint_of_running {s : State} (hs : s.shuttingDown = false)
    (g : Group) (c : Channel) :
    some ((s.paint g).table.node c).mode
      = if s.ledEnabled ∧ Group.of c = g then
          ((s.paint g).modesOf (Group.of c)).lookup c
        else some (s.table.node c).mode := by
  have hp : s.paints = s.ledEnabled := by simp [paints, hs]
  rw [mode_paint, modesOf_paint, hp]
  by_cases hg : Group.of c = g
  · rw [hg]
  · simp [hg]

theorem paintAll_eq (s : State) :
    s.paintAll = { s with table := s.paintAll.table } := by
  unfold paintAll
  rw [paint_eq _ .wifi, paint_eq _ .battery, paint_eq _ .network]

theorem modesOf_paintAll (s : State) (g : Group) :
    s.paintAll.modesOf g = s.modesOf g := by
  rw [paintAll_eq]
  rfl

/-- Painting everything gives every channel the mode of its rule, while
the rules paint. -/
theorem mode_paintAll (s : State) (c : Channel) :
    some (s.paintAll.table.node c).mode
      = if s.paints then (s.modesOf (Group.of c)).lookup c
        else some (s.table.node c).mode := by
  unfold paintAll
  rw [mode_paint, mode_paint, mode_paint]
  simp only [paints_paint, modesOf_paint]
  cases s.paints with
  | false => simp
  | true => cases hg : Group.of c <;> simp

/-- What a refresh replaces besides the table. -/
theorem refresh_eq (s : State) (around : Surroundings) :
    (s.refresh around).1
      = { s with
          table := (s.refresh around).1.table
          status := seen around
          refreshes := s.refreshes + 1 } :=
  paintAll_eq _

/-- A refresh gives every channel the mode of its rule, while the rules
paint. -/
theorem mode_refresh (s : State) (around : Surroundings) (c : Channel) :
    some ((s.refresh around).1.table.node c).mode
      = if s.paints then
          ((s.refresh around).1.modesOf (Group.of c)).lookup c
        else some (s.table.node c).mode := by
  unfold refresh
  rw [modesOf_paintAll]
  exact mode_paintAll _ c

end State

/-! ## Messages -/

namespace Message

/-- The status after a message. -/
def statusAfter (m : Message) (around : Surroundings) (d : DeviceStatus) :
    DeviceStatus :=
  match m with
  | .battery r =>
      { d with batteryCapacity := r.capacity
               batteryCharging := some r.isCharging }
  | .network n => { d with network := n.state, is5g := n.is5g }
  | .wifi alive => { d with wifiRunning := some alive }
  | .command .refresh => State.seen around
  | .command _ => d

/-- The policy after a message. -/
def policyAfter (m : Message) (p : WifiPolicy) : WifiPolicy :=
  match m with
  | .command (.setWifiPolicy wanted) => wanted
  | _ => p

/-- The number of refreshes after a message. -/
def refreshesAfter (m : Message) (n : Nat) : Nat :=
  match m with
  | .command .refresh => n + 1
  | _ => n

/-- Whether a message has a group recomputed, LEDs and shutdown
permitting. -/
def recomputes : Message → Group → Bool
  | .battery _, g => g = .battery
  | .network _, g => g = .network
  | .wifi _, g => g = .wifi
  | .command .refresh, _ => true
  | .command (.setWifiPolicy _), g => g = .wifi
  | .command _, _ => false

/-- The mode that a message orders for a channel by hand. -/
def orders : Message → Channel → Option Mode
  | .command (.setMode d mode), c => if d = c then some mode else none
  | .command .allOff, _ => some .off
  | _, _ => none

end Message

namespace State

theorem unlessShutdown_eq (s : State) (table : Led.Table) :
    (if s.shuttingDown then s else { s with table })
      = { s with table :=
            (if s.shuttingDown then s else { s with table }).table } := by
  split <;> rfl

/-- What a message replaces besides the table. -/
theorem handle_eq (s : State) (around : Surroundings) (m : Message) :
    (s.handle around m).1
      = { s with
          table := (s.handle around m).1.table
          status := m.statusAfter around s.status
          wifiPolicy := m.policyAfter s.wifiPolicy
          refreshes := m.refreshesAfter s.refreshes } := by
  cases m with
  | battery r => exact paint_eq _ _
  | network n => exact paint_eq _ _
  | wifi alive => exact paint_eq _ _
  | command c =>
      cases c with
      | setMode c mode => exact unlessShutdown_eq s _
      | setBrightness c b => rfl
      | allOff => exact unlessShutdown_eq s _
      | refresh => exact refresh_eq s around
      | setWifiPolicy p => exact paint_eq _ _

/-- A message that does not have a group recomputed does not touch what
the group's rule reads. -/
theorem modesOf_handle {s : State} {around : Surroundings} {m : Message}
    {g : Group} (h : m.recomputes g = false) :
    (s.handle around m).1.modesOf g = s.modesOf g := by
  rw [handle_eq]
  cases m with
  | battery r => cases g <;> first | rfl | simp [Message.recomputes] at h
  | network n => cases g <;> first | rfl | simp [Message.recomputes] at h
  | wifi alive => cases g <;> first | rfl | simp [Message.recomputes] at h
  | command c =>
      cases c with
      | setMode c mode => cases g <;> rfl
      | setBrightness c b => cases g <;> rfl
      | allOff => cases g <;> rfl
      | refresh => simp [Message.recomputes] at h
      | setWifiPolicy p =>
          cases g <;> first | rfl | simp [Message.recomputes] at h

/-- The mode of a channel after a message: what the rules give, if the
message has them recomputed and they paint; else what the message orders
for it, if anything; else the mode it had. -/
theorem mode_handle {s : State} (hs : s.shuttingDown = false)
    (around : Surroundings) (m : Message) (c : Channel) :
    some ((s.handle around m).1.table.node c).mode
      = if s.ledEnabled ∧ m.recomputes (Group.of c) then
          ((s.handle around m).1.modesOf (Group.of c)).lookup c
        else (m.orders c).or (some (s.table.node c).mode) := by
  cases m with
  | battery r =>
      simp only [Message.recomputes, Message.orders, decide_eq_true_eq]
      refine mode_paint_of_running ?_ .battery c
      exact hs
  | network n =>
      simp only [Message.recomputes, Message.orders, decide_eq_true_eq]
      refine mode_paint_of_running ?_ .network c
      exact hs
  | wifi alive =>
      simp only [Message.recomputes, Message.orders, decide_eq_true_eq]
      refine mode_paint_of_running ?_ .wifi c
      exact hs
  | command cmd =>
      cases cmd with
      | setMode d mode =>
          simp only [handle, obey, hs, Message.recomputes, Message.orders,
            Bool.false_eq_true, and_false, if_false]
          rw [Led.Table.mode_setMode]
          split <;> rfl
      | setBrightness d b =>
          simp only [handle, obey, Message.recomputes, Message.orders,
            Bool.false_eq_true, and_false, if_false]
          rw [Led.Table.mode_setBrightness]
          rfl
      | allOff =>
          simp only [handle, obey, hs, Message.recomputes, Message.orders,
            Bool.false_eq_true, and_false, if_false]
          rw [Led.Table.mode_allOff]
          rfl
      | refresh =>
          have hp : s.paints = s.ledEnabled := by simp [paints, hs]
          simp only [Message.recomputes, Message.orders, and_true, ← hp]
          exact mode_refresh s around c
      | setWifiPolicy p =>
          simp only [Message.recomputes, Message.orders, decide_eq_true_eq]
          refine mode_paint_of_running ?_ .wifi c
          exact hs

/-! ## Keys -/

/-- A press completes a double click or arms the long-press timer. -/
theorem onDown_cases (c : PowerKey.Classifier) (time : Nat) :
    (∃ c', c.onDown time = (c', .emit .doubleClick))
      ∨ ∃ c', c.onDown time = (c', .arm (time + c.timing.longPress)) := by
  unfold PowerKey.Classifier.onDown
  dsimp only
  split
  · split
    · exact Or.inl ⟨_, rfl⟩
    · exact Or.inr ⟨_, rfl⟩
  · split
    · exact Or.inl ⟨_, rfl⟩
    · exact Or.inr ⟨_, rfl⟩

/-- Whether a key event completes a double click. -/
def clicksTwice (s : State) (k : KeyEvent) : Bool :=
  s.shutdownAt.isNone && k.transition = .down
    && (s.classifier.onDown k.time).2 = .emit .doubleClick

/-- A press or a release completes a double click, or it changes nothing
but the classifier and the long-press timer. -/
theorem key_cases (s : State) (around : Surroundings) (k : KeyEvent) :
    (s.clicksTwice k = true ∧ ∃ classifier, s.key around k
        = { s with classifier, longPressAt := none }.doubleClick around)
      ∨ (s.clicksTwice k = false ∧ ∃ classifier longPressAt,
          s.key around k = ({ s with classifier, longPressAt }, [])) := by
  obtain ⟨transition, time⟩ := k
  cases hd : s.shutdownAt with
  | some deadline =>
      refine Or.inr ⟨by simp [clicksTwice, hd], s.classifier, s.longPressAt, ?_⟩
      simp only [key, hd, Option.isSome_some, if_true]
      rw [← hd]
  | none =>
      cases transition with
      | up =>
          refine Or.inr ⟨by simp [clicksTwice], (s.classifier.onUp time).1,
            none, ?_⟩
          simp [key, hd, PowerKey.Classifier.onUp]
      | down =>
          obtain ⟨classifier, hdown⟩ | ⟨classifier, hdown⟩ :=
            onDown_cases s.classifier time
          · refine Or.inl ⟨by simp [clicksTwice, hd, hdown], classifier, ?_⟩
            simp [key, hd, hdown]
          · refine Or.inr ⟨by simp [clicksTwice, hdown], classifier,
              some (time + s.classifier.timing.longPress), ?_⟩
            simp [key, hd, hdown]

/-- A double click on LEDs that are on switches them off. -/
theorem doubleClick_off {s : State} (h : s.ledEnabled = true)
    (around : Surroundings) :
    (s.doubleClick around).1
      = { s with ledEnabled := false, table := s.table.allOff } := by
  simp [doubleClick, h]

/-- A double click on LEDs that are off switches them on and refreshes. -/
theorem doubleClick_on {s : State} (h : s.ledEnabled = false)
    (around : Surroundings) :
    (s.doubleClick around).1
      = ({ s with ledEnabled := true }.refresh around).1 := by
  simp [doubleClick, h]

/-- What a double click replaces besides the table. -/
theorem doubleClick_eq (s : State) (around : Surroundings) :
    (s.doubleClick around).1
      = { s with
          table := (s.doubleClick around).1.table
          status := (s.doubleClick around).1.status
          refreshes := (s.doubleClick around).1.refreshes
          ledEnabled := !s.ledEnabled } := by
  cases h : s.ledEnabled with
  | true => rw [doubleClick_off h, Bool.not_true]
  | false => rw [doubleClick_on h, refresh_eq, Bool.not_false]

/-- What a key event replaces: nothing that a shutdown is concerned with. -/
theorem key_eq (s : State) (around : Surroundings) (k : KeyEvent) :
    (s.key around k).1
      = { s with
          table := (s.key around k).1.table
          status := (s.key around k).1.status
          refreshes := (s.key around k).1.refreshes
          ledEnabled := (s.key around k).1.ledEnabled
          classifier := (s.key around k).1.classifier
          longPressAt := (s.key around k).1.longPressAt } := by
  rcases s.key_cases around k with
    ⟨-, classifier, hkey⟩ | ⟨-, classifier, longPressAt, hkey⟩
  · rw [hkey, doubleClick_eq]
  · rw [hkey]

/-! ## What steps want of the rest -/

/-- A message has nothing published but the status. -/
theorem effects_handle {s : State} {around : Surroundings} {m : Message}
    {e : Effect} (h : e ∈ (s.handle around m).2) :
    ∃ d, e = .publish (.statusChanged d) := by
  have hreport : ∀ {d g}, e ∈ (s.report d g).2 →
      ∃ d, e = .publish (.statusChanged d) := by
    intro d g h
    unfold report at h
    split at h
    · cases h
    · exact ⟨d, List.mem_singleton.mp h⟩
  unfold handle at h
  cases m with
  | battery r => exact hreport h
  | network n => exact hreport h
  | wifi alive => exact hreport h
  | command c =>
      unfold obey refresh at h
      cases c with
      | refresh => exact ⟨_, List.mem_singleton.mp h⟩
      | _ => cases h

/-- A double click has nothing else published but the status. -/
theorem effects_doubleClick {s : State} {around : Surroundings} {e : Effect}
    (h : e ∈ (s.doubleClick around).2) :
    (∃ d, e = .publish (.statusChanged d))
      ∨ e = .publish (.gesture .doubleClick) := by
  unfold doubleClick refresh at h
  split at h
  · exact Or.inr (List.mem_singleton.mp h)
  · rcases List.mem_append.mp h with h | h
    · exact Or.inl ⟨_, List.mem_singleton.mp h⟩
    · exact Or.inr (List.mem_singleton.mp h)

/-- No key event issues the shutdown or announces a long press. -/
theorem effects_key {s : State} {around : Surroundings} {k : KeyEvent}
    {e : Effect} (h : e ∈ (s.key around k).2) :
    (∃ d, e = .publish (.statusChanged d))
      ∨ e = .publish (.gesture .doubleClick) := by
  rcases s.key_cases around k with
    ⟨-, classifier, hkey⟩ | ⟨-, classifier, longPressAt, hkey⟩
  · rw [hkey] at h
    exact effects_doubleClick h
  · rw [hkey] at h
    cases h

end State

/-! ## Runs -/

/-- A step of a run: the state it began in, what the loop saw then, and
the input it took. -/
structure Moment where
  before : State
  around : Surroundings
  input : Input

/-- The steps that were taken, latest first. -/
abbrev History := List Moment

/-- From its first state the loop has come to another by the steps of a
history. Inputs and surroundings are free, so every schedule of
messages, keys and timers is among the runs. -/
inductive Run (first : State) : History → State → Prop
  | start : Run first [] first
  | step {past : History} {s : State} (around : Surroundings)
      (input : Input) (run : Run first past s) :
      Run first (⟨s, around, input⟩ :: past) (s.step around input).1

/-- The state after a step. -/
def Moment.after (m : Moment) : State := (m.before.step m.around m.input).1

/-- What a step wanted of the rest of the daemon. -/
def Moment.effects (m : Moment) : List Effect :=
  (m.before.step m.around m.input).2

/-- The latest step of a run. -/
theorem Run.of_cons {first s : State} {past : History} {x : Moment}
    (run : Run first (x :: past) s) :
    Run first past x.before ∧ s = x.after := by
  cases run with
  | step around input run => exact ⟨run, rfl⟩

/-- The history up to a step leads to the state in which it began. -/
theorem Run.before {first s : State} {later past : History} {x : Moment}
    (run : Run first (later ++ x :: past) s) : Run first past x.before := by
  induction later generalizing s with
  | nil => exact run.of_cons.1
  | cons y rest ih => exact ih run.of_cons.1

/-- Whether the timer had run out, if the step was one's. -/
def Moment.due (m : Moment) : Bool :=
  match m.input with
  | .longPress => m.before.longPressAt.any (· ≤ m.around.now)
  | .countdown => m.before.shutdownAt.any (· ≤ m.around.now)
  | _ => true

/-- Whether no timer fired before its time. -/
def History.punctual (h : History) : Bool := h.all Moment.due

theorem History.punctual_cons {m : Moment} {past : History} :
    History.punctual (m :: past) = true
      ↔ m.due = true ∧ past.punctual = true := by
  simp [punctual]

theorem History.punctual_of_append {later past : History}
    (h : History.punctual (later ++ past) = true) :
    past.punctual = true := by
  rw [punctual, List.all_append, Bool.and_eq_true] at h
  exact h.2

/-! ## Turns -/

/-- The messages that an input takes from those that wait. -/
def Input.taken : Input → List Message
  | .message m => [m]
  | _ => []

namespace Task

/-- The input that comes next is a key event or a message that waited, or
a timer that has run out. -/
theorem nextInput?_cases {t rest : Task} {ticker : Ticker}
    {around : Surroundings} {input : Input}
    (h : t.nextInput? ticker around.now = some (input, rest)) :
    rest.state = t.state
      ∧ (⟨t.state, around, input⟩ : Moment).due = true
      ∧ t.messages = input.taken ++ rest.messages := by
  unfold nextInput? at h
  split at h
  case h_1 =>
    cases h
    exact ⟨rfl, rfl, rfl⟩
  case h_2 m messages hkeys hmessages =>
    cases h
    exact ⟨rfl, rfl, hmessages⟩
  case h_3 hkeys hmessages =>
    split at h
    · cases h
      exact ⟨rfl, rfl, rfl⟩
    split at h
    case isTrue hdue =>
      cases h
      exact ⟨rfl, hdue, rfl⟩
    split at h
    case isTrue hdue =>
      cases h
      exact ⟨rfl, hdue, rfl⟩
    case isFalse => cases h

/-- A turn takes a loop that was asked to stop to its end, or it is a step
with an input that waited or was due. -/
theorem turn?_cases {t t' : Task} {around : Surroundings}
    {effects : List Effect} (h : t.turn? around = some (t', effects)) :
    (t.cancelled = true ∧ t'.takes = false)
      ∨ ∃ input, (t'.state, effects) = t.state.step around input
        ∧ (⟨t.state, around, input⟩ : Moment).due = true
        ∧ t.messages = input.taken ++ t'.messages := by
  unfold turn? at h
  split at h
  case h_1 ticker hphase =>
    split at h
    case isTrue hcancel =>
      obtain ⟨rfl, -⟩ := Prod.mk.inj (Option.some.inj h)
      exact Or.inl ⟨hcancel, rfl⟩
    case isFalse hcancel =>
      obtain ⟨⟨input, rest⟩, hin, heq⟩ := Option.map_eq_some_iff.mp h
      obtain ⟨hstate, hdue, hmessages⟩ := nextInput?_cases hin
      obtain ⟨rfl, rfl⟩ := Prod.mk.inj heq
      refine Or.inr ⟨input, ?_, hdue, hmessages⟩
      exact congrArg (·.step around input) hstate
  case h_2 => cases h

/-- A turn of a loop that was not asked to stop is a step, and a timer's
only if it has run out. -/
theorem turn?_running {t t' : Task} {around : Surroundings}
    {effects : List Effect} (hcancel : t.cancelled = false)
    (h : t.turn? around = some (t', effects)) :
    ∃ input, (t'.state, effects) = t.state.step around input
      ∧ (⟨t.state, around, input⟩ : Moment).due = true := by
  rcases turn?_cases h with ⟨hstop, -⟩ | ⟨input, hstep, hdue, -⟩
  · rw [hcancel] at hstop
    cases hstop
  · exact ⟨input, hstep, hdue⟩

end Task

end Gateway.Loop
