import Gateway.Proofs.Battery.Reading
import Gateway.Proofs.Loop.Countdown
import Gateway.Proofs.Loop.Modes
import Gateway.Proofs.Loop.Reports
import Gateway.Modem.Fault

/-!
# What observers learn of the status

Observers know the status from what the loop announces. This file shows
that they are never behind and hear little twice:

- **one step** (`Moment.tells`): a step refreshes and announces what it
  saw, or it notes the report that it takes and announces the status just
  if that changed it. Everything below is read off these two cases.
- **runs** (`head?_announced_run`): what was announced last is the status,
  so only a refresh can announce the same once more.
- **coherence** (`Coherent`): as long as what comes in was measured, the
  status does not know the technology of a network it knows nothing of,
  and no capacity exceeds 100.
-/

namespace Gateway.Loop

/-! ## Announcements -/

/-- The status that an effect announces. -/
def Effect.status? : Effect → Option DeviceStatus
  | .publish (.statusChanged d) => some d
  | _ => none

namespace Moment

/-- The statuses that the step announced. -/
def announced (m : Moment) : List DeviceStatus :=
  m.effects.filterMap Effect.status?

/-- Whether the step refreshed: a command asked for it, or a double click
switched the LEDs on. -/
def refreshed (m : Moment) : Bool :=
  m.input = .message (.command .refresh) || m.switchesOn

end Moment

/-- The statuses that were announced, latest first. -/
def History.announced (h : History) : List DeviceStatus :=
  h.effects.filterMap Effect.status?

theorem History.announced_cons (m : Moment) (past : History) :
    History.announced (m :: past) = m.announced ++ past.announced := by
  simp [announced, effects, Moment.announced]

/-! ## One step -/

namespace Moment

/-- The step announced its status only if that is news. -/
def AnnouncesNews (m : Moment) : Prop :=
  m.announced = if m.after.status = m.before.status then []
    else [m.after.status]

theorem announcesNews_of_silent {m : Moment}
    (hsame : m.after.status = m.before.status) (hsilent : m.announced = []) :
    m.AnnouncesNews := by
  rw [AnnouncesNews, if_pos hsame, hsilent]

theorem announced_report (s : State) (d : DeviceStatus) (g : Group) :
    (s.report d g).2.filterMap Effect.status?
      = if d = s.status then [] else [d] := by
  unfold State.report
  split <;> simp [Effect.status?]

theorem refreshed_key (s : State) (around : Surroundings) (k : KeyEvent) :
    (⟨s, around, .key k⟩ : Moment).refreshed
      = (!s.ledEnabled && s.clicksTwice k) := by
  simp [refreshed, switchesOn]

/-- A key event refreshes, or it leaves the status and announces nothing. -/
theorem tells_key {m : Moment} {k : KeyEvent} (hk : m.input = .key k) :
    (m.refreshed = true ∧ m.after.status = State.seen m.around
        ∧ m.announced = [State.seen m.around])
      ∨ (m.refreshed = false ∧ m.after.status = m.before.status
        ∧ m.announced = []) := by
  obtain ⟨s, around, input⟩ := m
  obtain rfl : input = .key k := hk
  unfold after announced effects
  rw [refreshed_key, State.step]
  rcases s.key_cases around k with
    ⟨htwice, classifier, hkey⟩ | ⟨htwice, classifier, longPressAt, hkey⟩
  · rw [hkey, htwice]
    cases hled : s.ledEnabled with
    | true =>
        refine Or.inr ⟨rfl, ?_, ?_⟩
        · rw [State.doubleClick_off rfl]
        · rfl
    | false =>
        refine Or.inl ⟨rfl, ?_, ?_⟩
        · rw [State.doubleClick_on rfl, State.refresh_eq]
        · rfl
  · rw [hkey, htwice, Bool.and_false]
    exact Or.inr ⟨rfl, rfl, rfl⟩

/-- A step refreshes and announces what it saw; or it notes the report that
it takes, if any, and announces news. -/
theorem tells (m : Moment) :
    (m.refreshed = true ∧ m.after.status = State.seen m.around
        ∧ m.announced = [m.after.status])
      ∨ (m.refreshed = false
        ∧ m.after.status = m.input.taken.foldl noted m.before.status
        ∧ m.AnnouncesNews) := by
  obtain ⟨s, around, input⟩ := m
  cases input with
  | key k =>
      rcases tells_key (m := ⟨s, around, .key k⟩) rfl with
        ⟨hrefreshed, hstatus, htold⟩ | ⟨hrefreshed, hstatus, htold⟩
      · exact Or.inl ⟨hrefreshed, hstatus, by rw [htold, hstatus]⟩
      · exact Or.inr ⟨hrefreshed, hstatus, announcesNews_of_silent hstatus htold⟩
  | message msg =>
      have hafter : (⟨s, around, .message msg⟩ : Moment).after.status
          = msg.statusAfter around s.status :=
        congrArg State.status (s.handle_eq around msg)
      have hnews : ∀ {d g}, s.handle around msg = s.report d g →
          msg.statusAfter around s.status = d →
          (⟨s, around, .message msg⟩ : Moment).AnnouncesNews := by
        intro d g hreport hd
        rw [AnnouncesNews, hafter, hd, announced, effects, State.step,
          hreport]
        exact announced_report s d g
      cases msg with
      | battery r => exact Or.inr ⟨rfl, hafter, hnews rfl rfl⟩
      | network n => exact Or.inr ⟨rfl, hafter, hnews rfl rfl⟩
      | wifi alive => exact Or.inr ⟨rfl, hafter, hnews rfl rfl⟩
      | command c =>
          have hsilent : s.handle around (.command c)
                = ((s.handle around (.command c)).1, []) →
              Message.statusAfter (.command c) around s.status = s.status →
              (⟨s, around, .message (.command c)⟩ : Moment).AnnouncesNews := by
            intro hhandle hsame
            refine announcesNews_of_silent (hafter.trans hsame) ?_
            rw [announced, effects, State.step, hhandle]
            rfl
          cases c with
          | refresh => exact Or.inl ⟨rfl, hafter, by rw [hafter]; rfl⟩
          | setMode c mode => exact Or.inr ⟨rfl, hafter, hsilent rfl rfl⟩
          | setBrightness c b => exact Or.inr ⟨rfl, hafter, hsilent rfl rfl⟩
          | allOff => exact Or.inr ⟨rfl, hafter, hsilent rfl rfl⟩
          | setWifiPolicy p => exact Or.inr ⟨rfl, hafter, hsilent rfl rfl⟩
  | renderTick =>
      have hafter : (⟨s, around, .renderTick⟩ : Moment).after.status
          = s.status := by
        rw [after, State.step, State.renderTick]
      exact Or.inr ⟨rfl, hafter, announcesNews_of_silent hafter rfl⟩
  | longPress =>
      have hafter : (⟨s, around, .longPress⟩ : Moment).after.status
          = s.status := by
        rw [after, State.step, State.longPress]
      exact Or.inr ⟨rfl, hafter, announcesNews_of_silent hafter rfl⟩
  | countdown =>
      have hafter : (⟨s, around, .countdown⟩ : Moment).after.status
          = s.status := by
        rw [after, State.step, State.countedDown]
      exact Or.inr ⟨rfl, hafter, announcesNews_of_silent hafter rfl⟩

theorem announced_of_refreshed {m : Moment} (h : m.refreshed = true) :
    m.announced = [m.after.status] := by
  rcases m.tells with ⟨-, -, htold⟩ | ⟨hno, -, -⟩
  · exact htold
  · rw [h] at hno
    cases hno

/-- What was announced last, or else the status at first, stays the present
status. -/
theorem head?_announced {m : Moment} {last : Option DeviceStatus}
    {first : DeviceStatus} (h : last.getD first = m.before.status) :
    (m.announced.head?.or last).getD first = m.after.status := by
  rcases m.tells with ⟨-, -, htold⟩ | ⟨-, -, hnews⟩
  · simp [htold]
  · rw [hnews]
    split
    case isTrue hsame => simpa [hsame] using h
    case isFalse => rfl

/-- A step that does not refresh announces a status only to replace
another. -/
theorem ne_of_mem_announced {m : Moment} {d : DeviceStatus}
    (hd : d ∈ m.announced) (hrefreshed : m.refreshed = false) :
    d ≠ m.before.status := by
  rcases m.tells with ⟨hyes, -, -⟩ | ⟨-, -, hnews⟩
  · rw [hrefreshed] at hyes
    cases hyes
  · rw [hnews] at hd
    split at hd
    case isTrue => cases hd
    case isFalse hchanged =>
      rw [List.mem_singleton.mp hd]
      exact hchanged

end Moment

/-! ## Runs -/

theorem head?_announced_run {first s : State} {h : History}
    (run : Run first h s) :
    h.announced.head?.getD first.status = s.status := by
  induction run with
  | start => rfl
  | step around input run ih =>
      rw [History.announced_cons, List.head?_append]
      exact Moment.head?_announced ih

theorem status_begin (settings : Settings) (output : Led.Output) :
    (State.new settings output).begin.status = .unknown := by
  rw [State.begin, State.paintAll_eq]
  rfl

/-! ## Coherence -/

/-- The status does not know the technology of a network it knows nothing
of, and its capacity is a percentage. -/
structure Coherent (d : DeviceStatus) : Prop where
  network : d.network = .unknown ↔ d.is5g = none
  capacity : ∀ capacity, d.batteryCapacity = some capacity → capacity ≤ 100

/-- What is said of the network is the outcome of a poll, and what is said
of the battery was read off some text. -/
def Message.Measured : Message → Prop
  | .network n =>
      ∃ poll : Except Modem.CommandFault Network.Reading, n = .classify poll
  | .battery r => ∃ text, r = .parse text
  | .wifi _ | .command _ => True

/-- What the step was told and saw was measured. What the charge monitor
hands out always is (`Monitor.exists_text_of_current`). -/
structure Moment.Measured (m : Moment) : Prop where
  told : ∀ msg ∈ m.input.taken, msg.Measured
  seen : ∃ text, m.around.battery = .parse text

theorem unknown_iff_of_classify {ε : Type} (poll : Except ε Network.Reading) :
    (Network.Sample.classify poll).state = .unknown
      ↔ (Network.Sample.classify poll).is5g = none := by
  cases poll with
  | error fault => exact iff_of_true rfl rfl
  | ok r =>
      refine iff_of_false ?_ (Option.some_ne_none r.is5g)
      cases hr : r.isConnected <;> simp [Network.Sample.classify, hr]

theorem coherent_seen {m : Moment} (measured : m.Measured) :
    Coherent (State.seen m.around) := by
  obtain ⟨text, htext⟩ := measured.seen
  refine ⟨iff_of_true rfl rfl, fun capacity h => ?_⟩
  rw [State.seen, htext] at h
  exact Battery.Reading.modest_parse text capacity h

theorem Coherent.step {m : Moment} (measured : m.Measured)
    (h : Coherent m.before.status) : Coherent m.after.status := by
  rcases m.tells with ⟨-, hstatus, -⟩ | ⟨-, hstatus, -⟩
  · rw [hstatus]
    exact coherent_seen measured
  · rw [hstatus]
    obtain ⟨s, around, input⟩ := m
    cases input with
    | message msg =>
        have htold := measured.told msg (List.mem_singleton_self msg)
        cases msg with
        | battery r =>
            obtain ⟨text, rfl⟩ := htold
            exact ⟨h.network, Battery.Reading.modest_parse text⟩
        | network n =>
            obtain ⟨poll, rfl⟩ := htold
            exact ⟨unknown_iff_of_classify poll, h.capacity⟩
        | wifi alive => exact ⟨h.network, h.capacity⟩
        | command c => exact h
    | key k => exact h
    | renderTick => exact h
    | longPress => exact h
    | countdown => exact h

theorem coherent_run {settings : Settings} {output : Led.Output}
    {h : History} {s : State}
    (run : Run (State.new settings output).begin h s)
    (measured : ∀ m ∈ h, m.Measured) : Coherent s.status := by
  induction run with
  | start =>
      rw [status_begin]
      exact ⟨iff_of_true rfl rfl, nofun⟩
  | step around input run ih =>
      obtain ⟨hlast, hpast⟩ := List.forall_mem_cons.mp measured
      exact (ih hpast).step hlast

/-- Along every run, whatever messages, keys, ticks and timers come:

- what was announced last is the present status, or nothing was announced
  and nothing is known;
- a step that announces again what was announced last refreshes;
- if what the loop was told and saw was measured, the network is unknown
  just when its technology is, and a capacity that is known is at most
  100. -/
theorem status_observed {settings : Settings} {output : Led.Output}
    {h : History} {s : State}
    (run : Run (State.new settings output).begin h s) :
    h.announced.head?.getD .unknown = s.status
    ∧ (∀ later m (past : History) d, h = later ++ m :: past →
        d ∈ m.announced → past.announced.head? = some d → m.refreshed = true)
    ∧ ((∀ m ∈ h, m.Measured) →
        (s.status.network = .unknown ↔ s.status.is5g = none)
        ∧ ∀ capacity, s.status.batteryCapacity = some capacity →
            capacity ≤ 100) := by
  have hbegun := status_begin settings output
  refine ⟨hbegun ▸ head?_announced_run run, ?_, ?_⟩
  · intro later m past d heq hd hlast
    subst heq
    have hbefore := head?_announced_run run.before
    rw [hlast, Option.getD_some] at hbefore
    cases hrefreshed : m.refreshed with
    | true => rfl
    | false => exact absurd hbefore (m.ne_of_mem_announced hd hrefreshed)
  · intro measured
    have coherent := coherent_run run measured
    exact ⟨coherent.network, coherent.capacity⟩

/-- After a report of the network, two refreshes while the battery's file
claims 250 percent: the second announces what the first did. -/
theorem status_observed_again :
    ∃ (m : Moment) (past : History) (s : State),
      Run (State.new Settings.initial .accepting).begin (m :: past) s
      ∧ (∀ x ∈ m :: past, x.Measured)
      ∧ s.status ∈ m.announced ∧ past.announced.head? = some s.status
      ∧ m.refreshed = true ∧ past.announced.getLast? ≠ some s.status
      ∧ s.status.is5g = none ∧ s.status.batteryCapacity = some 100 := by
  let text := "POWER_SUPPLY_CAPACITY=250".toList
  let around : Surroundings := ⟨0, .parse text, true⟩
  let poll : Except Modem.CommandFault Network.Reading := .ok ⟨40, "NR"⟩
  let begun := (State.new Settings.initial .accepting).begin
  let told : Moment := ⟨begun, around, .message (.network (.classify poll))⟩
  let once : Moment := ⟨told.after, around, .message (.command .refresh)⟩
  let twice : Moment := ⟨once.after, around, .message (.command .refresh)⟩
  have run : Run begun [twice, once, told] twice.after :=
    ((Run.start.step around told.input).step around once.input).step around
      twice.input
  have measured : ∀ x ∈ [twice, once, told], x.Measured := by
    have hmeasured : ∀ s msg, Message.Measured msg →
        (⟨s, around, .message msg⟩ : Moment).Measured := fun s msg hmsg =>
      ⟨List.forall_mem_singleton.mpr hmsg, text, rfl⟩
    simp only [List.forall_mem_cons]
    exact ⟨hmeasured _ _ trivial, hmeasured _ _ trivial,
      hmeasured _ _ ⟨poll, rfl⟩, List.forall_mem_nil _⟩
  obtain ⟨-, hagain, hcoherent⟩ := status_observed run
  obtain ⟨hnetwork, -⟩ := hcoherent measured
  have htwice : twice.after.status ∈ twice.announced := by
    rw [Moment.announced_of_refreshed rfl]
    exact List.mem_singleton_self _
  have honce : (History.announced [once, told]).head?
      = some twice.after.status := by decide +kernel
  exact ⟨twice, [once, told], twice.after, run, measured, htwice, honce,
    hagain [] twice _ _ rfl htwice honce, by decide +kernel,
    hnetwork.mp (by decide +kernel), by decide +kernel⟩

end Gateway.Loop
