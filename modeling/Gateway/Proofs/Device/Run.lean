import Gateway.Config.Document
import Gateway.Proofs.Device.Act

/-!
# Runs of the device

A run is any interleaving of acts, and keeps its history. Every step that
the device takes by itself is among them (`leads_step?`), so what holds of
all runs holds whatever the schedule.
-/

namespace Gateway.Device

/-! ## Runs -/

/-- An act of a run, with the device before it. -/
structure Moment where
  before : Device
  act : Act

/-- The acts of a run, latest first. -/
abbrev History := List Moment

/-- From its first state the device has come to another by the acts of a
history. -/
inductive Run (first : Device) : History → Device → Prop
  | start : Run first [] first
  | step {past : History} {d d' : Device} (a : Act)
      (run : Run first past d) (h : d.act? a = some d') :
      Run first (⟨d, a⟩ :: past) d'

/-- The device after acts in a row, if each can happen in its turn. -/
def acts? (d : Device) : List Act → Option Device
  | [] => some d
  | a :: rest => (d.act? a).bind fun d => d.acts? rest

theorem Run.acts? {first d d' : Device} {past : History} {acts : List Act}
    (run : Run first past d) (h : d.acts? acts = some d') :
    ∃ later, Run first (later ++ past) d' := by
  induction acts generalizing d past with
  | nil =>
      obtain rfl := Option.some.inj h
      exact ⟨[], run⟩
  | cons a rest ih =>
      obtain ⟨d₁, hact, hrest⟩ := Option.bind_eq_some_iff.mp h
      obtain ⟨later, run'⟩ := ih (run.step a hact) hrest
      exact ⟨later ++ [⟨d, a⟩], by rwa [List.append_assoc]⟩

/-- A device with nothing behind it: no file, a modem without prepared
answers, LEDs that accept everything. -/
def quiet : Parts where
  files := .empty
  store := ⟨.builtIn, ConfigStore.standardPath⟩
  output := .accepting
  modem := .empty
  runner := .always .broken
  bus := .absent
  kernelEvents := true
  version := ""

/-- Acts that can be computed are a run. -/
theorem exists_run (first : Device) (acts : List Act) (P : Device → Prop)
    [DecidablePred P]
    (h : (first.acts? acts).any (fun d => decide (P d)) = true) :
    ∃ past d, Run first past d ∧ P d := by
  cases hacts : first.acts? acts with
  | none =>
      rw [hacts] at h
      cases h
  | some d =>
      rw [hacts] at h
      obtain ⟨later, run⟩ := Run.start.acts? hacts
      exact ⟨_, d, run, of_decide_eq_true h⟩

/-! ## Steps that the device takes by itself -/

/-- From one state the device can come to another. -/
def Leads (d d' : Device) : Prop := ∃ acts, d.acts? acts = some d'

theorem Leads.trans {d d₁ d' : Device} (h : d.Leads d₁) (h' : d₁.Leads d') :
    d.Leads d' := by
  obtain ⟨acts, hacts⟩ := h
  obtain ⟨acts', hacts'⟩ := h'
  refine ⟨acts ++ acts', ?_⟩
  induction acts generalizing d with
  | nil =>
      obtain rfl := Option.some.inj hacts
      exact hacts'
  | cons a rest ih =>
      obtain ⟨d₂, hact, hrest⟩ := Option.bind_eq_some_iff.mp hacts
      rw [List.cons_append, acts?, hact]
      exact ih hrest

theorem leads_of_act? {d d' : Device} {a : Act} (h : d.act? a = some d') :
    d.Leads d' :=
  ⟨[a], by rw [acts?, h]; rfl⟩

/-- What leaves the loop, the pollers and whom the battery's subscribers
were told of is an act. -/
theorem leads_elsewhere {d d' : Device} (hloop : d'.loop = d.loop)
    (hnetwork : d'.network = d.network) (hwifi : d'.wifi = d.wifi)
    (hmonitor : d'.monitor = { d.monitor with policy := d'.monitor.policy }) :
    d.Leads d' := by
  have hact : d.act? (.elsewhere d') = some d' := by
    rw [act?, ← hloop, ← hnetwork, ← hwifi, ← hmonitor]
  exact leads_of_act? hact

/-- The main loop changes the charge window and tells the loop of the
access point's flags. -/
theorem leads_heed (d : Device) (notice : Notice) :
    d.Leads (d.heed notice) := by
  unfold heed
  split
  · unfold applyHotChange Battery.Monitor.setPolicy
    cases d.store.config.battery.charge.validate with
    | error fault => exact ⟨[], rfl⟩
    | ok u =>
        let policy := d.store.config.battery.charge
        let changed : Device :=
          { d with monitor := { d.monitor with policy } }
        have hwindow : d.Leads changed.enforceWindow :=
          leads_elsewhere rfl rfl rfl rfl
        let command := Loop.Command.setWifiPolicy d.store.config.wifi.policy
        exact hwindow.trans (leads_of_act? (a := .command command) rfl)
  · exact ⟨[], rfl⟩

theorem leads_mainStep? {d d' : Device} (h : d.mainStep? = some d') :
    d.Leads d' := by
  unfold mainStep? at h
  cases hreader : d.mainReader with
  | none =>
      rw [hreader] at h
      cases h
  | some reader =>
      rw [hreader] at h
      dsimp only [Option.bind_eq_bind, Option.bind_some] at h
      split at h
      · next board notice _ =>
          obtain rfl := Option.some.inj h
          refine Leads.trans ?_ (leads_heed _ notice)
          exact leads_elsewhere rfl rfl rfl rfl
      · obtain rfl := Option.some.inj h
        exact leads_elsewhere rfl rfl rfl rfl
      · cases h

theorem leads_relayStep? {d d' : Device} (h : d.relayStep? = some d') :
    d.Leads d' := by
  unfold relayStep? at h
  cases hrelay : d.relay with
  | none =>
      rw [hrelay] at h
      cases h
  | some reader =>
      rw [hrelay] at h
      dsimp only [Option.bind_eq_bind, Option.bind_some] at h
      split at h
      · obtain rfl := Option.some.inj h
        exact leads_elsewhere rfl rfl rfl rfl
      · obtain rfl := Option.some.inj h
        exact leads_elsewhere rfl rfl rfl rfl
      · obtain rfl := Option.some.inj h
        exact leads_elsewhere rfl rfl rfl rfl
      · cases h

theorem leads_batteryStep? {d d' : Device} (h : d.batteryStep? = some d') :
    d.Leads d' := by
  unfold batteryStep? at h
  split at h
  · split at h
    · obtain rfl := Option.some.inj h
      refine Leads.trans ?_ (leads_of_act? (a := .batteryEvent) rfl)
      exact leads_elsewhere rfl rfl rfl rfl
    · cases h
  · cases h

theorem leads_watcherStep? {d d' : Device} (h : d.watcherStep? = some d') :
    d.Leads d' := by
  unfold watcherStep? at h
  cases hwatcher : d.watcher with
  | none =>
      rw [hwatcher] at h
      cases h
  | some w =>
      rw [hwatcher] at h
      dsimp only [Option.bind_eq_bind, Option.bind_some] at h
      split at h
      · obtain rfl := Option.some.inj h
        unfold rereadConfig
        dsimp only
        split
        · exact leads_elsewhere rfl rfl rfl rfl
        split
        · exact leads_elsewhere rfl rfl rfl rfl
        · exact leads_elsewhere rfl rfl rfl rfl
      · cases h

/-- Every step that the device takes by itself is an act or two. -/
theorem leads_step? {d d' : Device} (h : d.step? = some d') :
    d.Leads d' := by
  simp only [step?, Option.orElse_eq_orElse, Option.orElse_eq_or,
    Option.or_eq_some_iff] at h
  rcases h with h | ⟨-, h | ⟨-, h | ⟨-, h | ⟨-, h | ⟨-, h | ⟨-, h | ⟨-, h |
    ⟨-, h⟩⟩⟩⟩⟩⟩⟩⟩
  · exact leads_of_act? (a := .loopTurns) h
  · exact leads_mainStep? h
  · exact leads_relayStep? h
  · exact leads_batteryStep? h
  · exact leads_of_act? (a := .networkEnds) h
  · exact leads_of_act? (a := .networkBegins) h
  · exact leads_of_act? (a := .wifiPolls) h
  · exact leads_watcherStep? h
  · obtain ⟨exchange, -, rfl⟩ := Option.map_eq_some_iff.mp h
    exact leads_elsewhere rfl rfl rfl rfl

end Gateway.Device
