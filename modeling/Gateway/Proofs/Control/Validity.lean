import Gateway.Device.Lifecycle
import Gateway.Proofs.Battery.Calls
import Gateway.Proofs.Config.Hardware
import Gateway.Proofs.Control.PlainActs

/-!
# What the daemon runs with stays valid

The configuration in use comes from a file that was loaded or from a client,
and either is checked before it gets there. So however clients, reloads and
the main loop come between each other, the configuration in use is valid and
has the hardware part of the first one (`Config.Fits`), and the charge window
in force is valid. Nothing that relies on this is refused later: the window of
a hot change is accepted, and no timer is started without a period.
-/

namespace Gateway

namespace Config

theorem validate_charge {c : Config} (h : c.validate = .ok ()) :
    c.battery.charge.validate = .ok () := by
  unfold validate at h
  split at h
  · cases h
  · assumption

/-- None of the times and counts of a valid configuration is zero. -/
theorem ne_zero_of_validate {c : Config} (h : c.validate = .ok ())
    {name : String} {n : UInt64} (hmem : (name, n) ∈ c.positives) :
    n ≠ 0 := by
  unfold validate at h
  split at h
  · cases h
  split at h
  · cases h
  · next hnone =>
      intro hzero
      have hpositive := List.find?_eq_none.mp hnone _ hmem
      simp [hzero] at hpositive

/-- A configuration that a daemon set up with another may go on with. -/
structure Fits (startup c : Config) : Prop where
  version : c.version = 1
  valid : c.validate = .ok ()
  hardware : startup.SameHardware c

namespace Fits

variable {startup : Config} {s : ConfigStore}

theorem withCharge (h : startup.Fits s.config) {charge : Battery.ChargePolicy}
    (hcharge : charge.validate = .ok ()) :
    startup.Fits (s.withCharge charge).config where
  version := h.version
  valid := s.validate_withCharge h.valid hcharge
  hardware := h.hardware.trans (.withCharge s charge)

/-- A hot change goes to a configuration that fits as well. -/
theorem adopt (h : startup.Fits s.config) {new : Config}
    (hversion : new.version = 1) (hvalid : new.validate = .ok ())
    (hhot : s.config.coldDifferences new = []) : startup.Fits new where
  version := hversion
  valid := hvalid
  hardware := h.hardware.trans
    (sameHardware_of_coldDifferences (h.version.trans hversion.symm) hhot)

end Fits

end Config

namespace Device

/-- The configuration of the parts was loaded, or is the built-in one. -/
def Parts.Loaded (p : Parts) : Prop :=
  p.store.config = .builtIn
    ∨ ∃ asked named,
      p.store.format.load p.files asked named = .ok p.store

theorem Parts.Loaded.fits {p : Parts} (h : p.Loaded) :
    p.store.config.Fits p.store.config := by
  have hbuiltIn : Config.builtIn.Fits Config.builtIn :=
    ⟨rfl, rfl, .refl _⟩
  rcases h with hsame | ⟨asked, named, hload⟩
  · rw [hsame]
    exact hbuiltIn
  unfold Config.Format.load at hload
  cases hlocate : ConfigStore.locate p.files asked named with
  | none =>
      rw [hlocate] at hload
      rw [← Except.ok.inj hload]
      exact hbuiltIn
  | some path =>
      rw [hlocate] at hload
      dsimp only at hload
      cases hread : p.store.format.read p.files path with
      | error fault =>
          rw [hread] at hload
          cases hload
      | ok c =>
          rw [hread] at hload
          obtain ⟨-, -, -, hversion, hvalid⟩ := Config.Format.read_ok_iff.mp hread
          rw [← Except.ok.inj hload]
          exact ⟨hversion, hvalid, .refl c⟩

end Device

/-- How far a call with that window may be: one with an invalid window gets
an answer and nothing else. -/
def ChargeCall.Allowed (window : Battery.ChargePolicy) (call : ChargeCall) :
    Prop :=
  call = .asked ∨ window.validate = .ok ()
    ∨ ∃ fault, window.validate = .error fault
      ∧ call = .answered (.error (.invalidArguments fault.message))

/-- Every service that goes by a timer gets one when it starts. -/
structure Device.Timed (d : Device) : Prop where
  network : ∃ poller, (d.startService .network).1.network = some poller
  wifi : ∃ poller, (d.startService .wifi).1.wifi = some poller
  leds : d.loop.isWaiting = true →
    ∃ ticker, (d.startService .leds).1.loop.phase = .running ticker

namespace Interplay

/-- The call that sets the charge window and takes that step. -/
def Step.charge? : Step → Option Nat
  | .accept n | .refuse n | .enforce n | .change n | .share n | .write n
  | .move n | .answer n => some n
  | _ => none

/-- All that is in use, and all that is about to be, is valid. -/
structure Sound (clients : Clients) (startup : Config) (w : Interplay) :
    Prop where
  config : startup.Fits w.device.store.config
  policy : w.device.monitor.policy.validate = .ok ()
  called : ∀ n, (w.charges n).Allowed (clients.window n)
  read : ∀ n new, w.reloads n = .read new →
    new.version = 1 ∧ new.validate = .ok ()
  copied : ∀ c, w.main = .copied c → startup.Fits c
  renderPeriod :
    w.device.loop.renderPeriod = startup.leds.renderMillis.toNat

namespace Sound

variable {clients : Clients} {startup : Config} {w w' : Interplay}

theorem start {p : Device.Parts} (h : p.Loaded) :
    Sound clients p.store.config (start p) where
  config := h.fits
  policy := Config.validate_charge h.fits.valid
  called n := .inl rfl
  read n new hn := by cases hn
  copied c hc := by cases hc
  renderPeriod := ((Device.bare p).loop.serves_send _).renderPeriod

theorem called_update (h : Sound clients startup w) {n : Nat}
    {stage : ChargeCall} (hstage : stage.Allowed (clients.window n)) :
    ∀ m, (Function.update w.charges n stage m).Allowed (clients.window m) :=
  (Function.forall_update_iff w.charges fun m call =>
    call.Allowed (clients.window m)).mpr ⟨hstage, fun m _ => h.called m⟩

/-- A call goes on only with a valid window. -/
theorem window (h : Sound clients startup w) {n : Nat} {stage : ChargeCall}
    (hn : w.charges n = stage) (hasked : stage ≠ .asked)
    (hanswered : ∀ answer, stage ≠ .answered answer) :
    (clients.window n).validate = .ok () := by
  rcases h.called n with hfirst | hvalid | ⟨fault, -, hlast⟩
  · exact absurd (hn.symm.trans hfirst) hasked
  · exact hvalid
  · exact absurd (hn.symm.trans hlast) (hanswered _)

/-- A call that goes on, and nothing else that matters. -/
theorem goesOn (h : Sound clients startup w) {n : Nat} {stage : ChargeCall}
    (hn : w.charges n = stage) (hasked : stage ≠ .asked)
    (hanswered : ∀ answer, stage ≠ .answered answer) (next : ChargeCall) :
    ∀ m, (Function.update w.charges n next m).Allowed (clients.window m) :=
  h.called_update (.inr (.inl (h.window hn hasked hanswered)))

/-- Only what was read and found valid is compared. -/
theorem read_update (h : Sound clients startup w) {n : Nat} {stage : Reload}
    (hstage : ∀ new, stage = .read new →
      new.version = 1 ∧ new.validate = .ok ()) :
    ∀ m new, Function.update w.reloads n stage m = .read new →
      new.version = 1 ∧ new.validate = .ok () :=
  (Function.forall_update_iff w.reloads fun _ reload =>
      ∀ new, reload = .read new → new.version = 1 ∧ new.validate = .ok ()).mpr
    ⟨hstage, fun m _ => h.read m⟩

theorem renderPeriod_tellLoop (h : Sound clients startup w)
    (m : Loop.Message) :
    (w.device.tellLoop m).loop.renderPeriod
      = startup.leds.renderMillis.toNat :=
  (w.device.loop.serves_send m).renderPeriod.trans h.renderPeriod

theorem step (h : Sound clients startup w) {s : Step}
    (hstep : w.Takes clients s w') : Sound clients startup w' := by
  cases hstep with
  | accept n monitor asked valid =>
      obtain ⟨hvalid, rfl⟩ := Battery.Monitor.setPolicy_ok_iff.mp valid
      exact { h with
        policy := hvalid
        called := h.called_update (.inr (.inl hvalid)) }
  | refuse n fault asked invalid =>
      have hfault := Battery.Monitor.setPolicy_error_iff.mp invalid
      exact { h with
        called := h.called_update (.inr (.inr ⟨fault, hfault, rfl⟩)) }
  | enforce n accepted =>
      exact { h with called := h.goesOn accepted (by simp) (by simp) _ }
  | change n enforced free =>
      have hvalid := h.window enforced (by simp) (by simp)
      exact { h with
        config := h.config.withCharge hvalid
        called := h.called_update (.inr (.inl hvalid)) }
  | share n changed =>
      exact { h with called := h.goesOn changed (by simp) (by simp) _ }
  | writeFails n fault saving fails =>
      exact { h with called := h.goesOn saving (by simp) (by simp) _ }
  | write n files saving writes =>
      exact { h with called := h.goesOn saving (by simp) (by simp) _ }
  | moveFails n fault written fails =>
      exact { h with called := h.goesOn written (by simp) (by simp) _ }
  | move n files written moves =>
      exact { h with called := h.goesOn written (by simp) (by simp) _ }
  | answer n result saved =>
      exact { h with called := h.goesOn saved (by simp) (by simp) _ }
  | look n asked => exact { h with }
  | ask n policy looked =>
      rw [Device.commandLoop_fst]
      exact { h with renderPeriod := h.renderPeriod_tellLoop _ }
  | readFails n fault idle fails =>
      exact { h with read := h.read_update (by simp) }
  | read n new idle reads =>
      obtain ⟨-, -, -, hvalid⟩ := Config.Format.read_ok_iff.mp reads
      exact { h with read := h.read_update (by rintro _ ⟨⟩; exact hvalid) }
  | adopt n new waits free hot =>
      obtain ⟨hversion, hvalid⟩ := h.read n new waits
      exact { h with
        config := h.config.adopt hversion hvalid hot
        read := h.read_update (by simp) }
  | leave n new waits free cold =>
      exact { h with read := h.read_update (by simp) }
  | publish n change compared =>
      exact { h with read := h.read_update (by simp) }
  | enter outside => exact { h with }
  | hear reader board notice inside idle receives =>
      refine { h with copied := fun c hc => ?_ }
      dsimp only at hc
      split at hc <;> cases hc
  | skip reader board count inside idle lags => exact { h with }
  | copy told =>
      exact { h with copied := by rintro _ ⟨⟩; exact h.config }
  | force c monitor copied valid =>
      obtain ⟨hvalid, rfl⟩ := Battery.Monitor.setPolicy_ok_iff.mp valid
      exact { h with policy := hvalid, copied := by simp }
  | reject c fault copied invalid => exact { h with copied := by simp }
  | settle c forced => exact { h with copied := by simp }
  | push c enforced =>
      exact { h with
        copied := by simp
        renderPeriod := h.renderPeriod_tellLoop _ }
  | notify notice => exact { h with }
  | attend reader other => exact { h with }
  | act a device plain acts =>
      have hleft := Device.untouched_act? acts plain
      exact { h with
        config := hleft.store ▸ h.config
        policy := hleft.monitor ▸ h.policy
        renderPeriod := hleft.loop.renderPeriod.trans h.renderPeriod }
  | elsewhere rest => exact { h with }

theorem run {p : Device.Parts} (hloaded : p.Loaded) {h : History}
    (run : Run clients (Interplay.start p) h w) :
    Sound clients p.store.config w := by
  induction run with
  | start => exact .start hloaded
  | step s _ hstep ih => exact ih.step hstep

/-- The window of a hot change is not refused. -/
theorem not_reject (h : Sound clients startup w) :
    ¬ w.Takes clients .reject w' := by
  intro hstep
  cases hstep with
  | reject c fault copied invalid =>
      have hfault := Battery.Monitor.setPolicy_error_iff.mp invalid
      rw [Config.validate_charge (h.copied c copied).valid] at hfault
      cases hfault

/-- All that a call with an invalid window does is to be refused. -/
theorem refused (h : Sound clients startup w) {n : Nat}
    {fault : Battery.ChargePolicyFault}
    (hfault : (clients.window n).validate = .error fault) {s : Step}
    (hs : s.charge? = some n) (hstep : w.Takes clients s w') :
    s = .refuse n ∧ w'.device = w.device := by
  have hbusy : ∀ {stage : ChargeCall}, w.charges n = stage →
      stage ≠ .asked → (∀ answer, stage ≠ .answered answer) → False := by
    intro stage hn hasked hanswered
    rw [h.window hn hasked hanswered] at hfault
    cases hfault
  cases hstep with
  | refuse m fault asked invalid =>
      cases hs
      exact ⟨rfl, rfl⟩
  | accept m monitor asked valid =>
      cases hs
      have hvalid := (Battery.Monitor.setPolicy_ok_iff.mp valid).1
      rw [hfault] at hvalid
      cases hvalid
  | enforce m accepted =>
      cases hs
      exact (hbusy accepted (by simp) (by simp)).elim
  | change m enforced free =>
      cases hs
      exact (hbusy enforced (by simp) (by simp)).elim
  | share m changed =>
      cases hs
      exact (hbusy changed (by simp) (by simp)).elim
  | writeFails m fault saving | write m files saving =>
      cases hs
      exact (hbusy saving (by simp) (by simp)).elim
  | moveFails m fault written | move m files written =>
      cases hs
      exact (hbusy written (by simp) (by simp)).elim
  | answer m result saved =>
      cases hs
      exact (hbusy saved (by simp) (by simp)).elim
  | _ => cases hs

theorem timed (h : Sound clients startup w) : w.device.Timed := by
  have hpositive : ∀ (name : String) (n : UInt64),
      (name, n) ∈ w.device.store.config.positives → 0 < n.toNat := by
    intro name n hmem
    have hzero := Config.ne_zero_of_validate h.config.valid hmem
    exact Nat.pos_of_ne_zero fun hn => hzero (UInt64.toNat_inj.mp hn)
  have hticker : ∀ {period : Nat}, 0 < period →
      ∃ ticker, Ticker.start? w.device.now period .delay = some ticker :=
    fun hperiod => ⟨_, dif_pos hperiod⟩
  constructor
  · have hperiod : 0 < Device.pollPeriod
        w.device.store.config.modem.pollSeconds :=
      Nat.mul_pos (hpositive "modem.poll_interval_secs" _
        (by simp [Config.positives])) (by decide)
    obtain ⟨ticker, hstart⟩ := hticker hperiod
    exact ⟨_, congrArg (Option.map _) hstart⟩
  · have hperiod : 0 < Device.pollPeriod
        w.device.store.config.wifi.pollSeconds :=
      Nat.mul_pos (hpositive "wifi.poll_interval_secs" _
        (by simp [Config.positives])) (by decide)
    obtain ⟨ticker, hstart⟩ := hticker hperiod
    exact ⟨_, congrArg (Option.map _) hstart⟩
  · intro hwaiting
    have hperiod : 0 < w.device.loop.renderPeriod := by
      rw [h.renderPeriod, h.config.hardware.renderMillis]
      exact hpositive "leds.render_interval_ms" _
        (by simp [Config.positives])
    obtain ⟨ticker, hstart⟩ := hticker hperiod
    refine ⟨ticker, ?_⟩
    simp [Device.startService, Device.runLoop, hwaiting, Device.attempt,
      Loop.Task.start, hstart, Except.map]

end Sound

/-- Whatever clients, files, reloads and the main loop do: the configuration
in use fits the first one, and the charge window in force is valid; a call
with an invalid window is refused and does nothing else; the main loop is
never refused the window of a hot change, and no service is started without
the period that it needs. -/
theorem valid_throughout {clients : Clients} {p : Device.Parts}
    (hloaded : p.Loaded) {h : History} {w : Interplay}
    (run : Run clients (start p) h w) :
    p.store.config.Fits w.device.store.config
      ∧ w.device.monitor.policy.validate = .ok ()
      ∧ (∀ n fault, (clients.window n).validate = .error fault →
        (w.charges n = .asked ∨ w.charges n
            = .answered (.error (.invalidArguments fault.message)))
          ∧ ∀ s w', Step.charge? s = some n → w.Takes clients s w' →
            s = .refuse n ∧ w'.device = w.device)
      ∧ (∀ w', ¬ w.Takes clients .reject w')
      ∧ w.device.Timed := by
  have hsound := Sound.run hloaded run
  refine ⟨hsound.config, hsound.policy, fun n fault hfault => ⟨?_, ?_⟩,
    fun w' => hsound.not_reject, hsound.timed⟩
  · rcases hsound.called n with hasked | hvalid | ⟨fault', hfault', hanswer⟩
    · exact .inl hasked
    · rw [hfault] at hvalid
      cases hvalid
    · rw [hfault] at hfault'
      cases hfault'
      exact .inr hanswer
  · exact fun s w' hs hstep => hsound.refused hfault hs hstep

/-- A client with a valid window, and others whose windows end before they
begin. -/
def hasty : Clients where
  window n := if n = 0 then ⟨true, 30, 70⟩ else ⟨true, 70, 30⟩
  wanted _ := true

/-- One client has its window in force and in the configuration while
another is refused. -/
theorem valid_throughout_refused :
    ∃ h w, Run hasty (start Device.quiet) h w
      ∧ w.charges 1 = .answered (.error (.invalidArguments
        (Battery.ChargePolicyFault.notBelow 70 30).message))
      ∧ w.device.store.config.battery.charge = ⟨true, 30, 70⟩
      ∧ Config.builtIn.Fits w.device.store.config
      ∧ w.device.monitor.policy.validate = .ok ()
      ∧ w.device.Timed := by
  have hloaded : Device.quiet.Loaded := .inl rfl
  have hstart : Run hasty (start Device.quiet) [] (start Device.quiet) :=
    .start
  have haccept := hstart.step (.accept 0) (.accept 0 _ rfl rfl)
  have henforce := haccept.step (.enforce 0) (.enforce 0 rfl)
  have hchange := henforce.step (.change 0) (.change 0 rfl rfl)
  have hrefuse := hchange.step (.refuse 1) (.refuse 1 _ rfl rfl)
  obtain ⟨hfits, hvalid, hcalls, -, htimed⟩ :=
    valid_throughout hloaded hrefuse
  obtain ⟨hasked | hrefused, -⟩ := hcalls 1 _ rfl
  · cases hasked
  · exact ⟨_, _, hrefuse, hrefused, rfl, hfits, hvalid, htimed⟩

end Interplay

end Gateway
