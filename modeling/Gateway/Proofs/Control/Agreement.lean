import Gateway.Proofs.Control.Notices
import Gateway.Proofs.Control.Validity

/-!
# The window in force and the configured one

Every charge window comes from the first configuration, from a call or from a
reloaded file (`Origin`), and the steps of a run tell which one is configured,
which one the main loop copied last and which one is in force. When all are
done and the main loop has heard everything, the last two have the same origin
as the first, with two exceptions (`agreement`):

- a reload was *missed*: the main loop joined later or lost the notice;
- a call was *crossed*: after its window was put in force, and before it got
  into the configuration or since, another one was put in force.
-/

namespace Gateway.Interplay

/-! ## Origins -/

/-- Where a charge window comes from. -/
inductive Origin where
  | initial
  | call (n : Nat)
  | reload (n : Nat) (new : Config)

def Origin.window (clients : Clients) (startup : Config) :
    Origin → Battery.ChargePolicy
  | initial => startup.battery.charge
  | call n => clients.window n
  | reload _ new => new.battery.charge

section Steps

/-! Steps are listed latest first. -/

/-- The origin of the window that is configured. -/
def configured : List Step → Origin
  | [] => .initial
  | .change n :: _ => .call n
  | .adopt n new :: _ => .reload n new
  | _ :: past => configured past

/-- The origin of the window that the main loop copied last. -/
def copied : List Step → Origin
  | [] => .initial
  | .copy :: past => configured past
  | _ :: past => copied past

/-- The origin of the window in force. -/
def forced : List Step → Origin
  | [] => .initial
  | .accept n :: _ => .call n
  | .force :: past => copied past
  | _ :: past => forced past

/-- The last step that put a window in force. -/
def latestForce : List Step → Option Step
  | [] => none
  | .accept n :: _ => some (.accept n)
  | .force :: _ => some .force
  | _ :: past => latestForce past

/-- Since the configuration changed last the main loop has copied it. -/
def Heeded : List Step → Prop
  | [] => False
  | .copy :: _ => True
  | .change _ :: _ | .adopt _ _ :: _ => False
  | _ :: past => Heeded past

/-- Since the configuration changed last the main loop has joined, or has
been told that it lost notices. -/
def Lagged : List Step → Prop
  | [] => False
  | .enter :: _ | .skip :: _ => True
  | .change _ :: _ | .adopt _ _ :: _ => False
  | _ :: past => Lagged past

/-- The configuration changed last with a reload, and the main loop has not
copied it. -/
def Missed (steps : List Step) : Prop :=
  ¬ Heeded steps ∧ ∃ n new, configured steps = .reload n new

/-- The configuration changed last with a call, the main loop has not copied
it, and since the call put its window in force another was. -/
def Crossed (steps : List Step) : Prop :=
  ¬ Heeded steps ∧ ∃ n, configured steps = .call n
    ∧ latestForce steps ≠ some (.accept n)

/-- The main loop has copied the configuration, or need not. -/
def Settled (steps : List Step) : Prop :=
  Heeded steps ∨ configured steps = .initial

/-- A window in force that came from a call was put there by the call, or by
the main loop. -/
theorem latestForce_of_forced {steps : List Step} {n : Nat}
    (h : forced steps = .call n) :
    latestForce steps = some (.accept n) ∨ latestForce steps = some .force := by
  induction steps with
  | nil => cases h
  | cons s past ih =>
      cases s with
      | accept m =>
          cases h
          exact .inl rfl
      | force => exact .inr rfl
      | _ => exact ih h

theorem forced_of_latestForce {steps : List Step} {n : Nat}
    (h : latestForce steps = some (.accept n)) : forced steps = .call n := by
  induction steps with
  | nil => cases h
  | cons s past ih =>
      cases s with
      | accept m =>
          cases h
          rfl
      | force => cases h
      | _ => exact ih h

end Steps

end Gateway.Interplay

/-! ## How far the origins are -/

namespace Gateway

/-- The window is in the configuration, or was. -/
def ChargeCall.hasChanged : ChargeCall → Bool
  | .asked | .accepted | .enforced => false
  | _ => true

/-- The configuration that was read is in use, or was, or is not wanted. -/
def Reload.hasCompared : Reload → Bool
  | .compared _ | .done _ => true
  | _ => false

namespace Interplay

/-- The window is where it comes from the configuration. -/
def Origin.Reached (w : Interplay) : Origin → Prop
  | initial => True
  | call n => (w.charges n).hasChanged = true
  | reload n _ => (w.reloads n).hasCompared = true

variable {clients : Clients} {startup : Config} {w w' : Interplay}

theorem update_keeps {α : Type} {P : α → Prop} {f : Nat → α} {n m : Nat}
    {stage : α} (h : P (f n)) (hm : P (f m) → P stage) :
    P (Function.update f m stage n) := by
  by_cases heq : n = m
  · subst heq
    rw [Function.update_self]
    exact hm h
  · rwa [Function.update_of_ne heq]

theorem hasChanged_update {f : Nat → ChargeCall} {n m : Nat}
    {stage : ChargeCall} (h : (f n).hasChanged = true)
    (hm : (f m).hasChanged = true → stage.hasChanged = true) :
    (Function.update f m stage n).hasChanged = true :=
  update_keeps (P := fun call : ChargeCall => call.hasChanged = true) h hm

theorem hasCompared_update {f : Nat → Reload} {n m : Nat} {stage : Reload}
    (h : (f n).hasCompared = true)
    (hm : (f m).hasCompared = true → stage.hasCompared = true) :
    (Function.update f m stage n).hasCompared = true :=
  update_keeps (P := fun reload : Reload => reload.hasCompared = true) h hm

/-- Calls do not go back. -/
theorem hasChanged_step {n : Nat} (h : (w.charges n).hasChanged = true)
    {s : Step} (hstep : w.Takes clients s w') :
    (w'.charges n).hasChanged = true := by
  cases hstep with
  | accept m monitor asked =>
      exact hasChanged_update h (by rw [asked]; exact id)
  | enforce m accepted =>
      exact hasChanged_update h (by rw [accepted]; exact id)
  | refuse | change | share | writeFails | write | moveFails | move
  | answer => exact hasChanged_update h fun _ => rfl
  | _ => exact h

/-- Reloads do not go back. -/
theorem hasCompared_step {n : Nat} (h : (w.reloads n).hasCompared = true)
    {s : Step} (hstep : w.Takes clients s w') :
    (w'.reloads n).hasCompared = true := by
  cases hstep with
  | readFails m fault idle =>
      exact hasCompared_update h (by rw [idle]; exact id)
  | read m new idle =>
      exact hasCompared_update h (by rw [idle]; exact id)
  | adopt | leave | publish => exact hasCompared_update h fun _ => rfl
  | _ => exact h

theorem Origin.Reached.step {o : Origin} (h : o.Reached w) {s : Step}
    (hstep : w.Takes clients s w') : o.Reached w' := by
  cases o with
  | initial => trivial
  | call n => exact hasChanged_step h hstep
  | reload n new => exact hasCompared_step h hstep

/-! ## Accounts -/

/-- A window is on its way from where it is in force to the configuration,
or the other way. -/
def Pending (w : Interplay) : Prop :=
  (∃ c, w.main = .copied c)
    ∨ ∃ n, w.charges n = .accepted ∨ w.charges n = .enforced

/-- What the steps of a run tell of the windows. -/
structure Accounts (clients : Clients) (startup : Config) (steps : List Step)
    (w : Interplay) : Prop where
  charge : w.device.store.config.battery.charge
    = (configured steps).window clients startup
  policy : w.device.monitor.policy = (forced steps).window clients startup
  copy : ∀ c, w.main = .copied c →
    c.battery.charge = (copied steps).window clients startup
  reached : (configured steps).Reached w
  reachedCopy : (copied steps).Reached w
  /-- A reload is in force only after it is in the configuration. -/
  reachedForce : ∀ n new, forced steps = .reload n new →
    (w.reloads n).hasCompared = true
  /-- What the main loop puts in force was in the configuration. -/
  reachedMain : ∀ n, latestForce steps = some .force →
    forced steps = .call n → (w.charges n).hasChanged = true
  copied_iff : copied steps = configured steps ↔ Settled steps
  agree : forced steps = configured steps → Settled steps
    ∨ ∃ n, configured steps = .call n
      ∧ latestForce steps = some (.accept n)
  settled : Settled steps → Pending w ∨ forced steps = configured steps

/-! ## Steps that move no window -/

/-- Whether a step puts a window somewhere. -/
def Step.movesWindow : Step → Bool
  | .accept _ | .change _ | .adopt _ _ | .copy | .force => true
  | _ => false

section Idle

variable {s : Step} {steps : List Step}

theorem configured_cons (h : s.movesWindow = false) :
    configured (s :: steps) = configured steps := by
  cases s <;> first | rfl | cases h

theorem copied_cons (h : s.movesWindow = false) :
    copied (s :: steps) = copied steps := by
  cases s <;> first | rfl | cases h

theorem forced_cons (h : s.movesWindow = false) :
    forced (s :: steps) = forced steps := by
  cases s <;> first | rfl | cases h

theorem latestForce_cons (h : s.movesWindow = false) :
    latestForce (s :: steps) = latestForce steps := by
  cases s <;> first | rfl | cases h

theorem heeded_cons (h : s.movesWindow = false) :
    Heeded (s :: steps) = Heeded steps := by
  cases s <;> first | rfl | cases h

theorem settled_cons (h : s.movesWindow = false) :
    Settled (s :: steps) = Settled steps := by
  unfold Settled
  rw [heeded_cons h, configured_cons h]

theorem store_of_idle (h : s.movesWindow = false)
    (hstep : w.Takes clients s w') : w'.device.store = w.device.store := by
  cases hstep with
  | change | adopt => cases h
  | ask n policy looked => rw [Device.commandLoop_fst]; rfl
  | act a device plain acts => exact (Device.untouched_act? acts plain).store
  | _ => rfl

theorem policy_of_idle (h : s.movesWindow = false)
    (hstep : w.Takes clients s w') :
    w'.device.monitor.policy = w.device.monitor.policy := by
  cases hstep with
  | accept | force => cases h
  | ask n policy looked => rw [Device.commandLoop_fst]; rfl
  | act a device plain acts =>
      rw [(Device.untouched_act? acts plain).monitor]
  | _ => rfl

theorem main_of_idle (h : s.movesWindow = false)
    (hstep : w.Takes clients s w') {c : Config} (hc : w'.main = .copied c) :
    w.main = .copied c := by
  cases hstep with
  | copy => cases h
  | hear reader board notice =>
      dsimp only at hc
      split at hc <;> cases hc
  | force | reject | settle | push => cases hc
  | _ => exact hc

theorem pending_update {n : Nat} {d : Device} {stage : ChargeCall}
    {savers : List Nat} (h : Pending w)
    (hn : w.charges n ≠ .accepted ∧ w.charges n ≠ .enforced) :
    Pending { w with
      device := d, charges := Function.update w.charges n stage, savers } := by
  rcases h with hmain | ⟨m, hm⟩
  · exact .inl hmain
  · have hne : m ≠ n := by
      rintro rfl
      rcases hm with hm | hm
      · exact hn.1 hm
      · exact hn.2 hm
    refine .inr ⟨m, ?_⟩
    dsimp only
    rwa [Function.update_of_ne hne]

theorem pending_of_idle (h : s.movesWindow = false) (hreject : s ≠ .reject)
    (hpending : Pending w) (hstep : w.Takes clients s w') : Pending w' := by
  cases hstep with
  | accept | change | adopt | copy | force => cases h
  | reject => exact absurd rfl hreject
  | refuse n fault asked => exact pending_update hpending (by simp [asked])
  | enforce n accepted =>
      exact .inr ⟨n, .inr (Function.update_self ..)⟩
  | share n changed => exact pending_update hpending (by simp [changed])
  | writeFails n fault saving =>
      exact pending_update hpending (by simp [saving])
  | write n files saving => exact pending_update hpending (by simp [saving])
  | moveFails n fault written =>
      exact pending_update hpending (by simp [written])
  | move n files written => exact pending_update hpending (by simp [written])
  | answer n result saved => exact pending_update hpending (by simp [saved])
  | hear reader board notice inside idle =>
      refine hpending.imp_left fun ⟨c, hc⟩ => ?_
      rw [idle] at hc
      cases hc
  | settle c forced =>
      refine hpending.imp_left fun ⟨c, hc⟩ => ?_
      rw [forced] at hc
      cases hc
  | push c enforced =>
      refine hpending.imp_left fun ⟨c, hc⟩ => ?_
      rw [enforced] at hc
      cases hc
  | _ => exact hpending

end Idle

namespace Accounts

variable {steps : List Step}

theorem start (p : Device.Parts) :
    Accounts clients p.store.config [] (start p) where
  charge := rfl
  policy := rfl
  copy c h := by cases h
  reached := trivial
  reachedCopy := trivial
  reachedForce n new h := by cases h
  reachedMain n h := by cases h
  copied_iff := ⟨fun _ => .inr rfl, fun _ => rfl⟩
  agree _ := .inl (.inr rfl)
  settled _ := .inr rfl

/-- A step that moves no window. -/
theorem idle (h : Accounts clients startup steps w) {s : Step}
    (hidle : s.movesWindow = false) (hreject : s ≠ .reject)
    (hstep : w.Takes clients s w') :
    Accounts clients startup (s :: steps) w' where
  charge := by
    rw [configured_cons hidle, store_of_idle hidle hstep]
    exact h.charge
  policy := by
    rw [forced_cons hidle, policy_of_idle hidle hstep]
    exact h.policy
  copy c hc := by
    rw [copied_cons hidle]
    exact h.copy c (main_of_idle hidle hstep hc)
  reached := by
    rw [configured_cons hidle]
    exact h.reached.step hstep
  reachedCopy := by
    rw [copied_cons hidle]
    exact h.reachedCopy.step hstep
  reachedForce n new hforced :=
    hasCompared_step (h.reachedForce n new (forced_cons hidle ▸ hforced)) hstep
  reachedMain n hlatest hforced :=
    hasChanged_step (h.reachedMain n (latestForce_cons hidle ▸ hlatest)
      (forced_cons hidle ▸ hforced)) hstep
  copied_iff := by
    rw [copied_cons hidle, configured_cons hidle, settled_cons hidle]
    exact h.copied_iff
  agree := by
    rw [forced_cons hidle, configured_cons hidle, settled_cons hidle,
      latestForce_cons hidle]
    exact h.agree
  settled hsettled := by
    rw [settled_cons hidle] at hsettled
    rw [forced_cons hidle, configured_cons hidle]
    exact (h.settled hsettled).imp_left
      fun hpending => pending_of_idle hidle hreject hpending hstep

theorem accept (h : Accounts clients startup steps w) {n : Nat}
    (hstep : w.Takes clients (.accept n) w') :
    Accounts clients startup (.accept n :: steps) w' := by
  have hlater : ∀ {o : Origin}, o.Reached w → o.Reached w' :=
    fun ho => ho.step hstep
  cases hstep with
  | accept n monitor asked valid =>
  obtain ⟨-, rfl⟩ := Battery.Monitor.setPolicy_ok_iff.mp valid
  -- A call that has only asked is nowhere yet.
  have hother : Origin.call n ≠ configured steps := by
    intro heq
    have hreached := heq ▸ h.reached
    rw [Origin.Reached, asked] at hreached
    cases hreached
  exact {
    charge := h.charge
    policy := rfl
    copy := h.copy
    reached := hlater h.reached
    reachedCopy := hlater h.reachedCopy
    reachedForce := fun m new hforced => by cases hforced
    reachedMain := fun m hlatest => by cases hlatest
    copied_iff := h.copied_iff
    agree := fun hforced => absurd hforced hother
    settled := fun _ => .inl (.inr ⟨n, .inl (Function.update_self ..)⟩) }

theorem change (h : Accounts clients startup steps w) {n : Nat}
    (hstep : w.Takes clients (.change n) w') :
    Accounts clients startup (.change n :: steps) w' := by
  have hlater : ∀ {o : Origin}, o.Reached w → o.Reached w' :=
    fun ho => ho.step hstep
  have hchanged : ∀ {m : Nat}, (w.charges m).hasChanged = true →
      (w'.charges m).hasChanged = true := fun hm => hasChanged_step hm hstep
  cases hstep with
  | change n enforced free =>
  have hunsettled : ¬ Settled (.change n :: steps) := by
    rintro (hheeded | hinitial)
    · exact hheeded
    · cases hinitial
  have hcopied : copied steps ≠ .call n := by
    intro heq
    have hreached := heq ▸ h.reachedCopy
    rw [Origin.Reached, enforced] at hreached
    cases hreached
  -- The main loop cannot have put in force what it could not copy so far.
  have hlatest : forced steps = .call n →
      latestForce steps = some (.accept n) := by
    intro hforced
    rcases latestForce_of_forced hforced with hcall | hmain
    · exact hcall
    · have hafter := h.reachedMain n hmain hforced
      rw [enforced] at hafter
      cases hafter
  exact {
    charge := rfl
    policy := h.policy
    copy := h.copy
    reached := by simp [configured, Origin.Reached, ChargeCall.hasChanged]
    reachedCopy := hlater h.reachedCopy
    reachedForce := h.reachedForce
    reachedMain := fun m hmain hforced =>
      hchanged (h.reachedMain m hmain hforced)
    copied_iff := ⟨fun heq => absurd heq hcopied, fun h => absurd h hunsettled⟩
    agree := fun hforced => .inr ⟨n, rfl, hlatest hforced⟩
    settled := fun h => absurd h hunsettled }

theorem adopt (h : Accounts clients startup steps w) {n : Nat} {new : Config}
    (hstep : w.Takes clients (.adopt n new) w') :
    Accounts clients startup (.adopt n new :: steps) w' := by
  have hlater : ∀ {o : Origin}, o.Reached w → o.Reached w' :=
    fun ho => ho.step hstep
  have hcompared : ∀ {m : Nat}, (w.reloads m).hasCompared = true →
      (w'.reloads m).hasCompared = true := fun hm => hasCompared_step hm hstep
  cases hstep with
  | adopt n new waits free hot =>
  have hunsettled : ¬ Settled (.adopt n new :: steps) := by
    rintro (hheeded | hinitial)
    · exact hheeded
    · cases hinitial
  have hcopied : copied steps ≠ .reload n new := by
    intro heq
    have hreached := heq ▸ h.reachedCopy
    rw [Origin.Reached, waits] at hreached
    cases hreached
  have hforced : forced steps ≠ .reload n new := by
    intro heq
    have hreached := h.reachedForce n new heq
    rw [waits] at hreached
    cases hreached
  exact {
    charge := rfl
    policy := h.policy
    copy := h.copy
    reached := by simp [configured, Origin.Reached, Reload.hasCompared]
    reachedCopy := hlater h.reachedCopy
    reachedForce := fun m new' heq => hcompared (h.reachedForce m new' heq)
    reachedMain := h.reachedMain
    copied_iff := ⟨fun heq => absurd heq hcopied, fun h => absurd h hunsettled⟩
    agree := fun heq => absurd heq hforced
    settled := fun h => absurd h hunsettled }

theorem copies (h : Accounts clients startup steps w)
    (hstep : w.Takes clients .copy w') :
    Accounts clients startup (.copy :: steps) w' := by
  have hreached : (configured steps).Reached w' := h.reached.step hstep
  cases hstep with
  | copy told =>
  exact {
    charge := h.charge
    policy := h.policy
    copy := by
      rintro _ ⟨⟩
      exact h.charge
    reached := hreached
    reachedCopy := hreached
    reachedForce := h.reachedForce
    reachedMain := h.reachedMain
    copied_iff := ⟨fun _ => .inl trivial, fun _ => rfl⟩
    agree := fun _ => .inl (.inl trivial)
    settled := fun _ => .inl (.inl ⟨_, rfl⟩) }

theorem force (h : Accounts clients startup steps w)
    (hstep : w.Takes clients .force w') :
    Accounts clients startup (.force :: steps) w' := by
  have hlater : ∀ {o : Origin}, o.Reached w → o.Reached w' :=
    fun ho => ho.step hstep
  cases hstep with
  | force c monitor hcopied valid =>
  obtain ⟨-, rfl⟩ := Battery.Monitor.setPolicy_ok_iff.mp valid
  have hreached := hlater h.reachedCopy
  exact {
    charge := h.charge
    policy := h.copy c hcopied
    copy := by
      rintro _ ⟨⟩
    reached := hlater h.reached
    reachedCopy := hreached
    reachedForce := fun n new hforced => by
      rw [forced] at hforced
      rw [hforced] at hreached
      exact hreached
    reachedMain := fun n _ hforced => by
      rw [forced] at hforced
      rw [hforced] at hreached
      exact hreached
    copied_iff := h.copied_iff
    agree := fun hforced => .inl (h.copied_iff.mp hforced)
    settled := fun hsettled => .inr (h.copied_iff.mpr hsettled) }

theorem step (h : Accounts clients startup steps w)
    (hsound : Sound clients startup w) {s : Step}
    (hstep : w.Takes clients s w') :
    Accounts clients startup (s :: steps) w' := by
  cases hmoves : s.movesWindow with
  | false =>
      refine h.idle hmoves ?_ hstep
      rintro rfl
      exact hsound.not_reject hstep
  | true =>
      cases s with
      | accept n => exact h.accept hstep
      | change n => exact h.change hstep
      | adopt n new => exact h.adopt hstep
      | copy => exact h.copies hstep
      | force => exact h.force hstep
      | _ => cases hmoves

theorem run {p : Device.Parts} (hloaded : p.Loaded) {h : History}
    (run : Run clients (Interplay.start p) h w) :
    Accounts clients p.store.config h.steps w := by
  induction run with
  | start => exact .start p
  | step s run hstep ih => exact ih.step (.run hloaded run) hstep

end Accounts

/-! ## Reloads on their way to the main loop -/

/-- The configuration that a reload brought is about to be announced, or the
main loop has yet to hear of it, unless it lagged or is not there. -/
def Announced (steps : List Step) (w : Interplay) : Prop :=
  Heeded steps ∨ Lagged steps ∨ w.device.mainReader = none
    ∨ ∀ n new, configured steps = .reload n new →
      w.reloads n = .compared .hot ∨ w.device.Awaited ∨ w.main = .told

section Announced

variable {s : Step} {steps : List Step}

theorem mainReader_step (h : w.device.mainReader = none)
    (hstep : w.Takes clients s w') :
    w'.device.mainReader = none ∨ s = .enter := by
  cases hstep with
  | enter => exact .inr rfl
  | ask n policy looked =>
      rw [Device.commandLoop_fst]
      exact .inl h
  | act a device plain acts =>
      exact .inl ((Device.untouched_act? acts plain).mainReader.trans h)
  | _ => exact .inl h

theorem compared_step {n : Nat} {change : ConfigChange}
    (h : w.reloads n = .compared change) (hstep : w.Takes clients s w') :
    w'.reloads n = .compared change ∨ s = .publish n := by
  have hother : ∀ {m : Nat} {stage next : Reload}, w.reloads m = stage →
      stage ≠ .compared change →
      Function.update w.reloads m next n = .compared change :=
    fun hm hne => update_keeps (P := fun reload => reload = .compared change)
      h fun h' => absurd (hm.symm.trans h') hne
  cases hstep with
  | readFails m fault idle => exact .inl (hother idle (by simp))
  | read m new idle => exact .inl (hother idle (by simp))
  | adopt m new waits => exact .inl (hother waits (by simp))
  | leave m new waits => exact .inl (hother waits (by simp))
  | publish m =>
      by_cases hne : n = m
      · exact .inr (hne ▸ rfl)
      · refine .inl ?_
        dsimp only
        rwa [Function.update_of_ne hne]
  | _ => exact .inl h

theorem told_step (h : w.main = .told) (hstep : w.Takes clients s w') :
    w'.main = .told ∨ s = .copy := by
  have hbusy : ∀ {stage : Heeding}, w.main = stage → stage = .told :=
    fun hstage => hstage.symm.trans h
  cases hstep with
  | copy => exact .inr rfl
  | hear reader board notice inside idle => cases hbusy idle
  | force c monitor copied => cases hbusy copied
  | reject c fault copied => cases hbusy copied
  | settle c forced => cases hbusy forced
  | push c enforced => cases hbusy enforced
  | _ => exact .inl h

theorem Announced.keep (h : Announced steps w) (hposted : w.device.Posted)
    (hstep : w.Takes clients s w')
    (hs : s ≠ .copy ∧ s ≠ .enter ∧ s ≠ .skip) : Announced steps w' := by
  rcases h with hheeded | hlagged | hnone | hreload
  · exact .inl hheeded
  · exact .inr (.inl hlagged)
  · rcases mainReader_step hnone hstep with hnone | henter
    · exact .inr (.inr (.inl hnone))
    · exact absurd henter hs.2.1
  by_cases hnone : w'.device.mainReader = none
  · exact .inr (.inr (.inl hnone))
  refine .inr (.inr (.inr fun n new hconfigured => ?_))
  rcases hreload n new hconfigured with hcompared | hawaited | htold
  · rcases compared_step hcompared hstep with hsame | rfl
    · exact .inl hsame
    · cases hstep with
      | publish n change compared =>
          cases hcompared.symm.trans compared
          obtain ⟨reader, hreader⟩ := Option.ne_none_iff_exists'.mp hnone
          exact .inr (.inl ⟨reader, hreader, Broadcast.waiting_publish
            (hposted.main reader hreader) hposted.board _⟩)
  · rcases awaited_step hposted hawaited hstep with hawaited | hskip |
      ⟨-, htold⟩
    · exact .inr (.inl hawaited)
    · exact absurd hskip hs.2.2
    · exact .inr (.inr htold)
  · rcases told_step htold hstep with htold | hcopy
    · exact .inr (.inr htold)
    · exact absurd hcopy hs.1

theorem Announced.step (h : Announced steps w) (hposted : w.device.Posted)
    (hstep : w.Takes clients s w') : Announced (s :: steps) w' := by
  cases s with
  | copy => exact .inl trivial
  | enter => exact .inr (.inl trivial)
  | skip => exact .inr (.inl trivial)
  | change n => exact .inr (.inr (.inr fun m new heq => by cases heq))
  | adopt n new =>
      refine .inr (.inr (.inr fun m new' heq => ?_))
      cases heq
      cases hstep with
      | adopt => exact .inl (Function.update_self ..)
  | _ => exact h.keep hposted hstep (by simp)

theorem announced_run {p : Device.Parts} {h : History}
    (run : Run clients (start p) h w) :
    w.device.Posted ∧ Announced h.steps w := by
  induction run with
  | start => exact ⟨Device.posted_new p, .inr (.inr (.inl rfl))⟩
  | step s _ hstep ih =>
      exact ⟨posted_step ih.1 hstep, ih.2.step ih.1 hstep⟩

end Announced

/-! ## When all are done -/

theorem Quiet.not_pending (h : Quiet w) : ¬ Pending w := by
  rintro (⟨c, hc⟩ | ⟨n, hn⟩)
  · rw [h.main] at hc
    cases hc
  · rcases h.charges n with hasked | ⟨answer, hanswer⟩
    · rw [hasked] at hn
      rcases hn with hn | hn <;> cases hn
    · rw [hanswer] at hn
      rcases hn with hn | hn <;> cases hn

theorem Accounts.forced_iff {steps : List Step}
    (h : Accounts clients startup steps w) (hquiet : Quiet w) :
    forced steps = configured steps ↔ ¬ Missed steps ∧ ¬ Crossed steps := by
  constructor
  · intro heq
    rcases h.agree heq with (hheeded | hinitial) | ⟨n, hcall, hlatest⟩
    · exact ⟨fun hmissed => hmissed.1 hheeded,
        fun hcrossed => hcrossed.1 hheeded⟩
    · refine ⟨fun ⟨_, n, new, hreload⟩ => ?_, fun ⟨_, n, hcall, _⟩ => ?_⟩
      · rw [hinitial] at hreload
        cases hreload
      · rw [hinitial] at hcall
        cases hcall
    · refine ⟨fun ⟨_, m, new, hreload⟩ => ?_, fun ⟨_, m, hcall', hother⟩ => ?_⟩
      · rw [hcall] at hreload
        cases hreload
      · rw [hcall] at hcall'
        cases hcall'
        exact hother hlatest
  · rintro ⟨hmissed, hcrossed⟩
    by_cases hheeded : Heeded steps
    · exact (h.settled (.inl hheeded)).resolve_left hquiet.not_pending
    cases hconfigured : configured steps with
    | initial =>
        rw [← hconfigured]
        exact (h.settled (.inr hconfigured)).resolve_left hquiet.not_pending
    | call n =>
        by_cases hlatest : latestForce steps = some (.accept n)
        · exact forced_of_latestForce hlatest
        · exact absurd ⟨hheeded, n, hconfigured, hlatest⟩ hcrossed
    | reload n new => exact absurd ⟨hheeded, n, new, hconfigured⟩ hmissed

/-- When all are done and the main loop has nothing left to hear, the window
in force is the configured one unless a reload was missed or a call crossed;
then they are the same by chance only. A reload is missed only by a main loop
that joined after it or was told that it lost notices. -/
theorem agreement {p : Device.Parts} (hloaded : p.Loaded) {h : History}
    (run : Run clients (start p) h w) (hquiet : w.Quiet)
    (hdrained : w.Drained) :
    (w.device.monitor.policy = w.device.store.config.battery.charge
        ↔ ¬ Missed h.steps ∧ ¬ Crossed h.steps
          ∨ forced h.steps ≠ configured h.steps
            ∧ (forced h.steps).window clients p.store.config
              = (configured h.steps).window clients p.store.config)
      ∧ (Missed h.steps → Lagged h.steps) := by
  have haccounts := Accounts.run hloaded run
  obtain ⟨-, hannounced⟩ := announced_run run
  refine ⟨?_, ?_⟩
  · rw [haccounts.policy, haccounts.charge, ← haccounts.forced_iff hquiet]
    by_cases hsame : forced h.steps = configured h.steps
    · simp [hsame]
    · simp [hsame]
  -- All stations of a notice are empty now, so it never set out.
  · rintro ⟨hheeded, n, new, hconfigured⟩
    rcases hannounced with hheeded' | hlagged | hnone | hreload
    · exact absurd hheeded' hheeded
    · exact hlagged
    · obtain ⟨reader, hreader, -⟩ := hdrained
      rw [hnone] at hreader
      cases hreader
    rcases hreload n new hconfigured with hcompared | hawaited | htold
    · rcases hquiet.reloads n with hidle | ⟨_, hdone⟩ | ⟨_, hfailed⟩
      · cases hcompared.symm.trans hidle
      · cases hcompared.symm.trans hdone
      · cases hcompared.symm.trans hfailed
    · exact absurd hawaited hdrained.not_awaited
    · cases htold.symm.trans hquiet.main

/-- The first client's window is put in force before the second one's and
configured after it. -/
theorem agreement_crossed :
    ∃ h w, Run rivals (start rooted) h w ∧ Quiet w ∧ Drained w
      ∧ w.device.monitor.policy ≠ w.device.store.config.battery.charge := by
  have hstart : Run rivals (start rooted) [] (start rooted) := .start
  have henter := hstart.step .enter (.enter rfl)
  have haccept₀ := henter.step (.accept 0) (.accept 0 _ rfl rfl)
  have henforce₀ := haccept₀.step (.enforce 0) (.enforce 0 rfl)
  have haccept₁ := henforce₀.step (.accept 1) (.accept 1 _ rfl rfl)
  have henforce₁ := haccept₁.step (.enforce 1) (.enforce 1 rfl)
  have hchange₁ := henforce₁.step (.change 1) (.change 1 rfl rfl)
  have hshare₁ := hchange₁.step (.share 1) (.share 1 rfl)
  have hwrite₁ := hshare₁.step (.write 1) (.write 1 _ rfl rfl)
  have hmove₁ := hwrite₁.step (.move 1) (.move 1 _ rfl rfl)
  have hanswer₁ := hmove₁.step (.answer 1) (.answer 1 _ rfl)
  have hchange₀ := hanswer₁.step (.change 0) (.change 0 rfl rfl)
  have hshare₀ := hchange₀.step (.share 0) (.share 0 rfl)
  have hwrite₀ := hshare₀.step (.write 0) (.write 0 _ rfl rfl)
  have hmove₀ := hwrite₀.step (.move 0) (.move 0 _ rfl rfl)
  have hanswer₀ := hmove₀.step (.answer 0) (.answer 0 _ rfl)
  have hboth : ∀ {a b c : Prop}, a → b → (a → b → c) → a ∧ b ∧ c :=
    fun ha hb hc => ⟨ha, hb, hc ha hb⟩
  refine ⟨_, _, hanswer₀, hboth ⟨fun n => ?_, fun n => .inl rfl, rfl⟩
    ⟨0, rfl, rfl⟩ fun hquiet hdrained hsame => ?_⟩
  · rcases n with _ | _ | n
    · exact .inr ⟨_, rfl⟩
    · exact .inr ⟨_, rfl⟩
    · exact .inl rfl
  · obtain ⟨hiff, -⟩ := agreement (.inl rfl) hanswer₀ hquiet hdrained
    rcases hiff.mp hsame with ⟨-, hcrossed⟩ | ⟨-, hwindows⟩
    · exact hcrossed ⟨id, 0, rfl, by simp [History.steps, latestForce]⟩
    · revert hwindows
      decide

/-- A reload that is over before the main loop listens never reaches the
charge monitor. -/
theorem reload_missed :
    ∃ h w, Run rivals (start rooted) h w ∧ Quiet w ∧ Drained w
      ∧ w.device.monitor.policy ≠ w.device.store.config.battery.charge := by
  have hstart : Run rivals (start rooted) [] (start rooted) := .start
  have hedit := hstart.step (.elsewhere { Device.new rooted with
    files := edited }) (.elsewhere _)
  have hread := hedit.step (.read 0) (.read 0 _ rfl read_edited)
  have hadopt := hread.step (.adopt 0 _) (.adopt 0 _ rfl rfl
    (ConfigStore.coldDifferences_withCharge rooted.store .initial _))
  have hpublish := hadopt.step (.publish 0) (.publish 0 .hot rfl)
  have henter := hpublish.step .enter (.enter rfl)
  refine ⟨_, _, henter, ⟨fun n => .inl rfl, fun n => ?_, rfl⟩,
    ⟨0, rfl, rfl⟩, by decide⟩
  rcases n with _ | n
  · exact .inr (.inl ⟨_, rfl⟩)
  · exact .inl rfl

end Interplay

end Gateway
