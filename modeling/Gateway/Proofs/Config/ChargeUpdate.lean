import Gateway.Device.Control
import Gateway.Proofs.Config.Saving

/-!
# Setting the charge window while the file is read again

A call that sets the charge window changes the configuration under its lock,
gives the lock back, and takes it again to save what is there then. A reload
reads the file before it takes the lock, and then puts what it read in
force. Here both are taken apart into these steps (`ChargeUpdate.step?`), so
that any number of reloads can run beside one call in any interleaving.

Undisturbed, the steps of a call are `Device.setChargePolicy`
(`exists_after_call`) and those of a reload `ConfigStore.reload`
(`exists_after_reload`). Whoever works on the configuration has it locked
(`Exclusive`).
-/

namespace Gateway

/-! ## Steps -/

/-- How far a call that sets the charge window is. -/
inductive CallStage where
  | asked
  /-- The window is valid and in force. -/
  | accepted
  | locked
  | changed
  /-- The configuration is changed, and not locked. -/
  | unlocked
  /-- The configuration is locked again, to be saved. -/
  | saving
  /-- The temporary file is written. -/
  | written
  | saved
  | unsaved (fault : SaveFault)
  | done
  | failed (fault : Control.Fault)
deriving DecidableEq, Repr

/-- The answer of a call, once it has one. -/
def CallStage.answer? : CallStage → Option (Except Control.Fault Control.Value)
  | .done => some (.ok .nothing)
  | .failed fault => some (.error fault)
  | _ => none

/-- Whether a call at a stage has the configuration locked. -/
def CallStage.locks : CallStage → Bool
  | .locked | .changed | .saving | .written | .saved | .unsaved _ => true
  | _ => false

/-- How far a reload of the configuration file is. -/
inductive ReloadStage where
  | idle
  | read (new : Config)
  | locked (new : Config)
  /-- The configurations are compared, and the new one is in force if none
  of its changes needs a restart. -/
  | compared (change : ConfigChange)
  | done (change : ConfigChange)
  | failed (fault : LoadFault)
deriving DecidableEq, Repr

/-- Whether a reload at a stage has the configuration locked. -/
def ReloadStage.locks : ReloadStage → Bool
  | .locked _ | .compared _ => true
  | _ => false

/-- Who has the configuration locked. -/
inductive LockHolder where
  | call
  | reload (n : Nat)
deriving DecidableEq, Repr

/-- One call that sets the charge window, and reloads beside it. -/
structure ChargeUpdate where
  monitor : Battery.Monitor
  files : Files
  store : ConfigStore
  holder : Option LockHolder
  call : CallStage
  reloads : Nat → ReloadStage

/-- What can happen. The first eight steps are those of the call, in their
order, the others those of a reload. -/
inductive UpdateStep where
  | accept
  | lock
  | change
  | unlock
  | share
  | write
  | move
  | answer
  | read (n : Nat)
  | take (n : Nat)
  | compare (n : Nat)
  | release (n : Nat)
deriving DecidableEq, Repr

namespace ChargeUpdate

/-- Nothing is done yet. -/
def start (monitor : Battery.Monitor) (files : Files) (store : ConfigStore) :
    ChargeUpdate :=
  ⟨monitor, files, store, none, .asked, fun _ => .idle⟩

/-- A reload goes on. -/
def withReload (u : ChargeUpdate) (n : Nat) (stage : ReloadStage) :
    ChargeUpdate :=
  { u with reloads := fun m => if m = n then stage else u.reloads m }

/-- What comes of a step, if it can be taken. -/
def step? (policy : Battery.ChargePolicy) (u : ChargeUpdate) :
    UpdateStep → Option ChargeUpdate
  | .accept =>
    match u.call with
    | .asked =>
      match u.monitor.setPolicy policy with
      | .error fault =>
        some { u with call := .failed (.invalidArguments fault.message) }
      | .ok monitor =>
        some { u with
          monitor
          files := (monitor.enforce u.files (monitor.current u.files)).2
          call := .accepted }
    | _ => none
  | .lock =>
    match u.call, u.holder with
    | .accepted, none => some { u with holder := some .call, call := .locked }
    | _, _ => none
  | .change =>
    match u.call with
    | .locked =>
      some { u with store := u.store.withCharge policy, call := .changed }
    | _ => none
  | .unlock =>
    match u.call with
    | .changed => some { u with holder := none, call := .unlocked }
    | _ => none
  | .share =>
    match u.call, u.holder with
    | .unlocked, none => some { u with holder := some .call, call := .saving }
    | _, _ => none
  | .write =>
    match u.call with
    | .saving =>
      let temporary := ConfigStore.temporaryPath u.store.path
      match u.files.writeText temporary u.store.text with
      | .error fault =>
        some { u with call := .unsaved (.temporary temporary fault) }
      | .ok files => some { u with files, call := .written }
    | _ => none
  | .move =>
    match u.call with
    | .written =>
      let temporary := ConfigStore.temporaryPath u.store.path
      match u.files.rename temporary u.store.path with
      | .error fault =>
        some { u with call := .unsaved (.move u.store.path fault) }
      | .ok files => some { u with files, call := .saved }
    | _ => none
  | .answer =>
    match u.call with
    | .saved => some { u with holder := none, call := .done }
    | .unsaved fault =>
      some { u with holder := none, call := .failed (.failed fault.message) }
    | _ => none
  | .read n =>
    match u.reloads n with
    | .idle =>
      match u.store.format.read u.files u.store.path with
      | .error fault => some (u.withReload n (.failed fault))
      | .ok new => some (u.withReload n (.read new))
    | _ => none
  | .take n =>
    match u.reloads n, u.holder with
    | .read new, none =>
      some ({ u with holder := some (.reload n) }.withReload n (.locked new))
    | _, _ => none
  | .compare n =>
    match u.reloads n with
    | .locked new =>
      let sections := u.store.config.coldDifferences new
      if sections.isEmpty then
        some ({ u with store := { u.store with config := new } }.withReload n
          (.compared .hot))
      else some (u.withReload n (.compared (.cold sections)))
    | _ => none
  | .release n =>
    match u.reloads n with
    | .compared change =>
      some ({ u with holder := none }.withReload n (.done change))
    | _ => none

/-- What comes of steps, the latest of which is named first, if they can be
taken. -/
def after? (policy : Battery.ChargePolicy) (u : ChargeUpdate) :
    List UpdateStep → Option ChargeUpdate
  | [] => some u
  | step :: earlier =>
    (u.after? policy earlier).bind fun u => u.step? policy step

/-- The ways in which a step can be taken. -/
inductive Takes (policy : Battery.ChargePolicy) (u : ChargeUpdate) :
    UpdateStep → ChargeUpdate → Prop
  | refuse (fault : Battery.ChargePolicyFault) (asked : u.call = .asked)
      (invalid : u.monitor.setPolicy policy = .error fault) :
      Takes policy u .accept
        { u with call := .failed (.invalidArguments fault.message) }
  | accept (monitor : Battery.Monitor) (asked : u.call = .asked)
      (valid : u.monitor.setPolicy policy = .ok monitor) :
      Takes policy u .accept
        { u with
          monitor
          files := (monitor.enforce u.files (monitor.current u.files)).2
          call := .accepted }
  | lock (accepted : u.call = .accepted) (free : u.holder = none) :
      Takes policy u .lock { u with holder := some .call, call := .locked }
  | change (locked : u.call = .locked) :
      Takes policy u .change
        { u with store := u.store.withCharge policy, call := .changed }
  | unlock (changed : u.call = .changed) :
      Takes policy u .unlock { u with holder := none, call := .unlocked }
  | share (unlocked : u.call = .unlocked) (free : u.holder = none) :
      Takes policy u .share { u with holder := some .call, call := .saving }
  | writeFails (fault : FileFault) (saving : u.call = .saving)
      (fails : u.files.writeText (ConfigStore.temporaryPath u.store.path)
        u.store.text = .error fault) :
      Takes policy u .write
        { u with
          call := .unsaved (.temporary
            (ConfigStore.temporaryPath u.store.path) fault) }
  | write (files : Files) (saving : u.call = .saving)
      (writes : u.files.writeText (ConfigStore.temporaryPath u.store.path)
        u.store.text = .ok files) :
      Takes policy u .write { u with files, call := .written }
  | moveFails (fault : FileFault) (written : u.call = .written)
      (fails : u.files.rename (ConfigStore.temporaryPath u.store.path)
        u.store.path = .error fault) :
      Takes policy u .move
        { u with call := .unsaved (.move u.store.path fault) }
  | move (files : Files) (written : u.call = .written)
      (moves : u.files.rename (ConfigStore.temporaryPath u.store.path)
        u.store.path = .ok files) :
      Takes policy u .move { u with files, call := .saved }
  | answer (saved : u.call = .saved) :
      Takes policy u .answer { u with holder := none, call := .done }
  | fail (fault : SaveFault) (unsaved : u.call = .unsaved fault) :
      Takes policy u .answer
        { u with holder := none, call := .failed (.failed fault.message) }
  | readFails (n : Nat) (fault : LoadFault) (idle : u.reloads n = .idle)
      (fails : u.store.format.read u.files u.store.path = .error fault) :
      Takes policy u (.read n) (u.withReload n (.failed fault))
  | read (n : Nat) (new : Config) (idle : u.reloads n = .idle)
      (reads : u.store.format.read u.files u.store.path = .ok new) :
      Takes policy u (.read n) (u.withReload n (.read new))
  | take (n : Nat) (new : Config) (waits : u.reloads n = .read new)
      (free : u.holder = none) :
      Takes policy u (.take n)
        ({ u with holder := some (.reload n) }.withReload n (.locked new))
  | adopt (n : Nat) (new : Config) (locked : u.reloads n = .locked new)
      (hot : u.store.config.coldDifferences new = []) :
      Takes policy u (.compare n)
        ({ u with store := { u.store with config := new } }.withReload n
          (.compared .hot))
  | leave (n : Nat) (new : Config) (locked : u.reloads n = .locked new)
      (cold : u.store.config.coldDifferences new ≠ []) :
      Takes policy u (.compare n)
        (u.withReload n
          (.compared (.cold (u.store.config.coldDifferences new))))
  | release (n : Nat) (change : ConfigChange)
      (compared : u.reloads n = .compared change) :
      Takes policy u (.release n)
        ({ u with holder := none }.withReload n (.done change))

theorem takes_of_step? {policy : Battery.ChargePolicy} {u u' : ChargeUpdate}
    {step : UpdateStep} (h : u.step? policy step = some u') :
    Takes policy u step u' := by
  cases step <;> simp only [step?] at h
  case accept =>
      split at h
      · next hcall =>
          split at h
          · next fault hpolicy =>
              cases h
              exact .refuse fault hcall hpolicy
          · next monitor hpolicy =>
              cases h
              exact .accept monitor hcall hpolicy
      · cases h
  case lock =>
      split at h
      · next hcall hfree =>
          cases h
          exact .lock hcall hfree
      · cases h
  case change =>
      split at h
      · next hcall =>
          cases h
          exact .change hcall
      · cases h
  case unlock =>
      split at h
      · next hcall =>
          cases h
          exact .unlock hcall
      · cases h
  case share =>
      split at h
      · next hcall hfree =>
          cases h
          exact .share hcall hfree
      · cases h
  case write =>
      split at h
      · next hcall =>
          split at h
          · next fault hwrite =>
              cases h
              exact .writeFails fault hcall hwrite
          · next files hwrite =>
              cases h
              exact .write files hcall hwrite
      · cases h
  case move =>
      split at h
      · next hcall =>
          split at h
          · next fault hmove =>
              cases h
              exact .moveFails fault hcall hmove
          · next files hmove =>
              cases h
              exact .move files hcall hmove
      · cases h
  case answer =>
      split at h
      · next hcall =>
          cases h
          exact .answer hcall
      · next fault hcall =>
          cases h
          exact .fail fault hcall
      · cases h
  case read n =>
      split at h
      · next hidle =>
          split at h
          · next fault hread =>
              cases h
              exact .readFails n fault hidle hread
          · next new hread =>
              cases h
              exact .read n new hidle hread
      · cases h
  case take n =>
      split at h
      · next new hwaits hfree =>
          cases h
          exact .take n new hwaits hfree
      · cases h
  case compare n =>
      split at h
      · next new hlocked =>
          split at h
          · next hhot =>
              cases h
              exact .adopt n new hlocked (List.isEmpty_iff.mp hhot)
          · next hcold =>
              cases h
              exact .leave n new hlocked fun hhot =>
                hcold (List.isEmpty_iff.mpr hhot)
      · cases h
  case release n =>
      split at h
      · next change hcompared =>
          cases h
          exact .release n change hcompared
      · cases h

/-! ## The lock -/

/-- Whoever works on the configuration has it locked. -/
structure Exclusive (u : ChargeUpdate) : Prop where
  call : u.call.locks = true → u.holder = some .call
  reload : ∀ n, (u.reloads n).locks = true → u.holder = some (.reload n)

namespace Exclusive

variable {u : ChargeUpdate}

theorem start (monitor : Battery.Monitor) (files : Files)
    (store : ConfigStore) : Exclusive (start monitor files store) :=
  ⟨nofun, nofun⟩

/-- While nobody has the lock, nobody works. -/
theorem idle (h : Exclusive u) (hfree : u.holder = none) (n : Nat) :
    (u.reloads n).locks = false := by
  cases hlocks : (u.reloads n).locks with
  | false => rfl
  | true => cases hfree.symm.trans (h.reload n hlocks)

/-- While the call works, no reload does. -/
theorem waits (h : Exclusive u) (hcall : u.call.locks = true) (n : Nat) :
    (u.reloads n).locks = false := by
  cases hlocks : (u.reloads n).locks with
  | false => rfl
  | true => cases (h.call hcall).symm.trans (h.reload n hlocks)

theorem withReload {n : Nat} {stage : ReloadStage}
    (hcall : u.call.locks = true → u.holder = some .call)
    (hothers : ∀ m, m ≠ n → (u.reloads m).locks = true →
      u.holder = some (.reload m))
    (hown : stage.locks = true → u.holder = some (.reload n)) :
    Exclusive (u.withReload n stage) := by
  refine ⟨hcall, fun m hm => ?_⟩
  simp only [ChargeUpdate.withReload] at hm ⊢
  split at hm
  · next heq => exact heq ▸ hown hm
  · next hne => exact hothers m hne hm

/-- Every step keeps to the lock. -/
theorem step {policy : Battery.ChargePolicy} {u' : ChargeUpdate}
    {step : UpdateStep} (h : Exclusive u) (hstep : u.Takes policy step u') :
    Exclusive u' := by
  have hnobody : ∀ {holder : Option LockHolder},
      (∀ n, (u.reloads n).locks = false) → ∀ n,
      (u.reloads n).locks = true → holder = some (.reload n) := by
    intro holder hidle n hn
    cases (hidle n).symm.trans hn
  cases hstep with
  | refuse fault asked invalid => exact ⟨nofun, h.reload⟩
  | accept monitor asked valid => exact ⟨nofun, h.reload⟩
  | lock accepted free => exact ⟨fun _ => rfl, hnobody (h.idle free)⟩
  | change locked => exact ⟨fun _ => h.call (by rw [locked]; rfl), h.reload⟩
  | unlock changed =>
      exact ⟨nofun, hnobody (h.waits (by rw [changed]; rfl))⟩
  | share unlocked free => exact ⟨fun _ => rfl, hnobody (h.idle free)⟩
  | writeFails fault saving fails =>
      exact ⟨fun _ => h.call (by rw [saving]; rfl), h.reload⟩
  | write files saving writes =>
      exact ⟨fun _ => h.call (by rw [saving]; rfl), h.reload⟩
  | moveFails fault written fails =>
      exact ⟨fun _ => h.call (by rw [written]; rfl), h.reload⟩
  | move files written moves =>
      exact ⟨fun _ => h.call (by rw [written]; rfl), h.reload⟩
  | answer saved => exact ⟨nofun, hnobody (h.waits (by rw [saved]; rfl))⟩
  | fail fault unsaved =>
      exact ⟨nofun, hnobody (h.waits (by rw [unsaved]; rfl))⟩
  | readFails n fault idle fails =>
      exact withReload h.call (fun m _ => h.reload m) nofun
  | read n new idle reads =>
      exact withReload h.call (fun m _ => h.reload m) nofun
  | take n new waits free =>
      refine withReload (fun hcall => ?_) (fun m _ => hnobody (h.idle free) m)
        fun _ => rfl
      cases free.symm.trans (h.call hcall)
  | adopt n new locked hot =>
      exact withReload h.call (fun m _ => h.reload m) fun _ =>
        h.reload n (by rw [locked]; rfl)
  | leave n new locked cold =>
      exact withReload h.call (fun m _ => h.reload m) fun _ =>
        h.reload n (by rw [locked]; rfl)
  | release n change compared =>
      have hheld := h.reload n (by rw [compared]; rfl)
      refine withReload (fun hcall => ?_) (fun m hne hm => ?_) nofun
      · cases hheld.symm.trans (h.call hcall)
      · exact absurd (LockHolder.reload.inj (Option.some.inj
          ((h.reload m hm).symm.trans hheld))) hne

end Exclusive

/-! ## Undisturbed -/

/-- The answer of a save. -/
def savedAnswer : Except SaveFault Unit → Except Control.Fault Control.Value
  | .ok () => .ok .nothing
  | .error fault => .error (.failed fault.message)

/-- A save leaves all of the device but its files and its watcher. -/
theorem save_parts (d : Device) :
    d.save.2 = (d.store.save d.files).2 ∧ d.save.1.monitor = d.monitor
      ∧ d.save.1.files = (d.store.save d.files).1
      ∧ d.save.1.store = d.store := by
  simp only [Device.save]
  generalize d.store.save d.files = r
  cases r.2.isOk <;> simp [Device.noticeEdit]

theorem setChargePolicy_ok {d : Device} {policy : Battery.ChargePolicy}
    {monitor : Battery.Monitor}
    (h : d.monitor.setPolicy policy = .ok monitor) :
    ∃ e : Device, e.monitor = monitor
      ∧ e.files = (monitor.enforce d.files (monitor.current d.files)).2
      ∧ e.store = d.store.withCharge policy
      ∧ d.setChargePolicy policy = (e.save.1, savedAnswer e.save.2) := by
  have hcall : ∀ e : Device, { d with monitor }.enforceWindow = e →
      d.setChargePolicy policy
        = ({ e with store := e.store.withCharge policy }.save.1,
          savedAnswer { e with store := e.store.withCharge policy }.save.2) := by
    intro e he
    unfold Device.setChargePolicy
    rw [h]
    dsimp only
    rw [he]
    generalize Device.save _ = r
    cases r.2 <;> rfl
  exact ⟨_, rfl, rfl, rfl, hcall _ rfl⟩

theorem after?_append (policy : Battery.ChargePolicy) (u : ChargeUpdate)
    (later earlier : List UpdateStep) :
    u.after? policy (later ++ earlier)
      = (u.after? policy earlier).bind fun u => u.after? policy later := by
  induction later with
  | nil => simp [after?]
  | cons step later ih =>
      rw [List.cons_append, after?, ih, Option.bind_assoc]
      rfl

/-- A save that nothing comes between does what the store does. -/
theorem exists_after_save (policy : Battery.ChargePolicy) (u : ChargeUpdate)
    (hsaving : u.call = .saving) :
    ∃ steps u', u.after? policy steps = some u'
      ∧ u'.call.answer? = some (savedAnswer (u.store.save u.files).2)
      ∧ u'.monitor = u.monitor ∧ u'.files = (u.store.save u.files).1
      ∧ u'.store = u.store := by
  unfold ConfigStore.save
  cases hwrite : u.files.writeText (ConfigStore.temporaryPath u.store.path)
      u.store.text with
  | error fault =>
      refine ⟨[.answer, .write], { u with
        holder := none
        call := .failed (.failed (SaveFault.temporary
          (ConfigStore.temporaryPath u.store.path) fault).message) }, ?_⟩
      simp [after?, step?, hsaving, hwrite, CallStage.answer?, savedAnswer]
  | ok written =>
      cases hmove : written.rename (ConfigStore.temporaryPath u.store.path)
          u.store.path with
      | error fault =>
          refine ⟨[.answer, .move, .write], { u with
            files := written
            holder := none
            call := .failed (.failed
              (SaveFault.move u.store.path fault).message) }, ?_⟩
          simp [after?, step?, hsaving, hwrite, hmove, CallStage.answer?,
            savedAnswer]
      | ok moved =>
          refine ⟨[.answer, .move, .write], { u with
            files := moved, holder := none, call := .done }, ?_⟩
          simp [after?, step?, hsaving, hwrite, hmove, CallStage.answer?,
            savedAnswer]

/-- A call that nothing comes between does what the device does. -/
theorem exists_after_call (d : Device) (policy : Battery.ChargePolicy) :
    ∃ steps u, (start d.monitor d.files d.store).after? policy steps = some u
      ∧ u.call.answer? = some (d.setChargePolicy policy).2
      ∧ u.monitor = (d.setChargePolicy policy).1.monitor
      ∧ u.files = (d.setChargePolicy policy).1.files
      ∧ u.store = (d.setChargePolicy policy).1.store := by
  cases hpolicy : d.monitor.setPolicy policy with
  | error fault =>
      refine ⟨[.accept], { start d.monitor d.files d.store with
        call := .failed (.invalidArguments fault.message) }, ?_⟩
      simp [after?, step?, start, hpolicy, Device.setChargePolicy,
        CallStage.answer?]
  | ok monitor =>
      obtain ⟨e, hmonitor, hfiles, hstore, hcall⟩ :=
        setChargePolicy_ok hpolicy
      obtain ⟨hresult, hmonitor', hfiles', hstore'⟩ := save_parts e
      simp only [hcall, hresult, hmonitor', hfiles', hstore', hmonitor,
        hfiles, hstore]
      generalize hset :
        (monitor.enforce d.files (monitor.current d.files)).2 = files
      have hchanging : (start d.monitor d.files d.store).after? policy
            [.share, .unlock, .change, .lock, .accept]
          = some { start monitor files (d.store.withCharge policy) with
            holder := some .call, call := .saving } := by
        simp [after?, step?, start, hpolicy, hset]
      obtain ⟨steps, u, hsteps, hu⟩ := exists_after_save policy
        { start monitor files (d.store.withCharge policy) with
          holder := some .call, call := .saving } rfl
      refine ⟨steps ++ [.share, .unlock, .change, .lock, .accept], u, ?_, hu⟩
      rw [after?_append, hchanging]
      exact hsteps

/-- The steps of a reload that can read the file, the latest first. -/
def reloadSteps (n : Nat) : List UpdateStep :=
  [.release n, .compare n, .take n, .read n]

theorem after?_reload {policy : Battery.ChargePolicy} {u : ChargeUpdate}
    {n : Nat} {new : Config} (hidle : u.reloads n = .idle)
    (hfree : u.holder = none)
    (hread : u.store.format.read u.files u.store.path = .ok new) :
    u.after? policy (reloadSteps n)
      = some (if (u.store.config.coldDifferences new).isEmpty then
          { u with store := { u.store with config := new } }.withReload n
            (.done .hot)
        else u.withReload n
          (.done (.cold (u.store.config.coldDifferences new)))) := by
  have hagain : ∀ (reloads : Nat → ReloadStage) (a b : ReloadStage),
      (fun m => if m = n then b else if m = n then a else reloads m)
        = fun m => if m = n then b else reloads m := by
    intro reloads a b
    funext m
    split <;> rfl
  simp only [reloadSteps, after?, step?, hidle, hread, withReload,
    Option.bind_some, if_true, hfree, hagain]
  split <;> simp [hagain, ← hfree]

/-- A reload that nothing comes between does what the store does. -/
theorem exists_after_reload (policy : Battery.ChargePolicy)
    (u : ChargeUpdate) (n : Nat) (hidle : u.reloads n = .idle)
    (hfree : u.holder = none) :
    ∃ steps, u.after? policy steps = some
      (match u.store.reload u.files with
      | .error fault => u.withReload n (.failed fault)
      | .ok (change, store) =>
        { u with store }.withReload n (.done change)) := by
  unfold ConfigStore.reload
  cases hread : u.store.format.read u.files u.store.path with
  | error fault => exact ⟨[.read n], by simp [after?, step?, hidle, hread]⟩
  | ok new =>
      refine ⟨_, (after?_reload hidle hfree hread).trans ?_⟩
      cases hhot : (u.store.config.coldDifferences new).isEmpty <;>
        simp [hhot, withReload]

end ChargeUpdate

end Gateway
