import Gateway.Config.Document
import Gateway.Proofs.Battery.Calls
import Gateway.Proofs.Config.ChargeUpdate

/-!
# What becomes of a charge window

A call that sets the charge window reports success, and reloads of the file
run beside it. Whether the window is in the file and in force afterwards is
decided by the order of the steps alone (`kept_iff`).

Two orders lose it. A reload that read the old file may put it in force
between the change and the save, which then saves the old window
(`Overtaken`; `overtaken_window_lost` is such a case). And one that
read the old file may be the last to put anything in force (`Undone`).

All others keep it: a reload puts in force what it read, which is the old
configuration if it read before the save was in place and the saved one if
it read afterwards (`Course.carries_of_read`), and since the two differ in
the charge window only, no reload is held back
(`ConfigStore.coldDifferences_withCharge`).
-/

namespace Gateway

namespace Battery

/-! ## The switch -/

/-- Enforcing a window writes nothing but the charger's switch. -/
theorem Monitor.enforce_files (m : Monitor) (fs : Files) (r : Reading) :
    (m.enforce fs r).2 = fs ∨ ∃ charge,
      fs.writeText m.switchFile (switchValue charge)
        = .ok (m.enforce fs r).2 := by
  unfold Monitor.enforce setSwitch
  dsimp only
  split
  · exact .inl rfl
  · next charge _ =>
      cases hwrite : fs.writeText m.switchFile (switchValue charge) with
      | error cause => exact .inl rfl
      | ok files => exact .inr ⟨charge, hwrite⟩

end Battery

namespace ChargeUpdate

/-! ## Orders of steps

The latest step comes first. -/

/-- A reload read the file once the save was in place. -/
def Fresh (n : Nat) (steps : List UpdateStep) : Prop :=
  [.read n, .move].Sublist steps

/-- A reload put what it had read in force after the change and before the
save. -/
def Overtaken (steps : List UpdateStep) : Prop :=
  ∃ n, [.move, .compare n, .change].Sublist steps

/-- The latest reload that put something in force did so after the change,
and had read the file before the save was in place. -/
def Undone : List UpdateStep → Prop
  | [] => False
  | .compare n :: earlier => .change ∈ earlier ∧ ¬ Fresh n earlier
  | _ :: earlier => Undone earlier

/-- Whether a step leaves alone what is in force, what is read and what the
file holds. -/
def isQuiet : UpdateStep → Bool
  | .change | .move | .read _ | .compare _ => false
  | _ => true

section

variable {step : UpdateStep} {steps : List UpdateStep} {n : Nat}

theorem mem_cons_of_ne {other : UpdateStep} (h : step ≠ other) :
    other ∈ step :: steps ↔ other ∈ steps :=
  ⟨fun hmem => (List.mem_cons.mp hmem).resolve_left (Ne.symm h),
    List.mem_cons_of_mem step⟩

theorem Fresh.moved (h : Fresh n steps) : .move ∈ steps :=
  h.subset (by simp)

theorem Overtaken.moved (h : Overtaken steps) : .move ∈ steps := by
  obtain ⟨n, hsublist⟩ := h
  exact hsublist.subset (by simp)

theorem Overtaken.changed (h : Overtaken steps) : .change ∈ steps := by
  obtain ⟨n, hsublist⟩ := h
  exact hsublist.subset (by simp)

theorem undone_cons (h : ∀ n, step ≠ .compare n) :
    Undone (step :: steps) ↔ Undone steps := by
  cases step with
  | compare n => exact absurd rfl (h n)
  | _ => rfl

theorem Undone.changed (h : Undone steps) : .change ∈ steps := by
  induction steps with
  | nil => cases h
  | cons step steps ih =>
      refine List.mem_cons_of_mem step ?_
      by_cases hcompare : ∃ n, step = .compare n
      · obtain ⟨n, rfl⟩ := hcompare
        exact h.1
      · exact ih ((undone_cons fun n heq => hcompare ⟨n, heq⟩).mp h)

theorem fresh_cons (h : step ≠ .read n) :
    Fresh n (step :: steps) ↔ Fresh n steps := by
  simp [Fresh, List.sublist_cons_iff, Ne.symm h]

theorem fresh_read : Fresh n (.read n :: steps) ↔ .move ∈ steps := by
  simp only [Fresh, List.cons_sublist_cons, List.singleton_sublist]

theorem overtaken_cons (h : step ≠ .move) :
    Overtaken (step :: steps) ↔ Overtaken steps := by
  simp [Overtaken, List.sublist_cons_iff, Ne.symm h]

/-- Before the save is in place, everything a reload puts in force is old. -/
theorem undone_iff (h : .move ∉ steps) :
    Undone steps ↔ ∃ n, [.compare n, .change].Sublist steps := by
  induction steps with
  | nil => simp [Undone]
  | cons step steps ih =>
      have hbefore : .move ∉ steps := fun hmem =>
        h (List.mem_cons_of_mem step hmem)
      by_cases hcompare : ∃ n, step = .compare n
      · obtain ⟨n, rfl⟩ := hcompare
        have hstale : ¬ Fresh n steps := fun hfresh => hbefore hfresh.moved
        constructor
        · rintro ⟨hchange, -⟩
          exact ⟨n, List.cons_sublist_cons.mpr
            (List.singleton_sublist.mpr hchange)⟩
        · rintro ⟨m, hsublist⟩
          exact ⟨hsublist.of_cons_cons.subset (by simp), hstale⟩
      · have hne : ∀ m, step ≠ .compare m := fun m heq => hcompare ⟨m, heq⟩
        rw [undone_cons hne, ih hbefore]
        simp [List.sublist_cons_iff, fun m => Ne.symm (hne m)]

/-- The save that is put in place holds what was in force. -/
theorem overtaken_move (h : .move ∉ steps) :
    Overtaken (.move :: steps) ↔ Undone steps := by
  simp only [undone_iff h, Overtaken, List.cons_sublist_cons]

end

/-! ## Old and new -/

variable {store : ConfigStore} {policy : Battery.ChargePolicy}

/-- A configuration is the one with the new window if something holds, and
else the one that was in force first. -/
structure Carries (store : ConfigStore) (policy : Battery.ChargePolicy)
    (p : Prop) (c : Config) : Prop where
  new : p → c = (store.withCharge policy).config
  old : ¬ p → c = store.config

namespace Carries

variable {p q : Prop} {c d : Config}

theorem congr (h : Carries store policy p c) (hiff : p ↔ q) :
    Carries store policy q c :=
  ⟨fun hq => h.new (hiff.mpr hq), fun hq => h.old fun hp => hq (hiff.mp hp)⟩

theorem new_or_old (h : Carries store policy p c) :
    c = (store.withCharge policy).config ∨ c = store.config := by
  by_cases hp : p
  · exact .inl (h.new hp)
  · exact .inr (h.old hp)

theorem exists_charge (h : Carries store policy p c) :
    ∃ charge, c = (store.withCharge charge).config := by
  rcases h.new_or_old with rfl | rfl
  · exact ⟨policy, rfl⟩
  · exact ⟨store.config.battery.charge, rfl⟩

/-- Going from one to the other needs no restart. -/
theorem coldDifferences (h : Carries store policy p c)
    (h' : Carries store policy q d) : c.coldDifferences d = [] := by
  obtain ⟨a, rfl⟩ := h.exists_charge
  obtain ⟨b, rfl⟩ := h'.exists_charge
  exact ConfigStore.coldDifferences_withCharge store a b

/-- The new window is there just if it was put there or was there before. -/
theorem charge_eq_iff (h : Carries store policy p c) :
    c.battery.charge = policy ↔ store.config.battery.charge = policy ∨ p := by
  by_cases hp : p
  · rw [h.new hp]
    simp [hp, ConfigStore.withCharge]
  · rw [h.old hp]
    simp [hp]

end Carries

/-! ## What every order keeps -/

/-- Whether a call at a stage has changed the configuration. -/
def hasChanged : CallStage → Bool
  | .asked | .accepted | .locked => false
  | _ => true

/-- Whether a call at a stage has written the temporary file. -/
def hasWritten : CallStage → Bool
  | .asked | .accepted | .locked | .changed | .unlocked | .saving => false
  | _ => true

/-- Whether a call at a stage has its save in place. -/
def hasMoved : CallStage → Bool
  | .saved | .done => true
  | _ => false

/-- Whether a call at a stage is refused or its save has failed. -/
def hasFailed : CallStage → Bool
  | .unsaved _ | .failed _ => true
  | _ => false

/-- What holds after any steps as long as the call does not fail. -/
structure Course (store : ConfigStore) (policy : Battery.ChargePolicy)
    (steps : List UpdateStep) (u : ChargeUpdate) : Prop where
  path : u.store.path = store.path
  format : u.store.format = store.format
  changed : .change ∈ steps ↔ hasChanged u.call = true
  moved : .move ∈ steps ↔ hasMoved u.call = true
  /-- What is in force. -/
  config : Carries store policy
    (.change ∈ steps ∧ ¬ Overtaken steps ∧ ¬ Undone steps) u.store.config
  /-- What a reload is about to put in force. -/
  read : ∀ n c, u.reloads n = .read c ∨ u.reloads n = .locked c →
    Carries store policy (Fresh n steps ∧ ¬ Overtaken steps) c
  /-- The file as long as the save is not in place. Enforcing the window may
  have spoiled it, if the charger's switch is that file. -/
  unsaved : .move ∉ steps → ∃ text, u.files.readText store.path = .ok text
    ∧ ∀ c, store.format.parse? text = some c → c = store.config
  plain : hasWritten u.call = false →
    ¬ u.files.LeadsToDevice (ConfigStore.temporaryPath store.path)
  written : u.call = .written →
    u.files.readText (ConfigStore.temporaryPath store.path)
      = .ok u.store.text.toList
  /-- The file once the save is in place. -/
  saved : .move ∈ steps → ∃ c,
    u.files.readText store.path = .ok (store.format.text c).toList
      ∧ Carries store policy (¬ Overtaken steps) c
  valid : u.call ≠ .asked → policy.validate = .ok ()

namespace Course

variable {steps : List UpdateStep} {u : ChargeUpdate}

theorem start {monitor : Battery.Monitor} {files : Files}
    (hread : store.format.read files store.path = .ok store.config)
    (hplain : ¬ files.LeadsToDevice
      (ConfigStore.temporaryPath store.path)) :
    Course store policy [] (start monitor files store) where
  path := rfl
  format := rfl
  changed := by simp [ChargeUpdate.start, hasChanged]
  moved := by simp [ChargeUpdate.start, hasMoved]
  config := ⟨fun h => absurd h.1 List.not_mem_nil, fun _ => rfl⟩
  read n c hreload := by
    rcases hreload with h | h <;> cases h
  unsaved _ := by
    obtain ⟨text, htext, hparse, -⟩ := Config.Format.read_ok_iff.mp hread
    exact ⟨text, htext, fun c hc => Option.some.inj (hc.symm.trans hparse)⟩
  plain _ := hplain
  written := nofun
  saved h := absurd h List.not_mem_nil
  valid h := absurd rfl h

section

variable {step : UpdateStep}

theorem read_cons (h : Course store policy steps u) (hmove : step ≠ .move)
    (n : Nat) (hread : step ≠ .read n) (c : Config)
    (hreload : u.reloads n = .read c ∨ u.reloads n = .locked c) :
    Carries store policy
      (Fresh n (step :: steps) ∧ ¬ Overtaken (step :: steps)) c :=
  (h.read n c hreload).congr
    (and_congr (fresh_cons hread).symm (not_congr (overtaken_cons hmove).symm))

theorem unsaved_cons (h : Course store policy steps u)
    (hbefore : .move ∉ step :: steps) :
    ∃ text, u.files.readText store.path = .ok text
      ∧ ∀ c, store.format.parse? text = some c → c = store.config :=
  h.unsaved fun hmoved => hbefore (List.mem_cons_of_mem step hmoved)

theorem saved_cons (h : Course store policy steps u) (hmove : step ≠ .move)
    (hmoved : .move ∈ step :: steps) :
    ∃ c, u.files.readText store.path = .ok (store.format.text c).toList
      ∧ Carries store policy (¬ Overtaken (step :: steps)) c := by
  obtain ⟨c, htext, hcarries⟩ := h.saved ((mem_cons_of_ne hmove).mp hmoved)
  exact ⟨c, htext, hcarries.congr (not_congr (overtaken_cons hmove).symm)⟩

theorem config_cons (h : Course store policy steps u)
    (hchange : step ≠ .change) (hmove : step ≠ .move)
    (hcompare : ∀ n, step ≠ .compare n) :
    Carries store policy (.change ∈ step :: steps
      ∧ ¬ Overtaken (step :: steps) ∧ ¬ Undone (step :: steps))
      u.store.config :=
  h.config.congr (and_congr (mem_cons_of_ne hchange).symm
    (and_congr (not_congr (overtaken_cons hmove).symm)
      (not_congr (undone_cons hcompare).symm)))

/-- Quiet steps may come anywhere. -/
theorem cons (h : Course store policy steps u) (hquiet : isQuiet step) :
    Course store policy (step :: steps) u := by
  have hchange : step ≠ .change := by
    rintro rfl
    cases hquiet
  have hmove : step ≠ .move := by
    rintro rfl
    cases hquiet
  have hread : ∀ n, step ≠ .read n := by
    rintro n rfl
    cases hquiet
  have hcompare : ∀ n, step ≠ .compare n := by
    rintro n rfl
    cases hquiet
  exact {
    path := h.path
    format := h.format
    changed := (mem_cons_of_ne hchange).trans h.changed
    moved := (mem_cons_of_ne hmove).trans h.moved
    config := h.config_cons hchange hmove hcompare
    read := fun n => h.read_cons hmove n (hread n)
    unsaved := h.unsaved_cons
    plain := h.plain
    written := h.written
    saved := h.saved_cons hmove
    valid := h.valid }

end

/-- The call goes on with the configuration and the files as they are. -/
theorem withCall (h : Course store policy steps u)
    (holder : Option LockHolder) {old stage : CallStage}
    (hcall : u.call = old) (hasked : old ≠ .asked)
    (hchanged : hasChanged stage = hasChanged old)
    (hwritten : hasWritten stage = hasWritten old)
    (hmoved : hasMoved stage = hasMoved old) (hstage : stage ≠ .written) :
    Course store policy steps { u with holder, call := stage } := by
  subst hcall
  exact { h with
    changed := hchanged ▸ h.changed
    moved := hmoved ▸ h.moved
    plain := fun hbefore => h.plain (hwritten ▸ hbefore)
    written := fun heq => absurd heq hstage
    valid := fun _ => h.valid hasked }

/-- A reload goes on with what it read. -/
theorem withReload (h : Course store policy steps u)
    (holder : Option LockHolder) {n : Nat} {stage : ReloadStage}
    (hstage : ∀ c, stage = .read c ∨ stage = .locked c →
      Carries store policy (Fresh n steps ∧ ¬ Overtaken steps) c) :
    Course store policy steps ({ u with holder }.withReload n stage) :=
  { h with
    read := fun m c hreload => by
      simp only [ChargeUpdate.withReload] at hreload
      split at hreload
      · next heq => exact heq ▸ hstage c hreload
      · exact h.read m c hreload }

/-- A reload reads the file. -/
theorem read_step (h : Course store policy steps u) {n : Nat}
    {stage : ReloadStage}
    (hstage : ∀ c, stage = .read c ∨ stage = .locked c →
      Carries store policy (.move ∈ steps ∧ ¬ Overtaken steps) c) :
    Course store policy (.read n :: steps) (u.withReload n stage) where
  path := h.path
  format := h.format
  changed := (mem_cons_of_ne (by simp)).trans h.changed
  moved := (mem_cons_of_ne (by simp)).trans h.moved
  config := h.config_cons (by simp) (by simp) (by simp)
  read m c hreload := by
    simp only [ChargeUpdate.withReload] at hreload
    split at hreload
    · next heq =>
        subst heq
        exact (hstage c hreload).congr (and_congr fresh_read.symm
          (not_congr (overtaken_cons (by simp)).symm))
    · next hne =>
        exact h.read_cons (by simp) m
          (fun heq => hne (UpdateStep.read.inj heq).symm) c hreload
  unsaved := h.unsaved_cons
  plain := h.plain
  written := h.written
  saved := h.saved_cons (by simp)
  valid := h.valid

theorem change_step (h : Course store policy steps u)
    (locked : u.call = .locked) :
    Course store policy (.change :: steps)
      { u with store := u.store.withCharge policy, call := .changed } := by
  have hchange : .change ∉ steps := fun hmem => by
    have hyes := h.changed.mp hmem
    rw [locked] at hyes
    cases hyes
  have hold : u.store.config = store.config :=
    h.config.old fun hnew => hchange hnew.1
  exact {
    path := h.path
    format := h.format
    changed := ⟨fun _ => rfl, fun _ => List.mem_cons_self⟩
    moved := (mem_cons_of_ne (by simp)).trans
      (h.moved.trans (by simp [locked, hasMoved]))
    config := by
      refine ⟨fun _ => ?_, fun hnot => absurd ⟨List.mem_cons_self, ?_, ?_⟩ hnot⟩
      · simp only [ConfigStore.withCharge, hold]
      · rw [overtaken_cons (by simp)]
        exact fun hovertaken => hchange hovertaken.changed
      · rw [undone_cons (by simp)]
        exact fun hundone => hchange hundone.changed
    read := fun n => h.read_cons (by simp) n (by simp)
    unsaved := h.unsaved_cons
    plain := fun _ => h.plain (by rw [locked]; rfl)
    written := nofun
    saved := h.saved_cons (by simp)
    valid := fun _ => h.valid (by simp [locked]) }

/-- The window is validated and enforced. -/
theorem accept_step (h : Course store policy steps u)
    {monitor : Battery.Monitor} (asked : u.call = .asked)
    (valid : u.monitor.setPolicy policy = .ok monitor) :
    Course store policy (.accept :: steps) { u with
      monitor
      files := (monitor.enforce u.files (monitor.current u.files)).2
      call := .accepted } := by
  have hbefore : .move ∉ steps := fun hmem => by
    simpa [asked, hasMoved] using h.moved.mp hmem
  have hfiles := Battery.Monitor.enforce_files monitor u.files
    (monitor.current u.files)
  generalize (monitor.enforce u.files (monitor.current u.files)).2 = files
    at hfiles
  have hcourse : Course store policy (.accept :: steps) u := h.cons rfl
  exact { hcourse with
    changed := hcourse.changed.trans (by simp [asked, hasChanged])
    moved := hcourse.moved.trans (by simp [asked, hasMoved])
    unsaved := fun _ => by
      obtain ⟨text, htext, hparse⟩ := h.unsaved hbefore
      rcases hfiles with rfl | ⟨charge, hwrite⟩
      · exact ⟨text, htext, hparse⟩
      · rcases Files.readText_of_writeText_cases hwrite htext with
          hsame | hspoiled
        · exact ⟨text, hsame, hparse⟩
        · -- The switch is the configuration file itself.
          refine ⟨_, hspoiled, fun c hc => ?_⟩
          rw [store.format.parse?_switchValue] at hc
          cases hc
    plain := fun _ hdevice => by
      refine h.plain (by rw [asked]; rfl) ?_
      rcases hfiles with rfl | ⟨charge, hwrite⟩
      · exact hdevice
      · exact hdevice.of_writeText hwrite
    written := nofun
    saved := fun hmoved =>
      absurd ((mem_cons_of_ne (by simp)).mp hmoved) hbefore
    valid := fun _ => (Battery.Monitor.setPolicy_ok_iff.mp valid).1 }

theorem write_step (h : Course store policy steps u) {files : Files}
    (saving : u.call = .saving)
    (writes : u.files.writeText (ConfigStore.temporaryPath u.store.path)
      u.store.text = .ok files) :
    Course store policy (.write :: steps)
      { u with files, call := .written } := by
  have hbefore : .move ∉ steps := fun hmem => by
    simpa [saving, hasMoved] using h.moved.mp hmem
  have hcourse : Course store policy (.write :: steps) u := h.cons rfl
  rw [h.path] at writes
  exact { hcourse with
    changed := hcourse.changed.trans (by simp [saving, hasChanged])
    moved := hcourse.moved.trans (by simp [saving, hasMoved])
    unsaved := fun _ => by
      obtain ⟨text, htext, hparse⟩ := h.unsaved hbefore
      obtain ⟨place, entry, hfind, hfile⟩ := Files.find_of_readText htext
      have hother := ConfigStore.target_temporaryPath_ne hfind hfile
      exact ⟨text,
        (Files.readText_of_writeText_ne writes hfind hother).trans htext,
        hparse⟩
    plain := nofun
    written := fun _ => Files.readText_of_writeText writes
      (h.plain (by rw [saving]; rfl))
    saved := fun hmoved =>
      absurd ((mem_cons_of_ne (by simp)).mp hmoved) hbefore
    valid := fun _ => h.valid (by simp [saving]) }

theorem move_step (h : Course store policy steps u) {files : Files}
    (written : u.call = .written)
    (moves : u.files.rename (ConfigStore.temporaryPath u.store.path)
      u.store.path = .ok files) :
    Course store policy (.move :: steps)
      { u with files, call := .saved } := by
  have hbefore : .move ∉ steps := fun hmem => by
    simpa [written, hasMoved] using h.moved.mp hmem
  have hchange : .change ∈ steps := h.changed.mpr (by rw [written]; rfl)
  have hovertaken : ¬ Overtaken steps := fun hyes => hbefore hyes.moved
  -- What is saved is in force: the lock has kept the reloads out since the
  -- text was written.
  have hconfig : Carries store policy (¬ Overtaken (.move :: steps))
      u.store.config :=
    h.config.congr (by simp [hchange, hovertaken, overtaken_move hbefore])
  rw [h.path] at moves
  exact {
    path := h.path
    format := h.format
    changed := (mem_cons_of_ne (by simp)).trans
      (h.changed.trans (by simp [written, hasChanged]))
    moved := ⟨fun _ => rfl, fun _ => List.mem_cons_self⟩
    config := hconfig.congr (by
      simp [hchange, overtaken_move hbefore, undone_cons])
    read := fun n c hreload => (h.read n c hreload).congr (by
      have hstale : ¬ Fresh n steps := fun hfresh => hbefore hfresh.moved
      simp [hstale, fresh_cons])
    unsaved := fun hnot => absurd List.mem_cons_self hnot
    plain := nofun
    written := nofun
    saved := fun _ => ⟨u.store.config,
      h.format ▸ Files.readText_of_rename moves (h.written written), hconfig⟩
    valid := fun _ => h.valid (by simp [written]) }

/-- A reload puts in force what it read. -/
theorem adopt_step (h : Course store policy steps u) {n : Nat} {new : Config}
    (locked : u.reloads n = .locked new)
    (hcall : u.call ≠ .written) :
    Course store policy (.compare n :: steps)
      ({ u with store := { u.store with config := new } }.withReload n
        (.compared .hot)) := by
  have hfresh : Fresh n steps → .change ∈ steps := fun hfresh => by
    have hmoved := h.moved.mp hfresh.moved
    refine h.changed.mpr ?_
    cases hstage : u.call <;> simp_all [hasMoved, hasChanged]
  have hcourse : Course store policy (.compare n :: steps)
      { u with store := { u.store with config := new } } :=
    { path := h.path
      format := h.format
      changed := (mem_cons_of_ne (by simp)).trans h.changed
      moved := (mem_cons_of_ne (by simp)).trans h.moved
      config := (h.read n new (.inr locked)).congr (by
        rw [overtaken_cons (by simp), mem_cons_of_ne (by simp), Undone]
        constructor
        · rintro ⟨hread, hnot⟩
          exact ⟨hfresh hread, hnot, fun hundone => hundone.2 hread⟩
        · rintro ⟨hchange, hnot, hundone⟩
          exact ⟨Classical.byContradiction fun hstale =>
            hundone ⟨hchange, hstale⟩, hnot⟩)
      read := fun m => h.read_cons (by simp) m (by simp)
      unsaved := h.unsaved_cons
      plain := h.plain
      written := fun hwritten => absurd hwritten hcall
      saved := h.saved_cons (by simp)
      valid := h.valid }
  exact hcourse.withReload u.holder (by simp)

/-- A reload that ends reading before the save is in place reads what was
first in force, and one that ends afterwards what was saved. -/
theorem carries_of_read (h : Course store policy steps u)
    (hold : store.format.parse? store.text.toList = some store.config)
    (hnew : store.format.parse? (store.withCharge policy).text.toList
      = some (store.withCharge policy).config) {c : Config}
    (hread : u.store.format.read u.files u.store.path = .ok c) :
    Carries store policy (.move ∈ steps ∧ ¬ Overtaken steps) c := by
  rw [h.format, h.path] at hread
  obtain ⟨text, htext, hparse, -⟩ := Config.Format.read_ok_iff.mp hread
  by_cases hmoved : .move ∈ steps
  · obtain ⟨saved, hsaved, hcarries⟩ := h.saved hmoved
    have hloads : store.format.parse? (store.format.text saved).toList
        = some saved := by
      rcases hcarries.new_or_old with rfl | rfl
      · exact hnew
      · exact hold
    rw [Except.ok.inj (htext.symm.trans hsaved), hloads] at hparse
    obtain rfl := Option.some.inj hparse
    exact hcarries.congr (by simp [hmoved])
  · obtain ⟨unsaved, hunsaved, hfirst⟩ := h.unsaved hmoved
    obtain rfl := Except.ok.inj (htext.symm.trans hunsaved)
    exact ⟨fun hyes => absurd hyes.1 hmoved, fun _ => hfirst c hparse⟩

/-- A step keeps to the course, or the call fails. -/
theorem step (h : Course store policy steps u) (hexclusive : Exclusive u)
    (hold : store.format.parse? store.text.toList = some store.config)
    (hnew : store.format.parse? (store.withCharge policy).text.toList
      = some (store.withCharge policy).config)
    {step : UpdateStep} {u' : ChargeUpdate}
    (hstep : u.Takes policy step u') :
    hasFailed u'.call = true ∨ Course store policy (step :: steps) u' := by
  cases hstep with
  | refuse fault asked invalid => exact .inl rfl
  | accept monitor asked valid => exact .inr (h.accept_step asked valid)
  | lock accepted free =>
      exact .inr ((h.cons rfl).withCall (some .call) accepted (by simp) rfl rfl
        rfl (by simp))
  | change locked => exact .inr (h.change_step locked)
  | unlock changed =>
      exact .inr ((h.cons rfl).withCall none changed (by simp) rfl rfl
        rfl (by simp))
  | share unlocked free =>
      exact .inr ((h.cons rfl).withCall (some .call) unlocked (by simp) rfl rfl
        rfl (by simp))
  | writeFails fault saving fails => exact .inl rfl
  | write files saving writes => exact .inr (h.write_step saving writes)
  | moveFails fault written fails => exact .inl rfl
  | move files written moves => exact .inr (h.move_step written moves)
  | answer saved =>
      exact .inr ((h.cons rfl).withCall none saved (by simp) rfl rfl
        rfl (by simp))
  | fail fault unsaved => exact .inl rfl
  | readFails n fault idle fails => exact .inr (h.read_step (by simp))
  | read n new idle reads =>
      refine .inr (h.read_step fun c hc => ?_)
      have hsame : new = c := by simpa using hc
      exact hsame ▸ h.carries_of_read hold hnew reads
  | take n new waits free =>
      refine .inr ((h.cons rfl).withReload (some (.reload n)) fun c hc => ?_)
      have hsame : new = c := by simpa using hc
      exact h.read_cons (by simp) n (by simp) c (.inl (hsame ▸ waits))
  | adopt n new locked hot =>
      refine .inr (h.adopt_step locked fun hwritten => ?_)
      have hidle := hexclusive.waits (by rw [hwritten]; rfl) n
      rw [locked] at hidle
      cases hidle
  | leave n new locked cold =>
      exact absurd (h.config.coldDifferences (h.read n new (.inr locked))) cold
  | release n change compared =>
      exact .inr ((h.cons rfl).withReload none (by simp))

end Course

/-- A call that fails stays failed. -/
theorem hasFailed_step {u u' : ChargeUpdate} {step : UpdateStep}
    (h : hasFailed u.call = true) (hstep : u.Takes policy step u') :
    hasFailed u'.call = true := by
  cases hstep <;> simp_all [hasFailed, withReload]

/-- Any steps keep to the course, or the call fails. -/
theorem course_of_after? {monitor : Battery.Monitor} {files : Files}
    (hread : store.format.read files store.path = .ok store.config)
    (hplain : ¬ files.LeadsToDevice
      (ConfigStore.temporaryPath store.path))
    (hold : store.format.parse? store.text.toList = some store.config)
    (hnew : store.format.parse? (store.withCharge policy).text.toList
      = some (store.withCharge policy).config)
    {steps : List UpdateStep} {u : ChargeUpdate}
    (hsteps : (start monitor files store).after? policy steps = some u) :
    Exclusive u
      ∧ (hasFailed u.call = true ∨ Course store policy steps u) := by
  induction steps generalizing u with
  | nil =>
      cases hsteps
      exact ⟨Exclusive.start _ _ _, .inr (Course.start hread hplain)⟩
  | cons step steps ih =>
      obtain ⟨before, hbefore, hstep⟩ := Option.bind_eq_some_iff.mp hsteps
      obtain ⟨hexclusive, hcourse⟩ := ih hbefore
      have htakes := takes_of_step? hstep
      refine ⟨hexclusive.step htakes, ?_⟩
      rcases hcourse with hfailed | hcourse
      · exact .inl (hasFailed_step hfailed htakes)
      · exact hcourse.step hexclusive hold hnew htakes

/-! ## The window afterwards -/

/-- Of a call that succeeds, the window is in the file unless a reload came
between the change and the save with an old configuration, and in force
unless that happened or an old configuration was put in force last. -/
theorem kept_iff {monitor : Battery.Monitor} {files : Files}
    (hread : store.format.read files store.path = .ok store.config)
    (hplain : ¬ files.LeadsToDevice
      (ConfigStore.temporaryPath store.path))
    (hold : store.format.parse? store.text.toList = some store.config)
    (hnew : store.format.parse? (store.withCharge policy).text.toList
      = some (store.withCharge policy).config)
    {steps : List UpdateStep} {u : ChargeUpdate}
    (hsteps : (start monitor files store).after? policy steps = some u)
    (hdone : u.call.answer? = some (.ok .nothing)) :
    (∃ c, u.store.format.read u.files u.store.path = .ok c
        ∧ (c.battery.charge = policy
          ↔ store.config.battery.charge = policy ∨ ¬ Overtaken steps))
      ∧ (u.store.config.battery.charge = policy
        ↔ store.config.battery.charge = policy
          ∨ ¬ Overtaken steps ∧ ¬ Undone steps) := by
  have hstage : u.call = .done := by
    unfold CallStage.answer? at hdone
    split at hdone
    · assumption
    · cases hdone
    · cases hdone
  obtain ⟨-, hfailed | hcourse⟩ :=
    course_of_after? hread hplain hold hnew hsteps
  · rw [hstage] at hfailed
    cases hfailed
  have hchanged : .change ∈ steps :=
    hcourse.changed.mpr (by rw [hstage]; rfl)
  obtain ⟨c, htext, hcarries⟩ :=
    hcourse.saved (hcourse.moved.mpr (by rw [hstage]; rfl))
  obtain ⟨-, -, -, hversion, hvalid⟩ := Config.Format.read_ok_iff.mp hread
  have hpolicy := hcourse.valid (by simp [hstage])
  have hloads : store.format.parse? (store.format.text c).toList = some c
      ∧ c.version = 1
      ∧ c.validate = .ok () := by
    rcases hcarries.new_or_old with rfl | rfl
    · exact ⟨hnew, hversion, ConfigStore.validate_withCharge hvalid hpolicy⟩
    · exact ⟨hold, hversion, hvalid⟩
  refine ⟨⟨c, ?_, hcarries.charge_eq_iff⟩, ?_⟩
  · rw [hcourse.format, hcourse.path]
    exact Config.Format.read_ok_iff.mpr ⟨_, htext, hloads⟩
  · simpa [hchanged] using hcourse.config.charge_eq_iff

/-- The built-in configuration and a file that sets nothing else. -/
def builtInStart : ChargeUpdate :=
  let file := ConfigStore.standardPath
  let files := (Files.empty.makeDirectories (Path.parent file)).put
    (Path.names file) (.file "version: 1\n".toUTF8.toList)
  start (.new "uevent" "stop_charge" .initial) files ⟨.builtIn, file⟩

theorem read_builtInStart :
    builtInStart.store.format.read builtInStart.files builtInStart.store.path
      = .ok builtInStart.store.config :=
  Config.Format.read_of_toOption (by decide +kernel)

/-- Going back to the built-in configuration needs no restart. -/
theorem after?_reloadSteps_builtIn {policy : Battery.ChargePolicy}
    (charge : Battery.ChargePolicy) {u : ChargeUpdate} {n : Nat}
    (hidle : u.reloads n = .idle) (hfree : u.holder = none)
    (hfiles : u.files = builtInStart.files)
    (hstore : u.store = builtInStart.store.withCharge charge) :
    u.after? policy (reloadSteps n)
      = some ({ u with store := builtInStart.store }.withReload n
        (.done .hot)) := by
  have hread : u.store.format.read u.files u.store.path
      = .ok builtInStart.store.config := by
    rw [hfiles, hstore]
    exact read_builtInStart
  have hcold : u.store.config.coldDifferences builtInStart.store.config
      = [] := by
    rw [hstore]
    exact ConfigStore.coldDifferences_withCharge _ _ .initial
  rw [after?_reload hidle hfree hread, hcold, hstore]
  rfl

/-- A charge window other than the built-in one. -/
def narrow : Battery.ChargePolicy := ⟨true, 30, 70⟩

set_option maxRecDepth 100000 in
theorem parse?_text_builtIn :
    builtInStart.store.format.parse? builtInStart.store.text.toList
      = some builtInStart.store.config := by
  change Config.parse? (Config.text .builtIn).toList = some .builtIn
  rw [Config.text, Yaml.write, String.toList_ofList]
  decide +kernel

set_option maxRecDepth 100000 in
theorem parse?_text_narrow :
    builtInStart.store.format.parse?
        (builtInStart.store.withCharge narrow).text.toList
      = some (builtInStart.store.withCharge narrow).config := by
  change Config.parse? (Config.text { Config.builtIn with
    battery.charge := narrow }).toList = some { Config.builtIn with
      battery.charge := narrow }
  rw [Config.text, Yaml.write, String.toList_ofList]
  decide +kernel

/-- The steps of a call that succeeds, the latest first. -/
def callSteps : List UpdateStep :=
  [.answer, .move, .write, .share, .unlock, .change, .lock, .accept]

/-- A reload that is over before the call takes nothing away. -/
theorem kept_iff_reloaded_before :
    ∃ u, builtInStart.after? narrow (callSteps ++ reloadSteps 0) = some u
      ∧ (∃ c, u.store.format.read u.files u.store.path = .ok c
        ∧ c.battery.charge = narrow)
      ∧ u.store.config.battery.charge = narrow := by
  have hdone : ((builtInStart.withReload 0 (.done .hot)).after? narrow
      callSteps).map (·.call) = some .done := by
    decide +kernel
  obtain ⟨u, hcall, hstage⟩ := Option.map_eq_some_iff.mp hdone
  have hreload : builtInStart.after? narrow (reloadSteps 0)
      = some (builtInStart.withReload 0 (.done .hot)) :=
    after?_reloadSteps_builtIn .initial rfl rfl rfl rfl
  have hsteps : (start builtInStart.monitor builtInStart.files
      builtInStart.store).after? narrow (callSteps ++ reloadSteps 0)
      = some u := by
    have hstart : start builtInStart.monitor builtInStart.files
        builtInStart.store = builtInStart := rfl
    rw [hstart, after?_append, hreload, Option.bind_some]
    exact hcall
  have habsent : (builtInStart.files.find (ConfigStore.temporaryPath
      builtInStart.store.path)).toOption = none := by decide +kernel
  obtain ⟨⟨c, hread, hfile⟩, hforce⟩ := kept_iff read_builtInStart
    (by
      rintro ⟨place, device, hfind⟩
      rw [hfind] at habsent
      cases habsent)
    parse?_text_builtIn parse?_text_narrow hsteps (by rw [hstage]; rfl)
  have hordered : ¬ Overtaken (callSteps ++ reloadSteps 0)
      ∧ ¬ Undone (callSteps ++ reloadSteps 0) := by
    constructor
    · change ¬ Overtaken (.answer :: .move :: _)
      rw [overtaken_cons (by simp), overtaken_move (by decide)]
      simp [Undone, reloadSteps]
    · simp [Undone, callSteps, reloadSteps]
  exact ⟨u, hsteps, ⟨c, hread, hfile.mpr (.inr hordered.1)⟩,
    hforce.mpr (.inr hordered)⟩

/-! ## A window that is lost -/

/-- Whether a reload at a stage is under way. -/
def isUnderWay : ReloadStage → Bool
  | .read _ | .locked _ | .compared _ => true
  | _ => false

/-- A reload begins by reading the file. -/
theorem idle_step {u u' : ChargeUpdate} {step : UpdateStep} {n : Nat}
    (hidle : u.reloads n = .idle) (hread : step ≠ .read n)
    (hstep : u.Takes policy step u') : u'.reloads n = .idle := by
  have hother : ∀ m, u.reloads m ≠ .idle → n ≠ m := by
    rintro m hbusy rfl
    exact hbusy hidle
  cases hstep with
  | readFails m fault idle fails =>
      have hne : n ≠ m := fun heq => hread (heq ▸ rfl)
      simpa [withReload, hne] using hidle
  | read m new idle reads =>
      have hne : n ≠ m := fun heq => hread (heq ▸ rfl)
      simpa [withReload, hne] using hidle
  | take m new waits free =>
      simpa [withReload, hother m (by simp [waits])] using hidle
  | adopt m new locked hot =>
      simpa [withReload, hother m (by simp [locked])] using hidle
  | leave m new locked cold =>
      simpa [withReload, hother m (by simp [locked])] using hidle
  | release m change compared =>
      simpa [withReload, hother m (by simp [compared])] using hidle
  | _ => exact hidle

theorem idle_of_after? {u u' : ChargeUpdate} {steps : List UpdateStep}
    {n : Nat} (hidle : u.reloads n = .idle) (hread : .read n ∉ steps)
    (hsteps : u.after? policy steps = some u') : u'.reloads n = .idle := by
  induction steps generalizing u' with
  | nil => exact Option.some.inj hsteps ▸ hidle
  | cons step steps ih =>
      obtain ⟨before, hbefore, hstep⟩ := Option.bind_eq_some_iff.mp hsteps
      rw [List.mem_cons, not_or] at hread
      exact idle_step (ih hread.2 hbefore) (Ne.symm hread.1)
        (takes_of_step? hstep)

/-- The window is changed but not saved. -/
def changedStart : ChargeUpdate :=
  { builtInStart with
    monitor := { builtInStart.monitor with policy := narrow }
    store := builtInStart.store.withCharge narrow
    call := .unlocked }

theorem after?_changedStart :
    builtInStart.after? narrow [.unlock, .change, .lock, .accept]
      = some changedStart := by
  rfl

/-- Not every window that was set with success is kept: a reload that comes
before the save puts the old one in force, which is then saved. -/
theorem overtaken_window_lost :
    ¬ ∀ (monitor : Battery.Monitor) (files : Files) (store : ConfigStore)
        (policy : Battery.ChargePolicy) (steps : List UpdateStep)
        (u : ChargeUpdate),
      store.format.read files store.path = .ok store.config →
      (start monitor files store).after? policy steps = some u →
      u.call.answer? = some (.ok .nothing) →
      (∀ n, isUnderWay (u.reloads n) = false) →
      (∃ c, u.store.format.read u.files u.store.path = .ok c
          ∧ c.battery.charge = policy)
        ∧ u.store.config.battery.charge = policy := by
  intro hkept
  let overtaken := { changedStart with
    store := builtInStart.store }.withReload 0 (.done .hot)
  have hreload : changedStart.after? narrow (reloadSteps 0)
      = some overtaken :=
    after?_reloadSteps_builtIn narrow rfl rfl rfl rfl
  have hsaved : (overtaken.after? narrow [.answer, .move, .write, .share]).map
      (fun u => (u.call, u.store.config.battery.charge, u.reloads 0))
      = some (.done, .initial, .done .hot) := by
    decide +kernel
  obtain ⟨u, hsave, hu⟩ := Option.map_eq_some_iff.mp hsaved
  obtain ⟨hcall, hcharge, hreloaded⟩ := by simpa using hu
  have hsteps : builtInStart.after? narrow ([.answer, .move, .write, .share]
      ++ (reloadSteps 0 ++ [.unlock, .change, .lock, .accept])) = some u := by
    rw [after?_append, after?_append, after?_changedStart, Option.bind_some,
      hreload, Option.bind_some]
    exact hsave
  have hover : ∀ n, isUnderWay (u.reloads n) = false := by
    intro n
    by_cases hn : n = 0
    · rw [hn, hreloaded]
      rfl
    · rw [idle_of_after? rfl (by simp [reloadSteps, hn]) hsteps]
      rfl
  have hforce := (hkept builtInStart.monitor builtInStart.files
    builtInStart.store narrow _ u read_builtInStart hsteps
    (by rw [hcall]; rfl) hover).2
  rw [hcharge] at hforce
  cases hforce

end ChargeUpdate

end Gateway
