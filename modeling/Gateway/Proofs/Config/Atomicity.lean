import Gateway.Proofs.Config.Classification
import Gateway.Proofs.Config.Durability
import Mathlib.Logic.Relation

/-!
# A save is all or nothing

A save is taken apart into what can be seen of it from outside
(`ConfigStore.SaveStep`): the temporary file grows by any number of bytes at
a time, the save may fail at any point, and a complete temporary file is
moved onto the configuration file. `ConfigStore.save` is one such course
(`saving_save`).

What the files hold at every point of a course is what writing some of the
text would have made of them (`Progress`, kept by every step). The temporary
file has another name in the same directory (`siblings_temporaryPath`), so
until the move nothing has happened to the configuration file
(`Files.Siblings.find_put`), and the move puts the whole text there.
-/

namespace Gateway

/-! ## The course of a save -/

/-- How far a save is. -/
inductive SaveStage where
  | begun
  /-- So many bytes of the text are in the temporary file. -/
  | writing (n : Nat)
  | saved
  | failed (fault : SaveFault)
deriving DecidableEq, Repr

namespace SaveStage

/-- Whether a save is not over. -/
def isUnderWay : SaveStage → Bool
  | begun | writing _ => true
  | saved | failed _ => false

/-- The stage that a save ends in. -/
def ofResult : Except SaveFault Unit → SaveStage
  | .ok () => saved
  | .error fault => failed fault

end SaveStage

namespace ConfigStore

/-- The bytes of the configuration's text. -/
def bytes (s : ConfigStore) : List UInt8 := Text.encode s.text.toList

/-- One step of a save, on the files and how far it is. -/
inductive SaveStep (s : ConfigStore) :
    Files × SaveStage → Files × SaveStage → Prop where
  /-- The temporary file is made or emptied, and gets its first bytes. -/
  | opens {fs fs' : Files} {m : Nat}
      (writes : fs.write (temporaryPath s.path) (s.bytes.take m) = .ok fs') :
      SaveStep s (fs, .begun) (fs', .writing m)
  /-- The temporary file gets more bytes. -/
  | goesOn {fs fs' : Files} {n m : Nat} (more : n ≤ m)
      (writes : fs.write (temporaryPath s.path) (s.bytes.take m) = .ok fs') :
      SaveStep s (fs, .writing n) (fs', .writing m)
  /-- The temporary file is complete and is moved onto the other. -/
  | moves {fs fs' : Files}
      (moves : fs.rename (temporaryPath s.path) s.path = .ok fs') :
      SaveStep s (fs, .writing s.bytes.length) (fs', .saved)
  /-- Whatever fails leaves the files as they are then. -/
  | fails {fs : Files} {stage : SaveStage} {fault : SaveFault}
      (underWay : stage.isUnderWay = true) :
      SaveStep s (fs, stage) (fs, .failed fault)

/-- What a save that began with some files can come to. -/
def Saving (s : ConfigStore) (before : Files) : Files × SaveStage → Prop :=
  Relation.ReflTransGen (SaveStep s) (before, .begun)

/-- A save as a whole is a course of steps. -/
theorem saving_save (s : ConfigStore) (fs : Files) :
    s.Saving fs ((s.save fs).1, .ofResult (s.save fs).2) := by
  have hwhole : s.bytes.take s.bytes.length = s.bytes := List.take_length
  unfold save
  dsimp only
  split
  · next fault _ => exact .single (.fails rfl)
  · next written hwrite =>
      have hopens : SaveStep s (fs, .begun)
          (written, .writing s.bytes.length) :=
        .opens (hwhole.symm ▸ hwrite)
      have hwritten : s.Saving fs (written, .writing s.bytes.length) :=
        .single hopens
      split
      · next fault _ => exact hwritten.tail (.fails rfl)
      · next moved hmove => exact hwritten.tail (.moves hmove)

/-! ## What the files hold -/

/-- The files at a stage of a save. -/
def Progress (s : ConfigStore) (before now : Files) : SaveStage → Prop
  | .begun => now = before
  | .writing n =>
    before.write (temporaryPath s.path) (s.bytes.take n) = .ok now
  | .saved => ∃ written,
    before.writeText (temporaryPath s.path) s.text = .ok written
      ∧ written.rename (temporaryPath s.path) s.path = .ok now
  | .failed _ => now = before ∨ ∃ n,
    before.write (temporaryPath s.path) (s.bytes.take n) = .ok now

section

variable {s : ConfigStore} {before : Files}

theorem Progress.step {p q : Files × SaveStage}
    (plain : ¬ before.LeadsToDevice (temporaryPath s.path))
    (h : s.Progress before p.1 p.2) (step : SaveStep s p q) :
    s.Progress before q.1 q.2 := by
  cases step with
  | opens writes =>
      obtain rfl : _ = before := h
      exact writes
  | goesOn _ writes => exact Files.write_write plain h writes
  | moves moves =>
      rw [Progress, List.take_length] at h
      exact ⟨_, h, moves⟩
  | @fails fs stage fault underWay =>
      cases stage with
      | begun => exact .inl h
      | writing n => exact .inr ⟨n, h⟩
      | saved => cases underWay
      | failed fault => cases underWay

theorem Saving.progress {now : Files} {stage : SaveStage}
    (plain : ¬ before.LeadsToDevice (temporaryPath s.path))
    (h : s.Saving before (now, stage)) : s.Progress before now stage := by
  have hall : ∀ p, s.Saving before p → s.Progress before p.1 p.2 := by
    intro p hp
    induction hp with
    | refl => exact rfl
    | tail _ step ih => exact ih.step plain step
  exact hall _ h

/-- Writing to the temporary file leaves the configuration file alone. -/
theorem find_of_write {name : String} {content : List UInt8} {fs : Files}
    (named : Path.fileName? s.path = some name)
    (h : before.write (temporaryPath s.path) content = .ok fs) :
    fs.find s.path = before.find s.path := by
  obtain ⟨place, htarget, ⟨-, rfl⟩ | rfl⟩ := Files.write_ok h
  · rfl
  · exact (siblings_temporaryPath named).1.find_put htarget _

/-- Until a save succeeds, the configuration file is as before. -/
theorem Progress.find {now : Files} {stage : SaveStage} {name : String}
    (named : Path.fileName? s.path = some name)
    (h : s.Progress before now stage) (hstage : stage ≠ .saved) :
    now.find s.path = before.find s.path := by
  cases stage with
  | begun => rw [show now = before from h]
  | writing n => exact find_of_write named h
  | saved => exact absurd rfl hstage
  | failed fault =>
      rcases h with rfl | ⟨n, hwrite⟩
      · rfl
      · exact find_of_write named hwrite

/-- Once it has succeeded, the text is there and the temporary file is not. -/
theorem Progress.saved {now : Files} {name : String}
    (named : Path.fileName? s.path = some name)
    (plain : ¬ before.LeadsToDevice (temporaryPath s.path))
    (h : s.Progress before now .saved) :
    now.readText s.path = .ok s.text.toList
      ∧ now.find (temporaryPath s.path) = .error .notFound := by
  obtain ⟨written, hwrite, hmove⟩ := h
  have hread := Files.readText_of_writeText hwrite plain
  exact ⟨Files.readText_of_rename hmove hread,
    Files.find_source_of_rename hmove fun place htarget =>
      (siblings_temporaryPath named).1.target_ne htarget⟩

/-- What was saved is loaded, and read again it changes nothing. -/
theorem loads_of_readText {fs : Files}
    (restored : s.format.parse? s.text.toList = some s.config)
    (known : s.config.version = 1) (valid : s.config.validate = .ok ())
    (h : fs.readText s.path = .ok s.text.toList) :
    (∀ named, s.format.load fs (some s.path) named = .ok s)
      ∧ s.reload fs = .ok (.hot, s) := by
  have hread : s.format.read fs s.path = .ok s.config :=
    Config.Format.read_ok_iff.mpr ⟨_, h, restored, known, valid⟩
  have hself : s.config.coldDifferences s.config = [] :=
    (Config.coldDifferences_eq_nil_iff rfl).mpr (.refl s.config)
  refine ⟨fun named => ?_, by rw [reload_of_read hread, if_pos hself]⟩
  rw [Config.Format.load,
    show locate fs (some s.path) named = some s.path from rfl]
  simp only [hread]
  rfl

/-- A save is all or nothing. The temporary file is another than the
configuration file. At every point of a save the configuration file is as
before or holds all of the new text; it is as before if the save fails, and
if it succeeds the text is there and the temporary file is gone. A valid
configuration that was saved is loaded as it was, and read again it changes
nothing. -/
theorem save_atomic {name : String}
    (named : Path.fileName? s.path = some name)
    (plain : ¬ before.LeadsToDevice (temporaryPath s.path)) :
    temporaryPath s.path ≠ s.path
      ∧ (∀ (fs : Files) place, fs.target (temporaryPath s.path) = .ok place →
        fs.target s.path ≠ .ok place)
      ∧ (∀ now stage, s.Saving before (now, stage) →
        (now.find s.path = before.find s.path
            ∨ now.readText s.path = .ok s.text.toList)
          ∧ (∀ fault, stage = .failed fault →
            now.find s.path = before.find s.path)
          ∧ (stage = .saved →
            now.readText s.path = .ok s.text.toList
              ∧ now.find (temporaryPath s.path) = .error .notFound))
      ∧ s.Saving before ((s.save before).1, .ofResult (s.save before).2)
      ∧ (s.format.parse? s.text.toList = some s.config →
        s.config.version = 1 → s.config.validate = .ok () →
        ∀ now, s.save before = (now, .ok ()) →
          (∀ other, s.format.load now (some s.path) other = .ok s)
            ∧ s.reload now = .ok (.hot, s)) := by
  obtain ⟨hsiblings, temporary, hname, hother⟩ := siblings_temporaryPath named
  have hpoint : ∀ now stage, s.Saving before (now, stage) →
      (stage ≠ .saved → now.find s.path = before.find s.path)
        ∧ (stage = .saved → now.readText s.path = .ok s.text.toList
          ∧ now.find (temporaryPath s.path) = .error .notFound) := by
    intro now stage h
    have hprogress := h.progress plain
    exact ⟨fun hstage => hprogress.find named hstage,
      fun hstage => (hstage ▸ hprogress).saved named plain⟩
  refine ⟨fun heq => ?_, fun fs place => hsiblings.target_ne,
    fun now stage h => ?_, saving_save s before,
    fun restored known valid now hsave => ?_⟩
  · rw [heq, named] at hname
    exact hother (Option.some.inj hname).symm
  · obtain ⟨hbefore, hsaved⟩ := hpoint now stage h
    refine ⟨?_, fun fault hfault => hbefore (by simp [hfault]), hsaved⟩
    by_cases hstage : stage = .saved
    · exact .inr (hsaved hstage).1
    · exact .inl (hbefore hstage)
  · have hcourse := saving_save s before
    rw [hsave] at hcourse
    exact loads_of_readText restored known valid
      ((hpoint now .saved hcourse).2 rfl).1

end

/-- The built-in configuration replaces a file, over a temporary file that
an earlier save left behind. -/
theorem save_atomic_overwriting :
    let s : ConfigStore := ⟨.builtIn, "/my.config.yml"⟩
    let before : Files := ⟨[(["my.config.yml"], .file [0x78]),
      (["my.config.yml.tmp"], .file [0x79])]⟩
    Path.fileName? s.path = some "my.config.yml"
      ∧ ¬ before.LeadsToDevice (temporaryPath s.path)
      ∧ ∃ now, s.save before = (now, .ok ())
        ∧ now.readText s.path = .ok s.text.toList
        ∧ now.find (temporaryPath s.path) = .error .notFound
        ∧ s.format.load now (some s.path) none = .ok s := by
  intro s before
  have named : Path.fileName? s.path = some "my.config.yml" := by
    decide +kernel
  have plain : ¬ before.LeadsToDevice (temporaryPath s.path) := by
    decide +kernel
  have hok : (s.save before).2 = .ok () := by
    have hdone : (s.save before).2.isOk = true := by decide +kernel
    cases hresult : (s.save before).2 with
    | ok _ => rfl
    | error fault => rw [hresult] at hdone; cases hdone
  have hsave : s.save before = ((s.save before).1, .ok ()) := by rw [← hok]
  obtain ⟨-, -, hpoint, hcourse, hloads⟩ := save_atomic named plain
  rw [hok] at hcourse
  obtain ⟨hread, hgone⟩ := (hpoint _ .saved hcourse).2.2 rfl
  have hrestored : s.format.parse? s.text.toList = some s.config :=
    ChargeUpdate.parse?_text_builtIn
  obtain ⟨-, -, -, hversion, hvalid⟩ :=
    Config.Format.read_ok_iff.mp ChargeUpdate.read_builtInStart
  exact ⟨named, plain, _, hsave, hread, hgone,
    (hloads hrestored hversion hvalid _ hsave).1 none⟩

end ConfigStore

end Gateway
