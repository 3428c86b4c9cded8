import Gateway.Config.Store
import Gateway.Proofs.Files
import Gateway.Proofs.Path

/-!
# Saving and loading the configuration

The temporary file of a save has another name in the same directory
(`siblings_temporaryPath`), so until it is moved the configuration file
reads as before. What is loaded is what the text of the file describes, as
far as it is acceptable (`read_ok_iff`). Configurations that differ in
nothing but the charge window and the access point's flags need no restart
(`Config.coldDifferences_hot`).
-/

namespace Gateway

namespace ConfigStore

/-! ## The temporary file -/

/-- The temporary file lies beside the configuration file, under another
name. -/
theorem siblings_temporaryPath {path name : String}
    (h : Path.fileName? path = some name) :
    Files.Siblings path (temporaryPath path)
      ∧ ∃ temporary, Path.fileName? (temporaryPath path) = some temporary
        ∧ temporary ≠ name := by
  obtain ⟨directory, k, hdirectory, hslash, -, hdot, hdots, hnames, hending⟩ :=
    Path.exists_directory_of_fileName? h
  let last := Path.stem name.toList ++ '.' :: "yml.tmp".toList
  have hpath : temporaryPath path = String.ofList (directory ++ last) :=
    hending "yml.tmp"
  have hlong : 8 ≤ last.length := by simp [last]
  have hfree : '/' ∉ last := by
    simpa [last] using fun hmem => hslash (Path.mem_of_mem_stem hmem)
  have hne : last ≠ [] := by
    rintro heq
    rw [heq] at hlong
    cases hlong
  have hshort : ∀ short : List Char, short.length < 8 → last ≠ short := by
    rintro short hshort rfl
    omega
  have hother : String.ofList last ≠ name := by
    rintro heq
    have hchars : last = name.toList := by rw [← heq, String.toList_ofList]
    exact Path.stem_append_ne name.toList hchars
  have hname : ∀ short : String, short.toList.length < 8 →
      String.ofList last ≠ short := by
    rintro short hlength heq
    refine hshort short.toList hlength ?_
    rw [← heq, String.toList_ofList]
  refine ⟨⟨_, name, String.ofList last, k, ⟨hdot, hdots⟩,
    ⟨hname "." (by decide), hname ".." (by decide)⟩, hother.symm, hnames, ?_⟩,
    String.ofList last, ?_, hother⟩
  · rw [hpath, Path.names_append hdirectory hfree hne]
  · rw [hpath]
    exact Path.fileName?_ofList hdirectory hfree hne
      (hshort ['.'] (by decide)) (hshort ['.', '.'] (by decide))

/-- A file has a name of its own. -/
theorem exists_fileName?_of_find {fs : Files} {path : String} {place : Place}
    {entry : Entry} (hfind : fs.find path = .ok (place, entry))
    (hfile : entry ≠ .directory) :
    ∃ name, Path.fileName? path = some name := by
  obtain ⟨htarget, hentry, hdir⟩ := Files.find_ok_iff.mp hfind
  obtain ⟨directory, name, hpath, hdirectory, hname⟩ :=
    Path.exists_last_name path.toList
  have hofList : path = String.ofList (directory ++ name) := by
    rw [← hpath, String.ofList_toList]
  have hne : name ≠ [] := by
    rintro rfl
    rw [List.append_nil] at hpath
    rcases hdirectory with rfl | hlast
    · obtain rfl := String.toList_eq_nil_iff.mp hpath
      cases htarget
    · refine hfile (hdir ?_)
      rw [Path.namesDirectory, hpath, hlast]
      rfl
  have hnames := Path.names_append hdirectory hname hne
  rw [← hofList] at hnames
  obtain ⟨q, hq, hreach, hfollow⟩ := Files.target_append htarget hnames
  obtain ⟨hopen, hwhere⟩ := Files.follow_ok hfollow
  have hkept : String.ofList name ≠ "." ∧ String.ofList name ≠ ".." := by
    rcases hwhere with ⟨-, rfl⟩ | ⟨-, rfl⟩ | ⟨hdot, hdots, rfl⟩
    · exact absurd (Option.some.inj (hentry.symm.trans hopen)) hfile
    · have habove := (hreach.opens hopen).dropLast _ (List.prefix_refl _)
      exact absurd (Option.some.inj (hentry.symm.trans habove)) hfile
    · exact ⟨hdot, hdots⟩
  rw [hofList]
  exact ⟨_, Path.fileName?_ofList hdirectory hname hne
    (fun heq => hkept.1 (heq ▸ rfl)) (fun heq => hkept.2 (heq ▸ rfl))⟩

/-- A save writes its text to another file first. -/
theorem target_temporaryPath_ne {fs : Files} {path : String} {place : Place}
    {entry : Entry} (hfind : fs.find path = .ok (place, entry))
    (hfile : entry ≠ .directory) :
    fs.target (temporaryPath path) ≠ .ok place := by
  intro htarget
  obtain ⟨name, named⟩ := exists_fileName?_of_find hfind hfile
  exact (siblings_temporaryPath named).1.target_ne htarget
    (Files.find_ok_iff.mp hfind).1

end ConfigStore

/-! ## Loading -/

/-- What is loaded is what the text describes, if it is acceptable. -/
theorem Config.Format.read_ok_iff {format : Format} {fs : Files}
    {path : String} {c : Config} :
    format.read fs path = .ok c
      ↔ ∃ text, fs.readText path = .ok text ∧ format.parse? text = some c
        ∧ c.version = 1 ∧ c.validate = .ok () := by
  unfold read
  cases fs.readText path with
  | error fault => simp
  | ok text =>
      simp only [Except.ok.injEq, exists_eq_left']
      cases format.parse? text with
      | none => simp
      | some parsed =>
          simp only [Option.some.injEq]
          constructor
          · intro h
            split at h
            · cases h
            · next hversion =>
                split at h
                · cases h
                · next hvalid =>
                    cases h
                    exact ⟨rfl, Decidable.not_not.mp hversion, hvalid⟩
          · rintro ⟨rfl, hversion, hvalid⟩
            rw [if_neg (not_not_intro hversion), hvalid]

theorem Config.Format.read_of_toOption {format : Format} {fs : Files}
    {path : String} {c : Config}
    (h : (format.read fs path).toOption = some c) :
    format.read fs path = .ok c := by
  cases hread : format.read fs path with
  | error fault =>
      rw [hread] at h
      cases h
  | ok c' =>
      rw [hread] at h
      exact congrArg Except.ok (Option.some.inj h)

theorem Kind.same_self (kind : Kind) (v : PlainValue) :
    kind.same v v = true := by
  unfold Kind.same
  split <;> exact beq_self_eq_true _

/-! ## Hot parts -/

namespace Config

/-- The charge window and the access point's flags take effect without a
restart. -/
theorem get_hot (c : Config) (charge : Battery.ChargePolicy)
    (policy : WifiPolicy) :
    ∀ s ∈ Setting.all, s.hot = false →
      s.get c = s.get
        { c with battery.charge := charge, wifi.policy := policy } := by
  simp [Setting.all, Setting.sectioned, Setting.version, Setting.leds,
    Setting.battery, Setting.modem, Setting.wifi, Setting.powerKey,
    Setting.control, Setting.byte, Setting.flag, Setting.wide, Setting.text,
    Setting.texts]

theorem coldDifferences_hot (c : Config) (charge : Battery.ChargePolicy)
    (policy : WifiPolicy) :
    c.coldDifferences
      { c with battery.charge := charge, wifi.policy := policy } = [] := by
  unfold coldDifferences
  rw [List.filter_eq_nil_iff]
  intro name _ hdiffers
  obtain ⟨s, hmem, hs⟩ := List.any_eq_true.mp hdiffers
  simp only [Bool.and_eq_true, Bool.not_eq_true'] at hs
  have hagree : c.agreeOn
      { c with battery.charge := charge, wifi.policy := policy } s = true := by
    rw [agreeOn, ← get_hot c charge policy s hmem hs.1.2]
    exact Kind.same_self _ _
  rw [hagree] at hs
  cases hs.2

end Config

/-! ## The charge window -/

namespace ConfigStore

/-- A valid window keeps a configuration valid. -/
theorem validate_withCharge {s : ConfigStore}
    {charge : Battery.ChargePolicy} (h : s.config.validate = .ok ())
    (hcharge : charge.validate = .ok ()) :
    (s.withCharge charge).config.validate = .ok () := by
  unfold Config.validate at h
  split at h
  · cases h
  · unfold Config.validate
    simp only [withCharge, hcharge]
    exact h

theorem coldDifferences_withCharge (s : ConfigStore)
    (a b : Battery.ChargePolicy) :
    (s.withCharge a).config.coldDifferences (s.withCharge b).config = [] :=
  Config.coldDifferences_hot _ b s.config.wifi.policy

end ConfigStore

end Gateway
