import Gateway.Config.Document
import Gateway.Proofs.Config.Hardware

/-!
# How a changed file is classified

The file is read again as a whole. It is refused if it cannot be read or
describes no valid configuration of the known version (`read_error_iff`).
Otherwise it is compared with the configuration in use: one that agrees on
the hardware part is taken over, and any other leaves the configuration in
use as it is, also where a change could be made in place
(`reload_of_read`). Either way reading the same file once more gives the same
verdict and changes nothing (`reload_again`).
-/

namespace Gateway

namespace Config

/-- A file is refused exactly if it breaks one of the rules of loading. -/
theorem Format.read_error_iff {format : Format} {fs : Files}
    {path : String} :
    (∃ fault, format.read fs path = .error fault)
      ↔ (∃ fault, fs.readText path = .error fault)
        ∨ ∃ text, fs.readText path = .ok text
          ∧ (format.parse? text = none ∨ ∃ c, format.parse? text = some c
            ∧ (c.version ≠ 1 ∨ ∃ fault, c.validate = .error fault)) := by
  unfold read
  cases fs.readText path with
  | error fault => simp
  | ok text =>
      simp only [Except.ok.injEq, exists_eq_left', reduceCtorEq, exists_false,
        false_or]
      cases format.parse? text with
      | none => simp
      | some c =>
          by_cases hversion : c.version = 1
          · cases hvalid : c.validate <;> simp [hversion, hvalid]
          · simp [hversion]

theorem coldDifferences_eq_nil_iff {a b : Config}
    (hversion : a.version = b.version) :
    a.coldDifferences b = [] ↔ a.SameHardware b := by
  refine ⟨sameHardware_of_coldDifferences hversion, fun hsame => ?_⟩
  refine List.eq_nil_iff_forall_not_mem.mpr fun name hmem => ?_
  obtain ⟨hname, hdiffers⟩ := mem_coldDifferences.mp hmem
  exact hdiffers ((sameHardware_iff.mp hsame).2 name hname)

end Config

namespace ConfigStore

/-- What is in use once the file was read again. A file that is refused
changes nothing. -/
def reloaded (s : ConfigStore) (fs : Files) : ConfigStore :=
  match s.reload fs with
  | .ok (_, s) => s
  | .error _ => s

theorem reload_error_iff {s : ConfigStore} {fs : Files} {fault : LoadFault} :
    s.reload fs = .error fault ↔ s.format.read fs s.path = .error fault := by
  unfold reload
  cases s.format.read fs s.path with
  | error fault => simp
  | ok new =>
      dsimp only
      split <;> simp

theorem reload_of_read {s : ConfigStore} {fs : Files} {new : Config}
    (hread : s.format.read fs s.path = .ok new) :
    s.reload fs
      = if s.config.coldDifferences new = [] then
          .ok (.hot, { s with config := new })
        else .ok (.cold (s.config.coldDifferences new), s) := by
  unfold reload
  rw [hread]
  simp only [List.isEmpty_iff]

/-- Reading the same file once more gives the same verdict and changes
nothing. -/
theorem reload_again {s s' : ConfigStore} {fs : Files} {change : ConfigChange}
    (h : s.reload fs = .ok (change, s')) :
    s'.reload fs = .ok (change, s') := by
  cases hread : s.format.read fs s.path with
  | error fault =>
      rw [reload_error_iff.mpr hread] at h
      cases h
  | ok new =>
      rw [reload_of_read hread] at h
      split at h
      · cases h
        have hself : new.coldDifferences new = [] :=
          (Config.coldDifferences_eq_nil_iff rfl).mpr (.refl new)
        rw [reload_of_read (s := { s with config := new }) hread, if_pos hself]
      · next hcold =>
          cases h
          rw [reload_of_read hread, if_neg hcold]

/-- What reading the file again comes to. It fails exactly if the file is
refused, and then nothing changes. Otherwise the file's configuration is
taken over if it agrees with the one in use on the hardware part, and if not,
the sections in which the two differ are named, each once and in order, and
nothing changes. The same file read once more gives the same verdict and
changes nothing. -/
theorem reload_classifies {s : ConfigStore} (known : s.config.version = 1)
    (fs : Files) :
    ((∃ fault, s.reload fs = .error fault)
        ↔ (∃ fault, fs.readText s.path = .error fault)
          ∨ ∃ text, fs.readText s.path = .ok text
            ∧ (s.format.parse? text = none ∨ ∃ c, s.format.parse? text = some c
              ∧ (c.version ≠ 1 ∨ ∃ fault, c.validate = .error fault)))
      ∧ ((∃ fault, s.reload fs = .error fault) → s.reloaded fs = s)
      ∧ (∀ text new, fs.readText s.path = .ok text →
        s.format.parse? text = some new → new.version = 1 →
        new.validate = .ok () →
        s.config.SameHardware new
            ∧ s.reload fs = .ok (.hot, { s with config := new })
          ∨ ¬ s.config.SameHardware new
            ∧ ∃ sections, s.reload fs = .ok (.cold sections, s)
              ∧ sections.Sublist
                ["leds", "battery", "modem", "wifi", "power_key", "dbus"]
              ∧ ∀ name, name ∈ sections
                ↔ name ∈ sectionNames ∧ ¬ s.config.AgreeIn new name)
      ∧ ∀ change s', s.reload fs = .ok (change, s') →
        s'.reload fs = .ok (change, s') := by
  refine ⟨?_, ?_, ?_, fun change s' => reload_again⟩
  · rw [← Config.Format.read_error_iff]
    exact exists_congr fun fault => reload_error_iff
  · rintro ⟨fault, hfault⟩
    rw [reloaded, hfault]
  · intro text new htext hparse hversion hvalid
    have hread : s.format.read fs s.path = .ok new :=
      Config.Format.read_ok_iff.mpr ⟨text, htext, hparse, hversion, hvalid⟩
    have hnil := Config.coldDifferences_eq_nil_iff
      (known.trans hversion.symm)
    rw [reload_of_read hread]
    split
    · next hhot => exact .inl ⟨hnil.mp hhot, rfl⟩
    · next hcold =>
        exact .inr ⟨fun hsame => hcold (hnil.mpr hsame), _, rfl,
          List.filter_sublist, fun name => Config.mem_coldDifferences⟩

/-- A file changes the time between two render ticks, which needs a restart,
and the access point, which does not: neither change is made. -/
theorem reload_classifies_mixed :
    let s : ConfigStore := ⟨.builtIn, "/config.yml"⟩
    let text := "version: 1\nleds: {render_interval_ms: 250}\n"
      ++ "wifi: {enabled: false}\n"
    let fs : Files := ⟨[(["config.yml"], .file text.toUTF8.toList)]⟩
    let new : Config := { Config.builtIn with
      leds.renderMillis := 250, wifi.policy.enabled := false }
    s.format.read fs s.path = .ok new
      ∧ ∃ sections, s.reload fs = .ok (.cold sections, s)
        ∧ "leds" ∈ sections ∧ "wifi" ∉ sections := by
  intro s text fs new
  have hread : s.format.read fs s.path = .ok new :=
    Config.Format.read_of_toOption (by decide +kernel)
  obtain ⟨_, htext, hparse, hversion, hvalid⟩ := Config.Format.read_ok_iff.mp hread
  obtain ⟨-, -, hverdict, -⟩ := reload_classifies (s := s) rfl fs
  rcases hverdict _ new htext hparse hversion hvalid with
    ⟨hsame, -⟩ | ⟨-, sections, hreload, -, hmem⟩
  · exact absurd hsame.renderMillis (by decide)
  · refine ⟨hread, sections, hreload, ?_, fun hwifi => ?_⟩
    · exact (hmem "leds").mpr
        ⟨by decide, fun hagree => absurd hagree.2.1 (by decide)⟩
    · exact ((hmem "wifi").mp hwifi).2 ⟨rfl, rfl, rfl⟩

end ConfigStore

end Gateway
