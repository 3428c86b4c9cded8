import Gateway.Files
import Gateway.Proofs.Text.Utf8

/-!
# What writing and moving files leave

Following a path looks only at directories that are reached through
directories (`Opens`), so whatever leaves those alone leaves every path
where it led (`Keeps.target`). Writing a file and moving one do so. From
this follows what can be read afterwards: a written file reads as its text
and every other file as before (`readText_of_writeText`), and a moved file
reads the same at its new path (`readText_of_rename`).
-/

namespace Gateway.Files

/-! ## Entries -/

theorem lookup_filter (entries : List (Place × Entry)) (p : Place → Bool)
    (place : Place) :
    (entries.filter fun e => p e.1).lookup place
      = if p place then entries.lookup place else none := by
  induction entries with
  | nil => simp
  | cons e entries ih =>
      obtain ⟨q, entry⟩ := e
      simp only [List.filter_cons, List.lookup_cons]
      by_cases hq : place = q
      · subst hq
        cases hp : p place <;> simp [hp, ih]
      · have hne : (place == q) = false := beq_eq_false_iff_ne.mpr hq
        cases p q <;> simp [List.lookup_cons, hne, ih]

/-- The root is a directory. -/
theorem ne_root {fs : Files} {place : Place}
    (h : fs.entry? place ≠ some .directory) : place ≠ [] := by
  rintro rfl
  exact h rfl

theorem stands_put (fs : Files) (place : Place) (entry : Entry)
    (q : Place) (h : place ≠ []) :
    entry? (fs.put place entry) q
      = if q = place then some entry else fs.entry? q := by
  unfold entry? put
  by_cases hq : q = place
  · subst hq
    simp [h]
  · have hne : (q == place) = false := beq_eq_false_iff_ne.mpr hq
    have hfilter := lookup_filter fs.entries (fun r => decide (r ≠ place)) q
    simp only [decide_eq_true_eq, ne_eq, hq, not_false_eq_true, if_true]
      at hfilter
    simp only [List.lookup_cons, hne, ne_eq, hfilter, if_neg hq]

theorem stands_prune (fs : Files) (place q : Place) (h : ¬ place <+: q) :
    entry? (fs.prune place) q = fs.entry? q := by
  have hfilter := lookup_filter fs.entries (fun r => !place.isPrefixOf r) q
  have hnot : place.isPrefixOf q = false := by
    simpa [← Bool.not_eq_true] using h
  rw [hnot] at hfilter
  unfold entry? prune
  rw [hfilter]
  rfl

/-- Nothing comes to be where something is taken away. -/
theorem stood_of_prune {fs : Files} {place q : Place} {entry : Entry}
    (h : entry? (fs.prune place) q = some entry) :
    fs.entry? q = some entry := by
  have hfilter := lookup_filter fs.entries (fun r => !place.isPrefixOf r) q
  unfold entry? prune at h
  rw [hfilter] at h
  unfold entry?
  split at h
  · next hroot =>
      rw [if_pos hroot, h]
  · next hroot =>
      rw [if_neg hroot]
      split at h
      · exact h
      · cases h

/-! ## Paths -/

/-- A place and all above it are directories. -/
def Opens (fs : Files) (place : Place) : Prop :=
  ∀ q, q <+: place → fs.entry? q = some .directory

/-- Every directory that can be reached stays one. -/
def Keeps (fs fs' : Files) : Prop :=
  ∀ place, fs.Opens place → fs'.entry? place = some .directory

/-- Everything above a place is a directory. -/
def Reaches (fs : Files) (place : Place) : Prop :=
  ∀ q, q <+: place → q ≠ place → fs.entry? q = some .directory

theorem Reaches.opens {fs : Files} {place : Place} (h : fs.Reaches place)
    (hdir : fs.entry? place = some .directory) : fs.Opens place := by
  intro q hq
  by_cases heq : q = place
  · rw [heq, hdir]
  · exact h q hq heq

theorem Opens.reaches_append {fs : Files} {place : Place}
    (h : fs.Opens place) (name : String) : fs.Reaches (place ++ [name]) := by
  intro q hq hne
  rcases List.prefix_concat_iff.mp hq with heq | hq
  · exact absurd heq hne
  · exact h q hq

theorem Opens.dropLast {fs : Files} {place : Place} (h : fs.Opens place) :
    fs.Opens place.dropLast :=
  fun q hq => h q (hq.trans (List.dropLast_prefix place))

theorem Opens.reaches {fs : Files} {place : Place} (h : fs.Opens place) :
    fs.Reaches place :=
  fun q hq _ => h q hq

/-- A name is followed from a directory to itself, to the one above or to
what lies in it. -/
theorem follow_ok {fs : Files} {place place' : Place} {name : String}
    (h : fs.follow place name = .ok place') :
    fs.entry? place = some .directory
      ∧ (name = "." ∧ place' = place ∨ name = ".." ∧ place' = place.dropLast
        ∨ name ≠ "." ∧ name ≠ ".." ∧ place' = place ++ [name]) := by
  unfold follow at h
  split at h
  · cases h
  · next hdir =>
      refine ⟨hdir, ?_⟩
      split at h
      · next hdot =>
          cases h
          exact .inl ⟨hdot, rfl⟩
      · next hdot =>
          split at h
          · next hdots =>
              cases h
              exact .inr (.inl ⟨hdots, rfl⟩)
          · next hdots =>
              split at h
              · cases h
              · cases h
                exact .inr (.inr ⟨hdot, hdots, rfl⟩)
  · cases h

theorem follow_congr {fs fs' : Files} {place : Place}
    (h : fs'.entry? place = fs.entry? place) (name : String) :
    fs'.follow place name = fs.follow place name := by
  unfold follow
  rw [h]

theorem Reaches.follow {fs : Files} {place place' : Place} {name : String}
    (h : fs.Reaches place) (hfollow : fs.follow place name = .ok place') :
    fs.Reaches place' := by
  obtain ⟨hdir, ⟨-, rfl⟩ | ⟨-, rfl⟩ | ⟨-, -, rfl⟩⟩ := follow_ok hfollow
  · exact h
  · exact (h.opens hdir).dropLast.reaches
  · exact (h.opens hdir).reaches_append name

theorem Keeps.foldlM_follow {fs fs' : Files} (h : fs.Keeps fs')
    {names : List String} {place place' : Place} (hreach : fs.Reaches place)
    (hfold : names.foldlM fs.follow place = .ok place') :
    fs.Reaches place' ∧ names.foldlM fs'.follow place = .ok place' := by
  induction names generalizing place with
  | nil =>
      cases hfold
      exact ⟨hreach, rfl⟩
  | cons name names ih =>
      rw [List.foldlM_cons] at hfold ⊢
      cases hfollow : fs.follow place name with
      | error fault =>
          rw [hfollow] at hfold
          cases hfold
      | ok next =>
          rw [hfollow] at hfold
          have hdir := (follow_ok hfollow).1
          have hsame : fs'.follow place name = .ok next := by
            rw [follow_congr (hdir ▸ h place (hreach.opens hdir)), hfollow]
          rw [hsame]
          exact ih (hreach.follow hfollow) hfold

theorem reaches_root (fs : Files) : fs.Reaches [] :=
  fun _ hq hne => absurd (List.prefix_nil.mp hq) hne

/-- What a path names is reached through directories. -/
theorem Keeps.target {fs fs' : Files} (h : fs.Keeps fs') {path : String}
    {place : Place} (htarget : fs.target path = .ok place) :
    fs.Reaches place ∧ fs'.target path = .ok place := by
  unfold Files.target at htarget ⊢
  cases hfault : pathFault? path with
  | some fault =>
      rw [hfault] at htarget
      cases htarget
  | none =>
      rw [hfault] at htarget
      exact h.foldlM_follow fs.reaches_root htarget

theorem Keeps.refl (fs : Files) : fs.Keeps fs :=
  fun place h => h place (List.prefix_refl place)

/-- The place of a name is in the directory that the path before it leads
to. -/
theorem target_append {fs : Files} {path : String} {above : List String}
    {name : String} {place : Place} (h : fs.target path = .ok place)
    (hnames : Path.names path = above ++ [name]) :
    ∃ q, above.foldlM fs.follow [] = .ok q
      ∧ fs.Reaches q ∧ fs.follow q name = .ok place := by
  unfold target at h
  cases hfault : pathFault? path with
  | some fault =>
      rw [hfault] at h
      cases h
  | none =>
      rw [hfault] at h
      simp only [hnames, List.foldlM_append, List.foldlM_cons,
        List.foldlM_nil] at h
      cases hq : above.foldlM fs.follow [] with
      | error fault =>
          rw [hq] at h
          cases h
      | ok q =>
          rw [hq] at h
          refine ⟨q, rfl,
            ((Keeps.refl fs).foldlM_follow fs.reaches_root hq).1, ?_⟩
          cases hplace : fs.follow q name with
          | error fault =>
              simp [bind, Except.bind, hplace] at h
          | ok place' =>
              simp [bind, Except.bind, hplace, pure, Except.pure] at h
              rw [h]

/-! ## What keeps directories -/

/-- Where no directory stands, anything can be put. -/
theorem keeps_put {fs : Files} {place : Place}
    (h : fs.entry? place ≠ some .directory) (entry : Entry) :
    fs.Keeps (fs.put place entry) := by
  intro q hq
  have hdir := hq q (List.prefix_refl q)
  have hother : q ≠ place := by
    rintro rfl
    exact h hdir
  rw [stands_put fs place entry q (ne_root h), if_neg hother, hdir]

/-- What is put is no way to anything new, unless it is a directory. -/
theorem keeps_of_put {fs : Files} {place : Place} {entry : Entry}
    (h : fs.entry? place ≠ some .directory) (hentry : entry ≠ .directory) :
    (fs.put place entry).Keeps fs := by
  intro q hq
  have hdir := hq q (List.prefix_refl q)
  rw [stands_put fs place entry q (ne_root h)] at hdir
  split at hdir
  · exact absurd (Option.some.inj hdir) hentry
  · exact hdir

/-- What is no directory can be taken away. -/
theorem keeps_prune {fs : Files} {place : Place}
    (h : fs.entry? place ≠ some .directory) : fs.Keeps (fs.prune place) := by
  intro q hq
  rw [stands_prune fs place q fun hprefix => h (hq place hprefix),
    hq q (List.prefix_refl q)]

theorem Keeps.opens {fs fs' : Files} (h : fs.Keeps fs') {place : Place}
    (hopens : fs.Opens place) : fs'.Opens place :=
  fun q hq => h q fun r hr => hopens r (hr.trans hq)

theorem Keeps.trans {fs fs' fs'' : Files} (h : fs.Keeps fs')
    (h' : fs'.Keeps fs'') : fs.Keeps fs'' :=
  fun place hopens => h' place (h.opens hopens)

/-! ## Finding -/

theorem find_ok_iff {fs : Files} {path : String} {place : Place}
    {entry : Entry} :
    fs.find path = .ok (place, entry)
      ↔ fs.target path = .ok place ∧ fs.entry? place = some entry
        ∧ (Path.namesDirectory path = true → entry = .directory) := by
  unfold find
  cases fs.target path with
  | error fault => simp
  | ok q =>
      simp only [Except.ok.injEq]
      cases hentry : fs.entry? q with
      | none =>
          simp only [reduceCtorEq, false_iff]
          rintro ⟨rfl, hsome, -⟩
          cases hentry.symm.trans hsome
      | some e =>
          simp only
          split
          · next hbad =>
              simp only [Bool.and_eq_true, decide_eq_true_eq] at hbad
              simp only [reduceCtorEq, false_iff]
              rintro ⟨rfl, hsome, hdir⟩
              cases hentry.symm.trans hsome
              exact hbad.2 (hdir hbad.1)
          · next hgood =>
              simp only [Bool.and_eq_true, decide_eq_true_eq, not_and,
                Decidable.not_not] at hgood
              simp only [Except.ok.injEq, Prod.mk.injEq]
              constructor
              · rintro ⟨rfl, rfl⟩
                exact ⟨rfl, hentry, hgood⟩
              · rintro ⟨rfl, hsome, -⟩
                exact ⟨rfl, Option.some.inj (hentry.symm.trans hsome)⟩

theorem fileTarget_ok {fs : Files} {path : String} {place : Place}
    (h : fs.fileTarget path = .ok place) :
    fs.target path = .ok place ∧ Path.namesDirectory path = false
      ∧ fs.entry? place ≠ some .directory := by
  unfold fileTarget at h
  cases htarget : fs.target path with
  | error fault =>
      rw [htarget] at h
      cases h
  | ok q =>
      rw [htarget] at h
      simp only at h
      split at h
      · cases h
      · next hgood =>
          cases h
          simp only [Bool.or_eq_true, decide_eq_true_eq, not_or,
            Bool.not_eq_true] at hgood
          exact ⟨rfl, hgood⟩

/-! ## Reading -/

/-- What is read at a path is what stands there. -/
theorem readText_congr {fs fs' : Files} {path path' : String}
    {place place' : Place} {entry : Entry}
    (h : fs.find path = .ok (place, entry))
    (h' : fs'.find path' = .ok (place', entry)) :
    fs'.readText path' = fs.readText path := by
  unfold readText read
  rw [h, h']
  cases entry <;> rfl

theorem find_of_readText {fs : Files} {path : String} {text : List Char}
    (h : fs.readText path = .ok text) :
    ∃ place entry, fs.find path = .ok (place, entry)
      ∧ entry ≠ .directory := by
  unfold readText read at h
  cases hfind : fs.find path with
  | error fault =>
      rw [hfind] at h
      cases h
  | ok found =>
      obtain ⟨place, entry⟩ := found
      refine ⟨place, entry, rfl, ?_⟩
      rintro rfl
      rw [hfind] at h
      cases h

/-! ## Writing -/

/-- A path leads to a device. -/
def LeadsToDevice (fs : Files) (path : String) : Prop :=
  ∃ place device, fs.find path = .ok (place, .dummy device)

instance (fs : Files) (path : String) : Decidable (fs.LeadsToDevice path) :=
  match h : fs.find path with
  | .ok (place, .dummy device) => .isTrue ⟨place, device, h⟩
  | .ok (_, .directory) | .ok (_, .file _) | .ok (_, .program) | .error _ =>
    .isFalse fun ⟨_, _, hdevice⟩ => nomatch h.symm.trans hdevice

/-- A file that was put where a path leads is read there. -/
theorem readText_put {fs : Files} {path : String} {place : Place}
    (hreach : fs.target path = .ok place)
    (hnames : Path.namesDirectory path = false)
    (hentry : fs.entry? place ≠ some .directory) (text : List Char) :
    (fs.put place (.file (Text.encode text))).readText path = .ok text := by
  have hfind : (fs.put place (.file (Text.encode text))).find path
      = .ok (place, .file (Text.encode text)) := by
    refine find_ok_iff.mpr ⟨((keeps_put hentry _).target hreach).2, ?_,
      fun hyes => by simp [hnames] at hyes⟩
    rw [stands_put fs place _ place (ne_root hentry), if_pos rfl]
  unfold readText read
  rw [hfind]
  simp only [Text.decode?_encode]

/-- What is written is put where its path leads, unless a device stands
there. -/
theorem write_ok {fs fs' : Files} {path : String} {content : List UInt8}
    (h : fs.write path content = .ok fs') :
    ∃ place, fs.fileTarget path = .ok place
      ∧ (fs.LeadsToDevice path ∧ fs' = fs
        ∨ fs' = fs.put place (.file content)) := by
  unfold write at h
  cases htarget : fs.fileTarget path with
  | error fault =>
      rw [htarget] at h
      cases h
  | ok place =>
      rw [htarget] at h
      simp only at h
      refine ⟨place, rfl, ?_⟩
      obtain ⟨hreach, hnames, -⟩ := fileTarget_ok htarget
      have hdevice : ∀ device, fs.entry? place = some (.dummy device) →
          fs.LeadsToDevice path := fun device hentry =>
        ⟨place, device, find_ok_iff.mpr
          ⟨hreach, hentry, fun hyes => by simp [hnames] at hyes⟩⟩
      split at h
      · next hentry =>
          split at h
          · exact .inl ⟨hdevice _ hentry, (Except.ok.inj h).symm⟩
          · cases h
      · next device _ hentry =>
          exact .inl ⟨hdevice device hentry, (Except.ok.inj h).symm⟩
      · exact .inr (Except.ok.inj h).symm

theorem writeText_ok {fs fs' : Files} {path text : String}
    (h : fs.writeText path text = .ok fs') :
    ∃ place, fs.fileTarget path = .ok place
      ∧ (fs.LeadsToDevice path ∧ fs' = fs
        ∨ fs' = fs.put place (.file (Text.encode text.toList))) :=
  write_ok h

/-- Writing makes no device. -/
theorem LeadsToDevice.of_write {fs fs' : Files} {path q : String}
    {content : List UInt8} (h : fs.write path content = .ok fs')
    (hdevice : fs'.LeadsToDevice q) : fs.LeadsToDevice q := by
  obtain ⟨place, htarget, ⟨-, rfl⟩ | rfl⟩ := write_ok h
  · exact hdevice
  · obtain ⟨-, -, hentry⟩ := fileTarget_ok htarget
    obtain ⟨found, device, hfind⟩ := hdevice
    obtain ⟨hreach, hstands, hdir⟩ := find_ok_iff.mp hfind
    rw [stands_put fs place _ found (ne_root hentry)] at hstands
    split at hstands
    · cases hstands
    · have hback : (fs.put place (.file content)).Keeps fs :=
        keeps_of_put hentry nofun
      exact ⟨found, device, find_ok_iff.mpr
        ⟨(hback.target hreach).2, hstands, hdir⟩⟩

theorem LeadsToDevice.of_writeText {fs fs' : Files} {path text q : String}
    (h : fs.writeText path text = .ok fs') (hdevice : fs'.LeadsToDevice q) :
    fs.LeadsToDevice q :=
  hdevice.of_write h

theorem put_put (fs : Files) (place : Place) (a b : Entry) :
    (fs.put place a).put place b = fs.put place b := by
  simp [put, List.filter_filter]

/-- A file that was written and is written again holds what came last. -/
theorem write_write {fs fs' fs'' : Files} {path : String}
    {a b : List UInt8} (hplain : ¬ fs.LeadsToDevice path)
    (ha : fs.write path a = .ok fs') (hb : fs'.write path b = .ok fs'') :
    fs.write path b = .ok fs'' := by
  have hplain' : ¬ fs'.LeadsToDevice path :=
    fun hdevice => hplain (hdevice.of_write ha)
  obtain ⟨place, htarget, ⟨hdevice, -⟩ | rfl⟩ := write_ok ha
  · exact absurd hdevice hplain
  obtain ⟨place', htarget', ⟨hdevice, -⟩ | rfl⟩ := write_ok hb
  · exact absurd hdevice hplain'
  obtain ⟨hreach, hnames, hentry⟩ := fileTarget_ok htarget
  obtain ⟨hreach', -, -⟩ := fileTarget_ok htarget'
  obtain rfl := Except.ok.inj
    (hreach'.symm.trans ((keeps_put hentry (.file a)).target hreach).2)
  rw [put_put]
  have hdummy : ∀ device, fs.entry? place' ≠ some (.dummy device) :=
    fun device hstands => hplain ⟨place', device, find_ok_iff.mpr
      ⟨hreach, hstands, fun hyes => by simp [hnames] at hyes⟩⟩
  unfold write
  rw [htarget]
  dsimp only
  split
  · next hstands => exact absurd hstands (hdummy .full)
  · next device _ hstands => exact absurd hstands (hdummy device)
  · rfl

/-- A file that was written reads as its text. -/
theorem readText_of_writeText {fs fs' : Files} {path text : String}
    (h : fs.writeText path text = .ok fs')
    (hplain : ¬ fs.LeadsToDevice path) :
    fs'.readText path = .ok text.toList := by
  obtain ⟨place, htarget, ⟨hdevice, -⟩ | rfl⟩ := writeText_ok h
  · exact absurd hdevice hplain
  · obtain ⟨hreach, hnames, hentry⟩ := fileTarget_ok htarget
    exact readText_put hreach hnames hentry _

/-- A file that was written elsewhere reads as before. -/
theorem readText_of_writeText_ne {fs fs' : Files} {path text q : String}
    {place : Place} {entry : Entry} (h : fs.writeText path text = .ok fs')
    (hfind : fs.find q = .ok (place, entry))
    (hne : fs.target path ≠ .ok place) : fs'.readText q = fs.readText q := by
  obtain ⟨written, htarget, ⟨-, rfl⟩ | rfl⟩ := writeText_ok h
  · rfl
  · obtain ⟨hreach, -, hentry⟩ := fileTarget_ok htarget
    obtain ⟨hq, hstands, hdir⟩ := find_ok_iff.mp hfind
    have hother : place ≠ written := by
      rintro rfl
      exact hne hreach
    refine readText_congr hfind (find_ok_iff.mpr
      ⟨((keeps_put hentry _).target hq).2, ?_, hdir⟩)
    rw [stands_put fs written _ place (ne_root hentry), if_neg hother, hstands]

/-- A file reads as before or as what was written. -/
theorem readText_of_writeText_cases {fs fs' : Files} {path text q : String}
    {old : List Char} (h : fs.writeText path text = .ok fs')
    (hold : fs.readText q = .ok old) :
    fs'.readText q = .ok old ∨ fs'.readText q = .ok text.toList := by
  obtain ⟨place, entry, hfind, hfile⟩ := find_of_readText hold
  by_cases hplace : fs.target path = .ok place
  · obtain ⟨written, htarget, ⟨-, rfl⟩ | rfl⟩ := writeText_ok h
    · exact .inl hold
    · obtain ⟨hreach, -, hentry⟩ := fileTarget_ok htarget
      obtain rfl := Except.ok.inj (hplace.symm.trans hreach)
      obtain ⟨hq, -, hdir⟩ := find_ok_iff.mp hfind
      have hnames : Path.namesDirectory q = false :=
        Bool.eq_false_iff.mpr fun hyes => hfile (hdir hyes)
      exact .inr (readText_put hq hnames hentry _)
  · exact .inl ((readText_of_writeText_ne h hfind hplace).trans hold)

/-! ## Moving -/

/-- What is moved is no directory, and stands where a file can be written. -/
theorem rename_ok {fs fs' : Files} {source path : String}
    (h : fs.rename source path = .ok fs') :
    ∃ place entry new, fs.find source = .ok (place, entry)
      ∧ entry ≠ .directory ∧ fs.fileTarget path = .ok new
      ∧ fs' = (fs.prune place).put new entry := by
  unfold rename at h
  cases hfind : fs.find source with
  | error fault =>
      rw [hfind] at h
      cases h
  | ok found =>
      obtain ⟨place, entry⟩ := found
      have hfile : entry ≠ .directory := by
        rintro rfl
        rw [hfind] at h
        cases h
      rw [hfind] at h
      cases htarget : fs.fileTarget path with
      | error fault =>
          rw [htarget] at h
          cases entry <;> cases h
      | ok new =>
          refine ⟨place, entry, new, rfl, hfile, rfl, ?_⟩
          rw [htarget] at h
          cases entry with
          | directory => exact absurd rfl hfile
          | _ => exact (Except.ok.inj h).symm

/-- Moving a file leaves every directory. -/
theorem keeps_move {fs : Files} {place new : Place} {entry : Entry}
    (hplace : fs.entry? place ≠ some .directory)
    (hnew : fs.entry? new ≠ some .directory) :
    fs.Keeps ((fs.prune place).put new entry) := by
  have hfree : entry? (fs.prune place) new ≠ some .directory :=
    fun hdir => hnew (stood_of_prune hdir)
  exact (keeps_prune hplace).trans (keeps_put hfree entry)

/-- A file reads the same where it was moved to. -/
theorem readText_of_rename {fs fs' : Files} {source path : String}
    {text : List Char} (h : fs.rename source path = .ok fs')
    (hread : fs.readText source = .ok text) :
    fs'.readText path = .ok text := by
  obtain ⟨place, entry, new, hfind, hfile, htarget, rfl⟩ := rename_ok h
  obtain ⟨-, hstands, -⟩ := find_ok_iff.mp hfind
  obtain ⟨hreach, hnames, hentry⟩ := fileTarget_ok htarget
  have hkeeps : fs.Keeps ((fs.prune place).put new entry) :=
    keeps_move (fun hdir =>
      hfile (Option.some.inj (hstands.symm.trans hdir))) hentry
  have hnew : ((fs.prune place).put new entry).find path
      = .ok (new, entry) := by
    refine find_ok_iff.mpr ⟨(hkeeps.target hreach).2, ?_,
      fun hyes => by simp [hnames] at hyes⟩
    rw [stands_put _ new entry new (ne_root hentry), if_pos rfl]
  rw [readText_congr hfind hnew, hread]

/-- Where a file was moved from, nothing is left, unless it was moved there. -/
theorem find_source_of_rename {fs fs' : Files} {source path : String}
    (h : fs.rename source path = .ok fs')
    (hne : ∀ place, fs.target source = .ok place →
      fs.target path ≠ .ok place) :
    fs'.find source = .error .notFound := by
  obtain ⟨place, entry, new, hfind, hfile, htarget, rfl⟩ := rename_ok h
  obtain ⟨hsource, hstands, -⟩ := find_ok_iff.mp hfind
  obtain ⟨hreach, -, hentry⟩ := fileTarget_ok htarget
  have hplace : fs.entry? place ≠ some .directory := fun hdir =>
    hfile (Option.some.inj (hstands.symm.trans hdir))
  have hother : place ≠ new := by
    rintro rfl
    exact hne _ hsource hreach
  have hgone : entry? ((fs.prune place).put new entry) place = none := by
    have hroot := ne_root hplace
    rw [stands_put _ new entry place (ne_root hentry), if_neg hother]
    have hfilter :=
      lookup_filter fs.entries (fun r => !place.isPrefixOf r) place
    have hself : place.isPrefixOf place = true :=
      List.isPrefixOf_iff_prefix.mpr (List.prefix_refl place)
    unfold entry? prune
    rw [hfilter, hself]
    simp [hroot]
  unfold find
  rw [((keeps_move hplace hentry).target hsource).2]
  simp only [hgone]

/-! ## Names of one directory -/

/-- A name leads to where a file of that name would be. -/
def IsName (name : String) : Prop := name ≠ "." ∧ name ≠ ".."

/-- Paths of different names in one directory; behind the first name there
may be steps that stay where they are. -/
def Siblings (path other : String) : Prop :=
  ∃ above name sibling k, IsName name ∧ IsName sibling ∧ name ≠ sibling
    ∧ Path.names path = above ++ name :: List.replicate k "."
    ∧ Path.names other = above ++ [sibling]

theorem follow_name {fs : Files} {place place' : Place} {name : String}
    (hname : IsName name) (h : fs.follow place name = .ok place') :
    place' = place ++ [name] := by
  rcases (follow_ok h).2 with ⟨hdot, -⟩ | ⟨hdots, -⟩ | ⟨-, -, heq⟩
  · exact absurd hdot hname.1
  · exact absurd hdots hname.2
  · exact heq

theorem foldlM_dots_ok {fs : Files} {place place' : Place} {k : Nat}
    (h : (List.replicate k ".").foldlM fs.follow place = .ok place') :
    place' = place := by
  induction k with
  | zero =>
      cases h
      rfl
  | succ k ih =>
      rw [List.replicate_succ, List.foldlM_cons] at h
      cases hfollow : fs.follow place "." with
      | error fault =>
          rw [hfollow] at h
          cases h
      | ok next =>
          rw [hfollow] at h
          obtain rfl : next = place := by
            rcases (follow_ok hfollow).2 with
              ⟨-, heq⟩ | ⟨hdots, -⟩ | ⟨hdot, -, -⟩
            · exact heq
            · exact absurd hdots (by decide)
            · exact absurd rfl hdot
          exact ih h

theorem foldlM_dots_congr {fs fs' : Files} {place : Place}
    (h : fs'.entry? place = fs.entry? place) (k : Nat) :
    (List.replicate k ".").foldlM fs'.follow place
      = (List.replicate k ".").foldlM fs.follow place := by
  induction k with
  | zero => rfl
  | succ k ih =>
      rw [List.replicate_succ, List.foldlM_cons, List.foldlM_cons,
        follow_congr h]
      cases hfollow : fs.follow place "." with
      | error fault => rfl
      | ok next =>
          have hone : (List.replicate 1 ".").foldlM fs.follow place
              = .ok next := by
            simp [hfollow, bind, Except.bind, pure, Except.pure]
          obtain rfl := foldlM_dots_ok hone
          exact ih

section

variable {fs : Files} {path other : String} {place : Place}

/-- The directory of a name is reached, and the name followed from there. -/
theorem target_name {above : List String} {name : String}
    (hname : IsName name) (h : fs.target path = .ok place)
    (hnames : Path.names path = above ++ [name]) :
    ∃ q, above.foldlM fs.follow [] = .ok q ∧ fs.Opens q
      ∧ place = q ++ [name] := by
  obtain ⟨q, hq, hreach, hfollow⟩ := target_append h hnames
  exact ⟨q, hq, hreach.opens (follow_ok hfollow).1, follow_name hname hfollow⟩

/-- Different names of a directory never lead to the same place. -/
theorem Siblings.target_ne (h : Siblings path other)
    (hother : fs.target other = .ok place) : fs.target path ≠ .ok place := by
  obtain ⟨above, name, sibling, k, hname, hsibling, hne, hpath, hnames⟩ := h
  obtain ⟨q, hq, -, rfl⟩ := target_name hsibling hother hnames
  intro htarget
  unfold target at htarget
  split at htarget
  · cases htarget
  rw [hpath, List.foldlM_append, hq] at htarget
  change (name :: List.replicate k ".").foldlM fs.follow q = _ at htarget
  rw [List.foldlM_cons] at htarget
  cases hfollow : fs.follow q name with
  | error fault =>
      rw [hfollow] at htarget
      cases htarget
  | ok p =>
      rw [hfollow] at htarget
      have hplace := (foldlM_dots_ok htarget).trans (follow_name hname hfollow)
      exact hne (List.cons.inj (List.append_cancel_left hplace)).1.symm

/-- What is put under one name of a directory leaves what is found under
another. -/
theorem Siblings.find_put (h : Siblings path other)
    (hother : fs.fileTarget other = .ok place) (entry : Entry) :
    (fs.put place entry).find path = fs.find path := by
  obtain ⟨hreach, -, hentry⟩ := fileTarget_ok hother
  have hapart := h.target_ne hreach
  obtain ⟨above, name, sibling, k, hname, hsibling, hne, hpath, hnames⟩ := h
  obtain ⟨q, hq, hopens, hplace⟩ := target_name hsibling hreach hnames
  have hkeeps := keeps_put hentry entry
  have hstands := fun p => stands_put fs place entry p (ne_root hentry)
  have hq' := (hkeeps.foldlM_follow fs.reaches_root hq).2
  have hsame : (fs.put place entry).target path = fs.target path := by
    unfold target
    split
    · rfl
    rw [hpath, List.foldlM_append, List.foldlM_append, hq, hq']
    change (name :: List.replicate k ".").foldlM
        (follow (fs.put place entry)) q
      = (name :: List.replicate k ".").foldlM fs.follow q
    have hdir : entry? (fs.put place entry) q = fs.entry? q :=
      (hkeeps q hopens).trans (hopens q (List.prefix_refl q)).symm
    rw [List.foldlM_cons, List.foldlM_cons, follow_congr hdir]
    cases hfollow : fs.follow q name with
    | error fault => rfl
    | ok p =>
        have hp : p ≠ place := by
          rw [follow_name hname hfollow, hplace]
          exact fun heq =>
            hne (List.cons.inj (List.append_cancel_left heq)).1
        exact foldlM_dots_congr ((hstands p).trans (if_neg hp)) k
  unfold find
  rw [hsame]
  cases htarget : fs.target path with
  | error fault => rfl
  | ok p =>
      have hp : p ≠ place := by
        rintro rfl
        exact hapart htarget
      simp only [hstands p, if_neg hp]

end

end Gateway.Files
