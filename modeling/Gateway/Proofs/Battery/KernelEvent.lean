import Gateway.Battery.KernelEvent
import Gateway.Proofs.Text.Split
import Gateway.Proofs.Text.Utf8

/-!
# Which kernel events are about the battery

A datagram is judged by which fields it has, not by their order or number:
it is about the battery just if one of its fields names the power supply
subsystem and one the battery (`isBatteryEvent_iff`). Whether it does is
kept in two flags while the fields are gone through. Each field raises a flag
if it is one of those that count and leaves it alone if not
(`subsystem_note`, `battery_note`), so at the end a flag says whether there
was such a field (`foldl_note_iff`).
-/

namespace Gateway.Battery

/-! ## The fields that count -/

/-- The field that names the power supply subsystem. -/
def subsystemField : List UInt8 := Text.encode "SUBSYSTEM=power_supply".toList

/-- A field names the battery: by its name, or, in UTF-8, by the path of its
device. -/
def NamesBattery (field : List UInt8) : Prop :=
  field = Text.encode "POWER_SUPPLY_NAME=battery".toList
    ∨ ∃ path : List Char, field = Text.encode ("DEVPATH=".toList ++ path)
      ∧ "/battery".toList <:+: path

/-- The fields that a datagram is judged by. -/
def Counts (field : List UInt8) : Prop :=
  field = subsystemField ∨ NamesBattery field

/-- Name and value of a field are what stands before and after the first
equals sign, in UTF-8. -/
theorem decode?_bind_cutAt_iff {field : List UInt8} {name value : List Char} :
    (Text.decode? field).bind (Text.cutAt '=') = some (name, value)
      ↔ field = Text.encode (name ++ '=' :: value) ∧ '=' ∉ name := by
  simp only [Option.bind_eq_some_iff, Text.decode?_eq_some_iff,
    Text.cutAt_eq_some_iff]
  constructor
  · rintro ⟨_, rfl, rfl, hname⟩
    exact ⟨rfl, hname⟩
  · rintro ⟨rfl, hname⟩
    exact ⟨_, rfl, rfl, hname⟩

theorem eq_subsystemField_iff {field : List UInt8} :
    field = subsystemField
      ↔ (Text.decode? field).bind (Text.cutAt '=')
        = some ("SUBSYSTEM".toList, "power_supply".toList) := by
  rw [decode?_bind_cutAt_iff, and_iff_left (by decide)]
  rfl

theorem namesBattery_iff {field : List UInt8} :
    NamesBattery field
      ↔ (Text.decode? field).bind (Text.cutAt '=')
          = some ("POWER_SUPPLY_NAME".toList, "battery".toList)
        ∨ ∃ path, (Text.decode? field).bind (Text.cutAt '=')
            = some ("DEVPATH".toList, path)
          ∧ "/battery".toList <:+: path := by
  simp only [decode?_bind_cutAt_iff]
  rw [and_iff_left (by decide)]
  refine or_congr Iff.rfl (exists_congr fun path => ?_)
  rw [and_iff_left (show '=' ∉ "DEVPATH".toList by decide)]
  rfl

/-! ## The flags -/

theorem exists_toList_eq (cs : List Char) : ∃ s : String, s.toList = cs :=
  ⟨String.ofList cs, String.toList_ofList⟩

namespace Named

variable {named : Named} {field : List UInt8}

theorem subsystem_note :
    (named.note field).subsystem = true
      ↔ named.subsystem = true ∨ field = subsystemField := by
  rw [eq_subsystemField_iff, note]
  split
  · next hnone => simp [hnone]
  · next name value hsome =>
      obtain ⟨name, rfl⟩ := exists_toList_eq name
      obtain ⟨value, rfl⟩ := exists_toList_eq value
      simp only [hsome, String.ofList_toList, Option.some.injEq,
        Prod.mk.injEq, String.toList_inj]
      split
      · simp
      · simp
      · split <;> simp
      · next hother _ =>
          exact (or_iff_left fun ⟨hname, hvalue⟩ => hother hname hvalue).symm

theorem battery_note :
    (named.note field).battery = true
      ↔ named.battery = true ∨ NamesBattery field := by
  rw [namesBattery_iff, note]
  split
  · next hnone => simp [hnone]
  · next name value hsome =>
      obtain ⟨name, rfl⟩ := exists_toList_eq name
      obtain ⟨value, rfl⟩ := exists_toList_eq value
      simp only [hsome, String.ofList_toList, Option.some.injEq,
        Prod.mk.injEq, String.toList_inj]
      split
      · simp
      · simp
      · split <;> simp_all [Text.occursIn_iff]
      · next hpath _ hother =>
          refine (or_iff_left ?_).symm
          rintro (⟨hname, hvalue⟩ | ⟨_, ⟨hname, -⟩, -⟩)
          · exact hother hname hvalue
          · exact hpath hname

/-- A flag that each field of some kind raises, and no other field, says
whether there was one. -/
theorem foldl_note_iff {flag : Named → Bool} {Kind : List UInt8 → Prop}
    (h : ∀ named field,
      flag (named.note field) = true ↔ flag named = true ∨ Kind field)
    (named : Named) (fields : List (List UInt8)) :
    flag (fields.foldl note named) = true
      ↔ flag named = true ∨ ∃ field ∈ fields, Kind field := by
  induction fields generalizing named with
  | nil => simp
  | cons field fields ih =>
      rw [List.foldl_cons, ih, h, or_assoc]
      simp

end Named

/-! ## Datagrams -/

theorem isBatteryEvent_iff (datagram : List UInt8) :
    isBatteryEvent datagram = true
      ↔ subsystemField ∈ datagram.splitOn 0
        ∧ ∃ field ∈ datagram.splitOn 0, NamesBattery field := by
  have hfields : Text.fields (· == 0) datagram = datagram.splitOn 0 :=
    Text.fields_eq_splitOnP _ _
  rw [isBatteryEvent, hfields]
  simp only [Bool.and_eq_true]
  rw [Named.foldl_note_iff (fun _ _ => Named.subsystem_note),
    Named.foldl_note_iff (fun _ _ => Named.battery_note)]
  simp

/-- Fields that a datagram has more do no harm, and only those that count
are needed. -/
theorem isBatteryEvent_mono {d e : List UInt8}
    (h : ∀ field, Counts field → field ∈ d.splitOn 0 → field ∈ e.splitOn 0)
    (hd : isBatteryEvent d = true) : isBatteryEvent e = true := by
  rw [isBatteryEvent_iff] at hd ⊢
  obtain ⟨hsubsystem, field, hfield, hnames⟩ := hd
  exact ⟨h _ (.inl rfl) hsubsystem, field, h _ (.inr hnames) hfield, hnames⟩

theorem isBatteryEvent_congr {d e : List UInt8}
    (h : ∀ field, Counts field →
      (field ∈ d.splitOn 0 ↔ field ∈ e.splitOn 0)) :
    isBatteryEvent d = isBatteryEvent e := by
  rw [Bool.eq_iff_iff]
  exact ⟨isBatteryEvent_mono fun field hcounts => (h field hcounts).mp,
    isBatteryEvent_mono fun field hcounts => (h field hcounts).mpr⟩

/-- A datagram is about the battery just if it has the field that names the
subsystem and one that names the battery. So their order does not matter,
nor do fields that do not count, or how often one is there; and a datagram
with all fields of one that is about the battery is so too. -/
theorem judged_by_fields :
    (∀ datagram, isBatteryEvent datagram = true
        ↔ subsystemField ∈ datagram.splitOn 0
          ∧ ∃ field ∈ datagram.splitOn 0, NamesBattery field)
      ∧ (∀ d e : List UInt8, (d.splitOn 0).Perm (e.splitOn 0) →
        isBatteryEvent d = isBatteryEvent e)
      ∧ (∀ d e : List UInt8, (∀ field, Counts field →
          (field ∈ d.splitOn 0 ↔ field ∈ e.splitOn 0)) →
        isBatteryEvent d = isBatteryEvent e)
      ∧ ∀ d e : List UInt8, d.splitOn 0 ⊆ e.splitOn 0 →
        isBatteryEvent d = true → isBatteryEvent e = true :=
  ⟨isBatteryEvent_iff,
    fun _ _ hperm => isBatteryEvent_congr fun _ _ => hperm.mem_iff,
    fun _ _ => isBatteryEvent_congr,
    fun _ _ hsubset => isBatteryEvent_mono fun _ _ hfield => hsubset hfield⟩

/-- A header, bytes that are no text and an empty field around the two that
count. -/
theorem judged_by_fields_crowded :
    let path := Text.encode "DEVPATH=/devices/x/battery".toList
    let d := path ++ 0 :: subsystemField
    let e := Text.encode "change@/battery".toList ++ 0 :: subsystemField
      ++ 0 :: [0xC3, 0xFF] ++ 0 :: path ++ 0 :: []
    d.splitOn 0 ⊆ e.splitOn 0 ∧ isBatteryEvent d = true
      ∧ isBatteryEvent e = true := by
  intro path d e
  have hd : d.splitOn 0 = [path, subsystemField] := rfl
  have he : e.splitOn 0 = [Text.encode "change@/battery".toList,
      subsystemField, [0xC3, 0xFF], path, []] := rfl
  have hsubset : d.splitOn 0 ⊆ e.splitOn 0 := by
    rw [hd, he]
    simp
  have hnames : NamesBattery path :=
    .inr ⟨"/devices/x/battery".toList, rfl, "/devices/x".toList, [], rfl⟩
  have hbattery : isBatteryEvent d = true := by
    refine (judged_by_fields.1 d).mpr ⟨?_, path, ?_, hnames⟩
    · rw [hd]
      simp
    · rw [hd]
      simp
  exact ⟨hsubset, hbattery, judged_by_fields.2.2.2 d e hsubset hbattery⟩

end Gateway.Battery
