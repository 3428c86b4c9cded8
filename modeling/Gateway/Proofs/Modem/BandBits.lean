import Gateway.Proofs.Modem.BandMasks
import Mathlib.Data.Nat.Bitwise

/-!
# Band masks bit by bit

A bit of a mask stands for one band or for none (`Band.StandsAt`). The masks
of a list of bands have just the bits that stand for a band of the list
(`hasBit_ofBands`), and whether masks contain a band is whether they have
its bit (`contains_iff_hasBit`). Masks are their bits (`ext_hasBit`), so
this settles what the bands of masks say about the masks: all but the bits
that stand for no band (`faithful`).
-/

namespace Gateway.Modem

/-- The bit of a mask, by its number, is a band's. -/
def Band.StandsAt (b : Band) (t : Technology) (d : Duplex) (i : Nat) : Prop :=
  b.technology = t ∧ b.duplex = d ∧ b.mask.toNat = 2 ^ i

theorem Band.exists_bit (b : Band) : ∃ i, b.mask.toNat = 2 ^ i :=
  ⟨b.mask.toNat.log2, by cases b <;> decide⟩

theorem Band.testBit_mask {b : Band} {i : Nat} :
    b.mask.toNat.testBit i = true ↔ b.mask.toNat = 2 ^ i := by
  obtain ⟨k, hk⟩ := b.exists_bit
  rw [hk, Nat.testBit_two_pow, decide_eq_true_iff,
    Nat.pow_right_inj (by decide)]

namespace BandMasks

/-- The mask of a technology and a duplex mode. -/
def slot (m : BandMasks) : Technology → Duplex → UInt32
  | .lte, .tdd => m.lteTdd
  | .lte, .fdd => m.lteFdd
  | .nr, .tdd => m.nrTdd
  | .nr, .fdd => m.nrFdd

/-- Whether masks have a bit. -/
def HasBit (m : BandMasks) (t : Technology) (d : Duplex) (i : Nat) : Prop :=
  (m.slot t d).toNat.testBit i = true

instance (m : BandMasks) (t : Technology) (d : Duplex) (i : Nat) :
    Decidable (m.HasBit t d i) :=
  inferInstanceAs (Decidable (_ = true))

/-- The masks with the bits of both. -/
def union (m m' : BandMasks) : BandMasks where
  lteTdd := m.lteTdd ||| m'.lteTdd
  lteFdd := m.lteFdd ||| m'.lteFdd
  nrTdd := m.nrTdd ||| m'.nrTdd
  nrFdd := m.nrFdd ||| m'.nrFdd

/-- The bits that masks have in common. -/
def inter (m m' : BandMasks) : BandMasks where
  lteTdd := m.lteTdd &&& m'.lteTdd
  lteFdd := m.lteFdd &&& m'.lteFdd
  nrTdd := m.nrTdd &&& m'.nrTdd
  nrFdd := m.nrFdd &&& m'.nrFdd

variable {t : Technology} {d : Duplex} {i : Nat}

/-- Masks are their bits. -/
theorem ext_hasBit {m m' : BandMasks}
    (h : ∀ t d i, m.HasBit t d i ↔ m'.HasBit t d i) : m = m' := by
  have hslot : ∀ t d, m.slot t d = m'.slot t d := fun t d =>
    UInt32.toNat_inj.mp (Nat.eq_of_testBit_eq fun i =>
      Bool.eq_iff_iff.mpr (h t d i))
  have htt := hslot .lte .tdd
  have htf := hslot .lte .fdd
  have hnt := hslot .nr .tdd
  have hnf := hslot .nr .fdd
  cases m
  cases m'
  simp only [slot] at htt htf hnt hnf
  rw [htt, htf, hnt, hnf]

theorem not_hasBit_none : ¬ none.HasBit t d i := by
  cases t <;> cases d <;> simp [HasBit, slot, none]

theorem hasBit_union {m m' : BandMasks} :
    (m.union m').HasBit t d i ↔ m.HasBit t d i ∨ m'.HasBit t d i := by
  have hslot : (m.union m').slot t d = m.slot t d ||| m'.slot t d := by
    cases t <;> cases d <;> rfl
  rw [HasBit, hslot, UInt32.toNat_or, Nat.testBit_or, Bool.or_eq_true]
  rfl

theorem hasBit_inter {m m' : BandMasks} :
    (m.inter m').HasBit t d i ↔ m.HasBit t d i ∧ m'.HasBit t d i := by
  have hslot : (m.inter m').slot t d = m.slot t d &&& m'.slot t d := by
    cases t <;> cases d <;> rfl
  rw [HasBit, hslot, UInt32.toNat_and, Nat.testBit_and, Bool.and_eq_true]
  rfl

/-! ## The bits of bands -/

/-- Masks contain a band just if they have its bit. -/
theorem contains_iff_hasBit {m : BandMasks} {b : Band}
    (h : b.StandsAt t d i) : m.contains b = true ↔ m.HasBit t d i := by
  obtain ⟨rfl, rfl, hmask⟩ := h
  have hslot : m.maskOf b = m.slot b.technology b.duplex := by
    unfold maskOf slot
    cases b.technology <;> cases b.duplex <;> rfl
  rw [contains, bne_iff_ne, ne_eq, ← UInt32.toNat_inj, UInt32.toNat_and,
    hmask, Nat.and_two_pow, hslot, HasBit]
  cases (m.slot b.technology b.duplex).toNat.testBit i <;> simp

theorem hasBit_insert {m : BandMasks} {b : Band} :
    (m.insert b).HasBit t d i ↔ m.HasBit t d i ∨ b.StandsAt t d i := by
  have hslot : (m.insert b).slot t d
      = if b.technology = t ∧ b.duplex = d then m.slot t d ||| b.mask
        else m.slot t d := by
    unfold insert slot
    cases b.technology <;> cases b.duplex <;> cases t <;> cases d <;> rfl
  rw [HasBit, hslot]
  split
  · next hplace =>
      rw [UInt32.toNat_or, Nat.testBit_or, Bool.or_eq_true,
        Band.testBit_mask, Band.StandsAt, HasBit]
      simp [hplace]
  · next hplace =>
      have hnot : ¬ b.StandsAt t d i := fun h => hplace ⟨h.1, h.2.1⟩
      simp [HasBit, hnot]

theorem hasBit_foldl_insert (bands : List Band) (m : BandMasks) :
    (bands.foldl insert m).HasBit t d i
      ↔ m.HasBit t d i ∨ ∃ b ∈ bands, b.StandsAt t d i := by
  induction bands generalizing m with
  | nil => simp
  | cons a bands ih =>
      rw [List.foldl_cons, ih, hasBit_insert, or_assoc]
      simp

/-- The masks of a list have the bits of its bands and no others. -/
theorem hasBit_ofBands {bands : List Band} :
    (ofBands bands).HasBit t d i ↔ ∃ b ∈ bands, b.StandsAt t d i := by
  rw [ofBands, hasBit_foldl_insert]
  simp [not_hasBit_none]

theorem ofBands_append (xs ys : List Band) :
    ofBands (xs ++ ys) = (ofBands xs).union (ofBands ys) := by
  refine ext_hasBit fun t d i => ?_
  rw [hasBit_union, hasBit_ofBands, hasBit_ofBands, hasBit_ofBands]
  simp only [List.mem_append, or_and_right, exists_or]

theorem mem_locked {m : BandMasks} {b : Band} :
    b ∈ m.locked ↔ m.contains b = true := by
  rw [locked, List.mem_filter]
  exact and_iff_right (Band.mem_all b)

/-- The bands of masks account for the bits that are a band's. -/
theorem hasBit_ofBands_locked {m : BandMasks} :
    (ofBands m.locked).HasBit t d i
      ↔ m.HasBit t d i ∧ ∃ b : Band, b.StandsAt t d i := by
  rw [hasBit_ofBands]
  constructor
  · rintro ⟨b, hmem, hb⟩
    exact ⟨(contains_iff_hasBit hb).mp (mem_locked.mp hmem), b, hb⟩
  · rintro ⟨hbit, b, hb⟩
    exact ⟨b, mem_locked.mpr ((contains_iff_hasBit hb).mpr hbit), hb⟩

theorem ofBands_locked (m : BandMasks) :
    ofBands m.locked = m.inter (ofBands Band.all) := by
  refine ext_hasBit fun t d i => ?_
  rw [hasBit_ofBands_locked, hasBit_inter, hasBit_ofBands]
  simp [Band.mem_all]

theorem ofBands_locked_iff {m : BandMasks} :
    ofBands m.locked = m
      ↔ ∀ t d i, m.HasBit t d i → ∃ b : Band, b.StandsAt t d i := by
  constructor
  · intro hsame t d i hbit
    rw [← hsame] at hbit
    exact (hasBit_ofBands_locked.mp hbit).2
  · intro hknown
    refine ext_hasBit fun t d i => ?_
    rw [hasBit_ofBands_locked]
    exact and_iff_left_of_imp (hknown t d i)

/-! ## Masks and lists of bands -/

/-- Masks are sets of bands. Those of a list contain the bands of the list,
and their bands are these, each once and in the order of tables; joining
lists joins their masks, field by field, and a technology has a bit just if a
band of the list is of it. Any masks are those of their bands, but for the
bits that are no band's. -/
theorem faithful (xs ys : List Band) (m : BandMasks) :
    (∀ b, (ofBands xs).contains b = true ↔ b ∈ xs)
      ∧ (ofBands xs).locked = Band.all.filter (· ∈ xs)
      ∧ (ofBands xs).locked.Nodup
      ∧ ofBands (xs ++ ys) = (ofBands xs).union (ofBands ys)
      ∧ ofBands m.locked = m.inter (ofBands Band.all)
      ∧ (∀ t d i, (ofBands Band.all).HasBit t d i
        ↔ ∃ b : Band, b.StandsAt t d i)
      ∧ (ofBands m.locked = m
        ↔ ∀ t d i, m.HasBit t d i → ∃ b : Band, b.StandsAt t d i)
      ∧ ((ofBands xs).hasLte = true ↔ ∃ b ∈ xs, b.technology = .lte)
      ∧ ((ofBands xs).hasNr = true ↔ ∃ b ∈ xs, b.technology = .nr) := by
  have honce : Band.all.Nodup := by decide
  have htable : ∀ t d i, (ofBands Band.all).HasBit t d i
      ↔ ∃ b : Band, b.StandsAt t d i := fun t d i => by
    rw [hasBit_ofBands]
    simp [Band.mem_all]
  exact ⟨contains_ofBands xs, locked_ofBands xs, honce.filter _,
    ofBands_append xs ys, ofBands_locked m, htable, ofBands_locked_iff,
    has_ofBands xs .lte, has_ofBands xs .nr⟩

/-- Four bands have the bit of value 128, each in a mask of its own, and the
bit of value 1 of the TDD mask of LTE is no band's. -/
theorem faithful_shared :
    let m : BandMasks := ⟨129, 128, 128, 128⟩
    m.locked = [.tdd40, .fdd08, .n08, .n77]
      ∧ ofBands m.locked = ⟨128, 128, 128, 128⟩ ∧ m.HasBit .lte .tdd 0
      ∧ ¬ ∃ b : Band, b.StandsAt .lte .tdd 0 := by
  intro m
  obtain ⟨-, -, -, -, hlocked, htable, -, -, -⟩ := faithful [] [] m
  refine ⟨by decide, hlocked.trans (by decide), by decide, fun hband => ?_⟩
  exact absurd ((htable .lte .tdd 0).mpr hband) (by decide)

end BandMasks

end Gateway.Modem
