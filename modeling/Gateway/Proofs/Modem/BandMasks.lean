import Gateway.Modem.Band

/-!
# Band masks as sets of bands

The masks of a list of bands have a band's bit just if the band is in the
list (`contains_ofBands`), whatever bits of other bands share its value:
bands of one technology and duplex mode have different bits, and the
others are kept in other masks. So the locked bands of the masks are the
bands of the list in the order of tables (`locked_ofBands`), and a
technology has a bit just if a band of it is in the list (`has_ofBands`).
-/

namespace Gateway.Modem

theorem Band.mem_all (b : Band) : b ∈ Band.all := by
  cases b <;> decide

/-- Bands that are kept in one mask have different bits there. -/
theorem Band.mask_disjoint {a b : Band}
    (ht : a.technology = b.technology) (hd : a.duplex = b.duplex) :
    a.mask &&& b.mask ≠ 0 ↔ a = b := by
  have hall : ∀ a ∈ Band.all, ∀ b ∈ Band.all, a.technology = b.technology →
      a.duplex = b.duplex → (a.mask &&& b.mask ≠ 0 ↔ a = b) := by
    decide
  exact hall a (mem_all a) b (mem_all b) ht hd

theorem Band.mask_ne_zero (b : Band) : b.mask ≠ 0 := by
  cases b <;> decide

namespace BandMasks

/-- Whether there is a bit of a band of a technology. -/
def has (m : BandMasks) : Technology → Bool
  | .lte => m.hasLte
  | .nr => m.hasNr

/-! ## One more band -/

theorem maskOf_insert (m : BandMasks) (a b : Band) :
    (m.insert a).maskOf b
      = if a.technology = b.technology ∧ a.duplex = b.duplex
        then m.maskOf b ||| a.mask else m.maskOf b := by
  unfold insert maskOf
  cases a.technology <;> cases a.duplex <;> cases b.technology
    <;> cases b.duplex <;> rfl

theorem and_or_eq_zero (x y z : UInt32) :
    (x ||| y) &&& z = 0 ↔ x &&& z = 0 ∧ y &&& z = 0 := by
  have hdistrib : (x ||| y) &&& z = x &&& z ||| y &&& z := by
    apply UInt32.toNat_inj.mp
    simp only [UInt32.toNat_and, UInt32.toNat_or]
    exact Nat.and_or_distrib_right ..
  rw [hdistrib, UInt32.or_eq_zero_iff]

theorem contains_insert (m : BandMasks) (a b : Band) :
    (m.insert a).contains b = true ↔ m.contains b = true ∨ a = b := by
  unfold contains
  rw [maskOf_insert]
  simp only [bne_iff_ne]
  split
  · next h =>
      rw [ne_eq, and_or_eq_zero, Decidable.not_and_iff_not_or_not]
      exact or_congr_right (Band.mask_disjoint h.1 h.2)
  · next h =>
      have hne : a ≠ b := fun heq => h (heq ▸ ⟨rfl, rfl⟩)
      simp [hne]

theorem has_insert (m : BandMasks) (a : Band) (t : Technology) :
    (m.insert a).has t = true ↔ m.has t = true ∨ a.technology = t := by
  have hmask := a.mask_ne_zero
  unfold insert
  cases t <;> cases a.technology <;> cases a.duplex
    <;> simp [has, hasLte, hasNr, hmask]

/-! ## A list of bands -/

theorem contains_foldl_insert (bands : List Band) (m : BandMasks)
    (b : Band) :
    (bands.foldl insert m).contains b = true
      ↔ m.contains b = true ∨ b ∈ bands := by
  induction bands generalizing m with
  | nil => simp
  | cons a bands ih =>
      rw [List.foldl_cons, ih, contains_insert, List.mem_cons, or_assoc,
        eq_comm (a := a)]

theorem contains_ofBands (bands : List Band) (b : Band) :
    (ofBands bands).contains b = true ↔ b ∈ bands := by
  have hnone : none.contains b = false := by
    cases b <;> rfl
  rw [ofBands, contains_foldl_insert, hnone]
  simp

/-- The bands of a list, each of them once, in the order of tables. -/
theorem locked_ofBands (bands : List Band) :
    (ofBands bands).locked = Band.all.filter (· ∈ bands) := by
  rw [locked]
  refine List.filter_congr fun b _ => ?_
  rw [Bool.eq_iff_iff, contains_ofBands, decide_eq_true_iff]

theorem has_foldl_insert (bands : List Band) (m : BandMasks)
    (t : Technology) :
    (bands.foldl insert m).has t = true
      ↔ m.has t = true ∨ ∃ b ∈ bands, b.technology = t := by
  induction bands generalizing m with
  | nil => simp
  | cons a bands ih =>
      rw [List.foldl_cons, ih, has_insert, or_assoc]
      simp

theorem has_ofBands (bands : List Band) (t : Technology) :
    (ofBands bands).has t = true ↔ ∃ b ∈ bands, b.technology = t := by
  have hnone : none.has t = false := by
    cases t <;> rfl
  rw [ofBands, has_foldl_insert, hnone]
  simp

end BandMasks

end Gateway.Modem
