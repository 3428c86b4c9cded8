import Gateway.Proofs.Text.Split

/-!
# What is taken off a text

A text without the characters of some kind in front of it (`Sheds`) is what
is left from the first one of another kind (`sheds_iff`). Trimming does the
same on both sides (`trims_iff`), with the characters that have the
White_Space property, and these are given by their codes (`isBlank_iff`).
-/

namespace Gateway.Text

/-! ## In front -/

/-- What a text is without the characters of a kind in front of it. -/
def Sheds (kind : Char → Prop) (cs rest : List Char) : Prop :=
  ∃ front, cs = front ++ rest ∧ (∀ c ∈ front, kind c)
    ∧ ∀ c ∈ rest.head?, ¬ kind c

theorem sheds_iff {kind : Char → Prop} {p : Char → Bool}
    (hkind : ∀ c, p c = true ↔ kind c) {cs rest : List Char} :
    Sheds kind cs rest ↔ cs.dropWhile p = rest := by
  constructor
  · rintro ⟨front, rfl, hfront, hrest⟩
    rw [List.dropWhile_append_of_pos fun c hc => (hkind c).mpr (hfront c hc)]
    cases rest with
    | nil => rfl
    | cons c rest =>
        exact List.dropWhile_cons_of_neg fun hc => hrest c rfl ((hkind c).mp hc)
  · rintro rfl
    refine ⟨cs.takeWhile p, List.takeWhile_append_dropWhile.symm,
      fun c hc => (hkind c).mp ?_, fun c hc hyes => ?_⟩
    · exact List.all_eq_true.mp List.all_takeWhile c hc
    · have hno := List.head?_dropWhile_not p cs
      rw [hc] at hno
      exact Bool.false_ne_true (hno.symm.trans ((hkind c).mpr hyes))

open Classical in
theorem Sheds.unique {kind : Char → Prop} {cs rest rest' : List Char}
    (h : Sheds kind cs rest) (h' : Sheds kind cs rest') : rest = rest' := by
  have hkind : ∀ c, decide (kind c) = true ↔ kind c :=
    fun _ => decide_eq_true_iff
  exact ((sheds_iff hkind).mp h).symm.trans ((sheds_iff hkind).mp h')

/-! ## On both sides -/

/-- The codes of the characters with the White_Space property. -/
def whiteSpace : List Nat :=
  [0x09, 0x0A, 0x0B, 0x0C, 0x0D, 0x20, 0x85, 0xA0, 0x1680, 0x2000, 0x2001,
    0x2002, 0x2003, 0x2004, 0x2005, 0x2006, 0x2007, 0x2008, 0x2009, 0x200A,
    0x2028, 0x2029, 0x202F, 0x205F, 0x3000]

theorem isBlank_iff {c : Char} : isBlank c = true ↔ c.toNat ∈ whiteSpace := by
  simp only [isBlank, whiteSpace, Bool.or_eq_true, Bool.and_eq_true,
    decide_eq_true_eq, beq_iff_eq, List.mem_cons, List.not_mem_nil, or_false]
  omega

theorem isBlank_eq_false_iff {c : Char} :
    isBlank c = false ↔ c.toNat ∉ whiteSpace := by
  rw [← isBlank_iff, Bool.not_eq_true]

/-- What a text is without the white space around it. -/
def Trims (cs core : List Char) : Prop :=
  ∃ front back, cs = front ++ core ++ back
    ∧ (∀ c ∈ front ++ back, c.toNat ∈ whiteSpace)
    ∧ (∀ c ∈ core.head?, c.toNat ∉ whiteSpace)
    ∧ ∀ c ∈ core.getLast?, c.toNat ∉ whiteSpace

theorem trims_iff {cs core : List Char} : Trims cs core ↔ trim cs = core := by
  constructor
  · rintro ⟨front, back, rfl, hblank, hhead, hlast⟩
    rw [List.forall_mem_append] at hblank
    rw [trim_padded (fun c hc => isBlank_iff.mpr (hblank.1 c hc))
      fun c hc => isBlank_iff.mpr (hblank.2 c hc)]
    exact trim_eq_self (fun c hc => isBlank_eq_false_iff.mpr (hhead c hc))
      fun c hc => isBlank_eq_false_iff.mpr (hlast c hc)
  · rintro rfl
    obtain ⟨front, hcs, hfront, hstart⟩ :=
      (sheds_iff fun _ => isBlank_iff).mpr (rfl : trimStart cs = trimStart cs)
    obtain ⟨back, hback, hblank⟩ := exists_trimEnd (trimStart cs)
    refine ⟨front, back, ?_, ?_, fun c hc => ?_, fun c hc => ?_⟩
    · rw [List.append_assoc, trim, ← hback, ← hcs]
    · rw [List.forall_mem_append]
      exact ⟨hfront, fun c hc => isBlank_iff.mp (hblank c hc)⟩
    · refine hstart c ?_
      rw [hback, List.head?_append, ← trim, hc]
      rfl
    · have hno := List.head?_dropWhile_not isBlank (trimStart cs).reverse
      rw [trim, trimEnd, List.getLast?_reverse] at hc
      rw [hc] at hno
      exact isBlank_eq_false_iff.mp hno

theorem Trims.unique {cs core core' : List Char} (h : Trims cs core)
    (h' : Trims cs core') : core = core' :=
  (trims_iff.mp h).symm.trans (trims_iff.mp h')

end Gateway.Text
