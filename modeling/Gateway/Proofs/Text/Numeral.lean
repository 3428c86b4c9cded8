import Gateway.Text.Blank
import Gateway.Text.Numeral

/-!
# Decimals read back

A whole number written in decimal is read as the number that it was
(`unsigned?_digits`). The digits are taken off from the back, as the number
is written: what is read of the others is the number without its last
digit. Nothing in a decimal is blank or a mark (`digits_plain`), so it can
stand in a field of its own.
-/

namespace Gateway.Text

theorem digit?_digitChar {d : Nat} (h : d < 10) :
    digit? (Nat.digitChar d) = some d := by
  have hall : ∀ d : Fin 10, digit? (Nat.digitChar d) = some d.val := by
    decide
  exact hall ⟨d, h⟩

theorem digitsFrom_append (acc : Nat) (cs : List Char) (c : Char) :
    digitsFrom acc (cs ++ [c])
      = (digitsFrom acc cs).bind fun n =>
          (digit? c).map fun d => 10 * n + d := by
  induction cs generalizing acc with
  | nil =>
      simp only [List.nil_append, digitsFrom, Option.bind_some]
      cases digit? c <;> rfl
  | cons x cs ih =>
      simp only [List.cons_append, digitsFrom]
      cases digit? x with
      | none => rfl
      | some d => exact ih (10 * acc + d)

theorem digitsFrom_toDigits (n : Nat) :
    digitsFrom 0 (Nat.toDigits 10 n) = some n := by
  induction n using Nat.strongRecOn with
  | ind n ih =>
      rw [Nat.toDigits_eq_if (by decide)]
      split
      · next hsmall =>
          rw [digitsFrom, digit?_digitChar hsmall]
          simp [digitsFrom]
      · next hlarge =>
          have hfewer : n / 10 < n := by omega
          have hlast : n % 10 < 10 := by omega
          rw [digitsFrom_append, ih _ hfewer, digit?_digitChar hlast]
          simp only [Option.bind_some, Option.map_some, Option.some.injEq]
          omega

theorem natural?_digits (n : Nat) :
    natural? (toString n).toList = some n := by
  have hdigits : (toString n).toList = Nat.toDigits 10 n := Nat.toList_repr
  rw [hdigits, natural?, if_neg (by simp), digitsFrom_toDigits]

/-- A decimal is made of digits. -/
theorem isDigit_of_mem_digits {n : Nat} {c : Char}
    (h : c ∈ (toString n).toList) : c.isDigit = true := by
  have hdigits : (toString n).toList = Nat.toDigits 10 n := Nat.toList_repr
  rw [hdigits] at h
  exact Nat.isDigit_of_mem_toDigits (by decide) (by decide) h

theorem not_isBlank_of_isDigit {c : Char} (h : c.isDigit = true) :
    isBlank c = false := by
  simp only [Char.isDigit, Bool.and_eq_true, decide_eq_true_eq] at h
  obtain ⟨hlow, hhigh⟩ := h
  have hlow : 48 ≤ c.toNat := hlow
  have hhigh : c.toNat ≤ 57 := hhigh
  simp only [isBlank, Bool.or_eq_false_iff, Bool.and_eq_false_iff,
    decide_eq_false_iff_not, beq_eq_false_iff_ne]
  omega

/-- A decimal has none of the characters that end lines and fields, and
none that is blank. -/
theorem digits_plain {n : Nat} {c : Char} (h : c ∈ (toString n).toList) :
    c ≠ ',' ∧ c ≠ '+' ∧ c ≠ '\n' ∧ isBlank c = false := by
  have hdigit := isDigit_of_mem_digits h
  refine ⟨?_, ?_, ?_, not_isBlank_of_isDigit hdigit⟩
  all_goals
    rintro rfl
    cases hdigit

theorem unsigned?_digits {n max : Nat} (h : n ≤ max) :
    unsigned? max (toString n).toList = some n := by
  have hnosign : ∀ rest, (toString n).toList ≠ '+' :: rest := by
    intro rest heq
    have hplus : '+' ∈ (toString n).toList := heq ▸ List.mem_cons_self
    exact (digits_plain hplus).2.1 rfl
  unfold unsigned?
  split
  · next rest heq => exact absurd heq (hnosign rest)
  · dsimp only
    rw [natural?_digits, Option.filter_some, if_pos (decide_eq_true h)]

end Gateway.Text
