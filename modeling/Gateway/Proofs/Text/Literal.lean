import Gateway.Text.Numeral
import Mathlib.Data.Nat.Digits.Defs

/-!
# What a number in text is

A literal is a run of digits, with or without a plus sign in front, and its
value is that of the digits in base ten (`IsLiteral`); one of an integer may
have a minus sign instead (`IsInteger`). Reading accepts just the literals
whose value is in range, and gives their value (`unsigned?_eq_some_iff`,
`signed?_eq_some_iff`).
-/

namespace Gateway.Text

/-- The value of digits, the last of which counts ones. -/
def digitsValue (digits : List Char) : Nat :=
  Nat.ofDigits 10 (digits.reverse.map fun c => c.toNat - '0'.toNat)

/-- A text is a literal of a number. -/
def IsLiteral (cs : List Char) (n : Nat) : Prop :=
  ∃ digits, (cs = digits ∨ cs = '+' :: digits) ∧ digits ≠ []
    ∧ (∀ c ∈ digits, c.isDigit = true) ∧ digitsValue digits = n

theorem digit?_eq_some_iff {c : Char} {d : Nat} :
    digit? c = some d ↔ c.isDigit = true ∧ c.toNat - '0'.toNat = d := by
  have hrange : '0' ≤ c ∧ c ≤ '9' ↔ c.isDigit = true := by
    simp only [Char.isDigit, Bool.and_eq_true, decide_eq_true_eq]
    exact Iff.rfl
  unfold digit?
  split
  · next h => simp [hrange.mp h]
  · next h => simp [mt hrange.mpr h]

theorem digitsValue_cons (c : Char) (cs : List Char) :
    digitsValue (c :: cs)
      = (c.toNat - '0'.toNat) * 10 ^ cs.length + digitsValue cs := by
  rw [digitsValue, List.reverse_cons, List.map_append, Nat.ofDigits_append]
  simp only [List.map_cons, List.map_nil, Nat.ofDigits_singleton,
    List.length_map, List.length_reverse, digitsValue]
  ring

/-- The digits read so far count ten times for each digit to come. -/
theorem digitsFrom_eq_some_iff {acc n : Nat} {cs : List Char} :
    digitsFrom acc cs = some n ↔ (∀ c ∈ cs, c.isDigit = true)
      ∧ acc * 10 ^ cs.length + digitsValue cs = n := by
  induction cs generalizing acc with
  | nil => simp [digitsFrom, digitsValue]
  | cons c cs ih =>
      rw [digitsFrom, Option.bind_eq_some_iff]
      simp only [digit?_eq_some_iff, ih, digitsValue_cons, List.length_cons,
        List.forall_mem_cons]
      constructor
      · rintro ⟨d, ⟨hc, rfl⟩, hcs, rfl⟩
        exact ⟨⟨hc, hcs⟩, by ring⟩
      · rintro ⟨⟨hc, hcs⟩, rfl⟩
        exact ⟨_, ⟨hc, rfl⟩, hcs, by ring⟩

theorem natural?_eq_some_iff {cs : List Char} {n : Nat} :
    natural? cs = some n ↔ cs ≠ [] ∧ (∀ c ∈ cs, c.isDigit = true)
      ∧ digitsValue cs = n := by
  unfold natural?
  cases cs with
  | nil => simp
  | cons c cs =>
      rw [if_neg (by simp), digitsFrom_eq_some_iff, Nat.zero_mul,
        Nat.zero_add]
      exact (and_iff_right (List.cons_ne_nil c cs)).symm

/-- What is read is a literal in range, as its value. -/
theorem unsigned?_eq_some_iff {max n : Nat} {cs : List Char} :
    unsigned? max cs = some n ↔ IsLiteral cs n ∧ n ≤ max := by
  unfold unsigned?
  rw [Option.filter_eq_some_iff, decide_eq_true_iff]
  refine and_congr_left fun _ => ?_
  split
  · next rest =>
      rw [natural?_eq_some_iff]
      constructor
      · rintro ⟨hne, hdigits, hvalue⟩
        exact ⟨rest, .inr rfl, hne, hdigits, hvalue⟩
      · rintro ⟨digits, rfl | hsign, hne, hdigits, hvalue⟩
        · cases hdigits '+' List.mem_cons_self
        · obtain rfl := (List.cons.inj hsign).2
          exact ⟨hne, hdigits, hvalue⟩
  · next hsign =>
      rw [natural?_eq_some_iff]
      constructor
      · rintro ⟨hne, hdigits, hvalue⟩
        exact ⟨cs, .inl rfl, hne, hdigits, hvalue⟩
      · rintro ⟨digits, rfl | rfl, hne, hdigits, hvalue⟩
        · exact ⟨hne, hdigits, hvalue⟩
        · exact absurd rfl (hsign digits)

/-- A text is a literal of an integer. -/
def IsInteger (cs : List Char) (z : Int) : Prop :=
  (∃ n : Nat, IsLiteral cs n ∧ z = n)
    ∨ ∃ digits, cs = '-' :: digits ∧ digits ≠ []
      ∧ (∀ c ∈ digits, c.isDigit = true) ∧ z = -(digitsValue digits : Int)

theorem not_isLiteral_minus {rest : List Char} {n : Nat} :
    ¬ IsLiteral ('-' :: rest) n := by
  rintro ⟨digits, rfl | hsign, -, hdigits, -⟩
  · cases hdigits '-' List.mem_cons_self
  · cases (List.cons.inj hsign).1

/-- What is read is a literal of an integer in range, as its value. -/
theorem signed?_eq_some_iff {max : Nat} {cs : List Char} {z : Int} :
    signed? max cs = some z
      ↔ IsInteger cs z ∧ -((max : Int) + 1) ≤ z ∧ z ≤ max := by
  unfold signed?
  split
  · next rest =>
      simp only [Option.map_eq_some_iff, Option.filter_eq_some_iff,
        decide_eq_true_eq, natural?_eq_some_iff]
      constructor
      · rintro ⟨n, ⟨⟨hne, hdigits, rfl⟩, hrange⟩, rfl⟩
        exact ⟨.inr ⟨rest, rfl, hne, hdigits, rfl⟩, by omega, by omega⟩
      · rintro ⟨⟨n, hliteral, -⟩ | ⟨digits, hminus, hne, hdigits, rfl⟩,
          hlow, -⟩
        · exact absurd hliteral not_isLiteral_minus
        · obtain rfl := (List.cons.inj hminus).2
          exact ⟨_, ⟨⟨hne, hdigits, rfl⟩, by omega⟩, rfl⟩
  · next hplain =>
      simp only [Option.map_eq_some_iff, unsigned?_eq_some_iff]
      constructor
      · rintro ⟨n, ⟨hliteral, hrange⟩, rfl⟩
        exact ⟨.inl ⟨n, hliteral, rfl⟩, by omega, by omega⟩
      · rintro ⟨⟨n, hliteral, rfl⟩ | ⟨digits, hminus, -⟩, -, hhigh⟩
        · exact ⟨n, ⟨hliteral, by omega⟩, rfl⟩
        · exact absurd hminus (hplain digits)

end Gateway.Text
