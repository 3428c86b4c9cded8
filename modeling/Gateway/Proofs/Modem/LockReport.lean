import Gateway.Proofs.Modem.LockFormat

/-!
# Lock reports read back

What a modem writes into a lock line is what is read of it: numbers in
decimal with commas between them (`listed`) come apart into the same
numbers (`numbers_listed`), and a line of them behind the mark (`written`) is
a report of its own (`reports_written`). So the two kinds of reports give
back the masks that were put into them (`lte?_written`, `nr?_written`), each
from its own places.
-/

namespace Gateway.Modem.LockReport

/-! ## Numbers between commas -/

/-- Numbers in decimal with commas between them. -/
def listed (numbers : List UInt32) : List Char :=
  [','].intercalate (numbers.map fun n => (toString n.toNat).toList)

theorem listed_cons_cons (n m : UInt32) (numbers : List UInt32) :
    listed (n :: m :: numbers)
      = (toString n.toNat).toList ++ ',' :: listed (m :: numbers) := by
  simp only [listed, List.map_cons, List.intercalate_cons_cons,
    List.append_assoc, List.singleton_append]

theorem not_isBlank_of_mem_listed {numbers : List UInt32} {c : Char}
    (h : c ∈ listed numbers) : Text.isBlank c = false := by
  rcases mem_intercalate h with rfl | ⟨field, hmem, hc⟩
  · decide
  · obtain ⟨n, -, rfl⟩ := List.mem_map.mp hmem
    exact (Text.digits_plain hc).2.2.2

theorem listed_ne_nil {numbers : List UInt32} (hne : numbers ≠ []) :
    listed numbers ≠ [] := by
  match numbers with
  | [] => exact absurd rfl hne
  | [n] =>
      rw [listed, List.map_singleton, List.intercalate_singleton]
      simp
  | n :: m :: numbers =>
      rw [listed_cons_cons]
      simp

theorem lists_decimals (numbers : List UInt32) :
    Lists numbers (numbers.map fun n => (toString n.toNat).toList) := by
  induction numbers with
  | nil => exact .nil
  | cons n numbers ih => exact .cons (padded_self _) ih

theorem numbers_listed {numbers : List UInt32} (hne : numbers ≠ []) :
    (Text.fields (· == ',') (listed numbers)).mapM number?
      = some numbers :=
  (lists_decimals numbers).numbersOf? hne

/-! ## The line of a report -/

/-- A lock line with some numbers. -/
def written (numbers : List UInt32) : String :=
  String.ofList (mark ++ ' ' :: listed numbers)

theorem toList_written (numbers : List UInt32) :
    (written numbers).toList = mark ++ ' ' :: listed numbers :=
  String.toList_ofList

/-- A lock line is trimmed as it stands. -/
theorem trim_written {numbers : List UInt32} (hne : numbers ≠ []) :
    Text.trim (written numbers).toList = (written numbers).toList := by
  rcases List.eq_nil_or_concat (listed numbers) with hnil | ⟨front, last, hl⟩
  · exact absurd hnil (listed_ne_nil hne)
  rw [List.concat_eq_append] at hl
  have hlast : last ∈ listed numbers := by simp [hl]
  rw [toList_written]
  refine Text.trim_eq_self (fun c hc => ?_) (fun c hc => ?_)
  · obtain rfl : '+' = c := Option.some.inj hc
    decide
  · rw [hl, ← List.cons_append, ← List.append_assoc,
      List.getLast?_concat] at hc
    obtain rfl := Option.some.inj hc
    exact not_isBlank_of_mem_listed hlast

/-- The blank behind the mark belongs to the first field. -/
theorem reports_written {numbers : List UInt32} (hne : numbers ≠ []) :
    Reports numbers (written numbers).toList := by
  match numbers with
  | [] => exact absurd rfl hne
  | n :: numbers =>
      have hfields : Lists (n :: numbers) ((' ' :: (toString n.toNat).toList)
          :: numbers.map fun n => (toString n.toNat).toList) :=
        .cons ⟨[' '], [], by decide, by decide, by simp⟩
          (lists_decimals numbers)
      have hbody : [','].intercalate ((' ' :: (toString n.toNat).toList)
          :: numbers.map fun n => (toString n.toNat).toList)
          = ' ' :: listed (n :: numbers) := by
        cases numbers <;> simp [listed, List.intercalate_cons_cons]
      have hline := Reports.line hfields (padded_self _) (.inl rfl)
      rwa [hbody, List.append_nil, ← toList_written] at hline

/-- The numbers of a lock line are those that were written into it. -/
theorem numbers?_written {numbers : List UInt32} (hne : numbers ≠ []) :
    numbers? (written numbers).toList = some numbers :=
  (reports_written hne).numbers? hne

theorem lte?_written (p : LockPair) :
    lte? (written [0, p.tdd, 0, p.fdd, 0]) = some p := by
  rw [lte?, numbers?_written (by simp)]

theorem nr?_written (p : LockPair) :
    nr? (written [p.fdd, 0, p.tdd, 0]) = some p := by
  rw [nr?, numbers?_written (by simp)]

end Gateway.Modem.LockReport
