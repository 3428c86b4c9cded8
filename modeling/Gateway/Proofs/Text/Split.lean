import Gateway.Text.Blank
import Gateway.Text.Split

/-!
# Fields, lines and blanks taken apart

Cutting text undoes joining it: fields joined by a separator that none of
them holds come apart into the same fields (`fields_intercalate`), and a
text without a line feed is one line (`lines_of_no_feed`), as is what stands
before a line feed (`lines_append_feed`). Trimming takes off the blanks on
both sides (`trim_padded`) and leaves alone what neither begins nor ends with
one (`trim_eq_self`).
-/

namespace Gateway.Text

/-! ## Fields -/

theorem fields_of_no_separator {α : Type} {p : α → Bool} {f : List α}
    (h : ∀ c ∈ f, p c = false) : fields p f = [f] := by
  induction f with
  | nil => rfl
  | cons c f ih =>
      obtain ⟨hc, hf⟩ := List.forall_mem_cons.mp h
      rw [fields, hc, ih hf]
      rfl

theorem fields_ne_nil {α : Type} {p : α → Bool} (xs : List α) :
    fields p xs ≠ [] := by
  cases xs with
  | nil => simp [fields]
  | cons c xs =>
      rw [fields]
      split
      · exact List.cons_ne_nil _ _
      · split <;> exact List.cons_ne_nil _ _

theorem fields_eq_splitOnP {α : Type} (p : α → Bool) (xs : List α) :
    fields p xs = xs.splitOnP p := by
  induction xs with
  | nil => rfl
  | cons c xs ih =>
      rw [fields, List.splitOnP_cons_eq_if_modifyHead, ih]
      split
      · rfl
      · cases hxs : xs.splitOnP p with
        | nil => exact absurd hxs (List.splitOnP_ne_nil p xs)
        | cons f more => rfl

theorem fields_append_cons {α : Type} {p : α → Bool} {s : α}
    (hs : p s = true) (xs rest : List α) :
    fields p (xs ++ s :: rest) = fields p xs ++ fields p rest := by
  induction xs with
  | nil => simp [fields, hs]
  | cons c xs ih =>
      simp only [List.cons_append, fields]
      split
      · rw [ih, List.cons_append]
      · rw [ih]
        cases hxs : fields p xs with
        | nil => exact absurd hxs (fields_ne_nil xs)
        | cons f more => rfl

theorem fields_append_separator {α : Type} {p : α → Bool} {f : List α}
    (h : ∀ c ∈ f, p c = false) {s : α} (hs : p s = true) (rest : List α) :
    fields p (f ++ s :: rest) = f :: fields p rest := by
  rw [fields_append_cons hs, fields_of_no_separator h, List.singleton_append]

theorem fields_intercalate {sep : Char} {parts : List (List Char)}
    (hne : parts ≠ []) (h : ∀ f ∈ parts, sep ∉ f) :
    fields (· == sep) ([sep].intercalate parts) = parts := by
  have hfree : ∀ {f : List Char}, sep ∉ f → ∀ c ∈ f, (c == sep) = false := by
    intro f hf c hc
    exact beq_eq_false_iff_ne.mpr fun heq => hf (heq ▸ hc)
  induction parts with
  | nil => exact absurd rfl hne
  | cons f parts ih =>
      obtain ⟨hf, hparts⟩ := List.forall_mem_cons.mp h
      cases parts with
      | nil =>
          rw [List.intercalate_singleton]
          exact fields_of_no_separator (hfree hf)
      | cons g parts =>
          rw [List.intercalate_cons_cons, List.append_assoc,
            List.singleton_append,
            fields_append_separator (hfree hf) (beq_self_eq_true sep)]
          rw [ih (by simp) hparts]

/-- What comes behind the last separator belongs to the last field. -/
theorem exists_last_field {α : Type} {p : α → Bool} (xs : List α)
    {ys : List α} (h : ∀ c ∈ ys, p c = false) :
    ∃ front last, fields p xs = front ++ [last]
      ∧ fields p (xs ++ ys) = front ++ [last ++ ys] := by
  induction xs with
  | nil => exact ⟨[], [], rfl, fields_of_no_separator h⟩
  | cons c xs ih =>
      obtain ⟨front, last, hxs, hall⟩ := ih
      rw [List.cons_append, fields, fields, hxs, hall]
      split
      · exact ⟨[] :: front, last, rfl, rfl⟩
      · cases front with
        | nil => exact ⟨[], c :: last, rfl, rfl⟩
        | cons f front => exact ⟨(c :: f) :: front, last, rfl, rfl⟩

/-! ## Parts of a text -/

/-- A text is cut at the first separator. -/
theorem cutAt_eq_some_iff {sep : Char} {cs before after : List Char} :
    cutAt sep cs = some (before, after)
      ↔ cs = before ++ sep :: after ∧ sep ∉ before := by
  induction cs generalizing before with
  | nil => simp [cutAt]
  | cons c cs ih =>
      rw [cutAt]
      split
      · next heq =>
          subst heq
          cases before with
          | nil => simp [eq_comm]
          | cons b before =>
              simp only [Option.some.injEq, Prod.mk.injEq, List.nil_eq,
                reduceCtorEq, false_and, false_iff, List.cons_append,
                List.cons.injEq, List.mem_cons, not_or]
              rintro ⟨⟨rfl, -⟩, hne, -⟩
              exact hne rfl
      · next hne =>
          rw [Option.map_eq_some_iff]
          constructor
          · rintro ⟨⟨front, back⟩, hcut, heq⟩
            obtain ⟨rfl, rfl⟩ := Prod.mk.inj heq
            obtain ⟨rfl, hfront⟩ := ih.mp hcut
            exact ⟨rfl, by simpa [Ne.symm hne] using hfront⟩
          · rintro ⟨heq, hfree⟩
            cases before with
            | nil => exact absurd (List.cons.inj heq).1 hne
            | cons b before =>
                obtain ⟨rfl, rfl⟩ := List.cons.inj heq
                exact ⟨(before, after),
                  ih.mpr ⟨rfl, fun h => hfree (List.mem_cons_of_mem _ h)⟩,
                  rfl⟩

theorem occursIn_iff {α : Type} [BEq α] [LawfulBEq α] {pat xs : List α} :
    occursIn pat xs = true ↔ pat <:+: xs := by
  induction xs with
  | nil => simp [occursIn]
  | cons x xs ih =>
      rw [occursIn, Bool.or_eq_true, ih, List.isPrefixOf_iff_prefix,
        List.infix_cons_iff]

/-! ## Lines -/

theorem linesFrom_of_no_feed {cs : List Char} (h : '\n' ∉ cs)
    (line : List Char) (hne : line ≠ [] ∨ cs ≠ []) :
    linesFrom line cs = [line.reverse ++ cs] := by
  induction cs generalizing line with
  | nil =>
      have hline : line.isEmpty = false := by simpa using hne
      simp [linesFrom, hline]
  | cons c cs ih =>
      have hc : c ≠ '\n' := fun heq => h (heq ▸ List.mem_cons_self)
      have hcs : '\n' ∉ cs := fun hmem => h (List.mem_cons_of_mem c hmem)
      rw [linesFrom, if_neg hc, ih hcs _ (Or.inl (by simp))]
      simp

theorem lines_of_no_feed {cs : List Char} (h : '\n' ∉ cs) (hne : cs ≠ []) :
    lines cs = [cs] :=
  linesFrom_of_no_feed h [] (Or.inr hne)

theorem linesFrom_append_feed {cs : List Char} (h : '\n' ∉ cs)
    (line rest : List Char) :
    linesFrom line (cs ++ '\n' :: rest)
      = closeLine (cs.reverse ++ line) :: lines rest := by
  induction cs generalizing line with
  | nil =>
      rw [List.nil_append, linesFrom, if_pos rfl]
      rfl
  | cons c cs ih =>
      have hc : c ≠ '\n' := fun heq => h (heq ▸ List.mem_cons_self)
      have hcs : '\n' ∉ cs := fun hmem => h (List.mem_cons_of_mem c hmem)
      rw [List.cons_append, linesFrom, if_neg hc, ih hcs]
      simp

/-- A line feed ends the line before it. -/
theorem lines_append_feed {line : List Char} (h : '\n' ∉ line)
    (rest : List Char) :
    lines (line ++ '\n' :: rest) = closeLine line.reverse :: lines rest := by
  rw [lines, linesFrom_append_feed h, List.append_nil]

/-! ## Blanks -/

theorem dropWhile_isBlank_eq_self {cs : List Char}
    (h : ∀ c, cs.head? = some c → isBlank c = false) :
    cs.dropWhile isBlank = cs := by
  cases cs with
  | nil => rfl
  | cons c cs => exact List.dropWhile_cons_of_neg (by simp [h c rfl])

theorem trim_eq_self {cs : List Char}
    (hhead : ∀ c, cs.head? = some c → isBlank c = false)
    (hlast : ∀ c, cs.getLast? = some c → isBlank c = false) :
    trim cs = cs := by
  have hback : ∀ c, cs.reverse.head? = some c → isBlank c = false := by
    simpa using hlast
  rw [trim, trimStart, dropWhile_isBlank_eq_self hhead, trimEnd,
    dropWhile_isBlank_eq_self hback, List.reverse_reverse]

theorem trimEnd_append_blanks {back : List Char}
    (h : ∀ c ∈ back, isBlank c = true) (cs : List Char) :
    trimEnd (cs ++ back) = trimEnd cs := by
  have hback : ∀ c ∈ back.reverse, isBlank c = true := fun c hc =>
    h c (List.mem_reverse.mp hc)
  rw [trimEnd, List.reverse_append, List.dropWhile_append_of_pos hback]
  rfl

/-- The blanks at the end are trimmed off. -/
theorem trim_append_blanks {back : List Char}
    (h : ∀ c ∈ back, isBlank c = true) (cs : List Char) :
    trim (cs ++ back) = trim cs := by
  have hnone : back.dropWhile isBlank = [] := by
    simpa using @List.dropWhile_append_of_pos _ isBlank back [] h
  rw [trim, trim, trimStart, trimStart, List.dropWhile_append]
  split
  · next hall => rw [List.isEmpty_iff.mp hall, hnone]
  · exact trimEnd_append_blanks h _

/-- The blanks on both sides are trimmed off. -/
theorem trim_padded {front back : List Char}
    (hfront : ∀ c ∈ front, isBlank c = true)
    (hback : ∀ c ∈ back, isBlank c = true) (cs : List Char) :
    trim (front ++ cs ++ back) = trim cs := by
  rw [trim_append_blanks hback, trim, trimStart,
    List.dropWhile_append_of_pos hfront]
  rfl

/-- Nothing in front of what is not blank is trimmed off at the end. -/
theorem trimEnd_append {xs : List Char} (h : trimEnd xs = xs)
    (ys : List Char) : trimEnd (xs ++ ys) = xs ++ trimEnd ys := by
  have hstops : xs.reverse.dropWhile isBlank = xs.reverse :=
    List.reverse_eq_iff.mp h
  rw [trimEnd, trimEnd, List.reverse_append, List.dropWhile_append]
  split
  · next hall =>
      rw [List.isEmpty_iff.mp hall, hstops]
      simp
  · simp

/-- Only blanks are trimmed off at the end. -/
theorem exists_trimEnd (cs : List Char) :
    ∃ back, cs = trimEnd cs ++ back ∧ ∀ c ∈ back, isBlank c = true := by
  refine ⟨(cs.reverse.takeWhile isBlank).reverse, ?_, fun c hc => ?_⟩
  · rw [trimEnd, ← List.reverse_append, List.takeWhile_append_dropWhile,
      List.reverse_reverse]
  · exact List.all_eq_true.mp List.all_takeWhile c (List.mem_reverse.mp hc)

/-- A carriage return before the line feed is no more than a blank. -/
theorem trim_closeLine (line : List Char) :
    trim (closeLine line.reverse) = trim line := by
  unfold closeLine
  split
  · next rest hreversed =>
      have hline : line = rest.reverse ++ ['\r'] := by
        rw [← List.reverse_reverse line, hreversed, List.reverse_cons]
      rw [hline, trim_append_blanks (List.forall_mem_singleton.mpr rfl)]
  · rw [List.reverse_reverse]

end Gateway.Text
