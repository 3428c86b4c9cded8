import Gateway.Modem.LockReport
import Gateway.Proofs.Text.Literal
import Gateway.Proofs.Text.Numeral
import Gateway.Proofs.Text.Split
import Mathlib.Data.List.Forall2

/-!
# The format of lock reports

What is read of an answer is settled by its first lock line: all that stands
between the commas of this line has to be a literal, and then the numbers are
the values of these (`numbers?_eq_some_iff`). An answer may hold other lines
around the lock line, end its lines in either way and pad the line and its
fields with blanks: the numbers are read from every such answer
(`Reports.numbers?`).
-/

namespace Gateway.Modem.LockReport

/-! ## Answers with a lock line -/

/-- Blanks that end no line. -/
def IsPadding (cs : List Char) : Prop :=
  ∀ c ∈ cs, Text.isBlank c = true ∧ c ≠ '\n'

instance (cs : List Char) : Decidable (IsPadding cs) :=
  List.decidableBAll (fun c => Text.isBlank c = true ∧ c ≠ '\n') cs

/-- A text with padding on both sides. -/
def Padded (core cs : List Char) : Prop :=
  ∃ front back, IsPadding front ∧ IsPadding back ∧ cs = front ++ core ++ back

theorem padded_self (core : List Char) : Padded core core :=
  ⟨[], [], by decide, by decide, by simp⟩

/-- Fields that hold some numbers in decimal, padded. -/
abbrev Lists (numbers : List UInt32) (fields : List (List Char)) : Prop :=
  List.Forall₂ (fun n field => Padded (toString n.toNat).toList field)
    numbers fields

/-- The ways in which a line ends. -/
def lineEnds : List (List Char) := [['\n'], ['\r', '\n']]

/-- An answer whose first lock line holds some numbers. -/
inductive Reports (numbers : List UInt32) : List Char → Prop where
  /-- The lock line, and whatever comes after it. -/
  | line {fields : List (List Char)} {line rest : List Char}
      (fields_padded : Lists numbers fields)
      (line_padded : Padded (mark ++ [','].intercalate fields) line)
      (ended : rest = [] ∨ ∃ ending ∈ lineEnds, ending <+: rest) :
      Reports numbers (line ++ rest)
  /-- Another line comes first. -/
  | skip {other ending rest : List Char} (one_line : '\n' ∉ other)
      (unmarked : ¬ mark <+: Text.trim other) (ends : ending ∈ lineEnds)
      (reports : Reports numbers rest) :
      Reports numbers (other ++ ending ++ rest)

/-- Some numbers are those of the first lock line of an answer: between its
commas stand literals of them, and nothing else. -/
def Holds (answer : List Char) (numbers : List UInt32) : Prop :=
  ∃ before line after, Text.lines answer = before ++ line :: after
    ∧ (∀ other ∈ before, ¬ mark <+: Text.trim other)
    ∧ ∃ k body, Text.trim line = (List.replicate (k + 1) mark).flatten ++ body
      ∧ ¬ mark <+: body
      ∧ List.Forall₂ (fun field n => Text.IsLiteral (Text.trim field) n.toNat)
        (Text.fields (· == ',') body) numbers

/-! ## The first lock line -/

theorem line?_eq_some_iff {answer line : List Char} :
    line? answer = some line ↔ mark <+: line
      ∧ ∃ before raw after, Text.lines answer = before ++ raw :: after
        ∧ Text.trim raw = line
        ∧ ∀ other ∈ before, ¬ mark <+: Text.trim other := by
  rw [line?, List.find?_eq_some_iff_append, List.isPrefixOf_iff_prefix]
  refine and_congr_right fun _ => ⟨?_, ?_⟩
  · rintro ⟨before, after, hlines, hbefore⟩
    obtain ⟨before, rest, hall, rfl, hrest⟩ := List.map_eq_append_iff.mp hlines
    obtain ⟨raw, after, rfl, hraw, rfl⟩ := List.map_eq_cons_iff.mp hrest
    refine ⟨before, raw, after, hall, hraw, fun other hother hmark => ?_⟩
    have hunmarked := hbefore _ (List.mem_map_of_mem hother)
    rw [List.isPrefixOf_iff_prefix.mpr hmark] at hunmarked
    cases hunmarked
  · rintro ⟨before, raw, after, hlines, rfl, hbefore⟩
    refine ⟨before.map Text.trim, after.map Text.trim, by simp [hlines], ?_⟩
    intro other hother
    obtain ⟨raw', hmem, rfl⟩ := List.mem_map.mp hother
    rw [Bool.not_eq_true', ← Bool.not_eq_true, List.isPrefixOf_iff_prefix]
    exact hbefore raw' hmem

/-- Of repeated marks none is left. -/
theorem dropRepeated_flatten (k : Nat) {body : List Char}
    (h : ¬ mark <+: body) :
    Text.dropRepeated mark ((List.replicate k mark).flatten ++ body)
      = body := by
  induction k with
  | zero =>
      rw [Text.dropRepeated, dif_neg]
      · rfl
      · rintro ⟨-, hmark⟩
        exact h (List.isPrefixOf_iff_prefix.mp hmark)
  | succ k ih =>
      have hfront : (List.replicate (k + 1) mark).flatten ++ body
          = mark ++ ((List.replicate k mark).flatten ++ body) := by
        rw [List.replicate_succ, List.flatten_cons, List.append_assoc]
      rw [hfront, Text.dropRepeated,
        dif_pos ⟨by decide, List.isPrefixOf_iff_prefix.mpr ⟨_, rfl⟩⟩,
        List.drop_left, ih]

/-- A text is its repeated marks and what is left without them. -/
theorem exists_dropRepeated (cs : List Char) :
    ∃ k, cs = (List.replicate k mark).flatten ++ Text.dropRepeated mark cs
      ∧ ¬ mark <+: Text.dropRepeated mark cs := by
  fun_induction Text.dropRepeated mark cs with
  | case1 cs h ih =>
      obtain ⟨k, hk, hbody⟩ := ih
      obtain ⟨rest, rfl⟩ := List.isPrefixOf_iff_prefix.mp h.2
      rw [List.drop_left] at hk hbody ⊢
      refine ⟨k + 1, ?_, hbody⟩
      rw [List.replicate_succ, List.flatten_cons, List.append_assoc, ← hk]
  | case2 cs h =>
      exact ⟨0, rfl, fun hmark =>
        h ⟨by decide, List.isPrefixOf_iff_prefix.mpr hmark⟩⟩

/-! ## The numbers of the line -/

theorem number?_eq_some_iff {field : List Char} {n : UInt32} :
    number? field = some n ↔ Text.IsLiteral (Text.trim field) n.toNat := by
  have hsize : n.toNat ≤ UInt32.size - 1 :=
    Nat.le_sub_one_of_lt n.toNat_lt_size
  rw [number?, Option.map_eq_some_iff]
  constructor
  · rintro ⟨value, hvalue, rfl⟩
    obtain ⟨hliteral, hbound⟩ := Text.unsigned?_eq_some_iff.mp hvalue
    have hsame : (UInt32.ofNat value).toNat = value :=
      UInt32.toNat_ofNat_of_lt' (Nat.lt_of_le_sub_one (by decide) hbound)
    rwa [hsame]
  · intro hliteral
    exact ⟨n.toNat, Text.unsigned?_eq_some_iff.mpr ⟨hliteral, hsize⟩,
      UInt32.ofNat_toNat⟩

theorem mapM_eq_some_iff {α β : Type} {f : α → Option β} {xs : List α}
    {ys : List β} :
    xs.mapM f = some ys ↔ List.Forall₂ (fun x y => f x = some y) xs ys := by
  induction xs generalizing ys with
  | nil => simp [eq_comm]
  | cons x xs ih =>
      rw [List.mapM_cons, List.forall₂_cons_left_iff]
      simp only [Option.bind_eq_bind, Option.bind_eq_some_iff, ih,
        Option.pure_def, Option.some.injEq]
      constructor
      · rintro ⟨y, hy, ys, hys, rfl⟩
        exact ⟨y, ys, hy, hys, rfl⟩
      · rintro ⟨y, ys, hy, hys, rfl⟩
        exact ⟨y, hy, ys, hys, rfl⟩

/-- What is read of an answer are the numbers of its first lock line. -/
theorem numbers?_eq_some_iff {answer : List Char} {numbers : List UInt32} :
    numbers? answer = some numbers ↔ Holds answer numbers := by
  rw [numbers?, Option.bind_eq_some_iff]
  simp only [line?_eq_some_iff, mapM_eq_some_iff, number?_eq_some_iff]
  constructor
  · rintro ⟨_, ⟨hmark, before, line, after, hlines, rfl, hbefore⟩, hnumbers⟩
    obtain ⟨k, hline, hbody⟩ := exists_dropRepeated (Text.trim line)
    cases k with
    | zero =>
        rw [List.replicate_zero, List.flatten_nil, List.nil_append] at hline
        rw [← hline] at hbody
        exact absurd hmark hbody
    | succ k =>
        exact ⟨before, line, after, hlines, hbefore, k, _, hline, hbody,
          hnumbers⟩
  · rintro ⟨before, line, after, hlines, hbefore, k, body, hline, hbody,
      hnumbers⟩
    refine ⟨_, ⟨?_, before, line, after, hlines, rfl, hbefore⟩, ?_⟩
    · rw [hline, List.replicate_succ, List.flatten_cons, List.append_assoc]
      exact List.prefix_append mark _
    · rwa [hline, dropRepeated_flatten _ hbody]

/-! ## Reading an answer -/

/-- All that stands between commas, as numbers. -/
def numbersOf? (body : List Char) : Option (List UInt32) :=
  (Text.fields (· == ',') body).mapM number?

theorem number?_digits (n : UInt32) :
    number? (toString n.toNat).toList = some n := by
  have htrim : Text.trim (toString n.toNat).toList
      = (toString n.toNat).toList := by
    refine Text.trim_eq_self (fun c hc => ?_) (fun c hc => ?_)
    · exact (Text.digits_plain (List.mem_of_head? hc)).2.2.2
    · exact (Text.digits_plain (List.mem_of_getLast? hc)).2.2.2
  have hbound : n.toNat ≤ UInt32.size - 1 :=
    Nat.le_sub_one_of_lt n.toNat_lt_size
  rw [number?, htrim, Text.unsigned?_digits hbound, Option.map_some,
    UInt32.ofNat_toNat]

theorem number?_append_blanks {back : List Char}
    (h : ∀ c ∈ back, Text.isBlank c = true) (field : List Char) :
    number? (field ++ back) = number? field := by
  rw [number?, Text.trim_append_blanks h]
  rfl

/-- The blanks at the end of a line belong to its last field. -/
theorem numbersOf?_trimEnd (body : List Char) :
    numbersOf? (Text.trimEnd body) = numbersOf? body := by
  obtain ⟨back, hbody, hblank⟩ := Text.exists_trimEnd body
  have hcomma : ∀ c ∈ back, (c == ',') = false := fun c hc =>
    beq_eq_false_iff_ne.mpr fun heq => by
      have hb := hblank c hc
      rw [heq] at hb
      cases hb
  obtain ⟨front, last, hfields, hall⟩ :=
    Text.exists_last_field (p := (· == ',')) (Text.trimEnd body) hcomma
  rw [← hbody] at hall
  rw [numbersOf?, numbersOf?, hfields, hall, List.mapM_append,
    List.mapM_append, List.mapM_cons, List.mapM_cons,
    number?_append_blanks hblank]

theorem number?_padded {n : UInt32} {field : List Char}
    (h : Padded (toString n.toNat).toList field) :
    number? field = some n := by
  obtain ⟨front, back, hfront, hback, rfl⟩ := h
  rw [number?, Text.trim_padded (fun c hc => (hfront c hc).1)
    (fun c hc => (hback c hc).1)]
  exact number?_digits n

/-- What padded decimals hold is blank or a digit, and ends no line. -/
theorem padded_plain {n : UInt32} {field : List Char} {c : Char}
    (h : Padded (toString n.toNat).toList field) (hc : c ∈ field) :
    c ≠ ',' ∧ c ≠ '+' ∧ c ≠ '\n' := by
  obtain ⟨front, back, hfront, hback, rfl⟩ := h
  have hpadding : ∀ {cs : List Char}, IsPadding cs → c ∈ cs →
      c ≠ ',' ∧ c ≠ '+' ∧ c ≠ '\n' := by
    intro cs hcs hmem
    obtain ⟨hblank, hfeed⟩ := hcs c hmem
    refine ⟨?_, ?_, hfeed⟩ <;> rintro rfl <;> cases hblank
  rcases List.mem_append.mp hc with hc | hc
  · rcases List.mem_append.mp hc with hc | hc
    · exact hpadding hfront hc
    · obtain ⟨hcomma, hplus, hfeed, -⟩ := Text.digits_plain hc
      exact ⟨hcomma, hplus, hfeed⟩
  · exact hpadding hback hc

theorem Lists.plain {numbers : List UInt32} {fields : List (List Char)}
    (h : Lists numbers fields) :
    ∀ field ∈ fields, ∀ c ∈ field, c ≠ ',' ∧ c ≠ '+' ∧ c ≠ '\n' := by
  induction h with
  | nil => exact fun field hmem => absurd hmem List.not_mem_nil
  | cons hfield _ ih =>
      exact List.forall_mem_cons.mpr ⟨fun c hc => padded_plain hfield hc, ih⟩

theorem mem_intercalate {c sep : Char} {fields : List (List Char)}
    (h : c ∈ [sep].intercalate fields) :
    c = sep ∨ ∃ field ∈ fields, c ∈ field := by
  induction fields with
  | nil => cases h
  | cons field fields ih =>
      cases fields with
      | nil =>
          rw [List.intercalate_singleton] at h
          exact .inr ⟨field, List.mem_cons_self, h⟩
      | cons next fields =>
          rw [List.intercalate_cons_cons, List.append_assoc,
            List.mem_append, List.mem_append, List.mem_singleton] at h
          rcases h with hc | hc | hc
          · exact .inr ⟨field, List.mem_cons_self, hc⟩
          · exact .inl hc
          · refine (ih hc).imp_right fun ⟨f, hf, hmem⟩ => ?_
            exact ⟨f, List.mem_cons_of_mem _ hf, hmem⟩

theorem Lists.body_plain {numbers : List UInt32} {fields : List (List Char)}
    (h : Lists numbers fields) :
    ∀ c ∈ [','].intercalate fields, c ≠ '+' ∧ c ≠ '\n' := by
  intro c hc
  rcases mem_intercalate hc with rfl | ⟨field, hmem, hc⟩
  · decide
  · exact (h.plain field hmem c hc).2

theorem Lists.numbersOf? {numbers : List UInt32} {fields : List (List Char)}
    (h : Lists numbers fields) (hne : numbers ≠ []) :
    LockReport.numbersOf? ([','].intercalate fields) = some numbers := by
  have hnone : fields ≠ [] := by
    rintro rfl
    cases h
    exact hne rfl
  have hcomma : ∀ field ∈ fields, ',' ∉ field := fun field hmem hc =>
    (h.plain field hmem ',' hc).1 rfl
  rw [LockReport.numbersOf?, Text.fields_intercalate hnone hcomma,
    mapM_eq_some_iff]
  exact (h.imp fun _ _ => number?_padded).flip

/-- The mark and what stands behind it, when the line is trimmed. -/
theorem trim_marked {body line : List Char}
    (h : Padded (mark ++ body) line) :
    Text.trim line = mark ++ Text.trimEnd body := by
  obtain ⟨front, back, hfront, hback, rfl⟩ := h
  have hhead : Text.trimStart (mark ++ body) = mark ++ body :=
    List.dropWhile_cons_of_neg (by decide)
  rw [Text.trim_padded (fun c hc => (hfront c hc).1)
    (fun c hc => (hback c hc).1), Text.trim, hhead,
    Text.trimEnd_append (by decide)]

/-- Lines are read one by one. -/
theorem line?_append {line rest ending : List Char} (hone : '\n' ∉ line)
    (hends : ending ∈ lineEnds) :
    line? (line ++ ending ++ rest)
      = if mark.isPrefixOf (Text.trim line) then some (Text.trim line)
        else line? rest := by
  have hfeed : ∀ {l : List Char}, '\n' ∉ l →
      line? (l ++ '\n' :: rest)
        = if mark.isPrefixOf (Text.trim l) then some (Text.trim l)
          else line? rest := by
    intro l hl
    rw [line?, Text.lines_append_feed hl, List.map_cons, Text.trim_closeLine,
      List.find?_cons]
    split <;> simp_all [line?]
  rcases List.mem_pair.mp hends with rfl | rfl
  · rw [List.append_assoc]
    exact hfeed hone
  · have hreturn : '\n' ∉ line ++ ['\r'] := by
      simpa using hone
    have h := hfeed hreturn
    rw [Text.trim_append_blanks (List.forall_mem_singleton.mpr rfl)] at h
    simpa using h

/-- A marked line that comes first is the lock line. -/
theorem line?_of_marked {line rest : List Char} (hone : '\n' ∉ line)
    (hmark : mark <+: Text.trim line)
    (hended : rest = [] ∨ ∃ ending ∈ lineEnds, ending <+: rest) :
    line? (line ++ rest) = some (Text.trim line) := by
  have hfound : mark.isPrefixOf (Text.trim line) = true :=
    List.isPrefixOf_iff_prefix.mpr hmark
  rcases hended with rfl | ⟨ending, hends, after, rfl⟩
  · have hne : line ≠ [] := by
      rintro rfl
      exact absurd (List.prefix_nil.mp hmark) (by decide)
    rw [List.append_nil, line?, Text.lines_of_no_feed hone hne,
      List.map_singleton, List.find?_cons_of_pos hfound]
  · rw [← List.append_assoc, line?_append hone hends, if_pos hfound]

/-- The numbers of a report are read from every answer that holds it. -/
theorem Reports.numbers? {numbers : List UInt32} {answer : List Char}
    (h : Reports numbers answer) (hne : numbers ≠ []) :
    LockReport.numbers? answer = some numbers := by
  induction h with
  | skip hone hunmarked hends _ ih =>
      rw [LockReport.numbers?, line?_append hone hends, if_neg]
      · exact ih
      · rwa [List.isPrefixOf_iff_prefix]
  | @line fields line rest hfields hline hended =>
      have hplain := Lists.body_plain hfields
      have htrim := trim_marked hline
      have hone : '\n' ∉ line := by
        obtain ⟨front, back, hfront, hback, rfl⟩ := hline
        simp only [List.mem_append, not_or]
        exact ⟨⟨fun hc => (hfront _ hc).2 rfl,
          ⟨by decide, fun hc => (hplain _ hc).2 rfl⟩⟩,
          fun hc => (hback _ hc).2 rfl⟩
      have hunmarked : ¬ mark <+: Text.trimEnd ([','].intercalate fields) := by
        intro hmark
        obtain ⟨back, hbody, -⟩ := Text.exists_trimEnd ([','].intercalate fields)
        have hplus : '+' ∈ [','].intercalate fields := by
          rw [hbody]
          exact List.mem_append_left _ (hmark.subset (by decide))
        exact (hplain _ hplus).1 rfl
      have hdropped := dropRepeated_flatten 1 hunmarked
      rw [List.replicate_one, List.flatten_singleton] at hdropped
      rw [LockReport.numbers?, line?_of_marked hone
        (htrim ▸ List.prefix_append mark _) hended, htrim, Option.bind_some,
        hdropped]
      exact (numbersOf?_trimEnd _).trans (Lists.numbersOf? hfields hne)

/-! ## The two reports -/

theorem lte?_eq_some_iff {answer : String} {p : LockPair} :
    lte? answer = some p ↔ ∃ numbers, numbers? answer.toList = some numbers
      ∧ 4 ≤ numbers.length ∧ numbers[1]? = some p.tdd
      ∧ numbers[3]? = some p.fdd := by
  obtain ⟨tdd, fdd⟩ := p
  unfold lte?
  split
  · next a b c d rest heq => simp [heq]
  · next hfew =>
      simp only [reduceCtorEq, false_iff]
      rintro ⟨numbers, hnumbers, hlength, -, -⟩
      match numbers, hlength with
      | a :: b :: c :: d :: rest, _ => exact hfew a b c d rest hnumbers

theorem nr?_eq_some_iff {answer : String} {p : LockPair} :
    nr? answer = some p ↔ ∃ numbers, numbers? answer.toList = some numbers
      ∧ 3 ≤ numbers.length ∧ numbers[2]? = some p.tdd
      ∧ numbers[0]? = some p.fdd := by
  obtain ⟨tdd, fdd⟩ := p
  unfold nr?
  split
  · next a b c rest heq =>
      simp [heq, and_comm]
  · next hfew =>
      simp only [reduceCtorEq, false_iff]
      rintro ⟨numbers, hnumbers, hlength, -, -⟩
      match numbers, hlength with
      | a :: b :: c :: rest, _ => exact hfew a b c rest hnumbers

/-- Lock reports are read in just their format. Whatever lines come before
and after it, a lock line gives back the masks that were put into it; and
what is read of any answer are the numbers of its first lock line, if all
that stands between its commas are literals and there are enough of them. -/
theorem format_exact (answer : String) :
    (∀ tdd fdd, Reports [0, tdd, 0, fdd, 0] answer.toList →
        lte? answer = some ⟨tdd, fdd⟩)
      ∧ (∀ tdd fdd, Reports [fdd, 0, tdd, 0] answer.toList →
        nr? answer = some ⟨tdd, fdd⟩)
      ∧ (∀ p, lte? answer = some p ↔ ∃ numbers, Holds answer.toList numbers
        ∧ 4 ≤ numbers.length ∧ numbers[1]? = some p.tdd
        ∧ numbers[3]? = some p.fdd)
      ∧ ∀ p, nr? answer = some p ↔ ∃ numbers, Holds answer.toList numbers
        ∧ 3 ≤ numbers.length ∧ numbers[2]? = some p.tdd
        ∧ numbers[0]? = some p.fdd := by
  refine ⟨fun tdd fdd h => ?_, fun tdd fdd h => ?_, fun p => ?_, fun p => ?_⟩
  · rw [lte?, h.numbers? (by simp)]
  · rw [nr?, h.numbers? (by simp)]
  · simp only [lte?_eq_some_iff, numbers?_eq_some_iff]
  · simp only [nr?_eq_some_iff, numbers?_eq_some_iff]

/-- An answer with lines around the lock line, and blanks around its fields;
the other parser takes its own fields of the same line. -/
theorem format_exact_padded :
    let answer := "\r\n \t+SPLBAND: 0, 2 ,0,4294967295,0 \r\nOK\r\n"
    Reports [0, 2, 0, 4294967295, 0] answer.toList
      ∧ lte? answer = some ⟨2, 4294967295⟩
      ∧ ∃ numbers, Holds answer.toList numbers ∧ 3 ≤ numbers.length
        ∧ numbers[2]? = some 0 ∧ numbers[0]? = some 0 := by
  intro answer
  have hfields : Lists [0, 2, 0, 4294967295, 0]
      [[' ', '0'], [' ', '2', ' '], ['0'], "4294967295".toList, ['0']] :=
    .cons ⟨[' '], [], by decide, by decide, rfl⟩
      (.cons ⟨[' '], [' '], by decide, by decide, rfl⟩
        (.cons (padded_self _) (.cons (padded_self _)
          (.cons (padded_self _) .nil))))
  have hline : Reports [0, 2, 0, 4294967295, 0]
      (" \t+SPLBAND: 0, 2 ,0,4294967295,0 ".toList ++ "\r\nOK\r\n".toList) :=
    .line hfields ⟨[' ', '\t'], [' '], by decide, by decide, rfl⟩
      (.inr ⟨['\r', '\n'], by decide, by decide⟩)
  have hends : ['\r', '\n'] ∈ lineEnds := by decide
  have hreports : Reports [0, 2, 0, 4294967295, 0] answer.toList := by
    have hskip := Reports.skip List.not_mem_nil (by decide) hends hline
    have hanswer : answer.toList = [] ++ ['\r', '\n']
        ++ (" \t+SPLBAND: 0, 2 ,0,4294967295,0 ".toList
          ++ "\r\nOK\r\n".toList) := by decide
    rwa [hanswer]
  obtain ⟨hlte, -, -, hnr⟩ := format_exact answer
  have hread : nr? answer = some ⟨0, 0⟩ := by decide +kernel
  exact ⟨hreports, hlte 2 4294967295 hreports, (hnr _).mp hread⟩

end Gateway.Modem.LockReport
