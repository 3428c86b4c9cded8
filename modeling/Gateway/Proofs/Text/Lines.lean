import Gateway.Proofs.Text.Split

/-!
# The lines of a text

Which lines a text has, said without the order in which it is read: each is
ended by a line feed or by a carriage return and a line feed, only the last
one need not be (`Lined`). Reading finds just these lines (`lined_iff`), so
every text has lines, and no other ones.
-/

namespace Gateway.Text

/-- A text is made of lines and their ends. -/
inductive Lined : List (List Char) → List Char → Prop where
  | empty : Lined [] []
  /-- The last line, if nothing ends it. -/
  | last {line : List Char} (hne : line ≠ []) (hone : '\n' ∉ line) :
      Lined [line] line
  /-- A line that a line feed alone ends. -/
  | feed {line text : List Char} {lines : List (List Char)}
      (hone : '\n' ∉ line) (hplain : line.getLast? ≠ some '\r')
      (rest : Lined lines text) : Lined (line :: lines) (line ++ '\n' :: text)
  /-- A line that a carriage return and a line feed end. -/
  | returnFeed {line text : List Char} {lines : List (List Char)}
      (hone : '\n' ∉ line) (rest : Lined lines text) :
      Lined (line :: lines) (line ++ '\r' :: '\n' :: text)

theorem closeLine_of_plain {line : List Char}
    (h : line.getLast? ≠ some '\r') : closeLine line.reverse = line := by
  unfold closeLine
  split
  · next front hreversed =>
      rw [List.getLast?_eq_head?_reverse, hreversed] at h
      exact absurd rfl h
  · exact List.reverse_reverse line

theorem closeLine_return (line : List Char) :
    closeLine (line ++ ['\r']).reverse = line := by
  rw [List.reverse_append, List.reverse_singleton, List.singleton_append,
    closeLine, List.reverse_reverse]

theorem Lined.lines_eq {lines : List (List Char)} {text : List Char}
    (h : Lined lines text) : Text.lines text = lines := by
  induction h with
  | empty => rfl
  | last hne hone => exact lines_of_no_feed hone hne
  | feed hone hplain _ ih =>
      rw [lines_append_feed hone, closeLine_of_plain hplain, ih]
  | @returnFeed line text lines hone _ ih =>
      have hreturn : '\n' ∉ line ++ ['\r'] := by
        simpa using hone
      have hends : line ++ '\r' :: '\n' :: text
          = (line ++ ['\r']) ++ '\n' :: text := by
        simp
      rw [hends, lines_append_feed hreturn, closeLine_return, ih]

/-- Every text has lines. -/
theorem exists_lined (text : List Char) : ∃ lines, Lined lines text := by
  by_cases hfeed : '\n' ∈ text
  · obtain ⟨line, rest, htext, hone⟩ := List.eq_append_cons_of_mem hfeed
    obtain ⟨lines, hlines⟩ := exists_lined rest
    subst htext
    by_cases hreturn : line.getLast? = some '\r'
    · obtain ⟨front, rfl⟩ := List.getLast?_eq_some_iff.mp hreturn
      have hfront : '\n' ∉ front := fun h =>
        hone (List.mem_append_left _ h)
      have hall := Lined.returnFeed hfront hlines
      exact ⟨_, by simpa using hall⟩
    · exact ⟨_, .feed hone hreturn hlines⟩
  · by_cases hne : text = []
    · exact ⟨[], hne ▸ .empty⟩
    · exact ⟨[text], .last hne hfeed⟩
termination_by text.length
decreasing_by
  subst htext
  simp only [List.length_append, List.length_cons]
  omega

theorem lined_iff {lines : List (List Char)} {text : List Char} :
    Lined lines text ↔ Text.lines text = lines := by
  refine ⟨Lined.lines_eq, ?_⟩
  rintro rfl
  obtain ⟨lines, hlines⟩ := exists_lined text
  rwa [hlines.lines_eq]

end Gateway.Text
