import Gateway.Path
import Gateway.Proofs.Text.Split

/-!
# The names of a path

A path is a directory and a last name (`names_append`). A path with a file
name may go on with steps that lead nowhere, and giving the name another
ending drops them, keeps the directory (`exists_directory_of_fileName?`) and
changes the name (`stem_append_ne`).
-/

namespace Gateway.Path

theorem names_ofList (cs : List Char) :
    names (String.ofList cs)
      = ((Text.fields (· == '/') cs).filter fun name =>
          !name.isEmpty).map String.ofList := by
  rw [names, String.toList_ofList]

/-- The names of a directory and then the name in it. -/
theorem names_append {directory name : List Char}
    (hdirectory : directory = [] ∨ directory.getLast? = some '/')
    (hname : '/' ∉ name) (hne : name ≠ []) :
    names (String.ofList (directory ++ name))
      = names (String.ofList directory) ++ [String.ofList name] := by
  have hfield : Text.fields (· == '/') name = [name] :=
    Text.fields_of_no_separator fun c hc =>
      beq_eq_false_iff_ne.mpr fun heq => hname (heq ▸ hc)
  have hkept : [name].filter (fun name => !name.isEmpty) = [name] := by
    simpa using hne
  simp only [names_ofList]
  rcases hdirectory with rfl | hlast
  · rw [List.nil_append, hfield, hkept]
    rfl
  · obtain ⟨above, rfl⟩ := List.getLast?_eq_some_iff.mp hlast
    rw [List.append_assoc, List.singleton_append,
      Text.fields_append_cons (p := (· == '/')) rfl,
      Text.fields_append_cons (p := (· == '/')) rfl, hfield,
      List.filter_append, hkept, List.filter_append]
    simp [Text.fields]

/-- Every text is a directory and what follows its last slash. -/
theorem exists_last_name (cs : List Char) :
    ∃ directory name, cs = directory ++ name
      ∧ (directory = [] ∨ directory.getLast? = some '/') ∧ '/' ∉ name := by
  induction cs with
  | nil => exact ⟨[], [], rfl, .inl rfl, List.not_mem_nil⟩
  | cons c cs ih =>
      obtain ⟨directory, name, rfl, hdirectory, hname⟩ := ih
      rcases hdirectory with rfl | hlast
      · by_cases hc : c = '/'
        · exact ⟨[c], name, rfl, .inr (hc ▸ rfl), hname⟩
        · refine ⟨[], c :: name, rfl, .inl rfl, fun hmem => ?_⟩
          rcases List.mem_cons.mp hmem with heq | hmem
          · exact hc heq.symm
          · exact hname hmem
      · refine ⟨c :: directory, name, rfl, .inr ?_, hname⟩
        rw [List.getLast?_cons, hlast]
        rfl

/-! ## Endings -/

/-- A name that means itself is the last one. -/
theorem fromLastName_append {name : List Char} (hname : '/' ∉ name)
    (hne : name ≠ []) (hdot : name ≠ ['.']) (above : List Char) :
    fromLastName (name.reverse ++ above) = name.reverse ++ above := by
  have hmem : ∀ c ∈ name.reverse, c ≠ '/' := fun c hc heq =>
    hname (heq ▸ List.mem_reverse.mp hc)
  have hdot' : name.reverse ≠ ['.'] := fun heq =>
    hdot (List.reverse_eq_iff.mp heq)
  match hreversed : name.reverse with
  | [] => exact absurd (List.reverse_eq_nil_iff.mp hreversed) hne
  | c :: rest =>
      rw [hreversed] at hmem hdot'
      have hc := hmem c List.mem_cons_self
      rw [List.cons_append]
      unfold fromLastName
      split
      · next heq => exact absurd (List.cons.inj heq).1 hc
      · next heq =>
          obtain ⟨rfl, hrest⟩ := List.cons.inj heq
          cases rest with
          | nil => exact absurd rfl hdot'
          | cons d rest =>
              exact absurd (List.cons.inj hrest).1
                (hmem d (List.mem_cons_of_mem _ List.mem_cons_self))
      · rfl

/-- Seen from its end, a path is its last name up to the first slash. -/
theorem takeWhile_reverse {directory name : List Char}
    (hdirectory : directory = [] ∨ directory.getLast? = some '/')
    (hname : '/' ∉ name) :
    ((directory ++ name).reverse.takeWhile (· ≠ '/')).reverse = name
      ∧ ((directory ++ name).reverse.dropWhile (· ≠ '/')).reverse
        = directory := by
  have hpasses : ∀ c ∈ name.reverse, decide (c ≠ '/') = true :=
    fun c hc => decide_eq_true fun heq =>
      hname (heq ▸ List.mem_reverse.mp hc)
  have hstops : directory.reverse.takeWhile (· ≠ '/') = []
      ∧ directory.reverse.dropWhile (· ≠ '/') = directory.reverse := by
    rcases hdirectory with rfl | hlast
    · exact ⟨rfl, rfl⟩
    · obtain ⟨above, rfl⟩ := List.getLast?_eq_some_iff.mp hlast
      simp
  rw [List.reverse_append, List.takeWhile_append_of_pos hpasses,
    List.dropWhile_append_of_pos hpasses, hstops.1, hstops.2, List.append_nil,
    List.reverse_reverse, List.reverse_reverse]
  exact ⟨rfl, rfl⟩

/-! ## File names -/

/-- What is dropped behind the last name leads nowhere. -/
theorem names_reverse_fromLastName (reversed : List Char) :
    ∃ k, names (String.ofList reversed.reverse)
      = names (String.ofList (fromLastName reversed).reverse)
        ++ List.replicate k "." := by
  fun_induction fromLastName reversed with
  | case1 rest ih =>
      obtain ⟨k, hk⟩ := ih
      refine ⟨k, Eq.trans ?_ hk⟩
      rw [names_ofList, names_ofList, List.reverse_cons,
        Text.fields_append_cons (p := (· == '/')) rfl]
      simp [Text.fields]
  | case2 rest ih =>
      obtain ⟨k, hk⟩ := ih
      refine ⟨k + 1, ?_⟩
      rw [List.replicate_succ', ← List.append_assoc, ← hk, names_ofList,
        names_ofList, List.reverse_cons, List.reverse_cons,
        List.append_assoc, List.singleton_append,
        Text.fields_append_cons (p := (· == '/')) rfl]
      simp [Text.fields]
  | case3 reversed => exact ⟨0, (List.append_nil _).symm⟩

/-- A path with a file name is a directory, that name, and steps that stay
where they are. -/
theorem exists_directory_of_fileName? {path name : String}
    (h : fileName? path = some name) :
    ∃ directory k, (directory = [] ∨ directory.getLast? = some '/')
      ∧ '/' ∉ name.toList ∧ name.toList ≠ [] ∧ name ≠ "." ∧ name ≠ ".."
      ∧ names path = names (String.ofList directory)
        ++ name :: List.replicate k "."
      ∧ ∀ ending, withEnding path ending = String.ofList
        (directory ++ (stem name.toList ++ '.' :: ending.toList)) := by
  obtain ⟨directory, last, hsplit, hdirectory, hslash⟩ :=
    exists_last_name (fromLastName path.toList.reverse).reverse
  obtain ⟨htake, hdrop⟩ := takeWhile_reverse hdirectory hslash
  rw [← hsplit, List.reverse_reverse] at htake hdrop
  unfold fileName? at h
  simp only [htake] at h
  split at h
  · cases h
  next hgood =>
  obtain rfl := Option.some.inj h
  obtain ⟨hne, hdot, hdots⟩ :
      last ≠ [] ∧ last ≠ ['.'] ∧ last ≠ ['.', '.'] := by
    simpa only [not_or] using hgood
  obtain ⟨k, hk⟩ := names_reverse_fromLastName path.toList.reverse
  rw [List.reverse_reverse, String.ofList_toList, hsplit,
    names_append hdirectory hslash hne, List.append_assoc] at hk
  rw [String.toList_ofList]
  refine ⟨directory, k, hdirectory, hslash, hne, ?_, ?_, hk, fun ending => ?_⟩
  · exact fun heq => hdot (String.ofList_injective heq)
  · exact fun heq => hdots (String.ofList_injective heq)
  · unfold withEnding
    simp only [htake, hdrop]
    rw [if_neg hgood, ← String.toList_inj]
    simp

/-- The last step is the file name: what stays where it is, is no step. -/
theorem getLast?_steps {path name : String} (h : fileName? path = some name) :
    (steps path).getLast? = some name := by
  obtain ⟨directory, k, -, -, -, hdot, -, hnames, -⟩ :=
    exists_directory_of_fileName? h
  have hkept : ∀ before : List String,
      (before ++ name :: List.replicate k ".").filter (· ≠ ".")
        = before.filter (· ≠ ".") ++ [name] := by
    intro before
    simp [List.filter_append, hdot]
  unfold steps
  rw [hnames]
  split
  · rw [hkept, ← List.cons_append, List.getLast?_concat]
  · cases names (String.ofList directory) with
    | nil =>
        have hdots : (List.replicate k ".").filter (· ≠ ".") = [] := by simp
        rw [List.nil_append, List.take_succ_cons, List.take_zero,
          List.drop_succ_cons, List.drop_zero, hdots]
        rfl
    | cons first above =>
        rw [List.cons_append, List.take_succ_cons, List.take_zero,
          List.drop_succ_cons, List.drop_zero, hkept, ← List.append_assoc,
          List.getLast?_concat]

/-- Paths with different file names do not take the same steps. -/
theorem same_eq_false {a b x y : String} (ha : fileName? a = some x)
    (hb : fileName? b = some y) (hne : x ≠ y) : same a b = false := by
  rw [same, beq_eq_false_iff_ne]
  intro heq
  have hlast := getLast?_steps ha
  rw [heq, getLast?_steps hb] at hlast
  exact hne (Option.some.inj hlast).symm

/-- The file name of a name in a directory. -/
theorem fileName?_ofList {directory name : List Char}
    (hdirectory : directory = [] ∨ directory.getLast? = some '/')
    (hname : '/' ∉ name) (hne : name ≠ []) (hdot : name ≠ ['.'])
    (hdots : name ≠ ['.', '.']) :
    fileName? (String.ofList (directory ++ name))
      = some (String.ofList name) := by
  obtain ⟨htake, -⟩ := takeWhile_reverse hdirectory hname
  unfold fileName?
  rw [String.toList_ofList, List.reverse_append,
    fromLastName_append hname hne hdot, ← List.reverse_append]
  simp only [htake]
  rw [if_neg (by simp [hne, hdot, hdots])]

theorem mem_of_mem_stem {name : List Char} {c : Char} (h : c ∈ stem name) :
    c ∈ name := by
  unfold stem at h
  split at h
  · exact h
  · have hsuffix := (List.drop_suffix 1 _).trans
      (List.dropWhile_suffix (l := name.reverse) fun c => decide (c ≠ '.'))
    exact List.mem_reverse.mp (hsuffix.subset (List.mem_reverse.mp h))

/-- A name that ends so is changed by giving it that ending. -/
theorem stem_append_ne (name : List Char) :
    stem name ++ ".yml.tmp".toList ≠ name := by
  intro heq
  generalize hx : stem name = x at heq
  subst heq
  have hrest : ((x ++ ".yml.tmp".toList).reverse.dropWhile
      (· ≠ '.')).drop 1 = (x ++ ".yml".toList).reverse := by
    simp [List.dropWhile]
  have hstem : stem (x ++ ".yml.tmp".toList) = x ++ ".yml".toList := by
    unfold stem
    rw [hrest]
    simp
  rw [hstem] at hx
  have hlength := congrArg List.length hx
  rw [List.length_append] at hlength
  simp at hlength

end Gateway.Path
