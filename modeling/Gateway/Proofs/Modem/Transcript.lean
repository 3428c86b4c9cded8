import Gateway.Proofs.Modem.Timeline

/-!
# Transcripts

What one request puts to the modem, from the turn in which its caller gets
the bus to the answer (`Transcript`), and what callers make of the answers:
a procedure is led by them from request to request (`Procedure.Led`).

A bus serves requests (`Served`) if every transcript begins with the
binding that the one before it left, goes as the dialogue of its request
goes, and belongs to the request that its caller's procedure makes after
the answers to all that the caller asked before.
-/

namespace Gateway.Modem

variable {α β : Type}

/-! ## Led by answers -/

/-- The answer that a request got from the bus. -/
structure Answered where
  request : Bus.Request
  answer : request.Answer

/-- Where a procedure gets by some answers. It waits as it likes, and some
requests are answered without the bus. -/
inductive Procedure.Led (limit : Nat) :
    Procedure α → List Answered → Procedure α → Prop
  | here (p : Procedure α) : Led limit p [] p
  | pause {time : Nat} {next p : Procedure α} {answers : List Answered}
      (led : Led limit next answers p) :
      Led limit (.pause time next) answers p
  | refused {r : Bus.Request} {next : r.Answer → Procedure α}
      {value : r.Answer} {p : Procedure α} {answers : List Answered}
      (hwork : r.work limit = .answer value)
      (led : Led limit (next value) answers p) :
      Led limit (.request r next) answers p
  | answered {r : Bus.Request} {next : r.Answer → Procedure α}
      {start : Option Endpoint → Dialogue r.Answer} {value : r.Answer}
      {p : Procedure α} {answers : List Answered}
      (hwork : r.work limit = .dialogue start)
      (led : Led limit (next value) answers p) :
      Led limit (.request r next) (⟨r, value⟩ :: answers) p

theorem Procedure.Led.trans {limit : Nat} {p q r : Procedure α}
    {before after : List Answered} (h : Led limit p before q)
    (h' : Led limit q after r) : Led limit p (before ++ after) r := by
  induction h with
  | here p => exact h'
  | pause led ih => exact .pause (ih h')
  | refused hwork led ih => exact .refused hwork (ih h')
  | answered hwork led ih => exact .answered hwork (ih h')

/-- A procedure of one request ends with what it makes of the answer. -/
theorem Procedure.Led.single {limit : Nat} {r : Bus.Request}
    {g : r.Answer → α} {answers : List Answered} {value : α}
    (h : Led limit (.request r fun answer => .done (g answer)) answers
      (.done value)) :
    ∃ answer, value = g answer
      ∧ (r.work limit = .answer answer ∨ ⟨r, answer⟩ ∈ answers) := by
  cases h with
  | refused hwork led =>
      cases led
      exact ⟨_, rfl, .inl hwork⟩
  | answered hwork led =>
      cases led
      exact ⟨_, rfl, .inr (List.mem_cons_self ..)⟩

/-! ## Transcripts of requests -/

/-- What a request put to the modem, latest first, and what it was answered
with; `none` while it goes on, and if its caller gave up. -/
structure Transcript where
  caller : Nat
  request : Bus.Request
  entries : List Entry
  outcome : Option request.Answer

namespace Transcript

/-- The answer to the request. -/
def answered? (t : Transcript) : Option Answered :=
  t.outcome.map fun answer => ⟨t.request, answer⟩

/-- The dialogue of a request went so, from one binding to another: to its
end, or up to a question whose answer the caller has not got. -/
def Went (limit : Nat) (before after : Option Endpoint)
    (t : Transcript) : Prop :=
  ∃ start, t.request.work limit = .dialogue start
    ∧ match t.outcome with
      | some answer => (start before).Talk ⟨[], before, 0⟩
          ⟨t.entries.map Entry.asked, after, 0⟩ (some answer)
      | none => ∃ latest earlier, t.entries = latest :: earlier
          ∧ (start before).Talk ⟨[], before, 0⟩
            ⟨⟨0, latest.question, none⟩ :: earlier.map Entry.asked,
              after, 0⟩ none

end Transcript

/-- The answers that a caller got, in order. -/
def answersTo (caller : Nat) : List Transcript → List Answered
  | [] => []
  | t :: earlier =>
    answersTo caller earlier
      ++ if t.caller = caller then t.answered?.toList else []

theorem answersTo_cons_of_ne {caller : Nat} {t : Transcript}
    (h : t.caller ≠ caller) (earlier : List Transcript) :
    answersTo caller (t :: earlier) = answersTo caller earlier := by
  rw [answersTo, if_neg h, List.append_nil]

theorem answersTo_cons_broken {t : Transcript} (h : t.outcome = none)
    (caller : Nat) (earlier : List Transcript) :
    answersTo caller (t :: earlier) = answersTo caller earlier := by
  simp [answersTo, Transcript.answered?, h]

/-- A caller's answers are those of its transcripts. -/
theorem exists_of_mem_answersTo {caller : Nat} {ts : List Transcript}
    {r : Bus.Request} {answer : r.Answer}
    (h : ⟨r, answer⟩ ∈ answersTo caller ts) :
    ∃ entries, ⟨caller, r, entries, some answer⟩ ∈ ts := by
  induction ts with
  | nil => cases h
  | cons t earlier ih =>
      rw [answersTo] at h
      rcases List.mem_append.mp h with hearlier | hthis
      · obtain ⟨entries, hmem⟩ := ih hearlier
        exact ⟨entries, List.mem_cons_of_mem t hmem⟩
      split at hthis
      · next hcaller =>
          obtain ⟨c, r', entries, outcome⟩ := t
          cases outcome with
          | none => cases hthis
          | some answer' =>
              obtain rfl : c = caller := hcaller
              cases List.mem_singleton.mp hthis
              exact ⟨entries, List.mem_cons_self ..⟩
      · cases hthis

/-- A caller's procedure has got so far by the answers that it got. -/
def Stands (limit : Nat) (begun : List (Nat × Procedure α))
    (served : List Transcript) (caller : Nat) (q : Procedure α) : Prop :=
  ∃ p, (caller, p) ∈ begun ∧ p.Led limit (answersTo caller served) q

theorem Stands.led {limit : Nat} {begun : List (Nat × Procedure α)}
    {served : List Transcript} {caller : Nat} {p q : Procedure α}
    (h : Stands limit begun served caller p) (hled : p.Led limit [] q) :
    Stands limit begun served caller q := by
  obtain ⟨p₀, hbegun, hled₀⟩ := h
  exact ⟨p₀, hbegun, List.append_nil (answersTo caller served) ▸
    hled₀.trans hled⟩

theorem Stands.begin {limit : Nat} {begun : List (Nat × Procedure α)}
    {served : List Transcript} {caller : Nat} {q : Procedure α}
    (h : Stands limit begun served caller q) (new : Nat × Procedure α) :
    Stands limit (new :: begun) served caller q := by
  obtain ⟨p, hbegun, hled⟩ := h
  exact ⟨p, List.mem_cons_of_mem new hbegun, hled⟩

/-- The next answer leads on from the request. -/
theorem Stands.answered {limit : Nat} {begun : List (Nat × Procedure α)}
    {served : List Transcript} {t : Transcript}
    {next : t.request.Answer → Procedure α}
    {start : Option Endpoint → Dialogue t.request.Answer}
    {answer : t.request.Answer}
    (h : Stands limit begun served t.caller (.request t.request next))
    (hwork : t.request.work limit = .dialogue start)
    (houtcome : t.outcome = some answer) :
    Stands limit begun (t :: served) t.caller (next answer) := by
  obtain ⟨p, hbegun, hled⟩ := h
  have hanswers : answersTo t.caller (t :: served)
      = answersTo t.caller served ++ [⟨t.request, answer⟩] := by
    rw [answersTo, if_pos rfl, Transcript.answered?, houtcome]
    rfl
  rw [Stands, hanswers]
  exact ⟨p, hbegun, hled.trans (.answered hwork (.here _))⟩

/-! ## A bus that serves requests -/

/-- The bus served the requests of these transcripts, latest first, and is
left with a binding. -/
inductive Served (limit : Nat) (begun : List (Nat × Procedure α)) :
    List Transcript → Option Endpoint → Prop
  | nil : Served limit begun [] none
  | cons {earlier : List Transcript} {before after : Option Endpoint}
      {t : Transcript} {next : t.request.Answer → Procedure α}
      (served : Served limit begun earlier before)
      (closed : ∀ s ∈ earlier, s.caller = t.caller → s.outcome ≠ none)
      (own : ∀ e ∈ t.entries, e.caller = t.caller)
      (went : t.Went limit before after)
      (asked : Stands limit begun earlier t.caller
        (.request t.request next)) :
      Served limit begun (t :: earlier) after

namespace Served

variable {limit : Nat} {begun : List (Nat × Procedure α)}
  {ts : List Transcript} {binding : Option Endpoint}

theorem begin (h : Served limit begun ts binding)
    (new : Nat × Procedure α) : Served limit (new :: begun) ts binding := by
  induction h with
  | nil => exact .nil
  | cons served closed own went asked ih =>
      exact .cons ih closed own went (asked.begin new)

/-- Only callers that began have transcripts. -/
theorem caller_mem (h : Served limit begun ts binding) :
    ∀ t ∈ ts, t.caller ∈ begun.map (·.1) := by
  induction h with
  | nil => exact nofun
  | cons served closed own went asked ih =>
      obtain ⟨p, hbegun, -⟩ := asked
      exact List.forall_mem_cons.mpr ⟨List.mem_map.mpr ⟨_, hbegun, rfl⟩, ih⟩

/-- Nobody has answers before it begins. -/
theorem answersTo_of_not_begun (h : Served limit begun ts binding)
    {caller : Nat} (hnew : caller ∉ begun.map (·.1)) :
    answersTo caller ts = [] := by
  have hmem := h.caller_mem
  clear h
  induction ts with
  | nil => rfl
  | cons t ts ih =>
      obtain ⟨ht, hts⟩ := List.forall_mem_cons.mp hmem
      have hne : t.caller ≠ caller := fun heq => hnew (heq ▸ ht)
      rw [answersTo_cons_of_ne hne, ih hts]

end Served

end Gateway.Modem
