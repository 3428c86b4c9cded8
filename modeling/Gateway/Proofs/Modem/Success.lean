import Gateway.Proofs.Modem.Transcript

/-!
# Commands that succeed

Which commands succeed, told from the record of what was asked
(`Asked.succeeded?`) and from the answers that callers get
(`Answered.succeeded?`). The two agree: a request sends one text only, and
a transcript that came to its end holds one success if its answer is good
and none otherwise (`Transcript.Went.sending`).
-/

namespace Gateway.Modem

/-- The text that a question sends to the modem. -/
def Question.text? : Question → Option String
  | .send _ text _ => some text
  | _ => none

/-- The text of a command that was sent and succeeded. -/
def Asked.succeeded? : Asked → Option String
  | ⟨_, .send _ text _, some (.answered (.ok answer))⟩ =>
    match Bus.accepted answer with
    | .ok _ => some text
    | .error _ => none
  | _ => none

/-- What succeeded was sent. -/
theorem Asked.text?_of_succeeded {x : Asked} {text : String}
    (h : x.succeeded? = some text) : x.question.text? = some text := by
  unfold succeeded? at h
  split at h
  · split at h
    · exact h
    · cases h
  · cases h

/-- The text that a request sends to the modem. -/
def Bus.Request.text? : Bus.Request → Option String
  | .command text | .limited text _ =>
    match AtCommand.ofText text with
    | .ok c => some c.text
    | .error _ => none
  | .network => none

/-- The text of a command that was answered well. -/
def Answered.succeeded? : Answered → Option String
  | ⟨.command text, .ok _⟩ => (Bus.Request.command text).text?
  | ⟨.limited text limit, .ok _⟩ => (Bus.Request.limited text limit).text?
  | _ => none

variable {α : Type}

/-- Only one text was sent, and these commands succeeded. -/
structure Sending (text? : Option String) (done : List String)
    (asked : List Asked) : Prop where
  sends : ∀ x ∈ asked, ∀ text, x.question.text? = some text →
    text? = some text
  successes : asked.filterMap Asked.succeeded? = done

/-- The end of a call: there was one success if its result is good, and
none otherwise. -/
def SentOnce (text? : Option String)
    (outcome : Option (Except CommandFault α)) (s : Session) : Prop :=
  ∃ done, Sending text? done s.asked ∧ ∀ result, outcome = some result →
    done = match result with
      | .ok _ => text?.toList
      | .error _ => []

namespace Sending

variable {text? : Option String} {s : Session}

theorem hear (h : Sending text? [] s.asked) {q : Question}
    (hq : ∀ text, q.text? = some text → text? = some text)
    {answer : Option q.Answer}
    (hfails : Asked.succeeded? ⟨s.call, q, answer⟩ = none) :
    Sending text? [] (s.hear q answer).asked where
  sends := List.forall_mem_cons.mpr ⟨hq, h.sends⟩
  successes := by
    rw [Session.hear, List.filterMap_cons, hfails]
    exact h.successes

theorem cut (h : Sending text? [] s.asked) :
    SentOnce text? (none : Option (Except CommandFault α)) s :=
  ⟨[], h, nofun⟩

theorem failed (h : Sending text? [] s.asked) (fault : CommandFault) :
    SentOnce text? (some (.error fault : Except CommandFault α)) s :=
  ⟨[], h, fun _ heq => Option.some.inj heq ▸ rfl⟩

end Sending

namespace Bus

/-- Looking for an endpoint sends nothing. -/
theorem ensures_withEndpoint_sent {text? : Option String}
    {next : Endpoint → Dialogue (Except CommandFault α)}
    (binding : Option Endpoint) {s : Session}
    (h : Sending text? [] s.asked)
    (hnext : ∀ e s', Sending text? [] s'.asked →
      (next e).Ensures (fun _ _ => True) (SentOnce text?) s') :
    (withEndpoint binding next).Ensures (fun _ _ => True)
      (SentOnce text?) s := by
  cases binding with
  | some e => exact hnext e s h
  | none =>
      refine ⟨trivial, (h.hear (by nofun) rfl).cut, fun answer => ?_⟩
      cases answer with
      | error fault => exact (h.hear (by nofun) rfl).failed _
      | ok e => exact hnext e _ (h.hear (by nofun) rfl)

/-- One try of a command, and the next one if there is any. -/
theorem ensures_attempt_sent_of {command : AtCommand} {left : Nat}
    (hfewer : ∀ n, left = n + 1 → ∀ binding s,
      Sending (some command.text) [] s.asked →
      (attempt command n binding).Ensures (fun _ _ => True)
        (SentOnce (some command.text)) s)
    (binding : Option Endpoint) {s : Session}
    (h : Sending (some command.text) [] s.asked) :
    (attempt command left binding).Ensures (fun _ _ => True)
      (SentOnce (some command.text)) s := by
  rw [attempt]
  refine ensures_withEndpoint_sent binding h fun e s' h => ?_
  have hsend : ∀ answer : Option (Reply String),
      Asked.succeeded? ⟨s'.call,
        .send e command.text command.limit, answer⟩ = none →
      Sending (some command.text) []
        (s'.hear (.send e command.text command.limit) answer).asked :=
    fun answer hfails =>
      h.hear (q := .send e command.text command.limit)
        (fun _ htext => htext) hfails
  refine ⟨trivial, (hsend none rfl).cut, fun reply => ?_⟩
  match reply with
  | .lapsed | .answered (.error .timeout) | .answered (.error (.other _)) =>
      exact (hsend _ rfl).failed _
  | .answered (.ok answer) =>
      cases haccepted : accepted answer with
      | error fault =>
          have hfails : Asked.succeeded? ⟨s'.call,
              .send e command.text command.limit,
              some (.answered (.ok answer))⟩ = none := by
            rw [Asked.succeeded?, haccepted]
          have hfailed := (hsend _ hfails).failed (α := String) fault
          rw [← haccepted] at hfailed
          exact hfailed
      | ok text =>
          refine ⟨[command.text], ⟨?_, ?_⟩, fun result heq => ?_⟩
          · exact List.forall_mem_cons.mpr
              ⟨fun _ htext => htext, h.sends⟩
          · rw [Session.hear, List.filterMap_cons, Asked.succeeded?,
              haccepted, h.successes]
          · obtain rfl := Option.some.inj heq
            rw [haccepted]
            rfl
  | .answered (.error (.busy text)) =>
      have hbusy := hsend (some (.answered (.error (.busy text)))) rfl
      cases left with
      | zero => exact hbusy.failed _
      | succ left =>
          refine ⟨trivial, (hbusy.hear (by nofun) rfl).cut, fun _ => ?_⟩
          exact hfewer left rfl _ _ (hbusy.hear (by nofun) rfl)
  | .answered (.error (.closed text)) =>
      have hclosed := hsend (some (.answered (.error (.closed text)))) rfl
      cases left with
      | zero => exact hclosed.failed _
      | succ left =>
          have hagain : ∀ answer : Option (Except TransportFault Unit),
              Sending (some command.text) []
                (((s'.hear (.send e command.text command.limit)
                  (some (.answered (.error (.closed text))))).bind
                    none).hear .reconnect answer).asked :=
            fun answer => hclosed.hear (by nofun) rfl
          refine ⟨trivial, (hagain none).cut, fun answer => ?_⟩
          cases answer with
          | error fault => exact (hagain _).failed _
          | ok _ => exact hfewer left rfl _ _ (hagain _)

/-- A command sends its text until it succeeds. -/
theorem ensures_execute_sent (command : AtCommand)
    (binding : Option Endpoint) {s : Session}
    (h : Sending (some command.text) [] s.asked) :
    (execute command binding).Ensures (fun _ _ => True)
      (SentOnce (some command.text)) s := by
  refine ensures_attempt_sent_of (fun n hn binding s h => ?_) binding h
  obtain rfl := Nat.succ.inj hn
  refine ensures_attempt_sent_of (fun n hn => ?_) binding h
  cases hn

/-- A network query sends nothing. -/
theorem ensures_query_sent (limit : Nat) (binding : Option Endpoint)
    {s : Session} (h : Sending none [] s.asked) :
    (query limit binding).Ensures (fun _ _ => True) (SentOnce none) s := by
  rw [query]
  refine ensures_withEndpoint_sent binding h fun e s' h => ?_
  refine ⟨trivial, (h.hear (by nofun) rfl).cut, fun reply => ?_⟩
  match reply with
  | (.lapsed, _) | (.answered (.error _), _) =>
      exact (h.hear (by nofun) rfl).failed _
  | (.answered (.ok strength), spent) =>
      have hread : Sending none [] (s'.hear (.strength e limit)
          (some (.answered (.ok strength), spent))).asked :=
        h.hear (by nofun) rfl
      refine ⟨trivial, (hread.hear (by nofun) rfl).cut, fun reply => ?_⟩
      match reply with
      | .lapsed | .answered (.error _) =>
          exact (hread.hear (by nofun) rfl).failed _
      | .answered (.ok technology) =>
          refine ⟨[], hread.hear (by nofun) rfl, fun result heq => ?_⟩
          obtain rfl := Option.some.inj heq
          rfl

end Bus

/-! ## Transcripts -/

theorem Bus.Request.text?_of_answer {limit : Nat} {r : Bus.Request}
    {value : r.Answer} (h : r.work limit = .answer value) :
    r.text? = none := by
  cases r with
  | command text | limited text l =>
      simp only [work, commandWork] at h
      rw [text?]
      split at h
      · next fault heq => rw [heq]
      · cases h
  | network => cases h

/-- A request sends its text until it succeeds. -/
theorem Bus.Request.ensures_sent {limit : Nat} {r : Bus.Request}
    {start : Option Endpoint → Dialogue r.Answer}
    (hwork : r.work limit = .dialogue start) (before : Option Endpoint) :
    ∃ goal : Option r.Answer → Session → Prop,
      (start before).Ensures (fun _ _ => True) goal ⟨[], before, 0⟩
        ∧ ∀ outcome s, goal outcome s → ∃ done,
          Sending r.text? done s.asked ∧ ∀ answer, outcome = some answer →
            done = (Answered.succeeded? ⟨r, answer⟩).toList := by
  have hempty : ∀ text? : Option String, Sending text? [] [] :=
    fun text? => ⟨nofun, rfl⟩
  cases r with
  | command text | limited text l =>
      simp only [work, commandWork] at hwork
      split at hwork
      · cases hwork
      · next c heq =>
          cases hwork
          refine ⟨_, Bus.ensures_execute_sent _ before (hempty _),
            fun outcome s hgoal => ?_⟩
          obtain ⟨done, hsending, hdone⟩ := hgoal
          rw [text?, heq]
          refine ⟨done, hsending, fun answer houtcome => ?_⟩
          rw [hdone answer houtcome]
          cases answer with
          | ok value =>
              simp only [Answered.succeeded?, text?, heq]
              rfl
          | error fault => rfl
  | network =>
      cases hwork
      refine ⟨_, Bus.ensures_query_sent limit before (hempty none),
        fun outcome s hgoal => ?_⟩
      obtain ⟨done, hsending, hdone⟩ := hgoal
      refine ⟨done, hsending, fun answer houtcome => ?_⟩
      rw [hdone answer houtcome]
      cases answer <;> rfl

namespace Transcript

variable {limit : Nat} {before after : Option Endpoint} {t : Transcript}

theorem Went.sending (h : t.Went limit before after) :
    (∀ e ∈ t.entries, ∀ text, e.question.text? = some text →
      t.request.text? = some text)
    ∧ ∀ answer, t.outcome = some answer →
      t.entries.filterMap (·.asked.succeeded?)
        = (Answered.succeeded? ⟨t.request, answer⟩).toList := by
  obtain ⟨start, hwork, hgoes⟩ := h
  obtain ⟨goal, hensures, hgoal⟩ :=
    Bus.Request.ensures_sent hwork before
  have hsent : ∀ {s' : Session} {outcome : Option t.request.Answer},
      (start before).Talk ⟨[], before, 0⟩ s' outcome →
      ∃ done, Sending t.request.text? done s'.asked
        ∧ ∀ answer, outcome = some answer →
          done = (Answered.succeeded? ⟨t.request, answer⟩).toList := by
    intro s' outcome talk
    have hfollows : (⟨[], before, 0⟩ : Session).Follows
        fun _ _ => True := fun _ _ _ _ => trivial
    exact hgoal outcome s' (talk.ensured hensures hfollows).2
  cases houtcome : t.outcome with
  | some answer =>
      rw [houtcome] at hgoes
      obtain ⟨done, hsending, hdone⟩ := hsent hgoes
      refine ⟨fun e he text htext => ?_, fun answer' heq => ?_⟩
      · exact hsending.sends e.asked (List.mem_map.mpr ⟨e, he, rfl⟩) text
          htext
      · rw [← hdone answer' heq, ← hsending.successes, List.filterMap_map]
        rfl
  | none =>
      rw [houtcome] at hgoes
      obtain ⟨latest, earlier, hentries, talk⟩ := hgoes
      obtain ⟨done, hsending, -⟩ := hsent talk
      refine ⟨fun e he text htext => ?_, nofun⟩
      obtain ⟨hlatest, hearlier⟩ := List.forall_mem_cons.mp hsending.sends
      rw [hentries] at he
      rcases List.mem_cons.mp he with rfl | he
      · exact hlatest text htext
      · exact hearlier e.asked (List.mem_map.mpr ⟨e, he, rfl⟩) text htext

end Transcript

end Gateway.Modem
