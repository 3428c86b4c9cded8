import Gateway.Proofs.Modem.Conduct
import Gateway.Proofs.Text.Blank

/-!
# How a command recovers

What becomes of one command, whatever it is put to. A modem is a free
choice of answers, each by all that was asked before it (`Answers`); on such
a modem every dialogue comes to its end (`Dialogue.heldWith`), and goes as
one of its talks (`talk_heldWith`).

A command has one try more than it needs. What it does with it hangs on
the reply to the first one (`Recovery`): a closed connection is made anew
and the modem looked for again, a busy modem is given a little time, and
every other reply is the end. The result is told by the last answer alone
(`Decides`). From the courses that are possible (`course_execute`) follows
what a caller is promised (`command_recovers`).
-/

namespace Gateway.Modem

/-! ## Texts that are commands -/

namespace AtCommand

/-- A text begins with AT, in any case of the two letters. -/
def BeginsWithAt (cs : List Char) : Prop :=
  ∃ a t rest, cs = a :: t :: rest ∧ (a = 'a' ∨ a = 'A')
    ∧ (t = 't' ∨ t = 'T')

theorem toLower_eq_iff {c lower upper : Char}
    (hcase : lower.val.toNat = upper.val.toNat + 32)
    (hupper : 65 ≤ upper.val.toNat ∧ upper.val.toNat ≤ 90) :
    c.toLower = lower ↔ c = lower ∨ c = upper := by
  have hfirst : 'A'.val.toNat = 65 := rfl
  have hlast : 'Z'.val.toNat = 90 := rfl
  have hstep : ('a'.val - 'A'.val).toNat = 32 := rfl
  unfold Char.toLower
  simp only [Char.ext_iff, ← UInt32.toNat_inj, ge_iff_le,
    UInt32.le_iff_toNat_le, hfirst, hlast]
  split
  · simp only [UInt32.toNat_add, hstep]
    omega
  · omega

theorem addressesModem_iff (cs : List Char) :
    addressesModem cs = true ↔ BeginsWithAt cs := by
  have hat : Text.lowered ['A', 'T'] = ['a', 't'] := rfl
  rw [addressesModem, Text.sameLetters, hat, beq_iff_eq, Text.lowered]
  match cs with
  | [] | [_] => simp [BeginsWithAt]
  | a :: t :: rest =>
      have ha : a.toLower = 'a' ↔ a = 'a' ∨ a = 'A' :=
        toLower_eq_iff rfl (by decide)
      have ht : t.toLower = 't' ↔ t = 't' ∨ t = 'T' :=
        toLower_eq_iff rfl (by decide)
      simp [BeginsWithAt, ha, ht, and_assoc]

/-- What a text is without the spaces and tabs in front of it. -/
def Strips (text body : String) : Prop :=
  Text.Sheds (fun c => c = ' ' ∨ c = '\t') text.toList body.toList

theorem strips_iff {text body : String} :
    Strips text body ↔ body = String.ofList (stripped text) := by
  have hkind : ∀ c : Char,
      (c == ' ' || c == '\t') = true ↔ c = ' ' ∨ c = '\t' := by simp
  rw [Strips, Text.sheds_iff hkind, ← stripped, ← String.toList_inj,
    String.toList_ofList, eq_comm]

end AtCommand

variable {α : Type}

/-! ## Modems that answer everything -/

/-- A modem by what it answers to a question, after all that was asked
before, latest first. No answer within the limit is an answer here. -/
abbrev Answers := List Asked → (q : Question) → q.Answer

/-- What a dialogue comes to on a modem. -/
def Dialogue.heldWith (answers : Answers) :
    Dialogue α → Session → Session × α
  | .done value, s => (s, value)
  | .rebind binding next, s => next.heldWith answers (s.bind binding)
  | .ask q next, s =>
    (next (answers s.asked q)).heldWith answers
      (s.hear q (some (answers s.asked q)))

theorem Dialogue.talk_heldWith (answers : Answers) (d : Dialogue α)
    (s : Session) :
    d.Talk s (d.heldWith answers s).1 (some (d.heldWith answers s).2) := by
  induction d generalizing s with
  | done value => exact .done value s
  | rebind binding next ih => exact .rebind (ih _)
  | ask q next ih => exact .ask _ (ih _ _)

/-! ## Reading a call -/

namespace Question

def isReconnect : Question → Bool
  | reconnect => true
  | _ => false

def isPause : Question → Bool
  | pause _ => true
  | _ => false

end Question

/-- The result that a reply means for a command with a limit in
milliseconds. -/
inductive Reply.Means (limit : Nat) :
    Reply String → Except CommandFault String → Prop
  | answered {answer text : String}
      (trims : Text.Trims answer.toList text.toList) (ne : text ≠ "") :
      Means limit (.answered (.ok answer)) (.ok text)
  | empty {answer : String}
      (blank : ∀ c ∈ answer.toList, c.toNat ∈ Text.whiteSpace) :
      Means limit (.answered (.ok answer)) (.error .emptyResponse)
  | lapsed : Means limit .lapsed (.error (.timeout ⟨limit * 1000000⟩))
  | timeout : Means limit (.answered (.error .timeout))
      (.error (.timeout ⟨limit * 1000000⟩))
  | closed (text : String) : Means limit (.answered (.error (.closed text)))
      (.error (.transportClosed text))
  | busy (text : String) : Means limit (.answered (.error (.busy text)))
      (.error (.busy text))
  | other (text : String) : Means limit (.answered (.error (.other text)))
      (.error (.rejected text))

/-- The result that the answer to a last question means. -/
inductive Asked.Decides (limit : Nat) :
    Asked → Except CommandFault String → Prop
  | reply {call n : Nat} {e : Endpoint} {text : String}
      {reply : Reply String} {result : Except CommandFault String}
      (means : reply.Means limit result) :
      Decides limit ⟨call, .send e text n, some reply⟩ result
  | lost (call : Nat) (fault : TransportFault) :
      Decides limit ⟨call, .resolve, some (.error fault)⟩
        (.error (.deviceUnavailable fault.message))
  | broken (call : Nat) (fault : TransportFault) :
      Decides limit ⟨call, .reconnect, some (.error fault)⟩
        (.error (.transportClosed fault.message))

/-- What is not blank is taken as it is, but for the blanks around it. -/
theorem Reply.means_accepted (limit : Nat) (answer : String) :
    Means limit (.answered (.ok answer)) (Bus.accepted answer) := by
  have htrims : Text.Trims answer.toList (Text.trimmed answer).toList := by
    rw [Text.trims_iff, Text.trimmed, String.toList_ofList]
  rw [Bus.accepted]
  split
  · next hempty =>
      rw [hempty] at htrims
      obtain ⟨front, back, hanswer, hblank, -⟩ := htrims
      refine .empty fun c hc => hblank c ?_
      rw [hanswer] at hc
      simpa using hc
  · next hsome => exact .answered htrims hsome

namespace Bus

/-- The connection was closed, or the modem was busy. -/
def Recoverable : Reply String → Prop
  | .answered (.error (.closed _)) | .answered (.error (.busy _)) => True
  | _ => False

/-- What a call asks after its first try, by the reply to it. -/
inductive Recovery (command : AtCommand) (e : Endpoint) :
    Reply String → List Asked → Prop
  | ended {reply : Reply String} (h : ¬ Recoverable reply) :
      Recovery command e reply []
  | broken (text : String) (fault : TransportFault) :
      Recovery command e (.answered (.error (.closed text)))
        [⟨0, .reconnect, some (.error fault)⟩]
  | lost (text : String) (fault : TransportFault) :
      Recovery command e (.answered (.error (.closed text)))
        [⟨0, .reconnect, some (.ok ())⟩, ⟨0, .resolve, some (.error fault)⟩]
  | rebound (text : String) (found : Endpoint) (reply : Reply String) :
      Recovery command e (.answered (.error (.closed text)))
        [⟨0, .reconnect, some (.ok ())⟩, ⟨0, .resolve, some (.ok found)⟩,
          ⟨0, .send found command.text command.limit, some reply⟩]
  | waited (text : String) (reply : Reply String) :
      Recovery command e (.answered (.error (.busy text)))
        [⟨0, .pause 500, some ()⟩,
          ⟨0, .send e command.text command.limit, some reply⟩]

/-- What a call asks before its first try: where the modem is, unless the
bus is bound to one. -/
inductive Opening : Option Endpoint → List Asked → Endpoint → Prop
  | bound (e : Endpoint) : Opening (some e) [] e
  | found (e : Endpoint) : Opening none [⟨0, .resolve, some (.ok e)⟩] e

/-- All that a call asks, from its first question on. -/
inductive Course (command : AtCommand) (binding : Option Endpoint) :
    List Asked → Prop
  | unavailable (h : binding = none) (fault : TransportFault) :
      Course command binding [⟨0, .resolve, some (.error fault)⟩]
  | tried {before after : List Asked} {e : Endpoint} {reply : Reply String}
      (opening : Opening binding before e)
      (recovery : Recovery command e reply after) :
      Course command binding
        (before ++ ⟨0, .send e command.text command.limit, some reply⟩
          :: after)

/-! ## Talks of a command -/

section

variable {past : List Asked} {b : Option Endpoint} {s : Session}
  {command : AtCommand} {e : Endpoint}

theorem talk_withEndpoint {binding : Option Endpoint}
    {next : Endpoint → Dialogue (Except CommandFault α)}
    {result : Except CommandFault α}
    (talk : (withEndpoint binding next).Talk ⟨past, b, 0⟩ s
      (some result)) :
    (binding = none ∧ ∃ fault,
        s.asked = ⟨0, .resolve, some (.error fault)⟩ :: past
          ∧ result = .error (.deviceUnavailable fault.message))
      ∨ ∃ before e b', Opening binding before e
          ∧ (next e).Talk ⟨before ++ past, b', 0⟩ s (some result) := by
  cases binding with
  | some e => exact Or.inr ⟨[], e, b, .bound e, talk⟩
  | none =>
      cases talk with
      | ask answer talk =>
          cases answer with
          | error fault =>
              cases talk
              exact Or.inl ⟨rfl, fault, rfl, rfl⟩
          | ok e =>
              cases talk with
              | rebind talk => exact Or.inr ⟨_, e, _, .found e, talk⟩

theorem attempt_eq (command : AtCommand) (left : Nat)
    (binding : Option Endpoint) :
    attempt command left binding
      = withEndpoint binding fun e => attempt command left (some e) := by
  rw [attempt]
  congr 1
  funext e
  rw [attempt]
  rfl

theorem talk_lastTry {result : Except CommandFault String}
    (talk : (attempt command 0 (some e)).Talk ⟨past, b, 0⟩ s
      (some result)) :
    ∃ reply, s.asked
        = ⟨0, .send e command.text command.limit, some reply⟩ :: past
      ∧ Reply.Means command.limit reply result := by
  rw [attempt] at talk
  cases talk with
  | ask reply talk =>
      refine ⟨reply, ?_⟩
      rcases reply with ((text | text | _ | text) | answer) | _
      case error.closed =>
          cases talk with
          | rebind talk =>
              cases talk
              exact ⟨rfl, .closed text⟩
      case ok =>
          cases talk
          exact ⟨rfl, Reply.means_accepted _ answer⟩
      all_goals
        cases talk
        exact ⟨rfl, by constructor⟩

theorem talk_afterReconnect {text : String}
    {result : Except CommandFault String}
    (talk : (attempt command 0 none).Talk
      ⟨⟨0, .reconnect, some (.ok ())⟩ :: past, b, 0⟩ s (some result)) :
    ∃ after, Recovery command e (.answered (.error (.closed text))) after
      ∧ s.asked = after.reverse ++ past
      ∧ ∃ x ∈ s.asked.head?, x.Decides command.limit result := by
  rw [attempt_eq] at talk
  rcases talk_withEndpoint talk with
    ⟨-, fault, hasked, rfl⟩ | ⟨before, found, b', hopening, talk⟩
  · refine ⟨_, .lost text fault, hasked, ?_⟩
    rw [hasked]
    exact ⟨_, rfl, .lost 0 fault⟩
  · obtain ⟨reply, hasked, hmeans⟩ := talk_lastTry talk
    cases hopening
    refine ⟨_, .rebound text found reply, hasked, ?_⟩
    rw [hasked]
    exact ⟨_, rfl, .reply hmeans⟩

theorem talk_firstTry {result : Except CommandFault String}
    (talk : (attempt command 1 (some e)).Talk ⟨past, b, 0⟩ s
      (some result)) :
    ∃ reply after, Recovery command e reply after
      ∧ s.asked = after.reverse
          ++ ⟨0, .send e command.text command.limit, some reply⟩ :: past
      ∧ ∃ x ∈ s.asked.head?, x.Decides command.limit result := by
  rw [attempt] at talk
  cases talk with
  | ask reply talk =>
      refine ⟨reply, ?_⟩
      rcases reply with ((text | text | _ | text) | answer) | _
      case error.closed =>
          cases talk with
          | rebind talk =>
          cases talk with
          | ask answer talk =>
          cases answer with
          | error fault =>
              cases talk
              exact ⟨_, .broken text fault, rfl, _, rfl, .broken 0 fault⟩
          | ok _ => exact talk_afterReconnect talk
      case error.busy =>
          cases talk with
          | ask answer talk =>
              obtain ⟨again, hasked, hmeans⟩ := talk_lastTry talk
              refine ⟨_, .waited text again, hasked, ?_⟩
              rw [hasked]
              exact ⟨_, rfl, .reply hmeans⟩
      case ok =>
          cases talk
          exact ⟨[], .ended id, rfl, _, rfl,
            .reply (Reply.means_accepted _ answer)⟩
      all_goals
        cases talk
        exact ⟨[], .ended id, rfl, _, rfl, .reply (by constructor)⟩

theorem course_execute {binding : Option Endpoint}
    {result : Except CommandFault String}
    (talk : (execute command binding).Talk ⟨[], b, 0⟩ s (some result)) :
    Course command binding s.asked.reverse
      ∧ ∃ x ∈ s.asked.head?, x.Decides command.limit result := by
  rw [execute, retries, attempt_eq] at talk
  rcases talk_withEndpoint talk with
    ⟨rfl, fault, hasked, rfl⟩ | ⟨before, e, b', hopening, talk⟩
  · rw [hasked]
    exact ⟨.unavailable rfl fault, _, rfl, .lost 0 fault⟩
  · obtain ⟨reply, after, hrecovery, hasked, hdecides⟩ :=
      talk_firstTry talk
    refine ⟨?_, hdecides⟩
    have hcourse := Course.tried hopening hrecovery
    have horder : s.asked.reverse = before.reverse
        ++ ⟨0, .send e command.text command.limit, some reply⟩
          :: after := by
      rw [hasked]
      simp
    rw [horder]
    cases hopening <;> exact hcourse

end

/-! ## What a caller is promised -/

/-- What was asked from the first command text on. -/
def fromFirstTry (told : List Asked) : List Asked :=
  told.dropWhile fun x => !x.question.isSend

/-- The first try was told that the connection is closed, and then both
the reconnect and the search succeeded. -/
def reboundAfterClosed (told : List Asked) : Bool :=
  match fromFirstTry told with
  | ⟨_, .send .., some (.answered (.error (.closed _)))⟩
      :: ⟨_, .reconnect, some (.ok ())⟩
      :: ⟨_, .resolve, some (.ok _)⟩ :: _ => true
  | _ => false

/-- The first try was told that the modem is busy. -/
def busyAtFirst (told : List Asked) : Bool :=
  match fromFirstTry told with
  | ⟨_, .send .., some (.answered (.error (.busy _)))⟩ :: _ => true
  | _ => false

/-- How often a command is tried and what is done in between, by all that
was asked, first to last. -/
structure Sparing (command : AtCommand) (told : List Asked) : Prop where
  texts : ∀ x ∈ told, x.question.isSend = true →
    ∃ e, x.question = .send e command.text command.limit
  tries : told.countP (·.question.isSend) ≤ 2
  repairs : told.countP (·.question.isReconnect)
    + told.countP (·.question.isPause) ≤ 1
  again : told.countP (·.question.isSend) = 2
    ↔ reboundAfterClosed told = true ∨ busyAtFirst told = true

variable {command : AtCommand} {binding : Option Endpoint} {e : Endpoint}
  {reply : Reply String} {before after told : List Asked}

theorem Opening.idle (h : Opening binding before e) :
    ∀ x ∈ before, x.question.isSend = false
      ∧ x.question.isReconnect = false ∧ x.question.isPause = false := by
  cases h with
  | bound => exact List.forall_mem_nil _
  | found => exact List.forall_mem_singleton.mpr ⟨rfl, rfl, rfl⟩

theorem Opening.countP_eq_zero (h : Opening binding before e) :
    before.countP (·.question.isSend) = 0
      ∧ before.countP (·.question.isReconnect) = 0
      ∧ before.countP (·.question.isPause) = 0 := by
  simp only [List.countP_eq_zero]
  refine ⟨fun x hx => ?_, fun x hx => ?_, fun x hx => ?_⟩
  · simp [(h.idle x hx).1]
  · simp [(h.idle x hx).2.1]
  · simp [(h.idle x hx).2.2]

theorem Recovery.sparing (h : Recovery command e reply after) :
    (∀ x ∈ after, x.question.isSend = true →
      ∃ e', x.question = .send e' command.text command.limit)
    ∧ after.countP (·.question.isSend) ≤ 1
    ∧ after.countP (·.question.isReconnect)
      + after.countP (·.question.isPause) ≤ 1 := by
  cases h with
  | ended h => exact ⟨List.forall_mem_nil _, Nat.zero_le 1, Nat.zero_le 1⟩
  | broken text fault =>
      exact ⟨by simp [Question.isSend], Nat.zero_le 1, Nat.le_refl 1⟩
  | lost text fault =>
      exact ⟨by simp [Question.isSend], Nat.zero_le 1, Nat.le_refl 1⟩
  | rebound text found again =>
      exact ⟨by simp [Question.isSend], Nat.le_refl 1, Nat.le_refl 1⟩
  | waited text again =>
      exact ⟨by simp [Question.isSend], Nat.le_refl 1, Nat.le_refl 1⟩

theorem Recovery.again (h : Recovery command e reply after)
    (hfirst : fromFirstTry told
      = ⟨0, .send e command.text command.limit, some reply⟩ :: after) :
    after.countP (·.question.isSend) = 1
      ↔ reboundAfterClosed told = true ∨ busyAtFirst told = true := by
  have hnone : ¬ (false = true ∨ false = true) := by decide
  rw [reboundAfterClosed, busyAtFirst, hfirst]
  cases h with
  | ended h =>
      refine iff_of_false nofun ?_
      match reply with
      | .lapsed | .answered (.ok _) | .answered (.error .timeout)
      | .answered (.error (.other _)) => exact hnone
      | .answered (.error (.closed _)) | .answered (.error (.busy _)) =>
          exact absurd trivial h
  | broken text fault => exact iff_of_false nofun hnone
  | lost text fault => exact iff_of_false nofun hnone
  | rebound text found again => exact iff_of_true rfl (Or.inl rfl)
  | waited text again => exact iff_of_true rfl (Or.inr rfl)

theorem Course.sparing (h : Course command binding told) :
    Sparing command told := by
  cases h with
  | unavailable h fault =>
      have hnone : ¬ (false = true ∨ false = true) := by decide
      refine ⟨by simp [Question.isSend], Nat.zero_le 2, Nat.zero_le 1, ?_⟩
      exact iff_of_false nofun hnone
  | @tried before after e reply opening recovery =>
      obtain ⟨hsends, hreconnects, hpauses⟩ := opening.countP_eq_zero
      obtain ⟨htexts, htries, hrepairs⟩ := recovery.sparing
      have hfirst : fromFirstTry (before
          ++ ⟨0, .send e command.text command.limit, some reply⟩ :: after)
          = ⟨0, .send e command.text command.limit, some reply⟩
            :: after := by
        cases opening <;> rfl
      have hcount : (before
          ++ ⟨0, .send e command.text command.limit, some reply⟩
            :: after).countP (·.question.isSend)
          = after.countP (·.question.isSend) + 1 := by
        rw [List.countP_append, hsends, List.countP_cons_of_pos rfl,
          Nat.zero_add]
      refine ⟨fun x hx hsend => ?_, ?_, ?_, ?_⟩
      · rcases List.mem_append.mp hx with hx | hx
        · rw [(opening.idle x hx).1] at hsend
          cases hsend
        · rcases List.mem_cons.mp hx with rfl | hx
          · exact ⟨e, rfl⟩
          · exact htexts x hx hsend
      · rw [hcount]
        omega
      · rw [List.countP_append, List.countP_append, hreconnects, hpauses,
          Nat.zero_add, Nat.zero_add]
        exact hrepairs
      · rw [hcount, ← recovery.again hfirst]
        omega

/-- Running the command of a text on a bus with a limit. What counts is the
text without the spaces and tabs in front of it. If this does not begin with
AT, it is refused without a question to the modem. If it does, then whatever
the bus is bound to and whatever the modem answers:

- what is asked is one of the courses: the text is sent again just if the
  connection was closed under the first try and both the reconnect and the
  search after it succeed, or if the modem was busy, and then a pause
  later and to the same endpoint;
- it is sent twice at most, each time as it stands, and there is one
  reconnect or one pause at most, never both;
- the answer to the last question decides on the result. -/
theorem command_recovers (limit : Nat) (text : String) :
    ∃ body, AtCommand.Strips text body
      ∧ (¬ AtCommand.BeginsWithAt body.toList
          ∧ (Request.command text).work limit
            = .answer (.error (.invalidCommand body))
        ∨ AtCommand.BeginsWithAt body.toList
          ∧ ∃ start, (Request.command text).work limit = .dialogue start
            ∧ ∀ binding answers, ∃ told s result,
              (start binding).heldWith answers ⟨[], binding, 0⟩ = (s, result)
                ∧ s.asked = told.reverse
                ∧ Course ⟨body, limit⟩ binding told
                ∧ Sparing ⟨body, limit⟩ told
                ∧ ∃ x ∈ told.getLast?, x.Decides limit result) := by
  refine ⟨_, AtCommand.strips_iff.mpr rfl, ?_⟩
  rw [← AtCommand.addressesModem_iff, String.toList_ofList, Request.work,
    commandWork, AtCommand.ofText]
  cases hat : AtCommand.addressesModem (AtCommand.stripped text) with
  | false => exact Or.inl ⟨nofun, rfl⟩
  | true =>
      refine Or.inr ⟨rfl, _, rfl, fun binding answers => ?_⟩
      have talk := Dialogue.talk_heldWith answers
        (execute ⟨String.ofList (AtCommand.stripped text), limit⟩ binding)
        ⟨[], binding, 0⟩
      obtain ⟨hcourse, hdecides⟩ := course_execute talk
      refine ⟨_, _, _, rfl, (List.reverse_reverse _).symm, hcourse,
        hcourse.sparing, ?_⟩
      rw [List.getLast?_reverse]
      exact hdecides

/-- Spaces and tabs in front of a command do not get to the modem, here one
that closes the connection under the first try; without a command behind
them they do not get into the fault either. -/
theorem command_recovers_indented :
    let answers : Answers := fun
      | past, .send .. => if past.length = 1 then
          .answered (.error (.closed "reset"))
        else .answered (.ok "\r\n+CSQ: 20,99 ")
      | _, .resolve => .ok ⟨"/ril_0"⟩
      | _, .reconnect => .ok ()
      | _, .strength .. => (.lapsed, 0)
      | _, .technology .. => .lapsed
      | _, .pause _ => ()
    (Request.command " \tCSQ").work 8000
        = .answer (.error (.invalidCommand "CSQ"))
      ∧ ∃ start s, (Request.command "\t  at+csq").work 8000 = .dialogue start
        ∧ (start none).heldWith answers ⟨[], none, 0⟩ = (s, .ok "+CSQ: 20,99")
        ∧ s.asked.reverse.map (·.question)
          = [.resolve, .send ⟨"/ril_0"⟩ "at+csq" 8000, .reconnect, .resolve,
            .send ⟨"/ril_0"⟩ "at+csq" 8000] := by
  intro answers
  constructor
  · have hstrips : AtCommand.Strips " \tCSQ" "CSQ" :=
      ⟨[' ', '\t'], rfl, by simp, by simp⟩
    obtain ⟨body, hbody, hwork⟩ := command_recovers 8000 " \tCSQ"
    obtain rfl : body = "CSQ" := String.toList_inj.mp (hbody.unique hstrips)
    rcases hwork with ⟨-, hrefused⟩ | ⟨hat, -⟩
    · exact hrefused
    · rw [← AtCommand.addressesModem_iff] at hat
      exact absurd hat (by decide)
  · have hstrips : AtCommand.Strips "\t  at+csq" "at+csq" :=
      ⟨['\t', ' ', ' '], rfl, by simp, by simp⟩
    obtain ⟨body, hbody, hwork⟩ := command_recovers 8000 "\t  at+csq"
    obtain rfl : body = "at+csq" := String.toList_inj.mp (hbody.unique hstrips)
    rcases hwork with ⟨hnot, -⟩ | ⟨-, start, hwork, hall⟩
    · rw [← AtCommand.addressesModem_iff] at hnot
      exact absurd (by decide) hnot
    obtain rfl : execute ⟨"at+csq", 8000⟩ = start := Work.dialogue.inj hwork
    obtain ⟨told, s, result, hheld, htold, -, -, x, hx, hdecides⟩ :=
      hall none answers
    have hasked : s.asked = [
        ⟨0, .send ⟨"/ril_0"⟩ "at+csq" 8000,
          some (.answered (.ok "\r\n+CSQ: 20,99 "))⟩,
        ⟨0, .resolve, some (.ok ⟨"/ril_0"⟩)⟩,
        ⟨0, .reconnect, some (.ok ())⟩,
        ⟨0, .send ⟨"/ril_0"⟩ "at+csq" 8000,
          some (.answered (.error (.closed "reset")))⟩,
        ⟨0, .resolve, some (.ok ⟨"/ril_0"⟩)⟩] := by
      rw [← congrArg (·.1.asked) hheld]
      simp [execute, retries, attempt, withEndpoint, Dialogue.heldWith,
        Session.hear, Session.bind, answers]
    refine ⟨_, s, hwork, ?_, by rw [hasked]; rfl⟩
    rw [← List.head?_reverse, ← htold, hasked] at hx
    obtain rfl := Option.some.inj hx
    have htrims : Text.Trims "\r\n+CSQ: 20,99 ".toList "+CSQ: 20,99".toList :=
      ⟨['\r', '\n'], [' '], rfl, by simp [Text.whiteSpace],
        by simp [Text.whiteSpace], by simp [Text.whiteSpace]⟩
    obtain @⟨_, _, _, _, _, _, hmeans⟩ := hdecides
    cases hmeans with
    | answered trims ne =>
        rw [hheld, String.toList_inj.mp (trims.unique htrims)]
    | empty blank => exact absurd (blank '+' (by decide)) (by decide)

end Bus

end Gateway.Modem
