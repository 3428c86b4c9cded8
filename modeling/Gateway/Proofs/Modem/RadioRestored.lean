import Gateway.Proofs.Modem.Serial
import Mathlib.Data.List.Chain

/-!
# The radio comes back

What is sent while the radio is off, and around it. A procedure goes from
visit to visit at the bus, each with its answer and its times
(`Procedure.Goes`). A bus that answers every request somehow and takes its
time over it (`Service`) makes it go in one way, to its end
(`Procedure.perform`).

A body of commands goes up to the first that fails (`UpToFailure`), and
whatever came of it the radio is switched on again and the data connection
made anew (`Restores`). The first fault in the order of the visits is the
result, and between two visits the modem has time to settle
(`radio_restored`). On a bus that others use as well a caller's answers are
those of its transcripts, so that its commands and its result are the same
there (`restores_of_finished`).
-/

namespace Gateway.Modem

variable {α β : Type}

/-! ## Visits at the bus -/

/-- A request that was made, when, and what came of it. -/
structure Visit where
  request : Bus.Request
  answer : request.Answer
  since : Nat
  till : Nat

def Visit.fault? : Visit → Option CommandFault
  | ⟨.command _, .error fault, _, _⟩ => some fault
  | ⟨.limited _ _, .error fault, _, _⟩ => some fault
  | ⟨.network, .error fault, _, _⟩ => some fault
  | _ => none

/-- Where a procedure stands: the time, and the visits so far, latest
first. -/
structure Stay where
  now : Nat
  visits : List Visit

def Stay.visit (s : Stay) (r : Bus.Request) (answer : r.Answer)
    (till : Nat) : Stay :=
  ⟨till, ⟨r, answer, s.now, till⟩ :: s.visits⟩

/-- The ways in which a procedure can go to its end. A pause may last
longer than was asked for, but not less long. -/
inductive Procedure.Goes : Procedure α → Stay → Stay → α → Prop
  | done (value : α) (s : Stay) : Goes (.done value) s s value
  | pause {time now : Nat} {next : Procedure α} {s s' : Stay} {value : α}
      (later : s.now + time ≤ now) (goes : next.Goes { s with now } s' value) :
      Goes (.pause time next) s s' value
  | request {r : Bus.Request} {next : r.Answer → Procedure α} {s s' : Stay}
      {value : α} (answer : r.Answer) {till : Nat} (later : s.now ≤ till)
      (goes : (next answer).Goes (s.visit r answer till) s' value) :
      Goes (.request r next) s s' value

/-- What a bus makes of requests by the visits before, latest first: an
answer to each, and the time that this takes; and how long pauses come to,
none of them shorter than it was asked for. -/
structure Service where
  answer : List Visit → (r : Bus.Request) → r.Answer
  takes : List Visit → Bus.Request → Nat
  pauses : List Visit → Nat → Nat
  le_pauses : ∀ visits time, time ≤ pauses visits time

namespace Procedure

/-- What a procedure comes to on a bus. -/
def perform (bus : Service) : Procedure α → Stay → Stay × α
  | .done value, s => (s, value)
  | .pause time next, s =>
    next.perform bus { s with now := s.now + bus.pauses s.visits time }
  | .request r next, s =>
    let answer := bus.answer s.visits r
    (next answer).perform bus
      (s.visit r answer (s.now + bus.takes s.visits r))

theorem goes_perform (bus : Service) (p : Procedure α) (s : Stay) :
    p.Goes s (p.perform bus s).1 (p.perform bus s).2 := by
  induction p generalizing s with
  | done value => exact .done value s
  | pause time next ih =>
      exact .pause (Nat.add_le_add_left (bus.le_pauses _ _) _) (ih _)
  | request r next ih => exact .request _ (Nat.le_add_right _ _) (ih _ _)

variable {s s' : Stay}

theorem Goes.of_bind {p : Procedure α} {f : α → Procedure β} {value : β}
    (h : (p.bind f).Goes s s' value) :
    ∃ mid a, p.Goes s mid a ∧ (f a).Goes mid s' value := by
  induction p generalizing s with
  | done a => exact ⟨s, a, .done a s, h⟩
  | pause time next ih =>
      cases h with
      | pause later goes =>
          obtain ⟨mid, a, hnext, hrest⟩ := ih goes
          exact ⟨mid, a, .pause later hnext, hrest⟩
  | request r next ih =>
      cases h with
      | request answer later goes =>
          obtain ⟨mid, a, hnext, hrest⟩ := ih answer goes
          exact ⟨mid, a, .request answer later hnext, hrest⟩

end Procedure

/-! ## Time to settle -/

/-- Between two visits, latest first, the modem had 300 ms to settle. -/
def Spaced (visits : List Visit) : Prop :=
  visits.IsChain fun later earlier => earlier.till + 300 ≤ later.since

structure Stay.Settled (s : Stay) : Prop where
  spaced : Spaced s.visits
  rested : ∀ v ∈ s.visits.head?, v.till + 300 ≤ s.now

namespace Procedure

variable {s s' : Stay} {text : String} {answer : Except CommandFault String}

theorem Goes.of_execute (h : (execute text).Goes s s' answer)
    (hs : s.Settled) :
    ∃ till, s'.visits = ⟨.command text, answer, s.now, till⟩ :: s.visits
      ∧ Spaced s'.visits := by
  cases h with
  | @request _ _ _ _ _ answer till later goes =>
      cases goes
      refine ⟨till, rfl, ?_⟩
      exact List.isChain_cons.mpr ⟨fun v hv => hs.rested v hv, hs.spaced⟩

theorem Goes.of_settled (h : (settled text).Goes s s' answer)
    (hs : s.Settled) :
    ∃ till, s'.visits = ⟨.command text, answer, s.now, till⟩ :: s.visits
      ∧ s'.Settled := by
  cases h with
  | @request _ _ _ _ _ answer till later goes =>
      cases goes with
      | pause hpause goes =>
          cases goes
          refine ⟨till, rfl, ?_, fun v hv => ?_⟩
          · exact List.isChain_cons.mpr
              ⟨fun v hv => hs.rested v hv, hs.spaced⟩
          · obtain rfl := Option.some.inj hv
            exact hpause

end Procedure

/-! ## Faults in order -/

def Visit.Succeeds (text : String) (v : Visit) : Prop :=
  v.request = .command text ∧ v.fault? = none

def Visit.Fails (text : String) (v : Visit) : Prop :=
  v.request = .command text ∧ v.fault? ≠ none

/-- The commands of a body were run in order, up to and with the first that
failed, or all of them if none failed. -/
inductive UpToFailure : List String → List Visit → Prop
  | none : UpToFailure [] []
  | failed {text : String} {rest : List String} {v : Visit}
      (fails : v.Fails text) : UpToFailure (text :: rest) [v]
  | succeeded {text : String} {rest : List String} {v : Visit}
      {visits : List Visit} (succeeds : v.Succeeds text)
      (further : UpToFailure rest visits) :
      UpToFailure (text :: rest) (v :: visits)

/-- The radio was switched off, and the body run and all restored after it,
unless the radio could not be switched off. -/
inductive Restores (body : List String) : List Visit → Prop
  | refused {off : Visit} (fails : off.Fails "AT+SFUN=5") :
      Restores body [off]
  | restored {off on data : Visit} {visits : List Visit}
      (succeeds : off.Succeeds "AT+SFUN=5")
      (tried : UpToFailure body visits)
      (switched : on.request = .command "AT+SFUN=4")
      (reactivated : data.request = .command "AT+CGACT=0,1") :
      Restores body (off :: visits ++ [on, data])

/-- The result that the first fault among some visits makes. -/
def firstFault? (visits : List Visit) : Except CommandFault Unit :=
  match visits.findSome? Visit.fault? with
  | some fault => .error fault
  | none => .ok ()

theorem firstFault?_eq_ok_iff (visits : List Visit) :
    firstFault? visits = .ok () ↔ ∀ v ∈ visits, v.fault? = none := by
  rw [← List.findSome?_eq_none_iff, firstFault?]
  cases visits.findSome? Visit.fault? <;> simp

theorem firstFault?_cons_of_fault {v : Visit} {fault : CommandFault}
    (h : v.fault? = some fault) (visits : List Visit) :
    firstFault? (v :: visits) = .error fault := by
  rw [firstFault?, List.findSome?_cons, h]

theorem firstFault?_cons_of_none {v : Visit} (h : v.fault? = none)
    (visits : List Visit) :
    firstFault? (v :: visits) = firstFault? visits := by
  rw [firstFault?, List.findSome?_cons, h, firstFault?]

/-- The faults of the two commands that restore count after the body's. -/
theorem firstFault?_append (visits : List Visit) {text text' : String}
    (on data : Except CommandFault String) (a b c d : Nat) :
    firstFault?
        (visits ++ [⟨.command text, on, a, b⟩, ⟨.command text', data, c, d⟩])
      = Procedure.firstFault (firstFault? visits) on data := by
  induction visits with
  | nil =>
      cases on with
      | error fault => rfl
      | ok answer => cases data <;> rfl
  | cons v visits ih =>
      rw [List.cons_append]
      cases hv : v.fault? with
      | some fault =>
          rw [firstFault?_cons_of_fault hv, firstFault?_cons_of_fault hv]
          rfl
      | none =>
          rw [firstFault?_cons_of_none hv, firstFault?_cons_of_none hv, ih]

/-! ## All is restored -/

namespace Procedure

variable {s s' : Stay} {result : Except CommandFault Unit}

theorem Goes.of_runAll {body : List String}
    (h : (runAll body).Goes s s' result) (hs : s.Settled) :
    ∃ visits, UpToFailure body visits
      ∧ s'.visits = visits.reverse ++ s.visits
      ∧ s'.Settled ∧ result = firstFault? visits := by
  induction body generalizing s with
  | nil =>
      cases h
      exact ⟨[], .none, rfl, hs, rfl⟩
  | cons text rest ih =>
      obtain ⟨mid, answer, hfirst, hrest⟩ := h.of_bind
      obtain ⟨till, hvisits, hmid⟩ := hfirst.of_settled hs
      cases answer with
      | error fault =>
          cases hrest
          have hfails : Visit.Fails text
              ⟨.command text, .error fault, s.now, till⟩ := ⟨rfl, nofun⟩
          exact ⟨_, .failed hfails, hvisits, hmid, rfl⟩
      | ok answer =>
          obtain ⟨visits, hbody, hall, hsettled, rfl⟩ := ih hrest hmid
          have hsucceeds : Visit.Succeeds text
              ⟨.command text, .ok answer, s.now, till⟩ := ⟨rfl, rfl⟩
          refine ⟨_, .succeeded hsucceeds hbody, ?_, hsettled, ?_⟩
          · rw [hall, hvisits, List.reverse_cons, List.append_assoc]
            rfl
          · exact (firstFault?_cons_of_none hsucceeds.2 visits).symm

theorem Goes.of_withRadioOff {body : List String}
    (h : (withRadioOff body).Goes s s' result) (hs : s.Settled) :
    ∃ visits, Restores body visits
      ∧ s'.visits = visits.reverse ++ s.visits
      ∧ Spaced s'.visits ∧ result = firstFault? visits := by
  obtain ⟨off, answer, hoff, hrest⟩ := h.of_bind
  obtain ⟨offTill, hoffVisits, hoffSettled⟩ := hoff.of_settled hs
  cases answer with
  | error fault =>
      cases hrest
      have hfails : Visit.Fails radioOff
          ⟨.command radioOff, .error fault, s.now, offTill⟩ := ⟨rfl, nofun⟩
      exact ⟨_, .refused hfails, hoffVisits, hoffSettled.spaced, rfl⟩
  | ok answer =>
      obtain ⟨before, outcome, hbody, hrest⟩ := hrest.of_bind
      obtain ⟨tried, htried, hbefore, hbeforeSettled, rfl⟩ :=
        hbody.of_runAll hoffSettled
      obtain ⟨after, on, hon, hrest⟩ := hrest.of_bind
      obtain ⟨onTill, honVisits, honSettled⟩ := hon.of_settled hbeforeSettled
      obtain ⟨last, data, hdata, hrest⟩ := hrest.of_bind
      obtain ⟨dataTill, hdataVisits, hspaced⟩ := hdata.of_execute honSettled
      cases hrest
      have hsucceeds : Visit.Succeeds radioOff
          ⟨.command radioOff, .ok answer, s.now, offTill⟩ := ⟨rfl, rfl⟩
      have hrestores : Restores body
          (⟨.command radioOff, .ok answer, s.now, offTill⟩ :: tried
            ++ [⟨.command radioOn, on, before.now, onTill⟩,
              ⟨.command reactivate, data, after.now, dataTill⟩]) :=
        .restored hsucceeds htried rfl rfl
      refine ⟨_, hrestores, ?_, hspaced, ?_⟩
      · rw [hdataVisits, honVisits, hbefore, hoffVisits]
        simp
      · rw [List.cons_append, firstFault?_cons_of_none hsucceeds.2,
          firstFault?_append]

/-- Whatever the commands come to and whenever, the radio is switched off,
the commands are run up to the first that fails, and the radio and the data
connection are restored after them; only if the radio cannot be switched off
nothing more is tried. The first fault is the result, and the modem has its
time to settle between two commands. -/
theorem radio_restored (bus : Service) (body : List String) (start : Nat) :
    let run := (withRadioOff body).perform bus ⟨start, []⟩
    let visits := run.1.visits.reverse
    Restores body visits
      ∧ run.2 = firstFault? visits
      ∧ (run.2 = .ok () ↔ ∀ v ∈ visits, v.fault? = none)
      ∧ Spaced run.1.visits := by
  intro run visits
  have hstart : Stay.Settled ⟨start, []⟩ := ⟨.nil, nofun⟩
  have hgoes := goes_perform bus (withRadioOff body) ⟨start, []⟩
  obtain ⟨made, hmade, hvisits, hspaced, hresult⟩ :=
    hgoes.of_withRadioOff hstart
  have hall : visits = made := by
    rw [List.append_nil] at hvisits
    exact List.reverse_eq_iff.mpr hvisits
  refine ⟨hall ▸ hmade, hall ▸ hresult, ?_, hspaced⟩
  rw [hall, ← firstFault?_eq_ok_iff]
  exact Eq.congr_left hresult

/-- Of three commands the second is refused, and pauses last a little longer
than they have to. The data connection cannot be made anew either, but that
fault comes later. -/
theorem radio_restored_refused :
    let bus : Service :=
      { answer := fun visits r => match r, visits.length with
          | .command _, 2 => .error (.busy "locked")
          | .command _, 4 => .error .emptyResponse
          | .command _, _ | .limited _ _, _ => .ok "OK"
          | .network, _ => .error .emptyResponse
        takes := fun visits _ => 10 * visits.length
        pauses := fun _ time => time + 1
        le_pauses := fun _ time => Nat.le_succ time }
    let run := (withRadioOff ["AT+A", "AT+B", "AT+C"]).perform bus ⟨7, []⟩
    run.1.visits.reverse.map (·.request)
        = [.command "AT+SFUN=5", .command "AT+A", .command "AT+B",
          .command "AT+SFUN=4", .command "AT+CGACT=0,1"]
      ∧ run.2 = .error (.busy "locked") ∧ Spaced run.1.visits := by
  intro bus run
  obtain ⟨-, hresult, -, hspaced⟩ :=
    radio_restored bus ["AT+A", "AT+B", "AT+C"] 7
  exact ⟨rfl, hresult.trans rfl, hspaced⟩

end Procedure

/-! ## On a bus with others -/

/-- What a visit was answered, if the bus was needed for it. -/
def Visit.served? (limit : Nat) (v : Visit) : Option Answered :=
  match v.request.work limit with
  | .answer _ => none
  | .dialogue _ => some ⟨v.request, v.answer⟩

/-- A procedure that was led to its end has gone so, with those answers at
the bus. -/
theorem Procedure.Led.goes {limit : Nat} {p : Procedure α} {value : α}
    {answers : List Answered} (h : p.Led limit answers (.done value))
    (s : Stay) :
    ∃ (s' : Stay) (visits : List Visit), p.Goes s s' value
      ∧ s'.visits = visits.reverse ++ s.visits
      ∧ visits.filterMap (Visit.served? limit) = answers := by
  generalize hend : Procedure.done value = q at h
  induction h generalizing s with
  | here p =>
      cases hend
      exact ⟨s, [], .done value s, rfl, rfl⟩
  | @pause time next p answers led ih =>
      obtain ⟨s', visits, goes, hvisits, hanswers⟩ :=
        ih { s with now := s.now + time } hend
      exact ⟨s', visits, .pause (Nat.le_refl _) goes, hvisits, hanswers⟩
  | @refused r next answer p answers hwork led ih =>
      obtain ⟨s', visits, goes, hvisits, hanswers⟩ :=
        ih (s.visit r answer s.now) hend
      refine ⟨s', ⟨r, answer, s.now, s.now⟩ :: visits,
        .request answer (Nat.le_refl _) goes, ?_, ?_⟩
      · rw [hvisits, List.reverse_cons, List.append_assoc]
        rfl
      · rw [List.filterMap_cons, Visit.served?, hwork]
        exact hanswers
  | @answered r next start answer p answers hwork led ih =>
      obtain ⟨s', visits, goes, hvisits, hanswers⟩ :=
        ih (s.visit r answer s.now) hend
      refine ⟨s', ⟨r, answer, s.now, s.now⟩ :: visits,
        .request answer (Nat.le_refl _) goes, ?_, ?_⟩
      · rw [hvisits, List.reverse_cons, List.append_assoc]
        rfl
      · rw [List.filterMap_cons, Visit.served?, hwork, hanswers]

theorem Keeps.transcripts {limit : Nat} {t : Timeline α}
    {past : List Transcript} (h : Keeps limit t past) :
    ∃ ts : List Transcript, t.log = ts.flatMap (·.entries)
      ∧ Served limit t.begun ts t.exchange.binding
      ∧ Standing limit t.begun ts t.exchange := by
  cases hholder : t.exchange.holder with
  | none =>
      obtain ⟨hserved, hlog⟩ := h.free hholder
      exact ⟨past, hlog, hserved, h.standing⟩
  | some holder =>
      obtain ⟨s, hwaits, hlog⟩ := h.held holder hholder
      obtain ⟨hserved, -⟩ := hwaits.broken
      obtain ⟨-, hnone⟩ := hwaits.caller_eq
      exact ⟨s :: past, hlog, hserved, h.standing.cons (.inl hnone)⟩

/-- Among other callers, and whatever they do: a caller that has come to its
end made the visits that restore the radio, and those that needed the bus
are its transcripts. -/
theorem restores_of_finished {limit : Nat} {t : Timeline α}
    (h : t.Reachable limit) {f : Finished α}
    (hf : f ∈ t.exchange.finished) {body : List String}
    {g : Except CommandFault Unit → α}
    (hbegun : (f.caller, (Procedure.withRadioOff body).map g) ∈ t.begun) :
    ∃ (ts : List Transcript) (visits : List Visit),
      t.log = ts.flatMap (·.entries)
        ∧ Served limit t.begun ts t.exchange.binding
        ∧ visits.filterMap (Visit.served? limit) = answersTo f.caller ts
        ∧ Restores body visits ∧ f.value = g (firstFault? visits) := by
  obtain ⟨past, hkeeps⟩ := keeps_of_reachable h
  obtain ⟨ts, hlog, hserved, hstanding⟩ := hkeeps.transcripts
  obtain ⟨p, hp, hled⟩ := hstanding.finished f hf
  obtain rfl := Timeline.begun_unique h hp hbegun
  obtain ⟨s', visits, hgoes, hvisits, hanswers⟩ := hled.goes ⟨0, []⟩
  obtain ⟨last, result, hgoes, hdone⟩ := hgoes.of_bind
  obtain ⟨made, hrestores, hmade, -, hresult⟩ :=
    hgoes.of_withRadioOff ⟨.nil, nofun⟩
  generalize f.value = value at hdone ⊢
  cases hdone
  have hsame : made = visits :=
    List.reverse_inj.mp (List.append_cancel_right (hmade.symm.trans hvisits))
  subst hsame
  exact ⟨ts, made, hlog, hserved, hanswers, hrestores,
    congrArg g hresult⟩

end Gateway.Modem
