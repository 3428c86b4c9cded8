import Gateway.Proofs.Modem.LockCommands
import Gateway.Proofs.Modem.Serial
import Gateway.Proofs.Modem.Success

/-!
# The radio while locks are set

Every procedure that sets locks keeps to a rule of its own: a lock is sent
only after the procedure switched the radio off, and before it switches it
on again (`Procedure.Guarded`). The rule is checked over the tree of the
procedure and holds wherever answers lead it (`Guarded.led`).

Callers share the radio, though. Whenever a lock is sent, the latest switch
of the caller's own is off; but another caller may have switched the radio
on since then (`locked_after_own_switch`).
-/

namespace Gateway.Modem

variable {α β : Type}

/-! ## Switches and locks -/

/-- What a command makes of the radio: on, off, or as it was. -/
def radioAfter? (text : String) : Option Bool :=
  if text = "AT+SFUN=4" then some true
  else if text = "AT+SFUN=5" then some false
  else none

/-- What became of the radio, if the question was a command that
succeeded. -/
def Entry.switch? (e : Entry) : Option Bool :=
  e.asked.succeeded?.bind radioAfter?

/-- What became of the radio by a command that was answered. -/
def Answered.switch? (a : Answered) : Option Bool :=
  a.succeeded?.bind radioAfter?

/-- The radio after a log: how the latest switch that succeeded left it. -/
def radio? (log : List Entry) : Option Bool := log.findSome? Entry.switch?

/-- What the commands that set locks begin with. -/
def lockMarks : List String :=
  ["AT+SPLBAND=1", "AT+SPLBAND=2", "AT+SPFORCEFRQ="]

/-- The text of a command sets a band lock or a cell lock. -/
def isLock (text : String) : Bool :=
  lockMarks.any fun mark => mark.toList.isPrefixOf text.toList

/-- A lock is no switch. -/
theorem radioAfter?_of_isLock {text : String} (h : isLock text = true) :
    radioAfter? text = none := by
  have hswitches : ∀ switch ∈ ["AT+SFUN=4", "AT+SFUN=5"],
      isLock switch = false := by
    decide
  have hne : ∀ switch ∈ ["AT+SFUN=4", "AT+SFUN=5"], text ≠ switch := by
    rintro switch hswitch rfl
    rw [hswitches text hswitch] at h
    cases h
  rw [radioAfter?, if_neg (hne _ (by simp)), if_neg (hne _ (by simp))]

/-- Whether a caller still has the radio off. -/
def Answered.leaves (off : Bool) (a : Answered) : Bool :=
  match a.switch? with
  | some on => !on
  | none => off

namespace Procedure

/-! ## Procedures that switch the radio off first -/

/-- Locks are sent only while the procedure has the radio off. -/
def Guarded : Bool → Procedure α → Prop
  | _, .done _ => True
  | off, .pause _ next => next.Guarded off
  | off, .request r next =>
    (∀ text, r.text? = some text → isLock text = true → off = true)
      ∧ ∀ answer, (next answer).Guarded (Answered.leaves off ⟨r, answer⟩)

theorem leaves_of_no_text {r : Bus.Request} (h : r.text? = none)
    (off : Bool) (answer : r.Answer) :
    Answered.leaves off ⟨r, answer⟩ = off := by
  have hfails : Answered.succeeded? ⟨r, answer⟩ = none := by
    cases r with
    | command text | limited text limit =>
        cases answer with
        | ok value => exact h
        | error fault => rfl
    | network => cases answer <;> rfl
  rw [Answered.leaves, Answered.switch?, hfails]
  rfl

/-- Wherever answers lead a guarded procedure, it is guarded there. -/
theorem Guarded.led {limit : Nat} {p q : Procedure α}
    {answers : List Answered} (hled : Led limit p answers q) {off : Bool}
    (h : p.Guarded off) : q.Guarded (answers.foldl Answered.leaves off) := by
  induction hled generalizing off with
  | here p => exact h
  | pause led ih => exact ih h
  | @refused r next value p answers hwork led ih =>
      have hnext := h.2 value
      rw [leaves_of_no_text (Bus.Request.text?_of_answer hwork)] at hnext
      exact ih hnext
  | answered hwork led ih => exact ih (h.2 _)

theorem guarded_map {off : Bool} {f : α → β} {p : Procedure α}
    (h : p.Guarded off) : (p.map f).Guarded off := by
  induction p generalizing off with
  | done value => trivial
  | pause time next ih => exact ih h
  | request r next ih => exact ⟨h.1, fun answer => ih answer (h.2 answer)⟩

/-- A command that is no switch. -/
def NoSwitch (text : String) : Prop :=
  ∀ answer : (Bus.Request.command text).Answer,
    Answered.leaves true ⟨.command text, answer⟩ = true

theorem guarded_runAll {body : List String}
    (hbody : ∀ text ∈ body, NoSwitch text)
    {f : Except CommandFault Unit → Procedure α}
    (hf : ∀ outcome, (f outcome).Guarded true) :
    ((runAll body).bind f).Guarded true := by
  induction body with
  | nil => exact hf _
  | cons text body ih =>
      obtain ⟨htext, hrest⟩ := List.forall_mem_cons.mp hbody
      refine ⟨fun _ _ _ => rfl, fun answer => ?_⟩
      rw [htext answer]
      cases answer with
      | error fault => exact hf _
      | ok value => exact ih hrest

/-- Once the radio is off, it stays off until the body is done. -/
theorem guarded_withRadioOff {body : List String}
    (hbody : ∀ text ∈ body, NoSwitch text) :
    (withRadioOff body).Guarded false := by
  have hnoLock : ∀ text ∈ [radioOff, radioOn, reactivate],
      (Bus.Request.command text).text? = some text
        ∧ isLock text = false := by
    decide
  have hallowed : ∀ text ∈ [radioOff, radioOn, reactivate],
      ∀ (off : Bool) (sent : String),
        (Bus.Request.command text).text? = some sent →
        isLock sent = true → off = true := by
    intro text htext off sent hsent hlock
    obtain ⟨hsame, hno⟩ := hnoLock text htext
    obtain rfl := Option.some.inj (hsame.symm.trans hsent)
    rw [hno] at hlock
    cases hlock
  refine ⟨hallowed radioOff (by simp) false, fun answer => ?_⟩
  cases answer with
  | error fault => trivial
  | ok value =>
      refine guarded_runAll hbody fun outcome => ?_
      refine ⟨hallowed radioOn (by simp) true, fun on => ?_⟩
      exact ⟨hallowed reactivate (by simp) _, fun data => trivial⟩

/-! ## The procedures that set locks -/

/-- What the texts of all lock commands begin with. -/
def lockHead : List Char := ['A', 'T', '+', 'S', 'P']

theorem noSwitch_of_head {text : String} {rest : List Char}
    (h : text.toList = lockHead ++ rest) : NoSwitch text := by
  have htext : (Bus.Request.command text).text? = some text := by
    rw [Bus.Request.text?, AtCommand.ofText_of_at h]
  have hswitch : ∀ switch : String, switch.toList.take 5 ≠ lockHead →
      text ≠ switch := by
    rintro switch hne rfl
    rw [h] at hne
    exact hne rfl
  have hon : text ≠ "AT+SFUN=4" := hswitch "AT+SFUN=4" (by decide)
  have hoff : text ≠ "AT+SFUN=5" := hswitch "AT+SFUN=5" (by decide)
  intro answer
  cases answer with
  | error fault => rfl
  | ok value =>
      rw [Answered.leaves, Answered.switch?, Answered.succeeded?, htext,
        Option.bind_some, radioAfter?, if_neg hon, if_neg hoff]

theorem noSwitch_lteLock (tdd fdd : UInt32) :
    NoSwitch (lteLock tdd fdd) :=
  noSwitch_of_head (toList_lteLock tdd fdd)

theorem noSwitch_nrLock (tdd fdd : UInt32) : NoSwitch (nrLock tdd fdd) :=
  noSwitch_of_head (toList_nrLock tdd fdd)

theorem noSwitch_cellUnlock (t : Technology) :
    NoSwitch (cellUnlock t) := by
  have hlte : (cellUnlock .lte).toList
      = lockHead ++ "FORCEFRQ=12,0".toList := by decide
  have hnr : (cellUnlock .nr).toList
      = lockHead ++ "FORCEFRQ=16,0".toList := by decide
  cases t
  · exact noSwitch_of_head hlte
  · exact noSwitch_of_head hnr

theorem noSwitch_cellLock (t : Technology) (frequency : UInt32)
    (cell : UInt16) : NoSwitch (cellLock t frequency cell) := by
  have hhead : "AT+SPFORCEFRQ=".toList = lockHead ++ "FORCEFRQ=".toList := by
    decide
  have htext : ∃ rest, (cellLock t frequency cell).toList
      = lockHead ++ rest := by
    unfold cellLock
    rw [String.toList_append, String.toList_append, String.toList_append,
      String.toList_append, String.toList_append, hhead]
    simp only [List.append_assoc]
    exact ⟨_, rfl⟩
  obtain ⟨rest, htext⟩ := htext
  exact noSwitch_of_head htext

/-- The procedures that set locks, whatever is made of their results. -/
inductive Locking : Procedure α → Prop
  | lockBands (bands : List Band) (f : Except CommandFault Unit → α) :
      Locking ((lockBands bands).map f)
  | unlockBands (f : Except CommandFault Unit → α) :
      Locking (unlockBands.map f)
  | lockCell (t : Technology) (frequency : UInt32) (cell : UInt16)
      (f : Except CommandFault Unit → α) :
      Locking ((lockCell t frequency cell).map f)
  | unlockCell (f : Except CommandFault Unit → α) :
      Locking (unlockCell.map f)

theorem guarded_unlockBands : unlockBands.Guarded false := by
  refine guarded_withRadioOff (List.forall_mem_cons.mpr
    ⟨noSwitch_lteLock 0 0, List.forall_mem_cons.mpr
      ⟨noSwitch_nrLock 0 0, nofun⟩⟩)

theorem Locking.guarded {p : Procedure α} (h : Locking p) :
    p.Guarded false := by
  have hcells : ∀ text ∈ [cellUnlock .lte, cellUnlock .nr],
      NoSwitch text :=
    List.forall_mem_cons.mpr ⟨noSwitch_cellUnlock .lte,
      List.forall_mem_cons.mpr ⟨noSwitch_cellUnlock .nr, nofun⟩⟩
  cases h with
  | lockBands bands f =>
      refine guarded_map ?_
      unfold Procedure.lockBands
      split
      · exact guarded_unlockBands
      · exact guarded_withRadioOff
          (forall_mem_lockCommands noSwitch_lteLock noSwitch_nrLock _)
  | unlockBands f => exact guarded_map guarded_unlockBands
  | lockCell t frequency cell f =>
      refine guarded_map (guarded_withRadioOff ?_)
      intro text htext
      have hmem : text ∈ [cellUnlock .lte, cellUnlock .nr]
          ++ [cellLock t frequency cell] := htext
      rcases List.mem_append.mp hmem with hmem | hmem
      · exact hcells text hmem
      · obtain rfl := List.mem_singleton.mp hmem
        exact noSwitch_cellLock t frequency cell
  | unlockCell f => exact guarded_map (guarded_withRadioOff hcells)

end Procedure

/-! ## The caller's own switches -/

variable {limit : Nat} {begun : List (Nat × Procedure α)}
  {ts : List Transcript} {binding : Option Endpoint}

/-- Every entry of a log is in one of its transcripts. -/
theorem exists_transcript {later earlier : List Entry} {e : Entry}
    (hlog : ts.flatMap (·.entries) = later ++ e :: earlier) :
    ∃ after t before since past, ts = after ++ t :: before
      ∧ t.entries = since ++ e :: past
      ∧ earlier = past ++ before.flatMap (·.entries) := by
  induction ts generalizing later with
  | nil =>
      cases later <;> cases hlog
  | cons t ts ih =>
      rw [List.flatMap_cons] at hlog
      rcases List.append_eq_append_iff.mp hlog with
        ⟨mid, hlater, hrest⟩ | ⟨mid, hentries, hrest⟩
      · obtain ⟨after, t', before, since, past, rfl, hentries, hearlier⟩ :=
          ih hrest
        exact ⟨t :: after, t', before, since, past, rfl, hentries, hearlier⟩
      · cases mid with
        | nil =>
            have hrest' : ts.flatMap (·.entries) = [] ++ e :: earlier :=
              hrest.symm
            obtain ⟨after, t', before, since, past, rfl, hentries',
              hearlier⟩ := ih hrest'
            exact ⟨t :: after, t', before, since, past, rfl, hentries',
              hearlier⟩
        | cons e' mid =>
            obtain ⟨rfl, rfl⟩ := List.cons.inj hrest
            exact ⟨[], t, ts, later, mid, rfl, hentries, rfl⟩

/-- What was served before a transcript was served too. -/
theorem Served.of_append {after before : List Transcript}
    (h : Served limit begun (after ++ before) binding) :
    ∃ binding', Served limit begun before binding' := by
  induction after generalizing binding with
  | nil => exact ⟨binding, h⟩
  | cons t after ih =>
      cases h with
      | cons served => exact ih served

/-- A transcript that came to its end holds the switch that its answer
tells of, and no other. -/
theorem Transcript.Went.switches {t : Transcript}
    {before after : Option Endpoint} (h : t.Went limit before after)
    {answer : t.request.Answer} (houtcome : t.outcome = some answer) :
    t.entries.filterMap Entry.switch?
      = (Answered.switch? ⟨t.request, answer⟩).toList := by
  have hsuccesses := h.sending.2 answer houtcome
  have hbind : t.entries.filterMap Entry.switch?
      = (t.entries.filterMap (·.asked.succeeded?)).filterMap
        radioAfter? := by
    rw [List.filterMap_filterMap]
    rfl
  rw [hbind, hsuccesses, Answered.switch?]
  cases Answered.succeeded? ⟨t.request, answer⟩ with
  | none => rfl
  | some text => cases hswitch : radioAfter? text <;> simp [hswitch]

/-- A caller that has the radio off by the answers it got has switched it
off in the log, and not on again since then. -/
theorem exists_own_switch {c : Nat}
    (served : Served limit begun ts binding)
    (hclosed : ∀ s ∈ ts, s.caller = c → s.outcome ≠ none)
    (hoff : (answersTo c ts).foldl Answered.leaves false = true) :
    ∃ since off before, ts.flatMap (·.entries) = since ++ off :: before
      ∧ off.caller = c ∧ off.switch? = some false
      ∧ ∀ x ∈ since, x.caller = c → x.switch? = none := by
  induction served with
  | nil => cases hoff
  | @cons earlier before after t next served closed own went asked ih =>
      obtain ⟨ht, hearlier⟩ := List.forall_mem_cons.mp hclosed
      -- the own switches of this transcript are none of the caller's
      have hskip : (∀ x ∈ t.entries, x.caller = c → x.switch? = none) →
          (answersTo c earlier).foldl Answered.leaves false = true →
          ∃ since off before,
            (t :: earlier).flatMap (·.entries) = since ++ off :: before
              ∧ off.caller = c ∧ off.switch? = some false
              ∧ ∀ x ∈ since, x.caller = c → x.switch? = none := by
        intro hnone hoff
        obtain ⟨since, off, before, hlog, hcaller, hswitch, hsince⟩ :=
          ih hearlier hoff
        refine ⟨t.entries ++ since, off, before, ?_, hcaller, hswitch,
          fun x hx => ?_⟩
        · rw [List.flatMap_cons, hlog, List.append_assoc]
        · rcases List.mem_append.mp hx with hx | hx
          · exact hnone x hx
          · exact hsince x hx
      by_cases hcaller : t.caller = c
      · obtain ⟨answer, houtcome⟩ := Option.ne_none_iff_exists'.mp
          (ht hcaller)
        have hswitches := went.switches houtcome
        rw [answersTo, if_pos hcaller, Transcript.answered?, houtcome,
          Option.map_some, Option.toList_some, List.foldl_append,
          List.foldl_cons, List.foldl_nil, Answered.leaves] at hoff
        cases hswitch : Answered.switch? ⟨t.request, answer⟩ with
        | none =>
            rw [hswitch] at hoff hswitches
            refine hskip (fun x hx _ => ?_) hoff
            exact List.filterMap_eq_nil_iff.mp hswitches x hx
        | some on =>
            rw [hswitch] at hoff hswitches
            obtain rfl : on = false := by simpa using hoff
            obtain ⟨since, off, past, hentries, hnone, hoff, -⟩ :=
              List.filterMap_eq_cons_iff.mp hswitches
            refine ⟨since, off, past ++ earlier.flatMap (·.entries), ?_,
              ?_, hoff, fun x hx _ => hnone x hx⟩
            · rw [List.flatMap_cons, hentries, List.append_assoc]
              rfl
            · refine (own off ?_).trans hcaller
              rw [hentries]
              exact List.mem_append_right since (List.mem_cons_self ..)
      · rw [answersTo_cons_of_ne hcaller] at hoff
        refine hskip (fun x hx hx' => ?_) hoff
        exact absurd ((own x hx).symm.trans hx') hcaller

/-! ## The radio that callers share -/

theorem radio?_append (later earlier : List Entry) :
    radio? (later ++ earlier) = (radio? later).or (radio? earlier) :=
  List.findSome?_append

/-- Whenever a caller that sets locks sends a lock, it has switched the
radio off before, successfully, and no switch of its own has succeeded
since then. So the latest switch before the lock that succeeded, whoever
sent it, is off just if no other caller has switched the radio on since
then, or it was switched off again. -/
theorem locked_after_own_switch {t : Timeline α} (h : t.Reachable limit)
    {later earlier : List Entry} {e : Entry}
    (hlog : t.log = later ++ e :: earlier)
    (hlock : e.question.text?.any isLock = true) {p : Procedure α}
    (hbegun : (e.caller, p) ∈ t.begun) (hp : p.Locking) :
    ∃ since off before, earlier = since ++ off :: before
      ∧ off.caller = e.caller ∧ off.switch? = some false
      ∧ (∀ x ∈ since, x.caller = e.caller → x.switch? = none)
      ∧ (radio? earlier = some false ↔ radio? since ≠ some true) := by
  obtain ⟨past, hkeeps⟩ := keeps_of_reachable h
  obtain ⟨ts, hts, hserved⟩ := hkeeps.served
  obtain ⟨after, s, before, since, behind, rfl, hentries, rfl⟩ :=
    exists_transcript (hts.symm.trans hlog)
  obtain ⟨binding, hserved⟩ := hserved.of_append
  cases hserved with
  | @cons _ _ _ _ next served closed own went asked =>
      have hmem : e ∈ s.entries := by
        rw [hentries]
        exact List.mem_append_right since (List.mem_cons_self ..)
      have hown := own e hmem
      obtain ⟨p', hp', hled⟩ := asked
      obtain rfl := Timeline.begun_unique h (hown ▸ hp') hbegun
      obtain ⟨text, htext, hislock⟩ := (Option.any_eq_true _ _).mp hlock
      have hsends := went.sending.1
      -- the procedure sends the lock, so it has the radio off
      have hoff := (Procedure.Guarded.led hled hp.guarded).1 text
        (hsends e hmem text htext) hislock
      obtain ⟨since', off, past', hpast, hcaller, hswitch, hnone⟩ :=
        exists_own_switch served closed hoff
      -- its first try may stand behind the lock, but that is a lock too
      have hbehind : ∀ x ∈ behind, x.switch? = none := by
        intro x hx
        have hxmem : x ∈ s.entries := by
          rw [hentries]
          exact List.mem_append_right since (List.mem_cons_of_mem e hx)
        unfold Entry.switch?
        cases hsucceeded : x.asked.succeeded? with
        | none => rfl
        | some text' =>
            have htext' := hsends x hxmem text'
              (Asked.text?_of_succeeded hsucceeded)
            have hsame := (hsends e hmem text htext).symm.trans htext'
            obtain rfl := Option.some.inj hsame
            exact radioAfter?_of_isLock hislock
      have hlog' : behind ++ before.flatMap (·.entries)
          = behind ++ since' ++ off :: past' := by
        rw [hpast, List.append_assoc]
      refine ⟨behind ++ since', off, past', hlog', hcaller.trans hown.symm,
        hswitch, fun x hx hx' => ?_, ?_⟩
      · rcases List.mem_append.mp hx with hx | hx
        · exact hbehind x hx
        · exact hnone x hx (hx'.trans hown)
      · have hlast : radio? (off :: past') = some false := by
          rw [radio?, List.findSome?_cons, hswitch]
        rw [hlog', radio?_append, hlast]
        cases radio? (behind ++ since') with
        | none => simp
        | some on => cases on <;> simp

/-- Two callers on a modem that accepts every command. While one removes
the cell locks, the other one comes to remove the band locks: it switches
the radio off once more, and then the first one switches it on. -/
def crossed : List (Act (Except CommandFault Unit)) := [
  .begin 0 (Procedure.unlockCell.map id), .turn 0,
  .pass 300, .turn 0, .turn 0,
  .pass 300, .turn 0, .turn 0,
  .begin 1 (Procedure.unlockBands.map id), .turn 1,
  .pass 300, .turn 0, .turn 0, .turn 1, .turn 1]

/-- The other one then sends a lock, and the radio is on. -/
theorem exists_crossed :
    ∃ (t : Timeline (Except CommandFault Unit)) (e : Entry)
      (earlier : List Entry),
      t.Reachable 8000
        ∧ (∀ c p, (c, p) ∈ t.begun → p.Locking)
        ∧ (e.caller, Procedure.unlockBands.map id) ∈ t.begun
        ∧ t.log = e :: earlier ∧ e.question.text?.any isLock = true
        ∧ radio? earlier = some true := by
  have hrun : ((Timeline.new 8000 .empty).run? crossed).any (fun t =>
      t.log.head?.any (fun e =>
        e.caller == 1 && e.question.text?.any isLock)
      && radio? t.log.tail == some true) = true := by
    decide +kernel
  obtain ⟨t, hrun, hlast⟩ := (Option.any_eq_true _ _).mp hrun
  have hbegun := Timeline.begun_run hrun
  have hlocking : ∀ c p, (c, p) ∈ t.begun → p.Locking := by
    intro c p hp
    rcases (hbegun c p).mp hp with hp | hp
    · cases hp
    · simp only [crossed, List.mem_cons, Act.begin.injEq, reduceCtorEq,
        false_or, List.not_mem_nil, or_false] at hp
      rcases hp with ⟨-, rfl⟩ | ⟨-, rfl⟩
      · exact .unlockCell id
      · exact .unlockBands id
  have hother : (1, Procedure.unlockBands.map id) ∈ t.begun := by
    refine (hbegun _ _).mpr (.inr ?_)
    simp [crossed]
  cases hlog : t.log with
  | nil =>
      rw [hlog] at hlast
      cases hlast
  | cons e earlier =>
      simp only [hlog, List.head?_cons, List.tail_cons, Option.any_some,
        Bool.and_eq_true, beq_iff_eq] at hlast
      obtain ⟨⟨hcaller, hlock⟩, hon⟩ := hlast
      exact ⟨t, e, earlier, .run (.new .empty) hrun, hlocking,
        hcaller ▸ hother, hlog, hlock, hon⟩

/-- The one that switched it on is not the one that sends the lock. -/
theorem locked_after_own_switch_crossed :
    ∃ (t : Timeline (Except CommandFault Unit)) (e : Entry)
      (earlier : List Entry),
      t.Reachable 8000 ∧ t.log = e :: earlier
        ∧ e.question.text?.any isLock = true
        ∧ ∃ since off before, earlier = since ++ off :: before
          ∧ off.caller = e.caller ∧ off.switch? = some false
          ∧ (∀ x ∈ since, x.caller = e.caller → x.switch? = none)
          ∧ radio? since = some true := by
  obtain ⟨t, e, earlier, hreach, hlocking, hbegun, hlog, hlock, hon⟩ :=
    exists_crossed
  have hlatest : t.log = [] ++ e :: earlier := hlog
  obtain ⟨since, off, before, hearlier, hcaller, hoff, hnone, hradio⟩ :=
    locked_after_own_switch hreach hlatest hlock hbegun
      (hlocking _ _ hbegun)
  refine ⟨t, e, earlier, hreach, hlog, hlock, since, off, before, hearlier,
    hcaller, hoff, hnone, ?_⟩
  rw [hon] at hradio
  exact Decidable.not_not.mp fun hne => absurd (hradio.mpr hne) (by decide)

/-- Callers that set locks, and nobody else, can send a lock while the
latest switch that succeeded is on. -/
theorem lock_sent_with_radio_on :
    ∃ (t : Timeline (Except CommandFault Unit)) (e : Entry)
      (earlier : List Entry),
      t.Reachable 8000 ∧ (∀ c p, (c, p) ∈ t.begun → p.Locking)
        ∧ t.log = e :: earlier ∧ e.question.text?.any isLock = true
        ∧ radio? earlier = some true := by
  obtain ⟨t, e, earlier, hreach, hlocking, -, hlog, hlock, hon⟩ :=
    exists_crossed
  exact ⟨t, e, earlier, hreach, hlocking, hlog, hlock, hon⟩

end Gateway.Modem
