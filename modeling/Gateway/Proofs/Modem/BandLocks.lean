import Gateway.Proofs.Modem.BandMasks
import Gateway.Proofs.Modem.LockCommands

/-!
# Band locks that stay

What restricting the modem to some bands comes to, on a modem that accepts
every command, keeps the locks that it was last told and reports them
(`LockModem`). Locks of earlier calls may be there: the NR lock is always
set anew, but the LTE lock is left as it was unless a band of LTE is asked
for or none at all. So the modem is restricted to just the bands asked for
only if nothing of an LTE lock was left to stay (`queryBands_lockBands`).

A procedure is followed through its requests once (`against_execute`,
`against_runAll`); the rest is about what single commands do to the locks.
-/

namespace Gateway.Modem

/-! ## A modem that keeps locks -/

/-- The band locks that a modem keeps. -/
structure KeptLocks where
  lte : LockPair
  nr : LockPair
deriving DecidableEq, Repr

namespace KeptLocks

/-- The numbers of a command about band locks. -/
def numbers? (text : String) : Option (List UInt32) :=
  if Procedure.bandMark.isPrefixOf text.toList then
    (Text.fields (· == ',') (text.toList.drop Procedure.bandMark.length)).mapM
      LockReport.number?
  else none

/-- What the modem reports of its LTE lock. -/
def lteReport (k : KeptLocks) : String :=
  LockReport.written [0, k.lte.tdd, 0, k.lte.fdd, 0]

/-- What the modem reports of its NR lock. -/
def nrReport (k : KeptLocks) : String :=
  LockReport.written [k.nr.fdd, 0, k.nr.tdd, 0]

/-- What a command does to the locks, and what it reports, if it does: two
commands ask for the locks and two set them, and all others leave them
alone. -/
def obey (k : KeptLocks) : List UInt32 → KeptLocks × Option String
  | [0] => (k, some k.lteReport)
  | [3] => (k, some k.nrReport)
  | [1, 0, tdd, 0, fdd, 0] => ({ k with lte := ⟨tdd, fdd⟩ }, none)
  | [2, fdd, 0, tdd, 0] => ({ k with nr := ⟨tdd, fdd⟩ }, none)
  | _ => (k, none)

/-- What a command text does to the locks, and what it reports. -/
def receive (k : KeptLocks) (text : String) : KeptLocks × Option String :=
  match numbers? text with
  | some numbers => k.obey numbers
  | none => (k, none)

/-- The locks as masks. -/
def masks (k : KeptLocks) : BandMasks :=
  ⟨k.lte.tdd, k.lte.fdd, k.nr.tdd, k.nr.fdd⟩

/-- The locks after the modem was restricted to some bands: an LTE lock
that is there stays if there are bands but none of LTE. -/
def restricted (k : KeptLocks) (bands : List Band) : KeptLocks :=
  let asked := BandMasks.ofBands bands
  { lte :=
      if bands = [] ∨ ∃ b ∈ bands, b.technology = .lte
      then ⟨asked.lteTdd, asked.lteFdd⟩ else k.lte
    nr := ⟨asked.nrTdd, asked.nrFdd⟩ }

end KeptLocks

/-- A modem that accepts every command and keeps band locks, and what the
bus is bound to. -/
structure LockModem where
  endpoint : Endpoint
  binding : Option Endpoint
  locks : KeptLocks
  /-- The answer to a command that reports nothing. -/
  receipt : String → String
  accepts : ∀ text, ∃ answer, Bus.accepted (receipt text) = .ok answer

namespace LockModem

/-- The answer to a command text. -/
def reply (m : LockModem) (text : String) : String :=
  (m.locks.receive text).2.getD (m.receipt text)

/-- The modem after it was told a command. -/
def told (m : LockModem) (text : String) : LockModem :=
  { m with
    binding := some (m.binding.getD m.endpoint)
    locks := (m.locks.receive text).1 }

/-- What a question is answered with, and the modem after it. -/
def answer (m : LockModem) : (q : Question) → q.Answer × LockModem
  | .resolve => (.ok m.endpoint, m)
  | .send _ text _ =>
    (.answered (.ok (m.reply text)),
      { m with locks := (m.locks.receive text).1 })
  | .reconnect => (.ok (), m)
  | .strength _ _ => ((.answered (.ok 20), 0), m)
  | .technology _ _ => (.answered (.ok "LTE only"), m)
  | .pause _ => ((), m)

end LockModem

variable {α β : Type}

/-- What a dialogue with the modem comes to. -/
def Dialogue.against : Dialogue α → LockModem → α × LockModem
  | .done value, m => (value, m)
  | .rebind binding next, m => next.against { m with binding }
  | .ask q next, m => (next (m.answer q).1).against (m.answer q).2

/-- What a procedure comes to on a bus with the modem. -/
def Procedure.against (limit : Nat) :
    Procedure α → LockModem → α × LockModem
  | .done value, m => (value, m)
  | .pause _ next, m => next.against limit m
  | .request r next, m =>
    match r.work limit with
    | .answer value => (next value).against limit m
    | .dialogue start =>
      let (value, m) := (start m.binding).against m
      (next value).against limit m

/-- A command is answered at its first try. -/
theorem Bus.against_execute (command : AtCommand) (m : LockModem) :
    (Bus.execute command m.binding).against m
      = (Bus.accepted (m.reply command.text), m.told command.text) := by
  rw [Bus.execute, Bus.retries, Bus.attempt, LockModem.told]
  cases hbinding : m.binding with
  | none =>
      simp only [Bus.withEndpoint, Dialogue.against, LockModem.answer]
      rfl
  | some e =>
      simp only [Bus.withEndpoint, Dialogue.against, LockModem.answer,
        hbinding, Option.getD_some]

namespace Procedure

/-! ## Procedures, request by request -/

theorem against_bind (limit : Nat) (p : Procedure α)
    (f : α → Procedure β) (m : LockModem) :
    (p.bind f).against limit m
      = (f (p.against limit m).1).against limit (p.against limit m).2 := by
  induction p generalizing m with
  | done value => rfl
  | pause time next ih => exact ih m
  | request r next ih =>
      simp only [bind, against]
      cases r.work limit with
      | answer value => exact ih value m
      | dialogue start => exact ih _ _

theorem against_request {limit : Nat} {r : Bus.Request}
    {start : Option Endpoint → Dialogue r.Answer}
    (hwork : r.work limit = .dialogue start) (next : r.Answer → Procedure α)
    (m : LockModem) {value : r.Answer} {m' : LockModem}
    (htalk : (start m.binding).against m = (value, m')) :
    (request r next).against limit m = (next value).against limit m' := by
  simp only [against, hwork, htalk]

theorem against_execute (limit : Nat) {text : String} {rest : List Char}
    (h : text.toList = 'A' :: 'T' :: rest) (m : LockModem) :
    (execute text).against limit m
      = (Bus.accepted (m.reply text), m.told text) := by
  have hwork : (Bus.Request.command text).work limit
      = .dialogue (Bus.execute ⟨text, limit⟩) := by
    rw [Bus.Request.work, Bus.commandWork, AtCommand.ofText_of_at h]
    rfl
  exact against_request hwork done m (Bus.against_execute ⟨text, limit⟩ m)

theorem against_settled (limit : Nat) {text : String} {rest : List Char}
    (h : text.toList = 'A' :: 'T' :: rest) (m : LockModem) :
    (settled text).against limit m
      = (Bus.accepted (m.reply text), m.told text) := by
  have hsettled : settled text
      = (execute text).bind fun answer => pause settleTime (done answer) :=
    rfl
  rw [hsettled, against_bind, against_execute limit h]
  simp only [against]

/-! ## What commands do to the locks -/

theorem receive_of_listed (k : KeptLocks) {text : String}
    {numbers : List UInt32} (hne : numbers ≠ [])
    (h : text.toList = bandMark ++ LockReport.listed numbers) :
    k.receive text = k.obey numbers := by
  have horder : bandMark.isPrefixOf text.toList = true := by
    rw [h, List.isPrefixOf_iff_prefix]
    exact List.prefix_append bandMark _
  have hnumbers : KeptLocks.numbers? text = some numbers := by
    rw [KeptLocks.numbers?, if_pos horder, h, List.drop_left,
      LockReport.numbers_listed hne]
  rw [KeptLocks.receive, hnumbers]

theorem receive_lteLock (k : KeptLocks) (tdd fdd : UInt32) :
    k.receive (lteLock tdd fdd) = ({ k with lte := ⟨tdd, fdd⟩ }, none) :=
  receive_of_listed k (by simp) (toList_lteLock tdd fdd)

theorem receive_nrLock (k : KeptLocks) (tdd fdd : UInt32) :
    k.receive (nrLock tdd fdd) = ({ k with nr := ⟨tdd, fdd⟩ }, none) :=
  receive_of_listed k (by simp) (toList_nrLock tdd fdd)

theorem receive_lteQuery (k : KeptLocks) :
    k.receive lteQuery = (k, some k.lteReport) :=
  receive_of_listed k (List.cons_ne_nil 0 []) rfl

theorem receive_nrQuery (k : KeptLocks) :
    k.receive nrQuery = (k, some k.nrReport) :=
  receive_of_listed k (List.cons_ne_nil 3 []) rfl

theorem receive_other (k : KeptLocks) {text : String}
    (h : bandMark.isPrefixOf text.toList = false) :
    k.receive text = (k, none) := by
  rw [KeptLocks.receive, KeptLocks.numbers?, if_neg (by simp [h])]

/-! ## Setting locks -/

/-- A command that reports nothing, whatever the locks. -/
structure Silent (text : String) : Prop where
  at_first : ∃ rest, text.toList = 'A' :: 'T' :: rest
  silent : ∀ k : KeptLocks, (k.receive text).2 = none

theorem silent_lteLock (tdd fdd : UInt32) : Silent (lteLock tdd fdd) where
  at_first := ⟨_, toList_lteLock tdd fdd⟩
  silent k := by rw [receive_lteLock]

theorem silent_nrLock (tdd fdd : UInt32) : Silent (nrLock tdd fdd) where
  at_first := ⟨_, toList_nrLock tdd fdd⟩
  silent k := by rw [receive_nrLock]

theorem receive_radioOff (k : KeptLocks) :
    k.receive radioOff = (k, none) :=
  receive_other k rfl

theorem receive_radioOn (k : KeptLocks) : k.receive radioOn = (k, none) :=
  receive_other k rfl

theorem receive_reactivate (k : KeptLocks) :
    k.receive reactivate = (k, none) :=
  receive_other k rfl

/-- A command that reports nothing succeeds. -/
theorem Silent.accepted {text : String} (h : Silent text) (m : LockModem) :
    ∃ answer, Bus.accepted (m.reply text) = .ok answer := by
  rw [LockModem.reply, h.silent, Option.getD_none]
  exact m.accepts text

theorem against_settled_silent (limit : Nat) {text : String}
    (h : Silent text) (m : LockModem) :
    ∃ answer, (settled text).against limit m = (.ok answer, m.told text) := by
  obtain ⟨rest, hat⟩ := h.at_first
  obtain ⟨answer, haccepted⟩ := h.accepted m
  exact ⟨answer, by rw [against_settled limit hat, haccepted]⟩

theorem against_runAll (limit : Nat) {texts : List String}
    (h : ∀ text ∈ texts, Silent text) (m : LockModem) :
    (runAll texts).against limit m
      = (.ok (), texts.foldl LockModem.told m) := by
  induction texts generalizing m with
  | nil => rfl
  | cons text texts ih =>
      obtain ⟨htext, hrest⟩ := List.forall_mem_cons.mp h
      obtain ⟨answer, hsettled⟩ := against_settled_silent limit htext m
      rw [runAll, against_bind, hsettled, List.foldl_cons]
      exact ih hrest (m.told text)

/-- All commands are accepted, so the whole procedure is. -/
theorem against_withRadioOff (limit : Nat) {body : List String}
    (h : ∀ text ∈ body, Silent text) (m : LockModem) :
    (withRadioOff body).against limit m
      = (.ok (), (radioOff :: body ++ [radioOn, reactivate]).foldl
          LockModem.told m) := by
  have hoff : Silent radioOff := ⟨⟨_, rfl⟩, fun k => by
    rw [receive_radioOff]⟩
  have hon : Silent radioOn := ⟨⟨_, rfl⟩, fun k => by
    rw [receive_radioOn]⟩
  have hdata : Silent reactivate := ⟨⟨_, rfl⟩, fun k => by
    rw [receive_reactivate]⟩
  obtain ⟨rest, hat⟩ := hdata.at_first
  obtain ⟨_, hoff⟩ := against_settled_silent limit hoff m
  obtain ⟨_, hon⟩ := against_settled_silent limit hon
    (body.foldl LockModem.told (m.told radioOff))
  obtain ⟨_, haccepted⟩ := hdata.accepted
    ((body.foldl LockModem.told (m.told radioOff)).told radioOn)
  simp only [withRadioOff, against_bind, hoff, against_runAll limit h, hon,
    against_execute limit hat, haccepted, against,
    firstFault, List.cons_append, List.foldl_cons, List.foldl_append,
    List.foldl_nil]

theorem locks_foldl_told (texts : List String) (m : LockModem) :
    (texts.foldl LockModem.told m).locks
      = texts.foldl (fun k text => (k.receive text).1) m.locks := by
  induction texts generalizing m with
  | nil => rfl
  | cons text texts ih => exact ih (m.told text)

/-- The radio and the data connection are none of the locks' business. -/
theorem locks_withRadioOff (body : List String) (m : LockModem) :
    ((radioOff :: body ++ [radioOn, reactivate]).foldl
      LockModem.told m).locks
      = body.foldl (fun k text => (k.receive text).1) m.locks := by
  rw [locks_foldl_told]
  simp only [List.cons_append, List.foldl_cons, List.foldl_append,
    List.foldl_nil, receive_radioOff, receive_radioOn, receive_reactivate]

/-- The NR lock is always set, and the LTE lock if a band of LTE is asked
for. -/
theorem foldl_lockCommands (masks : BandMasks) (k : KeptLocks) :
    (lockCommands masks).foldl (fun k text => (k.receive text).1) k
      = { lte := if masks.hasLte then ⟨masks.lteTdd, masks.lteFdd⟩ else k.lte
          nr := ⟨masks.nrTdd, masks.nrFdd⟩ } := by
  have hnone : masks.hasNr = false → masks.nrTdd = 0 ∧ masks.nrFdd = 0 := by
    simp [BandMasks.hasNr]
  unfold lockCommands
  cases hlte : masks.hasLte <;> cases hnr : masks.hasNr
  · simp [receive_nrLock, hnone hnr]
  · simp [receive_nrLock]
  · simp [receive_nrLock, receive_lteLock, hnone hnr]
  · simp [receive_nrLock, receive_lteLock]

theorem against_lockBands (limit : Nat) (bands : List Band)
    (m : LockModem) :
    ((lockBands bands).against limit m).1 = .ok ()
      ∧ ((lockBands bands).against limit m).2.locks
        = m.locks.restricted bands := by
  have hlte := BandMasks.has_ofBands bands .lte
  cases bands with
  | nil =>
      have hsilent : ∀ text ∈ [lteLock 0 0, nrLock 0 0], Silent text := by
        intro text htext
        rcases List.mem_cons.mp htext with rfl | htext
        · exact silent_lteLock 0 0
        obtain rfl := List.mem_singleton.mp htext
        exact silent_nrLock 0 0
      have hunlock : lockBands [] = withRadioOff [lteLock 0 0, nrLock 0 0] :=
        rfl
      rw [hunlock, against_withRadioOff limit hsilent, locks_withRadioOff]
      refine ⟨rfl, ?_⟩
      simp [receive_lteLock, receive_nrLock, KeptLocks.restricted,
        BandMasks.ofBands, BandMasks.none]
  | cons b bands =>
      have hlock : lockBands (b :: bands)
          = withRadioOff (lockCommands (.ofBands (b :: bands))) := rfl
      rw [hlock, against_withRadioOff limit
        (forall_mem_lockCommands silent_lteLock silent_nrLock _),
        locks_withRadioOff, foldl_lockCommands]
      refine ⟨rfl, ?_⟩
      rw [BandMasks.has] at hlte
      simp only [KeptLocks.restricted, hlte, reduceCtorEq, false_or]

/-! ## Asking for locks -/

theorem accepted_written {numbers : List UInt32} (hne : numbers ≠ []) :
    Bus.accepted (LockReport.written numbers)
      = .ok (LockReport.written numbers) := by
  have htrimmed : Text.trimmed (LockReport.written numbers)
      = LockReport.written numbers := by
    rw [Text.trimmed, LockReport.trim_written hne, String.ofList_toList]
  have hnonempty : LockReport.written numbers ≠ "" := by
    intro hempty
    have hlist := LockReport.toList_written numbers
    rw [hempty] at hlist
    cases hlist
  rw [Bus.accepted, htrimmed, if_neg hnonempty]

/-- The modem is believed what it reports. -/
theorem against_queryBands (limit : Nat) (m : LockModem) :
    (queryBands.against limit m).1 = .ok m.locks.masks := by
  have hlteAsked : (settled lteQuery).against limit m
      = (.ok m.locks.lteReport, m.told lteQuery) := by
    rw [against_settled limit rfl, LockModem.reply, receive_lteQuery,
      Option.getD_some, KeptLocks.lteReport, accepted_written (by simp)]
  have htold : (m.told lteQuery).locks = m.locks := by
    rw [LockModem.told, receive_lteQuery]
  have hnrAsked : (execute nrQuery).against limit (m.told lteQuery)
      = (.ok m.locks.nrReport, (m.told lteQuery).told nrQuery) := by
    rw [against_execute limit rfl, LockModem.reply, htold, receive_nrQuery,
      Option.getD_some, KeptLocks.nrReport, accepted_written (by simp)]
  have hmasks : reportedMasks m.locks.lteReport m.locks.nrReport
      = .ok m.locks.masks := by
    rw [reportedMasks, KeptLocks.lteReport, KeptLocks.nrReport,
      LockReport.lte?_written, LockReport.nr?_written]
    rfl
  simp only [queryBands, against_bind, hlteAsked, hnrAsked, against, hmasks]

end Procedure

/-! ## What the modem is restricted to -/

/-- What the modem is restricted to is what was asked for, unless an LTE
lock stays. -/
theorem KeptLocks.masks_restricted (k : KeptLocks) (bands : List Band) :
    (k.restricted bands).masks = .ofBands bands
      ↔ bands = [] ∨ (∃ b ∈ bands, b.technology = .lte)
        ∨ k.lte = ⟨0, 0⟩ := by
  by_cases hset : bands = [] ∨ ∃ b ∈ bands, b.technology = .lte
  · have hmasks : (k.restricted bands).masks = .ofBands bands := by
      rw [restricted, if_pos hset]
      rfl
    exact ⟨fun _ => or_assoc.mp (.inl hset), fun _ => hmasks⟩
  have hnone : (BandMasks.ofBands bands).lteTdd = 0
      ∧ (BandMasks.ofBands bands).lteFdd = 0 := by
    have hhas := mt (BandMasks.has_ofBands bands .lte).mp
      (not_or.mp hset).2
    simpa [BandMasks.has, BandMasks.hasLte] using hhas
  have hmasks : (k.restricted bands).masks = .ofBands bands
      ↔ k.lte = ⟨0, 0⟩ := by
    obtain ⟨⟨tdd, fdd⟩, nr⟩ := k
    rw [restricted, if_neg hset, masks, BandMasks.mk.injEq,
      LockPair.mk.injEq]
    simp only [hnone, and_true]
  rw [hmasks, ← or_assoc, or_iff_right hset]

namespace Procedure

/-- Whatever locks a modem keeps that accepts every command, restricting it
to some bands succeeds, and the bands can then be asked for. They are those
asked for, each of them once and in the order of tables, just if there was
a band of LTE among them, or no band at all, or no LTE lock before; any
other time the LTE lock from before is still there. -/
theorem queryBands_lockBands (limit : Nat) (bands : List Band)
    (m : LockModem) :
    ((lockBands bands).against limit m).1 = .ok ()
      ∧ ∃ masks,
        (queryBands.against limit ((lockBands bands).against limit m).2).1
            = .ok masks
        ∧ masks = (m.locks.restricted bands).masks
        ∧ (masks = .ofBands bands ↔ bands = []
            ∨ (∃ b ∈ bands, b.technology = .lte) ∨ m.locks.lte = ⟨0, 0⟩)
        ∧ (masks = .ofBands bands →
            masks.locked = Band.all.filter (· ∈ bands)) := by
  obtain ⟨hlocked, hlocks⟩ := against_lockBands limit bands m
  refine ⟨hlocked, (m.locks.restricted bands).masks, ?_, rfl,
    m.locks.masks_restricted bands, fun hmasks => ?_⟩
  · rw [against_queryBands, hlocks]
  · rw [hmasks, BandMasks.locked_ofBands]

/-- A modem with an LTE lock left of an earlier call. -/
def heldBack : LockModem where
  endpoint := ⟨"/ril_0"⟩
  binding := none
  locks := ⟨⟨2, 0⟩, ⟨0, 0⟩⟩
  receipt _ := "OK"
  accepts _ := ⟨"OK", rfl⟩

/-- Restricted to a band of NR alone it stays restricted to a band of LTE
as well. -/
theorem lteLock_left_behind :
    ((lockBands [.n01]).against 8000 heldBack).1 = .ok ()
      ∧ (queryBands.against 8000
          ((lockBands [.n01]).against 8000 heldBack).2).1
        ≠ .ok (.ofBands [.n01]) := by
  obtain ⟨hlocked, hlocks⟩ := against_lockBands 8000 [.n01] heldBack
  refine ⟨hlocked, ?_⟩
  rw [against_queryBands, hlocks]
  intro hmasks
  have hleft : (heldBack.locks.restricted [.n01]).masks
      ≠ .ofBands [.n01] := by decide
  exact hleft (Except.ok.inj hmasks)

end Procedure

end Gateway.Modem
