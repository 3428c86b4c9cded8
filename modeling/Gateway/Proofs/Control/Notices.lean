import Gateway.Proofs.Control.PlainActs

/-!
# The main loop's notices

The main loop has a place of its own on the notice board as long as it is
there (`posted_step`). So a hot change that is announced while it is there
waits for it, and goes on waiting whatever the others do (`awaited_step`),
until it hears of it or is told that it missed something.
-/

namespace Gateway

namespace Device

/-- The board takes notices, and the main loop has a place of its own. -/
structure Posted (d : Device) : Prop where
  board : d.board.closed = false
  main : ∀ reader, d.mainReader = some reader → d.board.Seated reader
  relay : ∀ reader, d.relay = some reader →
    reader < d.board.readers.length ∧ d.mainReader ≠ some reader

/-- A hot change of the configuration waits for the main loop. -/
def Awaited (d : Device) : Prop :=
  ∃ reader, d.mainReader = some reader
    ∧ d.board.Waiting reader (.configChanged .hot)

theorem posted_new (p : Parts) : (Device.new p).Posted where
  board := rfl
  main reader h := by cases h
  relay reader h := by cases h

section

variable {d d' : Device}

theorem Posted.sidesteps (h : d.Posted) (hmain : d'.mainReader = d.mainReader)
    (hside : ∀ reader, d.relay ≠ some reader → Sidesteps reader d d') :
    d'.Posted := by
  have hfree : d.relay ≠ some d.board.readers.length := fun hrelay =>
    Nat.lt_irrefl _ (h.relay _ hrelay).1
  have hbeyond := hside _ hfree
  refine ⟨hbeyond.board.closed.trans h.board, fun reader hreader => ?_,
    fun reader hreader => ?_⟩
  · rw [hmain] at hreader
    have hother : d.relay ≠ some reader := fun hrelay =>
      (h.relay reader hrelay).2 hreader
    exact (hside reader hother).board.seated (h.main reader hreader)
  · rw [hmain]
    rcases hbeyond.relay with hsame | hnone | hnew
    · rw [hsame] at hreader
      obtain ⟨hplace, hother⟩ := h.relay reader hreader
      exact ⟨Nat.lt_of_lt_of_le hplace hbeyond.board.length, hother⟩
    · rw [hnone] at hreader
      cases hreader
    · rw [hnew.1] at hreader
      cases hreader
      refine ⟨hnew.2, fun hmain => ?_⟩
      obtain ⟨next, hseat, -⟩ := h.main _ hmain
      exact Nat.lt_irrefl _ (List.getElem?_eq_some_iff.mp hseat).1

theorem Posted.receive (h : d.Posted) {reader : Nat} {board : NoticeBoard}
    {received : Received Notice}
    (hreceive : d.board.receive reader = (board, received)) :
    { d with board }.Posted := by
  obtain rfl : (d.board.receive reader).1 = board := by rw [hreceive]
  refine ⟨?_, fun r hr => ?_, fun r hr => ?_⟩
  · exact (congrArg Broadcast.closed (d.board.receive_eq reader)).trans h.board
  · by_cases hsame : r = reader
    · subst hsame
      exact (h.main r hr).receive
    · have hleads := (Broadcast.Leads.same d.board).receive (Ne.symm hsame)
      exact hleads.seated (h.main r hr)
  · obtain ⟨hplace, hother⟩ := h.relay r hr
    refine ⟨?_, hother⟩
    dsimp only
    rwa [d.board.length_receive]

theorem Awaited.sidesteps (h : d.Awaited) (hposted : d.Posted)
    (hmain : d'.mainReader = d.mainReader)
    (hside : ∀ reader, d.relay ≠ some reader → Sidesteps reader d d') :
    d'.Awaited := by
  obtain ⟨reader, hreader, hwaits⟩ := h
  have hother : d.relay ≠ some reader := fun hrelay =>
    (hposted.relay reader hrelay).2 hreader
  exact ⟨reader, hmain.trans hreader,
    (hside reader hother).board.waiting hwaits⟩

end

end Device

namespace Interplay

variable {clients : Clients} {w w' : Interplay}

/-- Of those who share the board nobody takes the place of another. -/
theorem posted_step (h : w.device.Posted) {s : Step}
    (hstep : w.Takes clients s w') : w'.device.Posted := by
  cases hstep with
  | accept => exact { h with }
  | refuse => exact h
  | enforce => exact { h with }
  | change => exact { h with }
  | share => exact h
  | writeFails => exact h
  | write => exact { h with }
  | moveFails => exact h
  | move => exact { h with }
  | answer => exact h
  | look => exact h
  | ask n policy looked =>
      rw [Device.commandLoop_fst]
      exact { h with }
  | readFails => exact h
  | read => exact h
  | adopt => exact { h with }
  | leave => exact h
  | publish n change compared =>
      exact h.sidesteps rfl fun reader _ =>
        ⟨(Broadcast.Leads.same _).publish _, .inl rfl⟩
  | enter outside =>
      refine ⟨h.board, fun reader hreader => ?_, fun reader hreader => ?_⟩
      · cases hreader
        exact w.device.board.seated_subscribe
      · have hplace := (h.relay reader hreader).1
        refine ⟨?_, fun heq => ?_⟩
        · simpa [Device.enterMain, Broadcast.subscribe] using
            Nat.lt_succ_of_lt hplace
        · cases heq
          exact Nat.lt_irrefl _ hplace
  | hear reader board notice inside idle receives => exact h.receive receives
  | skip reader board count inside idle lags => exact h.receive lags
  | copy => exact h
  | force => exact { h with }
  | reject => exact h
  | settle => exact { h with }
  | push => exact { h with }
  | notify notice =>
      exact h.sidesteps rfl fun reader _ =>
        ⟨(Broadcast.Leads.same _).publish _, .inl rfl⟩
  | attend reader other => exact h.receive rfl
  | act a device plain acts =>
      exact h.sidesteps (Device.untouched_act? acts plain).mainReader
        fun reader hrelay => Device.sidesteps_act? acts plain hrelay
  | elsewhere rest => exact { h with }

/-- Anything but hearing of it or missing something leaves a hot change
waiting. -/
theorem awaited_step (hposted : w.device.Posted) (h : w.device.Awaited)
    {s : Step} (hstep : w.Takes clients s w') :
    w'.device.Awaited ∨ s = .skip ∨ s = .hear ∧ w'.main = .told := by
  cases hstep with
  | ask n policy looked =>
      rw [Device.commandLoop_fst]
      exact .inl h
  | publish n change compared =>
      exact .inl (h.sidesteps hposted rfl fun reader _ =>
        ⟨(Broadcast.Leads.same _).publish _, .inl rfl⟩)
  | enter outside =>
      obtain ⟨reader, hreader, -⟩ := h
      rw [outside] at hreader
      cases hreader
  | hear reader board notice inside idle receives =>
      obtain ⟨r, hr, hwaits⟩ := h
      rw [inside] at hr
      cases hr
      rcases Broadcast.waiting_receive hwaits receives with rfl | hwaits
      · exact .inr (.inr ⟨rfl, by simp⟩)
      · exact .inl ⟨reader, inside, hwaits⟩
  | skip => exact .inr (.inl rfl)
  | notify notice =>
      exact .inl (h.sidesteps hposted rfl fun reader _ =>
        ⟨(Broadcast.Leads.same _).publish _, .inl rfl⟩)
  | attend reader other =>
      obtain ⟨r, hr, hwaits⟩ := h
      have hne : reader ≠ r := fun heq => other (heq ▸ hr)
      have hleads := (Broadcast.Leads.same w.device.board).receive hne
      exact .inl ⟨r, hr, hleads.waiting hwaits⟩
  | act a device plain acts =>
      exact .inl (h.sidesteps hposted
        (Device.untouched_act? acts plain).mainReader
        fun reader hrelay => Device.sidesteps_act? acts plain hrelay)
  | _ => exact .inl h

theorem Drained.not_awaited (h : Drained w) : ¬ w.device.Awaited := by
  rintro ⟨reader, hreader, hwaits⟩
  obtain ⟨r, hr, hempty⟩ := h
  rw [hr] at hreader
  cases hreader
  exact Broadcast.not_waiting_of_empty hempty hwaits

end Interplay

end Gateway
