import Gateway.Proofs.Led.AllOff
import Gateway.Proofs.Led.Clock

/-!
# What a render tick writes

A tick goes by what the table believes, so what it writes is a statement
about the beliefs; here it is one about the attempts on record. That takes
the other half of the table's truthfulness: where nothing is believed, the
channel was never written or refused its latest write.

- **Beliefs** (`written_eq_shown?`): for an output asked by this table
  alone, a belief is just what the latest attempt on the channel left.
- **Steady modes** (`Settled`): a channel that is believed lit or dark in a
  steady mode is believed to be as that mode asks.
- **One tick** (`on_renderTick`, `count_renderTick`): which channels it
  writes, what, and how many attempts it reports.
- **Many ticks** (`rewrites_minimal`): rounds, alternation and quiet, from
  any phase on and so also where the clock wraps.
-/

namespace Gateway.Led

namespace Output

/-- An output that was asked for nothing yet. -/
def untried (admits : Nat → Channel → Bool) (admitsClaim : Channel → Bool) :
    Output := ⟨admits, admitsClaim, 0, [], []⟩

/-- Whether the latest attempt on a channel left it lit. Nothing is left by
one that was refused. -/
def shown? (p : Output) (c : Channel) : Option Bool :=
  (p.last? c).bind fun w => if w.accepted then some (w.value != 0) else none

theorem last?_eq_head? (p : Output) (c : Channel) :
    p.last? c = (p.on c).head? := (List.head?_filter ..).symm

theorem shown?_congr {p p' : Output} {c : Channel} (h : p'.on c = p.on c) :
    p'.shown? c = p.shown? c := by
  rw [shown?, shown?, last?_eq_head?, last?_eq_head?, h]

end Output

namespace Table

/-- A table that has driven nothing yet, at any phase of its clock. -/
def newAt (output : Output) (forceEvery phase : UInt64) : Table :=
  { Table.new output forceEvery with phase }

/-! ## Beliefs -/

/-- If nothing is believed of a channel, its latest attempt left nothing. -/
def Unsure (t : Table) (c : Channel) : Prop :=
  (t.node c).written = none → t.output.shown? c = none

theorem unsure_write {t : Table} {c d : Channel} {lit : Bool}
    (h : t.Unsure d) : (t.write c lit).Unsure d := by
  intro hw
  have hlast : (t.write c lit).output.last? d
      = if c = d then some ⟨c, (t.node c).value lit, t.output.accepts c⟩
        else t.output.last? d := Output.last?_write ..
  rw [node_write] at hw
  rw [Output.shown?, hlast]
  by_cases hcd : c = d
  · rw [if_pos hcd] at hw ⊢
    cases hacc : t.output.accepts c with
    | false => rfl
    | true => simp [hacc] at hw
  · rw [if_neg hcd] at hw ⊢
    exact h hw

theorem unsure_mark {t : Table} {c d : Channel} {mode : Mode}
    (h : t.Unsure d) : (t.mark c mode).Unsure d := by
  intro hw
  rw [node_mark] at hw
  split at hw
  case isTrue hcd =>
    subst hcd
    exact h hw
  case isFalse => exact h hw

theorem unsure_brighten {t : Table} {c d : Channel} {brightness : UInt8}
    (h : t.Unsure d) : (t.brighten c brightness).Unsure d := by
  intro hw
  rw [node_brighten] at hw
  split at hw
  case isTrue hcd =>
    subst hcd
    exact h hw
  case isFalse => exact h hw

theorem unsure_driven {t t' : Table} (hdriven : Driven t t') {c : Channel}
    (h : t.Unsure c) : t'.Unsure c := by
  induction hdriven with
  | refl => exact h
  | write _ _ _ ih => exact unsure_write ih
  | mark _ _ _ ih => exact unsure_mark ih
  | brighten _ _ _ ih => exact unsure_brighten ih
  | claim _ _ ih => exact ih

/-- The value of a lit channel is not zero. -/
theorem Truthful.value_bne_zero {t : Table} (ht : t.Truthful) (c : Channel)
    (lit : Bool) : ((t.node c).value lit != 0) = lit := by
  cases lit with
  | false => rfl
  | true =>
      have hbright := ht.bright c
      refine bne_iff_ne.mpr fun hzero => ?_
      have hdark : (t.node c).brightness = 0 := hzero
      rw [hdark] at hbright
      exact absurd hbright (by decide)

/-- What the table believes of a channel is what its latest attempt left. -/
theorem written_eq_shown? {t : Table} (ht : t.Truthful) {c : Channel}
    (h : t.Unsure c) : (t.node c).written = t.output.shown? c := by
  cases hw : (t.node c).written with
  | none => exact (h hw).symm
  | some lit =>
      rw [Output.shown?, ht.known c lit hw, Option.bind_some,
        ht.value_bne_zero c lit]
      rfl

/-! ## Steady modes -/

/-- A channel that is believed lit or dark in a steady mode is believed to
be as the mode asks at any phase. -/
def Settled (t : Table) (c : Channel) : Prop :=
  (t.node c).mode.flashes = false →
    ∀ lit, (t.node c).written = some lit → (t.node c).mode.lit 0 = lit

theorem settled_write {t : Table} {c d : Channel} {lit : Bool}
    (hlit : (t.node c).mode.flashes = false → (t.node c).mode.lit 0 = lit)
    (h : c ≠ d → t.Settled d) : (t.write c lit).Settled d := by
  intro hsteady lit' hw
  rw [mode_write] at hsteady ⊢
  rw [node_write] at hw
  by_cases hcd : c = d
  · subst hcd
    cases hacc : t.output.accepts c with
    | false => simp [hacc] at hw
    | true =>
        obtain rfl : lit = lit' := by simpa [hacc] using hw
        exact hlit hsteady
  · rw [if_neg hcd] at hw
    exact h hcd hsteady lit' hw

theorem settled_mark {t : Table} {c d : Channel} {mode : Mode}
    (h : mode.flashes = false → c ≠ d) (hd : t.Settled d) :
    (t.mark c mode).Settled d := by
  intro hsteady lit hw
  rw [node_mark] at hsteady hw ⊢
  by_cases hcd : c = d
  · rw [if_pos hcd] at hsteady
    exact absurd hcd (h hsteady)
  · rw [if_neg hcd] at hsteady hw ⊢
    exact hd hsteady lit hw

theorem settled_markWrite {t : Table} {c d : Channel} {mode : Mode}
    (h : t.Settled d) :
    ((t.mark c mode).write c (mode.lit 0)).Settled d := by
  refine settled_write (fun _ => ?_) fun hcd => settled_mark (fun _ => hcd) h
  rw [mode_mark, if_pos rfl]

theorem settled_setMode {t : Table} {c d : Channel} {mode : Mode}
    (h : t.Settled d) : (t.setMode c mode).Settled d := by
  unfold setMode
  split
  · exact h
  · cases mode with
    | off => exact settled_markWrite h
    | on => exact settled_markWrite h
    | slowFlash => exact settled_mark nofun h
    | fastFlash => exact settled_mark nofun h

theorem settled_brighten {t : Table} {c d : Channel} {brightness : UInt8}
    (h : t.Settled d) : (t.brighten c brightness).Settled d := by
  intro hsteady lit hw
  rw [mode_brighten] at hsteady ⊢
  rw [node_brighten] at hw
  split at hw
  case isTrue hcd =>
    subst hcd
    exact h hsteady lit hw
  case isFalse => exact h hsteady lit hw

theorem settled_setBrightness {t : Table} {c d : Channel}
    {brightness : UInt8} (h : ∀ c, t.Settled c) :
    (t.setBrightness c brightness).Settled d := by
  rw [setBrightness_eq]
  split
  case isTrue hlit =>
    -- only a lit channel is written again, so it is left as it was
    refine settled_write (fun hsteady => ?_) fun _ => settled_brighten (h d)
    rw [mode_brighten] at hsteady ⊢
    exact h c hsteady true hlit
  case isFalse => exact settled_brighten (h d)

theorem settled_render {acc : Table × Nat} {c d : Channel}
    (h : acc.1.Settled d) : (render acc c).1.Settled d := by
  unfold render
  split
  · exact settled_write (fun hsteady => Mode.lit_of_steady hsteady _ _)
      fun _ => h
  · exact h

theorem settled_advance {t : Table} {d : Channel} (h : t.Settled d) :
    t.advance.Settled d := h

theorem settled_renderTick {t : Table} {d : Channel} (h : t.Settled d) :
    t.renderTick.1.Settled d := by
  have hall : (Channel.all.foldl render (t, 0)).1.Settled d :=
    List.foldlRecOn (motive := fun acc => acc.1.Settled d) Channel.all
      render h fun _ hacc _ _ => settled_render hacc
  rw [renderTick_eq]
  exact settled_advance hall

theorem settled_perform {t : Table} (h : ∀ c, t.Settled c) (op : Operation)
    (d : Channel) : (t.perform op).Settled d := by
  cases op with
  | init =>
      unfold perform init
      refine List.foldlRecOn (motive := (Settled · d)) Channel.all _
        (h d) fun t ht c _ => ?_
      have hclaim :
          ({ t with output := t.output.claim c } : Table).Settled d := ht
      exact settled_markWrite hclaim
  | setMode c mode => exact settled_setMode (h d)
  | apply modes =>
      unfold perform apply
      exact List.foldlRecOn (motive := (Settled · d)) modes _ (h d)
        fun _ ht _ _ => settled_setMode ht
  | setBrightness c brightness => exact settled_setBrightness h
  | allOff =>
      unfold perform allOff
      exact List.foldlRecOn (motive := (Settled · d)) Channel.all _
        (h d) fun _ ht _ _ => settled_setMode ht
  | renderTick => exact settled_renderTick (h d)

/-! ## A table and its record -/

/-- What a table knows of the hardware is what is on record. -/
structure Exact (t : Table) : Prop where
  truthful : t.Truthful
  unsure : ∀ c, t.Unsure c
  settled : ∀ c, t.Settled c

theorem exact_newAt (admits : Nat → Channel → Bool)
    (admitsClaim : Channel → Bool) (forceEvery phase : UInt64) :
    (newAt (.untried admits admitsClaim) forceEvery phase).Exact where
  truthful :=
    let h := truthful_new (.untried admits admitsClaim) forceEvery
    ⟨h.bright, h.known⟩
  unsure _ _ := rfl
  settled c _ lit hw := by
    have hnode : (newAt (.untried admits admitsClaim) forceEvery phase).node c
        = Node.initial := by
      simp [newAt, Table.new, node, Bank.nodeOf, Bank.initial]
    rw [hnode] at hw
    cases hw

theorem Exact.performAll {t : Table} (h : t.Exact) (ops : List Operation) :
    (t.performAll ops).Exact where
  truthful := h.truthful.performAll ops
  unsure c := performAll_induction (P := fun t => t.Unsure c)
    (fun _ _ hdriven => unsure_driven hdriven) (fun _ h => h) (h.unsure c) ops
  settled := List.foldlRecOn (motive := fun t => ∀ c, Settled t c)
    ops _ h.settled fun _ ht op _ => settled_perform ht op

theorem Exact.written {t : Table} (h : t.Exact) (c : Channel) :
    (t.node c).written = t.output.shown? c :=
  written_eq_shown? h.truthful (h.unsure c)

/-! ## One tick -/

theorem node_render_of_ne (acc : Table × Nat) {c d : Channel} (h : c ≠ d) :
    (render acc c).1.node d = acc.1.node d := by
  unfold render
  split
  · rw [node_write, if_neg h]
  · rfl

theorem due_render_of_ne (acc : Table × Nat) {c d : Channel} (h : c ≠ d) :
    (render acc c).1.due d = acc.1.due d := by
  have hforced : (render acc c).1.forced = acc.1.forced := by
    unfold render
    split <;> rfl
  rw [due, due, hforced, node_render_of_ne acc h, phase_render]

/-- The attempt that a tick makes on a channel. -/
def rendering (t : Table) (c : Channel) (accepted : Bool) : Write :=
  ⟨c, (t.node c).value ((t.node c).mode.lit t.phase), accepted⟩

theorem rendering_render_of_ne (acc : Table × Nat) {c d : Channel}
    (h : c ≠ d) : (render acc c).1.rendering d = acc.1.rendering d := by
  funext accepted
  rw [rendering, rendering, node_render_of_ne acc h, phase_render]

theorem on_render (acc : Table × Nat) (c d : Channel) :
    (render acc c).1.output.on d
      = if c = d ∧ acc.1.due d = true then
          acc.1.rendering d (acc.1.output.accepts d) :: acc.1.output.on d
        else acc.1.output.on d := by
  unfold render
  by_cases hdue : acc.1.due c = true
  · rw [if_pos hdue]
    by_cases hcd : c = d
    · subst hcd
      rw [if_pos ⟨rfl, hdue⟩]
      exact (Output.on_write ..).trans (if_pos rfl)
    · rw [if_neg fun h => hcd h.1]
      exact (Output.on_write ..).trans (if_neg hcd)
  · rw [if_neg hdue, if_neg]
    rintro ⟨rfl, h⟩
    exact hdue h

/-- Rendering some channels, none of them twice, writes those of them that
are due. -/
theorem on_foldl_render {cs : List Channel} (hnd : cs.Nodup)
    (acc : Table × Nat) (d : Channel) :
    ∃ accepted, (cs.foldl render acc).1.output.on d
      = if d ∈ cs ∧ acc.1.due d = true then
          acc.1.rendering d accepted :: acc.1.output.on d
        else acc.1.output.on d := by
  induction cs generalizing acc with
  | nil => exact ⟨false, by simp⟩
  | cons c rest ih =>
      obtain ⟨hc, hrest⟩ := List.nodup_cons.mp hnd
      obtain ⟨accepted, hon⟩ := ih hrest (render acc c)
      rw [List.foldl_cons, hon, on_render]
      by_cases hcd : c = d
      · subst hcd
        exact ⟨acc.1.output.accepts c, by simp [hc]⟩
      · refine ⟨accepted, ?_⟩
        rw [due_render_of_ne acc hcd, rendering_render_of_ne acc hcd]
        simp [hcd, Ne.symm hcd]

/-- A tick attempts one write on each channel that is due and none on the
others. -/
theorem on_renderTick (t : Table) (c : Channel) :
    ∃ accepted, t.renderTick.1.output.on c
      = if t.due c = true then t.rendering c accepted :: t.output.on c
        else t.output.on c := by
  obtain ⟨accepted, hon⟩ :=
    on_foldl_render (by decide : Channel.all.Nodup) (t, 0) c
  refine ⟨accepted, ?_⟩
  rw [renderTick_eq, output_advance, hon]
  simp [Channel.mem_all]

theorem count_render (acc : Table × Nat) (c : Channel) :
    (render acc c).1.output.writes.length + acc.2
      = acc.1.output.writes.length + (render acc c).2 := by
  unfold render
  split
  · have hlength (lit : Bool) : (acc.1.write c lit).output.writes.length
        = acc.1.output.writes.length + 1 := rfl
    rw [hlength]
    omega
  · rfl

/-- The number that a tick reports is that of its attempts. -/
theorem count_renderTick (t : Table) :
    t.renderTick.1.output.writes.length
      = t.output.writes.length + t.renderTick.2 := by
  have hall : (Channel.all.foldl render (t, 0)).1.output.writes.length
      = t.output.writes.length + (Channel.all.foldl render (t, 0)).2 :=
    List.foldlRecOn (motive := fun acc => acc.1.output.writes.length
      = t.output.writes.length + acc.2) Channel.all render rfl
      fun acc hacc c _ => by
        have hstep := count_render acc c
        omega
  unfold renderTick
  generalize Channel.all.foldl render (t, 0) = acc at hall
  exact hall

theorem Exact.due_iff {t : Table} (h : t.Exact) (c : Channel) :
    t.due c = true ↔ t.forceEvery.toNat ∣ t.phase.toNat
      ∨ t.output.shown? c ≠ some ((t.node c).mode.lit t.phase) := by
  rw [due, Bool.or_eq_true, forced_iff, decide_eq_true_eq, h.written c]

/-- A tick leaves the channel lit or dark, unless the channel refuses the
write that asks for it. -/
def Renders (t : Table) (c : Channel) (lit : Bool) : Prop :=
  t.renderTick.1.output.shown? c = some lit
    ∨ t.renderTick.1.output.on c
      = ⟨c, (t.node c).value lit, false⟩ :: t.output.on c

theorem Exact.renders {t : Table} (h : t.Exact) (c : Channel) :
    t.Renders c ((t.node c).mode.lit t.phase) := by
  obtain ⟨accepted, hon⟩ := t.on_renderTick c
  by_cases hdue : t.due c = true
  · rw [if_pos hdue] at hon
    cases accepted with
    | false => exact Or.inr hon
    | true =>
        refine Or.inl ?_
        rw [Output.shown?, Output.last?_eq_head?, hon, List.head?_cons,
          Option.bind_some, rendering, h.truthful.value_bne_zero]
        rfl
  · rw [if_neg hdue] at hon
    refine Or.inl ?_
    rw [Output.shown?_congr hon, ← h.written c]
    exact shows_of_not_due (Bool.eq_false_iff.mpr hdue)

/-- A tick that is not forced leaves a steady channel alone, if the channel
took its latest write. -/
theorem Exact.on_renderTick_of_steady {t : Table} (h : t.Exact) {c : Channel}
    (hsteady : (t.node c).mode.flashes = false)
    (htook : t.output.shown? c ≠ none)
    (hunforced : ¬ t.forceEvery.toNat ∣ t.phase.toNat) :
    t.renderTick.1.output.on c = t.output.on c := by
  obtain ⟨lit, hlit⟩ := Option.ne_none_iff_exists'.mp htook
  obtain ⟨accepted, hon⟩ := t.on_renderTick c
  rw [hon, if_neg]
  rw [h.due_iff, not_or, Decidable.not_not]
  refine ⟨hunforced, ?_⟩
  rw [hlit, Mode.lit_of_steady hsteady t.phase 0,
    h.settled c hsteady lit ((h.written c).trans hlit)]

end Table

/-! ## Many ticks -/

/-- The operation asks nothing new of a channel in this mode: it neither
takes it over nor sets its brightness, and sets no other mode. -/
def Operation.Spares (c : Channel) (mode : Mode) : Operation → Prop
  | .init => False
  | .setMode d m => d = c → m = mode
  | .apply modes => ∀ e ∈ modes, e.1 = c → e.2 = mode
  | .setBrightness d _ => d ≠ c
  | .allOff => mode = .off
  | .renderTick => True

namespace Table

theorem on_write_of_ne (t : Table) {c d : Channel} (h : c ≠ d) (lit : Bool) :
    (t.write c lit).output.on d = t.output.on d :=
  (Output.on_write ..).trans (if_neg h)

theorem on_setMode (t : Table) {c d : Channel} {mode : Mode}
    (h : c = d → mode = (t.node d).mode) :
    (t.setMode c mode).output.on d = t.output.on d := by
  unfold setMode
  split
  · rfl
  · next hchanges =>
      have hne : c ≠ d := by
        rintro rfl
        exact hchanges (h rfl).symm
      cases mode with
      | off => exact on_write_of_ne _ hne false
      | on => exact on_write_of_ne _ hne true
      | slowFlash => rfl
      | fastFlash => rfl

/-- Modes that ask nothing new of a channel. -/
theorem spared_apply {modes : List (Channel × Mode)} {t : Table}
    {c : Channel} (h : ∀ e ∈ modes, e.1 = c → e.2 = (t.node c).mode) :
    (t.apply modes).output.on c = t.output.on c
      ∧ ((t.apply modes).node c).mode = (t.node c).mode := by
  induction modes generalizing t with
  | nil => exact ⟨rfl, rfl⟩
  | cons e rest ih =>
      obtain ⟨hfirst, hrest⟩ := List.forall_mem_cons.mp h
      have hmode : ((t.setMode e.1 e.2).node c).mode = (t.node c).mode := by
        rw [mode_setMode]
        split
        · next heq => exact hfirst heq
        · rfl
      obtain ⟨hon, hsame⟩ := ih (t := t.setMode e.1 e.2) (hmode ▸ hrest)
      exact ⟨hon.trans (t.on_setMode hfirst), hsame.trans hmode⟩

theorem on_setBrightness_of_ne (t : Table) {c d : Channel} (h : c ≠ d)
    (brightness : UInt8) :
    (t.setBrightness c brightness).output.on d = t.output.on d := by
  rw [setBrightness_eq]
  split
  · exact on_write_of_ne _ h true
  · rfl

variable {t : Table} {c : Channel}

/-- An operation that asks nothing new of a steady channel does not write it,
unless it is a forced tick. -/
theorem Exact.spared_perform (h : t.Exact)
    (hsteady : (t.node c).mode.flashes = false)
    (htook : t.output.shown? c ≠ none) {op : Operation}
    (hspares : op.Spares c (t.node c).mode)
    (hunforced : op = .renderTick → ¬ t.forceEvery.toNat ∣ t.phase.toNat) :
    (t.perform op).output.on c = t.output.on c
      ∧ ((t.perform op).node c).mode = (t.node c).mode := by
  cases op with
  | init => exact hspares.elim
  | setMode d mode =>
      have hmodes : ∀ e ∈ [(d, mode)], e.1 = c → e.2 = (t.node c).mode := by
        intro e he
        obtain rfl := List.mem_singleton.mp he
        exact hspares
      exact spared_apply hmodes
  | apply modes => exact spared_apply hspares
  | setBrightness d brightness =>
      exact ⟨t.on_setBrightness_of_ne hspares brightness,
        mode_setBrightness t d c brightness⟩
  | allOff =>
      have hoff : (t.node c).mode = .off := hspares
      rw [perform, allOff_eq]
      refine spared_apply fun e he _ => ?_
      obtain ⟨d, -, rfl⟩ := List.mem_map.mp he
      exact hoff.symm
  | renderTick =>
      rw [perform]
      exact ⟨h.on_renderTick_of_steady hsteady htook (hunforced rfl),
        mode_renderTick t c⟩

theorem Exact.spared_performAll (h : t.Exact)
    (hsteady : (t.node c).mode.flashes = false)
    (htook : t.output.shown? c ≠ none) {ops : List Operation}
    (hspares : ∀ op ∈ ops, op.Spares c (t.node c).mode)
    (hunforced : ∀ before after, ops = before ++ .renderTick :: after →
      ¬ t.forceEvery.toNat ∣ (t.performAll before).phase.toNat) :
    (t.performAll ops).output.on c = t.output.on c := by
  induction ops generalizing t with
  | nil => rfl
  | cons op ops ih =>
      obtain ⟨hfirst, hrest⟩ := List.forall_mem_cons.mp hspares
      obtain ⟨hon, hmode⟩ := h.spared_perform hsteady htook hfirst
        fun htick => hunforced [] ops (htick ▸ rfl)
      have hevery : (t.perform op).forceEvery = t.forceEvery :=
        t.forceEvery_performAll [op]
      rw [performAll_cons, ← hon]
      refine ih (t := t.perform op) (h.performAll [op]) (hmode ▸ hsteady)
        ?_ (hmode ▸ hrest) fun before after hops => ?_
      · rw [Output.shown?_congr hon]
        exact htook
      · rw [hevery]
        exact hunforced (op :: before) after (congrArg (op :: ·) hops)

theorem phase_performAll_of_no_tick {ops : List Operation}
    (h : .renderTick ∉ ops) : (t.performAll ops).phase = t.phase := by
  rw [← UInt64.toNat_inj, phase_performAll, List.count_eq_zero.mpr h,
    Nat.add_zero, Nat.mod_eq_of_lt t.phase.toNat_lt]

theorem round_pos (forceEvery : UInt64) : 0 < (max forceEvery 1).toNat := by
  show 0 < (if forceEvery ≤ 1 then 1 else forceEvery).toNat
  split
  · decide
  · next hmany =>
      have hlt := UInt64.lt_iff_toNat_lt.mp (UInt64.not_le.mp hmany)
      exact Nat.zero_lt_of_lt hlt

/-- What render ticks write, from any phase of the clock on, whatever the
table was asked for before and whichever writes were refused. A round is
`forceEvery` ticks, or one.

- A tick attempts one write on a channel if the phase is a multiple of the
  round or if the latest write on the channel did not leave it as the mode
  asks at this phase, and none otherwise; it reports the number of attempts.
- As many ticks in a row as a round has write every channel.
- Of two ticks in a row one renders a flashing channel lit and one dark.
- A steady channel that took its latest write is written by no tick that is
  not forced, and by nothing at all while nothing new is asked of it. -/
theorem rewrites_minimal (admits : Nat → Channel → Bool)
    (admitsClaim : Channel → Bool) (forceEvery phase : UInt64)
    (past : List Operation) :
    let t := (newAt (.untried admits admitsClaim) forceEvery phase).performAll
      past
    let round := (max forceEvery 1).toNat
    ((∀ c, ∃ accepted, t.renderTick.1.output.on c
        = if round ∣ t.phase.toNat
            ∨ t.output.shown? c ≠ some ((t.node c).mode.lit t.phase) then
            ⟨c, if (t.node c).mode.lit t.phase then (t.node c).brightness
              else 0, accepted⟩ :: t.output.on c
          else t.output.on c)
      ∧ t.renderTick.1.output.writes.length
        = t.output.writes.length + t.renderTick.2)
    ∧ (∀ ops : List Operation, ops.count .renderTick = round →
      ∃ before after, ops = before ++ .renderTick :: after
        ∧ ∀ c, ∃ w, (t.performAll (before ++ [.renderTick])).output.on c
          = w :: (t.performAll before).output.on c)
    ∧ (∀ (between : List Operation) (c : Channel), .renderTick ∉ between →
      (t.node c).mode.flashes = true →
      ((t.renderTick.1.performAll between).node c).mode.flashes = true →
      ∃ lit, t.Renders c lit
        ∧ (t.renderTick.1.performAll between).Renders c (!lit))
    ∧ (∀ c, (t.node c).mode.flashes = false → t.output.shown? c ≠ none →
      (¬ round ∣ t.phase.toNat →
        t.renderTick.1.output.on c = t.output.on c)
      ∧ ∀ ops : List Operation,
        (∀ op ∈ ops, op.Spares c (t.node c).mode) →
        (∀ before after, ops = before ++ .renderTick :: after →
          ¬ round ∣ (t.performAll before).phase.toNat) →
        (t.performAll ops).output.on c = t.output.on c) := by
  intro t round
  have ht : t.Exact :=
    (exact_newAt admits admitsClaim forceEvery phase).performAll past
  have hround : t.forceEvery.toNat = round :=
    congrArg UInt64.toNat (forceEvery_performAll _ past)
  have hpos : 0 < t.forceEvery.toNat := by
    rw [hround]
    exact round_pos forceEvery
  refine ⟨⟨fun c => ?_, t.count_renderTick⟩, fun ops hops => ?_,
    fun between c hnone hflash hflash' => ?_,
    fun c hsteady htook => ⟨fun hunforced => ?_, fun ops hspares hticks => ?_⟩⟩
  · obtain ⟨accepted, hon⟩ := t.on_renderTick c
    refine ⟨accepted, ?_⟩
    rw [hon]
    simp only [ht.due_iff, hround]
    rfl
  · obtain ⟨before, after, rfl, hforced⟩ :=
      exists_forced hpos (hops.trans hround.symm)
    refine ⟨before, after, rfl, fun c => ?_⟩
    obtain ⟨accepted, hon⟩ := (t.performAll before).on_renderTick c
    have hdue : (t.performAll before).due c = true := by
      rw [due, hforced, Bool.true_or]
    rw [if_pos hdue] at hon
    rw [performAll_concat, perform, hon]
    exact ⟨_, rfl⟩
  · have ht' := (ht.performAll [.renderTick]).performAll between
    have hphase : (t.renderTick.1.performAll between).phase = t.phase + 1 :=
      (phase_performAll_of_no_tick hnone).trans t.phase_renderTick
    have hsecond : (t.renderTick.1.performAll between).Renders c
        (((t.renderTick.1.performAll between).node c).mode.lit (t.phase + 1)) :=
      hphase ▸ ht'.renders c
    rw [Mode.lit_next hflash', Mode.lit_of_flashes hflash',
      ← Mode.lit_of_flashes hflash] at hsecond
    exact ⟨_, ht.renders c, hsecond⟩
  · refine ht.on_renderTick_of_steady hsteady htook ?_
    rwa [hround]
  · refine ht.spared_performAll hsteady htook hspares ?_
    rwa [hround]

/-- Two channels are switched on shortly before the clock wraps, one steady
and one flashing, and the write of the first is refused. -/
def beforeWrap : List Operation :=
  [.init, .setMode .lteRed .on, .setMode .wifiGreen .slowFlash, .renderTick,
    .renderTick]

/-- From the last phase before the wrap on, six ticks write every channel,
the flashing one turns over, and the steady one, written again since it was
refused, is left alone. -/
theorem rewrites_minimal_wrapped :
    let t := (newAt (.untried (fun n _ => n != 10) fun _ => true) 6
      18446744073709551613).performAll beforeWrap
    t.phase = 18446744073709551615
    ∧ (∃ before after,
      List.replicate 6 Operation.renderTick = before ++ .renderTick :: after
        ∧ ∀ c, ∃ w, (t.performAll (before ++ [.renderTick])).output.on c
          = w :: (t.performAll before).output.on c)
    ∧ (∃ lit, t.Renders .wifiGreen lit
        ∧ (t.renderTick.1.performAll [.setBrightness .lteRed 7]).Renders
          .wifiGreen (!lit))
    ∧ (t.performAll [.setMode .lteRed .on, .renderTick]).output.on .lteRed
        = t.output.on .lteRed := by
  intro t
  obtain ⟨-, hround, hturns, hquiet⟩ := rewrites_minimal (fun n _ => n != 10)
    (fun _ => true) 6 18446744073709551613 beforeWrap
  refine ⟨by decide +kernel, hround _ (by decide +kernel),
    hturns _ _ (by decide +kernel) (by decide +kernel) (by decide +kernel),
    (hquiet .lteRed (by decide +kernel) (by decide +kernel)).2 _
      (fun op hop => ?_) fun before after hops => ?_⟩
  · rcases List.mem_cons.mp hop with rfl | hop
    · have hon : (t.node .lteRed).mode = .on := by decide +kernel
      exact fun _ => hon.symm
    · rw [List.mem_singleton.mp hop]
      trivial
  · obtain ⟨rfl, rfl⟩ : before = [.setMode .lteRed .on] ∧ after = [] := by
      match before, hops with
      | [_], hops => simpa using hops.symm
      | _ :: _ :: _, hops => simp at hops
    decide +kernel

end Table

end Gateway.Led
