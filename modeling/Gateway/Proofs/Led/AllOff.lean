import Gateway.Proofs.Led.Belief

/-!
# Switching everything off

Setting a mode writes nothing where the mode is set already. So switching
everything off darkens a channel for sure only if its mode is another one;
a channel whose mode is off keeps what it took last.

- **Modes and writes** (`WrittenOff`): once the channels were taken over,
  the latest attempt on a channel whose mode is off was to darken it. Only
  if that was refused, and not made up for since, can the channel be lit.
- **The end** (`delivered_allOff`): what each channel has taken when
  everything was switched off and no write of that was refused.
-/

namespace Gateway.Led

theorem Output.delivered?_write (p : Output) (c d : Channel) (value : UInt8) :
    (p.write c value).delivered? d
      = if c = d ∧ p.accepts c = true then some value else p.delivered? d := by
  by_cases hcd : c = d
  · subst hcd
    cases hacc : p.accepts c <;> simp [delivered?, write, hacc]
  · simp [delivered?, write, hcd]

namespace Table

/-! ## Modes and writes -/

/-- If the channel's mode is off, its latest write was to darken it. -/
def WrittenOff (t : Table) (c : Channel) : Prop :=
  (t.node c).mode = .off → ∃ accepted, t.output.last? c = some ⟨c, 0, accepted⟩

theorem writtenOff_write {t : Table} {c d : Channel} {lit : Bool}
    (hlit : (t.node c).mode = .off → lit = false)
    (h : c ≠ d → t.WrittenOff d) : (t.write c lit).WrittenOff d := by
  intro hmode
  rw [mode_write] at hmode
  have hlast : (t.write c lit).output.last? d
      = if c = d then some ⟨c, (t.node c).value lit, t.output.accepts c⟩
        else t.output.last? d := Output.last?_write ..
  rw [hlast]
  by_cases hcd : c = d
  · subst hcd
    rw [if_pos rfl, hlit hmode]
    exact ⟨_, rfl⟩
  · rw [if_neg hcd]
    exact h hcd hmode

theorem writtenOff_mark {t : Table} {c d : Channel} {mode : Mode}
    (h : mode = .off → c ≠ d) (hd : t.WrittenOff d) :
    (t.mark c mode).WrittenOff d := by
  intro hmode
  rw [mode_mark] at hmode
  split at hmode
  case isTrue hcd => exact absurd hcd (h hmode)
  case isFalse => exact hd hmode

theorem writtenOff_darken {t : Table} {c d : Channel}
    (h : c ≠ d → t.WrittenOff d) :
    ((t.mark c .off).write c false).WrittenOff d :=
  writtenOff_write (fun _ => rfl) fun hcd =>
    writtenOff_mark (fun _ => hcd) (h hcd)

theorem writtenOff_setMode {t : Table} {c d : Channel} {mode : Mode}
    (h : t.WrittenOff d) : (t.setMode c mode).WrittenOff d := by
  unfold setMode
  split
  · exact h
  · cases mode with
    | off => exact writtenOff_darken fun _ => h
    | on =>
        refine writtenOff_write (fun hmode => ?_) fun _ =>
          writtenOff_mark nofun h
        rw [mode_mark, if_pos rfl] at hmode
        cases hmode
    | slowFlash => exact writtenOff_mark nofun h
    | fastFlash => exact writtenOff_mark nofun h

theorem writtenOff_brighten {t : Table} {c d : Channel} {brightness : UInt8}
    (h : t.WrittenOff d) : (t.brighten c brightness).WrittenOff d := by
  intro hmode
  rw [mode_brighten] at hmode
  exact h hmode

/-- A channel that is believed lit has another mode. -/
theorem Truthful.mode_ne_off {t : Table} (ht : t.Truthful) {c : Channel}
    (hlit : (t.node c).written = some true) (h : t.WrittenOff c) :
    (t.node c).mode ≠ .off := by
  intro hmode
  obtain ⟨accepted, hlast⟩ := h hmode
  have hwrite := (ht.known c true hlit).symm.trans hlast
  have hzero : (t.node c).brightness = 0 := congrArg Write.value
    (Option.some.inj hwrite)
  have hbright := ht.bright c
  rw [hzero] at hbright
  exact absurd hbright (by decide)

theorem writtenOff_setBrightness {t : Table} (ht : t.Truthful)
    {c d : Channel} {brightness : UInt8} (h : ∀ c, t.WrittenOff c) :
    (t.setBrightness c brightness).WrittenOff d := by
  rw [setBrightness_eq]
  split
  case isTrue hlit =>
    -- the one write that lights a channel whatever its mode
    refine writtenOff_write (fun hmode => ?_) fun _ => writtenOff_brighten (h d)
    rw [mode_brighten] at hmode
    exact absurd hmode (ht.mode_ne_off hlit (h c))
  case isFalse => exact writtenOff_brighten (h d)

/-- Taking the channels over darkens them. -/
theorem writtenOff_foldl_init (cs : List Channel) {t : Table} {d : Channel}
    (h : d ∈ cs ∨ t.WrittenOff d) :
    (cs.foldl (fun t c =>
      ({ t with output := t.output.claim c }.mark c .off).write c false)
      t).WrittenOff d := by
  induction cs generalizing t with
  | nil => exact h.resolve_left List.not_mem_nil
  | cons c rest ih =>
      refine ih ?_
      by_cases hd : d ∈ rest
      · exact Or.inl hd
      · refine Or.inr (writtenOff_darken fun hcd => ?_)
        refine h.resolve_left fun hmem => ?_
        rcases List.mem_cons.mp hmem with heq | hrest
        · exact hcd heq.symm
        · exact hd hrest

theorem writtenOff_init (t : Table) (c : Channel) : t.init.WrittenOff c :=
  writtenOff_foldl_init Channel.all (Or.inl (Channel.mem_all c))

theorem writtenOff_render {acc : Table × Nat} {c d : Channel}
    (h : acc.1.WrittenOff d) : (render acc c).1.WrittenOff d := by
  unfold render
  split
  · refine writtenOff_write (fun hmode => ?_) fun _ => h
    rw [hmode]
    rfl
  · exact h

theorem writtenOff_foldl_render (cs : List Channel) {acc : Table × Nat}
    {d : Channel} (h : acc.1.WrittenOff d) :
    (cs.foldl render acc).1.WrittenOff d := by
  induction cs generalizing acc with
  | nil => exact h
  | cons c rest ih => exact ih (writtenOff_render h)

theorem writtenOff_advance {t : Table} {d : Channel} (h : t.WrittenOff d) :
    t.advance.WrittenOff d := h

theorem writtenOff_renderTick {t : Table} {d : Channel} (h : t.WrittenOff d) :
    t.renderTick.1.WrittenOff d := by
  rw [renderTick_eq]
  refine writtenOff_advance ?_
  exact writtenOff_foldl_render Channel.all h

theorem writtenOff_apply {t : Table} {d : Channel} (h : t.WrittenOff d)
    (modes : List (Channel × Mode)) : (t.apply modes).WrittenOff d := by
  induction modes generalizing t with
  | nil => exact h
  | cons entry rest ih => exact ih (writtenOff_setMode h)

/-- Switching everything off is to set the modes one after the other. -/
theorem allOff_eq (t : Table) :
    t.allOff = t.apply (Channel.all.map fun c => (c, .off)) := rfl

theorem writtenOff_perform {t : Table} (ht : t.Truthful)
    (h : ∀ c, t.WrittenOff c) (op : Operation) (c : Channel) :
    (t.perform op).WrittenOff c := by
  cases op with
  | init => exact writtenOff_init t c
  | setMode d mode => exact writtenOff_setMode (h c)
  | apply modes => exact writtenOff_apply (h c) modes
  | setBrightness d brightness => exact writtenOff_setBrightness ht h
  | allOff =>
      rw [perform, allOff_eq]
      exact writtenOff_apply (h c) _
  | renderTick => exact writtenOff_renderTick (h c)

theorem writtenOff_performAll {t : Table} (ht : t.Truthful)
    (h : ∀ c, t.WrittenOff c) (ops : List Operation) (c : Channel) :
    (t.performAll ops).WrittenOff c := by
  induction ops generalizing t with
  | nil => exact h c
  | cons op rest ih => exact ih (ht.perform op) (writtenOff_perform ht h op)

/-- A channel that is lit although its mode is off refused its latest
write. -/
theorem WrittenOff.refused {t : Table} {c : Channel} (h : t.WrittenOff c)
    (hmode : (t.node c).mode = .off) (hlit : t.output.delivered? c ≠ some 0) :
    t.output.last? c = some ⟨c, 0, false⟩ := by
  obtain ⟨accepted, hlast⟩ := h hmode
  cases accepted with
  | false => exact hlast
  | true => exact absurd (Output.delivered?_of_last? hlast) hlit

/-! ## The end -/

/-- Switching some channels off writes those whose mode is another one. -/
theorem apply_off_writes (cs : List Channel) (t : Table) :
    ∃ added, (t.apply (cs.map fun c => (c, .off))).output.writes
        = added ++ t.output.writes
      ∧ ((∀ w ∈ added, w.accepted = true) → ∀ d,
          (t.apply (cs.map fun c => (c, .off))).output.delivered? d
            = if d ∈ cs ∧ (t.node d).mode ≠ .off then some 0
              else t.output.delivered? d) := by
  induction cs generalizing t with
  | nil =>
      refine ⟨[], rfl, fun _ d => ?_⟩
      simp [apply]
  | cons c rest ih =>
      have hstep : t.apply ((c :: rest).map fun c => (c, .off))
          = (t.setMode c .off).apply (rest.map fun c => (c, .off)) := rfl
      obtain ⟨later, hlater, hdark⟩ := ih (t.setMode c .off)
      rw [hstep]
      by_cases hmode : (t.node c).mode = .off
      · have hskip : t.setMode c .off = t := if_pos hmode
        rw [hskip] at hlater hdark ⊢
        refine ⟨later, hlater, fun hacc d => ?_⟩
        rw [hdark hacc d]
        by_cases hd : d = c
        · simp [hd, hmode]
        · simp [hd]
      · have hwrite : (t.setMode c .off).output = t.output.write c 0 := by
          rw [setMode, if_neg hmode]
          rfl
        rw [hwrite] at hlater
        refine ⟨later ++ [⟨c, 0, t.output.accepts c⟩], ?_, fun hacc d => ?_⟩
        · rw [hlater, List.append_assoc]
          rfl
        · have hfirst : t.output.accepts c = true := hacc
            ⟨c, 0, t.output.accepts c⟩ (by simp)
          rw [hdark (fun w hw => hacc w (List.mem_append_left _ hw)) d,
            mode_setMode, hwrite, Output.delivered?_write]
          by_cases hd : c = d
          · subst hd
            simp [hmode, hfirst]
          · simp [hd, Ne.symm hd]

/-- When everything was switched off without a refusal, a channel is dark
if its mode was not off, and otherwise keeps what it had taken. -/
theorem delivered_allOff (t : Table) :
    ∃ added, t.allOff.output.writes = added ++ t.output.writes
      ∧ ((∀ w ∈ added, w.accepted = true) → ∀ c,
          t.allOff.output.delivered? c
            = if (t.node c).mode = .off then t.output.delivered? c
              else some 0) := by
  obtain ⟨added, hadded, hdark⟩ := apply_off_writes Channel.all t
  rw [allOff_eq]
  refine ⟨added, hadded, fun hacc c => ?_⟩
  rw [hdark hacc c]
  by_cases hmode : (t.node c).mode = .off
  · simp [hmode]
  · simp [hmode, Channel.mem_all]

end Table

end Gateway.Led
