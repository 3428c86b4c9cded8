import Gateway.Proofs.Led.Alike
import Gateway.Proofs.Led.Belief

/-!
# The render clock

The clock moves with render ticks and with nothing else, and it wraps. Every
so many ticks all channels are written; that number need not divide the
number of phases, so the wrap cuts one such round short.

- **Elementary changes** (`Driven`): every operation is a chain of four
  kinds of change, and a tick then moves the clock. What these keep, every
  run of operations keeps (`performAll_induction`).
- **Phases** (`phase_performAll`): the phase counts the ticks, up to a
  multiple of the number of phases.
- **Rounds** (`exists_forced`): among as many ticks in a row as a round has,
  one is forced, since the phase after the wrap is a multiple of everything.
- **Flashing** (`lit_next`): the number of phases is even, so the wrap does
  not break the alternation.
-/

namespace Gateway.Led

/-! ## Modes -/

/-- Whether the mode is shown by turns lit and dark. -/
def Mode.flashes : Mode → Bool
  | .off | .on => false
  | .slowFlash | .fastFlash => true

theorem Mode.lit_of_steady {mode : Mode} (h : mode.flashes = false)
    (p q : UInt64) : mode.lit p = mode.lit q := by
  cases mode with
  | off => rfl
  | on => rfl
  | slowFlash => cases h
  | fastFlash => cases h

/-- All flashing channels are lit at the even phases. -/
theorem Mode.lit_of_flashes {mode : Mode} (h : mode.flashes = true)
    (p : UInt64) : mode.lit p = decide (p.toNat % 2 = 0) := by
  cases mode with
  | off => cases h
  | on => cases h
  | _ => simp [lit, ← UInt64.toNat_inj, Bool.beq_eq_decide_eq]

/-- From one phase to the next a flashing channel turns over. -/
theorem Mode.lit_next {mode : Mode} (h : mode.flashes = true) (p : UInt64) :
    mode.lit (p + 1) = !mode.lit p := by
  have hparity : (p + 1).toNat % 2 = (p.toNat + 1) % 2 := by
    rw [UInt64.toNat_add]
    simp only [UInt64.reduceToNat]
    omega
  rw [lit_of_flashes h, lit_of_flashes h, hparity, ← decide_not]
  exact decide_eq_decide.mpr (by omega)

namespace Table

/-! ## Elementary changes -/

/-- One table comes from the other by elementary changes, none of which
touches the clock. -/
inductive Driven (t : Table) : Table → Prop
  | refl : Driven t t
  | write {t' : Table} (h : Driven t t') (c : Channel) (lit : Bool) :
      Driven t (t'.write c lit)
  | mark {t' : Table} (h : Driven t t') (c : Channel) (mode : Mode) :
      Driven t (t'.mark c mode)
  | brighten {t' : Table} (h : Driven t t') (c : Channel)
      (brightness : UInt8) : Driven t (t'.brighten c brightness)
  | claim {t' : Table} (h : Driven t t') (c : Channel) :
      Driven t { t' with output := t'.output.claim c }

namespace Driven

variable {t t' : Table}

theorem setMode (h : Driven t t') (c : Channel) (mode : Mode) :
    Driven t (t'.setMode c mode) := by
  unfold Table.setMode
  split
  · exact h
  · cases mode with
    | off => exact (h.mark c .off).write c false
    | on => exact (h.mark c .on).write c true
    | slowFlash => exact h.mark c .slowFlash
    | fastFlash => exact h.mark c .fastFlash

theorem setBrightness (h : Driven t t') (c : Channel) (brightness : UInt8) :
    Driven t (t'.setBrightness c brightness) := by
  rw [setBrightness_eq]
  split
  · exact (h.brighten c brightness).write c true
  · exact h.brighten c brightness

theorem render {acc : Table × Nat} (h : Driven t acc.1) (c : Channel) :
    Driven t (Table.render acc c).1 := by
  unfold Table.render
  split
  · exact h.write c _
  · exact h

/-- An operation that is no tick. -/
theorem perform (h : Driven t t') {op : Operation} (hop : op ≠ .renderTick) :
    Driven t (t'.perform op) := by
  cases op with
  | init =>
      unfold Table.perform Table.init
      exact List.foldlRecOn Channel.all _ h fun t' h c _ =>
        ((h.claim c).mark c .off).write c false
  | setMode c mode => exact h.setMode c mode
  | apply modes =>
      unfold Table.perform Table.apply
      exact List.foldlRecOn modes _ h fun t' h e _ => h.setMode e.1 e.2
  | setBrightness c brightness => exact h.setBrightness c brightness
  | allOff =>
      unfold Table.perform Table.allOff
      exact List.foldlRecOn Channel.all _ h fun t' h c _ => h.setMode c .off
  | renderTick => exact absurd rfl hop

theorem foldl_render (h : Driven t t') (cs : List Channel) (n : Nat) :
    Driven t (cs.foldl Table.render (t', n)).1 :=
  List.foldlRecOn (motive := fun acc => Driven t acc.1) cs Table.render h
    fun _ h c _ => h.render c

theorem phase (h : Driven t t') : t'.phase = t.phase := by
  induction h with
  | refl => rfl
  | write _ _ _ ih => exact ih
  | mark _ _ _ ih => exact ih
  | brighten _ _ _ ih => exact ih
  | claim _ _ ih => exact ih

theorem forceEvery (h : Driven t t') : t'.forceEvery = t.forceEvery := by
  induction h with
  | refl => rfl
  | write _ _ _ ih => exact ih
  | mark _ _ _ ih => exact ih
  | brighten _ _ _ ih => exact ih
  | claim _ _ ih => exact ih

end Driven

/-- A tick drives the table and then moves its clock. -/
theorem driven_renderTick (t : Table) :
    ∃ t', Driven t t' ∧ t.renderTick.1 = t'.advance :=
  ⟨_, Driven.refl.foldl_render Channel.all 0, renderTick_eq t⟩

theorem performAll_cons (t : Table) (op : Operation) (ops : List Operation) :
    t.performAll (op :: ops) = (t.perform op).performAll ops := rfl

theorem performAll_concat (t : Table) (ops : List Operation)
    (op : Operation) :
    t.performAll (ops ++ [op]) = (t.performAll ops).perform op :=
  List.foldl_append.trans rfl

/-- What elementary changes and the clock keep, every operation keeps. -/
theorem performAll_induction {P : Table → Prop}
    (hdriven : ∀ t t', Driven t t' → P t → P t')
    (hadvance : ∀ t, P t → P t.advance) {t : Table} (h : P t)
    (ops : List Operation) : P (t.performAll ops) := by
  refine List.foldlRecOn ops _ h fun t ht op _ => ?_
  by_cases hop : op = .renderTick
  · subst hop
    obtain ⟨t', ht', htick⟩ := t.driven_renderTick
    rw [perform, htick]
    exact hadvance t' (hdriven t t' ht' ht)
  · exact hdriven t _ (Driven.refl.perform hop) ht

/-! ## Phases -/

theorem forceEvery_performAll (t : Table) (ops : List Operation) :
    (t.performAll ops).forceEvery = t.forceEvery :=
  performAll_induction (P := fun t' => t'.forceEvery = t.forceEvery)
    (fun _ _ hdriven h => hdriven.forceEvery.trans h) (fun _ h => h) rfl ops

theorem phase_renderTick (t : Table) :
    t.renderTick.1.phase = t.phase + 1 := by
  obtain ⟨t', ht', hadvance⟩ := t.driven_renderTick
  rw [hadvance, ← ht'.phase]
  rfl

theorem phase_perform {op : Operation} (h : op ≠ .renderTick) (t : Table) :
    (t.perform op).phase = t.phase := (Driven.refl.perform h).phase

/-- The phase counts the ticks. -/
theorem phase_performAll (t : Table) (ops : List Operation) :
    (t.performAll ops).phase.toNat
      = (t.phase.toNat + ops.count .renderTick) % UInt64.size := by
  induction ops generalizing t with
  | nil => exact (Nat.mod_eq_of_lt t.phase.toNat_lt).symm
  | cons op ops ih =>
      rw [performAll_cons, ih]
      by_cases hop : op = .renderTick
      · subst hop
        rw [perform, phase_renderTick, UInt64.toNat_add, List.count_cons_self]
        simp only [UInt64.reduceToNat, UInt64.size]
        omega
      · rw [phase_perform hop, List.count_cons_of_ne hop]

/-! ## Rounds -/

theorem forced_iff (t : Table) :
    t.forced = true ↔ t.forceEvery.toNat ∣ t.phase.toNat := by
  unfold forced
  rw [beq_iff_eq, ← UInt64.toNat_inj, UInt64.toNat_mod,
    Nat.dvd_iff_mod_eq_zero]
  rfl

/-- From any phase on, a multiple of the round's length comes within a round.
If the wrap comes before it, phase zero is the one. -/
theorem exists_multiple {period : Nat} (hpos : 0 < period) (phase : Nat)
    {phases : Nat} (h : phase < phases) :
    ∃ n < period, period ∣ (phase + n) % phases := by
  by_cases hwrap : phases ≤ phase + (period - 1)
  · refine ⟨phases - phase, by omega, ?_⟩
    rw [Nat.add_sub_cancel' (Nat.le_of_lt h), Nat.mod_self]
    exact Nat.dvd_zero period
  · have hsum : phase + (period - 1 - (phase + (period - 1)) % period)
        = period * ((phase + (period - 1)) / period) := by
      have hdiv := Nat.div_add_mod (phase + (period - 1)) period
      have hlt := Nat.mod_lt (phase + (period - 1)) hpos
      omega
    refine ⟨period - 1 - (phase + (period - 1)) % period, by omega, ?_⟩
    rw [Nat.mod_eq_of_lt (by omega), hsum]
    exact Nat.dvd_mul_right ..

/-- Of some ticks there is one that so many came before. -/
theorem exists_tick {ops : List Operation} {n : Nat}
    (h : n < ops.count .renderTick) :
    ∃ before after, ops = before ++ .renderTick :: after
      ∧ before.count .renderTick = n := by
  induction ops generalizing n with
  | nil => cases h
  | cons op ops ih =>
      by_cases hop : op = .renderTick
      · subst hop
        rw [List.count_cons_self] at h
        cases n with
        | zero => exact ⟨[], ops, rfl, rfl⟩
        | succ n =>
            obtain ⟨before, after, rfl, hcount⟩ := ih (n := n) (by omega)
            exact ⟨.renderTick :: before, after, rfl,
              by rw [List.count_cons_self, hcount]⟩
      · rw [List.count_cons_of_ne hop] at h
        obtain ⟨before, after, rfl, hcount⟩ := ih h
        exact ⟨op :: before, after, rfl,
          by rw [List.count_cons_of_ne hop, hcount]⟩

/-- Of as many ticks in a row as a round has, one is forced. -/
theorem exists_forced {t : Table} {ops : List Operation}
    (hpos : 0 < t.forceEvery.toNat)
    (h : ops.count .renderTick = t.forceEvery.toNat) :
    ∃ before after, ops = before ++ .renderTick :: after
      ∧ (t.performAll before).forced = true := by
  obtain ⟨n, hn, hdvd⟩ := exists_multiple hpos t.phase.toNat t.phase.toNat_lt
  obtain ⟨before, after, hops, hcount⟩ := exists_tick (h ▸ hn)
  refine ⟨before, after, hops, (forced_iff _).mpr ?_⟩
  rw [forceEvery_performAll, phase_performAll, hcount]
  exact hdvd

end Table

end Gateway.Led
