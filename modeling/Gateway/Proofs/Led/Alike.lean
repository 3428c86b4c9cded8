import Gateway.Proofs.Led.Table

/-!
# Two tables seen through one channel

Tables are alike on a channel if its node and the attempts to write it are
the same, and their outputs give all its writes one and the same answer
from now on. What is done to the channel on both keeps them alike
(`Alike.setMode`), and what is done to other channels on one of them does
not matter (`Alike.setMode_other`): a write moves the number of attempts
on, but a steady output does not ask for it.
-/

namespace Gateway.Led

namespace Output

/-- The attempts to write a channel, latest first. -/
def on (p : Output) (c : Channel) : List Write :=
  p.writes.filter (·.channel = c)

/-- The output gives all writes of the channel one answer from now on. -/
def Steady (p : Output) (c : Channel) (answer : Bool) : Prop :=
  ∀ n, p.attempts ≤ n → p.admits n c = answer

theorem Steady.accepts {p : Output} {c : Channel} {answer : Bool}
    (h : p.Steady c answer) : p.accepts c = answer :=
  h p.attempts (Nat.le_refl _)

theorem Steady.write {p : Output} {c : Channel} {answer : Bool}
    (h : p.Steady c answer) (d : Channel) (value : UInt8) :
    (p.write d value).Steady c answer := by
  intro n hn
  have hlater : p.attempts + 1 ≤ n := hn
  exact h n (by omega)

theorem on_write (p : Output) (c d : Channel) (value : UInt8) :
    (p.write c value).on d
      = if c = d then ⟨c, value, p.accepts c⟩ :: p.on d else p.on d := by
  by_cases hcd : c = d <;> simp [on, write, hcd]

end Output

namespace Table

/-- The tables cannot be told apart by a channel. -/
structure Alike (c : Channel) (t t' : Table) : Prop where
  node : t.node c = t'.node c
  writes : t.output.on c = t'.output.on c
  steady : ∃ answer, t.output.Steady c answer ∧ t'.output.Steady c answer

variable {t t' t'' : Table} {c : Channel}

theorem alike_self {answer : Bool} (h : t.output.Steady c answer) :
    Alike c t t := ⟨rfl, rfl, answer, h, h⟩

namespace Alike

theorem symm (h : Alike c t t') : Alike c t' t := by
  obtain ⟨answer, hsteady, hsteady'⟩ := h.steady
  exact ⟨h.node.symm, h.writes.symm, answer, hsteady', hsteady⟩

theorem trans (h : Alike c t t') (h' : Alike c t' t'') : Alike c t t'' := by
  obtain ⟨answer, hsteady, hmiddle⟩ := h.steady
  obtain ⟨answer', hmiddle', hsteady'⟩ := h'.steady
  obtain rfl : answer = answer' := hmiddle.accepts.symm.trans hmiddle'.accepts
  exact ⟨h.node.trans h'.node, h.writes.trans h'.writes, answer, hsteady,
    hsteady'⟩

theorem write (h : Alike c t t') (lit : Bool) :
    Alike c (t.write c lit) (t'.write c lit) := by
  obtain ⟨answer, hsteady, hsteady'⟩ := h.steady
  have hwrites : (t.output.write c (if lit then (t.node c).brightness else 0)).on c
      = (t'.output.write c (if lit then (t'.node c).brightness else 0)).on c := by
    rw [Output.on_write, Output.on_write, if_pos rfl, if_pos rfl,
      hsteady.accepts, hsteady'.accepts, h.node, h.writes]
  refine ⟨?_, hwrites, answer, hsteady.write _ _, hsteady'.write _ _⟩
  rw [node_write, node_write, if_pos rfl, if_pos rfl, hsteady.accepts,
    hsteady'.accepts, h.node]

theorem write_other (h : Alike c t t') {d : Channel} (hne : d ≠ c)
    (lit : Bool) : Alike c (t.write d lit) t' := by
  obtain ⟨answer, hsteady, hsteady'⟩ := h.steady
  have hwrites : (t.output.write d (if lit then (t.node d).brightness else 0)).on c
      = t'.output.on c := by
    rw [Output.on_write, if_neg hne, h.writes]
  refine ⟨?_, hwrites, answer, hsteady.write _ _, hsteady'⟩
  rw [node_write, if_neg hne, h.node]

theorem mark (h : Alike c t t') (mode : Mode) :
    Alike c (t.mark c mode) (t'.mark c mode) := by
  refine ⟨?_, h.writes, h.steady⟩
  rw [node_mark, node_mark, if_pos rfl, if_pos rfl, h.node]

theorem mark_other (h : Alike c t t') {d : Channel} (hne : d ≠ c)
    (mode : Mode) : Alike c (t.mark d mode) t' := by
  refine ⟨?_, h.writes, h.steady⟩
  rw [node_mark, if_neg hne, h.node]

theorem setMode (h : Alike c t t') (mode : Mode) :
    Alike c (t.setMode c mode) (t'.setMode c mode) := by
  unfold Table.setMode
  rw [← h.node]
  split
  · exact h
  · cases mode with
    | off => exact (h.mark .off).write false
    | on => exact (h.mark .on).write true
    | slowFlash => exact h.mark .slowFlash
    | fastFlash => exact h.mark .fastFlash

theorem setMode_other (h : Alike c t t') {d : Channel} (hne : d ≠ c)
    (mode : Mode) : Alike c (t.setMode d mode) t' := by
  unfold Table.setMode
  split
  · exact h
  · cases mode with
    | off => exact (h.mark_other hne .off).write_other hne false
    | on => exact (h.mark_other hne .on).write_other hne true
    | slowFlash => exact h.mark_other hne .slowFlash
    | fastFlash => exact h.mark_other hne .fastFlash

theorem apply (h : Alike c t t') (modes : List (Channel × Mode)) :
    Alike c (t.apply modes) (t'.apply modes) := by
  induction modes generalizing t t' with
  | nil => exact h
  | cons entry rest ih =>
      obtain ⟨d, mode⟩ := entry
      by_cases hd : d = c
      · subst hd
        exact ih (h.setMode mode)
      · exact ih ((h.setMode_other hd mode).symm.setMode_other hd mode).symm

theorem apply_other (h : Alike c t t') {modes : List (Channel × Mode)}
    (hmiss : ∀ e ∈ modes, e.1 ≠ c) : Alike c (t.apply modes) t' := by
  induction modes generalizing t with
  | nil => exact h
  | cons entry rest ih =>
      obtain ⟨hentry, hrest⟩ := List.forall_mem_cons.mp hmiss
      exact ih (h.setMode_other hentry entry.2) hrest

end Alike

/-- Modes that are all set already are not set again. -/
theorem apply_eq_self {modes : List (Channel × Mode)}
    (h : ∀ e ∈ modes, (t.node e.1).mode = e.2) : t.apply modes = t := by
  induction modes with
  | nil => rfl
  | cons entry rest ih =>
      obtain ⟨hentry, hrest⟩ := List.forall_mem_cons.mp h
      have hset : t.setMode entry.1 entry.2 = t := if_pos hentry
      show (t.setMode entry.1 entry.2).apply rest = t
      rw [hset, ih hrest]

end Table

end Gateway.Led
