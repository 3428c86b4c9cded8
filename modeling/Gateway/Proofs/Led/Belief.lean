import Gateway.Proofs.Led.Table

/-!
# What the table believes of the hardware

A node's `written` is the table's belief about its LED. This file shows
that the belief is never wrong, whichever writes the output refuses:

- **one channel** (`Known`): if a node is believed lit or dark, the
  latest attempt on its channel was accepted and carried the value that
  goes with that at the present brightness;
- **every operation keeps it** (`Truthful.perform`), also those that
  change a mode or a brightness without writing: a mode does not enter
  the value, and a new brightness does so only for a lit channel, which
  is then written at once;
- **a tick without refusals shows the truth** (`Truthful.delivered_renderTick`):
  it writes what is not believed right already, so afterwards the last
  value taken by each channel is the one its mode asks for.
-/

namespace Gateway.Led

/-- The value that goes with a lit or a dark channel. -/
def Node.value (n : Node) (lit : Bool) : UInt8 := if lit then n.brightness else 0

/-! ## Operations -/

/-- What can be asked of the table. -/
inductive Operation where
  | init
  | setMode (channel : Channel) (mode : Mode)
  | apply (modes : List (Channel × Mode))
  | setBrightness (channel : Channel) (brightness : UInt8)
  | allOff
  | renderTick
deriving DecidableEq, Repr

namespace Table

/-- The table after one operation. -/
def perform (t : Table) : Operation → Table
  | .init => t.init
  | .setMode c mode => t.setMode c mode
  | .apply modes => t.apply modes
  | .setBrightness c brightness => t.setBrightness c brightness
  | .allOff => t.allOff
  | .renderTick => t.renderTick.1

/-- The table after some operations in order. -/
def performAll (t : Table) (ops : List Operation) : Table := ops.foldl perform t

/-! ## The belief about one channel -/

/-- What is believed of a channel is what its latest write attempt left. -/
def Known (t : Table) (c : Channel) : Prop :=
  ∀ lit, (t.node c).written = some lit →
    t.output.last? c = some ⟨c, (t.node c).value lit, true⟩

/-- A write leaves its own channel known, whatever was believed before:
a refusal makes the node forget. -/
theorem known_write_self (t : Table) (c : Channel) (lit : Bool) :
    (t.write c lit).Known c := by
  intro lit' h
  rw [node_write, if_pos rfl] at h ⊢
  have hrecord : (t.write c lit).output.last? c
      = some ⟨c, (t.node c).value lit, t.output.accepts c⟩ :=
    (Output.last?_write ..).trans (if_pos rfl)
  rw [hrecord]
  cases hacc : t.output.accepts c with
  | false => simp [hacc] at h
  | true =>
      obtain rfl : lit = lit' := by simpa [hacc] using h
      rfl

/-- A write leaves what is known of the other channels. -/
theorem known_write {t : Table} {c d : Channel} {lit : Bool}
    (h : c ≠ d → t.Known d) : (t.write c lit).Known d := by
  by_cases hcd : c = d
  · subst hcd
    exact known_write_self t c lit
  · intro lit' hw
    rw [node_write, if_neg hcd] at hw ⊢
    have hrecord : (t.write c lit).output.last? d = t.output.last? d :=
      (Output.last?_write ..).trans (if_neg hcd)
    rw [hrecord]
    exact h hcd lit' hw

/-- A mode does not enter the value that a belief goes with. -/
theorem known_mark {t : Table} {c d : Channel} {mode : Mode}
    (h : t.Known d) : (t.mark c mode).Known d := by
  intro lit hw
  rw [node_mark] at hw ⊢
  rw [output_mark]
  split at hw
  · rename_i hcd
    subst hcd
    rw [if_pos rfl]
    exact h lit hw
  · rename_i hcd
    rw [if_neg hcd]
    exact h lit hw

theorem known_brighten_of_ne {t : Table} {c d : Channel} {brightness : UInt8}
    (hcd : c ≠ d) (h : t.Known d) : (t.brighten c brightness).Known d := by
  intro lit hw
  rw [node_brighten, if_neg hcd] at hw ⊢
  exact h lit hw

/-- A new brightness contradicts only the belief that the channel is lit. -/
theorem known_brighten_of_not_lit {t : Table} {c : Channel}
    {brightness : UInt8} (hdark : (t.node c).written ≠ some true)
    (h : t.Known c) : (t.brighten c brightness).Known c := by
  intro lit hw
  rw [node_brighten, if_pos rfl] at hw ⊢
  cases lit with
  | true => exact absurd hw hdark
  | false => exact h false hw

/-! ## The whole table -/

/-- No channel's brightness is zero, and everything believed is so. -/
structure Truthful (t : Table) : Prop where
  bright : ∀ c, 1 ≤ (t.node c).brightness
  known : ∀ c, t.Known c

theorem truthful_new (output : Output) (forceEvery : UInt64) :
    (Table.new output forceEvery).Truthful := by
  have hnode : ∀ c, (Table.new output forceEvery).node c = Node.initial := by
    intro c
    simp [Table.new, node, Bank.nodeOf, Bank.initial]
  refine ⟨fun c => ?_, fun c lit hw => ?_⟩
  · rw [hnode]
    decide
  · rw [hnode] at hw
    cases hw

theorem Truthful.write {t : Table} (h : t.Truthful) (c : Channel)
    (lit : Bool) : (t.write c lit).Truthful where
  bright d := by
    rw [node_write]
    split
    · exact h.bright c
    · exact h.bright d
  known _ := known_write fun _ => h.known _

theorem Truthful.mark {t : Table} (h : t.Truthful) (c : Channel)
    (mode : Mode) : (t.mark c mode).Truthful where
  bright d := by
    rw [node_mark]
    split
    · exact h.bright c
    · exact h.bright d
  known _ := known_mark (h.known _)

theorem Truthful.setMode {t : Table} (h : t.Truthful) (c : Channel)
    (mode : Mode) : (t.setMode c mode).Truthful := by
  unfold Table.setMode
  split
  · exact h
  · cases mode with
    | off => exact (h.mark c .off).write c false
    | on => exact (h.mark c .on).write c true
    | slowFlash => exact h.mark c .slowFlash
    | fastFlash => exact h.mark c .fastFlash

theorem bright_brighten {t : Table} (h : t.Truthful) (c d : Channel)
    (brightness : UInt8) : 1 ≤ ((t.brighten c brightness).node d).brightness := by
  rw [node_brighten]
  split
  · show 1 ≤ if brightness ≤ 1 then 1 else brightness
    split
    · exact UInt8.le_refl 1
    · rename_i hlt
      exact UInt8.le_of_lt (UInt8.not_le.mp hlt)
  · exact h.bright d

theorem Truthful.setBrightness {t : Table} (h : t.Truthful) (c : Channel)
    (brightness : UInt8) : (t.setBrightness c brightness).Truthful := by
  rw [setBrightness_eq]
  split
  · -- known to be lit: the write repairs what the new brightness broke
    refine ⟨fun d => ?_, fun d => ?_⟩
    · rw [node_write]
      split
      · exact bright_brighten h c c brightness
      · exact bright_brighten h c d brightness
    · exact known_write fun hcd => known_brighten_of_ne hcd (h.known d)
  · rename_i hdark
    refine ⟨fun d => bright_brighten h c d brightness, fun d => ?_⟩
    by_cases hcd : c = d
    · subst hcd
      exact known_brighten_of_not_lit hdark (h.known c)
    · exact known_brighten_of_ne hcd (h.known d)

theorem Truthful.claim {t : Table} (h : t.Truthful) (c : Channel) :
    ({ t with output := t.output.claim c } : Table).Truthful :=
  ⟨h.bright, h.known⟩

theorem Truthful.render {acc : Table × Nat} (h : acc.1.Truthful)
    (c : Channel) : (Table.render acc c).1.Truthful := by
  unfold Table.render
  split
  · exact h.write c _
  · exact h

theorem Truthful.advance {t : Table} (h : t.Truthful) :
    t.advance.Truthful := ⟨h.bright, h.known⟩

theorem Truthful.renderTick {t : Table} (h : t.Truthful) :
    t.renderTick.1.Truthful := by
  have hall : (Channel.all.foldl Table.render (t, 0)).1.Truthful :=
    List.foldlRecOn (motive := fun acc => acc.1.Truthful) Channel.all
      Table.render h fun acc hacc c _ => hacc.render c
  rw [renderTick_eq]
  exact hall.advance

/-- Every operation keeps the table truthful. -/
theorem Truthful.perform {t : Table} (h : t.Truthful) (op : Operation) :
    (t.perform op).Truthful := by
  cases op with
  | init =>
      unfold Table.perform Table.init
      exact List.foldlRecOn Channel.all _ h fun t ht c _ =>
        ((ht.claim c).mark c .off).write c false
  | setMode c mode => exact h.setMode c mode
  | apply modes =>
      unfold Table.perform Table.apply
      exact List.foldlRecOn modes _ h fun t ht entry _ =>
        ht.setMode entry.1 entry.2
  | setBrightness c brightness => exact h.setBrightness c brightness
  | allOff =>
      unfold Table.perform Table.allOff
      exact List.foldlRecOn Channel.all _ h fun t ht c _ => ht.setMode c .off
  | renderTick => exact h.renderTick

/-- A run of operations keeps the table truthful. -/
theorem Truthful.performAll {t : Table} (h : t.Truthful)
    (ops : List Operation) : (t.performAll ops).Truthful :=
  List.foldlRecOn ops _ h fun _ ht op _ => ht.perform op

/-! ## After a tick -/

/-- A tick that is refused no write leaves in every channel the value
that the channel's mode asks for at the tick's phase. -/
theorem Truthful.delivered_renderTick {t : Table} (h : t.Truthful) :
    ∃ added, t.renderTick.1.output.writes = added ++ t.output.writes
      ∧ ((∀ w ∈ added, w.accepted = true) → ∀ c,
          t.renderTick.1.output.delivered? c
            = some ((t.node c).value ((t.node c).mode.lit t.phase))) := by
  obtain ⟨added, hadded, hshown⟩ := t.renderTick_writes
  refine ⟨added, hadded, fun hacc c => ?_⟩
  have hlast := h.renderTick.known c _ (hshown hacc c)
  rw [Node.value, brightness_renderTick] at hlast
  exact Output.delivered?_of_last? hlast

/-! ## From a new table on -/

/-- Whatever is asked of a new table and whichever writes its output
refuses: no brightness is zero, and a channel believed lit or dark
accepted its latest write, which carried the value for that at the
present brightness. So a tick whose own writes are all accepted leaves
every channel at the value that its mode asks for, whatever failed
before. -/
theorem belief_exact (output : Output) (forceEvery : UInt64)
    (ops : List Operation) :
    let t := (Table.new output forceEvery).performAll ops
    (∀ c, 1 ≤ (t.node c).brightness
      ∧ ∀ lit, (t.node c).written = some lit → t.output.last? c
          = some ⟨c, if lit then (t.node c).brightness else 0, true⟩)
    ∧ ∃ added, t.renderTick.1.output.writes = added ++ t.output.writes
      ∧ ((∀ w ∈ added, w.accepted = true) → ∀ c,
          t.renderTick.1.output.delivered? c
            = some (if (t.node c).mode.lit t.phase then (t.node c).brightness
                else 0)) := by
  intro t
  have ht : t.Truthful := (truthful_new output forceEvery).performAll ops
  exact ⟨fun c => ⟨ht.bright c, ht.known c⟩, ht.delivered_renderTick⟩

/-- An output that refuses only the very first write. -/
def refusingFirst : Output := ⟨fun n _ => n != 0, fun _ => true, 0, [], []⟩

/-- The switching on of a channel is refused; the next tick makes up for
it. -/
theorem belief_exact_refusingFirst :
    let t := (Table.new refusingFirst 6).performAll [.setMode .lteRed .on]
    (t.node .lteRed).written = none
      ∧ t.renderTick.1.output.delivered? .lteRed = some 1 := by
  obtain ⟨-, added, hadded, h⟩ :=
    belief_exact refusingFirst 6 [.setMode .lteRed .on]
  have hwrites : added = Channel.all.reverse.map fun c =>
      ⟨c, if c = .lteRed then 1 else 0, true⟩ :=
    List.append_cancel_right (hadded.symm.trans (by decide +kernel))
  have haccepted : ∀ w ∈ added, w.accepted = true := by
    rw [hwrites]
    decide
  exact ⟨by decide, h haccepted .lteRed⟩

end Table

end Gateway.Led
