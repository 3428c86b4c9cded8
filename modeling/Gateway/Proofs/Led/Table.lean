import Gateway.Led.Table

/-!
# What the table's operations do

Each operation on the LED table, seen through three views: a channel's
node, the record of attempted writes, and the render clock. Everything
above cites these lemmas and does not open the operations again.

- **Modes** (`mode_setMode`, `mode_apply`, `mode_allOff`, `mode_init`):
  setting a mode touches one channel; a list of modes with no channel
  twice gives every channel it names the mode that it lists. Writing,
  brightness and render ticks leave all modes alone.
- **Writes** (`renderTick_writes`): a tick only adds to the record, and
  where it adds no refusal every channel is afterwards known to show
  what its mode asks for at that phase.
-/

namespace Gateway.Led

/-! ## The record of an output

The attempts are recorded latest first, so a search from the front finds
the latest one. -/

namespace Output

/-- The latest attempt to write a channel. -/
def last? (p : Output) (c : Channel) : Option Write :=
  p.writes.find? (·.channel = c)

/-- The value that a channel took last. -/
def delivered? (p : Output) (c : Channel) : Option UInt8 :=
  (p.writes.find? fun w => w.channel = c ∧ w.accepted).map (·.value)

theorem last?_write (p : Output) (c d : Channel) (value : UInt8) :
    (p.write c value).last? d
      = if c = d then some ⟨c, value, p.accepts c⟩ else p.last? d := by
  by_cases h : c = d <;> simp [last?, write, h]

@[simp] theorem last?_claim (p : Output) (c d : Channel) :
    (p.claim c).last? d = p.last? d := rfl

/-- An accepted latest attempt is what the channel took. -/
theorem delivered?_of_last? {p : Output} {c : Channel} {value : UInt8}
    (h : p.last? c = some ⟨c, value, true⟩) : p.delivered? c = some value := by
  obtain ⟨hc, earlier, later, hw, hearlier⟩ := List.find?_eq_some_iff_append.mp h
  have hmiss : ∀ w ∈ earlier, ¬ (w.channel = c ∧ w.accepted = true) := by
    intro w hw' hboth
    simpa [hboth.1] using hearlier w hw'
  have hskip : earlier.find? (fun w => w.channel = c ∧ w.accepted) = none := by
    simpa using hmiss
  rw [delivered?, hw, List.find?_append, hskip]
  simp

end Output

namespace Table

/-! ## Nodes -/

@[simp] theorem node_write (t : Table) (c d : Channel) (lit : Bool) :
    (t.write c lit).node d
      = if c = d then
          { t.node c with written := if t.output.accepts c then some lit else none }
        else t.node d :=
  Bank.nodeOf_put t.nodes c d _

@[simp] theorem node_mark (t : Table) (c d : Channel) (mode : Mode) :
    (t.mark c mode).node d
      = if c = d then { t.node c with mode } else t.node d :=
  Bank.nodeOf_put t.nodes c d _

@[simp] theorem output_mark (t : Table) (c : Channel) (mode : Mode) :
    (t.mark c mode).output = t.output := rfl

/-- Notes a channel's brightness without writing: `setBrightness` before
it decides whether to write. -/
def brighten (t : Table) (c : Channel) (brightness : UInt8) : Table :=
  let n := t.node c
  { t with nodes := t.nodes.put c { n with brightness := max brightness 1 } }

theorem setBrightness_eq (t : Table) (c : Channel) (brightness : UInt8) :
    t.setBrightness c brightness
      = if (t.node c).written = some true then
          (t.brighten c brightness).write c true
        else t.brighten c brightness := rfl

@[simp] theorem node_brighten (t : Table) (c d : Channel) (brightness : UInt8) :
    (t.brighten c brightness).node d
      = if c = d then { t.node c with brightness := max brightness 1 }
        else t.node d :=
  Bank.nodeOf_put t.nodes c d _

/-! ## Modes -/

theorem mode_write (t : Table) (c d : Channel) (lit : Bool) :
    ((t.write c lit).node d).mode = (t.node d).mode := by
  rw [node_write]
  split
  · rename_i h
    rw [h]
  · rfl

theorem mode_mark (t : Table) (c d : Channel) (mode : Mode) :
    ((t.mark c mode).node d).mode
      = if c = d then mode else (t.node d).mode := by
  rw [node_mark]
  split <;> rfl

/-- Setting a mode sets that channel's mode and no other. -/
theorem mode_setMode (t : Table) (c d : Channel) (mode : Mode) :
    ((t.setMode c mode).node d).mode
      = if c = d then mode else (t.node d).mode := by
  unfold setMode
  split
  · rename_i hsame
    split
    · rename_i h
      rw [← h, hsame]
    · rfl
  · cases mode <;> simp only [mode_write, mode_mark]

/-- A list of modes with no channel twice gives every channel that it
names the mode it lists, and leaves the others. -/
theorem mode_apply {modes : List (Channel × Mode)}
    (hnd : (modes.map (·.1)).Nodup) (t : Table) (d : Channel) :
    ((t.apply modes).node d).mode
      = (modes.lookup d).getD (t.node d).mode := by
  induction modes generalizing t with
  | nil => rfl
  | cons entry rest ih =>
      obtain ⟨c, mode⟩ := entry
      rw [List.map_cons, List.nodup_cons] at hnd
      have hstep : t.apply ((c, mode) :: rest)
          = (t.setMode c mode).apply rest := rfl
      rw [hstep, ih hnd.2, mode_setMode]
      by_cases h : c = d
      · subst h
        have hmiss : rest.lookup c = none :=
          List.lookup_eq_none_iff.mpr fun e he => by
            have hne : c ≠ e.1 := fun heq =>
              hnd.1 (List.mem_map.mpr ⟨e, he, heq.symm⟩)
            simpa using hne
        simp [hmiss]
      · have hne : (d == c) = false := beq_eq_false_iff_ne.mpr (Ne.symm h)
        rw [if_neg h, List.lookup_cons, hne]

/-- Steps that each switch one channel off switch off just the channels
they are taken for. -/
theorem mode_foldl_off {step : Table → Channel → Table}
    (hstep : ∀ t c d, ((step t c).node d).mode
      = if c = d then .off else (t.node d).mode)
    (cs : List Channel) (t : Table) (d : Channel) :
    ((cs.foldl step t).node d).mode
      = if d ∈ cs then .off else (t.node d).mode := by
  induction cs generalizing t with
  | nil => simp
  | cons c rest ih =>
      rw [List.foldl_cons, ih, hstep]
      by_cases hd : d ∈ rest
      · simp [hd]
      · by_cases hc : c = d
        · simp [hc]
        · simp [hd, hc, Ne.symm hc]

theorem mode_allOff (t : Table) (d : Channel) :
    (t.allOff.node d).mode = .off := by
  have h := mode_foldl_off (fun t c d => mode_setMode t c d .off)
    Channel.all t d
  rwa [if_pos (Channel.mem_all d)] at h

theorem mode_init (t : Table) (d : Channel) :
    (t.init.node d).mode = .off := by
  have hstep : ∀ (t : Table) (c d : Channel),
      ((({ t with output := t.output.claim c }.mark c .off).write c
        false).node d).mode = if c = d then .off else (t.node d).mode := by
    intro t c d
    rw [mode_write, mode_mark]
    rfl
  have h := mode_foldl_off hstep Channel.all t d
  rwa [if_pos (Channel.mem_all d)] at h

theorem mode_brighten (t : Table) (c d : Channel) (brightness : UInt8) :
    ((t.brighten c brightness).node d).mode = (t.node d).mode := by
  rw [node_brighten]
  split
  · rename_i h
    rw [h]
  · rfl

theorem mode_setBrightness (t : Table) (c d : Channel) (brightness : UInt8) :
    ((t.setBrightness c brightness).node d).mode = (t.node d).mode := by
  rw [setBrightness_eq]
  split
  · rw [mode_write, mode_brighten]
  · exact mode_brighten t c d brightness

/-! ## Render ticks -/

/-- The channel is known to show what its mode asks for at this phase. -/
def Shows (t : Table) (c : Channel) : Prop :=
  (t.node c).written = some ((t.node c).mode.lit t.phase)

theorem Shows.write {t : Table} {c d : Channel}
    (hacc : t.output.accepts c = true) (h : c = d ∨ t.Shows d) :
    (t.write c ((t.node c).mode.lit t.phase)).Shows d := by
  have hphase : (t.write c ((t.node c).mode.lit t.phase)).phase = t.phase :=
    rfl
  simp only [Shows, node_write, hacc, if_true, hphase]
  by_cases hcd : c = d
  · simp [hcd]
  · rw [if_neg hcd]
    exact h.resolve_left hcd

theorem shows_of_not_due {t : Table} {c : Channel} (h : t.due c = false) :
    t.Shows c := by
  simp only [due, Bool.or_eq_false_iff, decide_eq_false_iff_not] at h
  unfold Shows
  exact Decidable.not_not.mp h.2

/-- Rendering a channel replaces nothing but what is known of it. -/
theorem node_render (acc : Table × Nat) (c d : Channel) :
    ∃ written, (render acc c).1.node d = { acc.1.node d with written } := by
  unfold render
  split
  · rw [node_write]
    split
    · rename_i h
      exact ⟨_, by rw [h]⟩
    · exact ⟨_, rfl⟩
  · exact ⟨_, rfl⟩

theorem phase_render (acc : Table × Nat) (c : Channel) :
    (render acc c).1.phase = acc.1.phase := by
  unfold render
  split <;> rfl

theorem node_foldl_render (cs : List Channel) (acc : Table × Nat)
    (d : Channel) : ∃ written,
      (cs.foldl render acc).1.node d = { acc.1.node d with written } := by
  induction cs generalizing acc with
  | nil => exact ⟨_, rfl⟩
  | cons c rest ih =>
      obtain ⟨later, hlater⟩ := ih (render acc c)
      obtain ⟨first, hfirst⟩ := node_render acc c d
      exact ⟨later, by rw [List.foldl_cons, hlater, hfirst]⟩

theorem phase_foldl_render (cs : List Channel) (acc : Table × Nat) :
    (cs.foldl render acc).1.phase = acc.1.phase := by
  induction cs generalizing acc with
  | nil => rfl
  | cons c rest ih => rw [List.foldl_cons, ih, phase_render]

/-- The table with its clock moved on. -/
def advance (t : Table) : Table := { t with phase := t.phase + 1 }

@[simp] theorem node_advance (t : Table) (d : Channel) :
    t.advance.node d = t.node d := rfl

@[simp] theorem output_advance (t : Table) : t.advance.output = t.output := rfl

/-- A tick renders the channels one by one and then moves the clock. -/
theorem renderTick_eq (t : Table) :
    t.renderTick.1 = (Channel.all.foldl render (t, 0)).1.advance := by
  unfold renderTick
  generalize Channel.all.foldl render (t, 0) = acc
  rfl

/-- A tick changes no mode and no brightness. -/
theorem node_renderTick (t : Table) (d : Channel) :
    ∃ written, t.renderTick.1.node d = { t.node d with written } := by
  rw [renderTick_eq, node_advance]
  exact node_foldl_render Channel.all (t, 0) d

theorem mode_renderTick (t : Table) (d : Channel) :
    (t.renderTick.1.node d).mode = (t.node d).mode := by
  obtain ⟨written, h⟩ := node_renderTick t d
  rw [h]

theorem brightness_renderTick (t : Table) (d : Channel) :
    (t.renderTick.1.node d).brightness = (t.node d).brightness := by
  obtain ⟨written, h⟩ := node_renderTick t d
  rw [h]

/-- Rendering one channel adds at most its own attempt to the record.
Unless that is refused, the channel is known to show its mode, and no
other channel loses that. -/
theorem render_writes (acc : Table × Nat) (c : Channel) :
    ∃ added, (render acc c).1.output.writes = added ++ acc.1.output.writes
      ∧ ((∀ w ∈ added, w.accepted = true) →
          ∀ d, c = d ∨ acc.1.Shows d → (render acc c).1.Shows d) := by
  unfold render
  split
  · refine ⟨[_], rfl, fun hacc d hd => ?_⟩
    exact Shows.write (hacc _ (List.mem_singleton.mpr rfl)) hd
  · rename_i hdue
    refine ⟨[], rfl, fun _ d hd => ?_⟩
    rcases hd with rfl | hd
    · exact shows_of_not_due (Bool.eq_false_iff.mpr hdue)
    · exact hd

theorem foldl_render_writes (cs : List Channel) (acc : Table × Nat) :
    ∃ added,
      (cs.foldl render acc).1.output.writes = added ++ acc.1.output.writes
      ∧ ((∀ w ∈ added, w.accepted = true) →
          ∀ d, d ∈ cs ∨ acc.1.Shows d → (cs.foldl render acc).1.Shows d) := by
  induction cs generalizing acc with
  | nil => exact ⟨[], rfl, fun _ d hd => by simpa using hd⟩
  | cons c rest ih =>
      obtain ⟨later, hlater, hshows⟩ := ih (render acc c)
      obtain ⟨first, hfirst, hstep⟩ := render_writes acc c
      refine ⟨later ++ first, ?_, fun hacc d hd => ?_⟩
      · rw [List.foldl_cons, hlater, hfirst, List.append_assoc]
      · have hrest := hshows fun w hw => hacc w (List.mem_append_left _ hw)
        have hc := hstep fun w hw => hacc w (List.mem_append_right _ hw)
        rw [List.mem_cons] at hd
        rcases hd with (rfl | hd) | hd
        · exact hrest d (Or.inr (hc d (Or.inl rfl)))
        · exact hrest d (Or.inl hd)
        · exact hrest d (Or.inr (hc d (Or.inr hd)))

/-- A tick only adds to the record. If it adds no refusal, every channel
was left as its mode asks at the tick's phase. -/
theorem renderTick_writes (t : Table) :
    ∃ added, t.renderTick.1.output.writes = added ++ t.output.writes
      ∧ ((∀ w ∈ added, w.accepted = true) → ∀ d,
          (t.renderTick.1.node d).written
            = some ((t.node d).mode.lit t.phase)) := by
  obtain ⟨added, hadded, hshows⟩ := foldl_render_writes Channel.all (t, 0)
  rw [renderTick_eq, output_advance]
  refine ⟨added, hadded, fun hacc d => ?_⟩
  have h := hshows hacc d (Or.inl (Channel.mem_all d))
  rw [Shows, phase_foldl_render] at h
  obtain ⟨written, hnode⟩ := node_foldl_render Channel.all (t, 0) d
  rw [node_advance, h, hnode]

end Table

end Gateway.Led
