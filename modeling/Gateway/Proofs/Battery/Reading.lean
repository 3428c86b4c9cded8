import Gateway.Battery.Monitor

/-!
# Capacities of readings

The bound on what a reading can say of the capacity. A number in the state
file is brought into range where it is read (`percent?_le`), no other
property touches it (`Modest.note`), and so whatever the file holds, a
capacity that is known is a percentage (`modest_parse`). What the charge
monitor hands out is such a reading, also where the file cannot be read.
-/

namespace Gateway.Battery

namespace Reading

theorem percent?_le {value : List Char} {capacity : UInt8}
    (h : percent? value = some capacity) : capacity ≤ 100 := by
  obtain ⟨n, -, rfl⟩ := Option.map_eq_some_iff.mp h
  rw [UInt8.le_iff_toNat_le, UInt8.toNat_ofNat']
  show min n.toNat 100 % 256 ≤ 100
  omega

/-- The capacity is unknown or at most 100. -/
def Modest (r : Reading) : Prop :=
  ∀ capacity, r.capacity = some capacity → capacity ≤ 100

theorem Modest.note {r : Reading} (h : r.Modest) (name value : List Char) :
    (r.note name value).Modest := by
  intro capacity hc
  unfold Reading.note at hc
  split at hc
  case h_3 => exact percent?_le hc
  all_goals exact h capacity hc

theorem Modest.noteLine {r : Reading} (h : r.Modest) (line : List Char) :
    (r.noteLine line).Modest := by
  unfold Reading.noteLine
  split
  · exact h.note _ _
  · exact h

theorem modest_empty : empty.Modest := by
  intro capacity h
  cases h

theorem modest_parse (text : List Char) : (parse text).Modest :=
  List.foldlRecOn (Text.lines text) noteLine modest_empty
    fun _ h line _ => h.noteLine line

end Reading

/-- What the monitor hands out is read off some text; where the state file
cannot be read, off an empty one. -/
theorem Monitor.exists_text_of_current (m : Monitor) (fs : Files) :
    ∃ text, m.current fs = .parse text := by
  unfold Monitor.current readState
  cases hread : fs.readText m.stateFile with
  | ok text => exact ⟨text, rfl⟩
  | error cause => exact ⟨[], rfl⟩

end Gateway.Battery
