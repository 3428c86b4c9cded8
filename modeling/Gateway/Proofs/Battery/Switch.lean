import Gateway.Proofs.Battery.Calls
import Gateway.Proofs.Files

/-!
# What moves the charger's switch

A call moves the switch if it is asked to by hand, or if it looks at a
reading at an end of the window in force (`wanted?`). Every such call tries
to, and no other writes anything (`filesAfter_eq`); so the switch holds what
the latest write that was not refused left there (`shows_course`).

The window that is in force stays a valid one (`validate_after`). Its lower
end lies below its upper one, so a charger that one reading stopped is
started again only by a reading on the other side of the window
(`moved_across_window`).
-/

namespace Gateway

/-! ## Writing -/

namespace Files

/-- The files after a text was to be written; one that is refused changes
nothing. -/
def tried (fs : Files) (file text : String) : Files :=
  match fs.writeText file text with
  | .ok fs => fs
  | .error _ => fs

/-- A file that cannot be read and takes no text. -/
def OutOfReach (fs : Files) (file : String) : Prop :=
  (fs.readText file).toOption = none
    ∧ ∀ text, (fs.writeText file text).isOk = false

/-- A file holds a text, or nothing that can be read, as far as it is in
reach. -/
def Shows (fs : Files) (file : String) (held : Option (List Char)) : Prop :=
  (fs.readText file).toOption = held ∨ fs.OutOfReach file

variable {fs : Files} {file text : String}

theorem plain_tried {path : String} (plain : ¬ fs.LeadsToDevice path) :
    ¬ (fs.tried file text).LeadsToDevice path := by
  unfold tried
  cases hwrite : fs.writeText file text with
  | error fault => exact plain
  | ok fs' => exact fun hdevice => plain (hdevice.of_writeText hwrite)

/-- A file shows what was written, unless that was refused. -/
theorem shows_tried {held : Option (List Char)}
    (plain : ¬ fs.LeadsToDevice file) (h : fs.Shows file held) :
    (fs.tried file text).Shows file
      (if (fs.writeText file text).isOk then some text.toList else held) := by
  unfold tried
  cases hwrite : fs.writeText file text with
  | error fault => exact h
  | ok fs' =>
      refine .inl ?_
      rw [readText_of_writeText hwrite plain]
      rfl

end Files

namespace Battery

/-! ## The window -/

namespace ChargePolicy

/-- The window is enforced, and the battery is charged at its upper end or
above. -/
def Full (p : ChargePolicy) (r : Reading) : Prop :=
  p.enabled = true ∧ r.isCharging = true
    ∧ ∃ capacity ∈ r.capacity, p.stopThreshold ≤ capacity
deriving Decidable

/-- The window is enforced, and the battery is not charged at its lower end
or below. -/
def Low (p : ChargePolicy) (r : Reading) : Prop :=
  p.enabled = true ∧ r.isCharging = false
    ∧ ∃ capacity ∈ r.capacity, capacity ≤ p.startThreshold
deriving Decidable

/-- The position of the switch that the window asks for. -/
def wants? (p : ChargePolicy) (r : Reading) : Option Bool :=
  if p.Full r then some false else if p.Low r then some true else none

/-- A reading is judged by the window alone. -/
theorem charge?_decide (p : ChargePolicy) (r : Reading) :
    (p.decide r).charge? = p.wants? r := by
  unfold wants?
  split
  · next hfull =>
      obtain ⟨henabled, hcharging, capacity, hcapacity, hle⟩ := hfull
      simp [ChargePolicy.decide, Option.mem_def.mp hcapacity, henabled,
        hcharging, hle, ChargeAction.charge?]
  · next hfull =>
      split
      · next hlow =>
          obtain ⟨henabled, hcharging, capacity, hcapacity, hle⟩ := hlow
          simp [ChargePolicy.decide, Option.mem_def.mp hcapacity, henabled,
            hcharging, hle, ChargeAction.charge?]
      · next hlow =>
          unfold ChargePolicy.decide
          split
          · rfl
          · next capacity hcapacity =>
              split
              · rfl
              · next henabled =>
                  simp only [Bool.not_eq_true, Bool.not_eq_false'] at henabled
                  rw [if_neg fun h =>
                    hfull ⟨henabled, h.1, capacity, hcapacity, h.2⟩,
                    if_neg fun h => hlow ⟨henabled,
                      Bool.eq_false_iff.mpr h.1, capacity, hcapacity, h.2⟩]
                  rfl

theorem wants?_eq_false_iff {p : ChargePolicy} {r : Reading} :
    p.wants? r = some false ↔ p.Full r := by
  unfold wants?
  split
  · next hfull => simp [hfull]
  · next hfull => split <;> simp [hfull]

theorem Low.not_full {p : ChargePolicy} {r : Reading} (h : p.Low r) :
    ¬ p.Full r := fun hfull =>
  Bool.false_ne_true (h.2.1.symm.trans hfull.2.1)

theorem wants?_eq_true_iff {p : ChargePolicy} {r : Reading} :
    p.wants? r = some true ↔ p.Low r := by
  unfold wants?
  split
  · next hfull =>
      exact iff_of_false nofun fun hlow => hlow.not_full hfull
  · next hfull => split <;> simp [*]

/-- A reading between the ends of the window asks for nothing. -/
theorem wants?_of_between {p : ChargePolicy} {r : Reading} {capacity : UInt8}
    (hcapacity : r.capacity = some capacity)
    (hstart : p.startThreshold < capacity)
    (hstop : capacity < p.stopThreshold) : p.wants? r = none := by
  have hfull : ¬ p.Full r := by
    rintro ⟨-, -, c, hc, hle⟩
    obtain rfl := Option.some.inj (hcapacity.symm.trans hc)
    exact UInt8.not_le.mpr hstop hle
  have hlow : ¬ p.Low r := by
    rintro ⟨-, -, c, hc, hle⟩
    obtain rfl := Option.some.inj (hcapacity.symm.trans hc)
    exact UInt8.not_le.mpr hstart hle
  rw [wants?, if_neg hfull, if_neg hlow]

theorem lt_of_validate {p : ChargePolicy} (h : p.validate = .ok ()) :
    p.startThreshold < p.stopThreshold := by
  unfold validate at h
  split at h
  · cases h
  split at h
  · cases h
  · next hlt => exact UInt8.not_le.mp hlt

end ChargePolicy

namespace Monitor

/-! ## One call -/

/-- The reading that a call looks at. -/
def looksAt? (m : Monitor) (v : Visit) : Option Reading :=
  match v.call with
  | .event => some (m.current v.files)
  | .enforce r => some r
  | _ => none

/-- The position that the window in force asks for when a call looks at a
reading. -/
def automatic? (m : Monitor) (v : Visit) : Option Bool :=
  (m.looksAt? v).bind m.policy.wants?

/-- The position that a call is to bring the switch to. -/
def wanted? (m : Monitor) (v : Visit) : Option Bool :=
  match v.call with
  | .setCharging charge => some charge
  | _ => m.automatic? v

/-- The position that a call brings the switch to. One that is refused
brings it nowhere. -/
def moves? (m : Monitor) (v : Visit) : Option Bool :=
  (m.wanted? v).filter fun charge =>
    (v.files.writeText m.switchFile (switchValue charge)).isOk

theorem tried_setSwitch (fs : Files) (file : String) (charge : Bool) :
    (match setSwitch fs file charge with
      | .ok fs => fs
      | .error _ => fs) = fs.tried file (switchValue charge) := by
  unfold setSwitch Files.tried
  cases fs.writeText file (switchValue charge) <;> rfl

theorem tried_enforce (m : Monitor) (fs : Files) (r : Reading) :
    (m.enforce fs r).2
      = match m.policy.wants? r with
        | some charge => fs.tried m.switchFile (switchValue charge)
        | none => fs := by
  rw [← ChargePolicy.charge?_decide, enforce]
  cases (m.policy.decide r).charge? with
  | none => rfl
  | some charge =>
      dsimp only
      rw [← tried_setSwitch]
      cases setSwitch fs m.switchFile charge <;> rfl

/-- A call that is to move the switch tries to, and no other writes
anything. -/
theorem filesAfter_eq (m : Monitor) (v : Visit) :
    m.filesAfter v
      = match m.wanted? v with
        | some charge => v.files.tried m.switchFile (switchValue charge)
        | none => v.files := by
  obtain ⟨fs, call⟩ := v
  cases call with
  | register => rfl
  | event => exact tried_enforce m fs (m.current fs)
  | enforce r => exact tried_enforce m fs r
  | setPolicy policy => rfl
  | setCharging charge => exact tried_setSwitch fs m.switchFile charge

/-- What the switch shows after a call. -/
theorem shows_filesAfter {m : Monitor} {v : Visit} {held : Option (List Char)}
    (plain : ¬ v.files.LeadsToDevice m.switchFile)
    (h : v.files.Shows m.switchFile held) :
    (m.filesAfter v).Shows m.switchFile
      (match m.moves? v with
        | some charge => some (switchValue charge).toList
        | none => held) := by
  rw [filesAfter_eq]
  unfold moves?
  cases m.wanted? v with
  | none => exact h
  | some charge =>
      have htried : (v.files.tried m.switchFile (switchValue charge)).Shows
          m.switchFile _ := Files.shows_tried plain h
      rw [Option.filter_some]
      split at htried
      · next hok =>
          rw [if_pos hok]
          exact htried
      · next hrefused =>
          rw [if_neg hrefused]
          exact htried

/-- No call makes the switch a device. -/
theorem plain_filesAfter {m : Monitor} {v : Visit}
    (plain : ¬ v.files.LeadsToDevice m.switchFile) :
    ¬ (m.filesAfter v).LeadsToDevice m.switchFile := by
  rw [filesAfter_eq]
  cases m.wanted? v with
  | none => exact plain
  | some charge => exact Files.plain_tried plain

/-! ## Many calls -/

/-- What the latest move left in the switch, or what it held at first. -/
def left (m : Monitor) (start : Files) : List Visit → Option (List Char)
  | [] => (start.readText m.switchFile).toOption
  | v :: past =>
    match (m.after past).moves? v with
    | some charge => some (switchValue charge).toList
    | none => m.left start past

/-- Calls and the files that they leave. Between two calls the files change
as they like, but nobody else moves the switch: it may come out of reach,
and back again. -/
inductive Course (m : Monitor) (start : Files) : List Visit → Files → Prop
  where
  | start (plain : ¬ start.LeadsToDevice m.switchFile) :
      Course m start [] start
  | call {past : List Visit} {fs : Files} (call : Call)
      (course : Course m start past fs) :
      Course m start (⟨fs, call⟩ :: past)
        ((m.after past).filesAfter ⟨fs, call⟩)
  | elsewhere {past : List Visit} {fs fs' : Files}
      (course : Course m start past fs)
      (plain : ¬ fs'.LeadsToDevice m.switchFile)
      (same : fs'.Shows m.switchFile (m.left start past)) :
      Course m start past fs'

/-- The switch shows what the latest write that was not refused left
there. -/
theorem shows_course {m : Monitor} {start fs : Files} {past : List Visit}
    (course : m.Course start past fs) :
    ¬ fs.LeadsToDevice m.switchFile
      ∧ fs.Shows m.switchFile (m.left start past) := by
  induction course with
  | start plain => exact ⟨plain, .inl rfl⟩
  | @call past fs call _ ih =>
      obtain ⟨plain, hshows⟩ := ih
      rw [← m.switchFile_after past] at plain hshows ⊢
      exact ⟨plain_filesAfter plain, shows_filesAfter plain hshows⟩
  | elsewhere _ plain same _ => exact ⟨plain, same⟩

theorem validate_visited {m : Monitor} (h : m.policy.validate = .ok ())
    (v : Visit) : (m.visited v).policy.validate = .ok () := by
  obtain ⟨fs, call⟩ := v
  cases call with
  | register => exact h
  | event => exact h
  | enforce r => exact h
  | setCharging charge => exact h
  | setPolicy policy =>
      cases hset : m.setPolicy policy with
      | error fault => rwa [visited_of_setPolicy_error hset]
      | ok m' =>
          obtain ⟨hvalid, rfl⟩ := setPolicy_ok_iff.mp hset
          rwa [visited_of_setPolicy_ok hset]

/-- The window in force stays a valid one. -/
theorem validate_after {m : Monitor} (h : m.policy.validate = .ok ())
    (past : List Visit) : (m.after past).policy.validate = .ok () := by
  induction past with
  | nil => exact h
  | cons v past ih => exact validate_visited ih v

/-- A call that looks at a reading inside the window writes nothing. -/
theorem filesAfter_of_between {m : Monitor} {v : Visit} {r : Reading}
    {capacity : UInt8} (hlook : m.looksAt? v = some r)
    (hcapacity : r.capacity = some capacity)
    (hstart : m.policy.startThreshold < capacity)
    (hstop : capacity < m.policy.stopThreshold) : m.filesAfter v = v.files := by
  have hautomatic : m.automatic? v = none := by
    rw [automatic?, hlook, Option.bind_some,
      ChargePolicy.wants?_of_between hcapacity hstart hstop]
  have hwanted : m.wanted? v = none := by
    unfold wanted?
    split
    · next charge hcall =>
        rw [looksAt?, hcall] at hlook
        cases hlook
    · exact hautomatic
  rw [filesAfter_eq, hwanted]

theorem full_of_automatic? {m : Monitor} {v : Visit}
    (h : m.automatic? v = some false) :
    ∃ capacity, (m.looksAt? v).bind (·.capacity) = some capacity
      ∧ m.policy.stopThreshold ≤ capacity := by
  obtain ⟨r, hlook, hwants⟩ := Option.bind_eq_some_iff.mp h
  obtain ⟨-, -, capacity, hcapacity, hle⟩ :=
    ChargePolicy.wants?_eq_false_iff.mp hwants
  exact ⟨capacity, by rw [hlook, Option.bind_some, hcapacity], hle⟩

theorem low_of_automatic? {m : Monitor} {v : Visit}
    (h : m.automatic? v = some true) :
    ∃ capacity, (m.looksAt? v).bind (·.capacity) = some capacity
      ∧ capacity ≤ m.policy.startThreshold := by
  obtain ⟨r, hlook, hwants⟩ := Option.bind_eq_some_iff.mp h
  obtain ⟨-, -, capacity, hcapacity, hle⟩ :=
    ChargePolicy.wants?_eq_true_iff.mp hwants
  exact ⟨capacity, by rw [hlook, Option.bind_some, hcapacity], hle⟩

/-- What moves the switch, whatever was asked of the monitor before and
however often the switch was out of reach. It holds what the latest write
that was not refused left there. A call tries to write exactly if it is told
a position or looks at a reading at an end of the window in force, and a
window that is refused changes nothing. If the first window is valid, so is
that in force; a reading inside it causes no write; and of two calls under
one window, one of which it had stop the charger and the other start it, the
first looked at a capacity above the window and the second at one below. -/
theorem moved_across_window {m : Monitor} {start fs : Files}
    {past : List Visit} (course : m.Course start past fs) :
    let now := m.after past
    fs.Shows m.switchFile (m.left start past)
      ∧ (∀ call, now.filesAfter ⟨fs, call⟩
        = match now.wanted? ⟨fs, call⟩ with
          | some charge => fs.tried m.switchFile (if charge then "0" else "1")
          | none => fs)
      ∧ (∀ policy fault, now.setPolicy policy = .error fault →
        now.visited ⟨fs, .setPolicy policy⟩ = now
          ∧ now.filesAfter ⟨fs, .setPolicy policy⟩ = fs)
      ∧ (m.policy.validate = .ok () →
        now.policy.validate = .ok ()
          ∧ (∀ call r capacity, now.looksAt? ⟨fs, call⟩ = some r →
            r.capacity = some capacity →
            now.policy.startThreshold < capacity →
            capacity < now.policy.stopThreshold →
            now.filesAfter ⟨fs, call⟩ = fs)
          ∧ ∀ (stops starts : Visit) (before before' : List Visit),
            stops :: before <:+ past → starts :: before' <:+ past →
            (m.after before).policy = (m.after before').policy →
            (m.after before).automatic? stops = some false →
            (m.after before').automatic? starts = some true →
            ∃ upper lower,
              ((m.after before).looksAt? stops).bind (·.capacity) = some upper
              ∧ ((m.after before').looksAt? starts).bind (·.capacity)
                = some lower
              ∧ lower ≤ (m.after before).policy.startThreshold
              ∧ (m.after before).policy.startThreshold
                < (m.after before).policy.stopThreshold
              ∧ (m.after before).policy.stopThreshold ≤ upper) := by
  intro now
  refine ⟨(shows_course course).2, fun call => ?_, ?_, fun valid =>
    ⟨validate_after valid past, ?_, ?_⟩⟩
  · rw [filesAfter_eq, m.switchFile_after past]
    rfl
  · intro policy fault hset
    exact ⟨visited_of_setPolicy_error hset fs, rfl⟩
  · intro call r capacity hlook hcapacity hstart hstop
    exact filesAfter_of_between hlook hcapacity hstart hstop
  · intro stops starts before before' _ _ hsame hstops hstarts
    obtain ⟨upper, hupper, hstop⟩ := full_of_automatic? hstops
    obtain ⟨lower, hlower, hstart⟩ := low_of_automatic? hstarts
    rw [← hsame] at hstart
    exact ⟨upper, lower, hupper, hlower, hstart,
      ChargePolicy.lt_of_validate (validate_after valid before), hstop⟩

/-- A battery's state and a switch. -/
def charger (state : String) (switch : Entry) : Files :=
  ⟨[(["state"], .file state.toUTF8.toList), (["switch"], switch)]⟩

/-- The switch is out of reach when the battery is full, so the charger is
stopped at the next event only; and it is started again when the battery is
low. -/
theorem moved_across_window_refused :
    let m := Monitor.new "/state" "/switch" ⟨true, 20, 80⟩
    let full := "POWER_SUPPLY_CAPACITY=85\nPOWER_SUPPLY_STATUS=Charging"
    let low := "POWER_SUPPLY_CAPACITY=15\nPOWER_SUPPLY_STATUS=Discharging"
    let switch (text : String) : Entry := .file text.toUTF8.toList
    let refused : Visit := ⟨charger full .directory, .event⟩
    let stops : Visit := ⟨charger full (switch "0"), .event⟩
    let starts : Visit := ⟨charger low (switch "1"), .event⟩
    ∃ fs, m.Course (charger full (switch "0")) [starts, stops, refused] fs
      ∧ m.moves? refused = none ∧ m.moves? stops = some false
      ∧ m.moves? starts = some true
      ∧ fs.Shows "/switch" (some ['0'])
      ∧ ∃ upper lower,
        (m.looksAt? stops).bind (·.capacity) = some upper
        ∧ (m.looksAt? starts).bind (·.capacity) = some lower
        ∧ lower ≤ 20 ∧ (20 : UInt8) < 80 ∧ 80 ≤ upper := by
  intro m full low switch refused stops starts
  have blocked : refused.files.OutOfReach "/switch" :=
    ⟨by decide +kernel, fun text => rfl⟩
  have atRefused : m.Course (charger full (switch "0")) [] refused.files :=
    (Course.start (by decide +kernel)).elsewhere (by decide +kernel)
      (.inr blocked)
  have atStops : m.Course (charger full (switch "0")) [refused] stops.files :=
    (atRefused.call .event).elsewhere (by decide +kernel)
      (.inl (by decide +kernel))
  have atStarts : m.Course (charger full (switch "0")) [stops, refused]
      starts.files :=
    (atStops.call .event).elsewhere (by decide +kernel)
      (.inl (by decide +kernel))
  have hleft : m.left (charger full (switch "0")) [starts, stops, refused]
      = some ['0'] := by decide +kernel
  have course := atStarts.call .event
  obtain ⟨hshows, -, -, hwindow⟩ := moved_across_window course
  refine ⟨_, course, by decide +kernel, by decide +kernel,
    by decide +kernel, ?_, ?_⟩
  · rw [← hleft]
    exact hshows
  · obtain ⟨-, -, hcrossed⟩ := hwindow rfl
    exact hcrossed stops starts [refused] [stops, refused]
      (List.suffix_cons _ _) List.suffix_rfl rfl (by decide +kernel)
      (by decide +kernel)

end Monitor

end Battery

end Gateway
