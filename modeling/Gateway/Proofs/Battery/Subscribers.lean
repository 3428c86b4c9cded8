import Gateway.Proofs.Battery.Calls
import Mathlib.Data.List.Destutter

/-!
# What subscribers of the battery are told

A subscriber is told of the reading when it registers and then of each
battery event's reading whose key is not the one it was told last. What the
key is, is a matter of what the state file holds (`keyIn`). The monitor
keeps one key for each subscriber; that it is the last key told
(`heard_after`) is the invariant, and from it each subscriber's keys are the
keys of the events since it registered with repetitions left out
(`told_changes`). So it does not matter who else registered, and when.
-/

namespace Gateway.Battery

/-! ## Lists without repetitions -/

variable {α : Type} [DecidableEq α]

/-- One more element is kept unless it repeats the last one. -/
theorem destutter'_concat (a : α) (l : List α) (b : α) :
    (l ++ [b]).destutter' (· ≠ ·) a
      = l.destutter' (· ≠ ·) a
        ++ if (a :: l).getLast? = some b then [] else [b] := by
  induction l generalizing a with
  | nil => by_cases h : a = b <;> simp [h]
  | cons c l ih =>
      rw [List.cons_append, List.getLast?_cons_cons]
      by_cases h : a ≠ c
      · rw [List.destutter'_cons_pos _ h, List.destutter'_cons_pos _ h, ih,
          List.cons_append]
      · obtain rfl : a = c := Decidable.not_not.mp h
        rw [List.destutter'_cons_neg _ h, List.destutter'_cons_neg _ h, ih]

theorem getLast?_destutter' (a : α) (l : List α) :
    (l.destutter' (· ≠ ·) a).getLast? = (a :: l).getLast? := by
  induction l using List.reverseRecOn with
  | nil => rfl
  | append_singleton l b ih =>
      rw [destutter'_concat, ← List.cons_append, List.getLast?_concat]
      split
      · next h => rw [List.append_nil, ih, h]
      · rw [List.getLast?_concat]

/-! ## Keys -/

/-- The key of the battery by a state file: capacity and charging as the
file has them, and both missing if it cannot be read. -/
def keyIn (file : String) (fs : Files) : Key :=
  match fs.readText file with
  | .ok text =>
    let r := Reading.parse text
    ⟨r.capacity, r.status = "Charging"⟩
  | .error _ => ⟨none, false⟩

theorem Monitor.key_current (m : Monitor) (fs : Files) :
    (m.current fs).key = keyIn m.stateFile fs := by
  unfold Monitor.current readState keyIn
  cases fs.readText m.stateFile <;> rfl

/-- The key of a battery event. -/
def eventKey? (file : String) (v : Visit) : Option Key :=
  if v.call = .event then some (keyIn file v.files) else none

/-- The keys of the events among some visits, in order. -/
def eventKeys (file : String) (visits : List Visit) : List Key :=
  (visits.filterMap (eventKey? file)).reverse

theorem eventKeys_cons (file : String) (v : Visit) (past : List Visit) :
    eventKeys file (v :: past)
      = eventKeys file past ++ (eventKey? file v).toList := by
  unfold eventKeys
  cases h : eventKey? file v with
  | none => simp [h]
  | some key => simp [h]

namespace Monitor

/-! ## One call -/

/-- The keys among these that a subscriber was told of. -/
def keysTo (n : Nat) (told : List (Nat × Key)) : List Key :=
  (told.filter (·.1 = n)).map (·.2)

theorem mem_audience {m : Monitor} {r : Reading} {n : Nat} :
    n ∈ m.audience r ↔ ∃ key, m.told[n]? = some key ∧ key ≠ r.key := by
  simp [audience, List.mem_zipIdx_iff_getElem?]

theorem nodup_audience (m : Monitor) (r : Reading) : (m.audience r).Nodup := by
  have hall : (m.told.zipIdx.map (·.2)).Nodup := by
    rw [List.zipIdx_map_snd]
    exact List.nodup_range'
  exact (List.filter_sublist.map _).nodup hall

theorem keysTo_map (n : Nat) (subscribers : List Nat) (key : Key) :
    keysTo n (subscribers.map (·, key))
      = List.replicate (subscribers.count n) key := by
  rw [keysTo, List.filter_map, List.map_map, List.count,
    List.countP_eq_length_filter]
  exact List.map_const' ..

/-- An event tells a subscriber of its key if that is news to it. -/
theorem keysTo_audience {m : Monitor} {n : Nat} {last : Key}
    (h : m.told[n]? = some last) (r : Reading) :
    keysTo n ((m.audience r).map (·, r.key))
      = if last = r.key then [] else [r.key] := by
  rw [keysTo_map]
  split
  · next heq =>
      have hnot : n ∉ m.audience r := fun hmem => by
        obtain ⟨key, hkey, hne⟩ := mem_audience.mp hmem
        obtain rfl := Option.some.inj (h.symm.trans hkey)
        exact hne heq
      rw [List.count_eq_zero.mpr hnot]
      rfl
  · next hne =>
      rw [List.count_eq_one_of_mem (m.nodup_audience r)
        (mem_audience.mpr ⟨last, h, hne⟩)]
      rfl

/-- After an event all subscribers were last told of its reading, then or
before. -/
theorem told_tell (m : Monitor) (r : Reading) :
    (m.tell r).told = m.told.map fun _ => r.key := by
  refine List.map_congr_left fun key _ => ?_
  split
  · rfl
  · next h => exact Decidable.not_not.mp h

/-- Only a registration and an event move the keys told last. -/
theorem told_visited (m : Monitor) (v : Visit) :
    (m.visited v).told
      = match eventKey? m.stateFile v with
        | some key => m.told.map fun _ => key
        | none => if v.call = .register then
            m.told ++ [keyIn m.stateFile v.files]
          else m.told := by
  obtain ⟨fs, call⟩ := v
  cases call with
  | register =>
      rw [← key_current]
      rfl
  | event =>
      refine (told_tell m (m.current fs)).trans ?_
      rw [key_current]
      rfl
  | enforce r => rfl
  | setCharging charge => rfl
  | setPolicy policy =>
      have hnone : eventKey? m.stateFile ⟨fs, .setPolicy policy⟩ = none := rfl
      rw [hnone]
      cases hset : m.setPolicy policy with
      | error fault =>
          rw [visited_of_setPolicy_error hset]
          rfl
      | ok m' =>
          obtain ⟨-, rfl⟩ := setPolicy_ok_iff.mp hset
          rw [visited_of_setPolicy_ok hset]
          rfl

/-- What a call tells a subscriber that was there before. -/
theorem keysTo_tells {m : Monitor} {n : Nat} {last : Key}
    (h : m.told[n]? = some last) (v : Visit) :
    keysTo n (m.tells v)
      = match eventKey? m.stateFile v with
        | some key => if last = key then [] else [key]
        | none => [] := by
  obtain ⟨fs, call⟩ := v
  cases call with
  | register =>
      have hother : m.told.length ≠ n := by
        rintro rfl
        rw [List.getElem?_length] at h
        cases h
      simp [tells, keysTo, eventKey?, hother]
  | event =>
      refine (keysTo_audience h (m.current fs)).trans ?_
      rw [key_current]
      rfl
  | enforce r => rfl
  | setPolicy policy => rfl
  | setCharging charge => rfl

/-! ## Many calls -/

/-- The keys that a subscriber was told of, in order. -/
def heard (m : Monitor) (n : Nat) : List Visit → List Key
  | [] => []
  | v :: past => m.heard n past ++ keysTo n ((m.after past).tells v)

/-- Subscribers are numbered as they registered. -/
theorem length_told_after (m : Monitor) (past : List Visit) :
    (m.after past).told.length
      = m.told.length + past.countP (·.call = .register) := by
  induction past with
  | nil => rfl
  | cons v past ih =>
      rw [after, told_visited, List.countP_cons]
      unfold eventKey?
      by_cases hevent : v.call = .event
      · simp [hevent, ih]
      · by_cases hregister : v.call = .register
        · simp [hregister, ih, Nat.add_assoc]
        · simp [hevent, hregister, ih]

/-- Nobody hears anything before registering. -/
theorem heard_before {m : Monitor} {n : Nat} {past : List Visit}
    (h : (m.after past).told.length ≤ n) : m.heard n past = [] := by
  induction past with
  | nil => rfl
  | cons v past ih =>
      rw [length_told_after, List.countP_cons] at h
      have hbefore : (m.after past).told.length ≤ n := by
        rw [length_told_after]
        omega
      rw [heard, ih hbefore, List.nil_append]
      obtain ⟨fs, call⟩ := v
      cases call with
      | register =>
          have hother : (m.after past).told.length ≠ n := by
            rw [length_told_after]
            simp only [decide_true, if_true] at h
            omega
          simp [tells, keysTo, hother]
      | event =>
          have hnot : n ∉ (m.after past).audience
              ((m.after past).current fs) := fun hmem => by
            obtain ⟨key, hkey, -⟩ := mem_audience.mp hmem
            rw [List.getElem?_eq_none hbefore] at hkey
            cases hkey
          show keysTo n (((m.after past).audience _).map (·, _)) = []
          rw [keysTo_map, List.count_eq_zero.mpr hnot]
          rfl
      | enforce r => rfl
      | setPolicy policy => rfl
      | setCharging charge => rfl

/-- One more visit, for a subscriber of whom the monitor remembers the last
key. -/
theorem heard_cons {m : Monitor} {n : Nat} {past : List Visit} {first : Key}
    {keys : List Key}
    (hheard : m.heard n past = (first :: keys).destutter (· ≠ ·))
    (hlast : (m.after past).told[n]? = (first :: keys).getLast?)
    (v : Visit) :
    m.heard n (v :: past)
        = (first :: (keys ++ (eventKey? m.stateFile v).toList)).destutter
          (· ≠ ·)
      ∧ (m.after (v :: past)).told[n]?
        = (first :: (keys ++ (eventKey? m.stateFile v).toList)).getLast? := by
  obtain ⟨last, hkeys⟩ : ∃ last, (first :: keys).getLast? = some last :=
    ⟨_, List.getLast?_eq_some_getLast (List.cons_ne_nil first keys)⟩
  have htold := hlast.trans hkeys
  have htells := keysTo_tells htold v
  have hkept := told_visited (m.after past) v
  rw [stateFile_after] at htells hkept
  rw [heard, hheard, htells, after, hkept]
  cases eventKey? m.stateFile v with
  | none =>
      simp only [Option.toList_none, List.append_nil, true_and]
      rw [hkeys]
      split
      · obtain ⟨hn, -⟩ := List.getElem?_eq_some_iff.mp htold
        rw [List.getElem?_append_left hn, htold]
      · exact htold
  | some key =>
      simp only [Option.toList_some]
      rw [List.destutter_cons', List.destutter_cons', destutter'_concat, hkeys,
        List.getElem?_map, htold, ← List.cons_append, List.getLast?_concat]
      simp

/-- A subscriber was told of the events' keys since it registered without
repetitions, and the key kept for it is the last of them. -/
theorem heard_after (m : Monitor) (earlier : List Visit) (fs : Files)
    (later : List Visit) :
    m.heard (m.after earlier).told.length
        (later ++ ⟨fs, .register⟩ :: earlier)
        = (keyIn m.stateFile fs :: eventKeys m.stateFile later).destutter
          (· ≠ ·)
      ∧ (m.after (later ++ ⟨fs, .register⟩ :: earlier)).told[
          (m.after earlier).told.length]?
        = (keyIn m.stateFile fs :: eventKeys m.stateFile later).getLast? := by
  induction later with
  | nil =>
      have hregister : (m.after earlier).tells ⟨fs, .register⟩
          = [((m.after earlier).told.length, keyIn m.stateFile fs)] := by
        rw [← m.stateFile_after earlier, ← key_current]
        rfl
      have htold : (m.after (⟨fs, .register⟩ :: earlier)).told
          = (m.after earlier).told ++ [keyIn m.stateFile fs] := by
        rw [← m.stateFile_after earlier, ← key_current]
        rfl
      rw [List.nil_append, htold, heard, hregister,
        heard_before (Nat.le_refl _)]
      simp [keysTo, eventKeys]
  | cons v later ih =>
      rw [List.cons_append, eventKeys_cons]
      exact heard_cons ih.1 ih.2 v

/-- What is left without the registrations. -/
def unregistered (visits : List Visit) : List Visit :=
  visits.filter (·.call ≠ .register)

theorem eventKeys_unregistered (file : String) (visits : List Visit) :
    eventKeys file (unregistered visits) = eventKeys file visits := by
  have hkeep : ∀ v, eventKey? file v ≠ none → v.call ≠ .register := by
    rintro v hsome hregister
    simp [eventKey?, hregister] at hsome
  induction visits with
  | nil => rfl
  | cons v past ih =>
      rw [eventKeys_cons, ← ih]
      by_cases hcall : v.call = .register
      · have hnone : eventKey? file v = none :=
          Decidable.by_contra fun hsome => hkeep v hsome hcall
        simp [unregistered, hcall, hnone]
      · have hcons : unregistered (v :: past) = v :: unregistered past :=
          List.filter_cons_of_pos (by simpa using hcall)
        rw [hcons, eventKeys_cons]

theorem countP_unregistered (visits : List Visit) :
    (unregistered visits).countP (·.call = .register) = 0 := by
  rw [List.countP_eq_zero]
  intro v hv
  simpa using (List.mem_filter.mp hv).2

/-- What a subscriber is told, whatever else is asked of the monitor and
however the state file changes: the key by the file at its registration and
then the keys by the file at the events, each that repeats the one told
before left out. So no two keys told in a row are the same, the last one
told is that of the latest event since the registration, and all is as if
nobody else had registered. -/
theorem told_changes (stateFile switchFile : String) (policy : ChargePolicy)
    (earlier later : List Visit) (fs : Files) :
    let m := Monitor.new stateFile switchFile policy
    let keys := keyIn stateFile fs :: eventKeys stateFile later
    let heard := m.heard (earlier.countP (·.call = .register))
      (later ++ ⟨fs, .register⟩ :: earlier)
    heard = keys.destutter (· ≠ ·)
      ∧ heard.IsChain (· ≠ ·)
      ∧ heard.getLast? = keys.getLast?
      ∧ heard = m.heard 0
        (unregistered later ++ ⟨fs, .register⟩ :: unregistered earlier) := by
  intro m keys heard
  have hnumber : ∀ visits, (m.after visits).told.length
      = visits.countP (·.call = .register) := fun visits => by
    rw [length_told_after]
    exact Nat.zero_add _
  have hheard : heard = keys.destutter (· ≠ ·) := by
    have h := (m.heard_after earlier fs later).1
    rwa [hnumber] at h
  have halone := (m.heard_after (unregistered earlier) fs
    (unregistered later)).1
  rw [hnumber, countP_unregistered, eventKeys_unregistered] at halone
  refine ⟨hheard, ?_, ?_, hheard.trans halone.symm⟩
  · rw [hheard]
    exact List.isChain_destutter _ keys
  · rw [hheard, List.destutter_cons']
    exact getLast?_destutter' ..

/-- The second subscriber comes while there is no file to read. It is told of
that, of the file once, though two events and a third subscriber come then,
and of the file that is gone again. -/
theorem told_changes_unreadable :
    let gone := Files.empty
    let full := Files.empty.put ["state"] (.file
      "POWER_SUPPLY_CAPACITY=64\nPOWER_SUPPLY_STATUS=Charging".toUTF8.toList)
    (Monitor.new "/state" "/switch" .initial).heard 1
        ([⟨gone, .event⟩, ⟨full, .event⟩, ⟨full, .register⟩, ⟨full, .event⟩]
          ++ ⟨gone, .register⟩ :: [⟨full, .register⟩])
      = [⟨none, false⟩, ⟨some 64, true⟩, ⟨none, false⟩] := by
  intro gone full
  have hheard := (told_changes "/state" "/switch" .initial
    [⟨full, .register⟩]
    [⟨gone, .event⟩, ⟨full, .event⟩, ⟨full, .register⟩, ⟨full, .event⟩]
    gone).1
  exact hheard.trans (by decide +kernel)

end Monitor

end Gateway.Battery
