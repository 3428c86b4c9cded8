import Gateway.Battery.Monitor

/-!
# Calls of the charge monitor

Whatever is asked of the monitor, in any order, is a list of visits: each
call with the files that it finds. Between two calls the files may change,
so nothing is said here of how the files of one visit come from the last;
where that matters, it is a condition on the visits.

The files that the monitor works on are named once and for all
(`stateFile_after`, `switchFile_after`), so what a visit reads depends on
its files alone.
-/

namespace Gateway.Battery

/-- What the charge monitor is asked. -/
inductive Call where
  | register
  | event
  | enforce (r : Reading)
  | setPolicy (policy : ChargePolicy)
  | setCharging (charge : Bool)
deriving DecidableEq

/-- A call and the files that it finds. -/
structure Visit where
  files : Files
  call : Call

namespace Monitor

/-- The monitor after a call. -/
def visited (m : Monitor) (v : Visit) : Monitor :=
  match v.call with
  | .register => (m.register v.files).1
  | .event => (m.handleEvent v.files).monitor
  | .enforce _ | .setCharging _ => m
  | .setPolicy policy =>
    match m.setPolicy policy with
    | .ok m => m
    | .error _ => m

/-- The files after a call. -/
def filesAfter (m : Monitor) (v : Visit) : Files :=
  match v.call with
  | .register | .setPolicy _ => v.files
  | .event => (m.handleEvent v.files).files
  | .enforce r => (m.enforce v.files r).2
  | .setCharging charge =>
    match setSwitch v.files m.switchFile charge with
    | .ok fs => fs
    | .error _ => v.files

/-- The subscribers that a call tells of a key, in order. They are numbered
as they registered. -/
def tells (m : Monitor) (v : Visit) : List (Nat × Key) :=
  match v.call with
  | .register => [(m.told.length, (m.register v.files).2.key)]
  | .event =>
    let outcome := m.handleEvent v.files
    outcome.audience.map (·, outcome.reading.key)
  | _ => []

/-- The monitor after some visits, latest first. -/
def after (m : Monitor) : List Visit → Monitor
  | [] => m
  | v :: past => (m.after past).visited v

/-! ## Another window -/

theorem setPolicy_ok_iff {m m' : Monitor} {policy : ChargePolicy} :
    m.setPolicy policy = .ok m'
      ↔ policy.validate = .ok () ∧ m' = { m with policy } := by
  unfold setPolicy
  cases policy.validate with
  | error fault => simp
  | ok u => simp [eq_comm]

theorem setPolicy_error_iff {m : Monitor} {policy : ChargePolicy}
    {fault : ChargePolicyFault} :
    m.setPolicy policy = .error fault ↔ policy.validate = .error fault := by
  unfold setPolicy
  cases policy.validate with
  | error fault => simp
  | ok u => simp

theorem visited_of_setPolicy_error {m : Monitor} {policy : ChargePolicy}
    {fault : ChargePolicyFault} (h : m.setPolicy policy = .error fault)
    (fs : Files) : m.visited ⟨fs, .setPolicy policy⟩ = m := by
  simp only [visited, h]

theorem visited_of_setPolicy_ok {m m' : Monitor} {policy : ChargePolicy}
    (h : m.setPolicy policy = .ok m') (fs : Files) :
    m.visited ⟨fs, .setPolicy policy⟩ = m' := by
  simp only [visited, h]

/-! ## What no call changes -/

theorem visited_eq (m : Monitor) (v : Visit) :
    ∃ policy told, m.visited v = { m with policy, told } := by
  unfold visited
  split
  · exact ⟨_, _, rfl⟩
  · exact ⟨_, _, rfl⟩
  · exact ⟨_, _, rfl⟩
  · exact ⟨_, _, rfl⟩
  · next policy _ =>
      cases hset : m.setPolicy policy with
      | error fault => exact ⟨_, _, rfl⟩
      | ok m' =>
          obtain ⟨-, rfl⟩ := setPolicy_ok_iff.mp hset
          exact ⟨_, _, rfl⟩

theorem after_eq (m : Monitor) (past : List Visit) :
    ∃ policy told, m.after past = { m with policy, told } := by
  induction past with
  | nil => exact ⟨_, _, rfl⟩
  | cons v past ih =>
      obtain ⟨policy, told, hafter⟩ := ih
      obtain ⟨policy', told', hvisited⟩ := visited_eq (m.after past) v
      refine ⟨policy', told', ?_⟩
      rw [after, hvisited, hafter]

theorem stateFile_after (m : Monitor) (past : List Visit) :
    (m.after past).stateFile = m.stateFile := by
  obtain ⟨policy, told, hafter⟩ := m.after_eq past
  rw [hafter]

theorem switchFile_after (m : Monitor) (past : List Visit) :
    (m.after past).switchFile = m.switchFile := by
  obtain ⟨policy, told, hafter⟩ := m.after_eq past
  rw [hafter]

end Monitor

end Gateway.Battery
