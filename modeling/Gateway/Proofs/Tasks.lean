import Gateway.Tasks
import Mathlib.Data.List.Nodup

/-!
# How long a shutdown waits

A shutdown waits for its tasks one after the other, for each of them so
long from its turn on. Here the time at which a task's turn comes is read
off the ends of those that are waited for before it (`turnOf`), and with it
what is reported of the task (`reported_shutdownIn`): it is late if it
still runs so long after its turn, which may be later than so long after
all were asked to stop.

While it waits, a table differs from the table whose tasks were just asked
only in the tasks that ended since (`Follows`). A wait heeds all ends up to
some time; those at the very time at which it gives up are left to the next
wait.
-/

namespace Gateway

/-! ## One task -/

namespace RunningTask

variable {t : RunningTask}

theorem awaken_of_since (h : t.since.isSome) (now : Nat) (asked : Bool) :
    t.awaken now asked = (t, []) := by
  obtain ⟨since, hsince⟩ := Option.isSome_iff_exists.mp h
  simp [awaken, hsince]

theorem since_awaken (t : RunningTask) (now : Nat) :
    (t.awaken now true).1.since.isSome := by
  unfold awaken
  cases hsince : t.since with
  | none => simp
  | some since => simp [hsince]

theorem expire_eq (t : RunningTask) (now : Nat) :
    (t.expire now).1
      = { t with ended := t.ended || t.endTime?.any (· ≤ now) } := by
  unfold expire
  split
  · next h => simp [h]
  · next h => simp [h]

theorem endTime?_of_ended (h : t.ended) : t.endTime? = none := by
  simp [endTime?, h]

theorem endTime?_expire (t : RunningTask) (now : Nat) :
    (t.expire now).1.endTime? = t.endTime?.filter (now < ·) := by
  unfold expire
  cases he : t.endTime? with
  | none => simp [he]
  | some e =>
      by_cases hle : e ≤ now
      · simp [hle, endTime?_of_ended, Option.filter_some]
      · simp [hle, he, Option.filter_some, Nat.lt_of_not_le hle]

theorem expire_expire (t : RunningTask) {earlier now : Nat}
    (hle : earlier ≤ now) :
    ((t.expire earlier).1.expire now).1 = (t.expire now).1 := by
  rw [expire_eq, endTime?_expire, expire_eq, expire_eq]
  cases he : t.endTime? with
  | none => simp
  | some e =>
      by_cases h : earlier < e
      · simp [h, Option.filter_some, Nat.not_le.mpr h]
      · have hearlier : e ≤ earlier := Nat.not_lt.mp h
        simp [h, hearlier, Option.filter_some, Nat.le_trans hearlier hle]

/-- What a task does changes neither its name nor whether it is held. -/
theorem run_frame (t : RunningTask) (now : Nat) (asked : Bool) :
    ∃ since ended, (t.run now asked).1 = { t with since, ended } := by
  have hrun : (t.run now asked).1 = ((t.awaken now asked).1.expire now).1 :=
    rfl
  rw [hrun, expire_eq]
  unfold awaken
  split
  · exact ⟨_, _, rfl⟩
  · exact ⟨_, _, rfl⟩

end RunningTask

namespace TaskTable

/-! ## Tasks that were asked -/

/-- All tasks were asked to stop, and did what they could do at once. -/
structure JustAsked (t : TaskTable) : Prop where
  awake : ∀ task ∈ t.tasks, task.since.isSome
  ahead : ∀ task ∈ t.tasks, ∀ e, task.endTime? = some e → t.now < e

theorem justAsked_ask (t : TaskTable) : t.ask.JustAsked := by
  refine ⟨fun task h => ?_, fun task h e he => ?_⟩
  all_goals
    simp only [ask, settle, List.map_map, List.mem_map,
      Function.comp_apply] at h
    obtain ⟨before, -, rfl⟩ := h
    simp only [RunningTask.run] at *
  · rw [RunningTask.expire_eq]
    exact before.since_awaken t.now
  · rw [RunningTask.endTime?_expire] at he
    exact of_decide_eq_true (Option.filter_eq_some_iff.mp he).2

/-- When the task at a place ends, now at the earliest; `none` if it never
does. -/
def endOf? (t : TaskTable) (place : Nat) : Option Nat :=
  (t.tasks[place]?).bind fun task =>
    if task.ended then some t.now else task.endTime?

/-- How the task at a place spoils a shutdown by its ending. -/
def ownFault? (t : TaskTable) (place : Nat) : Option TaskFault :=
  (t.tasks[place]?).bind (·.plan.ending.fault?)

def ends (t : TaskTable) : List Nat := t.tasks.filterMap (·.endTime?)

theorem mem_ends_of_endOf? {t : TaskTable} {place e : Nat}
    (h : t.endOf? place = some e) : e = t.now ∨ e ∈ t.ends := by
  obtain ⟨task, htask, hend⟩ := Option.bind_eq_some_iff.mp h
  split at hend
  · exact .inl (Option.some.inj hend).symm
  · exact .inr (List.mem_filterMap.mpr
      ⟨task, List.mem_of_getElem? htask, hend⟩)

/-- A table has come from one whose tasks were just asked, and all that
ended up to some time has ended in it. Nothing was due since. -/
structure Follows (first : TaskTable) (heeded : Nat) (t : TaskTable) :
    Prop where
  tasks : t.tasks = first.tasks.map fun task => (task.expire heeded).1
  asked : t.asked = true
  first_le : first.now ≤ heeded
  heeded_le : heeded ≤ t.now
  due : ∀ e ∈ first.ends, e < t.now → e ≤ heeded

theorem JustAsked.follows {t : TaskTable} (h : t.ask.JustAsked) :
    Follows t.ask t.now t.ask where
  tasks := by
    refine (List.map_id' t.ask.tasks).symm.trans
      (List.map_congr_left fun task htask => ?_)
    have hnot : ¬ task.endTime?.any (· ≤ t.now) := by
      intro hany
      obtain ⟨e, he, hle⟩ := (Option.any_eq_true _ _).mp hany
      exact Nat.not_lt.mpr (of_decide_eq_true hle) (h.ahead task htask e he)
    simp [RunningTask.expire, hnot]
  asked := rfl
  first_le := Nat.le_refl _
  heeded_le := Nat.le_refl _
  due e _ hlt := Nat.le_of_lt hlt

namespace Follows

variable {first t : TaskTable} {heeded : Nat}

theorem nextTime?_cases (h : Follows first heeded t) :
    (t.nextTime? = none ∧ ∀ e ∈ first.ends, e ≤ heeded)
      ∨ ∃ time ∈ first.ends, t.nextTime? = some time ∧ heeded < time
        ∧ ∀ e ∈ first.ends, heeded < e → time ≤ e := by
  have hnext : t.nextTime? = (first.ends.filter (heeded < ·)).min? := by
    unfold TaskTable.nextTime? ends
    rw [h.tasks, List.filterMap_map, List.filter_filterMap]
    congr 2
    funext task
    exact task.endTime?_expire heeded
  rw [hnext]
  cases hmin : (first.ends.filter (heeded < ·)).min? with
  | none =>
      refine .inl ⟨rfl, ?_⟩
      simpa using List.filter_eq_nil_iff.mp (List.min?_eq_none_iff.mp hmin)
  | some time =>
      obtain ⟨hmem, hle⟩ := List.min?_eq_some_iff.mp hmin
      obtain ⟨hmem, hlt⟩ := List.mem_filter.mp hmem
      refine .inr ⟨time, hmem, rfl, of_decide_eq_true hlt, ?_⟩
      intro e he hlater
      exact hle e (List.mem_filter.mpr ⟨he, decide_eq_true hlater⟩)

/-- The task at a place has ended, or its end is still to come. -/
theorem ending?_cases (h : Follows first heeded t) {place : Nat}
    (hplace : place < first.tasks.length) :
    (∃ e ending, first.endOf? place = some e ∧ e ≤ heeded
        ∧ t.ending? place = some ending
        ∧ ending.fault? = first.ownFault? place)
      ∨ t.ending? place = none ∧ ∀ e, first.endOf? place = some e →
        e ∈ first.ends ∧ heeded < e := by
  have htask : first.tasks[place]? = some first.tasks[place] :=
    List.getElem?_eq_getElem hplace
  have hending : t.ending? place
      = if (first.endOf? place).any (· ≤ heeded)
        then some first.tasks[place].plan.ending else none := by
    unfold TaskTable.ending? endOf?
    rw [h.tasks, List.getElem?_map, htask, Option.map_some,
      Option.bind_some, Option.bind_some, RunningTask.expire_eq]
    by_cases hended : first.tasks[place].ended
    · simp [hended, h.first_le]
    · simp [hended]
  rw [hending]
  split
  · next hany =>
      obtain ⟨e, he, hle⟩ := (Option.any_eq_true _ _).mp hany
      refine .inl ⟨e, _, he, of_decide_eq_true hle, rfl, ?_⟩
      rw [ownFault?, htask, Option.bind_some]
  · next hnot =>
      refine .inr ⟨rfl, fun e he => ?_⟩
      have hlt : heeded < e := by simpa [he] using hnot
      refine ⟨(mem_ends_of_endOf? he).resolve_left ?_, hlt⟩
      exact Nat.ne_of_gt (Nat.lt_of_le_of_lt h.first_le hlt)

theorem settle (hfirst : first.JustAsked) (h : Follows first heeded t)
    {now : Nat} (hle : t.now ≤ now) :
    Follows first now ({ t with now }.settle) where
  tasks := by
    simp only [TaskTable.settle, List.map_map, h.tasks, h.asked]
    refine List.map_congr_left fun task htask => ?_
    have hawake : (task.expire heeded).1.since.isSome := by
      rw [RunningTask.expire_eq]
      exact hfirst.awake task htask
    simp only [Function.comp_apply, RunningTask.run,
      RunningTask.awaken_of_since hawake]
    exact task.expire_expire (Nat.le_trans h.heeded_le hle)
  asked := h.asked
  first_le := Nat.le_trans h.first_le (Nat.le_trans h.heeded_le hle)
  heeded_le := Nat.le_refl _
  due e _ hlt := Nat.le_of_lt hlt

/-- Time passes up to the next end at most. -/
theorem lapse (h : Follows first heeded t) {now : Nat} (hle : t.now ≤ now)
    (hdue : ∀ e ∈ first.ends, heeded < e → now ≤ e) :
    Follows first heeded { t with now } where
  tasks := h.tasks
  asked := h.asked
  first_le := h.first_le
  heeded_le := Nat.le_trans h.heeded_le hle
  due e he hlt := by
    by_contra hlater
    exact Nat.not_lt.mpr (hdue e he (Nat.not_le.mp hlater)) hlt

end Follows

/-! ## Waiting for one task -/

/-- The task at a place has not ended before some time. -/
def RunsUntil (t : TaskTable) (place time : Nat) : Prop :=
  ∀ e, t.endOf? place = some e → time ≤ e

instance (t : TaskTable) (place time : Nat) :
    Decidable (t.RunsUntil place time) :=
  inferInstanceAs (Decidable (∀ e, t.endOf? place = some e → time ≤ e))

/-- What is found wrong with a task that is waited for up to a deadline. -/
def faultBy? (t : TaskTable) (place deadline : Nat) : Option TaskFault :=
  if t.RunsUntil place deadline then some .late else t.ownFault? place

/-- When the wait for a task is over that began at some time. -/
def waitOver (t : TaskTable) (begins place deadline : Nat) : Nat :=
  match t.endOf? place with
  | some e => if e < deadline then max begins e else deadline
  | none => deadline

section

variable {t : TaskTable} {place deadline e : Nat}

theorem faultBy?_of_runs (h : t.RunsUntil place deadline) :
    t.faultBy? place deadline = some .late :=
  if_pos h

theorem faultBy?_of_ended (he : t.endOf? place = some e)
    (hlt : e < deadline) : t.faultBy? place deadline = t.ownFault? place :=
  if_neg fun h => Nat.not_le.mpr hlt (h e he)

theorem waitOver_of_runs (h : t.RunsUntil place deadline) (begins : Nat) :
    t.waitOver begins place deadline = deadline := by
  unfold waitOver
  split
  · next e he => exact if_neg (Nat.not_lt.mpr (h e he))
  · rfl

theorem waitOver_of_ended (he : t.endOf? place = some e)
    (hlt : e < deadline) (begins : Nat) :
    t.waitOver begins place deadline = max begins e := by
  simp only [waitOver, he, if_pos hlt]

theorem waitOver_max {time : Nat} (h : t.RunsUntil place time)
    (begins deadline : Nat) :
    t.waitOver (max begins time) place deadline
      = t.waitOver begins place deadline := by
  unfold waitOver
  split
  · next e he => rw [Nat.max_assoc, Nat.max_eq_right (h e he)]
  · rfl

end

theorem pending_lt (ends : List Nat) {earlier later time : Nat}
    (hle : earlier ≤ later) (hmem : time ∈ ends) (hlt : earlier < time)
    (hover : time ≤ later) :
    (ends.filter (later < ·)).length < (ends.filter (earlier < ·)).length := by
  have hfilter : ends.filter (later < ·)
      = (ends.filter (earlier < ·)).filter (later < ·) := by
    rw [List.filter_filter]
    refine List.filter_congr fun e _ => ?_
    by_cases h : later < e
    · simp [h, Nat.lt_of_le_of_lt hle h]
    · simp [h]
  rw [hfilter, List.length_filter_lt_length_iff_exists]
  refine ⟨time, List.mem_filter.mpr ⟨hmem, decide_eq_true hlt⟩, ?_⟩
  simpa using hover

/-- What a wait for the task at a place comes to, and what it leaves. -/
structure Waited (first : TaskTable) (begins place deadline : Nat)
    (after : TaskTable × Option TaskFault) : Prop where
  follows : ∃ heeded, Follows first heeded after.1
  clock : after.1.now = first.waitOver begins place deadline
  fault : after.2 = first.faultBy? place deadline

namespace Follows

variable {first t : TaskTable} {heeded place deadline e : Nat}

theorem waited_ended (h : Follows first heeded t) (hlater : t.now < deadline)
    (he : first.endOf? place = some e) (hle : e ≤ heeded)
    {fault : Option TaskFault} (hown : fault = first.ownFault? place) :
    Waited first t.now place deadline (t, fault) := by
  have hle : e ≤ t.now := Nat.le_trans hle h.heeded_le
  have hlt : e < deadline := Nat.lt_of_le_of_lt hle hlater
  refine ⟨⟨heeded, h⟩, ?_, hown.trans (faultBy?_of_ended he hlt).symm⟩
  rw [waitOver_of_ended he hlt, Nat.max_eq_left hle]

theorem waited_late (h : Follows first heeded t) (hlater : t.now < deadline)
    (hruns : first.RunsUntil place deadline)
    (hdue : ∀ e ∈ first.ends, heeded < e → deadline ≤ e) :
    Waited first t.now place deadline
      ({ t with now := max t.now deadline }, some .late) := by
  rw [Nat.max_eq_right (Nat.le_of_lt hlater)]
  refine ⟨⟨heeded, h.lapse (Nat.le_of_lt hlater) hdue⟩, ?_, ?_⟩
  · exact (waitOver_of_runs hruns t.now).symm
  · exact (faultBy?_of_runs hruns).symm

theorem waited_await (hfirst : first.JustAsked) {fuel : Nat}
    (h : Follows first heeded t) (hplace : place < first.tasks.length)
    (hlater : t.now < deadline)
    (hfuel : (first.ends.filter (heeded < ·)).length < fuel) :
    Waited first t.now place deadline (t.await place deadline fuel) := by
  -- every stop but the last passes one of the ends that are to come, so the
  -- fuel lasts for as long as there are some
  induction fuel generalizing t heeded with
  | zero => exact absurd hfuel (Nat.not_lt_zero _)
  | succ fuel ih =>
      rw [TaskTable.await]
      rcases h.ending?_cases hplace with
        ⟨e, ending, he, hle, hending, hown⟩ | ⟨hending, hahead⟩
      · rw [hending]
        exact h.waited_ended hlater he hle hown
      rw [hending]
      rcases h.nextTime?_cases with
        ⟨hnext, hnone⟩ | ⟨time, htime, hnext, hlt, hmin⟩
      · rw [hnext]
        refine h.waited_late hlater (fun e he => ?_) fun e he hlt => ?_
        · obtain ⟨he, hlt⟩ := hahead e he
          exact absurd hlt (Nat.not_lt.mpr (hnone e he))
        · exact absurd hlt (Nat.not_lt.mpr (hnone e he))
      have hruns : first.RunsUntil place time :=
        fun e he => hmin e (hahead e he).1 (hahead e he).2
      rw [hnext]
      by_cases hsoon : time < deadline
      · simp only [if_pos hsoon]
        have hsettled := h.settle hfirst (Nat.le_max_left t.now time)
        have hfewer := pending_lt first.ends
          (Nat.le_trans h.heeded_le (Nat.le_max_left t.now time))
          htime hlt (Nat.le_max_right t.now time)
        have hwaited := ih hsettled (Nat.max_lt.mpr ⟨hlater, hsoon⟩)
          (Nat.lt_of_lt_of_le hfewer (Nat.le_of_lt_succ hfuel))
        refine ⟨hwaited.follows, ?_, hwaited.fault⟩
        rw [hwaited.clock]
        exact waitOver_max hruns t.now deadline
      · simp only [if_neg hsoon]
        have hdeadline : deadline ≤ time := Nat.not_lt.mp hsoon
        refine h.waited_late hlater (fun e he => ?_) fun e he hlt => ?_
        · exact Nat.le_trans hdeadline (hruns e he)
        · exact Nat.le_trans hdeadline (hmin e he hlt)

end Follows

/-! ## One task after the other -/

/-- All that is found wrong with the tasks at some places, which are waited
for in this order. -/
def reports (t : TaskTable) : List Nat → List (Nat × TaskFault)
  | [] => []
  | place :: rest =>
    let (t, fault) :=
      t.await place (t.now + shutdownLimit) (t.tasks.length + 1)
    (fault.map (place, ·)).toList ++ t.reports rest

/-- The same from the ends of the tasks. -/
def reportsFrom (t : TaskTable) (begins : Nat) :
    List Nat → List (Nat × TaskFault)
  | [] => []
  | place :: rest =>
    ((t.faultBy? place (begins + shutdownLimit)).map (place, ·)).toList
      ++ t.reportsFrom
        (t.waitOver begins place (begins + shutdownLimit)) rest

/-- When the tasks at some places have been waited for. -/
def turnFrom (t : TaskTable) (begins : Nat) : List Nat → Nat
  | [] => begins
  | place :: rest =>
    t.turnFrom (t.waitOver begins place (begins + shutdownLimit)) rest

theorem reportsFrom_append (t : TaskTable) (begins : Nat)
    (before after : List Nat) :
    t.reportsFrom begins (before ++ after)
      = t.reportsFrom begins before
        ++ t.reportsFrom (t.turnFrom begins before) after := by
  induction before generalizing begins with
  | nil => rfl
  | cons place before ih =>
      rw [List.cons_append, reportsFrom, ih, reportsFrom, turnFrom,
        List.append_assoc]

theorem mem_places_of_report {t : TaskTable} {begins : Nat}
    {places : List Nat} {r : Nat × TaskFault}
    (h : r ∈ t.reportsFrom begins places) : r.1 ∈ places := by
  induction places generalizing begins with
  | nil => cases h
  | cons place places ih =>
      rcases List.mem_append.mp h with h | h
      · obtain ⟨fault, -, rfl⟩ := Option.map_eq_some_iff.mp
          (Option.mem_toList.mp h)
        exact List.mem_cons_self ..
      · exact List.mem_cons_of_mem _ (ih h)

namespace Follows

variable {first t : TaskTable} {heeded : Nat} {places : List Nat}

theorem waited (hfirst : first.JustAsked) (h : Follows first heeded t)
    {place : Nat} (hplace : place < first.tasks.length) :
    Waited first t.now place (t.now + shutdownLimit)
      (t.await place (t.now + shutdownLimit) (t.tasks.length + 1)) := by
  refine h.waited_await hfirst hplace (Nat.lt_add_of_pos_right (by decide))
    (Nat.lt_succ_of_le ?_)
  have hlength : t.tasks.length = first.tasks.length := by
    rw [h.tasks, List.length_map]
  rw [hlength]
  exact Nat.le_trans (List.length_filter_le ..) (List.length_filterMap_le ..)

theorem reports (hfirst : first.JustAsked) (h : Follows first heeded t)
    (hplaces : ∀ p ∈ places, p < first.tasks.length) :
    t.reports places = first.reportsFrom t.now places := by
  induction places generalizing t heeded with
  | nil => rfl
  | cons place places ih =>
      obtain ⟨hplace, hplaces⟩ := List.forall_mem_cons.mp hplaces
      obtain ⟨⟨heeded', hfollows⟩, hclock, hfault⟩ := h.waited hfirst hplace
      rw [TaskTable.reports, reportsFrom, ← hfault, ← hclock]
      exact congrArg _ (ih hfollows hplaces)

theorem faultAt? (h : Follows first heeded t) (place : Nat)
    (fault : Option TaskFault) :
    t.faultAt? place fault = first.faultAt? place fault := by
  unfold TaskTable.faultAt?
  rw [h.tasks, List.getElem?_map]
  cases first.tasks[place]? with
  | none => rfl
  | some task =>
      simp only [Option.map_some, Option.bind_some, RunningTask.expire_eq]

theorem awaitAll (hfirst : first.JustAsked) (h : Follows first heeded t)
    (hplaces : ∀ p ∈ places, p < first.tasks.length) :
    (∃ heeded', Follows first heeded' (t.awaitAll places).1)
      ∧ (t.awaitAll places).2 = (t.reports places).head?.bind fun r =>
          first.faultAt? r.1 (some r.2) := by
  induction places generalizing t heeded with
  | nil => exact ⟨⟨heeded, h⟩, rfl⟩
  | cons place places ih =>
      obtain ⟨hplace, hplaces⟩ := List.forall_mem_cons.mp hplaces
      obtain ⟨⟨heeded', hfollows⟩, -, -⟩ := h.waited hfirst hplace
      obtain ⟨⟨last, hlast⟩, hlater⟩ := ih hfollows hplaces
      refine ⟨⟨last, hlast⟩, ?_⟩
      rw [TaskTable.awaitAll, TaskTable.reports]
      generalize t.await place _ _ = waited at hlast hlater ⊢
      obtain ⟨after, fault⟩ := waited
      simp only [hlater, hlast.faultAt?]
      cases fault with
      | none =>
          have hnone : first.faultAt? place none = none := by
            unfold TaskTable.faultAt?
            cases first.tasks[place]? <;> rfl
          rw [hnone]
          rfl
      | some fault =>
          have hsome : first.faultAt? place (some fault)
              = some ⟨first.tasks[place].name, fault⟩ := by
            unfold TaskTable.faultAt?
            rw [List.getElem?_eq_getElem hplace]
            rfl
          rw [hsome]
          exact hsome.symm

end Follows

/-! ## What a shutdown reports -/

theorem ownFault?_ne_late (t : TaskTable) (place : Nat) :
    t.ownFault? place ≠ some .late := by
  unfold ownFault?
  cases t.tasks[place]? with
  | none => nofun
  | some task =>
      change task.plan.ending.fault? ≠ some .late
      cases task.plan.ending <;> nofun

theorem le_turnFrom (t : TaskTable) (begins : Nat) (before : List Nat) :
    begins ≤ t.turnFrom begins before
      ∧ t.turnFrom begins before ≤ begins + shutdownLimit * before.length := by
  induction before generalizing begins with
  | nil => exact ⟨Nat.le_refl _, Nat.le_refl _⟩
  | cons place before ih =>
      have hwait : begins ≤ t.waitOver begins place (begins + shutdownLimit)
          ∧ t.waitOver begins place (begins + shutdownLimit)
            ≤ begins + shutdownLimit := by
        unfold waitOver
        split
        · split <;> omega
        · omega
      obtain ⟨hge, hle⟩ :=
        ih (t.waitOver begins place (begins + shutdownLimit))
      rw [turnFrom, List.length_cons, Nat.mul_succ]
      omega

theorem mem_reportsFrom {t : TaskTable} {begins place : Nat}
    {before after : List Nat} (hnodup : (before ++ place :: after).Nodup)
    (fault : TaskFault) :
    (place, fault) ∈ t.reportsFrom begins (before ++ place :: after)
      ↔ t.faultBy? place (t.turnFrom begins before + shutdownLimit)
        = some fault := by
  obtain ⟨-, hplace, hapart⟩ := List.nodup_append.mp hnodup
  have hbefore : ∀ begins, (place, fault) ∉ t.reportsFrom begins before :=
    fun begins h => hapart place (mem_places_of_report h) place
      (List.mem_cons_self ..) rfl
  have hafter : ∀ begins, (place, fault) ∉ t.reportsFrom begins after :=
    fun begins h => (List.nodup_cons.mp hplace).1 (mem_places_of_report h)
  rw [reportsFrom_append, List.mem_append, or_iff_right (hbefore begins),
    reportsFrom, List.mem_append, or_iff_left (hafter _), Option.mem_toList]
  simp

theorem heldPlaces_eq (t : TaskTable) :
    t.heldPlaces = (t.tasks.zipIdx.filter (·.1.held)).map (·.2) := by
  unfold heldPlaces
  induction t.tasks.zipIdx with
  | nil => rfl
  | cons entry rest ih =>
      cases hheld : entry.1.held with
      | true => simp [hheld, ih]
      | false => simp [hheld, ih]

theorem lt_of_mem_heldPlaces {t : TaskTable} {place : Nat}
    (h : place ∈ t.heldPlaces) : place < t.tasks.length := by
  rw [heldPlaces_eq] at h
  obtain ⟨⟨task, i⟩, hmem, rfl⟩ := List.mem_map.mp h
  have hentry := List.mem_zipIdx_iff_getElem?.mp (List.mem_filter.mp hmem).1
  exact (List.getElem?_eq_some_iff.mp hentry).1

theorem nodup_heldPlaces (t : TaskTable) : t.heldPlaces.Nodup := by
  have hplaces : (t.tasks.zipIdx.map (·.2)).Nodup := by
    rw [List.zipIdx_map_snd]
    exact List.nodup_range'
  rw [heldPlaces_eq]
  exact hplaces.sublist (List.filter_sublist.map _)

theorem length_tasks_ask (t : TaskTable) :
    t.ask.tasks.length = t.tasks.length := by
  rw [ask, settle, List.map_map, List.length_map]

theorem name_ask (t : TaskTable) (place : Nat) :
    (t.ask.tasks[place]?).map (·.name) = (t.tasks[place]?).map (·.name) := by
  simp only [ask, settle, List.map_map, List.getElem?_map, Option.map_map]
  congr 1
  funext task
  obtain ⟨_, _, hrun⟩ := task.run_frame t.now true
  simp [hrun]

theorem heldPlaces_shutdownIn (t : TaskTable) (places : List Nat) :
    (t.shutdownIn places).1.heldPlaces = [] := by
  rw [heldPlaces_eq, List.map_eq_nil_iff, List.filter_eq_nil_iff]
  rintro ⟨task, place⟩ hmem hheld
  have htask := List.mem_of_getElem? (List.mem_zipIdx_iff_getElem?.mp hmem)
  simp only [shutdownIn, settle, List.map_map, List.mem_map] at htask
  obtain ⟨before, -, rfl⟩ := htask
  obtain ⟨_, _, hrun⟩ := before.release.run_frame
    (t.ask.awaitAll places).1.now (t.ask.awaitAll places).1.asked
  simp only [Function.comp_apply, hrun] at hheld
  cases hheld

section

variable {t : TaskTable} {places : List Nat}

theorem reports_ask (h : ∀ p ∈ places, p < t.tasks.length) :
    t.ask.reports places = t.ask.reportsFrom t.now places := by
  rw [← t.length_tasks_ask] at h
  exact (justAsked_ask t).follows.reports (justAsked_ask t) h

/-- The first report is the error of a shutdown. -/
theorem shutdownIn_of_report (h : ∀ p ∈ places, p < t.tasks.length)
    {place : Nat} {fault : TaskFault}
    (hhead : (t.ask.reports places).head? = some (place, fault)) :
    ∃ task, t.tasks[place]? = some task
      ∧ (t.shutdownIn places).2 = .error ⟨task.name, fault⟩ := by
  have hreport := List.mem_of_mem_head? hhead
  rw [reports_ask h] at hreport
  rw [← t.length_tasks_ask] at h
  have hplace := h place (mem_places_of_report hreport)
  have hname := t.name_ask place
  rw [List.getElem?_eq_getElem hplace] at hname
  obtain ⟨task, htask, hname⟩ := Option.map_eq_some_iff.mp hname.symm
  refine ⟨task, htask, ?_⟩
  obtain ⟨-, hkept⟩ := (justAsked_ask t).follows.awaitAll (justAsked_ask t) h
  simp only [shutdownIn, hkept, hhead, Option.bind_some, faultAt?,
    List.getElem?_eq_getElem hplace, Option.map_some, ← hname]

theorem shutdownIn_ok_iff (h : ∀ p ∈ places, p < t.tasks.length) :
    (t.shutdownIn places).2 = .ok () ↔ t.ask.reports places = [] := by
  cases hhead : (t.ask.reports places).head? with
  | none =>
      refine iff_of_true ?_ (List.head?_eq_none_iff.mp hhead)
      rw [← t.length_tasks_ask] at h
      obtain ⟨-, hkept⟩ :=
        (justAsked_ask t).follows.awaitAll (justAsked_ask t) h
      simp only [shutdownIn, hkept, hhead, Option.bind_none]
  | some r =>
      obtain ⟨task, -, herror⟩ := shutdownIn_of_report h hhead
      refine iff_of_false ?_
        (List.ne_nil_of_mem (List.mem_of_mem_head? hhead))
      rw [herror]
      nofun

end

/-- What a shutdown reports of the task at a place whose turn comes at some
time. It is late if it runs for the limit from its turn on; otherwise its
own fault is reported. So the fault of a task that ends within the limit
from the request on is always reported; but of those that run on only the
ones are late that still run at a deadline of their own. -/
structure Reported (asked : TaskTable) (reports : List (Nat × TaskFault))
    (turn place : Nat) : Prop where
  late_iff : (place, .late) ∈ reports
    ↔ asked.RunsUntil place (turn + shutdownLimit)
  fault_iff : ∀ fault, fault ≠ .late →
    ((place, fault) ∈ reports
      ↔ ¬ asked.RunsUntil place (turn + shutdownLimit)
        ∧ asked.ownFault? place = some fault)
  prompt : ¬ asked.RunsUntil place (asked.now + shutdownLimit) →
    ∀ fault, (place, fault) ∈ reports ↔ asked.ownFault? place = some fault
  even_iff : ((place, .late) ∈ reports
      ↔ asked.RunsUntil place (asked.now + shutdownLimit))
    ↔ (asked.RunsUntil place (asked.now + shutdownLimit) →
      asked.RunsUntil place (turn + shutdownLimit))

theorem reported_of_mem_iff {t : TaskTable} {turn place : Nat}
    {reports : List (Nat × TaskFault)} (hturn : t.now ≤ turn)
    (h : ∀ fault, (place, fault) ∈ reports
      ↔ t.faultBy? place (turn + shutdownLimit) = some fault) :
    Reported t reports turn place := by
  have hshort : t.RunsUntil place (turn + shutdownLimit) →
      t.RunsUntil place (t.now + shutdownLimit) := by
    intro hruns e he
    exact Nat.le_trans (Nat.add_le_add_right hturn _) (hruns e he)
  have hlate : (place, .late) ∈ reports
      ↔ t.RunsUntil place (turn + shutdownLimit) := by
    rw [h, faultBy?]
    split
    · next hruns => exact iff_of_true rfl hruns
    · next hruns => exact iff_of_false (t.ownFault?_ne_late place) hruns
  refine ⟨hlate, fun fault hne => ?_, fun hended fault => ?_, ?_⟩
  · rw [h, faultBy?]
    split
    · next hruns =>
        exact iff_of_false (fun heq => hne (Option.some.inj heq).symm)
          fun hboth => hboth.1 hruns
    · next hruns => exact (and_iff_right hruns).symm
  · rw [h, faultBy?, if_neg fun hruns => hended (hshort hruns)]
  · rw [hlate]
    exact ⟨Iff.mpr, fun hlong => ⟨hshort, hlong⟩⟩

/-- What comes of a shutdown, in whatever order it waits for its tasks. -/
theorem reported_shutdownIn (t : TaskTable) {places : List Nat}
    (hall : places.Perm t.heldPlaces) :
    let reports := t.ask.reports places
    (t.shutdownIn places).1.heldPlaces = []
      ∧ ((t.shutdownIn places).2 = .ok () ↔ reports = [])
      ∧ (∀ place fault, reports.head? = some (place, fault) →
          ∃ task, t.tasks[place]? = some task
            ∧ (t.shutdownIn places).2 = .error ⟨task.name, fault⟩)
      ∧ (∀ r ∈ reports, r.1 ∈ places)
      ∧ ∀ before place later, places = before ++ place :: later →
          let turn := t.ask.turnFrom t.now before
          t.now ≤ turn ∧ turn ≤ t.now + shutdownLimit * before.length
            ∧ Reported t.ask reports turn place := by
  intro reports
  have hvalid : ∀ p ∈ places, p < t.tasks.length :=
    fun p hp => lt_of_mem_heldPlaces (hall.mem_iff.mp hp)
  have hnodup : places.Nodup := hall.nodup_iff.mpr t.nodup_heldPlaces
  have hreports : reports = t.ask.reportsFrom t.now places :=
    reports_ask hvalid
  refine ⟨t.heldPlaces_shutdownIn places, shutdownIn_ok_iff hvalid,
    fun place fault => shutdownIn_of_report hvalid, fun r hr => ?_,
    fun before place later horder => ?_⟩
  · rw [hreports] at hr
    exact mem_places_of_report hr
  · obtain ⟨hge, hle⟩ := t.ask.le_turnFrom t.now before
    refine ⟨hge, hle, reported_of_mem_iff hge fun fault => ?_⟩
    rw [horder] at hnodup
    rw [hreports, horder]
    exact mem_reportsFrom hnodup fault

/-- One task that takes its time to stop, and one that goes on for longer
than a shutdown waits. -/
def slowAndLong : TaskTable :=
  (empty.start "slow" (.slow 9000)).start "long" (.timed 15000)

theorem reported_shutdownIn_slowAndLong :
    [0, 1].Perm slowAndLong.heldPlaces
      ∧ Reported slowAndLong.ask (slowAndLong.ask.reports [0, 1]) 9000 1 := by
  have hall : [0, 1].Perm slowAndLong.heldPlaces := by decide
  have hturn : slowAndLong.ask.turnFrom slowAndLong.now [0] = 9000 := by
    decide
  obtain ⟨-, -, -, -, hturns⟩ := reported_shutdownIn slowAndLong hall
  obtain ⟨-, -, hreported⟩ := hturns [0] 1 [] rfl
  rw [hturn] at hreported
  exact ⟨hall, hreported⟩

/-- The long task runs on when the time is up, but nothing is reported if
the slow one is waited for before it; in the other order it is late. -/
theorem long_task_overlooked :
    slowAndLong.heldPlaces = [0, 1]
      ∧ slowAndLong.ask.RunsUntil 1 (slowAndLong.now + shutdownLimit)
      ∧ slowAndLong.ask.reports [0, 1] = []
      ∧ (slowAndLong.shutdownIn [0, 1]).2 = .ok ()
      ∧ slowAndLong.ask.reports [1, 0] = [(1, .late)]
      ∧ (slowAndLong.shutdownIn [1, 0]).2 = .error ⟨"long", .late⟩ :=
  ⟨rfl, by decide, rfl, rfl, rfl, rfl⟩

end TaskTable

end Gateway
