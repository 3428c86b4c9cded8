import Gateway.Proofs.Loop.Reports

/-!
# Policies of the access point on their way

A policy that the loop is sent waits in its queue until a turn takes it, and
is then the one that the loop goes by. Queued and sent together are taken and
still queued together, in this order (`Task.Serves`), and the last one taken
is the one in use.
-/

namespace Gateway.Loop

/-- The policy that a message orders. -/
def Message.wifiPolicy? : Message → Option WifiPolicy
  | .command (.setWifiPolicy policy) => some policy
  | _ => none

theorem Message.policyAfter_eq (m : Message) (policy : WifiPolicy) :
    m.policyAfter policy = m.wifiPolicy?.getD policy := by
  cases m with
  | command c => cases c <;> rfl
  | battery r => rfl
  | network n => rfl
  | wifi alive => rfl

/-- The policies that an input takes from those that wait. -/
def Input.takenPolicies (input : Input) : List WifiPolicy :=
  input.taken.filterMap Message.wifiPolicy?

/-- A step goes by the policy that it takes, if any. -/
theorem State.step_wifiPolicy (s : State) (around : Surroundings)
    (input : Input) :
    (s.step around input).1.wifiPolicy
      = input.takenPolicies.getLast?.getD s.wifiPolicy := by
  cases input with
  | key k =>
      rw [step, key_eq]
      rfl
  | message m =>
      rw [step, handle_eq]
      dsimp only
      rw [m.policyAfter_eq]
      cases hm : m.wifiPolicy? <;>
        simp [Input.takenPolicies, Input.taken, hm]
  | renderTick =>
      rw [step, renderTick]
      rfl
  | longPress =>
      rw [step, longPress]
      rfl
  | countdown =>
      rw [step, countedDown]
      rfl

namespace Task

/-- The policies that wait. -/
def policies (t : Task) : List WifiPolicy :=
  t.messages.filterMap Message.wifiPolicy?

/-- The loop before and after it was sent policies and took some of those
that waited. -/
structure Serves (t t' : Task) (sent : List WifiPolicy) : Prop where
  renderPeriod : t'.renderPeriod = t.renderPeriod
  takes : t'.takes = true → t.takes = true
  policies : t'.takes = true → ∃ taken,
    t.policies ++ sent = taken ++ t'.policies
      ∧ t'.state.wifiPolicy = taken.getLast?.getD t.state.wifiPolicy

variable {t t' t'' : Task} {sent later : List WifiPolicy}

theorem serves_same (t : Task) : t.Serves t [] :=
  ⟨rfl, id, fun _ => ⟨[], List.append_nil _, rfl⟩⟩

theorem Serves.trans (h : t.Serves t' sent) (h' : t'.Serves t'' later) :
    t.Serves t'' (sent ++ later) := by
  refine ⟨h'.renderPeriod.trans h.renderPeriod,
    fun htakes => h.takes (h'.takes htakes), fun htakes => ?_⟩
  obtain ⟨taken, hqueue, hpolicy⟩ := h.policies (h'.takes htakes)
  obtain ⟨taken', hqueue', hpolicy'⟩ := h'.policies htakes
  refine ⟨taken ++ taken', ?_, ?_⟩
  · rw [← List.append_assoc, hqueue, List.append_assoc, hqueue',
      List.append_assoc]
  · rw [hpolicy', hpolicy, List.getLast?_append]
    cases taken'.getLast? <;> rfl

/-- What leaves the state and appends to the queue. -/
theorem serves_of_append (told : List Message)
    (hperiod : t'.renderPeriod = t.renderPeriod)
    (htakes : t'.takes = true → t.takes = true)
    (hmessages : t'.takes = true → t'.messages = t.messages ++ told)
    (hpolicy : t'.state.wifiPolicy = t.state.wifiPolicy) :
    t.Serves t' (told.filterMap Message.wifiPolicy?) := by
  refine ⟨hperiod, htakes, fun h => ⟨[], ?_, hpolicy⟩⟩
  unfold Task.policies
  rw [hmessages h, List.filterMap_append, List.nil_append]

theorem serves_send (t : Task) (m : Message) :
    t.Serves (t.send m) m.wifiPolicy?.toList := by
  have htold : m.wifiPolicy?.toList = [m].filterMap Message.wifiPolicy? := by
    cases hm : m.wifiPolicy? <;> simp [hm]
  rw [htold]
  refine serves_of_append [m] ?_ (fun h => t.takes_send m ▸ h)
    (fun h => ?_) ?_
  · unfold send send?
    split <;> rfl
  · rw [t.takes_send] at h
    exact (hears_send h m).messages
  · unfold send send?
    split <;> rfl

theorem serves_start (t : Task) (now : Nat) (h : t.isWaiting = true) :
    t.Serves (t.start now) [] := by
  have htakes : t.takes = true := by
    have hphase : t.phase = .waiting := of_decide_eq_true h
    simp [takes, hphase]
  have hbegin : t.state.begin
      = { t.state with table := t.state.begin.table } := by
    unfold State.begin
    rw [State.paintAll_eq]
  have hpolicy : t.state.begin.wifiPolicy = t.state.wifiPolicy := by
    rw [hbegin]
  refine serves_of_append [] ?_ (fun _ => htakes)
    (fun h => (hears_start h).messages) ?_
  · unfold start
    dsimp only
    split <;> rfl
  · unfold start
    dsimp only
    split <;> exact hpolicy

theorem serves_press? {k : KeyEvent} (h : t.press? k = some t') :
    t.Serves t' [] := by
  unfold press? at h
  split at h
  · next htakes =>
      cases h
      exact serves_of_append [] rfl (fun _ => htakes)
        (fun _ => (List.append_nil _).symm) rfl
  · cases h

theorem serves_cancel (t : Task) : t.Serves t.cancel [] :=
  serves_of_append [] rfl id (fun _ => (List.append_nil _).symm) rfl

theorem nextInput?_renderPeriod {rest : Task} {ticker : Ticker} {now : Nat}
    {input : Input} (h : t.nextInput? ticker now = some (input, rest)) :
    rest.renderPeriod = t.renderPeriod := by
  unfold nextInput? at h
  split at h
  · cases h
    rfl
  · cases h
    rfl
  split at h
  · cases h
    rfl
  split at h
  · cases h
    rfl
  split at h
  · cases h
    rfl
  · cases h

theorem renderPeriod_turn? {around : Surroundings} {effects : List Effect}
    (h : t.turn? around = some (t', effects)) :
    t'.renderPeriod = t.renderPeriod := by
  unfold turn? at h
  split at h
  · split at h
    · obtain ⟨rfl, -⟩ := Prod.mk.inj (Option.some.inj h)
      rw [close]
    · obtain ⟨⟨input, rest⟩, hinput, heq⟩ := Option.map_eq_some_iff.mp h
      obtain ⟨rfl, -⟩ := Prod.mk.inj heq
      have hperiod := nextInput?_renderPeriod hinput
      exact hperiod
  · cases h

/-- A turn takes the first policy that waits, or none. -/
theorem serves_turn? {around : Surroundings} {effects : List Effect}
    (h : t.turn? around = some (t', effects)) : t.Serves t' [] := by
  refine ⟨renderPeriod_turn? h, fun _ => takes_of_turn? h, fun htakes => ?_⟩
  rcases turn?_cases h with ⟨-, hend⟩ | ⟨input, hstep, -, hqueue⟩
  · rw [hend] at htakes
    cases htakes
  · refine ⟨input.takenPolicies, ?_, ?_⟩
    · unfold Task.policies
      rw [hqueue, List.filterMap_append, List.append_nil]
      rfl
    · have hstate : t'.state = (t.state.step around input).1 :=
        congrArg Prod.fst hstep
      rw [hstate]
      exact t.state.step_wifiPolicy around input

end Task

end Gateway.Loop
