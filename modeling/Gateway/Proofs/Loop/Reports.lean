import Gateway.Proofs.Loop.Run

/-!
# Reports on their way

Reports wait in the loop's queue and are noted one after the other. The
*prospect* of a loop is the status it will have once those that wait now
are noted, in order, whatever the commands between them do.

- **Steps** (`State.step_status`): a step refreshes, or it notes the
  report that it takes, if any.
- **The prospect** (`Task.prospect_turn?`, `Task.Hears.prospect`): a turn
  that does not refresh leaves it; a message that comes in is noted in it.
- **The battery** (`battery_foldl_of_waiting`): the last report of the
  battery that waits decides what the prospect says of it, so a refresh
  does not reach it.
-/

namespace Gateway

namespace DeviceStatus

/-- What the status says of the network. -/
def sample (d : DeviceStatus) : Network.Sample := ⟨d.network, d.is5g⟩

/-- What the status says of the battery. -/
def battery (d : DeviceStatus) : Option UInt8 × Option Bool :=
  (d.batteryCapacity, d.batteryCharging)

end DeviceStatus

/-- What a status that shows a reading says of the battery. -/
def Battery.Key.shown (k : Battery.Key) : Option UInt8 × Option Bool :=
  (k.capacity, some k.charging)

namespace Loop

/-- The status with a report noted in it. A command is no report. -/
def noted (d : DeviceStatus) : Message → DeviceStatus
  | .battery r =>
      { d with batteryCapacity := r.capacity
               batteryCharging := some r.isCharging }
  | .network n => { d with network := n.state, is5g := n.is5g }
  | .wifi alive => { d with wifiRunning := some alive }
  | .command _ => d

/-- What none of the reports touches stays. -/
theorem part_foldl {α : Type} {part : DeviceStatus → α} {ms : List Message}
    (h : ∀ m ∈ ms, ∀ d, part (noted d m) = part d) (d : DeviceStatus) :
    part (ms.foldl noted d) = part d := by
  induction ms generalizing d with
  | nil => rfl
  | cons m rest ih =>
      obtain ⟨hm, hrest⟩ := List.forall_mem_cons.mp h
      rw [List.foldl_cons, ih hrest, hm]

/-! ## Steps -/

namespace State

/-- A step refreshes, or all it does to the status is to note the report
that it takes. -/
theorem step_status (s : State) (around : Surroundings) (input : Input) :
    (s.step around input).1.refreshes = s.refreshes + 1
      ∨ (s.step around input).1.refreshes = s.refreshes
        ∧ (s.step around input).1.status
            = input.taken.foldl noted s.status := by
  cases input with
  | key k =>
      rw [step]
      rcases s.key_cases around k with
        ⟨-, classifier, hkey⟩ | ⟨-, classifier, longPressAt, hkey⟩
      · rw [hkey]
        cases hled : s.ledEnabled with
        | true =>
            rw [doubleClick_off rfl]
            exact Or.inr ⟨rfl, rfl⟩
        | false =>
            rw [doubleClick_on rfl, refresh_eq]
            exact Or.inl rfl
      · rw [hkey]
        exact Or.inr ⟨rfl, rfl⟩
  | message m =>
      rw [step, handle_eq]
      cases m with
      | command c =>
          cases c with
          | refresh => exact Or.inl rfl
          | setMode c mode => exact Or.inr ⟨rfl, rfl⟩
          | setBrightness c b => exact Or.inr ⟨rfl, rfl⟩
          | allOff => exact Or.inr ⟨rfl, rfl⟩
          | setWifiPolicy p => exact Or.inr ⟨rfl, rfl⟩
      | battery r => exact Or.inr ⟨rfl, rfl⟩
      | network n => exact Or.inr ⟨rfl, rfl⟩
      | wifi alive => exact Or.inr ⟨rfl, rfl⟩
  | renderTick =>
      rw [step, renderTick]
      exact Or.inr ⟨rfl, rfl⟩
  | longPress =>
      rw [step, longPress]
      exact Or.inr ⟨rfl, rfl⟩
  | countdown =>
      rw [step, countedDown]
      exact Or.inr ⟨rfl, rfl⟩

end State

/-! ## The prospect -/

namespace Task

/-- The status that the loop will have once the reports that wait for it
are noted. -/
def prospect (t : Task) : DeviceStatus := t.messages.foldl noted t.state.status

/-- A turn refreshes, or it leaves the prospect: what it takes from the
queue it notes in the status. -/
theorem prospect_turn? {t t' : Task} {around : Surroundings}
    {effects : List Effect} (h : t.turn? around = some (t', effects))
    (htakes : t'.takes = true) :
    t'.state.refreshes = t.state.refreshes + 1
      ∨ t'.state.refreshes = t.state.refreshes ∧ t'.prospect = t.prospect := by
  rcases turn?_cases h with ⟨-, hend⟩ | ⟨input, hstep, -, hqueue⟩
  · rw [hend] at htakes
    cases htakes
  · have hstate : t'.state = (t.state.step around input).1 :=
      congrArg Prod.fst hstep
    rcases t.state.step_status around input with hnew | ⟨hsame, hstatus⟩
    · left
      rw [hstate]
      exact hnew
    · right
      rw [hstate]
      refine ⟨hsame, ?_⟩
      unfold prospect
      rw [hstate, hstatus, hqueue, List.foldl_append]

theorem takes_of_turn? {t t' : Task} {around : Surroundings}
    {effects : List Effect} (h : t.turn? around = some (t', effects)) :
    t.takes = true := by
  unfold turn? at h
  unfold takes
  split at h
  · next ticker hphase => rw [hphase]
  · cases h

/-- The loop before and after it was told messages, and nothing else that
the prospect depends on. -/
structure Hears (t t' : Task) (told : List Message) : Prop where
  messages : t'.messages = t.messages ++ told
  status : t'.state.status = t.state.status
  refreshes : t'.state.refreshes = t.state.refreshes

theorem Hears.prospect {t t' : Task} {told : List Message}
    (h : t.Hears t' told) : t'.prospect = told.foldl noted t.prospect := by
  unfold Task.prospect
  rw [h.messages, h.status, List.foldl_append]

theorem hears_nothing (t : Task) : t.Hears t [] :=
  ⟨(List.append_nil _).symm, rfl, rfl⟩

theorem Hears.trans {t t' t'' : Task} {told later : List Message}
    (h : t.Hears t' told) (h' : t'.Hears t'' later) :
    t.Hears t'' (told ++ later) where
  messages := by rw [h'.messages, h.messages, List.append_assoc]
  status := h'.status.trans h.status
  refreshes := h'.refreshes.trans h.refreshes

theorem takes_send (t : Task) (m : Message) :
    (t.send m).takes = t.takes := by
  unfold send send?
  split <;> rfl

theorem hears_send {t : Task} (h : t.takes = true) (m : Message) :
    t.Hears (t.send m) [m] := by
  have hsend : t.send m = { t with messages := t.messages ++ [m] } := by
    simp [send, send?, h]
  rw [hsend]
  exact ⟨rfl, rfl, rfl⟩

theorem press?_cases {t t' : Task} {k : KeyEvent}
    (h : t.press? k = some t') : t.Hears t' [] ∧ t'.takes = t.takes := by
  unfold press? at h
  split at h
  · cases h
    exact ⟨⟨(List.append_nil _).symm, rfl, rfl⟩, rfl⟩
  · cases h

theorem hears_cancel (t : Task) : t.Hears t.cancel [] :=
  ⟨(List.append_nil _).symm, rfl, rfl⟩

/-- A loop that starts paints, and keeps what waits for it. -/
theorem hears_start {t : Task} {now : Nat}
    (h : (t.start now).takes = true) : t.Hears (t.start now) [] := by
  have hbegin : t.state.begin
      = { t.state with table := t.state.begin.table } := by
    unfold State.begin
    rw [State.paintAll_eq]
  unfold start at h ⊢
  dsimp only at h ⊢
  split
  · rw [hbegin]
    exact ⟨(List.append_nil _).symm, rfl, rfl⟩
  · next hnone =>
      rw [hnone] at h
      cases h

/-! ## The battery -/

/-- Whether a report of the battery waits for the loop. -/
def awaitsBattery (t : Task) : Prop := ∃ r, Message.battery r ∈ t.messages

end Task

theorem battery_noted {d d' : DeviceStatus} (h : d.battery = d'.battery)
    (m : Message) : (noted d m).battery = (noted d' m).battery := by
  cases m with
  | battery r => rfl
  | network n => exact h
  | wifi alive => exact h
  | command c => exact h

theorem battery_foldl {d d' : DeviceStatus} (h : d.battery = d'.battery)
    (ms : List Message) :
    (ms.foldl noted d).battery = (ms.foldl noted d').battery := by
  induction ms generalizing d d' with
  | nil => exact h
  | cons m rest ih => exact ih (battery_noted h m)

/-- Once a report that waits is noted, nothing is left of what was known
of the battery before. -/
theorem battery_foldl_of_waiting {ms : List Message}
    (h : ∃ r, Message.battery r ∈ ms) (d d' : DeviceStatus) :
    (ms.foldl noted d).battery = (ms.foldl noted d').battery := by
  induction ms generalizing d d' with
  | nil =>
      obtain ⟨r, hr⟩ := h
      cases hr
  | cons m rest ih =>
      by_cases hrest : ∃ r, Message.battery r ∈ rest
      · exact ih hrest _ _
      · obtain ⟨r, hr⟩ := h
        rcases List.mem_cons.mp hr with rfl | hr
        · have hone : (noted d (.battery r)).battery
              = (noted d' (.battery r)).battery := rfl
          exact battery_foldl hone rest
        · exact absurd ⟨r, hr⟩ hrest

namespace Task

theorem battery_prospect {t : Task} (h : ¬ t.awaitsBattery) :
    t.prospect.battery = t.state.status.battery := by
  refine part_foldl (fun m hm d => ?_) t.state.status
  cases m with
  | battery r => exact absurd ⟨r, hm⟩ h
  | network n => rfl
  | wifi alive => rfl
  | command c => rfl

/-- A turn leaves what the prospect says of the battery while a report of
the battery waits behind it, even if it refreshes. -/
theorem battery_turn? {t t' : Task} {around : Surroundings}
    {effects : List Effect} (h : t.turn? around = some (t', effects))
    (htakes : t'.takes = true) (hwaits : t'.awaitsBattery) :
    t.awaitsBattery ∧ t'.prospect.battery = t.prospect.battery := by
  rcases turn?_cases h with ⟨-, hend⟩ | ⟨input, -, -, hqueue⟩
  · rw [hend] at htakes
    cases htakes
  · obtain ⟨r, hr⟩ := hwaits
    refine ⟨⟨r, ?_⟩, ?_⟩
    · rw [hqueue]
      exact List.mem_append_right _ hr
    · unfold prospect
      rw [hqueue, List.foldl_append]
      exact battery_foldl_of_waiting ⟨r, hr⟩ _ _

end Task

end Loop

end Gateway
