import Gateway.Broadcast

/-!
# What waits for a reader

An event *waits* for a reader while the reader has not come to its number,
also once it is dropped. Nothing but the reader itself changes that
(`Leads.waiting`), and the reader comes to it in turn: what it receives is
the event, or the event still waits (`waiting_receive`). So nothing waits for
a reader that finds the channel empty (`not_waiting_of_empty`).
-/

namespace Gateway.Broadcast

variable {α : Type}

/-- The reader is in its place and has read no more than was published. -/
def Seated (b : Broadcast α) (reader : Nat) : Prop :=
  ∃ next, b.readers[reader]? = some (some next) ∧ next ≤ b.published

/-- The event was published and the reader has not come to it yet. -/
def Waiting (b : Broadcast α) (reader : Nat) (a : α) : Prop :=
  ∃ next number, b.readers[reader]? = some (some next) ∧ next ≤ number
    ∧ number < b.published
    ∧ (number < b.oldest ∨ b.recent[b.published - 1 - number]? = some a)

/-! ## Publishing -/

theorem publish_cases (b : Broadcast α) (a : α) :
    b.publish a = b ∧ (b.closed = true ∨ b.hasReaders = false)
      ∨ b.publish a = { b with
          published := b.published + 1
          recent := (a :: b.recent).take b.capacity } := by
  unfold publish publish?
  split
  · next h =>
      refine .inl ⟨rfl, ?_⟩
      simpa using h
  · exact .inr rfl

theorem seated_subscribe (b : Broadcast α) :
    b.subscribe.Seated b.readers.length :=
  ⟨b.published, List.getElem?_concat_length, Nat.le_refl _⟩

theorem hasReaders_of_seat {b : Broadcast α} {reader next : Nat}
    (h : b.readers[reader]? = some (some next)) : b.hasReaders = true :=
  List.any_eq_true.mpr ⟨some next, List.mem_of_getElem? h, rfl⟩

@[simp] theorem readers_publish (b : Broadcast α) (a : α) :
    (b.publish a).readers = b.readers := by
  rcases b.publish_cases a with ⟨h, -⟩ | h <;> rw [h]

@[simp] theorem closed_publish (b : Broadcast α) (a : α) :
    (b.publish a).closed = b.closed := by
  rcases b.publish_cases a with ⟨h, -⟩ | h <;> rw [h]

theorem Seated.publish {b : Broadcast α} {reader : Nat}
    (h : b.Seated reader) (a : α) : (b.publish a).Seated reader := by
  obtain ⟨next, hseat, hnext⟩ := h
  rcases b.publish_cases a with ⟨hsame, -⟩ | hnew
  · rw [hsame]
    exact ⟨next, hseat, hnext⟩
  · rw [hnew]
    exact ⟨next, hseat, Nat.le_succ_of_le hnext⟩

theorem Waiting.publish {b : Broadcast α} {reader : Nat} {x : α}
    (h : b.Waiting reader x) (a : α) : (b.publish a).Waiting reader x := by
  rcases b.publish_cases a with ⟨hsame, -⟩ | hnew
  · rwa [hsame]
  obtain ⟨next, number, hseat, hnext, hnumber, hkept⟩ := h
  refine ⟨next, number, ?_, hnext, ?_, ?_⟩
  · rw [hnew]
    exact hseat
  · rw [hnew]
    exact Nat.lt_succ_of_lt hnumber
  rw [hnew]
  have hlength : ((a :: b.recent).take b.capacity).length
      = min b.capacity (b.recent.length + 1) := by simp
  unfold oldest at hkept ⊢
  dsimp only at hkept ⊢
  rw [hlength]
  rcases hkept with hlost | hkept
  · left
    omega
  -- The event moves one place back, and out of the channel if that is full.
  · by_cases hroom : b.published - number < b.capacity
    · right
      have hindex : b.published + 1 - 1 - number
          = b.published - 1 - number + 1 := by omega
      rw [List.getElem?_take_of_lt (by omega), hindex,
        List.getElem?_cons_succ]
      exact hkept
    · left
      omega

/-- What is published waits for everyone who is there. -/
theorem waiting_publish {b : Broadcast α} {reader : Nat}
    (hseated : b.Seated reader) (hopen : b.closed = false) (a : α) :
    (b.publish a).Waiting reader a := by
  obtain ⟨next, hseat, hnext⟩ := hseated
  rcases b.publish_cases a with ⟨-, hclosed | hnobody⟩ | hnew
  · rw [hopen] at hclosed
    cases hclosed
  · rw [hasReaders_of_seat hseat] at hnobody
    cases hnobody
  rw [hnew]
  refine ⟨next, b.published, hseat, hnext, Nat.lt_succ_self _, ?_⟩
  unfold oldest
  dsimp only
  cases hcapacity : b.capacity with
  | zero => simp
  | succ room => simp

/-! ## Receiving -/

/-- The ways in which a reader receives. -/
inductive Receives (b : Broadcast α) (reader : Nat) :
    Broadcast α × Received α → Prop
  | nothing (r : Received α) (noEvent : ∀ a, r ≠ .event a)
      (noLag : ∀ count, r ≠ .lagged count)
      (done : ∀ next, b.readers[reader]? = some (some next) →
        b.published ≤ next) :
      Receives b reader (b, r)
  | lagged (next : Nat) (seat : b.readers[reader]? = some (some next))
      (lost : next < b.oldest) :
      Receives b reader
        ({ b with readers := b.readers.set reader (some b.oldest) },
          .lagged (b.oldest - next))
  | event (next : Nat) (a : α)
      (seat : b.readers[reader]? = some (some next)) (kept : b.oldest ≤ next)
      (published : next < b.published)
      (holds : b.recent[b.published - 1 - next]? = some a) :
      Receives b reader
        ({ b with readers := b.readers.set reader (some (next + 1)) },
          .event a)

/-- The last of the kept events from a number on is the one of that number.
-/
theorem getLast?_take (b : Broadcast α) {next : Nat} (h : b.oldest ≤ next)
    (hnext : next < b.published) :
    (b.recent.take (b.published - next)).getLast?
      = b.recent[b.published - 1 - next]? := by
  have hlength : (b.recent.take (b.published - next)).length
      = b.published - next := by
    unfold oldest at h
    rw [List.length_take]
    omega
  have hindex : b.published - next - 1 = b.published - 1 - next := by omega
  rw [List.getLast?_eq_getElem?, hlength,
    List.getElem?_take_of_lt (by omega), hindex]

theorem receives (b : Broadcast α) (reader : Nat) :
    b.Receives reader (b.receive reader) := by
  unfold receive
  split
  · next hnone =>
      refine .nothing _ (by simp) (by simp) fun next hseat => ?_
      rw [hnone] at hseat
      cases hseat
  · next hleft =>
      refine .nothing _ (by simp) (by simp) fun next hseat => ?_
      rw [hleft] at hseat
      cases hseat
  next next hseat =>
  split
  · next hlost => exact .lagged next hseat hlost
  next hkept =>
  replace hkept : b.oldest ≤ next := Nat.le_of_not_lt hkept
  rcases Nat.lt_or_ge next b.published with hnext | hdone
  · rw [b.getLast?_take hkept hnext]
    cases hevent : b.recent[b.published - 1 - next]? with
    | some a => exact .event next a hseat hkept hnext hevent
    | none =>
        have hlength := List.getElem?_eq_none_iff.mp hevent
        unfold oldest at hkept
        omega
  · have hnone : b.published - next = 0 := Nat.sub_eq_zero_of_le hdone
    rw [hnone, List.take_zero, List.getLast?_nil]
    refine .nothing _ (fun a => ?_) (fun count => ?_) fun next' hseat' => ?_
    · split <;> simp
    · split <;> simp
    · rw [hseat] at hseat'
      cases hseat'
      exact hdone

/-- What a reader receives is what waits, or that goes on waiting. -/
theorem waiting_receive {b b' : Broadcast α} {reader : Nat} {x a : α}
    (h : b.Waiting reader x) (hreceive : b.receive reader = (b', .event a)) :
    a = x ∨ b'.Waiting reader x := by
  obtain ⟨next, number, hseat, hnext, hnumber, hkept⟩ := h
  have hreceives := b.receives reader
  rw [hreceive] at hreceives
  cases hreceives with
  | nothing r noEvent => exact absurd rfl (noEvent a)
  | event next' a seat kept published holds =>
      rw [hseat] at seat
      cases seat
      rcases Nat.eq_or_lt_of_le hnext with rfl | hlater
      · rcases hkept with hlost | hheld
        · omega
        · exact .inl (Option.some.inj (holds.symm.trans hheld))
      · refine .inr ⟨next + 1, number, ?_, hlater, hnumber, hkept⟩
        exact List.getElem?_set_self (List.getElem?_eq_some_iff.mp hseat).1

theorem not_waiting_of_empty {b : Broadcast α} {reader : Nat} {x : α}
    (h : (b.receive reader).2 = .empty) : ¬ b.Waiting reader x := by
  rintro ⟨next, number, hseat, hnext, hnumber, -⟩
  have hreceives := b.receives reader
  generalize b.receive reader = received at h hreceives
  cases hreceives with
  | nothing r noEvent noLag done =>
      have hdone := done next hseat
      omega
  | lagged => cases h
  | event => cases h

theorem readers_receive {b : Broadcast α} {reader other : Nat}
    (h : other ≠ reader) :
    (b.receive other).1.readers[reader]? = b.readers[reader]? := by
  have hreceives := b.receives other
  generalize b.receive other = received at hreceives ⊢
  cases hreceives with
  | nothing => rfl
  | lagged => exact List.getElem?_set_ne h
  | event => exact List.getElem?_set_ne h

/-- All that a reader changes is its own place. -/
theorem receive_eq (b : Broadcast α) (reader : Nat) :
    (b.receive reader).1
      = { b with readers := (b.receive reader).1.readers } := by
  have hreceives := b.receives reader
  generalize b.receive reader = received at hreceives ⊢
  cases hreceives <;> rfl

theorem length_receive (b : Broadcast α) (reader : Nat) :
    (b.receive reader).1.readers.length = b.readers.length := by
  have hreceives := b.receives reader
  generalize b.receive reader = received at hreceives ⊢
  cases hreceives with
  | nothing => rfl
  | lagged => exact List.length_set
  | event => exact List.length_set

theorem Seated.receive {b : Broadcast α} {reader : Nat}
    (h : b.Seated reader) : (b.receive reader).1.Seated reader := by
  obtain ⟨next, hseat, hnext⟩ := h
  have hplace := (List.getElem?_eq_some_iff.mp hseat).1
  have hreceives := b.receives reader
  generalize b.receive reader = received at hreceives ⊢
  cases hreceives with
  | nothing => exact ⟨next, hseat, hnext⟩
  | lagged =>
      exact ⟨b.oldest, List.getElem?_set_self hplace, Nat.sub_le ..⟩
  | event next' a seat kept published =>
      exact ⟨next' + 1, List.getElem?_set_self hplace, published⟩

/-! ## The others -/

/-- What the others do to a channel, seen by one reader. -/
inductive Leads (reader : Nat) : Broadcast α → Broadcast α → Prop
  | same (b : Broadcast α) : Leads reader b b
  | publish {b b' : Broadcast α} (h : Leads reader b b') (a : α) :
      Leads reader b (b'.publish a)
  | subscribe {b b' : Broadcast α} (h : Leads reader b b') :
      Leads reader b b'.subscribe
  | leave {b b' : Broadcast α} (h : Leads reader b b') {other : Nat}
      (hother : other ≠ reader) : Leads reader b (b'.leave other)
  | receive {b b' : Broadcast α} (h : Leads reader b b') {other : Nat}
      (hother : other ≠ reader) : Leads reader b (b'.receive other).1

namespace Leads

variable {b b' : Broadcast α} {reader : Nat}

theorem closed (h : Leads reader b b') : b'.closed = b.closed := by
  induction h with
  | same => rfl
  | publish _ a ih => rw [closed_publish, ih]
  | subscribe _ ih => exact ih
  | leave _ _ ih => exact ih
  | receive _ _ ih => rw [receive_eq, ih]

theorem length (h : Leads reader b b') :
    b.readers.length ≤ b'.readers.length := by
  induction h with
  | same => exact Nat.le_refl _
  | publish _ a ih => rwa [readers_publish]
  | subscribe _ ih => exact Nat.le_trans ih (by simp [Broadcast.subscribe])
  | leave _ _ ih => exact Nat.le_trans ih (by simp [Broadcast.leave])
  | receive _ _ ih => rwa [length_receive]

theorem seated (h : Leads reader b b') (hseated : b.Seated reader) :
    b'.Seated reader := by
  induction h with
  | same => exact hseated
  | publish _ a ih => exact ih.publish a
  | subscribe _ ih =>
      obtain ⟨next, hseat, hnext⟩ := ih
      refine ⟨next, ?_, hnext⟩
      have hplace := (List.getElem?_eq_some_iff.mp hseat).1
      exact (List.getElem?_append_left hplace).trans hseat
  | leave _ hother ih =>
      obtain ⟨next, hseat, hnext⟩ := ih
      exact ⟨next, (List.getElem?_set_ne hother).trans hseat, hnext⟩
  | receive _ hother ih =>
      obtain ⟨next, hseat, hnext⟩ := ih
      refine ⟨next, (readers_receive hother).trans hseat, ?_⟩
      rw [receive_eq]
      exact hnext

/-- Whatever waits for a reader waits until the reader comes to it. -/
theorem waiting (h : Leads reader b b') {a : α} (hwaits : b.Waiting reader a) :
    b'.Waiting reader a := by
  induction h with
  | same => exact hwaits
  | publish _ x ih => exact ih.publish x
  | subscribe _ ih =>
      obtain ⟨next, number, hseat, hwaits⟩ := ih
      refine ⟨next, number, ?_, hwaits⟩
      have hplace := (List.getElem?_eq_some_iff.mp hseat).1
      exact (List.getElem?_append_left hplace).trans hseat
  | leave _ hother ih =>
      obtain ⟨next, number, hseat, hwaits⟩ := ih
      exact ⟨next, number, (List.getElem?_set_ne hother).trans hseat, hwaits⟩
  | receive _ hother ih =>
      obtain ⟨next, number, hseat, hwaits⟩ := ih
      refine ⟨next, number, (readers_receive hother).trans hseat, ?_⟩
      rw [receive_eq]
      exact hwaits

end Leads

end Gateway.Broadcast
