import Gateway.Proofs.Device.Run

/-!
# What the pollers hold back

A poller passes a sample on only if its latch holds another one. That is
right as long as the loop has, or will have, what the latch holds. A
refresh takes it from the loop: it resets the status at once, overtaking
what waits, and the pollers learn of it only at their next poll. Four
places move at different steps here: the latch, the number of the refresh
seen, the queue and the status.

`Latched` ties them together for one poller. The number seen never runs
ahead of the number of refreshes (`Latched.seen_le`); that is what makes
a refresh unseen, at whatever point of a poll it comes. While no refresh
is unseen, what the latch holds is what the prospect of the loop shows.
-/

namespace Gateway

/-! ## Latches -/

/-- A poller saw a number of refreshes, and unless there was another since,
what its latch holds is what is shown. -/
structure Latched {α : Type} (seen refreshes : Nat) (last shown : Option α) :
    Prop where
  seen_le : seen ≤ refreshes
  shown_eq : ∀ a, last = some a → seen = refreshes → shown = some a

namespace Latched

variable {α : Type} {seen refreshes refreshes' : Nat}
  {last shown shown' : Option α}

/-- An empty latch promises nothing. -/
theorem empty (h : seen ≤ refreshes) : Latched seen refreshes none shown :=
  ⟨h, fun _ hnone => by cases hnone⟩

/-- A latch that has just let something through. -/
theorem through {a : α} (h : seen ≤ refreshes) :
    Latched seen refreshes (some a) (some a) :=
  ⟨h, fun _ hlast _ => hlast⟩

/-- A refresh that the poller has not seen excuses the latch; without one,
what is shown has to stay. -/
theorem move (h : Latched seen refreshes last shown)
    (hmove : refreshes' = refreshes + 1
      ∨ refreshes' = refreshes ∧ shown' = shown) :
    Latched seen refreshes' last shown' := by
  rcases hmove with rfl | ⟨rfl, rfl⟩
  · refine ⟨Nat.le_succ_of_le h.seen_le, fun a _ hseen => ?_⟩
    have hle := h.seen_le
    omega
  · exact h

end Latched

/-! ## Pollers -/

namespace Network

theorem Latch.observe_cases (l : Latch) (s : Sample) :
    l.last = some s ∧ l.observe s = (l, none)
      ∨ l.observe s = (⟨some s⟩, some s) := by
  unfold observe
  split
  · next hlast => exact Or.inl ⟨hlast, rfl⟩
  · exact Or.inr rfl

/-- A poll that begins sees the latest refresh, and forgets its latch if
it had not seen it. -/
theorem Poller.latched_begin {p : Poller} {refreshes now : Nat}
    {shown : Option Sample}
    (h : Latched p.seen refreshes p.latch.last shown) :
    Latched (p.begin (some refreshes) now).seen refreshes
      (p.begin (some refreshes) now).latch.last shown := by
  unfold begin notice
  dsimp only
  split
  · exact h
  · exact Latched.empty (Nat.le_refl _)

theorem Poller.last_begin {p : Poller} {refreshes now : Nat}
    (h : refreshes ≠ p.seen) :
    (p.begin (some refreshes) now).latch.last = none := by
  simp [begin, notice, h, Latch.reset, Latch.new]

/-- A poll that ends holds back a sample that the latch held already, or
puts it in the latch and passes it on. -/
theorem Poller.finish_cases {ε : Type} {p q : Poller}
    {answer : Except ε Reading} {news : Option Sample}
    (h : p.finish answer = (q, news)) :
    q.seen = p.seen
      ∧ (news = none ∧ q.latch = p.latch
          ∧ p.latch.last = some (Sample.classify answer)
        ∨ news = some (Sample.classify answer)
          ∧ q.latch.last = some (Sample.classify answer)) := by
  unfold finish at h
  rcases p.latch.observe_cases (Sample.classify answer) with
    ⟨hlast, hobserve⟩ | hobserve
  · rw [hobserve] at h
    cases h
    exact ⟨rfl, Or.inl ⟨rfl, rfl, hlast⟩⟩
  · rw [hobserve] at h
    cases h
    exact ⟨rfl, Or.inr ⟨rfl, rfl⟩⟩

end Network

namespace Wifi

theorem Latch.observe_cases (l : Latch) (alive : Bool) :
    l.last = some alive ∧ l.observe alive = (l, none)
      ∨ l.observe alive = (⟨some alive⟩, some alive) := by
  unfold observe
  split
  · next hlast => exact Or.inl ⟨hlast, rfl⟩
  · exact Or.inr rfl

/-- A poll sees the latest refresh. What it holds back was shown; what it
passes on is in its latch. -/
theorem Poller.poll_cases {p q : Poller} {refreshes now : Nat}
    {alive : Bool} {shown news : Option Bool}
    (h : Latched p.seen refreshes p.latch.last shown)
    (hpoll : p.poll (some refreshes) now alive = (q, news)) :
    q.seen = refreshes ∧ q.latch.last = some alive
      ∧ (news = none ∧ shown = some alive ∨ news = some alive) := by
  have hnotice : (p.notice (some refreshes)).seen = refreshes
      ∧ Latched (p.notice (some refreshes)).seen refreshes
        (p.notice (some refreshes)).latch.last shown := by
    unfold notice
    dsimp only
    split
    · next hseen => exact ⟨hseen.symm, h⟩
    · exact ⟨rfl, Latched.empty (Nat.le_refl _)⟩
  obtain ⟨hseen, hlatched⟩ := hnotice
  unfold poll at hpoll
  dsimp only at hpoll
  rcases (p.notice (some refreshes)).latch.observe_cases alive with
    ⟨hlast, hobserve⟩ | hobserve
  · rw [hobserve] at hpoll
    cases hpoll
    exact ⟨hseen, hlast, Or.inl ⟨rfl, hlatched.shown_eq _ hlast hseen⟩⟩
  · rw [hobserve] at hpoll
    cases hpoll
    exact ⟨hseen, rfl, Or.inr rfl⟩

end Wifi

/-! ## The invariant -/

namespace Device

/-- Both pollers' latches go with what the loop has or will have. -/
structure Polled (d : Device) : Prop where
  network : ∀ p, d.network = some p →
    Latched p.seen d.loop.state.refreshes p.latch.last
      (some d.loop.prospect.sample)
  wifi : ∀ p, d.wifi = some p →
    Latched p.seen d.loop.state.refreshes p.latch.last
      d.loop.prospect.wifiRunning

theorem refreshNumber_eq_some {d : Device} {n : Nat} :
    d.refreshNumber = some n
      ↔ d.loop.takes = true ∧ n = d.loop.state.refreshes := by
  unfold refreshNumber
  split
  · next htakes => simp [htakes, eq_comm]
  · next htakes => simp [htakes]

theorem refreshNumber_of_takes {d : Device} (h : d.loop.takes = true) :
    d.refreshNumber = some d.loop.state.refreshes :=
  refreshNumber_eq_some.mpr ⟨h, rfl⟩

/-- Only a poll of the network tells the loop of the network. -/
theorem sample_of_tells {d : Device} {a : Act} (ha : a ≠ .networkEnds)
    (s : DeviceStatus) :
    ((d.tells a).foldl Loop.noted s).sample = s.sample := by
  refine Loop.part_foldl (fun m hm s => ?_) s
  rcases mem_tells hm with
    ⟨-, r, rfl⟩ | ⟨hends, -⟩ | ⟨-, alive, rfl⟩ | ⟨c, rfl⟩
  · rfl
  · exact absurd hends ha
  · rfl
  · rfl

/-- Only a poll of the access point tells the loop of it. -/
theorem wifiRunning_of_tells {d : Device} {a : Act} (ha : a ≠ .wifiPolls)
    (s : DeviceStatus) :
    ((d.tells a).foldl Loop.noted s).wifiRunning = s.wifiRunning := by
  refine Loop.part_foldl (fun m hm s => ?_) s
  rcases mem_tells hm with
    ⟨-, r, rfl⟩ | ⟨-, n, rfl⟩ | ⟨hpolls, -⟩ | ⟨c, rfl⟩
  · rfl
  · rfl
  · exact absurd hpolls ha
  · rfl

theorem networkFound?_cases {d : Device} {q : Network.Poller}
    {news : Option Network.Sample} (h : d.networkFound? = some (q, news)) :
    ∃ p f, d.network = some p ∧ d.exchange.outcome? networkCaller = some f
      ∧ p.finish (networkAnswer f.value) = (q, news) := by
  obtain ⟨p, hp, h⟩ := Option.bind_eq_some_iff.mp h
  obtain ⟨f, hf, h⟩ := Option.bind_eq_some_iff.mp h
  exact ⟨p, f, hp, hf, Option.some.inj h⟩

theorem wifiFound?_cases {d : Device} {q : Wifi.Poller} {news : Option Bool}
    (h : d.wifiFound? = some (q, news)) :
    ∃ p, d.wifi = some p
      ∧ p.poll d.refreshNumber d.now (d.probe.isAlive d.files) = (q, news) := by
  obtain ⟨p, hp, h⟩ := Option.bind_eq_some_iff.mp h
  split at h
  · exact ⟨p, hp, Option.some.inj h⟩
  · cases h

/-- Every act keeps the network poller's latch right: one that neither
begins nor ends a poll may refresh, or leaves the latch and what is shown;
a poll that begins notices the refreshes; and one that ends passes on what
it puts in the latch. -/
theorem latched_network {d d' : Device} {a : Act}
    (h : d.act? a = some d') (htakes : d'.loop.takes = true)
    (hd : d.Polled) {q : Network.Poller} (hq : d'.network = some q) :
    Latched q.seen d'.loop.state.refreshes q.latch.last
      (some d'.loop.prospect.sample) := by
  obtain ⟨htook, hmove⟩ := prospect_act? h htakes
  rcases network_act?_cases h hq with ⟨ha, hfrom⟩ | ⟨rfl, news, hfound⟩
  · have hold : Latched q.seen d.loop.state.refreshes q.latch.last
        (some d.loop.prospect.sample) := by
      rcases hfrom with hq | ⟨hseen, hlast⟩ | ⟨p, hp, rfl⟩
      · exact hd.network q hq
      · rw [hseen, hlast]
        exact Latched.empty (Nat.zero_le _)
      · rw [refreshNumber_of_takes htook]
        exact Network.Poller.latched_begin (hd.network p hp)
    refine hold.move (hmove.imp_right (And.imp_right fun hprospect => ?_))
    rw [hprospect, sample_of_tells ha]
  · obtain ⟨p, f, hp, -, hfinish⟩ := networkFound?_cases hfound
    have hold := hd.network p hp
    rw [tells, hfound] at hmove
    obtain ⟨hseen, ⟨rfl, hlatch, -⟩ | ⟨rfl, hlast⟩⟩ :=
      Network.Poller.finish_cases hfinish
    · rw [hseen, hlatch]
      refine hold.move (hmove.imp_right (And.imp_right fun hprospect => ?_))
      exact congrArg (some ·.sample) hprospect
    · -- a refresh that came while the modem was asked is still unseen
      rw [hseen, hlast]
      refine (Latched.through hold.seen_le).move
        (hmove.imp_right (And.imp_right fun hprospect => ?_))
      exact congrArg (some ·.sample) hprospect

theorem latched_wifi {d d' : Device} {a : Act}
    (h : d.act? a = some d') (htakes : d'.loop.takes = true)
    (hd : d.Polled) {q : Wifi.Poller} (hq : d'.wifi = some q) :
    Latched q.seen d'.loop.state.refreshes q.latch.last
      d'.loop.prospect.wifiRunning := by
  obtain ⟨htook, hmove⟩ := prospect_act? h htakes
  rcases wifi_act?_cases h hq with ⟨ha, hfrom⟩ | ⟨rfl, news, hfound⟩
  · have hold : Latched q.seen d.loop.state.refreshes q.latch.last
        d.loop.prospect.wifiRunning := by
      rcases hfrom with hq | ⟨hseen, hlast⟩
      · exact hd.wifi q hq
      · rw [hseen, hlast]
        exact Latched.empty (Nat.zero_le _)
    refine hold.move (hmove.imp_right (And.imp_right fun hprospect => ?_))
    rw [hprospect, wifiRunning_of_tells ha]
  · obtain ⟨p, hp, hpoll⟩ := wifiFound?_cases hfound
    rw [refreshNumber_of_takes htook] at hpoll
    rw [tells, hfound] at hmove
    obtain ⟨hseen, hlast, hnews⟩ :=
      Wifi.Poller.poll_cases (hd.wifi p hp) hpoll
    rw [hseen, hlast]
    refine (Latched.through (Nat.le_refl _)).move
      (hmove.imp_right (And.imp_right fun hprospect => ?_))
    rcases hnews with ⟨rfl, hshown⟩ | rfl
    · exact (congrArg (·.wifiRunning) hprospect).trans hshown
    · exact congrArg (·.wifiRunning) hprospect

theorem polled_new (parts : Parts) : (Device.new parts).Polled where
  network := fun _ hnone => by cases hnone
  wifi := fun _ hnone => by cases hnone

/-- By induction over the acts of the run; a loop that has come to its end
takes nothing ever after. -/
theorem polled_run {parts : Parts} {h : History} {d : Device}
    (run : Run (Device.new parts) h d) (htakes : d.loop.takes = true) :
    d.Polled := by
  induction run with
  | start => exact polled_new parts
  | step a run hact ih =>
      have hd := ih (prospect_act? hact htakes).1
      exact ⟨fun q hq => latched_network hact htakes hd hq,
        fun q hq => latched_wifi hact htakes hd hq⟩

/-- No refresh makes a polled value get lost. Whatever the order in which
the loop and both pollers act, and wherever a refresh falls: what the latch
of a poller holds that has seen the latest refresh is what the loop has
once the reports that wait are noted. So a sample held back is one that
the loop has or will have; or there is a refresh to see yet, and then the
next poll begins with an empty latch. -/
theorem held_back_shown {parts : Parts} {h : History} {d : Device}
    (run : Run (Device.new parts) h d) :
    (∀ p s, d.network = some p → p.latch.last = some s →
        d.refreshNumber = some p.seen →
        d.loop.prospect.network = s.state ∧ d.loop.prospect.is5g = s.is5g)
      ∧ (∀ p alive, d.wifi = some p → p.latch.last = some alive →
        d.refreshNumber = some p.seen →
        d.loop.prospect.wifiRunning = some alive)
      ∧ (∀ p f q, d.network = some p → d.loop.takes = true →
        d.exchange.outcome? networkCaller = some f →
        p.finish (networkAnswer f.value) = (q, none) →
        d.loop.prospect.sample = .classify (networkAnswer f.value)
          ∨ ∀ now, (q.begin d.refreshNumber now).latch.last = none)
      ∧ (∀ p q, d.wifi = some p → d.loop.takes = true →
        p.poll d.refreshNumber d.now (d.probe.isAlive d.files) = (q, none) →
        d.loop.prospect.wifiRunning = some (d.probe.isAlive d.files)) := by
  refine ⟨fun p s hp hlast hn => ?_, fun p alive hp hlast hn => ?_,
    fun p f q hp htakes hf hfinish => ?_, fun p q hp htakes hpoll => ?_⟩
  · obtain ⟨htakes, hseen⟩ := refreshNumber_eq_some.mp hn
    have hlatched := (polled_run run htakes).network p hp
    obtain rfl := Option.some.inj (hlatched.shown_eq s hlast hseen)
    exact ⟨rfl, rfl⟩
  · obtain ⟨htakes, hseen⟩ := refreshNumber_eq_some.mp hn
    exact ((polled_run run htakes).wifi p hp).shown_eq alive hlast hseen
  · have hlatched := (polled_run run htakes).network p hp
    obtain ⟨hqseen, ⟨-, -, hlast⟩ | ⟨hpassed, -⟩⟩ :=
      Network.Poller.finish_cases hfinish
    · -- was there a refresh since the poll began?
      by_cases hseen : p.seen = d.loop.state.refreshes
      · left
        exact Option.some.inj (hlatched.shown_eq _ hlast hseen)
      · right
        intro now
        rw [refreshNumber_of_takes htakes]
        have hunseen : d.loop.state.refreshes ≠ q.seen := by
          rw [hqseen]
          exact fun heq => hseen heq.symm
        exact Network.Poller.last_begin hunseen
    · cases hpassed
  · have hlatched := (polled_run run htakes).wifi p hp
    rw [refreshNumber_of_takes htakes] at hpoll
    obtain ⟨-, -, ⟨-, hshown⟩ | hpassed⟩ :=
      Wifi.Poller.poll_cases hlatched hpoll
    · exact hshown
    · cases hpassed

/-- Both pollers poll; then two double clicks of the power key, which go
before what waits, switch the LEDs off and, with a refresh, on again while
the modem is being asked. It answers, and each poller polls once more. -/
def overtaking : List Act :=
  let clicks := [PowerKey.Transition.down, .up, .down, .up, .down, .up, .down]
  let later (time : Nat) : Device :=
    { bare quiet with
      now := time
      exchange := { (bare quiet).exchange with
        finished := [⟨networkCaller, time, .ok (.reading ⟨0, "LTE"⟩)⟩] } }
  [.starts .leds, .starts .wifi, .starts .network, .wifiPolls, .networkBegins]
    ++ clicks.map (fun k => .keyEvent ⟨k, 0⟩)
    ++ List.replicate clicks.length .loopTurns
    ++ [.elsewhere (later 0), .networkEnds]
    ++ [.elsewhere (later 2000), .wifiPolls, .networkBegins,
      .elsewhere (later 2000), .networkEnds]

/-- The network is unknown after the refresh, and the reports of before and
after it wait: the latches are right about what will be. -/
theorem held_back_shown_overtaken :
    ∃ h d, Run (Device.new quiet) h d
      ∧ d.refreshNumber = some 1
      ∧ d.loop.state.status.network = .unknown
      ∧ d.network.map (fun p => (p.seen, p.latch.last))
        = some (1, some ⟨.offline, some false⟩)
      ∧ d.wifi.map (fun p => (p.seen, p.latch.last)) = some (1, some false)
      ∧ d.loop.prospect.network = .offline
      ∧ d.loop.prospect.is5g = some false
      ∧ d.loop.prospect.wifiRunning = some false := by
  obtain ⟨h, d, run, hnumber, hunknown, hnetwork, hwifi⟩ :=
    exists_run (Device.new quiet) overtaking
      (fun d => d.refreshNumber = some 1
        ∧ d.loop.state.status.network = .unknown
        ∧ d.network.map (fun p => (p.seen, p.latch.last))
          = some (1, some ⟨.offline, some false⟩)
        ∧ d.wifi.map (fun p => (p.seen, p.latch.last)) = some (1, some false))
      (by decide +kernel)
  obtain ⟨p, hp, hpseen⟩ := Option.map_eq_some_iff.mp hnetwork
  obtain ⟨q, hq, hqseen⟩ := Option.map_eq_some_iff.mp hwifi
  obtain ⟨hpseen, hplast⟩ := Prod.mk.inj hpseen
  obtain ⟨hqseen, hqlast⟩ := Prod.mk.inj hqseen
  obtain ⟨hshown, hwifiShown, -⟩ := held_back_shown run
  obtain ⟨hstate, his5g⟩ := hshown p _ hp hplast (hpseen ▸ hnumber)
  exact ⟨h, d, run, hnumber, hunknown, hnetwork, hwifi, hstate, his5g,
    hwifiShown q _ hq hqlast (hqseen ▸ hnumber)⟩

end Device

end Gateway
