import Gateway.Device.Lifecycle
import Gateway.Proofs.Loop.Reports

/-!
# Acts of the device

The device is the place where processes meet: the LED loop, the pollers and
the battery's events act in any order, and whatever else there is may
change between two acts. An act is the device's own function for it.

- **Acts** (`Act`, `act?`): what can happen, the rest of the world in
  `elsewhere`.
- **The mail** (`tells`, `hears_act?`, `prospect_act?`): an act that is
  not a turn of the loop does nothing to it but tell it messages.
- **The others** (`network_act?_cases`, `wifi_act?_cases`, `told_act?`):
  where the pollers after an act come from, and what the battery's
  subscribers were told.
-/

namespace Gateway.Device

open Loop (Message)

/-! ## Acts -/

/-- What can happen to the device. -/
inductive Act where
  | starts (s : Service)
  | stops
  | loopTurns
  | batteryEvent
  | networkBegins
  | networkEnds
  | wifiPolls
  | command (c : Loop.Command)
  | keyEvent (k : Loop.KeyEvent)
  /-- Time passes, files change, the modem answers, the configuration is
  edited: all that leaves the loop, the pollers and whom the battery's
  subscribers were told of as they are. -/
  | elsewhere (rest : Device)

/-- The device after an act, if it can happen now. -/
def act? (d : Device) : Act → Option Device
  | .starts s => some (d.startService s).1
  | .stops => some d.stopServices
  | .loopTurns => d.loopStep?
  | .batteryEvent => some d.batteryEvent.1
  | .networkBegins => d.networkStep?
  | .networkEnds => d.networkEnd?
  | .wifiPolls => d.wifiStep?
  | .command c => some (d.tellLoop (.command c))
  | .keyEvent k => (d.loop.press? k).map fun loop => { d with loop }
  | .elsewhere rest => some { rest with
      loop := d.loop
      network := d.network
      wifi := d.wifi
      monitor := { d.monitor with policy := rest.monitor.policy } }

/-- The network poller after its poll, and the sample if it is news. -/
def networkFound? (d : Device) :
    Option (Network.Poller × Option Network.Sample) := do
  let p ← d.network
  let f ← d.exchange.outcome? networkCaller
  some (p.finish (networkAnswer f.value))

/-- The access point's poller after its poll, and what it saw if it is
news. -/
def wifiFound? (d : Device) : Option (Wifi.Poller × Option Bool) := do
  let p ← d.wifi
  if p.isDue d.now then
    some (p.poll d.refreshNumber d.now (d.probe.isAlive d.files))
  else none

/-- Whether the reading of the battery now would be news to the loop. -/
def batteryNews (d : Device) : Bool :=
  (d.monitor.audience (d.monitor.current d.files)).contains 0

/-- The messages that an act puts in the loop's queue. -/
def tells (d : Device) : Act → List Message
  | .batteryEvent =>
      if d.batteryNews then [.battery (d.monitor.current d.files)] else []
  | .networkEnds =>
      (d.networkFound?.bind (·.2)).toList.map Message.network
  | .wifiPolls => (d.wifiFound?.bind (·.2)).toList.map Message.wifi
  | .command c => [.command c]
  | _ => []

/-- Who tells the loop what. -/
theorem mem_tells {d : Device} {a : Act} {m : Message}
    (h : m ∈ d.tells a) :
    (a = .batteryEvent ∧ ∃ r, m = .battery r)
      ∨ (a = .networkEnds ∧ ∃ s, m = .network s)
      ∨ (a = .wifiPolls ∧ ∃ alive, m = .wifi alive)
      ∨ ∃ c, m = .command c := by
  cases a with
  | batteryEvent =>
      unfold tells at h
      dsimp only at h
      split at h
      · exact Or.inl ⟨rfl, _, List.mem_singleton.mp h⟩
      · cases h
  | networkEnds =>
      obtain ⟨s, -, rfl⟩ := List.mem_map.mp h
      exact Or.inr (Or.inl ⟨rfl, s, rfl⟩)
  | wifiPolls =>
      obtain ⟨alive, -, rfl⟩ := List.mem_map.mp h
      exact Or.inr (Or.inr (Or.inl ⟨rfl, alive, rfl⟩))
  | command c =>
      exact Or.inr (Or.inr (Or.inr ⟨c, List.mem_singleton.mp h⟩))
  | _ => cases h

/-! ## What acts do to the parts -/

/-- What a step of the loop wants done touches none of the parts that
reports go through. -/
theorem perform_eq (d : Device) (effects : List Loop.Effect) :
    d.perform effects
      = { d with
          board := (d.perform effects).board
          files := (d.perform effects).files
          commands := (d.perform effects).commands
          notes := (d.perform effects).notes } := by
  induction effects generalizing d with
  | nil => rfl
  | cons e rest ih =>
      cases e with
      | publish notice =>
          rw [perform, ih]
      | issueShutdown =>
          rw [perform, ih]
          rfl

theorem loopStep?_cases {d d' : Device} (h : d.loopStep? = some d') :
    ∃ loop effects, d.loop.turn? d.surroundings = some (loop, effects)
      ∧ d' = { d with loop }.perform effects := by
  obtain ⟨⟨loop, effects⟩, hturn, rfl⟩ := Option.map_eq_some_iff.mp h
  exact ⟨loop, effects, hturn, rfl⟩

/-- A poll of the network that ends has found something. -/
theorem networkEnd?_cases {d d' : Device} (h : d.networkEnd? = some d') :
    ∃ found exchange, d.networkFound? = some found
      ∧ d' = { d with exchange }.reportNetwork found := by
  unfold networkEnd? takeOutcome? at h
  cases hp : d.network with
  | none =>
      rw [hp] at h
      cases h
  | some p =>
      cases hf : d.exchange.outcome? networkCaller with
      | none =>
          rw [hp, hf] at h
          cases h
      | some f =>
          have hfound : d.networkFound?
              = some (p.finish (networkAnswer f.value)) := by
            simp [networkFound?, hp, hf]
          rw [hp, hf] at h
          exact ⟨_, _, hfound, (Option.some.inj h).symm⟩

/-- A poll of the network begins: the poller notices a refresh. -/
theorem networkStep?_cases {d d' : Device} (h : d.networkStep? = some d') :
    ∃ p exchange, d.network = some p
      ∧ d' = { d with
          network := some (p.begin d.refreshNumber d.now)
          exchange } := by
  unfold networkStep? at h
  cases hp : d.network with
  | none =>
      rw [hp] at h
      cases h
  | some p =>
      rw [hp] at h
      replace h : (if p.isDue d.now then _ else none) = some d' := h
      split at h
      · exact ⟨p, _, rfl, (Option.some.inj h).symm⟩
      · cases h

/-- A poll of the access point has seen something. -/
theorem wifiStep?_cases {d d' : Device} (h : d.wifiStep? = some d') :
    ∃ found, d.wifiFound? = some found ∧ d' = d.reportWifi found := by
  unfold wifiStep? at h
  cases hp : d.wifi with
  | none =>
      rw [hp] at h
      cases h
  | some p =>
      rw [hp] at h
      replace h : (if p.isDue d.now then _ else none) = some d' := h
      split at h
      · next hdue =>
          have hfound : d.wifiFound? = some (p.poll d.refreshNumber d.now
              (d.probe.isAlive d.files)) := by
            simp [wifiFound?, hp, hdue]
          exact ⟨_, hfound, (Option.some.inj h).symm⟩
      · cases h

/-! ## Starting services -/

/-- An attempt to start something fails and changes nothing, or does it.
-/
theorem attempt_cases (d : Device) (r : Except String Device) :
    (d.attempt r).1 = d ∨ r = .ok (d.attempt r).1 := by
  cases r with
  | error text => exact Or.inl rfl
  | ok d' => exact Or.inr rfl

theorem startLoop_cases {d d' : Device}
    (h : d.runLoop.map (fun d => { d with loopService := true }) = .ok d') :
    d.loop.takes = true
      ∧ d' = { d with loop := d.loop.start d.now, loopService := true } := by
  unfold runLoop at h
  split at h
  · next hwaiting =>
      have hphase : d.loop.phase = .waiting := of_decide_eq_true hwaiting
      have htakes : d.loop.takes = true := by
        simp [Loop.Task.takes, hphase]
      cases h
      exact ⟨htakes, rfl⟩
  · cases h

theorem hears_presses (now : Nat) (keys : List PowerKey.Transition)
    (t : Loop.Task) :
    let t' := keys.foldl (fun loop k => (loop.press? ⟨k, now⟩).getD loop) t
    t.Hears t' [] ∧ t'.takes = t.takes := by
  induction keys generalizing t with
  | nil => exact ⟨t.hears_nothing, rfl⟩
  | cons k rest ih =>
      cases hk : t.press? ⟨k, now⟩ with
      | none =>
          rw [List.foldl_cons, hk, Option.getD_none]
          exact ih t
      | some t₁ =>
          obtain ⟨hfirst, hsame⟩ := Loop.Task.press?_cases hk
          obtain ⟨hrest, htakes⟩ := ih t₁
          rw [List.foldl_cons, hk, Option.getD_some]
          exact ⟨hfirst.trans hrest, htakes.trans hsame⟩

theorem press_cases (d : Device) (keys : List PowerKey.Transition) :
    ∃ loop, d.press keys = { d with loop }
      ∧ d.loop.Hears loop [] ∧ loop.takes = d.loop.takes :=
  ⟨_, rfl, hears_presses d.now keys d.loop⟩

theorem startPowerKey_cases {d d' : Device} (h : d.startPowerKey = .ok d') :
    ∃ loop keyDevice, d' = { d with loop, keyDevice }
      ∧ d.loop.Hears loop [] ∧ loop.takes = d.loop.takes := by
  unfold startPowerKey at h
  dsimp only at h
  split at h
  · cases h
    exact ⟨d.loop, d.keyDevice, rfl, d.loop.hears_nothing, rfl⟩
  split at h
  · next device _ =>
      cases h
      obtain ⟨loop, heq, hhears, htakes⟩ :=
        press_cases { d with keyDevice := true } _
      exact ⟨loop, true, heq, hhears, htakes⟩
  · cases h

theorem startWatcher_cases {d d' : Device} (h : d.startWatcher = .ok d') :
    ∃ watcher, d' = { d with watcher } := by
  unfold startWatcher at h
  split at h
  · cases h
    exact ⟨_, rfl⟩
  · cases h

theorem startControl_cases (d : Device) :
    ∃ bus relay board, d.startControl.1 = { d with bus, relay, board } := by
  unfold startControl
  dsimp only
  split
  · exact ⟨_, _, _, rfl⟩
  · exact ⟨_, _, _, rfl⟩

/-! ## The mail -/

/-- The device before and after something that told its loop messages,
if the loop takes any, and did nothing else to it. -/
structure Hears (d d' : Device) (told : List Message) : Prop where
  takes : d'.loop.takes = true → d.loop.takes = true
  loop : d'.loop.takes = true → d.loop.Hears d'.loop told

theorem hears_of_same_loop {d d' : Device} (h : d'.loop = d.loop) :
    d.Hears d' [] := by
  refine ⟨fun htakes => ?_, fun _ => ?_⟩
  · rw [← h]
    exact htakes
  · rw [h]
    exact d.loop.hears_nothing

theorem hears_send {d d' : Device} {m : Message}
    (h : d'.loop = d.loop.send m) : d.Hears d' [m] := by
  have htakes : d'.loop.takes = d.loop.takes := by
    rw [h]
    exact d.loop.takes_send m
  refine ⟨fun hd => htakes ▸ hd, fun hd => ?_⟩
  rw [h]
  exact Loop.Task.hears_send (htakes ▸ hd) m

theorem hears_attempt {d : Device} {r : Except String Device}
    (h : ∀ d', r = .ok d' → d.Hears d' []) : d.Hears (d.attempt r).1 [] := by
  rcases d.attempt_cases r with hsame | hstarted
  · exact hears_of_same_loop (congrArg loop hsame)
  · exact h _ hstarted

theorem hears_startService (d : Device) (s : Service) :
    d.Hears (d.startService s).1 [] := by
  cases s with
  | leds =>
      refine hears_attempt fun d' h => ?_
      obtain ⟨htakes, rfl⟩ := startLoop_cases h
      exact ⟨fun _ => htakes, Loop.Task.hears_start⟩
  | battery => exact hears_of_same_loop rfl
  | powerKey =>
      refine hears_attempt fun d' h => ?_
      obtain ⟨loop, keyDevice, rfl, hhears, htakes⟩ := startPowerKey_cases h
      exact ⟨fun h => htakes ▸ h, fun _ => hhears⟩
  | control =>
      obtain ⟨bus, relay, board, h⟩ := d.startControl_cases
      have hloop : d.startControl.1.loop = d.loop := by rw [h]
      exact hears_of_same_loop hloop
  | network => exact hears_of_same_loop rfl
  | wifi => exact hears_of_same_loop rfl
  | configWatcher =>
      refine hears_attempt fun d' h => ?_
      obtain ⟨watcher, rfl⟩ := startWatcher_cases h
      exact hears_of_same_loop rfl

theorem hears_stopServices (d : Device) : d.Hears d.stopServices [] := by
  cases hservice : d.loopService with
  | false =>
      have hloop : d.stopServices.loop = d.loop := by
        simp [stopServices, hservice]
      exact hears_of_same_loop hloop
  | true =>
      have hloop : d.stopServices.loop = d.loop.cancel := by
        simp [stopServices, hservice]
      refine ⟨fun h => ?_, fun _ => ?_⟩
      · rw [hloop] at h
        exact h
      · rw [hloop]
        exact d.loop.hears_cancel

theorem hears_batteryEvent (d : Device) :
    d.Hears d.batteryEvent.1 (d.tells .batteryEvent) := by
  unfold batteryEvent tells batteryNews
  dsimp only [Battery.Monitor.handleEvent]
  split
  · exact hears_send rfl
  · exact hears_of_same_loop rfl

/-- An act that is no turn of the loop does nothing to it but tell it
messages. -/
theorem hears_act? {d d' : Device} {a : Act} (h : d.act? a = some d')
    (ha : a ≠ .loopTurns) : d.Hears d' (d.tells a) := by
  cases a with
  | loopTurns => exact absurd rfl ha
  | starts s =>
      obtain rfl := Option.some.inj h
      exact d.hears_startService s
  | stops =>
      obtain rfl := Option.some.inj h
      exact d.hears_stopServices
  | batteryEvent =>
      obtain rfl := Option.some.inj h
      exact d.hears_batteryEvent
  | networkBegins =>
      obtain ⟨p, exchange, -, rfl⟩ := networkStep?_cases h
      exact hears_of_same_loop rfl
  | networkEnds =>
      obtain ⟨⟨p, sample⟩, exchange, hfound, rfl⟩ := networkEnd?_cases h
      rw [tells, hfound]
      cases sample with
      | none => exact hears_of_same_loop rfl
      | some s => exact hears_send rfl
  | wifiPolls =>
      obtain ⟨⟨p, news⟩, hfound, rfl⟩ := wifiStep?_cases h
      rw [tells, hfound]
      cases news with
      | none => exact hears_of_same_loop rfl
      | some alive => exact hears_send rfl
  | command c =>
      obtain rfl := Option.some.inj h
      exact hears_send rfl
  | keyEvent k =>
      obtain ⟨loop, hpress, rfl⟩ := Option.map_eq_some_iff.mp h
      obtain ⟨hhears, htakes⟩ := Loop.Task.press?_cases hpress
      exact ⟨fun h => htakes ▸ h, fun _ => hhears⟩
  | elsewhere rest =>
      obtain rfl := Option.some.inj h
      exact hears_of_same_loop rfl

/-- A turn of the loop touches none of the others. -/
theorem loopTurns_cases {d d' : Device} (h : d.act? .loopTurns = some d') :
    (∃ effects, d.loop.turn? d.surroundings = some (d'.loop, effects))
      ∧ d'.network = d.network ∧ d'.wifi = d.wifi
      ∧ d'.monitor = d.monitor := by
  obtain ⟨loop, effects, hturn, rfl⟩ := loopStep?_cases h
  rw [perform_eq]
  exact ⟨⟨effects, hturn⟩, rfl, rfl, rfl⟩

/-- An act refreshes, or it leaves the prospect but for what it tells. -/
theorem prospect_act? {d d' : Device} {a : Act} (h : d.act? a = some d')
    (htakes : d'.loop.takes = true) :
    d.loop.takes = true
      ∧ (d'.loop.state.refreshes = d.loop.state.refreshes + 1
        ∨ d'.loop.state.refreshes = d.loop.state.refreshes
          ∧ d'.loop.prospect
              = (d.tells a).foldl Loop.noted d.loop.prospect) := by
  by_cases ha : a = .loopTurns
  · subst ha
    obtain ⟨⟨effects, hturn⟩, -⟩ := loopTurns_cases h
    refine ⟨Loop.Task.takes_of_turn? hturn, ?_⟩
    exact Loop.Task.prospect_turn? hturn htakes
  · have hhears := hears_act? h ha
    have hloop := hhears.loop htakes
    exact ⟨hhears.takes htakes, Or.inr ⟨hloop.refreshes, hloop.prospect⟩⟩

/-! ## The others -/

/-- The device before and after something that left the pollers and what
the battery's subscribers were told. -/
structure Spares (d d' : Device) : Prop where
  network : d'.network = d.network
  wifi : d'.wifi = d.wifi
  told : d'.monitor.told = d.monitor.told

theorem spares_attempt {d : Device} {r : Except String Device}
    (h : ∀ d', r = .ok d' → d.Spares d') : d.Spares (d.attempt r).1 := by
  rcases d.attempt_cases r with hsame | hstarted
  · rw [hsame]
    exact ⟨rfl, rfl, rfl⟩
  · exact h _ hstarted

/-- Only the pollers' own services touch them. -/
theorem spares_startService (d : Device) {s : Service}
    (hnetwork : s ≠ .network) (hwifi : s ≠ .wifi) :
    d.Spares (d.startService s).1 := by
  cases s with
  | leds =>
      refine spares_attempt fun d' h => ?_
      obtain ⟨-, rfl⟩ := startLoop_cases h
      exact ⟨rfl, rfl, rfl⟩
  | battery => exact ⟨rfl, rfl, rfl⟩
  | powerKey =>
      refine spares_attempt fun d' h => ?_
      obtain ⟨loop, keyDevice, rfl, -⟩ := startPowerKey_cases h
      exact ⟨rfl, rfl, rfl⟩
  | control =>
      obtain ⟨bus, relay, board, h⟩ := d.startControl_cases
      rw [startService, h]
      exact ⟨rfl, rfl, rfl⟩
  | network => exact absurd rfl hnetwork
  | wifi => exact absurd rfl hwifi
  | configWatcher =>
      refine spares_attempt fun d' h => ?_
      obtain ⟨watcher, rfl⟩ := startWatcher_cases h
      exact ⟨rfl, rfl, rfl⟩

theorem network_startService (d : Device) {s : Service} (h : s ≠ .network) :
    (d.startService s).1.network = d.network := by
  by_cases hwifi : s = .wifi
  · subst hwifi
    rfl
  · exact (d.spares_startService h hwifi).network

theorem wifi_startService (d : Device) {s : Service} (h : s ≠ .wifi) :
    (d.startService s).1.wifi = d.wifi := by
  by_cases hnetwork : s = .network
  · subst hnetwork
    rfl
  · exact (d.spares_startService hnetwork h).wifi

theorem told_startService (d : Device) (s : Service) :
    (d.startService s).1.monitor.told = d.monitor.told := by
  by_cases hnetwork : s = .network
  · subst hnetwork
    rfl
  by_cases hwifi : s = .wifi
  · subst hwifi
    rfl
  · exact (d.spares_startService hnetwork hwifi).told

theorem pollers_batteryEvent (d : Device) :
    d.batteryEvent.1.network = d.network ∧ d.batteryEvent.1.wifi = d.wifi := by
  unfold batteryEvent
  dsimp only
  split
  · exact ⟨rfl, rfl⟩
  · exact ⟨rfl, rfl⟩

theorem reportNetwork_cases (d : Device) (p : Network.Poller)
    (news : Option Network.Sample) :
    (∀ q, (d.reportNetwork (p, news)).network = some q → q = p)
      ∧ (d.reportNetwork (p, news)).wifi = d.wifi
      ∧ (d.reportNetwork (p, news)).monitor = d.monitor := by
  have kept : ∀ {gone : Bool} {q : Network.Poller},
      (if gone then none else some p) = some q → q = p := by
    intro gone q h
    cases gone with
    | true => cases h
    | false => exact (Option.some.inj h).symm
  cases news with
  | none => exact ⟨fun q hq => kept hq, rfl, rfl⟩
  | some s => exact ⟨fun q hq => kept hq, rfl, rfl⟩

theorem reportWifi_cases (d : Device) (p : Wifi.Poller)
    (news : Option Bool) :
    (∀ q, (d.reportWifi (p, news)).wifi = some q → q = p)
      ∧ (d.reportWifi (p, news)).network = d.network
      ∧ (d.reportWifi (p, news)).monitor = d.monitor := by
  cases news with
  | none => exact ⟨fun q hq => (Option.some.inj hq).symm, rfl, rfl⟩
  | some alive =>
      refine ⟨fun q hq => ?_, rfl, rfl⟩
      replace hq : (if d.loop.takes then some p else none) = some q := hq
      split at hq
      · exact (Option.some.inj hq).symm
      · cases hq

/-- Where the network poller comes from: it is as it was, or new, or it
begins a poll; or it ends one. -/
theorem network_act?_cases {d d' : Device} {a : Act} {q : Network.Poller}
    (h : d.act? a = some d') (hq : d'.network = some q) :
    (a ≠ .networkEnds
        ∧ (d.network = some q ∨ q.seen = 0 ∧ q.latch.last = none
          ∨ ∃ p, d.network = some p ∧ q = p.begin d.refreshNumber d.now))
      ∨ a = .networkEnds ∧ ∃ news, d.networkFound? = some (q, news) := by
  cases a with
  | starts s =>
      refine Or.inl ⟨Act.noConfusion, ?_⟩
      obtain rfl := Option.some.inj h
      by_cases hs : s = .network
      · subst hs
        obtain ⟨ticker, -, rfl⟩ := Option.map_eq_some_iff.mp hq
        exact Or.inr (Or.inl ⟨rfl, rfl⟩)
      · exact Or.inl ((d.network_startService hs) ▸ hq)
  | stops =>
      obtain rfl := Option.some.inj h
      obtain ⟨hq, -⟩ := Option.filter_eq_some_iff.mp hq
      exact Or.inl ⟨Act.noConfusion, Or.inl hq⟩
  | loopTurns =>
      obtain ⟨-, hsame, -⟩ := loopTurns_cases h
      exact Or.inl ⟨Act.noConfusion, Or.inl (hsame ▸ hq)⟩
  | batteryEvent =>
      obtain rfl := Option.some.inj h
      rw [(pollers_batteryEvent d).1] at hq
      exact Or.inl ⟨Act.noConfusion, Or.inl hq⟩
  | networkBegins =>
      obtain ⟨p, exchange, hp, rfl⟩ := networkStep?_cases h
      obtain rfl := Option.some.inj hq
      exact Or.inl ⟨Act.noConfusion, Or.inr (Or.inr ⟨p, hp, rfl⟩)⟩
  | networkEnds =>
      obtain ⟨⟨p, news⟩, exchange, hfound, rfl⟩ := networkEnd?_cases h
      obtain rfl := (reportNetwork_cases _ p news).1 q hq
      exact Or.inr ⟨rfl, news, hfound⟩
  | wifiPolls =>
      obtain ⟨⟨p, news⟩, -, rfl⟩ := wifiStep?_cases h
      rw [(d.reportWifi_cases p news).2.1] at hq
      exact Or.inl ⟨Act.noConfusion, Or.inl hq⟩
  | command c =>
      obtain rfl := Option.some.inj h
      exact Or.inl ⟨Act.noConfusion, Or.inl hq⟩
  | keyEvent k =>
      obtain ⟨loop, -, rfl⟩ := Option.map_eq_some_iff.mp h
      exact Or.inl ⟨Act.noConfusion, Or.inl hq⟩
  | elsewhere rest =>
      obtain rfl := Option.some.inj h
      exact Or.inl ⟨Act.noConfusion, Or.inl hq⟩

/-- Where the access point's poller comes from: it is as it was, or new;
or it polled. -/
theorem wifi_act?_cases {d d' : Device} {a : Act} {q : Wifi.Poller}
    (h : d.act? a = some d') (hq : d'.wifi = some q) :
    (a ≠ .wifiPolls
        ∧ (d.wifi = some q ∨ q.seen = 0 ∧ q.latch.last = none))
      ∨ a = .wifiPolls ∧ ∃ news, d.wifiFound? = some (q, news) := by
  cases a with
  | starts s =>
      refine Or.inl ⟨Act.noConfusion, ?_⟩
      obtain rfl := Option.some.inj h
      by_cases hs : s = .wifi
      · subst hs
        obtain ⟨ticker, -, rfl⟩ := Option.map_eq_some_iff.mp hq
        exact Or.inr ⟨rfl, rfl⟩
      · exact Or.inl ((d.wifi_startService hs) ▸ hq)
  | stops =>
      obtain rfl := Option.some.inj h
      cases hq
  | loopTurns =>
      obtain ⟨-, -, hsame, -⟩ := loopTurns_cases h
      exact Or.inl ⟨Act.noConfusion, Or.inl (hsame ▸ hq)⟩
  | batteryEvent =>
      obtain rfl := Option.some.inj h
      rw [(pollers_batteryEvent d).2] at hq
      exact Or.inl ⟨Act.noConfusion, Or.inl hq⟩
  | networkBegins =>
      obtain ⟨p, exchange, -, rfl⟩ := networkStep?_cases h
      exact Or.inl ⟨Act.noConfusion, Or.inl hq⟩
  | networkEnds =>
      obtain ⟨⟨p, news⟩, exchange, -, rfl⟩ := networkEnd?_cases h
      rw [(reportNetwork_cases _ p news).2.1] at hq
      exact Or.inl ⟨Act.noConfusion, Or.inl hq⟩
  | wifiPolls =>
      obtain ⟨⟨p, news⟩, hfound, rfl⟩ := wifiStep?_cases h
      obtain rfl := (d.reportWifi_cases p news).1 q hq
      exact Or.inr ⟨rfl, news, hfound⟩
  | command c =>
      obtain rfl := Option.some.inj h
      exact Or.inl ⟨Act.noConfusion, Or.inl hq⟩
  | keyEvent k =>
      obtain ⟨loop, -, rfl⟩ := Option.map_eq_some_iff.mp h
      exact Or.inl ⟨Act.noConfusion, Or.inl hq⟩
  | elsewhere rest =>
      obtain rfl := Option.some.inj h
      exact Or.inl ⟨Act.noConfusion, Or.inl hq⟩

theorem monitor_batteryEvent (d : Device) :
    d.batteryEvent.1.monitor
      = d.monitor.tell (d.monitor.current d.files) := by
  unfold batteryEvent
  dsimp only [Battery.Monitor.handleEvent]
  split
  · rfl
  · rfl

/-- Only a battery event changes what the battery's subscribers were told
last. -/
theorem told_act? {d d' : Device} {a : Act} (h : d.act? a = some d')
    (ha : a ≠ .batteryEvent) : d'.monitor.told = d.monitor.told := by
  cases a with
  | batteryEvent => exact absurd rfl ha
  | starts s =>
      obtain rfl := Option.some.inj h
      exact d.told_startService s
  | stops =>
      obtain rfl := Option.some.inj h
      rfl
  | loopTurns =>
      obtain ⟨-, -, -, hsame⟩ := loopTurns_cases h
      exact congrArg Battery.Monitor.told hsame
  | networkBegins =>
      obtain ⟨p, exchange, -, rfl⟩ := networkStep?_cases h
      rfl
  | networkEnds =>
      obtain ⟨⟨p, news⟩, exchange, -, rfl⟩ := networkEnd?_cases h
      rw [(reportNetwork_cases _ p news).2.2]
  | wifiPolls =>
      obtain ⟨⟨p, news⟩, -, rfl⟩ := wifiStep?_cases h
      rw [(d.reportWifi_cases p news).2.2]
  | command c =>
      obtain rfl := Option.some.inj h
      rfl
  | keyEvent k =>
      obtain ⟨loop, -, rfl⟩ := Option.map_eq_some_iff.mp h
      rfl
  | elsewhere rest =>
      obtain rfl := Option.some.inj h
      rfl

end Gateway.Device
