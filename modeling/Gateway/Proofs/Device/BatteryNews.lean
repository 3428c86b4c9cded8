import Gateway.Proofs.Device.Run

/-!
# What the loop is told of the battery

Two ways lead from the battery to the status. The charge monitor tells the
loop of a reading if its key differs from the one it told last; a refresh
reads the battery itself and tells the monitor nothing. So after a refresh
the monitor may hold a reading back that the loop does not have.

- **The monitor's memory** (`Informed`, `informed_run`): while a report of
  the battery waits, the last of them is the reading the monitor told
  last.
- **After an event** (`battery_shown_iff`): exactly when the status shows
  the reading of the latest event.
- **A stale status** (`refresh_leaves_stale`): a refresh between two equal
  readings, with another reading in between.
-/

namespace Gateway.Device

/-! ## The monitor's memory -/

/-- A reading is news if its key is not the one told last. -/
theorem batteryNews_iff {d : Device} {k : Battery.Key}
    (h : d.monitor.told = [k]) :
    d.batteryNews = true ↔ k ≠ (d.monitor.current d.files).key := by
  unfold batteryNews Battery.Monitor.audience
  rw [h]
  by_cases hk : k = (d.monitor.current d.files).key
  · simp [hk]
  · simp [hk]

theorem key_of_no_news {d : Device} {k : Battery.Key}
    (h : d.monitor.told = [k]) (hnews : d.batteryNews = false) :
    k = (d.monitor.current d.files).key := by
  refine Decidable.not_not.mp fun hk => ?_
  rw [(batteryNews_iff h).mpr hk] at hnews
  cases hnews

/-- Only a battery event tells the loop of the battery. -/
theorem battery_not_told {d : Device} {a : Act} (ha : a ≠ .batteryEvent)
    (r : Battery.Reading) : Loop.Message.battery r ∉ d.tells a := by
  intro hr
  rcases mem_tells hr with
    ⟨hevent, -⟩ | ⟨-, n, heq⟩ | ⟨-, alive, heq⟩ | ⟨c, heq⟩
  · exact ha hevent
  · cases heq
  · cases heq
  · cases heq

theorem battery_of_tells {d : Device} {a : Act} (ha : a ≠ .batteryEvent)
    (s : DeviceStatus) :
    ((d.tells a).foldl Loop.noted s).battery = s.battery := by
  refine Loop.part_foldl (fun m hm s => ?_) s
  rcases mem_tells hm with
    ⟨hevent, -⟩ | ⟨-, n, rfl⟩ | ⟨-, alive, rfl⟩ | ⟨c, rfl⟩
  · exact absurd hevent ha
  · rfl
  · rfl
  · rfl

/-- The monitor told the loop of a key last, and as long as a report of
the battery waits, that is what the loop will have. -/
structure Informed (d : Device) (k : Battery.Key) : Prop where
  told : d.monitor.told = [k]
  waiting : d.loop.awaitsBattery → d.loop.prospect.battery = k.shown

theorem informed_new (parts : Parts) :
    (Device.new parts).Informed
      ((bare parts).monitor.current parts.files).key where
  told := rfl
  waiting := fun _ => rfl

/-- An event leaves the monitor with the key of its reading. -/
theorem Informed.batteryEvent {d d' : Device} {k : Battery.Key}
    (hd : d.Informed k) (h : d.act? .batteryEvent = some d')
    (htakes : d'.loop.takes = true) :
    d'.Informed (d.monitor.current d.files).key := by
  have hhears := (hears_act? h Act.noConfusion).loop htakes
  refine ⟨?_, fun hwaits => ?_⟩
  · obtain rfl := Option.some.inj h
    rw [monitor_batteryEvent, Battery.Monitor.tell, hd.told]
    by_cases hk : k = (d.monitor.current d.files).key
    · simp [hk]
    · simp [hk]
  · rw [hhears.prospect]
    cases hnews : d.batteryNews with
    | true =>
        rw [tells, hnews]
        rfl
    | false =>
        have hsame := key_of_no_news hd.told hnews
        obtain ⟨r, hr⟩ := hwaits
        rw [hhears.messages, tells, hnews] at hr
        rw [tells, hnews, ← hsame]
        exact hd.waiting ⟨r, by simpa using hr⟩

theorem Informed.act? {d d' : Device} {k : Battery.Key} {a : Act}
    (hd : d.Informed k) (ha : a ≠ .batteryEvent) (h : d.act? a = some d')
    (htakes : d'.loop.takes = true) : d'.Informed k := by
  refine ⟨(told_act? h ha).trans hd.told, fun hwaits => ?_⟩
  by_cases hturn : a = .loopTurns
  · subst hturn
    obtain ⟨⟨effects, hturn⟩, -⟩ := loopTurns_cases h
    obtain ⟨hwaited, hsame⟩ := Loop.Task.battery_turn? hturn htakes hwaits
    exact hsame.trans (hd.waiting hwaited)
  · have hhears := (hears_act? h hturn).loop htakes
    obtain ⟨r, hr⟩ := hwaits
    rw [hhears.messages] at hr
    have hwaited : d.loop.awaitsBattery := by
      rcases List.mem_append.mp hr with hr | hr
      · exact ⟨r, hr⟩
      · exact absurd hr (battery_not_told ha r)
    rw [hhears.prospect, battery_of_tells ha]
    exact hd.waiting hwaited

theorem informed_run {parts : Parts} {h : History} {d : Device}
    (run : Run (Device.new parts) h d) (htakes : d.loop.takes = true) :
    ∃ k, d.Informed k := by
  induction run with
  | start => exact ⟨_, informed_new parts⟩
  | step a run hact ih =>
      obtain ⟨k, hd⟩ := ih (prospect_act? hact htakes).1
      by_cases ha : a = .batteryEvent
      · subst ha
        exact ⟨_, hd.batteryEvent hact htakes⟩
      · exact ⟨k, hd.act? ha hact htakes⟩

/-! ## After an event -/

theorem refreshes_le_of_act? {d d' : Device} {a : Act}
    (h : d.act? a = some d') (htakes : d'.loop.takes = true) :
    d.loop.state.refreshes ≤ d'.loop.state.refreshes := by
  obtain ⟨-, hmore | ⟨hsame, -⟩⟩ := prospect_act? h htakes
  · omega
  · omega

/-- Since a moment without another event or a refresh, the prospect says
the same of the battery. The number of refreshes never falls, so one that
is the same again was the same all along. -/
theorem battery_since {first d₀ d : Device} {a : Act}
    {later earlier : History}
    (run : Run first (later ++ ⟨d₀, a⟩ :: earlier) d)
    (hlater : ∀ x ∈ later, x.act ≠ .batteryEvent)
    (htakes : d.loop.takes = true) :
    Run first earlier d₀ ∧ d₀.loop.takes = true
      ∧ d₀.loop.state.refreshes ≤ d.loop.state.refreshes
      ∧ (d.loop.state.refreshes = d₀.loop.state.refreshes →
        d.loop.prospect.battery
          = ((d₀.tells a).foldl Loop.noted d₀.loop.prospect).battery) := by
  induction later generalizing d with
  | nil =>
      cases run with
      | step a run hact =>
          have hle := refreshes_le_of_act? hact htakes
          obtain ⟨htook, hmove⟩ := prospect_act? hact htakes
          refine ⟨run, htook, hle, fun hsame => ?_⟩
          rcases hmove with hmore | ⟨-, hprospect⟩
          · omega
          · rw [hprospect]
  | cons x rest ih =>
      cases run with
      | @step _ d₁ _ a' run hact =>
          have hle := refreshes_le_of_act? hact htakes
          obtain ⟨htook, hmove⟩ := prospect_act? hact htakes
          obtain ⟨ha', hrest⟩ := List.forall_mem_cons.mp hlater
          obtain ⟨run₀, htook₀, hle₀, hbattery⟩ := ih run hrest htook
          refine ⟨run₀, htook₀, Nat.le_trans hle₀ hle, fun hsame => ?_⟩
          rcases hmove with hmore | ⟨hsame₁, hprospect⟩
          · omega
          · rw [hprospect, battery_of_tells ha']
            exact hbattery (hsame₁.symm.trans hsame)

/-- When the status shows what the latest battery event read, once no
report of the battery waits and if no refresh came since: the reading was
news to the monitor; or it was not, but a report with its key was still
waiting, or the status showed it already. In all other cases the event
changed nothing and a refresh before it had read something else. -/
theorem battery_shown_iff {parts : Parts} {d₀ d : Device}
    {later earlier : History}
    (run : Run (Device.new parts)
      (later ++ ⟨d₀, .batteryEvent⟩ :: earlier) d)
    (hlater : ∀ x ∈ later, x.act ≠ .batteryEvent)
    (htakes : d.loop.takes = true) (hnone : ¬ d.loop.awaitsBattery)
    (hrefresh : d.loop.state.refreshes = d₀.loop.state.refreshes) :
    let r := d₀.monitor.current d₀.files
    d.loop.state.status.battery = (r.capacity, some r.isCharging)
      ↔ d₀.batteryNews = true ∨ d₀.loop.awaitsBattery
        ∨ d₀.loop.state.status.battery
          = (r.capacity, some r.isCharging) := by
  intro r
  obtain ⟨run₀, htook, -, hsince⟩ := battery_since run hlater htakes
  obtain ⟨k, hd₀⟩ := informed_run run₀ htook
  have hshown := hsince hrefresh
  rw [Loop.Task.battery_prospect hnone] at hshown
  rw [hshown]
  cases hnews : d₀.batteryNews with
  | true =>
      rw [tells, hnews]
      exact ⟨fun _ => Or.inl rfl, fun _ => rfl⟩
  | false =>
      have hkey : k = r.key := key_of_no_news hd₀.told hnews
      rw [tells, hnews, if_neg Bool.false_ne_true, List.foldl_nil]
      by_cases hwaits : d₀.loop.awaitsBattery
      · have hlast := hd₀.waiting hwaits
        rw [hkey] at hlast
        exact ⟨fun _ => Or.inr (Or.inl hwaits), fun _ => hlast⟩
      · rw [Loop.Task.battery_prospect hwaits]
        simp [hwaits]

/-- The battery's state file and nothing else. -/
def batteryFiles (text : String) : Files :=
  let file := Config.builtIn.battery.readings
  (Files.empty.makeDirectories (Path.parent file)).put (Path.names file)
    (.file text.toUTF8.toList)

/-- A refresh finds the battery unreadable, as the monitor did before. Then
it can be read, which is news. -/
theorem battery_shown_iff_appeared :
    ∃ (earlier : History) (d₀ d₁ d : Device),
      Run (Device.new quiet)
        ([⟨d₁, .loopTurns⟩] ++ ⟨d₀, .batteryEvent⟩ :: earlier) d
      ∧ d.loop.state.refreshes = 1
      ∧ (d₀.monitor.current d₀.files).capacity = some 64
      ∧ d.loop.state.status.battery
        = ((d₀.monitor.current d₀.files).capacity,
          some (d₀.monitor.current d₀.files).isCharging) := by
  let files := batteryFiles "POWER_SUPPLY_CAPACITY=64"
  obtain ⟨earlier, d₀, run, hnews, hcapacity, hturn⟩ :=
    exists_run (Device.new quiet)
      [.starts .leds, .loopTurns, .command .refresh, .loopTurns,
        .elsewhere { bare quiet with files }]
      (fun d₀ => d₀.batteryNews = true
        ∧ (d₀.monitor.current d₀.files).capacity = some 64
        ∧ (d₀.batteryEvent.1.act? .loopTurns).any (fun d =>
          d.loop.takes = true ∧ d.loop.messages = []
            ∧ d.loop.state.refreshes = 1
            ∧ d₀.loop.state.refreshes = 1) = true)
      (by decide +kernel)
  cases hact : d₀.batteryEvent.1.act? .loopTurns with
  | none =>
      rw [hact] at hturn
      cases hturn
  | some d =>
      rw [hact] at hturn
      obtain ⟨htakes, hempty, hone, hone₀⟩ := of_decide_eq_true hturn
      have run' := (run.step .batteryEvent rfl).step .loopTurns hact
      have hnone : ¬ d.loop.awaitsBattery := by
        rintro ⟨r, hr⟩
        rw [hempty] at hr
        cases hr
      have hlater : ∀ x ∈ [(⟨d₀.batteryEvent.1, .loopTurns⟩ : Moment)],
          x.act ≠ .batteryEvent := by
        intro x hx
        rw [List.mem_singleton.mp hx]
        exact Act.noConfusion
      exact ⟨earlier, d₀, _, d, run', hone, hcapacity,
        (battery_shown_iff run' hlater htakes hnone
          (hone.trans hone₀.symm)).mpr (Or.inl hnews)⟩

/-! ## A stale status -/

/-- The battery cannot be read, as the monitor told the loop; a refresh can
read it; and then it cannot be read again. -/
def flicker : List Act :=
  let files := batteryFiles "POWER_SUPPLY_CAPACITY=64"
  [.starts .leds, .loopTurns, .elsewhere { bare quiet with files },
    .command .refresh, .loopTurns, .elsewhere (bare quiet)]

/-- A status does not always show what the latest battery event read, not
even when nothing waits: the monitor knows nothing of the refresh and holds
back the reading that it told before it. -/
theorem refresh_leaves_stale :
    ¬ ∀ (parts : Parts) (d₀ d : Device) (later earlier : History),
      Run (Device.new parts) (later ++ ⟨d₀, .batteryEvent⟩ :: earlier) d →
      (∀ x ∈ later, x.act ≠ .batteryEvent) →
      d.loop.takes = true → ¬ d.loop.awaitsBattery →
      d.loop.state.refreshes = d₀.loop.state.refreshes →
      d.loop.state.status.battery
        = ((d₀.monitor.current d₀.files).capacity,
          some (d₀.monitor.current d₀.files).isCharging) := by
  intro hshown
  obtain ⟨earlier, d₀, run, htakes, hempty, hsame, hstale⟩ :=
    exists_run (Device.new quiet) flicker
      (fun d₀ => d₀.batteryEvent.1.loop.takes = true
        ∧ d₀.batteryEvent.1.loop.messages = []
        ∧ d₀.batteryEvent.1.loop.state.refreshes
          = d₀.loop.state.refreshes
        ∧ d₀.batteryEvent.1.loop.state.status.battery
          ≠ ((d₀.monitor.current d₀.files).capacity,
            some (d₀.monitor.current d₀.files).isCharging))
      (by decide +kernel)
  have hnone : ¬ d₀.batteryEvent.1.loop.awaitsBattery := by
    rintro ⟨r, hr⟩
    rw [hempty] at hr
    cases hr
  exact hstale (hshown quiet d₀ _ [] earlier (run.step .batteryEvent rfl)
    (List.forall_mem_nil _) htakes hnone hsame)

end Gateway.Device
