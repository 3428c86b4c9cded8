import Gateway.Proofs.Led.Alike
import Gateway.Proofs.Loop.Announcements

/-!
# Producers do not disturb each other

The battery, the network and the access point report independently. A
report replaces its own part of the status and paints its own group, so
what a channel shows after any interleaving is what it shows after the
reports of its group alone.

- **Parts** (`DeviceStatus.only`): what the rule of a group reads of the
  status, and what a report of the group replaces.
- **One channel** (`Alike.report`, `Alike.report_other`): two loops that a
  channel cannot tell apart stay so when both take a report of its group,
  or one of them a report of another.
- **Interleavings** (`alike_alone`, `length_announced`): what a channel
  shows is told by the stream of its group, and how much was announced by
  the changes in each stream. Both forget how the streams were merged.
-/

namespace Gateway

namespace DeviceStatus

/-- What the status says to a group, and nothing else. -/
def only (d : DeviceStatus) : Loop.Group → DeviceStatus
  | .network => { unknown with network := d.network, is5g := d.is5g }
  | .battery =>
      { unknown with
        batteryCapacity := d.batteryCapacity, batteryCharging := d.batteryCharging }
  | .wifi => { unknown with wifiRunning := d.wifiRunning }

theorem ext_only {d d' : DeviceStatus} (h : ∀ g, d.only g = d'.only g) :
    d = d' := by
  have hnetwork := h .network
  have hbattery := h .battery
  have hwifi := h .wifi
  cases d
  cases d'
  simp_all [only, unknown]

end DeviceStatus

namespace Loop

open Led (Channel Mode)

/-! ## Reports and their groups -/

/-- The group that a message reports on; a command reports on none. -/
def Message.group? : Message → Option Group
  | .battery _ => some .battery
  | .network _ => some .network
  | .wifi _ => some .wifi
  | .command _ => none

/-- Whether the step took a report. -/
def Moment.reports (m : Moment) : Bool :=
  match m.input with
  | .message msg => msg.group?.isSome
  | _ => false

theorem Moment.reports_iff {m : Moment} : m.reports = true
    ↔ ∃ msg g, m.input = .message msg ∧ msg.group? = some g := by
  obtain ⟨s, around, input⟩ := m
  cases input <;> simp [reports, Option.isSome_iff_exists]

/-- The reports on a group that were taken, latest first. -/
def History.stream (g : Group) (h : History) : List Message :=
  (h.flatMap fun m => m.input.taken).filter (·.group? = some g)

theorem History.stream_cons (g : Group) (s : State) (around : Surroundings)
    (msg : Message) (past : History) :
    History.stream g (⟨s, around, .message msg⟩ :: past)
      = if msg.group? = some g then msg :: past.stream g
        else past.stream g := by
  by_cases hg : msg.group? = some g <;> simp [stream, Input.taken, hg]

variable {msg : Message} {g : Group}

theorem only_noted (h : msg.group? = some g) (d d' : DeviceStatus) :
    (noted d msg).only g = (noted d' msg).only g := by
  cases msg <;> cases h <;> rfl

theorem only_noted_other (h : msg.group? ≠ some g) (d : DeviceStatus) :
    (noted d msg).only g = d.only g := by
  cases msg <;> cases g <;> first | rfl | exact absurd rfl h

theorem noted_eq_iff (h : msg.group? = some g) (d : DeviceStatus) :
    noted d msg = d ↔ (noted d msg).only g = d.only g := by
  constructor
  · intro heq
    rw [heq]
  · intro hsame
    refine DeviceStatus.ext_only fun g' => ?_
    by_cases hg : msg.group? = some g'
    · rw [h] at hg
      cases hg
      exact hsame
    · exact only_noted_other hg d

theorem handle_eq_report (h : msg.group? = some g) (s : State)
    (around : Surroundings) :
    s.handle around msg = s.report (noted s.status msg) g := by
  cases msg <;> cases h <;> rfl

theorem modesOf_congr {s s' : State}
    (hstatus : s.status.only g = s'.status.only g)
    (hpolicy : s.wifiPolicy = s'.wifiPolicy) : s.modesOf g = s'.modesOf g := by
  have honly : ∀ s : State, s.modesOf g
      = { s with status := s.status.only g }.modesOf g := by
    intro s
    cases g <;> rfl
  rw [honly s, honly s']
  cases g <;> simp only [State.modesOf, hstatus, hpolicy]

theorem ne_of_mem_modesOf {s : State} {c : Channel} (hg : Group.of c ≠ g) :
    ∀ e ∈ s.modesOf g, e.1 ≠ c := by
  intro e he hc
  have hmem : e.1 ∈ g.channels := by
    rw [← s.modesOf_channels g]
    exact List.mem_map_of_mem he
  rw [hc] at hmem
  exact hg (Group.mem_channels.mp hmem)

/-! ## One channel -/

/-- The loops cannot be told apart by a channel. -/
structure Alike (c : Channel) (s s' : State) : Prop where
  status : s.status.only (Group.of c) = s'.status.only (Group.of c)
  wifiPolicy : s.wifiPolicy = s'.wifiPolicy
  paints : s.paints = s'.paints
  table : Led.Table.Alike c s.table s'.table

namespace Alike

variable {c : Channel} {s s' s'' : State}

theorem symm (h : Alike c s s') : Alike c s' s :=
  ⟨h.status.symm, h.wifiPolicy.symm, h.paints.symm, h.table.symm⟩

theorem trans (h : Alike c s s') (h' : Alike c s' s'') : Alike c s s'' :=
  ⟨h.status.trans h'.status, h.wifiPolicy.trans h'.wifiPolicy,
    h.paints.trans h'.paints, h.table.trans h'.table⟩

theorem withStatus (h : Alike c s s') {d d' : DeviceStatus}
    (hd : d.only (Group.of c) = d'.only (Group.of c)) :
    Alike c { s with status := d } { s' with status := d' } :=
  ⟨hd, h.wifiPolicy, h.paints, h.table⟩

theorem paint (h : Alike c s s') :
    Alike c (s.paint (Group.of c)) (s'.paint (Group.of c)) := by
  unfold State.paint
  rw [← h.paints, ← modesOf_congr h.status h.wifiPolicy]
  split
  · exact ⟨h.status, h.wifiPolicy, h.paints, h.table.apply _⟩
  · exact h

theorem paint_other (h : Alike c s s') (hg : Group.of c ≠ g) :
    Alike c (s.paint g) s' := by
  unfold State.paint
  split
  · exact ⟨h.status, h.wifiPolicy, h.paints,
      h.table.apply_other (ne_of_mem_modesOf hg)⟩
  · exact h

theorem report (h : Alike c s s') (hg : msg.group? = some (Group.of c))
    (around around' : Surroundings) :
    Alike c (s.handle around msg).1 (s'.handle around' msg).1 := by
  rw [handle_eq_report hg, handle_eq_report hg]
  exact (h.withStatus (only_noted hg s.status s'.status)).paint

theorem report_other (h : Alike c s s') (hg : msg.group? = some g)
    (hne : Group.of c ≠ g) (around : Surroundings) :
    Alike c (s.handle around msg).1 s' := by
  have hmiss : msg.group? ≠ some (Group.of c) := by
    rw [hg]
    intro heq
    exact hne (Option.some.inj heq).symm
  rw [handle_eq_report hg]
  have hstatus := (only_noted_other hmiss s.status).trans h.status
  exact (h.withStatus hstatus).paint_other hne

end Alike

/-! ## Interleavings -/

/-- The loop after some messages and nothing else, the latest first. -/
def State.alone (s : State) (around : Surroundings) (msgs : List Message) :
    State :=
  msgs.foldr (fun msg s => (s.handle around msg).1) s

/-- The steps of that, latest first. -/
def State.course (s : State) (around : Surroundings) : List Message → History
  | [] => []
  | msg :: past =>
      ⟨s.alone around past, around, .message msg⟩ :: s.course around past

theorem Run.alone (s : State) (around : Surroundings) (msgs : List Message) :
    Run s (s.course around msgs) (s.alone around msgs) := by
  induction msgs with
  | nil => exact Run.start
  | cons msg past ih => exact ih.step around (.message msg)

theorem stream_course (s : State) (around : Surroundings)
    (msgs : List Message) (g : Group) :
    (s.course around msgs).stream g = msgs.filter (·.group? = some g) := by
  induction msgs with
  | nil => rfl
  | cons msg past ih =>
      rw [State.course, History.stream_cons, List.filter_cons, ih]
      simp

theorem reports_course {s : State} {around : Surroundings}
    {msgs : List Message} (h : ∀ msg ∈ msgs, msg.group?.isSome = true) :
    ∀ m ∈ s.course around msgs, m.reports = true := by
  induction msgs with
  | nil => exact List.forall_mem_nil _
  | cons msg past ih =>
      obtain ⟨hlast, hpast⟩ := List.forall_mem_cons.mp h
      exact List.forall_mem_cons.mpr ⟨hlast, ih hpast⟩

/-- After any interleaving of reports a channel is as after those of its
own group alone. -/
theorem alike_alone {s s' : State} {h : History} {c : Channel}
    {answer : Bool} (steady : s.table.output.Steady c answer)
    (run : Run s h s') (reports : ∀ m ∈ h, m.reports = true)
    (around : Surroundings) :
    Alike c s' (s.alone around (h.stream (Group.of c))) := by
  induction run with
  | start => exact ⟨rfl, rfl, rfl, Led.Table.alike_self steady⟩
  | @step past s' around' input run ih =>
      obtain ⟨hlast, hpast⟩ := List.forall_mem_cons.mp reports
      obtain ⟨msg, g, rfl, hg⟩ := Moment.reports_iff.mp hlast
      rw [History.stream_cons]
      split
      case isTrue hown => exact (ih hpast).report hown around' around
      case isFalse hmiss =>
          have hne : Group.of c ≠ g := by
            rintro rfl
            exact hmiss hg
          exact (ih hpast).report_other hg hne around'

/-- How often something changes, starting with `first` and told its values,
the latest first. -/
def changes {α : Type} [DecidableEq α] (first : α) : List α → Nat
  | [] => 0
  | x :: past =>
      (if x = past.head?.getD first then 0 else 1) + changes first past

/-- What is said to a group, the latest first. -/
def History.parts (g : Group) (h : History) : List DeviceStatus :=
  (h.stream g).map fun msg => (noted .unknown msg).only g

theorem head?_parts {s s' : State} {h : History} (run : Run s h s')
    (reports : ∀ m ∈ h, m.reports = true) (g : Group) :
    (h.parts g).head?.getD (s.status.only g) = s'.status.only g := by
  induction run with
  | start => rfl
  | @step past s' around input run ih =>
      obtain ⟨hlast, hpast⟩ := List.forall_mem_cons.mp reports
      obtain ⟨msg, g', rfl, hg⟩ := Moment.reports_iff.mp hlast
      rw [State.step, handle_eq_report hg]
      unfold State.report
      dsimp only
      rw [State.paint_eq, History.parts, History.stream_cons]
      split
      case isTrue hown => exact only_noted hown .unknown s'.status
      case isFalse hmiss => exact (ih hpast).trans (only_noted_other hmiss _).symm

/-- How often the streams changed what the status says to their groups. -/
def History.news (first : State) (h : History) (g : Group) : Nat :=
  changes (first.status.only g) (h.parts g)

/-- A report announces the status once if it is news to its group. -/
theorem length_announced_report (hg : msg.group? = some g) (s : State)
    (around : Surroundings) :
    (⟨s, around, .message msg⟩ : Moment).announced.length
      = if (noted s.status msg).only g = s.status.only g then 0 else 1 := by
  have hcommand : msg ≠ .command .refresh := by
    rintro rfl
    cases hg
  rcases (⟨s, around, .message msg⟩ : Moment).tells with
    ⟨hrefreshed, -, -⟩ | ⟨-, hstatus, hnews⟩
  · simp [Moment.refreshed, Moment.switchesOn, hcommand] at hrefreshed
  · have hafter : (⟨s, around, .message msg⟩ : Moment).after.status
        = noted s.status msg := hstatus
    rw [hnews, hafter]
    by_cases hsame : noted s.status msg = s.status
    · simp [hsame]
    · simp [hsame, not_congr (noted_eq_iff hg s.status) |>.mp hsame]

theorem news_cons {s s' : State} {past : History} (run : Run s past s')
    (reports : ∀ m ∈ past, m.reports = true) (around : Surroundings)
    (g : Group) :
    History.news s (⟨s', around, .message msg⟩ :: past) g
      = (if msg.group? = some g then
          (⟨s', around, .message msg⟩ : Moment).announced.length else 0)
        + past.news s g := by
  unfold History.news History.parts
  rw [History.stream_cons]
  split
  case isTrue hg =>
      rw [length_announced_report hg, ← head?_parts run reports g,
        only_noted hg s'.status .unknown]
      rfl
  case isFalse => rw [Nat.zero_add]

/-- The announcements after reports are as many as the changes in the three
streams. -/
theorem length_announced {s s' : State} {h : History} (run : Run s h s')
    (reports : ∀ m ∈ h, m.reports = true) :
    h.announced.length
      = h.news s .network + h.news s .battery + h.news s .wifi := by
  induction run with
  | start => rfl
  | @step past s' around input run ih =>
      obtain ⟨hlast, hpast⟩ := List.forall_mem_cons.mp reports
      obtain ⟨msg, g, rfl, hg⟩ := Moment.reports_iff.mp hlast
      rw [History.announced_cons, List.length_append, ih hpast]
      simp only [news_cons run hpast, hg, Option.some.injEq]
      cases g <;> simp <;> omega

/-! ## Repeated reports -/

theorem lookup_of_mem {modes : ModeSet} {e : Channel × Mode}
    (hnd : (modes.map (·.1)).Nodup) (he : e ∈ modes) :
    modes.lookup e.1 = some e.2 := by
  induction modes with
  | nil => cases he
  | cons entry rest ih =>
      rw [List.map_cons, List.nodup_cons] at hnd
      rcases List.mem_cons.mp he with rfl | hrest
      · exact List.lookup_cons_self
      · have hne : e.1 ≠ entry.1 := by
          intro heq
          exact hnd.1 (heq ▸ List.mem_map_of_mem hrest)
        rw [List.lookup_cons, beq_eq_false_iff_ne.mpr hne]
        exact ih hnd.2 hrest

/-- Painting a group whose channels show its rule already does nothing. -/
theorem paint_eq_self {s : State}
    (h : s.paints = true → ∀ c, Group.of c = g →
      some (s.table.node c).mode = (s.modesOf g).lookup c) :
    s.paint g = s := by
  unfold State.paint
  split
  case isTrue hpaints =>
      have hset : s.table.apply (s.modesOf g) = s.table := by
        refine Led.Table.apply_eq_self fun e he => ?_
        have hmem : e.1 ∈ g.channels := by
          rw [← s.modesOf_channels g]
          exact List.mem_map_of_mem he
        have hnd : ((s.modesOf g).map (·.1)).Nodup := by
          rw [s.modesOf_channels]
          exact g.nodup_channels
        have hmode := h hpaints e.1 (Group.mem_channels.mp hmem)
        rw [lookup_of_mem hnd he] at hmode
        exact Option.some.inj hmode
      rw [hset]
  case isFalse => rfl

/-- A report that says what is known changes nothing and announces nothing,
unless one of its group's channels shows what a command ordered. -/
theorem step_repeated {settings : Settings} {output : Led.Output}
    {past : History} {s : State}
    (run : Run (State.new settings output).begin past s)
    (hg : msg.group? = some g) (hknown : noted s.status msg = s.status)
    (hoverride : ∀ c, Group.of c = g → past.override c = none)
    (around : Surroundings) : s.step around (.message msg) = (s, []) := by
  have hpaint : s.paint g = s := by
    refine paint_eq_self fun hpaints c hc => ?_
    simp only [State.paints, Bool.and_eq_true, Bool.not_eq_true'] at hpaints
    have hlit := (told_run run hpaints.1).lit hpaints.2 c
    rw [hoverride c hc, Option.none_or, hc] at hlit
    exact hlit
  rw [State.step, handle_eq_report hg, hknown]
  unfold State.report
  rw [if_pos rfl]
  exact congrArg (·, []) hpaint

/-- In every state that a run reaches:

- if the output from now on accepts either all writes of a channel or none,
  two interleavings of the same three streams of reports lead to the same
  status, the same modes, brightnesses and beliefs, the same attempts to
  write each channel in the same order, and as many announcements, of which
  the last is the same;
- a report that says what the status says, while nothing is ordered by hand
  for a channel of its group, leaves the loop as it is and wants nothing. -/
theorem reports_commute {settings : Settings} {output : Led.Output}
    {past : History} {s : State}
    (run : Run (State.new settings output).begin past s) :
    ((∀ c, ∃ answer, s.table.output.Steady c answer) →
      ∀ h₁ s₁ h₂ s₂, Run s h₁ s₁ → Run s h₂ s₂ →
      (∀ m ∈ h₁, m.reports = true) → (∀ m ∈ h₂, m.reports = true) →
      (∀ g, h₁.stream g = h₂.stream g) →
      s₁.status = s₂.status
      ∧ (∀ c, s₁.table.node c = s₂.table.node c)
      ∧ (∀ c, s₁.table.output.on c = s₂.table.output.on c)
      ∧ h₁.announced.length = h₂.announced.length
      ∧ h₁.announced.head? = h₂.announced.head?)
    ∧ ∀ around msg g, msg.group? = some g → noted s.status msg = s.status →
      (∀ c, Group.of c = g → past.override c = none) →
      s.step around (.message msg) = (s, []) := by
  refine ⟨?_, fun around msg g hg hknown hoverride =>
    step_repeated run hg hknown hoverride around⟩
  intro steady h₁ s₁ h₂ s₂ run₁ run₂ reports₁ reports₂ hstreams
  let around : Surroundings := ⟨0, .empty, false⟩
  have halike : ∀ c, Alike c s₁ s₂ := by
    intro c
    obtain ⟨answer, hsteady⟩ := steady c
    have h₁' := alike_alone hsteady run₁ reports₁ around
    have h₂' := alike_alone hsteady run₂ reports₂ around
    rw [hstreams] at h₁'
    exact h₁'.trans h₂'.symm
  have hstatus : s₁.status = s₂.status := by
    refine DeviceStatus.ext_only fun g => ?_
    cases g with
    | network => exact (halike .lteRed).status
    | battery => exact (halike .batteryRed).status
    | wifi => exact (halike .wifiRed).status
  have hlength : h₁.announced.length = h₂.announced.length := by
    rw [length_announced run₁ reports₁, length_announced run₂ reports₂]
    simp only [History.news, History.parts, hstreams]
  refine ⟨hstatus, fun c => (halike c).table.node,
    fun c => (halike c).table.writes, hlength, ?_⟩
  have hlast₁ := head?_announced_run run₁
  have hlast₂ := head?_announced_run run₂
  cases htold₁ : h₁.announced with
  | nil =>
      rw [htold₁, List.length_nil] at hlength
      rw [List.eq_nil_of_length_eq_zero hlength.symm]
  | cons d₁ earlier₁ =>
      cases htold₂ : h₂.announced with
      | nil =>
          rw [htold₁, htold₂] at hlength
          cases hlength
      | cons d₂ earlier₂ =>
          rw [htold₁] at hlast₁
          rw [htold₂] at hlast₂
          have hsame : d₁ = d₂ :=
            hlast₁.trans (hstatus.trans hlast₂.symm)
          rw [hsame]
          rfl

/-- A network that goes from offline to connected, a low battery and an
access point that runs, in two orders, on an output that refuses one of the
reds; and a poll that fails like all before it. -/
theorem reports_commute_crossed :
    ∃ s h₁ s₁ h₂ s₂,
      Run (State.new .initial (.refuse .accepting [.lteRed] [])).begin [] s
      ∧ Run s h₁ s₁ ∧ Run s h₂ s₂
      ∧ h₁.map (·.input) ≠ h₂.map (·.input)
      ∧ s₁.status = s₂.status
      ∧ s₁.table.node .lteRed = s₂.table.node .lteRed
      ∧ (s₁.table.output.on .lteRed).length = 2
      ∧ s₁.table.output.on .lteRed = s₂.table.output.on .lteRed
      ∧ h₁.announced.length = 4 ∧ h₂.announced.length = 4
      ∧ h₁.announced.head? = h₂.announced.head?
      ∧ ∀ around, s.step around (.message (.network .unknown)) = (s, []) := by
  let around : Surroundings := ⟨0, .empty, true⟩
  let offline : Message := .network ⟨.offline, some false⟩
  let online : Message := .network ⟨.connected, some false⟩
  let low : Message := .battery { Battery.Reading.empty with capacity := some 10 }
  let s := (State.new .initial (.refuse .accepting [.lteRed] [])).begin
  let first := [.wifi true, low, online, offline]
  let second := [online, low, offline, .wifi true]
  have steady : ∀ c, ∃ answer, s.table.output.Steady c answer := by
    intro c
    exact ⟨!List.contains [Channel.lteRed] c, fun n _ => rfl⟩
  have hstreams : ∀ g, History.stream g (s.course around first)
      = History.stream g (s.course around second) := by
    intro g
    rw [stream_course, stream_course]
    cases g <;> rfl
  obtain ⟨hmerged, hrepeated⟩ := reports_commute (@Run.start s)
  obtain ⟨hstatus, hnode, hwrites, hlength, hlast⟩ :=
    hmerged steady _ _ _ _ (.alone s around first) (.alone s around second)
      (reports_course (by decide)) (reports_course (by decide)) hstreams
  have hfour : (s.course around first).announced.length = 4 := by
    decide +kernel
  exact ⟨s, _, _, _, _, .start, .alone s around first, .alone s around second,
    by decide, hstatus, hnode _, by decide +kernel, hwrites _, hfour,
    hlength ▸ hfour, hlast,
    fun around => hrepeated around _ .network rfl rfl fun _ _ => rfl⟩

end Loop

end Gateway
