import Gateway.Proofs.Config.ChargeUpdate
import Gateway.Proofs.Device.Run
import Mathlib.Logic.Function.Basic

/-!
# Clients, reloads and the main loop side by side

Three parties write what is configured or in force. A client that sets the
charge window puts it in force first and in the configuration afterwards. A
reload changes the configuration and announces that. The main loop, told of
it, copies the configuration and puts its parts in force. And a client that
asks for the access point looks at the policy that the LED loop goes by and
sends it a changed one.

They meet in the device. Each of their steps touches one thing that they
share (`Takes`), so a run (`Run`) is any interleaving of any number of them,
with whatever else goes on in between. A party that nothing comes between
does what the device does in one piece (`Run.setChargePolicy`,
`Run.setWifiRequested`, `Run.rereadConfig`, `Run.mainStep?`), and so all that
the device does by itself is such a run (`Run.step?`).
-/

namespace Gateway

/-! ## Parties -/

/-- What clients ask for, by the number of the call. -/
structure Clients where
  window : Nat → Battery.ChargePolicy
  wanted : Nat → Bool

/-- How far a call that sets the charge window is. -/
inductive ChargeCall where
  | asked
  /-- The window is in force. -/
  | accepted
  /-- The charger was switched as the window in force asks. -/
  | enforced
  /-- The window is in the configuration. -/
  | changed
  /-- The configuration is being saved; others may read it. -/
  | saving
  /-- The temporary file is written. -/
  | written
  | saved (result : Except SaveFault Unit)
  | answered (answer : Except Control.Fault Control.Value)

/-- How far a call that asks for the access point or against it is. -/
inductive WifiCall where
  | asked
  | looked (policy : WifiPolicy)
  | answered (answer : Except Control.Fault Control.Value)

/-- How far a reload of the configuration file is. -/
inductive Reload where
  | idle
  | read (new : Config)
  | compared (change : ConfigChange)
  | done (change : ConfigChange)
  | failed (fault : LoadFault)

/-- How far the main loop is with a hot change. -/
inductive Heeding where
  | idle
  | told
  | copied (config : Config)
  /-- The window of the copy is in force. -/
  | forced (config : Config)
  /-- The charger was switched as the window in force asks. -/
  | enforced (config : Config)

/-- The device and who is at work on it. -/
structure Interplay where
  device : Device
  charges : Nat → ChargeCall
  requests : Nat → WifiCall
  reloads : Nat → Reload
  main : Heeding
  /-- The calls that save. As long as there are any, the configuration is
  locked against changes. -/
  savers : List Nat

/-- Another device with those parts of this one that the parties share. -/
def Device.amid (d rest : Device) : Device :=
  { rest with
    loop := d.loop
    monitor := d.monitor
    store := d.store
    board := d.board
    mainReader := d.mainReader
    relay := d.relay }

/-- Whether an act is none of the parties' own and touches one thing only. -/
def Device.Act.isPlain : Device.Act → Bool
  | .command (.setWifiPolicy _) | .elsewhere _ => false
  | _ => true

theorem Device.heed_of_ne {d : Device} {notice : Notice}
    (h : notice ≠ .configChanged .hot) : d.heed notice = d := by
  unfold Device.heed
  split
  · exact absurd rfl h
  · rfl

namespace Interplay

theorem update_cases {α : Type} {f : Nat → α} {n k : Nat} {a b : α}
    (h : Function.update f n a k = b) : k = n ∧ a = b ∨ k ≠ n ∧ f k = b := by
  by_cases hne : k = n
  · subst hne
    rw [Function.update_self] at h
    exact .inl ⟨rfl, h⟩
  · rw [Function.update_of_ne hne] at h
    exact .inr ⟨hne, h⟩

/-- A device that is set up, with nobody at work on it. -/
def start (p : Device.Parts) : Interplay where
  device := .new p
  charges _ := .asked
  requests _ := .asked
  reloads _ := .idle
  main := .idle
  savers := []

/-! ## Steps -/

/-- What can happen. -/
inductive Step where
  -- a call that sets the charge window
  | accept (n : Nat)
  | refuse (n : Nat)
  | enforce (n : Nat)
  | change (n : Nat)
  | share (n : Nat)
  | write (n : Nat)
  | move (n : Nat)
  | answer (n : Nat)
  -- a call that asks for the access point
  | look (n : Nat)
  | ask (n : Nat) (policy : WifiPolicy)
  -- a reload
  | read (n : Nat)
  | adopt (n : Nat) (new : Config)
  | leave (n : Nat)
  | publish (n : Nat)
  -- the main loop
  | enter
  | hear
  | skip
  | copy
  | force
  | reject
  | settle
  | push (policy : WifiPolicy)
  -- all others
  | notify (notice : Notice)
  | attend (reader : Nat)
  | act (a : Device.Act)
  | elsewhere (rest : Device)

/-- The ways in which a step can be taken. -/
inductive Takes (clients : Clients) (w : Interplay) :
    Step → Interplay → Prop
  | accept (n : Nat) (monitor : Battery.Monitor)
      (asked : w.charges n = .asked)
      (valid : w.device.monitor.setPolicy (clients.window n) = .ok monitor) :
      Takes clients w (.accept n)
        { w with
          device := { w.device with monitor }
          charges := Function.update w.charges n .accepted }
  | refuse (n : Nat) (fault : Battery.ChargePolicyFault)
      (asked : w.charges n = .asked)
      (invalid :
        w.device.monitor.setPolicy (clients.window n) = .error fault) :
      Takes clients w (.refuse n)
        { w with
          charges := Function.update w.charges n
            (.answered (.error (.invalidArguments fault.message))) }
  | enforce (n : Nat) (accepted : w.charges n = .accepted) :
      Takes clients w (.enforce n)
        { w with
          device := w.device.enforceWindow
          charges := Function.update w.charges n .enforced }
  | change (n : Nat) (enforced : w.charges n = .enforced)
      (free : w.savers = []) :
      Takes clients w (.change n)
        { w with
          device := { w.device with
            store := w.device.store.withCharge (clients.window n) }
          charges := Function.update w.charges n .changed }
  | share (n : Nat) (changed : w.charges n = .changed) :
      Takes clients w (.share n)
        { w with
          charges := Function.update w.charges n .saving
          savers := n :: w.savers }
  | writeFails (n : Nat) (fault : FileFault) (saving : w.charges n = .saving)
      (fails : w.device.files.writeText
        (ConfigStore.temporaryPath w.device.store.path)
        w.device.store.text = .error fault) :
      Takes clients w (.write n)
        { w with
          charges := Function.update w.charges n (.saved (.error
            (.temporary (ConfigStore.temporaryPath w.device.store.path)
              fault))) }
  | write (n : Nat) (files : Files) (saving : w.charges n = .saving)
      (writes : w.device.files.writeText
        (ConfigStore.temporaryPath w.device.store.path)
        w.device.store.text = .ok files) :
      Takes clients w (.write n)
        { w with
          device := { w.device with files }
          charges := Function.update w.charges n .written }
  | moveFails (n : Nat) (fault : FileFault) (written : w.charges n = .written)
      (fails : w.device.files.rename
        (ConfigStore.temporaryPath w.device.store.path)
        w.device.store.path = .error fault) :
      Takes clients w (.move n)
        { w with
          charges := Function.update w.charges n
            (.saved (.error (.move w.device.store.path fault))) }
  | move (n : Nat) (files : Files) (written : w.charges n = .written)
      (moves : w.device.files.rename
        (ConfigStore.temporaryPath w.device.store.path)
        w.device.store.path = .ok files) :
      Takes clients w (.move n)
        { w with
          device := { w.device with files }.noticeEdit
          charges := Function.update w.charges n (.saved (.ok ())) }
  | answer (n : Nat) (result : Except SaveFault Unit)
      (saved : w.charges n = .saved result) :
      Takes clients w (.answer n)
        { w with
          charges := Function.update w.charges n
            (.answered (ChargeUpdate.savedAnswer result))
          savers := w.savers.erase n }
  | look (n : Nat) (asked : w.requests n = .asked) :
      Takes clients w (.look n)
        { w with
          requests := Function.update w.requests n
            (.looked w.device.loop.state.wifiPolicy) }
  | ask (n : Nat) (policy : WifiPolicy)
      (looked : w.requests n = .looked policy) :
      Takes clients w
        (.ask n { policy with apRequested := clients.wanted n })
        { w with
          device := (w.device.commandLoop (.setWifiPolicy
            { policy with apRequested := clients.wanted n })).1
          requests := Function.update w.requests n
            (.answered (w.device.commandLoop (.setWifiPolicy
              { policy with apRequested := clients.wanted n })).2) }
  | readFails (n : Nat) (fault : LoadFault) (idle : w.reloads n = .idle)
      (fails : w.device.store.format.read w.device.files w.device.store.path
        = .error fault) :
      Takes clients w (.read n)
        { w with reloads := Function.update w.reloads n (.failed fault) }
  | read (n : Nat) (new : Config) (idle : w.reloads n = .idle)
      (reads : w.device.store.format.read w.device.files w.device.store.path = .ok new) :
      Takes clients w (.read n)
        { w with reloads := Function.update w.reloads n (.read new) }
  | adopt (n : Nat) (new : Config) (waits : w.reloads n = .read new)
      (free : w.savers = [])
      (hot : w.device.store.config.coldDifferences new = []) :
      Takes clients w (.adopt n new)
        { w with
          device := { w.device with
            store := { w.device.store with config := new } }
          reloads := Function.update w.reloads n (.compared .hot) }
  | leave (n : Nat) (new : Config) (waits : w.reloads n = .read new)
      (free : w.savers = [])
      (cold : w.device.store.config.coldDifferences new ≠ []) :
      Takes clients w (.leave n)
        { w with
          reloads := Function.update w.reloads n (.compared
            (.cold (w.device.store.config.coldDifferences new))) }
  | publish (n : Nat) (change : ConfigChange)
      (compared : w.reloads n = .compared change) :
      Takes clients w (.publish n)
        { w with
          device := { w.device with
            board := w.device.board.publish (.configChanged change) }
          reloads := Function.update w.reloads n (.done change) }
  | enter (outside : w.device.mainReader = none) :
      Takes clients w .enter { w with device := w.device.enterMain }
  | hear (reader : Nat) (board : NoticeBoard) (notice : Notice)
      (inside : w.device.mainReader = some reader) (idle : w.main = .idle)
      (receives : w.device.board.receive reader = (board, .event notice)) :
      Takes clients w .hear
        { w with
          device := { w.device with board }
          main := if notice = .configChanged .hot then .told else .idle }
  | skip (reader : Nat) (board : NoticeBoard) (count : Nat)
      (inside : w.device.mainReader = some reader) (idle : w.main = .idle)
      (lags : w.device.board.receive reader = (board, .lagged count)) :
      Takes clients w .skip { w with device := { w.device with board } }
  | copy (told : w.main = .told) :
      Takes clients w .copy
        { w with main := .copied w.device.store.config }
  | force (c : Config) (monitor : Battery.Monitor)
      (copied : w.main = .copied c)
      (valid : w.device.monitor.setPolicy c.battery.charge = .ok monitor) :
      Takes clients w .force
        { w with device := { w.device with monitor }, main := .forced c }
  | reject (c : Config) (fault : Battery.ChargePolicyFault)
      (copied : w.main = .copied c)
      (invalid :
        w.device.monitor.setPolicy c.battery.charge = .error fault) :
      Takes clients w .reject { w with main := .idle }
  | settle (c : Config) (forced : w.main = .forced c) :
      Takes clients w .settle
        { w with device := w.device.enforceWindow, main := .enforced c }
  | push (c : Config) (enforced : w.main = .enforced c) :
      Takes clients w (.push c.wifi.policy)
        { w with
          device := w.device.tellLoop
            (.command (.setWifiPolicy c.wifi.policy))
          main := .idle }
  | notify (notice : Notice) :
      Takes clients w (.notify notice)
        { w with
          device := { w.device with
            board := w.device.board.publish notice } }
  | attend (reader : Nat) (other : w.device.mainReader ≠ some reader) :
      Takes clients w (.attend reader)
        { w with
          device := { w.device with
            board := (w.device.board.receive reader).1 } }
  | act (a : Device.Act) (device : Device) (plain : a.isPlain = true)
      (acts : w.device.act? a = some device) :
      Takes clients w (.act a) { w with device }
  | elsewhere (rest : Device) :
      Takes clients w (.elsewhere rest)
        { w with device := w.device.amid rest }

/-! ## Runs -/

/-- A step of a run, with what was before it. -/
structure Moment where
  before : Interplay
  step : Step

/-- The steps of a run, latest first. -/
abbrev History := List Moment

def History.steps (h : History) : List Step := h.map (·.step)

/-- From a first state the steps of a history have led to another. -/
inductive Run (clients : Clients) (first : Interplay) :
    History → Interplay → Prop
  | start : Run clients first [] first
  | step {past : History} {w w' : Interplay} (s : Step)
      (run : Run clients first past w) (h : w.Takes clients s w') :
      Run clients first (⟨w, s⟩ :: past) w'

theorem Run.congr {clients : Clients} {first w w' : Interplay}
    {past : History} (run : Run clients first past w) (h : w = w') :
    Run clients first past w' := h ▸ run

/-- Nobody is in the middle of anything. -/
structure Quiet (w : Interplay) : Prop where
  charges : ∀ n, w.charges n = .asked ∨ ∃ a, w.charges n = .answered a
  reloads : ∀ n, w.reloads n = .idle ∨ (∃ change, w.reloads n = .done change)
    ∨ ∃ fault, w.reloads n = .failed fault
  main : w.main = .idle

/-- The main loop listens, and there is nothing left for it to hear. -/
def Drained (w : Interplay) : Prop :=
  ∃ reader, w.device.mainReader = some reader
    ∧ (w.device.board.receive reader).2 = .empty

/-! ## Undisturbed -/

section

variable {clients : Clients} {first w : Interplay} {past : History} {n : Nat}

/-- A save that nothing comes between is the device's. -/
theorem Run.save (run : Run clients first past w)
    (hchanged : w.charges n = .changed) :
    ∃ later, Run clients first (later ++ past)
        { w with
          device := w.device.save.1
          charges := Function.update w.charges n
            (.answered (ChargeUpdate.savedAnswer w.device.save.2)) }
      ∧ ∀ m ∈ later, m.step ∈ [.share n, .write n, .move n, .answer n] := by
  have hshare := run.step (.share n) (.share n hchanged)
  cases hwrite : w.device.files.writeText
      (ConfigStore.temporaryPath w.device.store.path)
      w.device.store.text with
  | error fault =>
      have hwritten := hshare.step (.write n)
        (.writeFails n fault (by simp) hwrite)
      have hanswer := hwritten.step (.answer n)
        (.answer n _ (Function.update_self ..))
      refine ⟨[_, _, _], hanswer.congr ?_, by simp⟩
      simp [Device.save, ConfigStore.save, hwrite, Except.isOk, Except.toBool]
  | ok files =>
      have hwritten := hshare.step (.write n)
        (.write n files (by simp) hwrite)
      cases hmove : files.rename
          (ConfigStore.temporaryPath w.device.store.path)
          w.device.store.path with
      | error fault =>
          have hmoved := hwritten.step (.move n)
            (.moveFails n fault (by simp) hmove)
          have hanswer := hmoved.step (.answer n)
            (.answer n _ (Function.update_self ..))
          refine ⟨[_, _, _, _], hanswer.congr ?_, by simp⟩
          simp [Device.save, ConfigStore.save, hwrite, hmove, Except.isOk,
            Except.toBool]
      | ok moved =>
          have hmoved := hwritten.step (.move n)
            (.move n moved (by simp) hmove)
          have hanswer := hmoved.step (.answer n)
            (.answer n _ (Function.update_self ..))
          refine ⟨[_, _, _, _], hanswer.congr ?_, by simp⟩
          simp [Device.save, ConfigStore.save, hwrite, hmove, Except.isOk,
            Except.toBool]

theorem Run.setChargePolicy (run : Run clients first past w)
    (hasked : w.charges n = .asked) (hfree : w.savers = []) :
    ∃ h, Run clients first h
      { w with
        device := (w.device.setChargePolicy (clients.window n)).1
        charges := Function.update w.charges n
          (.answered (w.device.setChargePolicy (clients.window n)).2) } := by
  unfold Device.setChargePolicy
  cases hpolicy : w.device.monitor.setPolicy (clients.window n) with
  | error fault =>
      exact ⟨_, run.step (.refuse n) (.refuse n fault hasked hpolicy)⟩
  | ok monitor =>
      have haccept := run.step (.accept n) (.accept n monitor hasked hpolicy)
      have henforce := haccept.step (.enforce n) (.enforce n (by simp))
      have hchange := henforce.step (.change n) (.change n (by simp) hfree)
      obtain ⟨later, hsave, -⟩ :=
        hchange.save (n := n) (Function.update_self ..)
      refine ⟨_, hsave.congr ?_⟩
      dsimp only
      rw [Function.update_idem, Function.update_idem, Function.update_idem]
      rcases Device.save _ with ⟨d, _ | _⟩ <;> rfl

theorem Run.setWifiRequested (run : Run clients first past w)
    (hasked : w.requests n = .asked) :
    ∃ h, Run clients first h
      { w with
        device := (w.device.setWifiRequested (clients.wanted n)).1
        requests := Function.update w.requests n
          (.answered (w.device.setWifiRequested (clients.wanted n)).2) } := by
  have hlook := run.step (.look n) (.look n hasked)
  have hask := hlook.step _ (.ask n _ (Function.update_self ..))
  refine ⟨_, hask.congr ?_⟩
  dsimp only
  rw [Function.update_idem]
  rfl

theorem Run.rereadConfig (run : Run clients first past w)
    (hidle : w.reloads n = .idle) (hfree : w.savers = []) :
    ∃ h stage, Run clients first h
      { w with
        device := w.device.rereadConfig
        reloads := Function.update w.reloads n stage } := by
  have hsame : Function.update w.reloads n .idle = w.reloads := by
    rw [← hidle, Function.update_eq_self]
  unfold Device.rereadConfig
  split
  · exact ⟨past, .idle, run.congr (by rw [hsame])⟩
  unfold ConfigStore.reload
  cases hread : w.device.store.format.read w.device.files w.device.store.path with
  | error fault => exact ⟨past, .idle, run.congr (by rw [hsame])⟩
  | ok new =>
      have hread := run.step (.read n) (.read n new hidle hread)
      by_cases hhot : w.device.store.config.coldDifferences new = []
      · have hadopt := hread.step (.adopt n new)
          (.adopt n new (Function.update_self ..) hfree hhot)
        have hpublish := hadopt.step (.publish n)
          (.publish n .hot (Function.update_self ..))
        exact ⟨_, _, hpublish.congr (by simp [hhot]; rfl)⟩
      · have hleave := hread.step (.leave n)
          (.leave n new (Function.update_self ..) hfree hhot)
        have hpublish := hleave.step (.publish n)
          (.publish n _ (Function.update_self ..))
        exact ⟨_, _, hpublish.congr (by simp [hhot]; rfl)⟩

theorem Run.applyHotChange (run : Run clients first past w)
    (htold : w.main = .told) :
    ∃ h, Run clients first h
      { w with device := w.device.applyHotChange, main := .idle } := by
  have hcopy := run.step .copy (.copy htold)
  unfold Device.applyHotChange
  cases hpolicy :
      w.device.monitor.setPolicy w.device.store.config.battery.charge with
  | error fault =>
      exact ⟨_, hcopy.step .reject (.reject _ fault rfl hpolicy)⟩
  | ok monitor =>
      have hforce := hcopy.step .force (.force _ monitor rfl hpolicy)
      have hsettle := hforce.step .settle (.settle _ rfl)
      exact ⟨_, hsettle.step _ (.push _ rfl)⟩

theorem Run.mainStep? (run : Run clients first past w) {d : Device}
    (hidle : w.main = .idle) (h : w.device.mainStep? = some d) :
    ∃ h, Run clients first h { w with device := d } := by
  obtain ⟨reader, hreader, h⟩ := Option.bind_eq_some_iff.mp h
  split at h
  · next board notice hreceive =>
      obtain rfl := Option.some.inj h
      have hhear := run.step .hear
        (.hear reader board notice hreader hidle hreceive)
      by_cases hhot : notice = .configChanged .hot
      · subst hhot
        obtain ⟨h, happly⟩ := hhear.applyHotChange rfl
        exact ⟨h, happly.congr (by rw [hidle]; rfl)⟩
      · refine ⟨_, hhear.congr ?_⟩
        rw [if_neg hhot, hidle, Device.heed_of_ne hhot]
  · next board count hreceive =>
      obtain rfl := Option.some.inj h
      exact ⟨_, run.step .skip
        (.skip reader board count hreader hidle hreceive)⟩
  · cases h

/-- What the device does by itself is a run, while nobody is at work. -/
theorem Run.step? (run : Run clients first past w) {d : Device}
    (hidle : w.main = .idle) (hreload : w.reloads n = .idle)
    (hfree : w.savers = [])
    (hseats : ∀ q, w.device.relay = some q → w.device.mainReader ≠ some q)
    (h : w.device.step? = some d) :
    ∃ h stage, Run clients first h
      { w with
        device := d
        reloads := Function.update w.reloads n stage } := by
  have hother : ∀ {h' : History} {w' : Interplay},
      Run clients first h' w' → w' = { w with device := d } →
      ∃ h stage, Run clients first h
        { w with
          device := d
          reloads := Function.update w.reloads n stage } := by
    rintro h' w' run' rfl
    refine ⟨h', .idle, run'.congr ?_⟩
    rw [← hreload, Function.update_eq_self]
  have hact : ∀ a : Device.Act, a.isPlain = true →
      w.device.act? a = some d →
      ∃ h stage, Run clients first h
        { w with
          device := d
          reloads := Function.update w.reloads n stage } :=
    fun a hplain ha => hother (run.step (.act a) (.act a d hplain ha)) rfl
  simp only [Device.step?, Option.orElse_eq_orElse, Option.orElse_eq_or,
    Option.or_eq_some_iff] at h
  rcases h with h | ⟨-, h | ⟨-, h | ⟨-, h | ⟨-, h | ⟨-, h | ⟨-, h | ⟨-, h |
    ⟨-, h⟩⟩⟩⟩⟩⟩⟩⟩
  · exact hact .loopTurns rfl h
  · obtain ⟨h, hmain⟩ := run.mainStep? hidle h
    exact hother hmain rfl
  · obtain ⟨reader, hreader, h⟩ := Option.bind_eq_some_iff.mp h
    have hattend := run.step (.attend reader)
      (.attend reader (hseats reader hreader))
    refine hother (hattend.step (.elsewhere d) (.elsewhere d)) ?_
    split at h
    · next hreceive =>
        obtain rfl := Option.some.inj h
        simp [Device.amid, hreceive]
    · next hreceive =>
        obtain rfl := Option.some.inj h
        simp [Device.amid, hreceive]
    · next hreceive =>
        obtain rfl := Option.some.inj h
        simp [Device.amid, hreceive]
    · cases h
  · unfold Device.batteryStep? at h
    split at h
    · split at h
      · obtain rfl := Option.some.inj h
        next ticker _ _ =>
          have hfire := run.step _ (.elsewhere { w.device with
            battery := .polling (ticker.fire w.device.now) })
          exact hother (hfire.step (.act .batteryEvent)
            (.act .batteryEvent _ rfl rfl)) rfl
      · cases h
    · cases h
  · exact hact .networkEnds rfl h
  · exact hact .networkBegins rfl h
  · exact hact .wifiPolls rfl h
  · obtain ⟨watcher, hwatcher, h⟩ := Option.bind_eq_some_iff.mp h
    split at h
    · obtain rfl := Option.some.inj h
      have hwatch := run.step _ (.elsewhere { w.device with
        watcher := some (watcher.act w.device.now) })
      exact hwatch.rereadConfig hreload hfree
    · cases h
  · obtain ⟨exchange, -, rfl⟩ := Option.map_eq_some_iff.mp h
    exact hother (run.step _ (.elsewhere { w.device with exchange })) rfl

end

/-! ## A small device -/

/-- A device with a configuration file in the root directory. -/
def rooted : Device.Parts :=
  { Device.quiet with store := ⟨.builtIn, "/config.yml"⟩ }

/-- The first client and the others differ in all they want. -/
def rivals : Clients where
  window n := if n = 0 then ⟨true, 30, 70⟩ else ⟨true, 40, 60⟩
  wanted n := n ≠ 0

/-- The configuration file with another charge window. -/
def edited : Files := Files.empty.put ["config.yml"] (.file
  ("version: 1\nbattery:\n  charge:\n    enabled: true\n"
    ++ "    start_threshold: 30\n    stop_threshold: 70\n").toUTF8.toList)

/-- The configuration file without the access point. -/
def unwired : Files := Files.empty.put ["config.yml"] (.file
  "version: 1\nwifi:\n  enabled: false\n".toUTF8.toList)

/-- Whoever joined first hears of the first hot change. -/
theorem receive_hot :
    ((Broadcast.new Broadcast.usualCapacity).subscribe.publish
        (.configChanged .hot)).receive 0
      = (⟨128, 1, [.configChanged .hot], [some 1], false⟩,
          .event (Notice.configChanged .hot)) := by
  decide +kernel

theorem read_edited :
    rooted.store.format.read edited rooted.store.path
      = .ok (rooted.store.withCharge ⟨true, 30, 70⟩).config :=
  Config.Format.read_of_toOption (by decide +kernel)

theorem read_unwired :
    rooted.store.format.read unwired rooted.store.path
      = .ok { Config.builtIn with wifi.policy.enabled := false } :=
  Config.Format.read_of_toOption (by decide +kernel)

end Interplay

end Gateway
