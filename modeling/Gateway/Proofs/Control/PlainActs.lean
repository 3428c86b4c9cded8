import Gateway.Proofs.Broadcast
import Gateway.Proofs.Control.Interplay
import Gateway.Proofs.Loop.WifiPolicy

/-!
# What the others do to what the parties share

A plain act of the device leaves the configuration, the charge window in
force and the main loop's place as they are, and sends the LED loop no policy
of the access point (`untouched_act?`). On the notice board it is one of the
others (`sidesteps_act?`).
-/

namespace Gateway.Device

/-! ## Configuration, window and policy -/

/-- The device before and after something that left what is configured and
what is in force, and sent the loop no policy. -/
structure Untouched (d d' : Device) : Prop where
  store : d'.store = d.store
  monitor : d'.monitor = { d.monitor with told := d'.monitor.told }
  mainReader : d'.mainReader = d.mainReader
  loop : d.loop.Serves d'.loop []

theorem Untouched.same (d : Device) : d.Untouched d :=
  ⟨rfl, rfl, rfl, d.loop.serves_same⟩

theorem untouched_attempt {d : Device} {r : Except String Device}
    (h : ∀ d', r = .ok d' → d.Untouched d') : d.Untouched (d.attempt r).1 := by
  rcases d.attempt_cases r with hsame | hstarted
  · rw [hsame]
    exact .same d
  · exact h _ hstarted

theorem serves_press (d : Device) (keys : List PowerKey.Transition) :
    d.loop.Serves (d.press keys).loop [] := by
  unfold press
  dsimp only
  generalize d.loop = t
  induction keys generalizing t with
  | nil => exact t.serves_same
  | cons k rest ih =>
      rw [List.foldl_cons]
      cases hk : t.press? ⟨k, d.now⟩ with
      | none => exact ih t
      | some t' => exact (Loop.Task.serves_press? hk).trans (ih t')

theorem serves_startPowerKey {d d' : Device} (h : d.startPowerKey = .ok d') :
    d.loop.Serves d'.loop [] := by
  unfold startPowerKey at h
  dsimp only at h
  split at h
  · cases h
    exact d.loop.serves_same
  split at h
  · cases h
    rw [readKeys]
    exact serves_press { d with keyDevice := true } _
  · cases h

theorem serves_startLoop {d d' : Device}
    (h : d.runLoop.map (fun d => { d with loopService := true }) = .ok d') :
    d.loop.Serves d'.loop [] := by
  unfold runLoop at h
  split at h
  · next hwaiting =>
      cases h
      exact d.loop.serves_start d.now hwaiting
  · cases h

theorem untouched_startService (d : Device) (s : Service) :
    d.Untouched (d.startService s).1 := by
  cases s with
  | leds =>
      refine untouched_attempt fun d' h => ?_
      have hserves := serves_startLoop h
      obtain ⟨-, rfl⟩ := startLoop_cases h
      exact ⟨rfl, rfl, rfl, hserves⟩
  | battery => exact ⟨rfl, rfl, rfl, d.loop.serves_same⟩
  | powerKey =>
      refine untouched_attempt fun d' h => ?_
      have hserves := serves_startPowerKey h
      obtain ⟨loop, keyDevice, rfl, -⟩ := startPowerKey_cases h
      exact ⟨rfl, rfl, rfl, hserves⟩
  | control =>
      obtain ⟨bus, relay, board, h⟩ := d.startControl_cases
      rw [startService, h]
      exact ⟨rfl, rfl, rfl, d.loop.serves_same⟩
  | network => exact ⟨rfl, rfl, rfl, d.loop.serves_same⟩
  | wifi => exact ⟨rfl, rfl, rfl, d.loop.serves_same⟩
  | configWatcher =>
      refine untouched_attempt fun d' h => ?_
      obtain ⟨watcher, rfl⟩ := startWatcher_cases h
      exact ⟨rfl, rfl, rfl, d.loop.serves_same⟩

theorem untouched_act? {d d' : Device} {a : Act} (h : d.act? a = some d')
    (ha : a.isPlain = true) : d.Untouched d' := by
  cases a with
  | starts s =>
      obtain rfl := Option.some.inj h
      exact d.untouched_startService s
  | stops =>
      obtain rfl := Option.some.inj h
      refine ⟨rfl, rfl, rfl, ?_⟩
      unfold stopServices
      dsimp only
      split
      · exact d.loop.serves_cancel
      · exact d.loop.serves_same
  | loopTurns =>
      obtain ⟨loop, effects, hturn, rfl⟩ := loopStep?_cases h
      rw [perform_eq]
      exact ⟨rfl, rfl, rfl, Loop.Task.serves_turn? hturn⟩
  | batteryEvent =>
      obtain rfl := Option.some.inj h
      unfold batteryEvent
      dsimp only
      split
      · exact ⟨rfl, rfl, rfl, d.loop.serves_send _⟩
      · exact ⟨rfl, rfl, rfl, d.loop.serves_same⟩
  | networkBegins =>
      obtain ⟨p, exchange, -, rfl⟩ := networkStep?_cases h
      exact ⟨rfl, rfl, rfl, d.loop.serves_same⟩
  | networkEnds =>
      obtain ⟨⟨p, news⟩, exchange, -, rfl⟩ := networkEnd?_cases h
      cases news with
      | none => exact ⟨rfl, rfl, rfl, d.loop.serves_same⟩
      | some s => exact ⟨rfl, rfl, rfl, d.loop.serves_send _⟩
  | wifiPolls =>
      obtain ⟨⟨p, news⟩, -, rfl⟩ := wifiStep?_cases h
      cases news with
      | none => exact ⟨rfl, rfl, rfl, d.loop.serves_same⟩
      | some alive => exact ⟨rfl, rfl, rfl, d.loop.serves_send _⟩
  | command c =>
      obtain rfl := Option.some.inj h
      have hserves := d.loop.serves_send (.command c)
      have hplain : (Loop.Message.command c).wifiPolicy? = none := by
        cases c <;> first | rfl | cases ha
      rw [hplain] at hserves
      exact ⟨rfl, rfl, rfl, hserves⟩
  | keyEvent k =>
      obtain ⟨loop, hpress, rfl⟩ := Option.map_eq_some_iff.mp h
      exact ⟨rfl, rfl, rfl, Loop.Task.serves_press? hpress⟩
  | elsewhere rest => cases ha

theorem commandLoop_fst (d : Device) (c : Loop.Command) :
    (d.commandLoop c).1 = d.tellLoop (.command c) := by
  unfold commandLoop tellLoop Loop.Task.send
  cases d.loop.send? (.command c) <;> rfl

/-! ## The notice board -/

/-- The device before and after something that is nothing to a reader of the
board but what the others do. -/
structure Sidesteps (reader : Nat) (d d' : Device) : Prop where
  board : Broadcast.Leads reader d.board d'.board
  relay : d'.relay = d.relay ∨ d'.relay = none
    ∨ d'.relay = some d.board.readers.length
      ∧ d.board.readers.length < d'.board.readers.length

section Sidesteps

variable {reader : Nat}

theorem sidesteps_of_same {d d' : Device} (hboard : d'.board = d.board)
    (hrelay : d'.relay = d.relay) : Sidesteps reader d d' :=
  ⟨hboard ▸ .same _, .inl hrelay⟩

theorem sidesteps_attempt {d : Device} {r : Except String Device}
    (h : ∀ d', r = .ok d' → Sidesteps reader d d') :
    Sidesteps reader d (d.attempt r).1 := by
  rcases d.attempt_cases r with hsame | hstarted
  · rw [hsame]
    exact sidesteps_of_same rfl rfl
  · exact h _ hstarted

theorem sidesteps_startService (d : Device) (s : Service) :
    Sidesteps reader d (d.startService s).1 := by
  cases s with
  | leds =>
      refine sidesteps_attempt fun d' h => ?_
      obtain ⟨-, rfl⟩ := startLoop_cases h
      exact sidesteps_of_same rfl rfl
  | battery => exact sidesteps_of_same rfl rfl
  | powerKey =>
      refine sidesteps_attempt fun d' h => ?_
      obtain ⟨loop, keyDevice, rfl, -⟩ := startPowerKey_cases h
      exact sidesteps_of_same rfl rfl
  | control =>
      unfold startService startControl
      dsimp only
      split
      · refine ⟨(Broadcast.Leads.same _).subscribe, .inr (.inr ⟨rfl, ?_⟩)⟩
        simp [Broadcast.subscribe]
      · exact sidesteps_of_same rfl rfl
  | network => exact sidesteps_of_same rfl rfl
  | wifi => exact sidesteps_of_same rfl rfl
  | configWatcher =>
      refine sidesteps_attempt fun d' h => ?_
      obtain ⟨watcher, rfl⟩ := startWatcher_cases h
      exact sidesteps_of_same rfl rfl

theorem leads_perform {d : Device} {b : NoticeBoard}
    (effects : List Loop.Effect) (h : Broadcast.Leads reader b d.board) :
    Broadcast.Leads reader b (d.perform effects).board := by
  induction effects generalizing d with
  | nil => exact h
  | cons e rest ih =>
      cases e with
      | publish notice =>
          rw [perform]
          exact ih (h.publish notice)
      | issueShutdown =>
          rw [perform]
          exact ih h

theorem sidesteps_stopServices {d : Device} (h : d.relay ≠ some reader) :
    Sidesteps reader d d.stopServices := by
  refine ⟨?_, .inr (.inl rfl)⟩
  unfold stopServices
  dsimp only
  cases hrelay : d.relay with
  | none => exact .same _
  | some other =>
      rw [Option.map_some, Option.getD_some]
      exact (Broadcast.Leads.same _).leave fun heq => h (heq ▸ hrelay)

theorem sidesteps_act? {d d' : Device} {a : Act} (h : d.act? a = some d')
    (ha : a.isPlain = true) (hrelay : d.relay ≠ some reader) :
    Sidesteps reader d d' := by
  cases a with
  | starts s =>
      obtain rfl := Option.some.inj h
      exact d.sidesteps_startService s
  | stops =>
      obtain rfl := Option.some.inj h
      exact sidesteps_stopServices hrelay
  | loopTurns =>
      obtain ⟨loop, effects, -, rfl⟩ := loopStep?_cases h
      refine ⟨leads_perform effects (.same d.board), .inl ?_⟩
      rw [perform_eq]
  | batteryEvent =>
      obtain rfl := Option.some.inj h
      unfold batteryEvent
      dsimp only
      split
      · exact sidesteps_of_same rfl rfl
      · exact sidesteps_of_same rfl rfl
  | networkBegins =>
      obtain ⟨p, exchange, -, rfl⟩ := networkStep?_cases h
      exact sidesteps_of_same rfl rfl
  | networkEnds =>
      obtain ⟨⟨p, news⟩, exchange, -, rfl⟩ := networkEnd?_cases h
      cases news <;> exact sidesteps_of_same rfl rfl
  | wifiPolls =>
      obtain ⟨⟨p, news⟩, -, rfl⟩ := wifiStep?_cases h
      cases news <;> exact sidesteps_of_same rfl rfl
  | command c =>
      obtain rfl := Option.some.inj h
      exact sidesteps_of_same rfl rfl
  | keyEvent k =>
      obtain ⟨loop, -, rfl⟩ := Option.map_eq_some_iff.mp h
      exact sidesteps_of_same rfl rfl
  | elsewhere rest => cases ha

end Sidesteps

end Gateway.Device
