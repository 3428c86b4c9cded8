import Gateway.Proofs.Control.PlainActs

/-!
# Requests for the access point and hot changes

A client that asks for the access point or against it looks at the policy
that the LED loop goes by and sends it back with its wish; a hot change sends
the policy of the configuration. All of them go through one queue and are
taken in order (`serves_run`), so the last one sent is the one that the loop
ends up with.

What a client looked at may be older than what waits in the queue. So whether
the access point is enabled is as the last hot change says, unless the last
request sent looked before that (`enabled_iff`). And a hot change brings its
own wish with it, so a wish lasts until the next hot change of whatever kind
(`wish_lasts_iff`).
-/

namespace Gateway.Interplay

/-! ## What is sent -/

/-- The policy that a step sends to the loop. -/
def Step.policy? : Step → Option WifiPolicy
  | .push policy | .ask _ policy => some policy
  | _ => none

section Steps

/-! Steps are listed latest first. -/

/-- The policies sent, first to last. -/
def sent : List Step → List WifiPolicy
  | [] => []
  | .push policy :: past | .ask _ policy :: past => sent past ++ [policy]
  | _ :: past => sent past

/-- The policy of the last hot change. -/
def pushed (startup : WifiPolicy) : List Step → WifiPolicy
  | [] => startup
  | .push policy :: _ => policy
  | _ :: past => pushed startup past

/-- The request that sent last, if no hot change came after it. -/
def sender : List Step → Option Nat
  | [] => none
  | .push _ :: _ => none
  | .ask n _ :: _ => some n
  | _ :: past => sender past

/-- The policy sent last. -/
def latest (startup : WifiPolicy) (steps : List Step) : WifiPolicy :=
  (sent steps).getLast?.getD startup

theorem sent_cons (s : Step) (past : List Step) :
    sent (s :: past) = sent past ++ s.policy?.toList := by
  cases s <;> first | rfl | exact (List.append_nil _).symm

end Steps

/-- The policy that a request saw when it looked. -/
def seen (n : Nat) : History → Option WifiPolicy
  | [] => none
  | ⟨w, .look k⟩ :: past =>
      if k = n then some w.device.loop.state.wifiPolicy else seen n past
  | _ :: past => seen n past

variable {clients : Clients} {w w' : Interplay}

/-- Only requests and hot changes send policies. -/
theorem serves_step {s : Step} (hstep : w.Takes clients s w') :
    w.device.loop.Serves w'.device.loop s.policy?.toList := by
  cases hstep with
  | ask n policy looked =>
      rw [Device.commandLoop_fst]
      exact w.device.loop.serves_send _
  | push c enforced => exact w.device.loop.serves_send _
  | act a device plain acts => exact (Device.untouched_act? acts plain).loop
  | _ => exact w.device.loop.serves_same

theorem serves_run {first : Interplay} {h : History}
    (run : Run clients first h w) :
    first.device.loop.Serves w.device.loop (sent h.steps) := by
  induction run with
  | start => exact first.device.loop.serves_same
  | step s _ hstep ih =>
      have hserves := ih.trans (serves_step hstep)
      rwa [← sent_cons] at hserves

/-- The loop goes by the policy sent last, once none waits. -/
theorem wifiPolicy_of_run {p : Device.Parts} {h : History}
    (run : Run clients (start p) h w) (htakes : w.device.loop.takes = true)
    (hnone : w.device.loop.policies = []) :
    w.device.loop.state.wifiPolicy
      = latest p.store.config.wifi.policy h.steps := by
  obtain ⟨taken, hqueue, hpolicy⟩ := (serves_run run).policies htakes
  rw [hnone, List.append_nil] at hqueue
  rw [hpolicy, ← hqueue]
  rfl

/-! ## Whether the access point is enabled -/

/-- What is known of the requests: one that has sent a policy has seen the
same but for the wish. -/
structure Requests (startup : WifiPolicy) (h : History) (w : Interplay) :
    Prop where
  asked : ∀ n, w.requests n = .asked → seen n h = none
  looked : ∀ n policy, w.requests n = .looked policy → seen n h = some policy
  sentBy : ∀ n, sender h.steps = some n → ∃ policy,
    seen n h = some policy
      ∧ policy.enabled = (latest startup h.steps).enabled
  unasked : sender h.steps = none →
    latest startup h.steps = pushed startup h.steps

namespace Requests

variable {startup : WifiPolicy} {h : History}

theorem start (p : Device.Parts) : Requests startup [] (start p) where
  asked n hn := rfl
  looked n policy hn := by cases hn
  sentBy n hn := by cases hn
  unasked _ := rfl

theorem look (hreq : Requests startup h w) {n : Nat}
    (hstep : w.Takes clients (.look n) w') :
    Requests startup (⟨w, .look n⟩ :: h) w' := by
  cases hstep with
  | look n asked =>
  -- Nobody looks twice: what the others saw stays what they saw.
  have hunseen := hreq.asked n asked
  have hother : ∀ {k : Nat}, k ≠ n →
      seen k (⟨w, .look n⟩ :: h) = seen k h :=
    fun hne => if_neg (Ne.symm hne)
  refine ⟨fun k hk => ?_, fun k policy hk => ?_, fun k hk => ?_,
    hreq.unasked⟩
  · rcases update_cases hk with ⟨rfl, hnow⟩ | ⟨hne, hbefore⟩
    · cases hnow
    · exact (hother hne).trans (hreq.asked k hbefore)
  · rcases update_cases hk with ⟨rfl, hnow⟩ | ⟨hne, hbefore⟩
    · cases hnow
      exact if_pos rfl
    · exact (hother hne).trans (hreq.looked k policy hbefore)
  · obtain ⟨policy, hseen, hsame⟩ := hreq.sentBy k hk
    have hne : k ≠ n := by
      rintro rfl
      rw [hunseen] at hseen
      cases hseen
    exact ⟨policy, (hother hne).trans hseen, hsame⟩

theorem ask (hreq : Requests startup h w) {n : Nat} {sent : WifiPolicy}
    (hstep : w.Takes clients (.ask n sent) w') :
    Requests startup (⟨w, .ask n sent⟩ :: h) w' := by
  cases hstep with
  | ask n policy looked =>
  refine ⟨fun k hk => ?_, fun k policy' hk => ?_, fun k hk => ?_,
    fun hnone => by cases hnone⟩
  · rcases update_cases hk with ⟨rfl, hnow⟩ | ⟨-, hbefore⟩
    · cases hnow
    · exact hreq.asked k hbefore
  · rcases update_cases hk with ⟨rfl, hnow⟩ | ⟨-, hbefore⟩
    · cases hnow
    · exact hreq.looked k policy' hbefore
  · cases hk
    refine ⟨policy, hreq.looked n policy looked, ?_⟩
    rw [latest, History.steps, List.map_cons, sent_cons]
    simp [Step.policy?]

theorem push (hreq : Requests startup h w) {policy : WifiPolicy}
    (hstep : w.Takes clients (.push policy) w') :
    Requests startup (⟨w, .push policy⟩ :: h) w' := by
  cases hstep with
  | push c enforced =>
  refine ⟨hreq.asked, hreq.looked, fun k hk => (by cases hk), fun _ => ?_⟩
  rw [latest, History.steps, List.map_cons, sent_cons]
  simp [Step.policy?, pushed]

theorem step (hreq : Requests startup h w) {s : Step}
    (hstep : w.Takes clients s w') : Requests startup (⟨w, s⟩ :: h) w' := by
  cases s with
  | look n => exact hreq.look hstep
  | ask n policy => exact hreq.ask hstep
  | push policy => exact hreq.push hstep
  | _ =>
    have hrequests : w'.requests = w.requests := by cases hstep <;> rfl
    exact ⟨fun n hn => hreq.asked n (hrequests ▸ hn),
      fun n policy hn => hreq.looked n policy (hrequests ▸ hn),
      hreq.sentBy, hreq.unasked⟩

theorem run {p : Device.Parts} (run : Run clients (Interplay.start p) h w) :
    Requests startup h w := by
  induction run with
  | start => exact .start p
  | step s _ hstep ih => exact ih.step hstep

end Requests

/-- Once no policy waits, whether the access point is enabled is as the last
hot change says, or the first configuration. The exception is a request that
has sent since, and looked when that did not show yet. -/
theorem enabled_iff {p : Device.Parts} {h : History}
    (run : Run clients (start p) h w) (htakes : w.device.loop.takes = true)
    (hnone : w.device.loop.policies = []) :
    w.device.loop.state.wifiPolicy.enabled
        = (pushed p.store.config.wifi.policy h.steps).enabled
      ↔ ∀ n policy, sender h.steps = some n → seen n h = some policy →
        policy.enabled
          = (pushed p.store.config.wifi.policy h.steps).enabled := by
  have hreq : Requests p.store.config.wifi.policy h w := .run run
  rw [wifiPolicy_of_run run htakes hnone]
  cases hsender : sender h.steps with
  | none =>
      rw [hreq.unasked hsender]
      simp
  | some n =>
      obtain ⟨policy, hseen, hsame⟩ := hreq.sentBy n hsender
      rw [← hsame]
      constructor
      · intro henabled k policy' hk hseen'
        cases hk
        cases hseen.symm.trans hseen'
        exact henabled
      · intro hall
        exact hall n policy rfl hseen

set_option maxRecDepth 10000 in
/-- A request that looks after the hot change is in force keeps it. -/
theorem enabled_iff_looked_late :
    ∃ h w, Run rivals (start rooted) h w ∧ w.device.loop.takes = true
      ∧ w.device.loop.policies = [] ∧ sender h.steps = some 0
      ∧ w.device.loop.state.wifiPolicy.enabled
        = (pushed rooted.store.config.wifi.policy h.steps).enabled := by
  have hstart : Run rivals (start rooted) [] (start rooted) := .start
  have hleds := hstart.step (.act (.starts .leds)) (.act _ _ rfl rfl)
  have hturn₁ := hleds.step (.act .loopTurns) (.act _ _ rfl rfl)
  have hturn₂ := hturn₁.step (.act .loopTurns) (.act _ _ rfl rfl)
  have henter := hturn₂.step .enter (.enter rfl)
  have hnotify := henter.step _ (.notify (.configChanged .hot))
  have hhear := hnotify.step .hear
    (.hear 0 _ (.configChanged .hot) rfl rfl receive_hot)
  have hcopy := hhear.step .copy (.copy rfl)
  have hforce := hcopy.step .force (.force _ _ rfl rfl)
  have hsettle := hforce.step .settle (.settle _ rfl)
  have hpush := hsettle.step _ (.push _ rfl)
  have hturn₃ := hpush.step (.act .loopTurns) (.act _ _ rfl rfl)
  have hlook := hturn₃.step (.look 0) (.look 0 rfl)
  have hask := hlook.step _ (.ask 0 _ rfl)
  have hturn₄ := hask.step (.act .loopTurns) (.act _ _ rfl rfl)
  refine ⟨_, _, hturn₄, rfl, rfl, rfl, (enabled_iff hturn₄ rfl rfl).mpr ?_⟩
  rintro n policy ⟨⟩ ⟨⟩
  rfl

set_option maxRecDepth 10000 in
/-- A request that looked before a hot change was sent brings back what that
switched off. -/
theorem stale_request_enables :
    ∃ h w, Run rivals (start rooted) h w ∧ w.device.loop.takes = true
      ∧ w.device.loop.policies = []
      ∧ (∀ n policy, w.requests n ≠ .looked policy)
      ∧ w.device.loop.state.wifiPolicy.enabled
        ≠ (pushed rooted.store.config.wifi.policy h.steps).enabled := by
  have hstart : Run rivals (start rooted) [] (start rooted) := .start
  have henter := hstart.step .enter (.enter rfl)
  have hedit := henter.step _ (.elsewhere { Device.new rooted with
    files := unwired })
  have hread := hedit.step (.read 0) (.read 0 _ rfl read_unwired)
  have hadopt := hread.step (.adopt 0 _)
    (.adopt 0 _ rfl rfl
      (Config.coldDifferences_hot .builtIn _ ⟨false, true⟩))
  have hpublish := hadopt.step (.publish 0) (.publish 0 .hot rfl)
  have hhear := hpublish.step .hear
    (.hear 0 _ (.configChanged .hot) rfl rfl receive_hot)
  have hcopy := hhear.step .copy (.copy rfl)
  have hforce := hcopy.step .force (.force _ _ rfl rfl)
  have hsettle := hforce.step .settle (.settle _ rfl)
  have hlook := hsettle.step (.look 0) (.look 0 rfl)
  have hpush := hlook.step _ (.push _ rfl)
  have hask := hpush.step _ (.ask 0 _ rfl)
  have hleds := hask.step (.act (.starts .leds)) (.act _ _ rfl rfl)
  have hturn₁ := hleds.step (.act .loopTurns) (.act _ _ rfl rfl)
  have hturn₂ := hturn₁.step (.act .loopTurns) (.act _ _ rfl rfl)
  have hturn₃ := hturn₂.step (.act .loopTurns) (.act _ _ rfl rfl)
  refine ⟨_, _, hturn₃, rfl, rfl, fun n policy => ?_, ?_⟩
  · rcases n with _ | n
    · exact nofun
    · exact nofun
  · decide

/-! ## How long a wish lasts -/

/-- The configuration has that policy of the access point, and so has what
the main loop copied of it. -/
structure Tuned (policy : WifiPolicy) (w : Interplay) : Prop where
  config : w.device.store.config.wifi.policy = policy
  main : ∀ c, w.main = .copied c ∨ w.main = .forced c ∨ w.main = .enforced c →
    c.wifi.policy = policy

namespace Tuned

variable {policy : WifiPolicy}

theorem step (h : Tuned policy w) {s : Step} (hstep : w.Takes clients s w')
    (hadopt : ∀ n new, s = .adopt n new → new.wifi.policy = policy) :
    Tuned policy w' := by
  cases hstep with
  | ask n sent looked =>
      rw [Device.commandLoop_fst]
      exact { h with }
  | adopt n new waits free hot => exact { h with config := hadopt n new rfl }
  | hear reader board notice inside idle receives =>
      refine { h with main := fun c hc => ?_ }
      dsimp only at hc
      split at hc <;> rcases hc with hc | hc | hc <;> cases hc
  | copy told =>
      refine { h with main := fun c hc => ?_ }
      rcases hc with hc | hc | hc <;> cases hc
      exact h.config
  | force c monitor copied valid =>
      refine { h with main := fun c' hc => ?_ }
      rcases hc with hc | hc | hc <;> cases hc
      exact h.main c (.inl copied)
  | settle c forced =>
      refine { h with main := fun c' hc => ?_ }
      rcases hc with hc | hc | hc <;> cases hc
      exact h.main c (.inr (.inl forced))
  | reject | push =>
      refine { h with main := fun c' hc => ?_ }
      rcases hc with hc | hc | hc <;> cases hc
  | act a device plain acts =>
      have hstore := (Device.untouched_act? acts plain).store
      exact { h with config := hstore ▸ h.config }
  | _ => exact { h with }

/-- A hot change sends the policy of the configuration. -/
theorem push (h : Tuned policy w) {sent : WifiPolicy}
    (hstep : w.Takes clients (.push sent) w') : sent = policy := by
  cases hstep with
  | push c enforced => exact h.main c (.inr (.inr enforced))

/-- As long as no other policy is loaded and no client asks, all that is sent
is the policy of the configuration. -/
theorem run {first : Interplay} {later : History} (h : Tuned policy first)
    (run : Run clients first later w)
    (hask : ∀ n sent, .ask n sent ∉ later.steps)
    (hadopt : ∀ n new, .adopt n new ∈ later.steps → new.wifi.policy = policy) :
    Tuned policy w ∧ ∀ p ∈ sent later.steps, p = policy := by
  induction run with
  | start => exact ⟨h, fun p hp => by cases hp⟩
  | @step past w w' s _ hstep ih =>
      obtain ⟨htuned, hall⟩ := ih
        (fun n sent hmem => hask n sent (List.mem_cons_of_mem _ hmem))
        (fun n new hmem => hadopt n new (List.mem_cons_of_mem _ hmem))
      refine ⟨htuned.step hstep fun n new hs =>
        hadopt n new (hs ▸ List.mem_cons_self), fun p hp => ?_⟩
      rw [History.steps, List.map_cons, sent_cons] at hp
      rcases List.mem_append.mp hp with hp | hp
      · exact hall p hp
      · cases s with
        | push sent =>
            obtain rfl := List.mem_singleton.mp hp
            exact htuned.push hstep
        | ask n sent => exact absurd List.mem_cons_self (hask n sent)
        | _ => cases hp

end Tuned

/-- A wish that the loop goes by lasts until the loop takes a policy, unless
the configuration has the same wish: after that it is the one of the
configuration, though no client asked for anything and no other policy was
loaded.

The start is not any moment of a run: by `htuned` what the main loop has
copied of the configuration and not yet sent has the policy in force, and by
`hwaiting` the policies that wait in the queue carry the wish of the
configuration already. So no earlier change of the wish, by a client or by a
reload, is still on its way to the loop. -/
theorem wish_lasts_iff {first : Interplay} {later : History}
    {policy : WifiPolicy} (run : Run clients first later w)
    (htuned : Tuned policy first)
    (hwaiting : ∀ p ∈ first.device.loop.policies,
      p.apRequested = policy.apRequested)
    (hask : ∀ n sent, .ask n sent ∉ later.steps)
    (hadopt : ∀ n new, .adopt n new ∈ later.steps → new.wifi.policy = policy)
    (htakes : w.device.loop.takes = true) :
    w.device.loop.state.wifiPolicy.apRequested
        = first.device.loop.state.wifiPolicy.apRequested
      ↔ first.device.loop.policies ++ sent later.steps
          = w.device.loop.policies
        ∨ policy.apRequested
          = first.device.loop.state.wifiPolicy.apRequested := by
  obtain ⟨taken, hqueue, hpolicy⟩ := (serves_run run).policies htakes
  obtain ⟨-, hsent⟩ := htuned.run run hask hadopt
  have htaken : ∀ p ∈ taken, p.apRequested = policy.apRequested := by
    intro p hp
    have hmem := List.mem_append_left w.device.loop.policies hp
    rw [← hqueue] at hmem
    rcases List.mem_append.mp hmem with hp | hp
    · exact hwaiting p hp
    · rw [hsent p hp]
  -- Whatever was taken has the one wish, so only whether any was matters.
  rw [hpolicy, hqueue, List.append_left_eq_self]
  cases hlast : taken.getLast? with
  | none =>
      have hnone := List.getLast?_eq_none_iff.mp hlast
      simp [hnone]
  | some p =>
      have hp := htaken p (List.mem_of_getLast? hlast)
      have hsome : taken ≠ [] := by
        rintro rfl
        cases hlast
      rw [Option.getD_some, hp]
      simp [hsome]

set_option maxRecDepth 10000 in
/-- What a hot change sent is no concern of the loop until it takes it. -/
theorem wish_lasts_iff_waiting :
    ∃ first later w, Run rivals first later w
      ∧ first.device.loop.state.wifiPolicy.apRequested = false
      ∧ sent later.steps ≠ []
      ∧ w.device.loop.state.wifiPolicy.apRequested = false := by
  have hstart : Run rivals (start rooted) [] (start rooted) := .start
  have hleds := hstart.step (.act (.starts .leds)) (.act _ _ rfl rfl)
  have hturn₁ := hleds.step (.act .loopTurns) (.act _ _ rfl rfl)
  have hturn₂ := hturn₁.step (.act .loopTurns) (.act _ _ rfl rfl)
  have hlook := hturn₂.step (.look 0) (.look 0 rfl)
  have hask := hlook.step _ (.ask 0 _ rfl)
  have hturn₃ := hask.step (.act .loopTurns) (.act _ _ rfl rfl)
  have hagain : ∀ {h : History} {w : Interplay},
      Run rivals (start rooted) h w → Run rivals w [] w := fun _ => .start
  have henter := (hagain hturn₃).step .enter (.enter rfl)
  have hnotify := henter.step _ (.notify (.configChanged .hot))
  have hhear := hnotify.step .hear
    (.hear 0 _ (.configChanged .hot) rfl rfl receive_hot)
  have hcopy := hhear.step .copy (.copy rfl)
  have hforce := hcopy.step .force (.force _ _ rfl rfl)
  have hsettle := hforce.step .settle (.settle _ rfl)
  have hpush := hsettle.step _ (.push _ rfl)
  refine ⟨_, _, _, hpush, rfl, List.cons_ne_nil _ _,
    (wish_lasts_iff hpush ⟨rfl, ?_⟩ nofun ?_ ?_ rfl).mpr (.inl rfl)⟩
  · rintro c (hc | hc | hc) <;> cases hc
  · simp [History.steps]
  · simp [History.steps]

set_option maxRecDepth 10000 in
/-- A charge window edited in the file brings the wish of the file back. -/
theorem wish_undone :
    ∃ past first later w, Run rivals (start rooted) past first
      ∧ Run rivals first later w
      ∧ sender past.steps = some 0
      ∧ first.device.loop.policies = []
      ∧ first.device.loop.state.wifiPolicy.apRequested = rivals.wanted 0
      ∧ (∀ n sent, .ask n sent ∉ later.steps)
      ∧ (∀ n new, .adopt n new ∈ later.steps →
        new.wifi.policy = first.device.store.config.wifi.policy)
      ∧ w.device.loop.state.wifiPolicy.apRequested ≠ rivals.wanted 0 := by
  have hstart : Run rivals (start rooted) [] (start rooted) := .start
  have hleds := hstart.step (.act (.starts .leds)) (.act _ _ rfl rfl)
  have hturn₁ := hleds.step (.act .loopTurns) (.act _ _ rfl rfl)
  have hturn₂ := hturn₁.step (.act .loopTurns) (.act _ _ rfl rfl)
  have hlook := hturn₂.step (.look 0) (.look 0 rfl)
  have hask := hlook.step _ (.ask 0 _ rfl)
  have hturn₃ := hask.step (.act .loopTurns) (.act _ _ rfl rfl)
  have hagain : ∀ {h : History} {w : Interplay},
      Run rivals (start rooted) h w → Run rivals w [] w := fun _ => .start
  have henter := (hagain hturn₃).step .enter (.enter rfl)
  have hedit := henter.step _ (.elsewhere { Device.new rooted with
    files := edited })
  have hread := hedit.step (.read 0) (.read 0 _ rfl read_edited)
  have hadopt := hread.step (.adopt 0 _) (.adopt 0 _ rfl rfl
    (ConfigStore.coldDifferences_withCharge rooted.store .initial _))
  have hpublish := hadopt.step (.publish 0) (.publish 0 .hot rfl)
  have hhear := hpublish.step .hear
    (.hear 0 _ (.configChanged .hot) rfl rfl receive_hot)
  have hcopy := hhear.step .copy (.copy rfl)
  have hforce := hcopy.step .force (.force _ _ rfl rfl)
  have hsettle := hforce.step .settle (.settle _ rfl)
  have hpush := hsettle.step _ (.push _ rfl)
  have hturn₄ := hpush.step (.act .loopTurns) (.act _ _ rfl rfl)
  refine ⟨_, _, _, _, hturn₃, hturn₄, rfl, rfl, rfl, ?_, ?_, ?_⟩
  · simp [History.steps]
  · intro n new hmem
    simp only [History.steps, List.map_cons, List.map_nil, List.mem_cons,
      Step.adopt.injEq, reduceCtorEq, List.not_mem_nil, false_or,
      or_false] at hmem
    rw [hmem.2]
    rfl
  · decide
end Gateway.Interplay
