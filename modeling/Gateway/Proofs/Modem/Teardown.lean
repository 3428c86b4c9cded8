import Gateway.Proofs.Modem.Conduct

/-!
# Tearing closed connections down

When a reconnect follows on the news that the connection is closed: just
if that was the answer to the first command text of its call. The call
then has another try left, and reconnects before it looks for the modem
again. Where the news ends the call instead, as it does for a command
sent again and for either half of a network query, the bus is left
unbound, and the next thing it asks is where the modem is, through the
connection that is closed. A bus that is asked for nothing but the
network therefore never reconnects (`no_reconnect_of_polls`).
-/

namespace Gateway.Modem

/-- After the answer that the connection is closed, whatever calls come
and whatever the modem answers:

- if it was the answer to the first command text of its call, the bus goes
  on, and with a reconnect;
- if not, then whatever the bus asks next, if anything, is a search. -/
theorem reconnect_iff_firstSend {s : Session} (run : Bus.Run s)
    {later earlier : List Asked} {x : Asked}
    (hasked : s.asked = later ++ x :: earlier) (hx : x.closes = true) :
    (x.isFirstSend earlier = true →
      ∃ rest next, later = rest ++ [next] ∧ next.question = .reconnect)
    ∧ (x.isFirstSend earlier = false →
      ∀ rest next, later = rest ++ [next] → next.question = .resolve) := by
  obtain ⟨hproper, horderly⟩ := Bus.orderly_run run
  have hnext : ∀ rest next, later = rest ++ [next] → next.question
      = if x.isFirstSend earlier then .reconnect else .resolve := by
    intro rest next hlater
    rw [hlater, List.append_assoc] at hasked
    exact (hproper rest next _ hasked).closed x earlier rfl hx
  refine ⟨fun hfirst => ?_, fun hfirst rest next hlater => ?_⟩
  · rcases List.eq_nil_or_concat later with hnil | ⟨rest, next, hlater⟩
    · rw [hnil] at hasked
      have hspent := horderly.spent x earlier hasked hx
      rw [hfirst] at hspent
      cases hspent
    · rw [List.concat_eq_append] at hlater
      refine ⟨rest, next, hlater, ?_⟩
      rw [hnext rest next hlater, hfirst]
      rfl
  · rw [hnext rest next hlater, hfirst]
    rfl

/-- The record of two network queries, of which the first was told that
the connection is closed. -/
def polled : List Asked := [
  ⟨2, .technology ⟨"/ril_0"⟩ 8000, some (.answered (.ok "LTE only"))⟩,
  ⟨2, .strength ⟨"/ril_0"⟩ 8000, some (.answered (.ok 20), 0)⟩,
  ⟨2, .resolve, some (.ok ⟨"/ril_0"⟩)⟩,
  ⟨1, .strength ⟨"/ril_0"⟩ 8000,
    some (.answered (.error (.closed "gone")), 0)⟩,
  ⟨1, .resolve, some (.ok ⟨"/ril_0"⟩)⟩]

theorem run_polled : Bus.Run ⟨polled, some ⟨"/ril_0"⟩, 2⟩ := by
  have first : (Bus.query 8000 none).Talk Session.new.turn
      ⟨polled.drop 3, none, 1⟩ (some (.error (.transportClosed "gone"))) := by
    refine .ask (.ok ⟨"/ril_0"⟩) (.rebind ?_)
    exact .ask (.answered (.error (.closed "gone")), 0) (.rebind (.done _ _))
  have second : (Bus.query 8000 none).Talk ⟨polled.drop 3, none, 2⟩
      ⟨polled, some ⟨"/ril_0"⟩, 2⟩ (some (.ok ⟨20, "LTE only"⟩)) := by
    refine .ask (.ok ⟨"/ril_0"⟩) (.rebind ?_)
    refine .ask (.answered (.ok 20), 0) ?_
    exact .ask (.answered (.ok "LTE only")) (.done _ _)
  exact .query _ (.query _ .new first) second

/-- The second query begins with a search through the closed connection. -/
theorem reconnect_iff_firstSend_polled :
    ∃ later next, polled.take 3 = later ++ [next]
      ∧ next.question = .resolve := by
  have hasked : polled = polled.take 3 ++ _ :: polled.drop 4 := rfl
  have h := (reconnect_iff_firstSend run_polled hasked rfl).2 rfl
  exact ⟨polled.take 2, _, rfl, h (polled.take 2) _ rfl⟩

/-- So the news that the connection is closed is not always followed by a
reconnect. -/
theorem closed_not_reconnected :
    ¬ ∀ s, Bus.Run s → ∀ later next x earlier,
      s.asked = later ++ next :: x :: earlier → x.closes = true →
      next.question = .reconnect := by
  intro h
  have hnext := h _ run_polled (polled.take 2) _ _ _ rfl rfl
  cases hnext

/-! ## Network queries alone -/

namespace Bus

/-- What a bus can come to by network queries. -/
inductive Polls : Session → Prop
  | new : Polls .new
  | query {s s' : Session}
      {outcome : Option (Except CommandFault Network.Reading)}
      (limit : Nat) (polls : Polls s)
      (talk : (query limit s.binding).Talk s.turn s' outcome) : Polls s'

theorem query_ensures_no_reconnect (limit : Nat)
    (binding : Option Endpoint) (s : Session) :
    (query limit binding).Ensures (fun _ q => q ≠ .reconnect)
      (fun _ _ => True) s := by
  have hread : ∀ e s, (query limit (some e)).Ensures
      (fun _ q => q ≠ .reconnect) (fun _ _ => True) s := by
    intro e s
    refine ⟨nofun, trivial, ?_⟩
    intro reply
    match reply with
    | (.lapsed, _) | (.answered (.error _), _) => exact trivial
    | (.answered (.ok _), _) =>
        refine ⟨nofun, trivial, ?_⟩
        intro reply
        match reply with
        | .lapsed | .answered (.error _) | .answered (.ok _) => exact trivial
  cases binding with
  | some e => exact hread e s
  | none =>
      refine ⟨nofun, trivial, ?_⟩
      intro answer
      cases answer with
      | error fault => exact trivial
      | ok e => exact hread e _

/-- However often the network is asked for, and however often the answer
is that the connection is closed, there is no reconnect. -/
theorem no_reconnect_of_polls {s : Session} (polls : Polls s) :
    ∀ x ∈ s.asked, x.question ≠ .reconnect := by
  have hfollows : s.Follows fun _ q => q ≠ .reconnect := by
    induction polls with
    | new => exact Session.follows_new _
    | query limit polls talk ih =>
        exact (talk.ensured (query_ensures_no_reconnect limit _ _) ih).1
  intro x hx
  obtain ⟨later, earlier, hasked⟩ := List.append_of_mem hx
  exact hfollows later x earlier hasked

end Bus

end Gateway.Modem
