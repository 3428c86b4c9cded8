import Gateway.Proofs.Modem.Conduct

/-!
# The binding of the command bus

The endpoint that the bus remembers is never a stale one. What the record
tells of the binding (`bound`) is spelled out as a fact about the past
(`Current`), and the ends of the two kinds of calls say which of them left
the bus without an endpoint.
-/

namespace Gateway.Modem

/-- The latest search found the endpoint, and nothing since then told that
it was lost. -/
def Current (e : Endpoint) (past : List Asked) : Prop :=
  ∃ since before call, past = since ++ ⟨call, .resolve, some (.ok e)⟩ :: before
    ∧ ∀ x ∈ since, x.question ≠ .resolve ∧ x.drops = false

theorem current_of_bound {e : Endpoint} {past : List Asked}
    (h : bound past = some e) : Current e past := by
  induction past with
  | nil => cases h
  | cons x past ih =>
      unfold bound at h
      split at h
      case h_1 => cases h
      case h_2 call e' before heq =>
        obtain ⟨rfl, rfl⟩ := List.cons.inj heq
        cases h
        exact ⟨[], past, call, rfl, nofun⟩
      case h_3 => cases h
      case h_4 y before hother heq =>
        obtain ⟨rfl, rfl⟩ := List.cons.inj heq
        cases hdrops : x.drops with
        | true => simp [hdrops] at h
        | false =>
            simp only [hdrops, Bool.false_eq_true, if_false] at h
            obtain ⟨since, before, call, rfl, hsince⟩ := ih h
            refine ⟨x :: since, before, call, rfl, ?_⟩
            refine List.forall_mem_cons.mpr ⟨⟨fun hq => ?_, hdrops⟩, hsince⟩
            obtain ⟨call, q, answer⟩ := x
            cases hq
            exact hother _ _ rfl

/-- Whatever commands and network queries a bus is asked for and whatever
its modem answers, or does not answer:

- an endpoint is asked for something only if it is the one that the latest
  search found, and since then neither a command was told that the
  connection is closed nor a network query failed or took too long;
- a command that comes to its end leaves the bus unbound just if the
  connection was closed or no modem was found;
- a network query that comes to its end leaves it unbound just if it
  failed. -/
theorem endpoint_current {s : Session} (run : Bus.Run s) :
    (∀ later x earlier e, s.asked = later ++ x :: earlier →
      x.question.endpoint? = some e → Current e earlier)
    ∧ (∀ command s' result,
      (Bus.execute command s.binding).Talk s.turn s' (some result) →
      (s'.binding = none ↔ ∃ text,
        result = .error (.transportClosed text)
          ∨ result = .error (.deviceUnavailable text)))
    ∧ ∀ limit s' result,
      (Bus.query limit s.binding).Talk s.turn s' (some result) →
      (s'.binding = none ↔ ∃ fault, result = .error fault) := by
  obtain ⟨hproper, horderly⟩ := Bus.orderly_run run
  obtain ⟨hturn, hunsent⟩ := horderly.turn
  refine ⟨fun later x earlier e hasked hx => ?_,
    fun command s' result talk => ?_, fun limit s' result talk => ?_⟩
  · exact current_of_bound ((hproper later x earlier hasked).current e hx)
  · have hcall := Bus.ensures_execute command hturn hunsent
    exact (talk.ensured hcall hproper).2.2 result rfl
  · have hcall := Bus.ensures_query limit hturn
    exact (talk.ensured hcall hproper).2.2 result rfl

/-- The record of a command whose first try was told that the connection
is closed. -/
def reconnected : List Asked := [
  ⟨1, .send ⟨"/ril_1"⟩ "AT" 8000, some (.answered (.ok "OK"))⟩,
  ⟨1, .resolve, some (.ok ⟨"/ril_1"⟩)⟩,
  ⟨1, .reconnect, some (.ok ())⟩,
  ⟨1, .send ⟨"/ril_0"⟩ "AT" 8000,
    some (.answered (.error (.closed "gone")))⟩,
  ⟨1, .resolve, some (.ok ⟨"/ril_0"⟩)⟩]

/-- Its second try is put to the endpoint found after the reconnect. -/
theorem endpoint_current_reconnected :
    Bus.Run ⟨reconnected, some ⟨"/ril_1"⟩, 1⟩
      ∧ Current ⟨"/ril_1"⟩ reconnected.tail := by
  have talk : (Bus.execute ⟨"AT", 8000⟩ none).Talk Session.new.turn
      ⟨reconnected, some ⟨"/ril_1"⟩, 1⟩ (some (Bus.accepted "OK")) := by
    rw [Bus.execute, Bus.retries, Bus.attempt]
    refine .ask (.ok ⟨"/ril_0"⟩) (.rebind ?_)
    refine .ask (.answered (.error (.closed "gone"))) (.rebind ?_)
    refine .ask (.ok ()) ?_
    rw [Bus.attempt]
    refine .ask (.ok ⟨"/ril_1"⟩) (.rebind ?_)
    exact .ask (.answered (.ok "OK")) (.done _ _)
  have run := Bus.Run.execute _ .new talk
  exact ⟨run, (endpoint_current run).1 [] _ _ ⟨"/ril_1"⟩ rfl rfl⟩

end Gateway.Modem
