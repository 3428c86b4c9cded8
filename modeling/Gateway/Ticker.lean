/-!
# Periodic timers

A timer that fires at once and then at every further period. Times are in milliseconds. A timer that
fires late either counts on from that moment or keeps to its grid.
-/

namespace Gateway

/-- What a timer does that fires more than the tolerance after its time. -/
inductive Lateness where
  /-- The next time is a period from now. -/
  | delay
  /-- The next time is the next one of the grid. -/
  | skip
deriving DecidableEq, Repr

/-- A periodic timer. -/
structure Ticker where
  period : Nat
  /-- When it fires next. -/
  next : Nat
  lateness : Lateness
  period_pos : 0 < period := by decide
deriving DecidableEq, Repr

namespace Ticker

/-- A timer that fires now for the first time. There is none that has no period. -/
def start? (now period : Nat) (lateness : Lateness) : Option Ticker :=
  if h : 0 < period then some ⟨period, now, lateness, h⟩ else none

/-- How late a timer may fire without counting as late. -/
def tolerance : Nat := 5

/-- Whether the timer fires now. -/
def isDue (t : Ticker) (now : Nat) : Bool := t.next ≤ now

/-- The timer after it fired. -/
def fire (t : Ticker) (now : Nat) : Ticker :=
  if t.next + tolerance < now then
    match t.lateness with
    | .delay => { t with next := now + t.period }
    | .skip => { t with next := now + t.period - (now - t.next) % t.period }
  else { t with next := t.next + t.period }

/-- The timer set to fire a period from now. -/
def reset (t : Ticker) (now : Nat) : Ticker := { t with next := now + t.period }

/-- A timer that fired moves on. -/
theorem next_lt_fire {t : Ticker} {now : Nat} (h : t.isDue now = true) :
    t.next < (t.fire now).next := by
  have hp := t.period_pos
  simp only [isDue, decide_eq_true_eq] at h
  have hm : (now - t.next) % t.period < t.period := Nat.mod_lt _ hp
  simp only [fire]
  split
  · split <;> simp <;> omega
  · simp; omega

end Ticker

end Gateway
