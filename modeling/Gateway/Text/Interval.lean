/-!
# Lengths of time

A length of time and the text messages show for it: the largest unit that gives a whole part, and
the fraction without trailing zeros.
-/

namespace Gateway

/-- A length of time in whole nanoseconds. -/
structure Interval where
  nanos : Nat
deriving DecidableEq, Repr

namespace Interval

/-- So many thousandths of a second. -/
def ofMillis (n : Nat) : Interval := ⟨n * 1000000⟩

/-- So many millionths of a second. -/
def ofMicros (n : Nat) : Interval := ⟨n * 1000⟩

/-- The whole thousandths of a second in it. -/
def millis (i : Interval) : Nat := i.nanos / 1000000

/-- `count` digits of `n`, with zeros in front, trailing zeros dropped. -/
def fraction (count n : Nat) : List Char :=
  let digits := (toString n).toList
  let padded := List.replicate (count - digits.length) '0' ++ digits
  (padded.reverse.dropWhile (· == '0')).reverse

/-- `n` parts of which `10 ^ places` make one unit. -/
def decimal (places n : Nat) (unit : String) : String :=
  let whole := toString (n / Nat.pow 10 places)
  let frac := fraction places (n % Nat.pow 10 places)
  if frac.isEmpty then whole ++ unit else whole ++ "." ++ String.ofList frac ++ unit

/-- The length as messages show it. -/
def text (i : Interval) : String :=
  if 1000000000 ≤ i.nanos then decimal 9 i.nanos "s"
  else if 1000000 ≤ i.nanos then decimal 6 i.nanos "ms"
  else if 1000 ≤ i.nanos then decimal 3 i.nanos "µs"
  else decimal 0 i.nanos "ns"

end Interval

end Gateway
