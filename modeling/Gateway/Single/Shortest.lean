import Gateway.Single

/-!
# Shortest decimals

The decimal text of a single-precision number: the fewest digits that read back to the number, and
of those the nearest. `shortest` searches the decimal grids from the coarsest to the finest; on each
only the two neighbours of the number can lie in the interval that rounds to it.
-/

namespace Gateway.Single

/-- A decimal: `digits * 10 ^ power`. -/
structure Decimal where
  digits : Nat
  power : Int
deriving DecidableEq, Repr

/-- A positive finite number over a common denominator with the ends of the interval of reals that
round to it. -/
structure Window where
  low : Nat
  value : Nat
  high : Nat
  den : Nat
  /-- Whether the ends belong to the interval. -/
  closed : Bool

/-- The interval of a significand and an exponent. Below a power of two the neighbours are half as
far away, except at the least exponent. -/
def window (m : Nat) (e : Int) : Window :=
  let below := if m = Nat.pow 2 23 ∧ minExponent < e then 1 else 2
  let num := fun n : Nat => match e with
    | .ofNat k => n * Nat.pow 2 k
    | .negSucc _ => n
  let den := match e with
    | .ofNat _ => 4
    | .negSucc k => 4 * Nat.pow 2 (k + 1)
  ⟨num (4 * m - below), num (4 * m), num (4 * m + 2), den, m % 2 = 0⟩

/-- Whether `n * unit / scale` lies in the interval. -/
def Window.holds (w : Window) (n unit scale : Nat) : Bool :=
  let x := n * unit * w.den
  if w.closed then w.low * scale ≤ x && x ≤ w.high * scale
  else w.low * scale < x && x < w.high * scale

/-- The nearest neighbour of the value on the grid of multiples of `unit / scale` that lies in the
interval. At a tie the even one wins. -/
def Window.onGrid (w : Window) (unit scale : Nat) : Option Nat :=
  let n := w.value * scale / (unit * w.den)
  let below := w.holds n unit scale && n != 0
  let above := w.holds (n + 1) unit scale
  if below && above then
    let distBelow := w.value * scale - n * unit * w.den
    let distAbove := (n + 1) * unit * w.den - w.value * scale
    if distBelow < distAbove then some n
    else if distAbove < distBelow then some (n + 1)
    else if n % 2 = 0 then some n else some (n + 1)
  else if below then some n
  else if above then some (n + 1)
  else none

/-- The grid of multiples of `10 ^ power`. -/
def Window.onPower (w : Window) (power : Int) : Option Nat :=
  match power with
  | .ofNat k => w.onGrid (Nat.pow 10 k) 1
  | .negSucc k => w.onGrid 1 (Nat.pow 10 (k + 1))

/-- The first of the grids from `10 ^ power` downwards that has a point in the interval. -/
def Window.search (w : Window) (power : Int) : Nat → Option Decimal
  | 0 => none
  | fuel + 1 =>
    match w.onPower power with
    | some n => some ⟨n, power⟩
    | none => w.search (power - 1) fuel

/-- The shortest decimal of a positive finite number. Every such number lies between `10 ^ (-45)`
and `10 ^ 39`, and the grid of its ninth digit always has a point in the interval. -/
def shortest (m : Nat) (e : Int) : Decimal :=
  ((window m e).search 39 100).getD ⟨0, 0⟩

/-- A decimal without zeros at its end. -/
def Decimal.stripped (d : Decimal) : Nat → Decimal
  | 0 => d
  | fuel + 1 => if d.digits ≠ 0 ∧ d.digits % 10 = 0 then
      Decimal.stripped ⟨d.digits / 10, d.power + 1⟩ fuel else d

/-- Where numbers are written with a plain point: the powers of ten of their first digit. -/
structure PointRange where
  least : Int
  greatest : Int

/-- Readings are written with a plain point from `10 ^ (-6)` up to `10 ^ 12`. -/
def readingRange : PointRange := ⟨-6, 12⟩

/-- The text of a decimal: with a plain point and at least one digit on each side of it inside the
range, and as one digit, a fraction and a signed power of ten outside it. -/
def Decimal.text (range : PointRange) (d : Decimal) : String :=
  let digits := (toString d.digits).toList
  let first : Int := d.power + digits.length - 1
  if range.least ≤ first ∧ first ≤ range.greatest then
    if 0 ≤ d.power then
      String.ofList (digits ++ List.replicate d.power.toNat '0' ++ ['.', '0'])
    else if 0 ≤ first then
      let whole := (first + 1).toNat
      String.ofList (digits.take whole ++ ['.'] ++ digits.drop whole)
    else
      String.ofList (['0', '.'] ++ List.replicate (-first - 1).toNat '0' ++ digits)
  else
    let fraction := digits.drop 1
    let sign := if first < 0 then ['-'] else ['+']
    String.ofList (digits.take 1 ++ (if fraction.isEmpty then [] else '.' :: fraction)
      ++ ['e'] ++ sign ++ (toString first.natAbs).toList)

/-- The text of a number; the ones that are not finite have none. -/
def text (x : Single) : Option String :=
  match x with
  | .nan => none
  | .infinite _ => none
  | .finite negative m e =>
    let sign := if negative then "-" else ""
    if m = 0 then some (sign ++ "0.0")
    else some (sign ++ ((shortest m e).stripped 50).text readingRange)

end Gateway.Single
