import Gateway.Text.Decimal
import Gateway.Text.Split

/-!
# Single-precision numbers

The numbers that battery readings carry: 24 binary digits, exponents from -149 to 104. Arithmetic is
exact on natural numbers and rounded once, to the nearest number and at a tie to the even one.

- `Single.ofRatio` rounds a quotient of natural numbers;
- `Single.parse?` reads a decimal literal;
- `Single.dividedBy` divides by a natural number;
- `Single.bits` is the 32-bit interchange form.
-/

namespace Gateway

/-- A single-precision number. A finite one is `significand * 2 ^ exponent` with the sign given
apart, so that zero has two signs. -/
inductive Single where
  | nan
  | infinite (negative : Bool)
  | finite (negative : Bool) (significand : Nat) (exponent : Int)
deriving DecidableEq, Repr

namespace Single

/-- The least exponent of a finite number. -/
def minExponent : Int := -149

/-- The greatest exponent of a finite number. -/
def maxExponent : Int := 104

/-- The quotient `num / den`, rounded to the nearest natural number and at a tie to the even one. -/
def nearest (num den : Nat) : Nat :=
  let q := num / den
  let r := num % den
  if 2 * r < den then q
  else if den < 2 * r then q + 1
  else if q % 2 = 0 then q else q + 1

/-- How often `2 ^ exponent` goes into `num / den`, rounded by `nearest`. -/
def scaled (num den : Nat) (exponent : Int) : Nat :=
  match exponent with
  | .ofNat k => nearest num (den * Nat.pow 2 k)
  | .negSucc k => nearest (num * Nat.pow 2 (k + 1)) den

/-- Whether `num / den` is at least `2 ^ 24` times `2 ^ exponent`. -/
def overflows (num den : Nat) (exponent : Int) : Bool :=
  match exponent + 24 with
  | .ofNat k => den * Nat.pow 2 k ≤ num
  | .negSucc k => den ≤ num * Nat.pow 2 (k + 1)

/-- The exponent at which `num / den` has at most 24 binary digits before the point, and 24 of them
unless the exponent is the least one. -/
def exponentOf (num den : Nat) : Int :=
  let guess := max minExponent ((num.log2 : Int) - (den.log2 : Int) - 24)
  if overflows num den guess then guess + 1 else guess

/-- A rounded significand brought back to 24 binary digits, or to infinity. -/
def settle (negative : Bool) (significand : Nat) (exponent : Int) : Single :=
  let carried := significand = Nat.pow 2 24
  let e := if carried then exponent + 1 else exponent
  if maxExponent < e then .infinite negative
  else .finite negative (if carried then Nat.pow 2 23 else significand) e

/-- The number nearest to `num / den`, with the sign given. -/
def ofRatio (negative : Bool) (num den : Nat) : Single :=
  if num = 0 then .finite negative 0 minExponent
  else
    let e := exponentOf num den
    settle negative (scaled num den e) e

/-- A number divided by a natural number. -/
def dividedBy (x : Single) (d : Nat) : Single :=
  match x with
  | .nan => .nan
  | .infinite negative => .infinite negative
  | .finite negative m (.ofNat k) => ofRatio negative (m * Nat.pow 2 k) d
  | .finite negative m (.negSucc k) => ofRatio negative m (d * Nat.pow 2 (k + 1))

/-- The 32-bit interchange form: sign, eight exponent bits, 23 bits of the significand. -/
def bits : Single → UInt32
  | .nan => 0x7FC00000
  | .infinite negative => (if negative then 0x80000000 else 0) ||| 0x7F800000
  | .finite negative m e =>
    let sign : Nat := if negative then Nat.pow 2 31 else 0
    let body : Nat := if m < Nat.pow 2 23 then m
      else (e - minExponent + 1).toNat * Nat.pow 2 23 + (m - Nat.pow 2 23)
    UInt32.ofNat (sign + body)

/-! ## Decimal literals -/

/-- The number nearest to a decimal one. Beyond the powers cut off here the result is infinite or
zero whatever the digits, as `count` digits stay below `10 ^ count`. -/
def ofDecimal (negative : Bool) (d : Text.Decimal) : Single :=
  if d.digits = 0 then .finite negative 0 minExponent
  else if 60 < d.power then .infinite negative
  else if d.power + d.count < -60 then .finite negative 0 minExponent
  else match d.power with
    | .ofNat k => ofRatio negative (d.digits * Nat.pow 10 k) 1
    | .negSucc k => ofRatio negative d.digits (Nat.pow 10 (k + 1))

/-- An unsigned literal: a decimal one, or the name of a number that is not finite. -/
def parseUnsigned? (negative : Bool) (cs : List Char) : Option Single :=
  let name := Text.lowered cs
  if name = "inf".toList ∨ name = "infinity".toList then some (.infinite negative)
  else if name = "nan".toList then some .nan
  else (Text.Decimal.parse? cs).map (ofDecimal negative)

/-- A decimal literal with an optional sign. -/
def parse? (cs : List Char) : Option Single :=
  match cs with
  | '-' :: rest => parseUnsigned? true rest
  | '+' :: rest => parseUnsigned? false rest
  | _ => parseUnsigned? false cs

end Single

end Gateway
