import Gateway.Text.Numeral

/-!
# Decimal literals

Unsigned decimal literals: digits with an optional point among or around them and an optional power
of ten. The literal is kept exactly, as its digits and the power of ten they are to be multiplied
by.
-/

namespace Gateway.Text

/-- The number `digits * 10 ^ power`, written with `count` digits. -/
structure Decimal where
  digits : Nat
  count : Nat
  power : Int
deriving DecidableEq, Repr

namespace Decimal

/-- Splits off the digits at the front. -/
def takeDigits (cs : List Char) : List Char × List Char := cs.span fun c => (digit? c).isSome

/-- A power of ten written after the digits: nothing, or the letter, an optional sign and at least
one digit. -/
def power? (cs : List Char) : Option Int :=
  match cs with
  | [] => some 0
  | c :: rest =>
    if c = 'e' ∨ c = 'E' then
      match rest with
      | '-' :: digits => (natural? digits).map fun n => -(n : Int)
      | '+' :: digits => (natural? digits).map fun n => (n : Int)
      | digits => (natural? digits).map fun n => (n : Int)
    else none

/-- Reads a literal. -/
def parse? (cs : List Char) : Option Decimal :=
  let (whole, rest) := takeDigits cs
  let (part, rest) := match rest with
    | '.' :: after => takeDigits after
    | _ => ([], rest)
  if whole.isEmpty && part.isEmpty then none
  else do
    let power ← power? rest
    let digits ← natural? (whole ++ part)
    some ⟨digits, (whole ++ part).length, power - part.length⟩

/-- Whether the number rounds to a finite one in double precision: it lies below the midpoint
between the greatest such number and the next power of two. -/
def isDouble (d : Decimal) : Bool :=
  let limit := Nat.pow 2 1024 - Nat.pow 2 970
  if d.digits = 0 then true
  else if 400 < d.power then false
  else match d.power with
    | .ofNat k => d.digits * Nat.pow 10 k < limit
    | .negSucc k => d.count ≤ k + 1 || d.digits < limit * Nat.pow 10 (k + 1)

end Decimal

end Gateway.Text
