/-!
# Whole numbers in text

Decimal literals as configuration files, kernel files and modem answers write them: digits with an
optional sign, accepted only when the value lies in the range asked for.
-/

namespace Gateway.Text

/-- The value of an ASCII digit. -/
def digit? (c : Char) : Option Nat :=
  if '0' ≤ c ∧ c ≤ '9' then some (c.toNat - '0'.toNat) else none

/-- The value of a run of digits after the value `acc` of those before it. -/
def digitsFrom (acc : Nat) : List Char → Option Nat
  | [] => some acc
  | c :: rest => (digit? c).bind fun d => digitsFrom (10 * acc + d) rest

/-- The value of a non-empty run of digits. -/
def natural? (cs : List Char) : Option Nat :=
  if cs.isEmpty then none else digitsFrom 0 cs

/-- A literal of at most `max`: an optional plus sign and digits. -/
def unsigned? (max : Nat) (cs : List Char) : Option Nat :=
  let digits := match cs with
    | '+' :: rest => rest
    | _ => cs
  (natural? digits).filter (· ≤ max)

/-- A literal from `-(max + 1)` to `max`: an optional sign and digits. -/
def signed? (max : Nat) (cs : List Char) : Option Int :=
  match cs with
  | '-' :: rest => ((natural? rest).filter (· ≤ max + 1)).map fun (n : Nat) => -(n : Int)
  | _ => (unsigned? max cs).map fun (n : Nat) => (n : Int)

end Gateway.Text
