import Gateway.Command.Escape

/-!
# Numbers in arguments

How programs read the numbers that they are given, and how they write them. A whole number may have
a sign, and is octal after a zero and hexadecimal after `0x`; a character behind a quote stands for
its number. A fraction is rounded to as many binary digits as the program works with.
-/

namespace Gateway.Program

/-- Whether a character is blank. -/
def isBlank (c : Char) : Bool := c = ' ' || ('\t' ≤ c && c ≤ '\r')

/-- What is wrong with a number. -/
inductive NumberFault where
  | missing
  | incomplete
  | range
deriving DecidableEq, Repr

/-- The sign of a number, true for a minus, and what follows it. -/
def signOf : List Char → Bool × List Char
  | '-' :: rest => (true, rest)
  | '+' :: rest => (false, rest)
  | cs => (false, cs)

/-- The whole number at the beginning of a text without its sign, and what follows; `none` if there
are no digits. -/
def magnitude? (cs : List Char) : Option (Nat × List Char) :=
  match cs with
  | '0' :: x :: d :: rest =>
    if (x = 'x' || x = 'X') && beginsWithDigit 16 [d] then
      some (digits 16 (rest.length + 1) 0 (d :: rest))
    else some (digits 8 (rest.length + 3) 0 cs)
  | '0' :: _ => some (digits 8 cs.length 0 cs)
  | _ => if beginsWithDigit 10 cs then some (digits 10 cs.length 0 cs) else none

/-- The whole number that an argument is, within 64 bits with or without a sign, and what is wrong
with it. A negative number without a sign is taken from the top. -/
def integer (signed : Bool) (argument : List Char) : Int × Option NumberFault :=
  let read : Int × Option NumberFault :=
    let (negative, rest) := signOf (argument.dropWhile isBlank)
    match magnitude? rest with
    | none => (0, if argument.isEmpty then none else some .missing)
    | some (n, rest) =>
      let fault := if rest.isEmpty then none else some NumberFault.incomplete
      let top : Nat := Nat.pow 2 (if signed then 63 else 64)
      let limit := if negative && signed then top else top - 1
      if limit < n then
        ((if signed then (if negative then -(top : Int) else (top : Int) - 1) else (top : Int) - 1),
          some .range)
      else if negative then
        ((if signed then -(n : Int) else if n = 0 then 0 else (top : Int) - n), fault)
      else ((n : Int), fault)
  match argument with
  | '\'' :: c :: _ | '"' :: c :: _ => ((c.toNat : Int), none)
  | _ => read

/-! ## Fractions -/

/-- A number that is not negative: a fraction. One without end has the denominator zero, and so has
what is no number, which has the numerator zero too. -/
structure Fraction where
  numerator : Nat
  denominator : Nat
deriving DecidableEq, Repr

/-- A quotient rounded to the nearest whole number, to the even one of two. -/
def roundedQuotient (n d : Nat) : Nat :=
  let q := n / d
  let twice := 2 * (n % d)
  if twice < d then q else if d < twice then q + 1 else q + q % 2

/-- The fraction rounded to so many binary digits. -/
def Fraction.rounded (f : Fraction) (bits : Nat) : Fraction :=
  if f.numerator = 0 || f.denominator = 0 then f
  else
    let up := bits + Nat.log2 f.denominator - Nat.log2 f.numerator
    let down := Nat.log2 f.numerator - (bits + Nat.log2 f.denominator)
    let scale := Nat.pow 2 up
    let unit := Nat.pow 2 down
    let rough := f.numerator * scale / (f.denominator * unit)
    -- the rough value has one digit more where the leading digits are such
    let extra := if Nat.pow 2 bits ≤ rough then 2 else 1
    ⟨roundedQuotient (f.numerator * scale) (f.denominator * unit * extra) * unit * extra, scale⟩

/-- The digits at the beginning of a text and what follows. -/
def digitRun (cs : List Char) : List Char × List Char :=
  (cs.takeWhile Char.isDigit, cs.dropWhile Char.isDigit)

/-- An exponent beyond which a number is without end, or nothing, for every program. -/
def exponentLimit : Nat := 20000

/-- The exponent at the beginning of a text behind a letter, and what follows it. -/
def exponentOf (letter : Char) (cs : List Char) : Int × List Char :=
  match cs with
  | c :: rest =>
    if c.toLower = letter then
      let (negative, after) := signOf rest
      let (run, after) := digitRun after
      if run.isEmpty then (0, cs)
      else
        let n := min (digits 10 run.length 0 run).1 exponentLimit
        (if negative then -(n : Int) else n, after)
    else (0, cs)
  | [] => (0, [])

/-- A fraction times a power of a base. -/
def Fraction.scaled (f : Fraction) (base : Nat) (power : Int) : Fraction :=
  ⟨f.numerator * Nat.pow base power.toNat, f.denominator * Nat.pow base (-power).toNat⟩

/-- The fraction at the beginning of a text in a base, whose exponents are behind a letter and count
powers of a number, and what follows it; `none` if there are no digits. -/
def fractionIn? (base : Nat) (letter : Char) (radix place : Nat) (cs : List Char) :
    Option (Fraction × List Char) :=
  let run (cs : List Char) : List Char × List Char :=
    (cs.takeWhile fun c => (digitIn? base c).isSome, cs.dropWhile fun c => (digitIn? base c).isSome)
  let (whole, rest) := run cs
  let (part, rest) := match rest with
    | '.' :: after => run after
    | _ => ([], rest)
  if whole.isEmpty && part.isEmpty then none
  else
    let (exponent, rest) := exponentOf letter rest
    let n := (digits base (whole.length + part.length) 0 (whole ++ part)).1
    some (Fraction.scaled ⟨n, 1⟩ radix (exponent - (place * part.length : Nat)), rest)

/-- The number without a sign at the beginning of a text, and what follows it. -/
def unsigned? (cs : List Char) : Option (Fraction × List Char) :=
  let begins (word : String) : Bool := word.toList.isPrefixOf (cs.map Char.toLower)
  let hexadecimal := match cs with
    | '0' :: x :: rest => if x = 'x' || x = 'X' then fractionIn? 16 'p' 2 4 rest else none
    | _ => none
  if hexadecimal.isSome then hexadecimal
  else if begins "infinity" then some (⟨1, 0⟩, cs.drop 8)
  else if begins "inf" then some (⟨1, 0⟩, cs.drop 3)
  else if begins "nan" then some (⟨0, 0⟩, cs.drop 3)
  else fractionIn? 10 'e' 10 1 cs

/-- The fraction that an argument is, whether it is negative, and what is wrong with it. -/
def fraction (argument : List Char) : Bool × Fraction × Option NumberFault :=
  let (negative, rest) := signOf (argument.dropWhile isBlank)
  match argument with
  | '\'' :: c :: _ | '"' :: c :: _ => (false, ⟨c.toNat, 1⟩, none)
  | _ => match unsigned? rest with
    | none => (false, ⟨0, 1⟩, if argument.isEmpty then none else some .missing)
    | some (value, rest) => (negative, value, if rest.isEmpty then none else some .incomplete)

/-- Decimal digits, at least so many. -/
def paddedDigits (least n : Nat) : List Char :=
  let cs := Nat.toDigits 10 n
  List.replicate (least - cs.length) '0' ++ cs

/-- Digits with a point before so many of the last, and a point in any case if asked for. -/
def pointed (places : Nat) (point : Bool) (cs : List Char) : List Char :=
  let whole := cs.take (cs.length - places)
  whole ++ (if places = 0 && !point then [] else ['.']) ++ cs.drop (cs.length - places)

/-- A fraction with so many decimal places. -/
def Fraction.fixed (f : Fraction) (places : Nat) (point : Bool) : List Char :=
  pointed places point
    (paddedDigits (places + 1) (roundedQuotient (f.numerator * Nat.pow 10 places) f.denominator))

/-- The power of ten of a fraction's first digit. -/
def Fraction.power (f : Fraction) : Int :=
  let length (n : Nat) : Int := ((Nat.toDigits 10 n).length : Int)
  let guess := length f.numerator - length f.denominator
  let one := f.scaled 10 (-guess)
  if one.numerator < one.denominator then guess - 1 else guess

/-- The digits of a fraction as a number with one digit before the point and so many behind it, and
the power of ten that goes with them. -/
def Fraction.scientific (f : Fraction) (places : Nat) : Nat × Int :=
  if f.numerator = 0 then (0, 0)
  else
    let power := f.power
    let digits (power : Int) : Nat :=
      let g := f.scaled 10 ((places : Int) - power)
      roundedQuotient g.numerator g.denominator
    if Nat.pow 10 (places + 1) ≤ digits power then (digits (power + 1), power + 1)
    else (digits power, power)

/-- An exponent as it is written: with a sign and at least two digits. -/
def exponentText (letter : Char) (power : Int) : List Char :=
  letter :: (if power < 0 then '-' else '+') :: paddedDigits 2 power.natAbs

/-- A fraction without the zeros at its end. -/
def trimmedPlaces (cs : List Char) : List Char :=
  if cs.contains '.' then
    ((cs.reverse.dropWhile (· = '0')).dropWhile (· = '.')).reverse
  else cs

/-- A fraction as a letter of a format asks. -/
def Fraction.written (f : Fraction) (letter : Char) (precision : Nat) (point : Bool) : List Char :=
  let mark := if letter.isUpper then 'E' else 'e'
  if f.denominator = 0 then
    let word := if f.numerator = 0 then "nan" else "inf"
    (if letter.isUpper then word.toUpper else word).toList
  else match letter.toLower with
  | 'f' => f.fixed precision point
  | 'e' =>
    let (n, power) := f.scientific precision
    pointed precision point (paddedDigits (precision + 1) n) ++ exponentText mark power
  | _ =>
    let wanted := max 1 precision
    let (n, power) := f.scientific (wanted - 1)
    let trim := if point then id else trimmedPlaces
    if -4 ≤ power ∧ power < wanted then
      trim (f.fixed ((wanted : Int) - 1 - power).toNat point)
    else trim (pointed (wanted - 1) point (paddedDigits wanted n)) ++ exponentText mark power

end Gateway.Program
