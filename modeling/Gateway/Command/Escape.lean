import Gateway.Command.Raw

/-!
# Escapes in command output

How `echo` and `printf` write bytes that a command line cannot hold: a backslash with a letter, or
with the digits of a byte.
-/

namespace Gateway.Program

/-- Which escapes are known. -/
structure EscapeRules where
  /-- Whether a zero may stand before the octal digits. -/
  leadingZero : Bool
  /-- Whether a byte may be given in hexadecimal digits. -/
  hexadecimal : Bool
  /-- Whether an escaped double quote is one. -/
  quote : Bool
  /-- Whether the output can be ended. -/
  ends : Bool
  /-- Whether characters may be given by their numbers, and digits have to follow where they are
  announced. -/
  strict : Bool
deriving DecidableEq, Repr

/-- The escapes of a format. -/
def formatRules : EscapeRules := ⟨false, true, true, true, true⟩

/-- The escapes of a text to be written. -/
def textRules : EscapeRules := ⟨true, true, false, true, false⟩

/-- What a backslash and the text behind it come to. -/
inductive Escaped where
  | bytes (cs : List Char)
  /-- The output ends here. -/
  | stop
  /-- Digits are missing, or there is no character of their number. -/
  | wrong
deriving DecidableEq, Repr

/-- How the output of a text ends. -/
inductive Ending where
  | goesOn
  | stopped
  | broken
deriving DecidableEq, Repr

/-- The value of a digit in a base up to sixteen. -/
def digitIn? (base : Nat) (c : Char) : Option Nat :=
  let value :=
    if c.isDigit then some (c.toNat - '0'.toNat)
    else if 'a' ≤ c ∧ c ≤ 'f' then some (c.toNat - 'a'.toNat + 10)
    else if 'A' ≤ c ∧ c ≤ 'F' then some (c.toNat - 'A'.toNat + 10)
    else none
  value.filter (· < base)

/-- The value of so many digits at most after the value `acc` of those before, and what follows. -/
def digits (base : Nat) : Nat → Nat → List Char → Nat × List Char
  | 0, acc, cs => (acc, cs)
  | _ + 1, acc, [] => (acc, [])
  | most + 1, acc, c :: rest =>
    match digitIn? base c with
    | some d => digits base most (acc * base + d) rest
    | none => (acc, c :: rest)

/-- The byte of a letter after a backslash. -/
def letterByte? : Char → Option Char
  | 'a' => some '\x07'
  | 'b' => some '\x08'
  | 'e' => some '\x1b'
  | 'f' => some '\x0c'
  | 'n' => some '\n'
  | 'r' => some '\r'
  | 't' => some '\t'
  | 'v' => some '\x0b'
  | '\\' => some '\\'
  | _ => none

/-- Whether a text begins with a digit of a base. -/
def beginsWithDigit (base : Nat) (cs : List Char) : Bool :=
  cs.head?.any fun c => (digitIn? base c).isSome

/-- The character whose number has so many digits, all of which must be there. Only those of seven
bits are written as themselves, the others by their numbers. -/
def numbered (letter : Char) (most : Nat) (cs : List Char) : Escaped × List Char :=
  let (n, rest) := digits 16 most 0 cs
  if rest.length + most ≠ cs.length || (0xD800 ≤ n && n ≤ 0xDFFF) then (.wrong, rest)
  else if n < 128 then (.bytes [Char.ofNat n], rest)
  else
    let written := (Nat.toDigits 16 n).map Char.toUpper
    let (letter, width) := if n ≤ 0xFFFF then ('u', 4) else (letter, 8)
    (.bytes ('\\' :: letter :: List.replicate (width - written.length) '0' ++ written), rest)

/-- What the text after a backslash stands for, and what follows. An unknown escape stands for
itself. -/
def EscapeRules.escape (r : EscapeRules) : List Char → Escaped × List Char
  | [] => (.bytes ['\\'], [])
  | c :: rest =>
    let number (base most : Nat) (cs : List Char) : Escaped × List Char :=
      let (n, rest) := digits base most 0 cs
      (.bytes [Char.ofNat (n % 256)], rest)
    if c = 'c' ∧ r.ends then (.stop, rest)
    else match letterByte? c with
      | some b => (.bytes [b], rest)
      | none =>
        if c = '"' ∧ r.quote then (.bytes [c], rest)
        else if c = '0' ∧ r.leadingZero then number 8 3 rest
        else if beginsWithDigit 8 [c] then number 8 3 (c :: rest)
        else if c = 'x' ∧ r.hexadecimal ∧ beginsWithDigit 16 rest then number 16 2 rest
        else if c = 'x' ∧ r.strict then (.wrong, rest)
        else if c = 'u' ∧ r.strict then numbered c 4 rest
        else if c = 'U' ∧ r.strict then numbered c 8 rest
        else (.bytes ['\\', c], rest)

/-- A text with its escapes replaced, and how its output ends. The number bounds the length of the
text. -/
def EscapeRules.unescape (r : EscapeRules) : Nat → List Char → List Char × Ending
  | 0, _ => ([], .goesOn)
  | _ + 1, [] => ([], .goesOn)
  | fuel + 1, '\\' :: rest =>
    match r.escape rest with
    | (.stop, _) => ([], .stopped)
    | (.wrong, _) => ([], .broken)
    | (.bytes cs, rest) =>
      let (more, ending) := r.unescape fuel rest
      (cs ++ more, ending)
  | fuel + 1, c :: rest =>
    let (more, ending) := r.unescape fuel rest
    (c :: more, ending)

/-- A whole text with its escapes replaced, and how its output ends. -/
def EscapeRules.replaced (r : EscapeRules) (s : String) : List Char × Ending :=
  r.unescape s.length s.toList

end Gateway.Program
