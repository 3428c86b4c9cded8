import Gateway.Text.Blank
import Gateway.Text.Numeral
import Gateway.Text.Split

/-!
# Band lock reports

The line in which the modem reports its band locks: a mark and whole numbers between commas. The
first such line of an answer counts, and every number in it has to be readable.
-/

namespace Gateway.Modem

/-- The TDD and the FDD mask of one technology. -/
structure LockPair where
  tdd : UInt32
  fdd : UInt32
deriving DecidableEq, Repr

namespace LockReport

/-- What a lock line begins with. -/
def mark : List Char := "+SPLBAND:".toList

/-- The first lock line of an answer, without the blanks around it. -/
def line? (answer : List Char) : Option (List Char) :=
  ((Text.lines answer).map Text.trim).find? mark.isPrefixOf

/-- One number of a lock line. -/
def number? (field : List Char) : Option UInt32 :=
  (Text.unsigned? (UInt32.size - 1) (Text.trim field)).map UInt32.ofNat

/-- The numbers of the lock line. -/
def numbers? (answer : List Char) : Option (List UInt32) :=
  (line? answer).bind fun line =>
    (Text.fields (· == ',') (Text.dropRepeated mark line)).mapM number?

/-- The LTE locks: the second number is the TDD mask and the fourth the FDD mask. -/
def lte? (answer : String) : Option LockPair :=
  match numbers? answer.toList with
  | some (_ :: tdd :: _ :: fdd :: _) => some ⟨tdd, fdd⟩
  | _ => none

/-- The NR locks: the first number is the FDD mask and the third the TDD mask. -/
def nr? (answer : String) : Option LockPair :=
  match numbers? answer.toList with
  | some (fdd :: _ :: tdd :: _) => some ⟨tdd, fdd⟩
  | _ => none

end LockReport

end Gateway.Modem
