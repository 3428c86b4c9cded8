/-!
# Input events

Input devices are read as fixed-size records: a time stamp of 16 bytes, then the type, the code and
the value, each with its lowest byte first. Only presses and releases of one key are of interest.
-/

namespace Gateway.PowerKey

/-- The number of bytes of a record. -/
def recordSize : Nat := 24

/-- The type of records about keys. -/
def keyType : Nat := 1

/-- The code of the power key. -/
def powerKeyCode : Nat := 116

/-- A key goes down or comes up. -/
inductive Transition where
  | down
  | up
deriving DecidableEq, Repr

/-- The name of a transition. -/
def Transition.label : Transition → String
  | down => "Down"
  | up => "Up"

/-- What a record says, its time stamp left out. -/
structure InputEvent where
  kind : Nat
  code : Nat
  value : Int
deriving DecidableEq, Repr

namespace InputEvent

/-- A number of two bytes, the lowest first. -/
def word (low high : UInt8) : Nat := low.toNat + 256 * high.toNat

/-- A signed number of four bytes, the lowest first. -/
def signedWord (a b c d : UInt8) : Int :=
  let n := word a b + 65536 * word c d
  if n < Nat.pow 2 31 then n else (n : Int) - Nat.pow 2 32

/-- The event of the record at the front; a shorter sequence of bytes holds none. -/
def parse? (bytes : List UInt8) : Option InputEvent :=
  match bytes.drop 16 with
  | k₀ :: k₁ :: c₀ :: c₁ :: v₀ :: v₁ :: v₂ :: v₃ :: _ =>
    some ⟨word k₀ k₁, word c₀ c₁, signedWord v₀ v₁ v₂ v₃⟩
  | _ => none

/-- The press or release of the watched key; other keys and repetitions are none. -/
def transition? (ev : InputEvent) (keyCode : Nat) : Option Transition :=
  if ev.kind ≠ keyType ∨ ev.code ≠ keyCode then none
  else if ev.value = 1 then some .down
  else if ev.value = 0 then some .up
  else none

end InputEvent

end Gateway.PowerKey
