import Gateway.Modem.Fault

/-!
# AT commands

A command is a text that begins with AT in any case of letters, once spaces and tabs in front of it
are dropped, with the time its answer may take.
-/

namespace Gateway.Modem

/-- The time that an answer may take unless a caller says otherwise, in milliseconds. -/
def answerLimit : Nat := 8000

/-- A command for the modem. -/
structure AtCommand where
  text : String
  /-- The time its answer may take, in milliseconds. -/
  limit : Nat
deriving DecidableEq, Repr

namespace AtCommand

/-- A text without the spaces and tabs in front of it. -/
def stripped (text : String) : List Char := text.toList.dropWhile fun c => c == ' ' || c == '\t'

/-- Whether a text begins with AT in any case of letters. -/
def addressesModem (cs : List Char) : Bool := Text.sameLetters (cs.take 2) ['A', 'T']

/-- The command that a text holds. -/
def ofText (text : String) : Except CommandFault AtCommand :=
  let body := stripped text
  if addressesModem body then .ok ⟨String.ofList body, answerLimit⟩
  else .error (.invalidCommand (String.ofList body))

/-- The command with another limit. -/
def within (c : AtCommand) (limit : Nat) : AtCommand := { c with limit }

end AtCommand

end Gateway.Modem
