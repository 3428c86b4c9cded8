import Gateway.Modem.Band
import Gateway.Modem.Bus
import Gateway.Modem.LockReport

/-!
# Procedures

What takes several requests to the bus. Others may use the bus between two of them. Locks are
changed only while the radio is off; once it went off, it is always switched on again and the data
connection made anew, whatever else failed.
-/

namespace Gateway.Modem

/-- Requests to the bus and waits, in an order that may hang on the answers. -/
inductive Procedure (α : Type) where
  | done (value : α)
  | request (r : Bus.Request) (next : r.Answer → Procedure α)
  | pause (time : Nat) (next : Procedure α)

namespace Procedure

/-- One procedure after the other. -/
def bind {α β : Type} : Procedure α → (α → Procedure β) → Procedure β
  | done value, f => f value
  | request r next, f => request r fun answer => (next answer).bind f
  | pause time next, f => pause time (next.bind f)

/-- The procedure with its value changed. -/
def map {α β : Type} (f : α → β) (p : Procedure α) : Procedure β := p.bind fun a => done (f a)

/-- Runs the command of a text. -/
def execute (text : String) : Procedure (Except CommandFault String) :=
  request (.command text) done

/-- The wait between two commands that depend on each other. -/
def settleTime : Nat := 300

/-- Runs a command and waits until the modem has settled. -/
def settled (text : String) : Procedure (Except CommandFault String) :=
  request (.command text) fun answer => pause settleTime (done answer)

/-- Runs commands in order up to the first that fails. -/
def runAll : List String → Procedure (Except CommandFault Unit)
  | [] => done (.ok ())
  | text :: rest => (settled text).bind fun
    | .error fault => done (.error fault)
    | .ok _ => runAll rest

/-- Switches the radio off. -/
def radioOff : String := "AT+SFUN=5"

/-- Switches the radio on. -/
def radioOn : String := "AT+SFUN=4"

/-- Makes the data connection anew. -/
def reactivate : String := "AT+CGACT=0,1"

/-- The first fault of three outcomes in order. -/
def firstFault (body : Except CommandFault Unit) (on data : Except CommandFault String) :
    Except CommandFault Unit :=
  match body, on, data with
  | .error fault, _, _ => .error fault
  | .ok (), .error fault, _ => .error fault
  | .ok (), .ok _, .error fault => .error fault
  | .ok (), .ok _, .ok _ => .ok ()

/-- Runs commands while the radio is off. Nothing is run if it cannot be switched off. -/
def withRadioOff (body : List String) : Procedure (Except CommandFault Unit) :=
  (settled radioOff).bind fun
    | .error fault => done (.error fault)
    | .ok _ =>
      (runAll body).bind fun outcome =>
        (settled radioOn).bind fun on =>
          (execute reactivate).bind fun data => done (firstFault outcome on data)

/-! ## Band locks -/

/-- The command that sets the LTE lock. -/
def lteLock (tdd fdd : UInt32) : String :=
  "AT+SPLBAND=1,0," ++ toString tdd.toNat ++ ",0," ++ toString fdd.toNat ++ ",0"

/-- The command that sets the NR lock. -/
def nrLock (tdd fdd : UInt32) : String :=
  "AT+SPLBAND=2," ++ toString fdd.toNat ++ ",0," ++ toString tdd.toNat ++ ",0"

/-- Removes every band lock. -/
def unlockBands : Procedure (Except CommandFault Unit) :=
  withRadioOff [lteLock 0 0, nrLock 0 0]

/-- The commands that restrict the modem to the bands of some masks. -/
def lockCommands (m : BandMasks) : List String :=
  nrLock 0 0
    :: (if m.hasLte then [lteLock m.lteTdd m.lteFdd] else [])
    ++ (if m.hasNr then [nrLock m.nrTdd m.nrFdd] else [])

/-- Restricts the modem to some bands; none at all means no restriction. -/
def lockBands (bands : List Band) : Procedure (Except CommandFault Unit) :=
  if bands.isEmpty then unlockBands else withRadioOff (lockCommands (.ofBands bands))

/-- Asks for the LTE lock. -/
def lteQuery : String := "AT+SPLBAND=0"

/-- Asks for the NR lock. -/
def nrQuery : String := "AT+SPLBAND=3"

/-- The masks that two answers report. -/
def reportedMasks (lte nr : String) : Except CommandFault BandMasks :=
  match LockReport.lte? lte with
  | none => .error (.rejected ("unparsable LTE band response: " ++ lte))
  | some lteLocks =>
    match LockReport.nr? nr with
    | none => .error (.rejected ("unparsable NR band response: " ++ nr))
    | some nrLocks => .ok ⟨lteLocks.tdd, lteLocks.fdd, nrLocks.tdd, nrLocks.fdd⟩

/-- Asks for the band locks. -/
def queryBands : Procedure (Except CommandFault BandMasks) :=
  (settled lteQuery).bind fun
    | .error fault => done (.error fault)
    | .ok lte =>
      (execute nrQuery).bind fun
        | .error fault => done (.error fault)
        | .ok nr => done (reportedMasks lte nr)

/-! ## Cell locks -/

/-- How the modem numbers a technology in cell locks. -/
def cellSelector : Technology → Nat
  | .lte => 12
  | .nr => 16

/-- The command that removes the cell lock of a technology. -/
def cellUnlock (t : Technology) : String :=
  "AT+SPFORCEFRQ=" ++ toString (cellSelector t) ++ ",0"

/-- The command that ties the modem to a cell. -/
def cellLock (t : Technology) (frequency : UInt32) (cell : UInt16) : String :=
  "AT+SPFORCEFRQ=" ++ toString (cellSelector t) ++ ",2," ++ toString frequency.toNat ++ ","
    ++ toString cell.toNat

/-- Ties the modem to one cell, given by its frequency and its number. -/
def lockCell (t : Technology) (frequency : UInt32) (cell : UInt16) :
    Procedure (Except CommandFault Unit) :=
  withRadioOff [cellUnlock .lte, cellUnlock .nr, cellLock t frequency cell]

/-- Removes every cell lock. -/
def unlockCell : Procedure (Except CommandFault Unit) :=
  withRadioOff [cellUnlock .lte, cellUnlock .nr]

end Procedure

end Gateway.Modem
