import Gateway.Text.Interval
import Gateway.Text.Quoted
import Gateway.Text.Split

/-!
# Modem faults

What goes wrong between the daemon and the modem: faults of the transport, told from the texts the
modem's stack gives, and faults of a command, which are what callers see.
-/

namespace Gateway.Modem

/-- A fault of the transport. -/
inductive TransportFault where
  /-- The connection is gone. -/
  | closed (text : String)
  /-- Another operation is in progress. -/
  | busy (text : String)
  /-- The call took too long. -/
  | timeout
  | other (text : String)
deriving DecidableEq, Repr

namespace TransportFault

/-- The fault that a raw text tells of. The first mark that occurs in it decides, whatever the case
of its letters. -/
def classify (text : String) : TransportFault :=
  let small := Text.lowered text.toList
  let mentions (mark : String) : Bool := Text.occursIn mark.toList small
  if mentions "connection closed" then .closed text
  else if mentions "already in progress" then .busy text
  else if mentions "timed out" || mentions "timeout" then .timeout
  else .other text

/-- The name of the kind of fault. -/
def label : TransportFault → String
  | closed _ => "Closed"
  | busy _ => "Busy"
  | timeout => "Timeout"
  | other _ => "Other"

/-- The text of a fault. -/
def message : TransportFault → String
  | closed text => "connection closed: " ++ text
  | busy text => "operation already in progress: " ++ text
  | timeout => "call timed out"
  | other text => text

end TransportFault

/-- A fault of a command. -/
inductive CommandFault where
  /-- The text is no command. -/
  | invalidCommand (text : String)
  | timeout (limit : Interval)
  | transportClosed (text : String)
  | busy (text : String)
  | emptyResponse
  /-- No modem carries data. -/
  | deviceUnavailable (text : String)
  /-- The modem's stack refused the call, or its answer cannot be read. -/
  | rejected (text : String)
deriving DecidableEq, Repr

namespace CommandFault

/-- The name of the kind of fault. -/
def label : CommandFault → String
  | invalidCommand _ => "InvalidCommand"
  | timeout _ => "Timeout"
  | transportClosed _ => "TransportClosed"
  | busy _ => "Busy"
  | emptyResponse => "EmptyResponse"
  | deviceUnavailable _ => "DeviceUnavailable"
  | rejected _ => "Rpc"

/-- The text of a fault. -/
def message : CommandFault → String
  | invalidCommand text => "invalid AT command: " ++ Text.quoted text
  | timeout limit => "modem did not answer within " ++ limit.text
  | transportClosed text => "modem transport closed: " ++ text
  | busy text => "modem busy: " ++ text
  | emptyResponse => "modem returned an empty response"
  | deviceUnavailable text => "no modem available: " ++ text
  | rejected text => "modem call failed: " ++ text

end CommandFault

end Gateway.Modem
