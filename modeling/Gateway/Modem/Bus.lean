import Gateway.Modem.AtCommand
import Gateway.Modem.Dialogue
import Gateway.Network
import Gateway.Text.Blank

/-!
# The command bus

The bus remembers the endpoint it is bound to and runs one dialogue at a time. A command is sent
again once: after the connection was closed, on a new connection and a new binding, or after the
modem was busy, a little later. A failed network query drops the binding, so the next one looks for
the modem again.
-/

namespace Gateway.Modem.Bus

/-- The wait before a command is sent again to a busy modem. -/
def busyPause : Nat := 500

/-- How often a command is sent again. -/
def retries : Nat := 1

/-- Goes on with the endpoint that the bus is bound to, looking for one first if it has to. -/
def withEndpoint {α : Type} (binding : Option Endpoint)
    (next : Endpoint → Dialogue (Except CommandFault α)) : Dialogue (Except CommandFault α) :=
  match binding with
  | some endpoint => next endpoint
  | none => .ask .resolve fun
    | .error fault => .done (.error (.deviceUnavailable fault.message))
    | .ok endpoint => .rebind (some endpoint) (next endpoint)

/-- The answer of a command: the text without the blanks around it, which may not be empty. -/
def accepted (answer : String) : Except CommandFault String :=
  let text := Text.trimmed answer
  if text = "" then .error .emptyResponse else .ok text

/-- Sends a command, and sends it again so many times at most. -/
def attempt (command : AtCommand) : Nat → Option Endpoint → Dialogue (Except CommandFault String)
  | left, binding =>
    withEndpoint binding fun endpoint =>
      .ask (.send endpoint command.text command.limit) fun
        | .lapsed | .answered (.error .timeout) =>
          .done (.error (.timeout (.ofMillis command.limit)))
        | .answered (.ok answer) => .done (accepted answer)
        | .answered (.error (.other text)) => .done (.error (.rejected text))
        | .answered (.error (.closed text)) =>
          match left with
          | 0 => .rebind none (.done (.error (.transportClosed text)))
          | left + 1 =>
            .rebind none (.ask .reconnect fun
              | .error fault => .done (.error (.transportClosed fault.message))
              | .ok () => attempt command left none)
        | .answered (.error (.busy text)) =>
          match left with
          | 0 => .done (.error (.busy text))
          | left + 1 => .ask (.pause busyPause) fun () => attempt command left (some endpoint)

/-- Runs a command. -/
def execute (command : AtCommand) (binding : Option Endpoint) :
    Dialogue (Except CommandFault String) :=
  attempt command retries binding

/-- What a fault of the transport means to a network query. -/
def queryFault (limit : Nat) : TransportFault → CommandFault
  | .closed text => .transportClosed text
  | .busy text => .busy text
  | .timeout => .timeout (.ofMillis limit)
  | .other text => .rejected text

/-- A network query that failed: the binding is dropped. -/
def queryFailed {α : Type} (fault : CommandFault) : Dialogue (Except CommandFault α) :=
  .rebind none (.done (.error fault))

/-- Reads the signal strength and then the technology, both within one limit. -/
def query (limit : Nat) (binding : Option Endpoint) :
    Dialogue (Except CommandFault Network.Reading) :=
  withEndpoint binding fun endpoint =>
    .ask (.strength endpoint limit) fun
      | (.lapsed, _) => queryFailed (.timeout (.ofMillis limit))
      | (.answered (.error fault), _) => queryFailed (queryFault limit fault)
      | (.answered (.ok strength), spent) =>
        .ask (.technology endpoint (limit - spent)) fun
          | .lapsed => queryFailed (.timeout (.ofMillis limit))
          | .answered (.error fault) => queryFailed (queryFault limit fault)
          | .answered (.ok technology) => .done (.ok ⟨strength, technology⟩)

/-! ## Requests -/

/-- A request to the bus. -/
inductive Request where
  /-- Runs the command that a text holds, within the bus's own limit. -/
  | command (text : String)
  /-- Runs the command that a text holds, within the limit given. -/
  | limited (text : String) (limit : Nat)
  /-- Asks for the network. -/
  | network
deriving DecidableEq, Repr

/-- What a request is answered with. -/
def Request.Answer : Request → Type
  | command _ => Except CommandFault String
  | limited _ _ => Except CommandFault String
  | network => Except CommandFault Network.Reading

/-- What a request comes to: an answer at once, or a dialogue that needs the modem. -/
inductive Work (α : Type) where
  | answer (value : α)
  | dialogue (start : Option Endpoint → Dialogue α)

/-- What running the command of a text comes to. A text that holds no command never reaches the
modem. -/
def commandWork (text : String) (limit : Nat) : Work (Except CommandFault String) :=
  match AtCommand.ofText text with
  | .error fault => .answer (.error fault)
  | .ok command => .dialogue (execute (command.within limit))

/-- What a request comes to on a bus with a limit of its own. -/
def Request.work (busLimit : Nat) : (r : Request) → Work r.Answer
  | command text => commandWork text busLimit
  | limited text limit => commandWork text limit
  | network => .dialogue (query busLimit)

end Gateway.Modem.Bus
