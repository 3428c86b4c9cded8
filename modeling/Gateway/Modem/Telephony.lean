import Gateway.MessageBus.Bus
import Gateway.Modem.Endpoint
import Gateway.Modem.Fault
import Gateway.Modem.Script

/-!
# The telephony service

The way to the modem: the telephony service on the system bus. The connection is made with the first
call and kept until it is dropped; one that the bus has left behind stays useless until then. Every
call fails with a fault of the transport.
-/

namespace Gateway.Modem

open MessageBus

/-- The link to the telephony service. -/
structure Telephony where
  bus : Bus
  connection : Option Connection
  /-- The endpoint used if the service names none. -/
  fallback : Endpoint
deriving DecidableEq, Repr

/-- The fault of a link that no bus can be reached through. -/
def unreachable : TransportFault := .classify "Failed to connect to address"

/-- What a call comes to. -/
abbrev Outcome (α : Type) := Telephony × Except TransportFault α

namespace Telephony

/-- A link without a connection. -/
def new (bus : Bus) (fallback : Endpoint) : Telephony := ⟨bus, none, fallback⟩

/-- The link with its connection: the one it has, or a new one. -/
def connect? (t : Telephony) : Option (Connection × Telephony) :=
  match t.connection with
  | some c => some (c, t)
  | none => t.bus.connect?.map fun (c, bus) => (c, { t with bus, connection := some c })

/-- A call whose reply has to be read. A reply that never comes counts when the time is up. -/
def call {α : Type} (t : Telephony) (name event : String) (limit : Nat)
    (read : MessageBus.Reply → Option (Except String α)) : Outcome α :=
  match t.connect? with
  | none => (t, .error unreachable)
  | some (c, t) =>
    if !t.bus.reaches c then (t, .error (.closed ""))
    else
      let (reply, bus) := t.bus.call name event unprepared
      ({ t with bus }, match read reply with
        | none => .error .timeout
        | some (.error text) => .error (.classify text)
        | some (.ok a) => if limit = 0 then .error .timeout else .ok a)

/-- How long the service may take unless said otherwise, in milliseconds. -/
def usualLimit : Nat := 8000

/-- Asks for the endpoint that carries data. Whatever goes wrong, the fallback serves. -/
def resolve (t : Telephony) : Outcome Endpoint :=
  let (t, path) := t.call "GetDataCard" "/ GetDataCard" usualLimit
    MessageBus.Reply.path?
  (t, .ok ((path.map Endpoint.mk).toOption.getD t.fallback))

/-- Sends a command. -/
def send (t : Telephony) (e : Endpoint) (text : String) (limit : Nat) : Outcome String :=
  t.call "SendAtcmd" (e.path ++ " SendAtcmd " ++ text) limit MessageBus.Reply.text?

/-- Asks for one property of an interface and reads its value. -/
def property {α : Type} (t : Telephony) (e : Endpoint) (interface name : String)
    (read : Variant → Option α) : Outcome α :=
  let (t, members) := t.call interface (e.path ++ " " ++ interface ++ " GetProperties") usualLimit
    MessageBus.Reply.properties?
  (t, members.bind fun members =>
    match members.lookup name with
    | none => .error (.other (name ++ " not reported"))
    | some v =>
      match read v with
      | some a => .ok a
      | none => .error (.other ("unexpected " ++ name ++ " value " ++ v.shown)))

/-- A strength, which is a byte. -/
def strengthOf? : Variant → Option UInt8
  | .number .byte n => some (UInt8.ofNat n.toNat)
  | _ => none

/-- A technology, which is a text. -/
def technologyOf? : Variant → Option String
  | .text s => some s
  | _ => none

/-- Asks for the strength of the signal. -/
def strength (t : Telephony) (e : Endpoint) : Outcome UInt8 :=
  t.property e "org.ofono.NetworkRegistration" "Strength" strengthOf?

/-- Asks for the technology that is preferred. -/
def technology (t : Telephony) (e : Endpoint) : Outcome String :=
  t.property e "org.ofono.RadioSettings" "TechnologyPreference" technologyOf?

/-- Drops the connection; the next call makes a new one. -/
def reconnect (t : Telephony) : Outcome Unit := ({ t with connection := none }, .ok ())

/-- How the service behaves where there is no bus: the fallback is all it gives. -/
def withoutBus (fallback : Endpoint) : Script where
  resolve := [⟨.value fallback.path, 0, true⟩]
  send := [⟨.fault unreachable, 0, true⟩]
  reconnect := [⟨.value (), 0, true⟩]
  strength := [⟨.fault unreachable, 0, true⟩]
  technology := [⟨.fault unreachable, 0, true⟩]
  onCommand := []

end Telephony

end Gateway.Modem
