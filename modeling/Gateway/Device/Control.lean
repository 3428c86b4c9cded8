import Gateway.Control.Method
import Gateway.Device.Step

/-!
# Calls of the control interface

What each call does to the device. A call that needs the modem takes its time; all others are done
at once. Commands to the LED loop are only queued, so they succeed whenever the loop takes them.
-/

namespace Gateway.Device

open Control

/-- What a call comes to: an answer at once, or a call to the modem whose outcome is the answer. -/
inductive Answering where
  | done (device : Device) (answer : Except Fault Value)
  | modem (call : Modem.Call) (answer : Modem.CallValue → Value)

/-- The error of a call to the modem. -/
def modemFault (fault : Modem.CommandFault) : Fault := .failed fault.message

/-- Queues a command to the LED loop. -/
def commandLoop (d : Device) (c : Loop.Command) : Device × Except Fault Value :=
  match d.loop.send? (.command c) with
  | some loop => ({ d with loop }, .ok .nothing)
  | none => (d, .error (.failed "LED loop is not running"))

/-- Asks for the access point or against it. Whether it is enabled stays as the loop has it. -/
def setWifiRequested (d : Device) (requested : Bool) : Device × Except Fault Value :=
  d.commandLoop (.setWifiPolicy { d.loop.state.wifiPolicy with apRequested := requested })

/-- Puts a charge window in force and into the configuration, and saves it. -/
def setChargePolicy (d : Device) (policy : Battery.ChargePolicy) :
    Device × Except Fault Value :=
  match d.monitor.setPolicy policy with
  | .error fault => (d, .error (.invalidArguments fault.message))
  | .ok monitor =>
    let d := { d with monitor }.enforceWindow
    let (d, saved) := { d with store := d.store.withCharge policy }.save
    match saved with
    | .ok () => (d, .ok .nothing)
    | .error fault => (d, .error (.failed fault.message))

/-- Moves the charger's switch by hand. -/
def setCharging (d : Device) (enable : Bool) : Device × Except Fault Value :=
  match Battery.setSwitch d.files d.monitor.switchFile enable with
  | .ok files => ({ d with files }, .ok .nothing)
  | .error fault => (d, .error (.failed fault.message))

/-- The value of a property. -/
def property (d : Device) : String → Except Fault Value
  | "LedEnabled" => .ok (.flag d.loop.state.ledEnabled)
  | "Version" => .ok (.text d.version)
  | name => .error (.unknownProperty name)

/-- An answer that needs no modem. -/
def answered (r : Device × Except Fault Value) : Answering := .done r.1 r.2

/-- An answer that changes nothing. -/
def told (d : Device) (answer : Except Fault Value) : Answering := .done d answer

/-- What an outcome without a value is answered with. -/
def nothing (_ : Modem.CallValue) : Value := .nothing

/-- The text of a command's outcome. -/
def answerText : Modem.CallValue → Value
  | .text s => .text s
  | _ => .nothing

/-- The bands of a query's outcome. -/
def answerBands : Modem.CallValue → Value
  | .masks m => .text (bandsJson m)
  | _ => .nothing

/-- What a call comes to. -/
def answer (d : Device) : Method → Answering
  | .executeAt command => .modem (.command command) answerText
  | .setLedMode channel mode =>
    match channel? channel, mode? mode with
    | .error fault, _ => d.told (.error fault)
    | .ok _, .error fault => d.told (.error fault)
    | .ok c, .ok m => answered (d.commandLoop (.setMode c m))
  | .setLedBrightness channel brightness =>
    match channel? channel with
    | .error fault => d.told (.error fault)
    | .ok c => answered (d.commandLoop (.setBrightness c brightness))
  | .allLedsOff => answered (d.commandLoop .allOff)
  | .refreshLeds => answered (d.commandLoop .refresh)
  | .setWifiRequested requested => answered (d.setWifiRequested requested)
  | .ledSnapshot => d.told (.ok (.text d.loop.state.snapshotJson))
  | .batteryStatus =>
    let r := d.monitor.current d.files
    d.told (.ok (.battery (r.capacity.getD 0) r.isCharging))
  | .batteryInfo => d.told (.ok (.text (d.monitor.current d.files).json))
  | .setCharging enable => answered (d.setCharging enable)
  | .setChargePolicy enabled start stop => answered (d.setChargePolicy ⟨enabled, start, stop⟩)
  | .lockBands names =>
    match bands? names with
    | .error fault => d.told (.error fault)
    | .ok bands => .modem (.lockBands bands) nothing
  | .unlockBands => .modem .unlockBands nothing
  | .queryBands => .modem .queryBands answerBands
  | .lockCell technology frequency cell =>
    match technology? technology with
    | .error fault => d.told (.error fault)
    | .ok t => .modem (.lockCell t frequency cell) nothing
  | .unlockCell => .modem .unlockCell nothing
  | .get name => d.told (d.property name)
  | .unreadable => d.told (.error .unreadable)

/-- Makes a call and waits for its answer while there is anything to wait for. -/
def call (d : Device) (m : Method) : Device × Option (Except Fault Value) :=
  match d.answer m with
  | .done d answer => (d.settle, some answer)
  | .modem call answer =>
    let caller := d.nextCaller
    let d := { d with nextCaller := caller + 1 }.callModem caller call
    let d := d.runUntil (fun d => (d.exchange.outcome? caller).isSome) none stepLimit
    match d.takeOutcome? caller with
    | some (.ok value, d) => (d, some (.ok (answer value)))
    | some (.error fault, d) => (d, some (.error (modemFault fault)))
    | none => (d, none)

end Gateway.Device
