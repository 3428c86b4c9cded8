import Gateway.Config.Document
import Gateway.Device.Lifecycle
import Gateway.Led.Attributes
import Gateway.Modem.Telephony

/-!
# The daemon

The device on real files: its configuration is a document, its LEDs are attribute files, and there
is no message bus to reach the modem or clients through. It starts only with a valid configuration.
-/

namespace Gateway

/-- Why the daemon does not run. -/
inductive DaemonFault where
  /-- The configuration was not loaded. -/
  | noConfig
  | invalid (fault : ConfigFault)
  | startFailed (text : String)
deriving DecidableEq, Repr

/-- The text of a fault. -/
def DaemonFault.message : DaemonFault → String
  | noConfig => "Configuration manager is required"
  | invalid fault => "Invalid configuration: " ++ fault.message
  | startFailed text => text

/-- Loads the configuration of the daemon. -/
def ConfigStore.load (fs : Files) (asked named : Option String) : Except LoadFault ConfigStore :=
  Config.yaml.load fs asked named

namespace Daemon

/-- The directory of the LEDs. -/
def ledRoot (d : Device) : String := d.store.config.leds.root

/-- The parts of a device on real files. -/
def parts (files : Files) (store : ConfigStore) (runner : Runner) (version : String) :
    Device.Parts where
  files := files
  store := store
  output := Led.outputOn files store.config.leds.root
  modem := Modem.Telephony.withoutBus ⟨store.config.modem.defaultEndpoint⟩
  runner := runner
  bus := .absent
  kernelEvents := false
  version := version

/-- Brings the attribute files up to what the LEDs were asked for. -/
def writeLeds (d : Device) : Device :=
  let ((writes, claims), output) := d.table.output.drain
  { d with files := Led.afterAll d.files (ledRoot d) claims writes }.withTable
    { d.table with output }

/-- Starts the device, its services and its main loop. -/
def start (p : Device.Parts) : Except DaemonFault Device :=
  match p.store.config.validate with
  | .error fault => .error (.invalid fault)
  | .ok () =>
    let d := Device.new p
    match d.startServices d.services with
    | (_, .error text) => .error (.startFailed text)
    | (d, .ok ()) => .ok (writeLeds d.enterMain.settle)

/-- The device some time later. -/
def run (d : Device) (time : Nat) : Device := writeLeds (d.advanceTo (d.now + time))

/-- The device after it was told to end. -/
def terminate (d : Device) : Device := writeLeds d.leaveMain.settle

/-! ## What can be seen from outside -/

/-- What the attribute files say: for every channel who drives it and its value, and the text of the
charger's switch. -/
structure Sample where
  leds : List (String × Option String × Option String)
  stopCharge : Option String
deriving DecidableEq, Repr

/-- The text of a file, if it can be read. -/
def fileText (files : Files) (path : String) : Option String :=
  (files.readText path).toOption.map String.ofList

/-- What the files of a device below a directory say. -/
def sample (directory : String) (d : Device) : Sample where
  leds := Led.Channel.all.map fun c =>
    let text (file : String) :=
      fileText d.files (Led.attributePath (Path.join directory "leds") c file)
    (c.name, text "trigger", text "brightness")
  stopCharge := fileText d.files (Path.join directory "stop_charge")

/-- The life of a daemon as it is seen from outside: samples taken on the way and in the end, the
services it ran, and what was noted of its shutdown command. -/
structure Life where
  samples : List Sample
  result : Except DaemonFault Unit
  services : List Service
  after : Sample
  outcome : List String

/-- Runs a daemon for some stretches of time, each followed by a sample, and ends it. -/
def live (p : Device.Parts) (directory : String) (stretches : List Nat) : Life :=
  match start p with
  | .error fault => ⟨[], .error fault, [], sample directory (Device.bare p), []⟩
  | .ok d =>
    let (d, samples) := stretches.foldl (fun (d, samples) time =>
      let d := run d time
      (d, samples ++ [sample directory d])) (d, [])
    let d := terminate d
    ⟨samples, .ok (), d.services, sample directory d, d.notes.reverse⟩

end Daemon

end Gateway
