import Gateway.Battery.Monitor
import Gateway.Config.Setting
import Gateway.Notice

/-!
# The configuration file

Finding, reading and saving the file, whatever the way in which configurations are written down. A
file counts only as a whole: it must be readable, have the known version and be valid. A changed
file is taken over if nothing in it needs a restart, and otherwise not at all. A save goes through a
temporary file that is moved into place.
-/

namespace Gateway

/-- Why a configuration file is not loaded. -/
inductive LoadFault where
  | unreadable (path : String) (fault : FileFault)
  | unparsable (path : String)
  | unsupported (version : UInt8) (path : String)
  | invalid (path : String) (fault : ConfigFault)
deriving DecidableEq, Repr

/-- The text of a fault. -/
def LoadFault.message : LoadFault → String
  | unreadable path fault => "Failed to read config file: " ++ path ++ ": " ++ fault.message
  | unparsable path => "Failed to parse YAML in: " ++ path
  | unsupported version path =>
    "Unsupported config version " ++ toString version.toNat ++ " in file: " ++ path
  | invalid path fault =>
    "Configuration validation failed for: " ++ path ++ ": " ++ fault.message

/-- Why a configuration is not saved. -/
inductive SaveFault where
  | temporary (path : String) (fault : FileFault)
  | move (path : String) (fault : FileFault)
deriving DecidableEq, Repr

/-- The text of a fault. -/
def SaveFault.message : SaveFault → String
  | temporary path fault =>
    "Failed to write temporary config to " ++ path ++ ": " ++ fault.message
  | move path fault => "Failed to move config to " ++ path ++ ": " ++ fault.message

/-- A way to write configurations down. -/
class Config.Format where
  /-- The configuration that a text describes. -/
  parse? : List Char → Option Config
  /-- The text of a configuration. -/
  text : Config → String
  /-- The position of a charger's switch describes none. -/
  parse?_switchValue : ∀ charge, parse? (Battery.switchValue charge).toList = none

/-- Reads a configuration file. -/
def Config.Format.read (format : Format) (fs : Files) (path : String) : Except LoadFault Config :=
  match fs.readText path with
  | .error fault => .error (.unreadable path fault)
  | .ok text =>
    match format.parse? text with
    | none => .error (.unparsable path)
    | some c =>
      if c.version ≠ 1 then .error (.unsupported c.version path)
      else match c.validate with
        | .error fault => .error (.invalid path fault)
        | .ok () => .ok c

/-- The configuration in use, the file it belongs to and how it is written there. -/
structure ConfigStore where
  config : Config
  path : String
  [format : Config.Format]

namespace ConfigStore

/-- The file used unless another is named. -/
def standardPath : String := "/etc/gatewayd/config.yml"

/-- The file to load: the one asked for, else the one the environment names, else the standard one
if it is there. -/
def locate (fs : Files) (asked named : Option String) : Option String :=
  asked <|> named <|> (if fs.has standardPath then some standardPath else none)

/-- The configuration with another charge window. -/
def withCharge (s : ConfigStore) (charge : Battery.ChargePolicy) : ConfigStore :=
  { s with config := { s.config with battery := { s.config.battery with charge } } }

/-- Reads the file again. A change in place is taken over; one that needs a restart is only
reported. -/
def reload (s : ConfigStore) (fs : Files) : Except LoadFault (ConfigChange × ConfigStore) :=
  match s.format.read fs s.path with
  | .error fault => .error fault
  | .ok new =>
    let sections := s.config.coldDifferences new
    if sections.isEmpty then .ok (.hot, { s with config := new })
    else .ok (.cold sections, s)

/-- The text of the configuration in use. -/
def text (s : ConfigStore) : String := s.format.text s.config

/-- The path of the temporary file of a save: that of the file with its ending replaced. -/
def temporaryPath (path : String) : String := Path.withEnding path "yml.tmp"

/-- Saves the configuration. -/
def save (s : ConfigStore) (fs : Files) : Files × Except SaveFault Unit :=
  let temporary := temporaryPath s.path
  match fs.writeText temporary s.text with
  | .error fault => (fs, .error (.temporary temporary fault))
  | .ok written =>
    match written.rename temporary s.path with
    | .error fault => (written, .error (.move s.path fault))
    | .ok moved => (moved, .ok ())

end ConfigStore

/-- Loads the configuration; without a file the built-in values are used. -/
def Config.Format.load (format : Format) (fs : Files) (asked named : Option String) :
    Except LoadFault ConfigStore :=
  match ConfigStore.locate fs asked named with
  | none => .ok ⟨.builtIn, ConfigStore.standardPath⟩
  | some path => (format.read fs path).map (⟨·, path⟩)

end Gateway
