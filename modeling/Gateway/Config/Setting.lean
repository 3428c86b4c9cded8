import Gateway.Config.Basic
import Gateway.Plain

/-!
# Settings

Every value of the configuration is a setting with a dotted name and a kind. Changing one value,
comparing two configurations and writing them down all go through the table of settings, so they
agree on what the settings are.
-/

namespace Gateway

/-- What values a setting takes. -/
inductive Kind where
  /-- A whole number of at most `max`. -/
  | number (max : Nat)
  | flag
  | text
  | path
  | texts
  | paths
  /-- One of these names. -/
  | choice (names : List String)
deriving DecidableEq, Repr

namespace Kind

/-- Whether a setting of this kind takes a value. -/
def accepts : Kind → PlainValue → Bool
  | .number max, .number n => n ≤ max
  | .flag, .flag _ => true
  | .text, .text _ | .path, .text _ => true
  | .texts, .texts _ | .paths, .texts _ => true
  | .choice names, .text s => names.contains s
  | _, _ => false

/-- The value that a tree of plain values stands for, if a setting of this kind takes it. -/
def ofPlain? (kind : Kind) (t : PlainTree) : Option PlainValue :=
  match kind, t with
  | .texts, .list items | .paths, .list items => (items.mapM PlainTree.text?).map .texts
  | .choice names, .map [(name, .nothing)] =>
    if names.contains name then some (.text name) else none
  | _, .leaf v => if kind.accepts v then some v else none
  | _, _ => none

/-- A value as a tree of plain values. -/
def plain : PlainValue → PlainTree
  | .texts items => .list (items.map fun s => .leaf (.text s))
  | v => .leaf v

/-- The names that a path is made of: a dot counts only in front. A path from the root begins with
the empty name. -/
def pathNames (path : String) : List String :=
  match path.splitOn "/" with
  | [] | [""] => []
  | first :: rest => first :: rest.filter fun name => name ≠ "" ∧ name ≠ "."

/-- Whether two values mean the same: paths do if they are made of the same names. -/
def same (kind : Kind) (a b : PlainValue) : Bool :=
  match kind, a, b with
  | .path, .text s, .text t => pathNames s == pathNames t
  | .paths, .texts xs, .texts ys => xs.map pathNames == ys.map pathNames
  | _, _, _ => a == b

end Kind

/-- A value of the configuration. -/
structure Setting where
  /-- The sections that lead to it, from the outside in. -/
  sections : List String
  name : String
  kind : Kind
  /-- Whether a change takes effect without a restart. -/
  hot : Bool
  get : Config → PlainValue
  /-- Puts a value that the kind accepts. -/
  put : PlainValue → Config → Config

namespace Setting

/-- The dotted name. -/
def label (s : Setting) : String := ".".intercalate (s.sections ++ [s.name])

/-- The outermost section. -/
def home? (s : Setting) : Option String := s.sections.head?

/-- A setting that is a whole number of 64 bits. -/
def wide (sections : List String) (name : String) (get : Config → UInt64)
    (put : UInt64 → Config → Config) : Setting where
  sections := sections
  name := name
  kind := .number (UInt64.size - 1)
  hot := false
  get c := .number (get c).toNat
  put
    | .number n, c => put (.ofNat n) c
    | _, c => c

/-- A setting that is a byte. -/
def byte (hot : Bool) (sections : List String) (name : String) (get : Config → UInt8)
    (put : UInt8 → Config → Config) : Setting where
  sections := sections
  name := name
  kind := .number 255
  hot := hot
  get c := .number (get c).toNat
  put
    | .number n, c => put (.ofNat n) c
    | _, c => c

/-- A setting that is a truth value. -/
def flag (hot : Bool) (sections : List String) (name : String) (get : Config → Bool)
    (put : Bool → Config → Config) : Setting where
  sections := sections
  name := name
  kind := .flag
  hot := hot
  get c := .flag (get c)
  put
    | .flag b, c => put b c
    | _, c => c

/-- A setting that is a text or a path. -/
def text (kind : Kind) (sections : List String) (name : String) (get : Config → String)
    (put : String → Config → Config) : Setting where
  sections := sections
  name := name
  kind := kind
  hot := false
  get c := .text (get c)
  put
    | .text s, c => put s c
    | _, c => c

/-- A setting that is a list of texts or paths. -/
def texts (kind : Kind) (sections : List String) (name : String) (get : Config → List String)
    (put : List String → Config → Config) : Setting where
  sections := sections
  name := name
  kind := kind
  hot := false
  get c := .texts (get c)
  put
    | .texts items, c => put items c
    | _, c => c

/-- The version. -/
def version : Setting :=
  byte false [] "version" (·.version) fun v c => { c with version := v }

/-- The settings of the LEDs. -/
def leds : List Setting := [
  text .path ["leds"] "sysfs_root" (·.leds.root) fun v c => { c with leds.root := v },
  wide ["leds"] "render_interval_ms" (·.leds.renderMillis)
    fun v c => { c with leds.renderMillis := v },
  wide ["leds"] "force_rewrite_every" (·.leds.forceEvery)
    fun v c => { c with leds.forceEvery := v }]

/-- The settings of the battery. -/
def battery : List Setting := [
  text .path ["battery"] "uevent_path" (·.battery.readings)
    fun v c => { c with battery.readings := v },
  text .path ["battery"] "stop_charge_path" (·.battery.stopSwitch)
    fun v c => { c with battery.stopSwitch := v },
  flag true ["battery", "charge"] "enabled" (·.battery.charge.enabled)
    fun v c => { c with battery.charge.enabled := v },
  byte true ["battery", "charge"] "start_threshold" (·.battery.charge.startThreshold)
    fun v c => { c with battery.charge.startThreshold := v },
  byte true ["battery", "charge"] "stop_threshold" (·.battery.charge.stopThreshold)
    fun v c => { c with battery.charge.stopThreshold := v }]

/-- The settings of the modem. -/
def modem : List Setting := [
  text .text ["modem"] "service" (·.modem.service) fun v c => { c with modem.service := v },
  text .text ["modem"] "default_endpoint" (·.modem.defaultEndpoint)
    fun v c => { c with modem.defaultEndpoint := v },
  wide ["modem"] "at_timeout_ms" (·.modem.answerMillis)
    fun v c => { c with modem.answerMillis := v },
  wide ["modem"] "poll_interval_secs" (·.modem.pollSeconds)
    fun v c => { c with modem.pollSeconds := v }]

/-- The settings of the access point. -/
def wifi : List Setting := [
  flag true ["wifi"] "enabled" (·.wifi.policy.enabled)
    fun v c => { c with wifi.policy.enabled := v },
  flag true ["wifi"] "ap_requested" (·.wifi.policy.apRequested)
    fun v c => { c with wifi.policy.apRequested := v },
  texts .paths ["wifi"] "pid_files" (·.wifi.pidFiles) fun v c => { c with wifi.pidFiles := v },
  text .path ["wifi"] "proc_root" (·.wifi.processRoot)
    fun v c => { c with wifi.processRoot := v },
  wide ["wifi"] "poll_interval_secs" (·.wifi.pollSeconds)
    fun v c => { c with wifi.pollSeconds := v }]

/-- The settings of the power key. -/
def powerKey : List Setting := [
  flag false ["power_key"] "enabled" (·.powerKey.enabled)
    fun v c => { c with powerKey.enabled := v },
  texts .paths ["power_key"] "devices" (·.powerKey.devices)
    fun v c => { c with powerKey.devices := v },
  { sections := ["power_key"]
    name := "key_code"
    kind := .number (UInt16.size - 1)
    hot := false
    get c := .number c.powerKey.keyCode.toNat
    put
      | .number n, c => { c with powerKey.keyCode := .ofNat n }
      | _, c => c },
  wide ["power_key"] "long_press_ms" (·.powerKey.longPressMillis)
    fun v c => { c with powerKey.longPressMillis := v },
  wide ["power_key"] "double_click_ms" (·.powerKey.doubleClickMillis)
    fun v c => { c with powerKey.doubleClickMillis := v },
  wide ["power_key"] "shutdown_delay_ms" (·.powerKey.shutdownDelayMillis)
    fun v c => { c with powerKey.shutdownDelayMillis := v },
  texts .texts ["power_key"] "shutdown_command" (·.powerKey.shutdownCommand)
    fun v c => { c with powerKey.shutdownCommand := v }]

/-- The settings of the control interface. -/
def control : List Setting := [
  flag false ["dbus"] "enabled" (·.control.enabled) fun v c => { c with control.enabled := v },
  text (.choice ["system", "session"]) ["dbus"] "bus" (·.control.bus.label)
    fun v c => { c with control.bus := if v = "session" then .session else .system }]

/-- All settings but the version, in the order of the file. -/
def sectioned : List Setting := leds ++ battery ++ modem ++ wifi ++ powerKey ++ control

/-- All settings, in the order of the file. -/
def all : List Setting := version :: sectioned

end Setting

/-- The outermost sections, in the order of the file. -/
def sectionNames : List String := ["leds", "battery", "modem", "wifi", "power_key", "dbus"]

namespace Config

/-! ## Changing and comparing -/

/-- The names of the fields where names lead, in the order of the file. -/
def fieldNames (above : List String) : List String :=
  (Setting.all.filterMap fun s =>
    let names := s.sections ++ [s.name]
    if above.isPrefixOf names then names[above.length]? else none).eraseDups

/-- What a tree of plain values has where names lead on from others, if its sections are such. -/
def plainAt? (t : PlainTree) (above : List String) : List String → Option (Option PlainTree)
  | [] => some (some t)
  | name :: rest => do
    match (← t.fields? (fieldNames above)).lookup name with
    | none => some none
    | some t => plainAt? t (above ++ [name]) rest

/-- The configuration as a tree of plain values. -/
def toPlain (c : Config) : PlainTree :=
  Setting.all.foldl (fun t s => t.set (Kind.plain (s.get c)) (s.sections ++ [s.name])) .nothing

/-- The configuration that a tree of plain values stands for: what is left out has its built-in
value, but the version must be there. -/
def ofPlain? (t : PlainTree) : Option Config := do
  if (← plainAt? t [] ["version"]).isNone then none
  else Setting.all.foldlM (fun c s => do
    match ← plainAt? t [] (s.sections ++ [s.name]) with
    | none => some c
    | some t => (s.kind.ofPlain? t).map fun v => s.put v c) builtIn

/-- The configuration with a section or a setting replaced by a tree of plain values, if they fit. A
name that is no setting's changes nothing. -/
def edit? (c : Config) (label : String) (value : PlainTree) : Option Config :=
  ofPlain? (c.toPlain.set value (label.splitOn "."))

/-- Whether two configurations agree on a setting. -/
def agreeOn (a b : Config) (s : Setting) : Bool := s.kind.same (s.get a) (s.get b)

/-- Whether two configurations agree on every setting. -/
def same (a b : Config) : Bool := Setting.all.all (a.agreeOn b)

/-- The sections in which two configurations differ in a setting that needs a restart. -/
def coldDifferences (a b : Config) : List String :=
  sectionNames.filter fun name =>
    Setting.all.any fun s => s.home? == some name && !s.hot && !a.agreeOn b s

end Config

end Gateway
