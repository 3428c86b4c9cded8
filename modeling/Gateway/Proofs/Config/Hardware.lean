import Gateway.Proofs.Config.Saving

/-!
# The part of a configuration that needs a restart

Everything but the charge window and the access point's two flags is the
*hardware part* of a configuration: the running daemon was built from it. Two
configurations agree on it (`SameHardware`) or differ in some section of it
(`AgreeIn`), where paths agree if they are made of the same names.

The cold differences are found by the table of settings. Each section is one
stretch of it, so what the table says of a section is what its fields say
(`agreeIn_iff`), and the cold differences are the sections without agreement
(`mem_coldDifferences`).
-/

namespace Gateway

attribute [ext] ModemSection ControlSection

namespace Config

/-- Two configurations agree on everything but what may change in place. -/
structure SameHardware (a b : Config) : Prop where
  version : a.version = b.version
  ledRoot : Kind.pathNames a.leds.root = Kind.pathNames b.leds.root
  renderMillis : a.leds.renderMillis = b.leds.renderMillis
  forceEvery : a.leds.forceEvery = b.leds.forceEvery
  readings :
    Kind.pathNames a.battery.readings = Kind.pathNames b.battery.readings
  stopSwitch :
    Kind.pathNames a.battery.stopSwitch = Kind.pathNames b.battery.stopSwitch
  modem : a.modem = b.modem
  pidFiles :
    a.wifi.pidFiles.map Kind.pathNames = b.wifi.pidFiles.map Kind.pathNames
  processRoot :
    Kind.pathNames a.wifi.processRoot = Kind.pathNames b.wifi.processRoot
  wifiPollSeconds : a.wifi.pollSeconds = b.wifi.pollSeconds
  keyEnabled : a.powerKey.enabled = b.powerKey.enabled
  devices :
    a.powerKey.devices.map Kind.pathNames
      = b.powerKey.devices.map Kind.pathNames
  keyCode : a.powerKey.keyCode = b.powerKey.keyCode
  longPressMillis : a.powerKey.longPressMillis = b.powerKey.longPressMillis
  doubleClickMillis :
    a.powerKey.doubleClickMillis = b.powerKey.doubleClickMillis
  shutdownDelayMillis :
    a.powerKey.shutdownDelayMillis = b.powerKey.shutdownDelayMillis
  shutdownCommand : a.powerKey.shutdownCommand = b.powerKey.shutdownCommand
  control : a.control = b.control

namespace SameHardware

variable {a b c : Config}

theorem refl (a : Config) : a.SameHardware a := by
  constructor <;> rfl

theorem trans (h : a.SameHardware b) (h' : b.SameHardware c) :
    a.SameHardware c where
  version := h.version.trans h'.version
  ledRoot := h.ledRoot.trans h'.ledRoot
  renderMillis := h.renderMillis.trans h'.renderMillis
  forceEvery := h.forceEvery.trans h'.forceEvery
  readings := h.readings.trans h'.readings
  stopSwitch := h.stopSwitch.trans h'.stopSwitch
  modem := h.modem.trans h'.modem
  pidFiles := h.pidFiles.trans h'.pidFiles
  processRoot := h.processRoot.trans h'.processRoot
  wifiPollSeconds := h.wifiPollSeconds.trans h'.wifiPollSeconds
  keyEnabled := h.keyEnabled.trans h'.keyEnabled
  devices := h.devices.trans h'.devices
  keyCode := h.keyCode.trans h'.keyCode
  longPressMillis := h.longPressMillis.trans h'.longPressMillis
  doubleClickMillis := h.doubleClickMillis.trans h'.doubleClickMillis
  shutdownDelayMillis := h.shutdownDelayMillis.trans h'.shutdownDelayMillis
  shutdownCommand := h.shutdownCommand.trans h'.shutdownCommand
  control := h.control.trans h'.control

/-- The charge window is no hardware. -/
theorem withCharge (s : ConfigStore) (charge : Battery.ChargePolicy) :
    s.config.SameHardware (s.withCharge charge).config := by
  constructor <;> rfl

end SameHardware

/-! ## One setting -/

section

variable {a b : Config} {sections : List String} {name : String}

theorem agreeOn_wide {get : Config → UInt64}
    {put : UInt64 → Config → Config} :
    a.agreeOn b (.wide sections name get put) = true ↔ get a = get b := by
  simp [agreeOn, Kind.same, Setting.wide, UInt64.toNat_inj]

theorem agreeOn_flag {hot : Bool} {get : Config → Bool}
    {put : Bool → Config → Config} :
    a.agreeOn b (.flag hot sections name get put) = true ↔ get a = get b := by
  simp [agreeOn, Kind.same, Setting.flag]

theorem agreeOn_text {get : Config → String}
    {put : String → Config → Config} :
    a.agreeOn b (.text .text sections name get put) = true
      ↔ get a = get b := by
  simp [agreeOn, Kind.same, Setting.text]

theorem agreeOn_path {get : Config → String}
    {put : String → Config → Config} :
    a.agreeOn b (.text .path sections name get put) = true
      ↔ Kind.pathNames (get a) = Kind.pathNames (get b) := by
  simp [agreeOn, Kind.same, Setting.text]

theorem agreeOn_texts {get : Config → List String}
    {put : List String → Config → Config} :
    a.agreeOn b (.texts .texts sections name get put) = true
      ↔ get a = get b := by
  simp [agreeOn, Kind.same, Setting.texts]

theorem agreeOn_paths {get : Config → List String}
    {put : List String → Config → Config} :
    a.agreeOn b (.texts .paths sections name get put) = true
      ↔ (get a).map Kind.pathNames = (get b).map Kind.pathNames := by
  simp [agreeOn, Kind.same, Setting.texts]

theorem agreeOn_short {max : Nat} {hot : Bool} {get : Config → UInt16}
    {put : PlainValue → Config → Config} :
    a.agreeOn b ⟨sections, name, .number max, hot,
        fun c => .number (get c).toNat, put⟩ = true ↔ get a = get b := by
  simp [agreeOn, Kind.same, UInt16.toNat_inj]

theorem label_inj {a b : BusChoice} : a.label = b.label ↔ a = b := by
  cases a <;> cases b <;> decide

theorem agreeOn_bus {names : List String} {get : Config → BusChoice}
    {put : String → Config → Config} :
    a.agreeOn b (.text (.choice names) sections name
        (fun c => (get c).label) put) = true ↔ get a = get b := by
  simp [agreeOn, Kind.same, Setting.text, label_inj]

end

/-! ## One section -/

/-- Two configurations agree on all that lies in a section and needs a
restart. -/
def AgreeIn (a b : Config) : String → Prop
  | "leds" =>
    Kind.pathNames a.leds.root = Kind.pathNames b.leds.root
      ∧ a.leds.renderMillis = b.leds.renderMillis
      ∧ a.leds.forceEvery = b.leds.forceEvery
  | "battery" =>
    Kind.pathNames a.battery.readings = Kind.pathNames b.battery.readings
      ∧ Kind.pathNames a.battery.stopSwitch
        = Kind.pathNames b.battery.stopSwitch
  | "modem" => a.modem = b.modem
  | "wifi" =>
    a.wifi.pidFiles.map Kind.pathNames = b.wifi.pidFiles.map Kind.pathNames
      ∧ Kind.pathNames a.wifi.processRoot = Kind.pathNames b.wifi.processRoot
      ∧ a.wifi.pollSeconds = b.wifi.pollSeconds
  | "power_key" =>
    a.powerKey.enabled = b.powerKey.enabled
      ∧ a.powerKey.devices.map Kind.pathNames
        = b.powerKey.devices.map Kind.pathNames
      ∧ a.powerKey.keyCode = b.powerKey.keyCode
      ∧ a.powerKey.longPressMillis = b.powerKey.longPressMillis
      ∧ a.powerKey.doubleClickMillis = b.powerKey.doubleClickMillis
      ∧ a.powerKey.shutdownDelayMillis = b.powerKey.shutdownDelayMillis
      ∧ a.powerKey.shutdownCommand = b.powerKey.shutdownCommand
  | "dbus" => a.control = b.control
  | _ => True

/-- Agreement on the hardware part is agreement in every section. -/
theorem sameHardware_iff {a b : Config} :
    a.SameHardware b
      ↔ a.version = b.version ∧ ∀ name ∈ sectionNames, a.AgreeIn b name := by
  simp only [sectionNames, List.forall_mem_cons, AgreeIn]
  constructor
  · intro h
    exact ⟨h.version, ⟨h.ledRoot, h.renderMillis, h.forceEvery⟩,
      ⟨h.readings, h.stopSwitch⟩, h.modem,
      ⟨h.pidFiles, h.processRoot, h.wifiPollSeconds⟩,
      ⟨h.keyEnabled, h.devices, h.keyCode, h.longPressMillis,
        h.doubleClickMillis, h.shutdownDelayMillis, h.shutdownCommand⟩,
      h.control, nofun⟩
  · rintro ⟨hversion, ⟨hroot, hrender, hforce⟩, ⟨hreadings, hswitch⟩, hmodem,
      ⟨hpids, hprocesses, hwifi⟩,
      ⟨hkey, hdevices, hcode, hlong, hdouble, hdelay, hcommand⟩, hcontrol, -⟩
    exact ⟨hversion, hroot, hrender, hforce, hreadings, hswitch, hmodem,
      hpids, hprocesses, hwifi, hkey, hdevices, hcode, hlong, hdouble, hdelay,
      hcommand, hcontrol⟩

/-- The settings of a section that need a restart. -/
def coldSettings (name : String) : List Setting :=
  Setting.all.filter fun s => s.home? == some name && !s.hot

/-- What the table of settings compares in a section is what the section
holds. -/
theorem agreeIn_iff {a b : Config} {name : String}
    (h : name ∈ sectionNames) :
    a.AgreeIn b name
      ↔ ∀ s ∈ coldSettings name, a.agreeOn b s = true := by
  simp only [sectionNames, List.mem_cons, List.not_mem_nil, or_false] at h
  obtain rfl | rfl | rfl | rfl | rfl | rfl := h
  · have hcold : coldSettings "leds" = Setting.leds := rfl
    simp [hcold, AgreeIn, Setting.leds, agreeOn_path, agreeOn_wide]
  · have hcold : coldSettings "battery" = Setting.battery.take 2 := rfl
    simp [hcold, AgreeIn, Setting.battery, agreeOn_path]
  · have hcold : coldSettings "modem" = Setting.modem := rfl
    simp [hcold, AgreeIn, Setting.modem, agreeOn_text, agreeOn_wide,
      ModemSection.ext_iff]
  · have hcold : coldSettings "wifi" = Setting.wifi.drop 2 := rfl
    simp [hcold, AgreeIn, Setting.wifi, agreeOn_path, agreeOn_paths,
      agreeOn_wide]
  · have hcold : coldSettings "power_key" = Setting.powerKey := rfl
    simp [hcold, AgreeIn, Setting.powerKey, agreeOn_flag, agreeOn_paths,
      agreeOn_texts, agreeOn_wide, agreeOn_short]
  · have hcold : coldSettings "dbus" = Setting.control := rfl
    simp [hcold, AgreeIn, Setting.control, agreeOn_flag, agreeOn_bus,
      ControlSection.ext_iff]

/-! ## Cold differences -/

theorem mem_coldDifferences {a b : Config} {name : String} :
    name ∈ a.coldDifferences b
      ↔ name ∈ sectionNames ∧ ¬ a.AgreeIn b name := by
  rw [coldDifferences, List.mem_filter]
  refine and_congr_right fun hname => ?_
  rw [agreeIn_iff hname]
  simp [coldSettings, and_assoc]

theorem sameHardware_of_coldDifferences {a b : Config}
    (hversion : a.version = b.version) (h : a.coldDifferences b = []) :
    a.SameHardware b := by
  refine sameHardware_iff.mpr ⟨hversion, fun name hname =>
    Classical.byContradiction fun hdiffers => ?_⟩
  exact List.ne_nil_of_mem (mem_coldDifferences.mpr ⟨hname, hdiffers⟩) h

end Config

end Gateway
