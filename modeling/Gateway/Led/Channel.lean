/-!
# LED channels and their modes

The ten status LEDs, in the fixed order in which they are rendered, and the four ways to drive one.
A render phase is one tick of the render clock; both flashing modes are lit on even phases.
-/

namespace Gateway.Led

/-- One of the ten status LEDs. -/
inductive Channel where
  | lteRed | lteGreen | lteBlue
  | nrRed | nrGreen | nrBlue
  | batteryRed | batteryGreen
  | wifiRed | wifiGreen
deriving DecidableEq, Repr, Inhabited

namespace Channel

/-- Every channel, in rendering order. -/
def all : List Channel :=
  [lteRed, lteGreen, lteBlue, nrRed, nrGreen, nrBlue, batteryRed, batteryGreen, wifiRed, wifiGreen]

/-- The red channel of each group. -/
def reds : List Channel := [lteRed, nrRed, batteryRed, wifiRed]

/-- The position in rendering order. -/
def slot : Channel → Fin 10
  | lteRed => 0
  | lteGreen => 1
  | lteBlue => 2
  | nrRed => 3
  | nrGreen => 4
  | nrBlue => 5
  | batteryRed => 6
  | batteryGreen => 7
  | wifiRed => 8
  | wifiGreen => 9

/-- The channel with the given number. -/
def ofNumber? (n : Nat) : Option Channel := all[n]?

/-- The directory that holds the channel's attribute files. -/
def name : Channel → String
  | lteRed => "lte_red"
  | lteGreen => "lte_green"
  | lteBlue => "lte_blue"
  | nrRed => "nr_red"
  | nrGreen => "nr_green"
  | nrBlue => "nr_blue"
  | batteryRed => "vbat_red"
  | batteryGreen => "vbat_green"
  | wifiRed => "wifi_red"
  | wifiGreen => "wifi_green"

/-- The name used in snapshots. -/
def label : Channel → String
  | lteRed => "LteRed"
  | lteGreen => "LteGreen"
  | lteBlue => "LteBlue"
  | nrRed => "NrRed"
  | nrGreen => "NrGreen"
  | nrBlue => "NrBlue"
  | batteryRed => "BatteryRed"
  | batteryGreen => "BatteryGreen"
  | wifiRed => "WifiRed"
  | wifiGreen => "WifiGreen"

/-- Whether the channel is one of the reds. -/
def isRed (c : Channel) : Bool := reds.contains c

theorem mem_all (c : Channel) : c ∈ all := by cases c <;> decide

theorem slot_injective {c d : Channel} (h : c.slot = d.slot) : c = d := by
  revert h; cases c <;> cases d <;> decide

end Channel

/-- How a channel is driven. -/
inductive Mode where
  | off
  | on
  /-- A period of 1000 ms, lit for half of it. -/
  | slowFlash
  /-- A period of 500 ms, lit for half of it; the render clock shows it like the slow one. -/
  | fastFlash
deriving DecidableEq, Repr, Inhabited

namespace Mode

/-- The mode with the given number. -/
def ofNumber? (n : Nat) : Option Mode := [off, on, slowFlash, fastFlash][n]?

/-- Whether a channel in this mode is lit at a render phase. -/
def lit (mode : Mode) (phase : UInt64) : Bool :=
  match mode with
  | off => false
  | on => true
  | slowFlash | fastFlash => phase % 2 == 0

/-- The name used in snapshots. -/
def label : Mode → String
  | off => "Off"
  | on => "On"
  | slowFlash => "SlowFlash"
  | fastFlash => "FastFlash"

end Mode

end Gateway.Led
