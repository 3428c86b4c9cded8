import Gateway.Text.Split

/-!
# Radio bands

The bands that the modem can be restricted to. The modem keeps one mask per technology and duplex
mode, in which each band has a bit.
-/

namespace Gateway.Modem

/-- The radio access technology of a band or a cell. -/
inductive Technology where
  | lte
  | nr
deriving DecidableEq, Repr

/-- The name of a technology. -/
def Technology.label : Technology → String
  | lte => "Lte"
  | nr => "Nr"

/-- How a band separates the two directions. -/
inductive Duplex where
  | tdd
  | fdd
deriving DecidableEq, Repr

/-- The name of a duplex mode. -/
def Duplex.label : Duplex → String
  | tdd => "Tdd"
  | fdd => "Fdd"

/-- A band that the modem can be restricted to. -/
inductive Band where
  | tdd34 | tdd38 | tdd39 | tdd40 | tdd41
  | fdd01 | fdd03 | fdd05 | fdd08
  | n01 | n08 | n28 | n41 | n77 | n78 | n79
deriving DecidableEq, Repr

namespace Band

/-- Every band, in the order of tables. -/
def all : List Band :=
  [tdd34, tdd38, tdd39, tdd40, tdd41, fdd01, fdd03, fdd05, fdd08,
   n01, n08, n28, n41, n77, n78, n79]

/-- The name of a band. -/
def name : Band → String
  | tdd34 => "TDD_34"
  | tdd38 => "TDD_38"
  | tdd39 => "TDD_39"
  | tdd40 => "TDD_40"
  | tdd41 => "TDD_41"
  | fdd01 => "FDD_01"
  | fdd03 => "FDD_03"
  | fdd05 => "FDD_05"
  | fdd08 => "FDD_08"
  | n01 => "N01"
  | n08 => "N08"
  | n28 => "N28"
  | n41 => "N41"
  | n77 => "N77"
  | n78 => "N78"
  | n79 => "N79"

/-- The band with a name, in any case of letters. -/
def ofName? (text : String) : Option Band :=
  all.find? fun b => Text.sameLetters b.name.toList text.toList

/-- A band's technology. -/
def technology : Band → Technology
  | tdd34 | tdd38 | tdd39 | tdd40 | tdd41 | fdd01 | fdd03 | fdd05 | fdd08 => .lte
  | n01 | n08 | n28 | n41 | n77 | n78 | n79 => .nr

/-- A band's duplex mode. -/
def duplex : Band → Duplex
  | tdd34 | tdd38 | tdd39 | tdd40 | tdd41 | n41 | n77 | n78 | n79 => .tdd
  | fdd01 | fdd03 | fdd05 | fdd08 | n01 | n08 | n28 => .fdd

/-- A band's bit in the mask of its technology and duplex mode. -/
def mask : Band → UInt32
  | tdd34 => 2
  | tdd38 => 32
  | tdd39 => 64
  | tdd40 => 128
  | tdd41 => 256
  | fdd01 => 1
  | fdd03 => 4
  | fdd05 => 16
  | fdd08 => 128
  | n01 => 1
  | n08 => 128
  | n28 => 512
  | n41 => 16
  | n77 => 128
  | n78 => 256
  | n79 => 512

end Band

/-- One mask per technology and duplex mode; a set bit restricts the modem to a band. -/
structure BandMasks where
  lteTdd : UInt32
  lteFdd : UInt32
  nrTdd : UInt32
  nrFdd : UInt32
deriving DecidableEq, Repr

namespace BandMasks

/-- No restriction. -/
def none : BandMasks := ⟨0, 0, 0, 0⟩

/-- The mask that holds a band's bit. -/
def maskOf (m : BandMasks) (b : Band) : UInt32 :=
  match b.technology, b.duplex with
  | .lte, .tdd => m.lteTdd
  | .lte, .fdd => m.lteFdd
  | .nr, .tdd => m.nrTdd
  | .nr, .fdd => m.nrFdd

/-- The masks with a band's bit set. -/
def insert (m : BandMasks) (b : Band) : BandMasks :=
  match b.technology, b.duplex with
  | .lte, .tdd => { m with lteTdd := m.lteTdd ||| b.mask }
  | .lte, .fdd => { m with lteFdd := m.lteFdd ||| b.mask }
  | .nr, .tdd => { m with nrTdd := m.nrTdd ||| b.mask }
  | .nr, .fdd => { m with nrFdd := m.nrFdd ||| b.mask }

/-- The masks of a list of bands. -/
def ofBands (bands : List Band) : BandMasks := bands.foldl insert none

/-- Whether there is a bit of an LTE band. -/
def hasLte (m : BandMasks) : Bool := m.lteTdd != 0 || m.lteFdd != 0

/-- Whether there is a bit of an NR band. -/
def hasNr (m : BandMasks) : Bool := m.nrTdd != 0 || m.nrFdd != 0

/-- Whether a band's bit is set. -/
def contains (m : BandMasks) (b : Band) : Bool := m.maskOf b &&& b.mask != 0

/-- The bands whose bit is set, in the order of tables. -/
def locked (m : BandMasks) : List Band := Band.all.filter m.contains

end BandMasks

end Gateway.Modem
