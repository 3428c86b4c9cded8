import Gateway.Led.Output
import Gateway.Text.Json

/-!
# The LED table

The ten channels with their modes and brightnesses, what is known of the hardware, and the render
clock. Steady modes are written when they are set; flashing modes wait for the next render tick. A
tick writes only the channels whose value differs from the one last written, and every
`forceEvery`-th tick writes them all. A failed write leaves the channel's value unknown, so the next
tick writes it again.
-/

namespace Gateway.Led

/-- One channel of the table. -/
structure Node where
  mode : Mode
  /-- The value written when the channel is lit. -/
  brightness : UInt8
  /-- Whether the last write left the channel lit; `none` before the first write and after a failed
  one. -/
  written : Option Bool
deriving DecidableEq, Repr

/-- A channel that was never driven. -/
def Node.initial : Node := ⟨.off, 1, none⟩

/-! ## The bank of nodes -/

/-- One node for each channel. -/
abbrev Bank := Vector Node 10

namespace Bank

/-- The bank before anything was driven. -/
def initial : Bank := Vector.replicate 10 Node.initial

/-- The node of a channel. -/
def nodeOf (b : Bank) (c : Channel) : Node := b[c.slot]

/-- The bank with a channel's node replaced. -/
def put (b : Bank) (c : Channel) (n : Node) : Bank := Vector.set b c.slot n c.slot.isLt

theorem nodeOf_put (b : Bank) (c d : Channel) (n : Node) :
    (b.put c n).nodeOf d = if c = d then n else b.nodeOf d := by
  by_cases h : c = d
  · subst h
    simp [nodeOf, put]
  · have hne : c.slot.val ≠ d.slot.val := fun he => h (Channel.slot_injective (Fin.ext he))
    simp [nodeOf, put, h, hne]

end Bank

/-! ## The table -/

/-- The ten channels, the output they are written to and the render clock. -/
structure Table where
  nodes : Bank
  output : Output
  /-- The number of the next render tick; it wraps. -/
  phase : UInt64
  /-- Every so many ticks all channels are written; at least 1. -/
  forceEvery : UInt64

namespace Table

/-- A table that has driven nothing yet. -/
def new (output : Output) (forceEvery : UInt64) : Table :=
  ⟨Bank.initial, output, 0, max forceEvery 1⟩

/-- A channel's node. -/
def node (t : Table) (c : Channel) : Node := t.nodes.nodeOf c

/-- Writes a channel lit or dark, and notes whether the hardware took it. -/
def write (t : Table) (c : Channel) (lit : Bool) : Table :=
  let n := t.node c
  let value := if lit then n.brightness else 0
  let written := if t.output.accepts c then some lit else none
  { t with nodes := t.nodes.put c { n with written }, output := t.output.write c value }

/-- Notes a channel's mode without writing. -/
def mark (t : Table) (c : Channel) (mode : Mode) : Table :=
  { t with nodes := t.nodes.put c { t.node c with mode } }

/-- Changes a channel's mode; a steady mode is written at once. -/
def setMode (t : Table) (c : Channel) (mode : Mode) : Table :=
  if (t.node c).mode = mode then t
  else match mode with
    | .off => (t.mark c mode).write c false
    | .on => (t.mark c mode).write c true
    | .slowFlash | .fastFlash => t.mark c mode

/-- Whether setting the mode would change anything. -/
def changes (t : Table) (c : Channel) (mode : Mode) : Bool := (t.node c).mode ≠ mode

/-- Sets several modes in order. -/
def apply (t : Table) (modes : List (Channel × Mode)) : Table :=
  modes.foldl (fun t (c, mode) => t.setMode c mode) t

/-- Sets the value of a lit channel, at least 1, and writes it if the channel is known to be lit. -/
def setBrightness (t : Table) (c : Channel) (brightness : UInt8) : Table :=
  let n := t.node c
  let t := { t with nodes := t.nodes.put c { n with brightness := max brightness 1 } }
  if n.written = some true then t.write c true else t

/-- Sets every channel's mode to off. -/
def allOff (t : Table) : Table := Channel.all.foldl (fun t c => t.setMode c .off) t

/-- Takes every channel under software control and writes it dark. -/
def init (t : Table) : Table :=
  Channel.all.foldl
    (fun t c => ({ t with output := t.output.claim c }.mark c .off).write c false) t

/-- Whether the next tick writes every channel. -/
def forced (t : Table) : Bool := t.phase % t.forceEvery == 0

/-- Whether the next tick writes a channel. -/
def due (t : Table) (c : Channel) : Bool :=
  t.forced || (t.node c).written ≠ some ((t.node c).mode.lit t.phase)

/-- Writes one channel if the tick has to, and counts the write. -/
def render (acc : Table × Nat) (c : Channel) : Table × Nat :=
  if acc.1.due c then (acc.1.write c ((acc.1.node c).mode.lit acc.1.phase), acc.2 + 1) else acc

/-- One render tick, with the number of writes it attempted. -/
def renderTick (t : Table) : Table × Nat :=
  let (t, writes) := Channel.all.foldl render (t, 0)
  ({ t with phase := t.phase + 1 }, writes)

/-! ## Snapshots -/

/-- What is shown of one channel. -/
structure Shown where
  channel : Channel
  mode : Mode
  brightness : UInt8
  lit : Bool
deriving DecidableEq, Repr

/-- What is shown of the table; a channel of unknown value counts as dark. -/
def snapshot (t : Table) : List Shown :=
  Channel.all.map fun c =>
    let n := t.node c
    ⟨c, n.mode, n.brightness, n.written.getD false⟩

/-- A channel's entry in snapshot text. -/
def Shown.json (s : Shown) : String :=
  Text.Json.object [
    ("channel", Text.Json.string s.channel.label),
    ("name", Text.Json.string s.channel.name),
    ("mode", Text.Json.string s.mode.label),
    ("brightness", Text.Json.nat s.brightness.toNat),
    ("lit", Text.Json.bool s.lit)]

/-- Snapshot text. -/
def snapshotJson (t : Table) : String := Text.Json.array (t.snapshot.map Shown.json)

end Table

end Gateway.Led
