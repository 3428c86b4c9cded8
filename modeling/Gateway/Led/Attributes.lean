import Gateway.Files
import Gateway.Led.Output

/-!
# LED attribute files

Each channel is a directory with two files: `trigger` says who drives the LED, and `brightness`
holds its value in decimal.
-/

namespace Gateway.Led

/-- A channel's attribute file. -/
def attributePath (root : String) (c : Channel) (file : String) : String :=
  Path.join (Path.join root c.name) file

/-- Hands a channel over to software control. -/
def claimAttribute (fs : Files) (root : String) (c : Channel) : Except FileFault Files :=
  fs.writeText (attributePath root c "trigger") "none"

/-- Writes a channel's value. -/
def writeAttribute (fs : Files) (root : String) (c : Channel) (value : UInt8) :
    Except FileFault Files :=
  fs.writeText (attributePath root c "brightness") (toString value.toNat)

/-- Whether an attempt succeeds. -/
def succeeds (attempt : Except FileFault Files) : Bool :=
  match attempt with
  | .ok _ => true
  | .error _ => false

/-- An output on the attribute files below a root. Writing never changes what can be written, so
what is accepted now is accepted later. -/
def outputOn (fs : Files) (root : String) : Output :=
  Output.accepting.restrict
    (fun c => succeeds (writeAttribute fs root c 0))
    (fun c => succeeds (claimAttribute fs root c))

/-- The files after a channel was claimed; an attempt that fails leaves them as they are. -/
def afterClaim (root : String) (fs : Files) (c : Claim) : Files :=
  match claimAttribute fs root c.channel with
  | .ok fs => fs
  | .error _ => fs

/-- The files after a value was written; an attempt that fails leaves them as they are. -/
def afterWrite (root : String) (fs : Files) (w : Write) : Files :=
  match writeAttribute fs root w.channel w.value with
  | .ok fs => fs
  | .error _ => fs

/-- The files after everything an output was asked for. -/
def afterAll (fs : Files) (root : String) (claims : List Claim) (writes : List Write) : Files :=
  writes.foldl (afterWrite root) (claims.foldl (afterClaim root) fs)

end Gateway.Led
