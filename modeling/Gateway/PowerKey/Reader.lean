import Gateway.PowerKey.InputEvent

/-!
# Reading records

A device hands out its bytes in portions of any size. The reader fills one buffer with them, record
after record, and hands on the watched key's presses and releases. It stops when the device ends or
when nobody takes a transition any more.
-/

namespace Gateway.PowerKey

/-- A device that is being read. -/
structure Stream where
  /-- The bytes that are still to come. -/
  bytes : List UInt8
  /-- How many reads there were. -/
  reads : Nat
deriving DecidableEq, Repr

namespace Stream

/-- A read of up to `wanted` bytes. The `i`-th read gets at most `portion i + 1` of them; it gets
none only at the end. -/
def read (portion : Nat → Nat) (s : Stream) (wanted : Nat) : List UInt8 × Stream :=
  let n := min wanted (portion s.reads + 1)
  (s.bytes.take n, ⟨s.bytes.drop n, s.reads + 1⟩)

end Stream

/-- A buffer with some bytes written over it from a place on. -/
def overwrite (buffer : List UInt8) (place : Nat) (bytes : List UInt8) : List UInt8 :=
  buffer.take place ++ bytes ++ buffer.drop (place + bytes.length)

/-- Fills a record's buffer, of which `filled` bytes are read already, in as many reads as it takes.
At the end of the device there is no record. -/
def Stream.fill? (portion : Nat → Nat) (s : Stream) (buffer : List UInt8) (filled : Nat) :
    Option (List UInt8 × Stream) :=
  if filled < recordSize then
    match s.read portion (recordSize - filled) with
    | ([], _) => none
    | (b :: more, s) =>
      s.fill? portion (overwrite buffer filled (b :: more)) (filled + (more.length + 1))
  else some (buffer, s)
termination_by recordSize - filled

/-- Why reading stopped. -/
inductive Stop where
  /-- The device holds no other whole record. -/
  | ended
  /-- A transition was not taken. -/
  | refused
deriving DecidableEq, Repr

/-- A device, the buffer for its records, and what was handed on so far, in order. -/
structure Reader where
  stream : Stream
  buffer : List UInt8
  sent : List Transition
deriving DecidableEq, Repr

namespace Reader

/-- A reader at the start of a device. -/
def start (bytes : List UInt8) : Reader := ⟨⟨bytes, 0⟩, List.replicate recordSize 0, []⟩

/-- One turn: a record is read and its transition, if it has one, handed on. `takes n` says whether
someone takes the `n`-th transition. -/
def turn (portion : Nat → Nat) (takes : Nat → Bool) (keyCode : Nat) (r : Reader) :
    Except Stop Reader :=
  match r.stream.fill? portion r.buffer 0 with
  | none => .error .ended
  | some (buffer, stream) =>
    match (InputEvent.parse? buffer).bind (·.transition? keyCode) with
    | none => .ok { r with stream, buffer }
    | some t =>
      if takes r.sent.length then .ok ⟨stream, buffer, r.sent ++ [t]⟩ else .error .refused

end Reader

/-! ## Every turn takes a record off the device -/

theorem Stream.length_read (portion : Nat → Nat) (s : Stream) (wanted : Nat) :
    (s.read portion wanted).1.length + (s.read portion wanted).2.bytes.length = s.bytes.length := by
  simp only [read, List.length_take, List.length_drop]
  omega

theorem Stream.length_fill? {portion : Nat → Nat} {s : Stream} {buffer : List UInt8} {filled : Nat}
    {full : List UInt8 × Stream} (h : s.fill? portion buffer filled = some full) :
    full.2.bytes.length + (recordSize - filled) ≤ s.bytes.length := by
  fun_induction Stream.fill? portion s buffer filled with
  | case1 => cases h
  | case2 s buffer filled hmore b more s' hread ih =>
    have hlength := s.length_read portion (recordSize - filled)
    simp only [hread, List.length_cons] at hlength
    have := ih h
    omega
  | case3 s buffer filled hfull =>
    cases h
    dsimp only
    omega

theorem Reader.length_turn {portion : Nat → Nat} {takes : Nat → Bool} {keyCode : Nat}
    {r next : Reader} (h : r.turn portion takes keyCode = .ok next) :
    next.stream.bytes.length < r.stream.bytes.length := by
  unfold turn at h
  split at h
  · cases h
  · next buffer stream hfill =>
    have hlength := Stream.length_fill? hfill
    simp only [recordSize] at hlength
    split at h
    · cases h
      dsimp only
      omega
    · split at h
      · cases h
        dsimp only
        omega
      · cases h

/-- Reads to the end, or until a transition is not taken. -/
def Reader.run (portion : Nat → Nat) (takes : Nat → Bool) (keyCode : Nat) (r : Reader) :
    Reader × Stop :=
  match _h : r.turn portion takes keyCode with
  | .ok next => next.run portion takes keyCode
  | .error stop => (r, stop)
termination_by r.stream.bytes.length
decreasing_by exact Reader.length_turn _h

end Gateway.PowerKey
