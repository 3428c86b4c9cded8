/-!
# Bytes and text

Reading bytes as UTF-8. `chunk` takes one character, or the longest run of bytes that begins a
character and is then cut short, off the front; `decode?` accepts only whole characters and
`decodeLossy` puts a replacement character in place of every broken run.
-/

namespace Gateway.Text

/-- What stands at the front of a byte sequence. -/
inductive Chunk where
  /-- A character and the bytes after it. -/
  | char (c : Char) (rest : List UInt8)
  /-- A broken run of bytes, dropped, and the bytes after it. -/
  | broken (rest : List UInt8)

/-- Whether a byte continues a character. -/
def continues (b : UInt8) : Bool := 0x80 ≤ b && b ≤ 0xBF

/-- Whether `b` may follow the first byte `a` of a character of three or four bytes: no overlong
form, no surrogate, nothing above the last code point. -/
def mayFollow (a b : UInt8) : Bool :=
  if a == 0xE0 then 0xA0 ≤ b && b ≤ 0xBF
  else if a == 0xED then 0x80 ≤ b && b ≤ 0x9F
  else if a == 0xF0 then 0x90 ≤ b && b ≤ 0xBF
  else if a == 0xF4 then 0x80 ≤ b && b ≤ 0x8F
  else continues b

/-- The six low bits that a byte after the first contributes. -/
def tailBits (b : UInt8) : Nat := b.toNat % 64

/-- The front of the byte sequence `a :: rest`. -/
def chunk (a : UInt8) (rest : List UInt8) : Chunk :=
  if a < 0x80 then .char (Char.ofNat a.toNat) rest
  else if 0xC2 ≤ a && a ≤ 0xDF then
    match rest with
    | b :: r =>
      if continues b then .char (Char.ofNat (a.toNat % 32 * 64 + tailBits b)) r
      else .broken rest
    | [] => .broken rest
  else if 0xE0 ≤ a && a ≤ 0xEF then
    match rest with
    | b :: r =>
      if mayFollow a b then
        match r with
        | c :: r' =>
          if continues c then
            .char (Char.ofNat ((a.toNat % 16 * 64 + tailBits b) * 64 + tailBits c)) r'
          else .broken r
        | [] => .broken r
      else .broken rest
    | [] => .broken rest
  else if 0xF0 ≤ a && a ≤ 0xF4 then
    match rest with
    | b :: r =>
      if mayFollow a b then
        match r with
        | c :: r' =>
          if continues c then
            match r' with
            | d :: r'' =>
              if continues d then
                .char (Char.ofNat
                  (((a.toNat % 8 * 64 + tailBits b) * 64 + tailBits c) * 64 + tailBits d)) r''
              else .broken r'
            | [] => .broken r'
          else .broken r
        | [] => .broken r
      else .broken rest
    | [] => .broken rest
  else .broken rest

/-- The bytes left after the front. -/
def Chunk.rest : Chunk → List UInt8
  | .char _ rest => rest
  | .broken rest => rest

/-- The front takes at least one byte. -/
theorem chunk_rest_length_le (a : UInt8) (rest : List UInt8) :
    (chunk a rest).rest.length ≤ rest.length := by
  unfold chunk
  repeat' split
  all_goals (simp only [Chunk.rest, List.length_cons]; omega)

/-- The characters of a byte sequence, with U+FFFD for every broken run. -/
def decodeLossy : List UInt8 → List Char
  | [] => []
  | a :: rest =>
    match _h : chunk a rest with
    | .char c r => c :: decodeLossy r
    | .broken r => '\uFFFD' :: decodeLossy r
termination_by bytes => bytes.length
decreasing_by
  all_goals
    have := chunk_rest_length_le a rest
    rw [_h] at this
    simp only [Chunk.rest] at this
    simp only [List.length_cons]
    omega

/-- The characters of a byte sequence, if it is UTF-8. -/
def decode? : List UInt8 → Option (List Char)
  | [] => some []
  | a :: rest =>
    match _h : chunk a rest with
    | .char c r => (decode? r).map (c :: ·)
    | .broken _ => none
termination_by bytes => bytes.length
decreasing_by
  have := chunk_rest_length_le a rest
  rw [_h] at this
  simp only [Chunk.rest] at this
  simp only [List.length_cons]
  omega

/-- The bytes of a text. -/
def encode (cs : List Char) : List UInt8 := cs.flatMap String.utf8EncodeChar

end Gateway.Text
