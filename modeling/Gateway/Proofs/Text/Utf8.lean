import Gateway.Text.Utf8

/-!
# Text as bytes and back

Every text is read back from its bytes (`decode?_encode`), and other bytes
are not read (`decode?_eq_some_iff`). Reading goes by the first byte of a
character, so characters are told apart by how many bytes they have; the
bytes behind the first say six bits each in all of them.
-/

namespace Gateway.Text

/-! ## Single bytes -/

theorem toNat_byte {n : Nat} (h : n < 256) : (UInt8.ofNat n).toNat = n :=
  UInt8.toNat_ofNat_of_lt' h

theorem continues_iff (b : UInt8) :
    continues b = true ↔ 0x80 ≤ b.toNat ∧ b.toNat ≤ 0xBF := by
  simp [continues, UInt8.le_iff_toNat_le]

theorem mayFollow_iff (a b : UInt8) :
    mayFollow a b = true ↔ 0x80 ≤ b.toNat ∧ b.toNat ≤ 0xBF
      ∧ (a.toNat = 0xE0 → 0xA0 ≤ b.toNat)
      ∧ (a.toNat = 0xED → b.toNat ≤ 0x9F)
      ∧ (a.toNat = 0xF0 → 0x90 ≤ b.toNat)
      ∧ (a.toNat = 0xF4 → b.toNat ≤ 0x8F) := by
  unfold mayFollow
  simp only [beq_iff_eq, ← UInt8.toNat_inj, UInt8.reduceToNat]
  split
  · simp [UInt8.le_iff_toNat_le]
    omega
  · split
    · simp [UInt8.le_iff_toNat_le]
      omega
    · split
      · simp [UInt8.le_iff_toNat_le]
        omega
      · split
        · simp [UInt8.le_iff_toNat_le]
          omega
        · rw [continues_iff]
          omega

/-- The bytes behind the first of a character. -/
theorem continues_byte {n : Nat} (h : n < 64) :
    continues (UInt8.ofNat (n + 128)) = true := by
  rw [continues_iff, toNat_byte (by omega)]
  omega

theorem tailBits_byte {n : Nat} (h : n < 64) :
    tailBits (UInt8.ofNat (n + 128)) = n := by
  rw [tailBits, toNat_byte (by omega)]
  omega

/-! ## Characters -/

theorem chunk_one {n : Nat} (h : n ≤ 0x7F) (rest : List UInt8) :
    chunk (UInt8.ofNat n) rest = .char (Char.ofNat n) rest := by
  have hfirst := toNat_byte (n := n) (by omega)
  simp only [chunk.eq_def, UInt8.lt_iff_toNat_lt, UInt8.reduceToNat, hfirst]
  rw [if_pos (by omega)]

theorem chunk_two {n : Nat} (hlow : 0x7F < n) (h : n ≤ 0x7FF)
    (rest : List UInt8) :
    chunk (UInt8.ofNat (n / 64 % 32 + 192))
        (UInt8.ofNat (n % 64 + 128) :: rest)
      = .char (Char.ofNat n) rest := by
  have hfirst := toNat_byte (n := n / 64 % 32 + 192) (by omega)
  have hvalue : (n / 64 % 32 + 192) % 32 * 64 + n % 64 = n := by omega
  simp only [chunk, UInt8.lt_iff_toNat_lt, UInt8.le_iff_toNat_le,
    UInt8.reduceToNat, Bool.and_eq_true, decide_eq_true_eq, hfirst]
  rw [if_neg (by omega), if_pos (by omega),
    if_pos (continues_byte (by omega)), tailBits_byte (by omega), hvalue]

theorem chunk_three {n : Nat} (hlow : 0x7FF < n) (h : n ≤ 0xFFFF)
    (hvalid : n < 0xD800 ∨ 0xDFFF < n) (rest : List UInt8) :
    chunk (UInt8.ofNat (n / 4096 % 16 + 224))
        (UInt8.ofNat (n / 64 % 64 + 128)
          :: UInt8.ofNat (n % 64 + 128) :: rest)
      = .char (Char.ofNat n) rest := by
  have hfirst := toNat_byte (n := n / 4096 % 16 + 224) (by omega)
  have hsecond := toNat_byte (n := n / 64 % 64 + 128) (by omega)
  have hfollow : mayFollow (UInt8.ofNat (n / 4096 % 16 + 224))
      (UInt8.ofNat (n / 64 % 64 + 128)) = true := by
    rw [mayFollow_iff, hfirst, hsecond]
    omega
  have hvalue : ((n / 4096 % 16 + 224) % 16 * 64 + n / 64 % 64) * 64 + n % 64
      = n := by omega
  simp only [chunk, UInt8.lt_iff_toNat_lt, UInt8.le_iff_toNat_le,
    UInt8.reduceToNat, Bool.and_eq_true, decide_eq_true_eq, hfirst]
  rw [if_neg (by omega), if_neg (by omega), if_pos (by omega),
    if_pos hfollow, if_pos (continues_byte (by omega)),
    tailBits_byte (by omega), tailBits_byte (by omega), hvalue]

theorem chunk_four {n : Nat} (hlow : 0xFFFF < n) (h : n < 0x110000)
    (rest : List UInt8) :
    chunk (UInt8.ofNat (n / 262144 % 8 + 240))
        (UInt8.ofNat (n / 4096 % 64 + 128)
          :: UInt8.ofNat (n / 64 % 64 + 128)
          :: UInt8.ofNat (n % 64 + 128) :: rest)
      = .char (Char.ofNat n) rest := by
  have hfirst := toNat_byte (n := n / 262144 % 8 + 240) (by omega)
  have hsecond := toNat_byte (n := n / 4096 % 64 + 128) (by omega)
  have hfollow : mayFollow (UInt8.ofNat (n / 262144 % 8 + 240))
      (UInt8.ofNat (n / 4096 % 64 + 128)) = true := by
    rw [mayFollow_iff, hfirst, hsecond]
    omega
  have hvalue : (((n / 262144 % 8 + 240) % 8 * 64 + n / 4096 % 64) * 64
      + n / 64 % 64) * 64 + n % 64 = n := by omega
  simp only [chunk, UInt8.lt_iff_toNat_lt, UInt8.le_iff_toNat_le,
    UInt8.reduceToNat, Bool.and_eq_true, decide_eq_true_eq, hfirst]
  rw [if_neg (by omega), if_neg (by omega), if_neg (by omega),
    if_pos (by omega), if_pos hfollow, if_pos (continues_byte (by omega)),
    if_pos (continues_byte (by omega)), tailBits_byte (by omega),
    tailBits_byte (by omega), tailBits_byte (by omega), hvalue]

/-- The bytes of a character stand at the front as that character. -/
theorem chunk_utf8EncodeChar (c : Char) (rest : List UInt8) :
    ∃ a tail, String.utf8EncodeChar c = a :: tail
      ∧ chunk a (tail ++ rest) = .char c rest := by
  have hvalid : c.toNat < 0xD800 ∨ 0xDFFF < c.toNat ∧ c.toNat < 0x110000 :=
    c.valid
  have hc : Char.ofNat c.toNat = c := Char.ofNat_toNat c
  by_cases hone : c.toNat ≤ 0x7F
  · exact ⟨_, _, if_pos hone, (chunk_one hone rest).trans (by rw [hc])⟩
  by_cases htwo : c.toNat ≤ 0x7FF
  · exact ⟨_, _, (if_neg hone).trans (if_pos htwo),
      (chunk_two (by omega) htwo rest).trans (by rw [hc])⟩
  by_cases hthree : c.toNat ≤ 0xFFFF
  · exact ⟨_, _, (if_neg hone).trans ((if_neg htwo).trans (if_pos hthree)),
      (chunk_three (by omega) hthree (by omega) rest).trans (by rw [hc])⟩
  · exact ⟨_, _, (if_neg hone).trans ((if_neg htwo).trans (if_neg hthree)),
      (chunk_four (n := c.toNat) (by omega) (by omega) rest).trans
        (by rw [hc])⟩

/-! ## Characters from their bytes -/

theorem utf8EncodeChar_ofNat {n : Nat} (h : n.isValidChar) :
    String.utf8EncodeChar (Char.ofNat n)
      = if n ≤ 0x7F then [UInt8.ofNat n]
        else if n ≤ 0x7FF then
          [UInt8.ofNat (n / 64 % 32 + 192), UInt8.ofNat (n % 64 + 128)]
        else if n ≤ 0xFFFF then
          [UInt8.ofNat (n / 4096 % 16 + 224),
            UInt8.ofNat (n / 64 % 64 + 128), UInt8.ofNat (n % 64 + 128)]
        else
          [UInt8.ofNat (n / 262144 % 8 + 240),
            UInt8.ofNat (n / 4096 % 64 + 128),
            UInt8.ofNat (n / 64 % 64 + 128), UInt8.ofNat (n % 64 + 128)] := by
  have hn : (Char.ofNat n).val.toNat = n := by
    rw [Char.ofNat, dif_pos h]
    rfl
  rw [String.utf8EncodeChar, hn]

theorem ofNat_eq_byte {n : Nat} {b : UInt8} (h : n = b.toNat) :
    UInt8.ofNat n = b := by
  rw [h, UInt8.ofNat_toNat]

theorem utf8EncodeChar_one {a : UInt8} (h : a.toNat < 0x80) :
    String.utf8EncodeChar (Char.ofNat a.toNat) = [a] := by
  rw [utf8EncodeChar_ofNat (.inl (by omega)), if_pos (by omega),
    UInt8.ofNat_toNat]

theorem utf8EncodeChar_two {a b : UInt8} (hlow : 0xC2 ≤ a.toNat)
    (hhigh : a.toNat ≤ 0xDF) (hb : continues b = true) :
    String.utf8EncodeChar (Char.ofNat (a.toNat % 32 * 64 + tailBits b))
      = [a, b] := by
  rw [continues_iff] at hb
  have hn : a.toNat % 32 * 64 + tailBits b
      = (a.toNat - 192) * 64 + (b.toNat - 128) := by
    rw [tailBits]
    omega
  rw [hn, utf8EncodeChar_ofNat (.inl (by omega)), if_neg (by omega),
    if_pos (by omega), ofNat_eq_byte (b := a) (by omega),
    ofNat_eq_byte (b := b) (by omega)]

theorem utf8EncodeChar_three {a b c : UInt8} (hlow : 0xE0 ≤ a.toNat)
    (hhigh : a.toNat ≤ 0xEF) (hb : mayFollow a b = true)
    (hc : continues c = true) :
    String.utf8EncodeChar (Char.ofNat
        ((a.toNat % 16 * 64 + tailBits b) * 64 + tailBits c))
      = [a, b, c] := by
  rw [mayFollow_iff] at hb
  rw [continues_iff] at hc
  have hn : (a.toNat % 16 * 64 + tailBits b) * 64 + tailBits c
      = ((a.toNat - 224) * 64 + (b.toNat - 128)) * 64 + (c.toNat - 128) := by
    rw [tailBits, tailBits]
    omega
  rw [hn, utf8EncodeChar_ofNat (by unfold Nat.isValidChar; omega),
    if_neg (by omega), if_neg (by omega), if_pos (by omega),
    ofNat_eq_byte (b := a) (by omega), ofNat_eq_byte (b := b) (by omega),
    ofNat_eq_byte (b := c) (by omega)]

theorem utf8EncodeChar_four {a b c d : UInt8} (hlow : 0xF0 ≤ a.toNat)
    (hhigh : a.toNat ≤ 0xF4) (hb : mayFollow a b = true)
    (hc : continues c = true) (hd : continues d = true) :
    String.utf8EncodeChar (Char.ofNat
        (((a.toNat % 8 * 64 + tailBits b) * 64 + tailBits c) * 64
          + tailBits d))
      = [a, b, c, d] := by
  rw [mayFollow_iff] at hb
  rw [continues_iff] at hc hd
  have hn : ((a.toNat % 8 * 64 + tailBits b) * 64 + tailBits c) * 64
        + tailBits d
      = (((a.toNat - 240) * 64 + (b.toNat - 128)) * 64 + (c.toNat - 128)) * 64
        + (d.toNat - 128) := by
    rw [tailBits, tailBits, tailBits]
    omega
  rw [hn, utf8EncodeChar_ofNat (.inr (by omega)), if_neg (by omega),
    if_neg (by omega), if_neg (by omega), ofNat_eq_byte (b := a) (by omega),
    ofNat_eq_byte (b := b) (by omega), ofNat_eq_byte (b := c) (by omega),
    ofNat_eq_byte (b := d) (by omega)]

/-- A character at the front takes up just its bytes. -/
theorem eq_utf8EncodeChar_of_chunk {a : UInt8} {c : Char}
    {rest after : List UInt8} (h : chunk a rest = .char c after) :
    a :: rest = String.utf8EncodeChar c ++ after := by
  revert h
  simp only [chunk, UInt8.lt_iff_toNat_lt, UInt8.le_iff_toNat_le,
    UInt8.reduceToNat, Bool.and_eq_true, decide_eq_true_eq]
  split
  · next hone =>
      rintro ⟨⟩
      rw [utf8EncodeChar_one hone]
      rfl
  split
  · next htwo =>
      repeat' split
      all_goals rintro ⟨⟩
      next b _ hb =>
        rw [utf8EncodeChar_two htwo.1 htwo.2 hb]
        rfl
  split
  · next hthree =>
      repeat' split
      all_goals rintro ⟨⟩
      next b hb _ _ hc =>
        rw [utf8EncodeChar_three hthree.1 hthree.2 hb hc]
        rfl
  split
  · next hfour =>
      repeat' split
      all_goals rintro ⟨⟩
      next b hb _ _ hc _ _ hd =>
        rw [utf8EncodeChar_four hfour.1 hfour.2 hb hc hd]
        rfl
  · rintro ⟨⟩

/-! ## Texts -/

/-- A text is read back from its bytes. -/
theorem decode?_encode (cs : List Char) : decode? (encode cs) = some cs := by
  induction cs with
  | nil => rw [encode, List.flatMap_nil, decode?]
  | cons c cs ih =>
      obtain ⟨a, tail, hbytes, hchunk⟩ := chunk_utf8EncodeChar c (encode cs)
      have hfront : encode (c :: cs) = a :: (tail ++ encode cs) := by
        rw [encode, List.flatMap_cons, hbytes]
        rfl
      rw [hfront, decode?]
      split
      · next c' r h =>
          rw [hchunk] at h
          cases h
          rw [ih]
          rfl
      · next r h =>
          rw [hchunk] at h
          cases h

/-- Only the bytes of a text are read as text. -/
theorem eq_encode_of_decode? {bytes : List UInt8} {cs : List Char}
    (h : decode? bytes = some cs) : bytes = encode cs := by
  fun_induction decode? bytes generalizing cs with
  | case1 =>
      cases h
      rfl
  | case2 a rest c after hchunk ih =>
      obtain ⟨more, hmore, rfl⟩ := Option.map_eq_some_iff.mp h
      rw [eq_utf8EncodeChar_of_chunk hchunk, ih hmore]
      rfl
  | case3 => cases h

theorem decode?_eq_some_iff {bytes : List UInt8} {cs : List Char} :
    decode? bytes = some cs ↔ bytes = encode cs :=
  ⟨eq_encode_of_decode?, fun h => h ▸ decode?_encode cs⟩

end Gateway.Text
