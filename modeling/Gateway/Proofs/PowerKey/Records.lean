import Gateway.PowerKey.Device
import Mathlib.Data.List.Infix

/-!
# Records read back

A key device is a sequence of records and perhaps the start of another one
(`exists_records`), and what the reader hands on are the watched key's
transitions in these records (`watched_forwarded`).

The buffer is filled in place and used for every record, by reads of any
size. Once it is full, nothing in it is left of what it held before
(`fill?_record`): so one turn of the reader takes just one record off the
device and hands on what this record says (`turn_record`), and a run over
all records follows by induction over them (`run_records`).
-/

namespace Gateway.PowerKey

/-! ## Records and their bytes -/

/-- A number in so many bytes, the lowest first. -/
def lowFirst : Nat → Nat → List UInt8
  | 0, _ => []
  | size + 1, n => UInt8.ofNat n :: lowFirst size (n / 256)

/-- What stands in a record. -/
structure Record where
  stamp : Vector UInt8 16
  kind : UInt16
  code : UInt16
  value : Int32

namespace Record

/-- A record as it is read; a negative value is in two's complement. -/
def bytes (r : Record) : List UInt8 :=
  r.stamp.toList ++ (lowFirst 2 r.kind.toNat ++ lowFirst 2 r.code.toNat
    ++ lowFirst 4 r.value.toUInt32.toNat)

/-- The transition of the watched key that a record tells of, if any. -/
def transition? (keyCode : Nat) (r : Record) : Option Transition :=
  if r.kind = 1 ∧ r.code.toNat = keyCode then
    if r.value = 1 then some .down
    else if r.value = 0 then some .up
    else none
  else none

def event (r : Record) : InputEvent :=
  ⟨r.kind.toNat, r.code.toNat, r.value.toInt⟩

end Record

theorem word_lowFirst {n : Nat} (h : n < 65536) :
    InputEvent.word (UInt8.ofNat n) (UInt8.ofNat (n / 256)) = n := by
  rw [InputEvent.word, UInt8.toNat_ofNat', UInt8.toNat_ofNat']
  omega

/-- A value is read with its sign. -/
theorem signedWord_lowFirst (v : Int32) :
    InputEvent.signedWord (UInt8.ofNat v.toUInt32.toNat)
        (UInt8.ofNat (v.toUInt32.toNat / 256))
        (UInt8.ofNat (v.toUInt32.toNat / 256 / 256))
        (UInt8.ofNat (v.toUInt32.toNat / 256 / 256 / 256))
      = v.toInt := by
  have hsize : v.toUInt32.toNat < 4294967296 := v.toUInt32.toNat_lt
  have hsign : v.toInt = if 2 * v.toUInt32.toNat < 4294967296
      then (v.toUInt32.toNat : Int) else v.toUInt32.toNat - 4294967296 :=
    BitVec.toInt_eq_toNat_cond v.toBitVec
  have hhalf : Nat.pow 2 31 = 2147483648 := rfl
  have hwhole : Nat.pow 2 32 = 4294967296 := rfl
  rw [hsign]
  simp only [InputEvent.signedWord, InputEvent.word, UInt8.toNat_ofNat',
    Nat.reducePow, hhalf, hwhole]
  generalize v.toUInt32.toNat = n at *
  have hn : n % 256 + 256 * (n / 256 % 256)
      + 65536 * (n / 256 / 256 % 256 + 256 * (n / 256 / 256 / 256 % 256))
      = n := by omega
  rw [hn]
  split <;> split <;> omega

theorem Record.length_bytes (r : Record) : r.bytes.length = recordSize := by
  simp [bytes, lowFirst, recordSize]

theorem Record.parse?_bytes (r : Record) :
    InputEvent.parse? r.bytes = some r.event := by
  have hbody : r.bytes.drop 16 = lowFirst 2 r.kind.toNat
      ++ lowFirst 2 r.code.toNat ++ lowFirst 4 r.value.toUInt32.toNat :=
    List.drop_left' r.stamp.length_toList
  rw [InputEvent.parse?, hbody]
  simp only [lowFirst, List.cons_append, List.nil_append]
  rw [word_lowFirst r.kind.toNat_lt, word_lowFirst r.code.toNat_lt,
    signedWord_lowFirst]
  rfl

/-- What is read of a record says of the watched key what the record
says. -/
theorem Record.transition?_event (r : Record) (keyCode : Nat) :
    r.event.transition? keyCode = r.transition? keyCode := by
  have hkind : r.kind = 1 ↔ r.kind.toNat = keyType := UInt16.toNat_inj.symm
  have hdown : r.value = 1 ↔ r.value.toInt = 1 := Int32.toInt_inj.symm
  have hup : r.value = 0 ↔ r.value.toInt = 0 := Int32.toInt_inj.symm
  simp only [InputEvent.transition?, Record.transition?, event, hkind, hdown,
    hup, ne_eq, ← not_and_or, ite_not]
  congr

/-! ## A device is made of records -/

theorem lowFirst_word (a b : UInt8) :
    lowFirst 2 (InputEvent.word a b) = [a, b] := by
  have ha := a.toNat_lt
  have hb := b.toNat_lt
  simp only [lowFirst, InputEvent.word, List.cons.injEq, and_true,
    ← UInt8.toNat_inj, UInt8.toNat_ofNat']
  omega

theorem lowFirst_words (a b c d : UInt8) :
    lowFirst 4 (InputEvent.word a b + 65536 * InputEvent.word c d)
      = [a, b, c, d] := by
  have ha := a.toNat_lt
  have hb := b.toNat_lt
  have hc := c.toNat_lt
  have hd := d.toNat_lt
  simp only [lowFirst, InputEvent.word, List.cons.injEq, and_true,
    ← UInt8.toNat_inj, UInt8.toNat_ofNat']
  omega

theorem word_lt (a b : UInt8) : InputEvent.word a b < 65536 := by
  have ha := a.toNat_lt
  have hb := b.toNat_lt
  rw [InputEvent.word]
  omega

/-- Whatever stands in as many bytes, they are a record. -/
theorem exists_record {bytes : List UInt8} (h : bytes.length = recordSize) :
    ∃ r : Record, r.bytes = bytes := by
  have hstamp : (bytes.take 16).length = 16 := by
    rw [List.length_take, h]
    rfl
  have hbody : (bytes.drop 16).length = 8 := by
    rw [List.length_drop, h]
    rfl
  rw [← List.take_append_drop 16 bytes]
  match bytes.drop 16, hbody with
  | [k₀, k₁, c₀, c₁, v₀, v₁, v₂, v₃], _ =>
    have hvalue : InputEvent.word v₀ v₁ + 65536 * InputEvent.word v₂ v₃
        < UInt32.size := by
      have hlow := word_lt v₀ v₁
      have hhigh := word_lt v₂ v₃
      simp only [UInt32.size]
      omega
    refine ⟨⟨⟨(bytes.take 16).toArray, by simpa using hstamp⟩,
      UInt16.ofNat (InputEvent.word k₀ k₁),
      UInt16.ofNat (InputEvent.word c₀ c₁),
      ⟨UInt32.ofNat
        (InputEvent.word v₀ v₁ + 65536 * InputEvent.word v₂ v₃)⟩⟩, ?_⟩
    rw [Record.bytes, UInt16.toNat_ofNat_of_lt' (word_lt k₀ k₁),
      UInt16.toNat_ofNat_of_lt' (word_lt c₀ c₁),
      UInt32.toNat_ofNat_of_lt' hvalue, lowFirst_word, lowFirst_word,
      lowFirst_words]
    rfl

/-- A device holds some records, and at its end perhaps a part of one. -/
theorem exists_records (bytes : List UInt8) :
    ∃ (records : List Record) (tail : List UInt8),
      bytes = records.flatMap Record.bytes ++ tail
        ∧ tail.length < recordSize := by
  by_cases hshort : bytes.length < recordSize
  · exact ⟨[], bytes, rfl, hshort⟩
  · have hfirst : (bytes.take recordSize).length = recordSize := by
      rw [List.length_take]
      omega
    obtain ⟨r, hr⟩ := exists_record hfirst
    obtain ⟨records, tail, hrest, htail⟩ :=
      exists_records (bytes.drop recordSize)
    refine ⟨r :: records, tail, ?_, htail⟩
    rw [List.flatMap_cons, List.append_assoc, ← hrest, hr,
      List.take_append_drop]
termination_by bytes.length
decreasing_by
  simp only [recordSize, List.length_drop] at *
  omega

/-! ## The buffer -/

theorem overwrite_overwrite {buffer : List UInt8} {place : Nat}
    (h : place ≤ buffer.length) (xs ys : List UInt8) :
    overwrite (overwrite buffer place xs) (place + xs.length) ys
      = overwrite buffer place (xs ++ ys) := by
  have hfront : (buffer.take place ++ xs).length = place + xs.length := by
    rw [List.length_append, List.length_take_of_le h]
  rw [overwrite, overwrite, List.take_left' hfront, ← hfront,
    List.drop_length_add_append, hfront, List.drop_drop, overwrite,
    List.length_append, Nat.add_assoc]
  simp only [List.append_assoc]

theorem length_overwrite_ge {buffer : List UInt8} {place : Nat}
    (h : place ≤ buffer.length) (bytes : List UInt8) :
    place + bytes.length ≤ (overwrite buffer place bytes).length := by
  rw [overwrite, List.length_append, List.length_append,
    List.length_take_of_le h]
  omega

namespace Stream

variable {portion : Nat → Nat} {s : Stream} {buffer : List UInt8}
  {filled : Nat}

/-- What one read gets while there is enough to come. -/
theorem read_eq_cons {s' : Stream} {b : UInt8} {more : List UInt8}
    {wanted : Nat} (h : s.read portion wanted = (b :: more, s'))
    (henough : wanted ≤ s.bytes.length) :
    more.length + 1 ≤ wanted
      ∧ s.bytes.take (more.length + 1) = b :: more
      ∧ s'.bytes = s.bytes.drop (more.length + 1) := by
  obtain ⟨hgot, hleft⟩ := Prod.mk.inj h
  have hsize := congrArg List.length hgot
  rw [List.length_take, List.length_cons] at hsize
  have hcount : min wanted (portion s.reads + 1) = more.length + 1 := by omega
  rw [hcount] at hgot hleft
  exact ⟨by omega, hgot, by rw [← hleft]⟩

variable (portion) in
/-- However little a read gets, in the end the buffer holds all it was to
be filled with. -/
theorem fill?_eq_some (hplace : filled ≤ buffer.length)
    (henough : recordSize - filled ≤ s.bytes.length) :
    ∃ reads, s.fill? portion buffer filled
      = some (overwrite buffer filled (s.bytes.take (recordSize - filled)),
        ⟨s.bytes.drop (recordSize - filled), reads⟩) := by
  fun_induction fill? portion s buffer filled with
  | case1 s buffer filled hmore s' hread =>
      have hnone := congrArg List.length (Prod.mk.inj hread).1
      rw [List.length_take, List.length_nil] at hnone
      omega
  | case2 s buffer filled hmore b more s' hread ih =>
      obtain ⟨hcount, hgot, hleft⟩ := read_eq_cons hread henough
      have hplace' := length_overwrite_ge hplace (b :: more)
      have hrest : recordSize - filled
          = more.length + 1 + (recordSize - (filled + (more.length + 1))) := by
        omega
      obtain ⟨reads, hfill⟩ := ih hplace' (by
        rw [hleft, List.length_drop]
        omega)
      refine ⟨reads, hfill.trans ?_⟩
      rw [hleft, hrest, List.take_add, hgot, List.drop_drop,
        ← overwrite_overwrite hplace]
      rfl
  | case3 s buffer filled hfull =>
      have hnothing : recordSize - filled = 0 := by omega
      refine ⟨s.reads, ?_⟩
      rw [hnothing, List.take_zero, List.drop_zero, overwrite,
        List.append_nil, List.length_nil, Nat.add_zero,
        List.take_append_drop]

theorem fill?_eq_none (hshort : s.bytes.length < recordSize - filled) :
    s.fill? portion buffer filled = none := by
  fun_induction fill? portion s buffer filled with
  | case1 => rfl
  | case2 s buffer filled hmore b more s' hread ih =>
      have hlength := s.length_read portion (recordSize - filled)
      simp only [hread, List.length_cons] at hlength
      exact ih (by omega)
  | case3 => omega

variable (portion) in
/-- A buffer that is filled holds the next record and nothing else. -/
theorem fill?_record {r : Record} {rest : List UInt8}
    (hbuffer : buffer.length = recordSize) (hnext : s.bytes = r.bytes ++ rest) :
    ∃ reads, s.fill? portion buffer 0 = some (r.bytes, ⟨rest, reads⟩) := by
  have hsize := r.length_bytes
  have henough : recordSize - 0 ≤ s.bytes.length := by
    rw [hnext, List.length_append]
    omega
  obtain ⟨reads, hfill⟩ :=
    fill?_eq_some portion (Nat.zero_le buffer.length) henough
  refine ⟨reads, hfill.trans ?_⟩
  rw [Nat.sub_zero, hnext, List.take_left' hsize, List.drop_left' hsize,
    overwrite, Nat.zero_add, hsize, ← hbuffer, List.drop_length,
    List.take_zero, List.nil_append, List.append_nil]

end Stream

/-! ## Turns and runs of the reader -/

namespace Reader

variable {portion : Nat → Nat} {takes : Nat → Bool} {keyCode : Nat}
  {r : Reader}

variable (portion takes keyCode) in
/-- A turn reads the next record and hands on what it says. -/
theorem turn_record {record : Record} {rest : List UInt8}
    (hbuffer : r.buffer.length = recordSize)
    (hnext : r.stream.bytes = record.bytes ++ rest) :
    ∃ reads, r.turn portion takes keyCode
      = match record.transition? keyCode with
        | none => .ok ⟨⟨rest, reads⟩, record.bytes, r.sent⟩
        | some t =>
          if takes r.sent.length then
            .ok ⟨⟨rest, reads⟩, record.bytes, r.sent ++ [t]⟩
          else .error .refused := by
  obtain ⟨reads, hfill⟩ := Stream.fill?_record portion hbuffer hnext
  refine ⟨reads, ?_⟩
  have hsays : (InputEvent.parse? record.bytes).bind (·.transition? keyCode)
      = record.transition? keyCode := by
    rw [record.parse?_bytes]
    exact record.transition?_event keyCode
  cases htransition : record.transition? keyCode <;>
    simp only [turn, hfill, hsays, htransition]

theorem turn_short (h : r.stream.bytes.length < recordSize) :
    r.turn portion takes keyCode = .error .ended := by
  rw [turn, Stream.fill?_eq_none h]

theorem run_of_ok {next : Reader} (h : r.turn portion takes keyCode = .ok next) :
    r.run portion takes keyCode = next.run portion takes keyCode := by
  rw [run]
  split <;> simp_all

theorem run_of_error {stop : Stop}
    (h : r.turn portion takes keyCode = .error stop) :
    r.run portion takes keyCode = (r, stop) := by
  rw [run]
  split <;> simp_all

end Reader

/-- Of the transitions that were seen, those up to the first one that is not
taken were handed on: all of them, and then reading went on to the end, or
those before this one, where reading stopped. -/
def HandedOn (takes : Nat → Bool) (seen sent : List Transition)
    (stop : Stop) : Prop :=
  sent <+: seen ∧ (∀ n < sent.length, takes n = true)
    ∧ (stop = .ended ∧ sent = seen
      ∨ stop = .refused ∧ sent.length < seen.length
        ∧ takes sent.length = false)

theorem HandedOn.unique {takes : Nat → Bool} {seen sent sent' : List Transition}
    {stop stop' : Stop} (h : HandedOn takes seen sent stop)
    (h' : HandedOn takes seen sent' stop') : sent = sent' ∧ stop = stop' := by
  have hle : ∀ {a b : List Transition} {s t : Stop}, HandedOn takes seen a s →
      HandedOn takes seen b t → b.length ≤ a.length := by
    rintro a b s t ⟨-, -, ha⟩ ⟨hb, htaken, -⟩
    rcases ha with ⟨-, rfl⟩ | ⟨-, -, hrefused⟩
    · exact hb.length_le
    · by_contra hlt
      rw [htaken a.length (by omega)] at hrefused
      cases hrefused
  have hlength := Nat.le_antisymm (hle h' h) (hle h h')
  obtain rfl : sent = sent' :=
    (List.prefix_of_prefix_length_le h.1 h'.1 hlength.le).eq_of_length hlength
  refine ⟨rfl, ?_⟩
  rcases h.2.2 with ⟨rfl, hall⟩ | ⟨rfl, hfew, -⟩ <;>
    rcases h'.2.2 with ⟨rfl, hall'⟩ | ⟨rfl, hfew', -⟩ <;>
    simp_all

/-- The reader goes through the records one by one. -/
theorem Reader.run_records {portion : Nat → Nat} {takes : Nat → Bool}
    {keyCode : Nat} {records : List Record} {tail : List UInt8} {r : Reader}
    (htail : tail.length < recordSize)
    (hbuffer : r.buffer.length = recordSize)
    (hbytes : r.stream.bytes = records.flatMap Record.bytes ++ tail)
    (htaken : ∀ n < r.sent.length, takes n = true) :
    HandedOn takes
      (r.sent ++ records.filterMap (Record.transition? keyCode))
      (r.run portion takes keyCode).1.sent
      (r.run portion takes keyCode).2 := by
  induction records generalizing r with
  | nil =>
      have hshort : r.stream.bytes.length < recordSize := by
        rwa [hbytes]
      rw [run_of_error (turn_short hshort), List.filterMap_nil,
        List.append_nil]
      exact ⟨List.prefix_rfl, htaken, .inl ⟨rfl, rfl⟩⟩
  | cons record records ih =>
      rw [List.flatMap_cons, List.append_assoc] at hbytes
      obtain ⟨reads, hturn⟩ :=
        turn_record portion takes keyCode hbuffer hbytes
      cases htransition : record.transition? keyCode with
      | none =>
          rw [htransition] at hturn
          rw [run_of_ok hturn, List.filterMap_cons_none htransition]
          exact ih record.length_bytes rfl htaken
      | some t =>
          rw [htransition] at hturn
          dsimp only at hturn
          rw [List.filterMap_cons_some htransition]
          cases htakes : takes r.sent.length with
          | true =>
              rw [htakes, if_pos rfl] at hturn
              rw [run_of_ok hturn, ← List.singleton_append,
                ← List.append_assoc]
              refine ih record.length_bytes rfl fun n hn => ?_
              rw [List.length_append, List.length_singleton] at hn
              obtain hn | rfl : n < r.sent.length ∨ n = r.sent.length := by
                omega
              · exact htaken n hn
              · exact htakes
          | false =>
              rw [htakes, if_neg Bool.false_ne_true] at hturn
              rw [run_of_error hturn]
              exact ⟨List.prefix_append _ _, htaken,
                .inr ⟨rfl, by simp, htakes⟩⟩

theorem Reader.run_start (records : List Record) {tail : List UInt8}
    (htail : tail.length < recordSize) (portion : Nat → Nat)
    (takes : Nat → Bool) (keyCode : Nat) :
    HandedOn takes (records.filterMap (Record.transition? keyCode))
      ((start (records.flatMap Record.bytes ++ tail)).run portion takes
        keyCode).1.sent
      ((start (records.flatMap Record.bytes ++ tail)).run portion takes
        keyCode).2 :=
  run_records (r := start (records.flatMap Record.bytes ++ tail)) htail
    List.length_replicate rfl fun _ hn => absurd hn (Nat.not_lt_zero _)

/-- What reading a key device hands on. All bytes are records, but for a
part of one at the end; and of the watched key's transitions in these, in
order, those before the first that is not taken are handed on, whatever the
other records and that part are and in whatever portions the bytes come. So
all transitions of written records are read back while each of them is
taken. -/
theorem watched_forwarded :
    (∀ bytes : List UInt8, ∃ (records : List Record) (tail : List UInt8),
        bytes = records.flatMap Record.bytes ++ tail
          ∧ tail.length < recordSize)
      ∧ (∀ (records : List Record) (tail : List UInt8),
        tail.length < recordSize → ∀ (takes : Nat → Bool) (keyCode : Nat),
          let bytes := records.flatMap Record.bytes ++ tail
          ∃ stop, HandedOn takes
              (records.filterMap (Record.transition? keyCode))
              (forwarded takes keyCode bytes) stop
            ∧ ∀ portion, ∃ last,
              (Reader.start bytes).run portion takes keyCode = (last, stop)
                ∧ last.sent = forwarded takes keyCode bytes)
      ∧ ∀ (records : List Record) (keyCode : Nat),
        forwarded (fun _ => true) keyCode (records.flatMap Record.bytes)
          = records.filterMap (Record.transition? keyCode) := by
  refine ⟨exists_records, fun records tail htail takes keyCode => ?_,
    fun records keyCode => ?_⟩
  · have hwhole := Reader.run_start records htail
      (fun _ => recordSize) takes keyCode
    refine ⟨_, hwhole, fun portion => ?_⟩
    obtain ⟨hsent, hstop⟩ := HandedOn.unique
      (Reader.run_start records htail portion takes keyCode)
      hwhole
    exact ⟨_, Prod.ext rfl hstop, hsent⟩
  · have hnone : ([] : List UInt8).length < recordSize := by decide
    have hwhole := Reader.run_start records hnone
      (fun _ => recordSize) (fun _ => true) keyCode
    rw [List.append_nil] at hwhole
    rcases hwhole.2.2 with ⟨-, hall⟩ | ⟨-, -, hrefused⟩
    · exact hall
    · cases hrefused

/-- Other keys' records and repetitions lie between two transitions, and
half a record at the end; nobody takes the second transition. -/
theorem watched_forwarded_refused :
    let record : UInt16 → UInt16 → Int32 → Record := fun kind code value =>
      ⟨Vector.replicate 16 255, kind, code, value⟩
    let records := [record 0 0 0, record 1 116 1, record 1 30 0,
      record 1 116 2, record 1 116 (-1), record 1 372 1, record 1 116 0,
      record 1 116 1]
    let tail : List UInt8 := List.replicate 16 0 ++ [1, 0, 116, 0, 1, 0, 0]
    tail.length < recordSize
      ∧ ∃ last, (Reader.start (records.flatMap Record.bytes ++ tail)).run
          (fun n => n % 3) (· < 1) 116 = (last, .refused)
        ∧ last.sent = [.down] := by
  intro record records tail
  have htail : tail.length < recordSize := by decide
  refine ⟨htail, ?_⟩
  obtain ⟨stop, hhanded, hruns⟩ :=
    watched_forwarded.2.1 records tail htail (· < 1) 116
  have hseen : records.filterMap (Record.transition? 116)
      = [.down, .up, .down] := by decide
  have hfirst : HandedOn (· < 1) [.down, .up, .down] [.down] .refused :=
    ⟨by decide, by decide, .inr ⟨rfl, by decide, rfl⟩⟩
  rw [hseen] at hhanded
  obtain ⟨hsent, rfl⟩ := hhanded.unique hfirst
  obtain ⟨last, hrun, hlast⟩ := hruns fun n => n % 3
  exact ⟨last, hrun, hlast.trans hsent⟩

end Gateway.PowerKey
