import ContentNode.Proofs.Store.Record.Coding

/-!
# What is accepted as a record

A byte string is a record when its header fits the bytes behind it and these hold a
moment and a payload.  Nothing else is accepted, whatever lengths it states, and
what is taken from a record without idle bytes at its end is written as that record
again.
-/

namespace ContentNode.Record

open Bytes

variable {createdAt : Instant} {address : Address} {payload bytes body : ByteArray}
  {result : Instant × ByteArray} {object : StoredObject}

/-- The bytes behind the header. -/
def bodyOf (bytes : ByteArray) : ByteArray := bytes.extract 12 bytes.size

/-- The length that a body states for its payload. -/
def payloadLength (body : ByteArray) : Nat := field body 8 16

/-- The moment that a body states, in milliseconds. -/
def moment (body : ByteArray) : Int := LittleEndian.signed64 (field body 0 8)

/-- A header that fits the bytes behind it. -/
structure Framed (bytes : ByteArray) : Prop where
  long : 12 ≤ bytes.size
  marked : bytes.extract 0 4 = "CAS1".toUTF8
  length : field bytes 4 8 = bytes.size - 12
  checked : field bytes 8 12 = (Digest.Crc32.checksum (bodyOf bytes)).toNat

/-- A body that holds a moment and a payload.  Bytes may follow the payload. -/
structure Filled (body : ByteArray) : Prop where
  long : 16 ≤ body.size
  within : payloadLength body ≤ body.size - 16
  earliest : earliest ≤ moment body
  latest : moment body ≤ latest

/-- The payload of a body: as many bytes as it states, behind the two integers. -/
def payloadOf (body : ByteArray) : ByteArray := body.extract 16 (16 + payloadLength body)

/-! ### Ranges and the integers in them -/

/-- The beginning of a byte string in two parts. -/
theorem extract_append_rest {middle stop : Nat} (ordered : middle ≤ stop) :
    bytes.extract 0 middle ++ bytes.extract middle stop = bytes.extract 0 stop := by
  rw [ByteArray.extract_append_extract, Nat.zero_min, Nat.max_eq_right ordered]

theorem length_extract (start width : Nat) (within : start + width ≤ bytes.size) :
    (bytes.extract start (start + width)).data.toList.length = width := by
  change (bytes.extract start (start + width)).size = width
  rw [ByteArray.size_extract, Nat.min_eq_left within, Nat.add_sub_cancel_left]

/-- A range of bytes is that of the number in it. -/
theorem ofList_encode_field (start width : Nat) (within : start + width ≤ bytes.size) :
    ofList (LittleEndian.encode width (field bytes start (start + width))) =
      bytes.extract start (start + width) := by
  have read := LittleEndian.encode_decode (bytes.extract start (start + width)).data.toList
  rw [length_extract start width within] at read
  rw [field, read]
  rfl

/-- The number in a range is bounded by the width of the range. -/
theorem field_lt (start width : Nat) (within : start + width ≤ bytes.size) :
    field bytes start (start + width) < Nat.pow 256 width := by
  have small := LittleEndian.decode_lt (bytes.extract start (start + width)).data.toList
  rwa [length_extract start width within] at small

theorem size_bodyOf (bytes : ByteArray) : (bodyOf bytes).size = bytes.size - 12 := by
  rw [bodyOf, ByteArray.size_extract, Nat.min_self]

theorem size_payloadOf (filled : Filled body) : (payloadOf body).size = payloadLength body := by
  have within := filled.within
  have long := filled.long
  rw [payloadOf, ByteArray.size_extract]
  omega

/-! ### Accepting -/

/-- A body is accepted when it is filled. -/
theorem decodeBody_eq_ok_iff :
    decodeBody body = .ok result ↔
      Filled body ∧ result = (Instant.ofMilliseconds (moment body), payloadOf body) := by
  unfold decodeBody
  split
  · next short => exact ⟨nofun, fun ⟨filled, _⟩ => absurd filled.long (Nat.not_le_of_lt short)⟩
  · next long =>
      dsimp only
      split
      · next cut => exact ⟨nofun, fun ⟨filled, _⟩ => absurd filled.within (Nat.not_le_of_lt cut)⟩
      · next within =>
          split
          · next timely =>
              have filled : Filled body :=
                ⟨Nat.le_of_not_lt long, Nat.le_of_not_lt within, timely.1, timely.2⟩
              exact ⟨fun same => ⟨filled, (Except.ok.inj same).symm⟩,
                fun ⟨_, same⟩ => congrArg Except.ok same.symm⟩
          · next untimely =>
              exact ⟨nofun, fun ⟨filled, _⟩ => absurd ⟨filled.earliest, filled.latest⟩ untimely⟩

/-- The mark is that of four letters. -/
theorem ofList_mark : ofList mark = "CAS1".toUTF8 := rfl

/-- A byte string is accepted when its header fits and its body is accepted. -/
theorem decode_eq_ok_iff :
    decode bytes = .ok result ↔ Framed bytes ∧ decodeBody (bodyOf bytes) = .ok result := by
  have rest : bytes.extract headerSize bytes.size = bodyOf bytes := rfl
  unfold decode
  split
  · next short => exact ⟨nofun, fun ⟨framed, _⟩ => absurd framed.long (Nat.not_le_of_lt short)⟩
  · next long =>
      split
      · next unmarked =>
          exact ⟨nofun, fun ⟨framed, _⟩ => absurd (congrArg (·.data.toList) framed.marked) unmarked⟩
      · next marked =>
          dsimp only
          rw [rest, size_bodyOf]
          split
          · next other => exact ⟨nofun, fun ⟨framed, _⟩ => absurd framed.length.symm other⟩
          · next length =>
              split
              · next other => exact ⟨nofun, fun ⟨framed, _⟩ => absurd framed.checked.symm other⟩
              · next checked =>
                  have letters : bytes.extract 0 4 = "CAS1".toUTF8 := by
                    rw [← ofList_mark, ← Decidable.not_not.mp marked]
                    rfl
                  exact (and_iff_right ⟨Nat.le_of_not_lt long, letters, (Decidable.not_not.mp length).symm,
                    (Decidable.not_not.mp checked).symm⟩).symm

/-- The object that a record holds, under the address that was asked for. -/
def objectOf (address : Address) (bytes : ByteArray) : StoredObject :=
  ⟨address, payloadOf (bodyOf bytes), Instant.ofMilliseconds (moment (bodyOf bytes))⟩

theorem decodeObject_eq_ok_iff :
    decodeObject address bytes = .ok object ↔
      (Framed bytes ∧ Filled (bodyOf bytes)) ∧ object = objectOf address bytes := by
  have accepted : ∀ result, decode bytes = .ok result ↔
      (Framed bytes ∧ Filled (bodyOf bytes)) ∧
        result = (Instant.ofMilliseconds (moment (bodyOf bytes)), payloadOf (bodyOf bytes)) := by
    intro result
    rw [decode_eq_ok_iff, decodeBody_eq_ok_iff, and_assoc]
  unfold decodeObject
  cases outcome : decode bytes with
  | ok result =>
      obtain ⟨legal, rfl⟩ := (accepted result).mp outcome
      rw [and_iff_right legal]
      exact ⟨fun same => (Except.ok.inj same).symm, fun same => congrArg Except.ok same.symm⟩
  | error damage =>
      refine ⟨nofun, fun ⟨legal, _⟩ => ?_⟩
      rw [(accepted _).mpr ⟨legal, rfl⟩] at outcome
      contradiction

/-- What is not accepted is reported as damage of the object. -/
theorem decodeObject_eq_corrupt (illegal : ¬ (Framed bytes ∧ Filled (bodyOf bytes))) :
    ∃ reason, decodeObject address bytes = .error (.corrupt address reason) := by
  cases outcome : decode bytes with
  | ok result =>
      have accepted : decodeObject address bytes = .ok ⟨address, result.2, result.1⟩ := by
        rw [decodeObject, outcome]
      exact absurd (decodeObject_eq_ok_iff.mp accepted).1 illegal
  | error damage => exact ⟨damage.message, by rw [decodeObject, outcome]⟩

/-! ### Writing again -/

/-- Framed bytes are the header of a body and that body. -/
theorem Framed.eq_header_append (framed : Framed bytes) :
    (bodyOf bytes).size < sizeLimit ∧ bytes = header (bodyOf bytes) ++ bodyOf bytes := by
  have long := framed.long
  have size : (bodyOf bytes).size = field bytes 4 8 := by rw [size_bodyOf, framed.length]
  refine ⟨size ▸ field_lt 4 4 (by omega), ?_⟩
  have length : ofList (LittleEndian.encode 4 (field bytes 4 8)) = bytes.extract 4 8 :=
    ofList_encode_field 4 4 (by omega)
  have check : ofList (LittleEndian.encode 4 (field bytes 8 12)) = bytes.extract 8 12 :=
    ofList_encode_field 8 4 long
  rw [header_eq, size, ← framed.checked, ofList_mark, ← framed.marked, length, check,
    extract_append_rest (by decide), extract_append_rest (by decide), bodyOf,
    extract_append_rest long, ByteArray.extract_zero_size]

/-- A body without idle bytes is that of its moment and its payload. -/
theorem body_of_filled (filled : Filled body) (exact : body.size = 16 + payloadLength body) :
    ContentNode.Record.body (Instant.ofMilliseconds (moment body)) (payloadOf body) = body := by
  have long := filled.long
  have milliseconds : (Instant.ofMilliseconds (moment body)).milliseconds = moment body :=
    Int.mul_fdiv_cancel _ (by decide)
  have word : LittleEndian.unsigned64 (moment body) = field body 0 8 :=
    LittleEndian.unsigned64_signed64 (field_lt 0 8 (by omega))
  have first : ofList (LittleEndian.encode 8 (field body 0 8)) = body.extract 0 8 :=
    ofList_encode_field 0 8 (by omega)
  have second : ofList (LittleEndian.encode 8 (field body 8 16)) = body.extract 8 16 :=
    ofList_encode_field 8 8 long
  rw [body_eq, milliseconds, word, first, size_payloadOf filled, payloadLength, second,
    extract_append_rest (by decide), payloadOf, ← exact, extract_append_rest long,
    ByteArray.extract_zero_size]

/-- What is read from a record without idle bytes is written as that record. -/
theorem encode_objectOf (framed : Framed bytes) (filled : Filled (bodyOf bytes))
    (exact : (bodyOf bytes).size = 16 + payloadLength (bodyOf bytes)) (address : Address) :
    encode (objectOf address bytes).createdAt (objectOf address bytes).payload = .ok bytes := by
  obtain ⟨short, whole⟩ := framed.eq_header_append
  have same := body_of_filled filled exact
  have fits : 16 + (payloadOf (bodyOf bytes)).size < sizeLimit := by
    rw [size_payloadOf filled, ← exact]
    exact short
  rw [objectOf, encode_eq_ok _ fits, same, ← whole]

/-- Objects whose payload is short enough are written and read back.  Exactly the byte
strings with a fitting header and a filled body are accepted, each as the object that
it holds; it is written as the same bytes if none are idle.  All others are damaged. -/
theorem frames (address : Address) :
    (∀ createdAt payload, 16 + payload.size < UInt32.size →
      ∃ record, encode createdAt payload = .ok record ∧ record.size = 28 + payload.size ∧
        (Timely createdAt → decodeObject address record =
          .ok ⟨address, payload, Instant.ofMilliseconds createdAt.milliseconds⟩)) ∧
    (∀ bytes object, decodeObject address bytes = .ok object ↔
      (Framed bytes ∧ Filled (bodyOf bytes)) ∧ object = objectOf address bytes) ∧
    (∀ bytes object, decodeObject address bytes = .ok object →
      (bodyOf bytes).size = 16 + payloadLength (bodyOf bytes) →
        encode object.createdAt object.payload = .ok bytes) ∧
    ∀ bytes, ¬ (Framed bytes ∧ Filled (bodyOf bytes)) →
      ∃ reason, decodeObject address bytes = .error (.corrupt address reason) := by
  refine ⟨fun createdAt payload short => ?_, fun _ _ => decodeObject_eq_ok_iff,
    fun bytes object accepted exact => ?_, fun _ => decodeObject_eq_corrupt⟩
  · have encoded := encode_eq_ok createdAt short
    refine ⟨_, encoded, size_of_encode encoded, fun timely => ?_⟩
    rw [decodeObject, decode_of_encode timely encoded]
  · obtain ⟨⟨framed, filled⟩, rfl⟩ := decodeObject_eq_ok_iff.mp accepted
    exact encode_objectOf framed filled exact address

/-! ### A letter -/

/-- The record of one letter, a millisecond after the beginning of 1970. -/
def plain : ByteArray :=
  ⟨#[67, 65, 83, 49, 17, 0, 0, 0, 115, 127, 135, 99, 1, 0, 0, 0, 0, 0, 0, 0, 1, 0, 0, 0, 0, 0, 0, 0,
    97]⟩

/-- The same with an idle letter at the end of the body. -/
def padded : ByteArray :=
  ⟨#[67, 65, 83, 49, 18, 0, 0, 0, 0, 72, 209, 184, 1, 0, 0, 0, 0, 0, 0, 0, 1, 0, 0, 0, 0, 0, 0, 0,
    97, 98]⟩

/-- A body that states a payload of more bytes than any file has. -/
def boundless : ByteArray :=
  ⟨#[1, 0, 0, 0, 0, 0, 0, 0, 255, 255, 255, 255, 255, 255, 255, 255]⟩

/-- A letter is written and read back, an idle byte behind it changes nothing of what is
read, and a fitting header does not make a record of a body that states too much. -/
theorem frames_of_letter :
    16 + (⟨#[97]⟩ : ByteArray).size < UInt32.size ∧ Timely 1000000 ∧
      encode 1000000 ⟨#[97]⟩ = .ok plain ∧ plain.size = 29 ∧
      decodeObject ⟨Vector.replicate 32 0⟩ plain =
        .ok ⟨⟨Vector.replicate 32 0⟩, ⟨#[97]⟩, 1000000⟩ ∧
      (bodyOf plain).size = 16 + payloadLength (bodyOf plain) ∧
      (Framed padded ∧ Filled (bodyOf padded)) ∧
      decodeObject ⟨Vector.replicate 32 0⟩ padded =
        .ok ⟨⟨Vector.replicate 32 0⟩, ⟨#[97]⟩, 1000000⟩ ∧
      Framed (header boundless ++ boundless) ∧
      ∃ reason, decodeObject ⟨Vector.replicate 32 0⟩ (header boundless ++ boundless) =
        .error (.corrupt ⟨Vector.replicate 32 0⟩ reason) := by
  obtain ⟨written, accepted, again, refused⟩ := frames ⟨Vector.replicate 32 0⟩
  have short : 16 + (⟨#[97]⟩ : ByteArray).size < UInt32.size := by decide
  have timely : Timely 1000000 := ⟨by decide, by decide⟩
  have whole : Instant.ofMilliseconds (Instant.milliseconds 1000000) = 1000000 := by decide
  have known : header (body 1000000 ⟨#[97]⟩) ++ body 1000000 ⟨#[97]⟩ = plain := by decide +kernel
  obtain ⟨record, encoded, size, read⟩ := written 1000000 ⟨#[97]⟩ short
  obtain rfl : plain = record := by
    rw [encode_eq_ok _ short, known] at encoded
    exact Except.ok.inj encoded
  replace read := read timely
  rw [whole] at read
  have exact : (bodyOf plain).size = 16 + payloadLength (bodyOf plain) := by decide +kernel
  have idle : Framed padded ∧ Filled (bodyOf padded) :=
    ⟨⟨by decide, by decide +kernel, by decide +kernel, by decide +kernel⟩,
      ⟨by decide +kernel, by decide +kernel, by decide +kernel, by decide +kernel⟩⟩
  have letter : objectOf ⟨Vector.replicate 32 0⟩ padded =
      ⟨⟨Vector.replicate 32 0⟩, ⟨#[97]⟩, 1000000⟩ := by
    have payload : payloadOf (bodyOf padded) = ⟨#[97]⟩ := by decide +kernel
    have moment : moment (bodyOf padded) = Instant.milliseconds 1000000 := by decide +kernel
    rw [objectOf, payload, moment, whole]
  have framed : Framed (header boundless ++ boundless) :=
    ⟨by decide +kernel, by decide +kernel, by decide +kernel, by decide +kernel⟩
  have overlong : ¬ Filled (bodyOf (header boundless ++ boundless)) := fun filled =>
    absurd filled.within (by decide +kernel)
  have same := again plain _ read exact
  exact ⟨short, timely, same, size, read, exact, idle,
    (accepted padded _).mpr ⟨idle, letter.symm⟩, framed, refused _ fun legal => overlong legal.2⟩

end ContentNode.Record
