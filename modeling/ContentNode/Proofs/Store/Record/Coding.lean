import ContentNode.Store.Record

/-!
# Records are read back

The record of an object is as long as its payload and a constant, and reading it
gives the payload and the moment of creation cut to milliseconds.
-/

namespace ContentNode.Record

open Bytes

variable {createdAt : Instant} {payload record : ByteArray}

/-- A moment that a record can have.  No clock shows another one. -/
def Timely (createdAt : Instant) : Prop :=
  earliest ≤ createdAt.milliseconds ∧ createdAt.milliseconds ≤ latest

/-! ### Ranges of bytes -/

theorem size_ofList (bytes : List UInt8) : (ofList bytes).size = bytes.length := rfl

theorem toList_ofList (bytes : List UInt8) : (ofList bytes).data.toList = bytes := rfl

theorem ofList_append (front back : List UInt8) :
    ofList (front ++ back) = ofList front ++ ofList back := by
  apply ByteArray.ext
  simp [ofList]

/-- A range between two byte strings. -/
theorem extract_middle (front middle back : ByteArray) :
    (front ++ middle ++ back).extract front.size (front.size + middle.size) = middle := by
  have skipped : (front ++ (middle ++ back)).extract (front.size + 0) (front.size + middle.size) =
      (middle ++ back).extract 0 middle.size := ByteArray.extract_append_size_add
  rw [ByteArray.append_assoc]
  exact skipped.trans (ByteArray.extract_append_eq_left rfl)

/-- An integer between two byte strings. -/
theorem field_middle (front back : ByteArray) (width : Nat) {number : Nat}
    (small : number < Nat.pow 256 width) :
    field (front ++ ofList (LittleEndian.encode width number) ++ back) front.size
      (front.size + width) = number := by
  have range := extract_middle front (ofList (LittleEndian.encode width number)) back
  rw [size_ofList, LittleEndian.length_encode] at range
  rw [field, range, toList_ofList, LittleEndian.decode_encode, Nat.mod_eq_of_lt small]

/-! ### Bodies -/

theorem body_eq (createdAt : Instant) (payload : ByteArray) :
    body createdAt payload =
      ofList (LittleEndian.encode 8 (LittleEndian.unsigned64 createdAt.milliseconds)) ++
        ofList (LittleEndian.encode 8 payload.size) ++ payload := by
  rw [body, ofList_append]

theorem size_body (createdAt : Instant) (payload : ByteArray) :
    (body createdAt payload).size = 16 + payload.size := by
  simp [body_eq, size_ofList]

/-- Reading a body gives the payload and the moment. -/
theorem decodeBody_body (timely : Timely createdAt) (short : payload.size < sizeLimit) :
    decodeBody (body createdAt payload) =
      .ok (Instant.ofMilliseconds createdAt.milliseconds, payload) := by
  have moment : field (body createdAt payload) 0 8 =
      LittleEndian.unsigned64 createdAt.milliseconds := by
    have read := field_middle ByteArray.empty
      (ofList (LittleEndian.encode 8 payload.size) ++ payload) 8
      (LittleEndian.unsigned64_lt createdAt.milliseconds)
    rwa [ByteArray.empty_append, ← ByteArray.append_assoc, ← body_eq] at read
  have length : field (body createdAt payload) 8 16 = payload.size := by
    have read := field_middle
      (ofList (LittleEndian.encode 8 (LittleEndian.unsigned64 createdAt.milliseconds))) payload 8
      (Nat.lt_trans short (by decide))
    rwa [size_ofList, LittleEndian.length_encode, ← body_eq] at read
  have content : (body createdAt payload).extract 16 (16 + payload.size) = payload := by
    rw [body, ByteArray.extract_append_eq_right] <;> simp [size_ofList]
  have range : LittleEndian.signed64 (LittleEndian.unsigned64 createdAt.milliseconds) =
      createdAt.milliseconds :=
    LittleEndian.signed64_unsigned64 (Int.le_trans (by decide) timely.1)
      (Int.lt_of_le_of_lt timely.2 (by decide))
  unfold decodeBody
  rw [size_body, length, moment, range, if_neg (by omega)]
  dsimp only
  rw [content, if_neg (by omega)]
  exact if_pos timely

/-! ### Records -/

theorem size_header (body : ByteArray) : (header body).size = headerSize := by
  simp [header, size_ofList, mark, headerSize]

/-- A payload that is short enough has a record. -/
theorem encode_eq_ok (createdAt : Instant) (short : 16 + payload.size < sizeLimit) :
    encode createdAt payload =
      .ok (header (body createdAt payload) ++ body createdAt payload) := by
  rw [encode]
  simp only [size_body, if_pos short]

/-- Only a payload that is short enough has a record. -/
theorem eq_of_encode (encoded : encode createdAt payload = .ok record) :
    16 + payload.size < sizeLimit ∧
      record = header (body createdAt payload) ++ body createdAt payload := by
  by_cases short : 16 + payload.size < sizeLimit
  · rw [encode_eq_ok createdAt short] at encoded
    exact ⟨short, (Except.ok.inj encoded).symm⟩
  · rw [encode] at encoded
    simp only [size_body, if_neg short] at encoded
    cases encoded

/-- A record has a constant number of bytes besides the payload. -/
theorem size_of_encode (encoded : encode createdAt payload = .ok record) :
    record.size = overhead + payload.size := by
  obtain ⟨-, rfl⟩ := eq_of_encode encoded
  rw [ByteArray.size_append, size_header, size_body, overhead]
  omega

/-- A record is never empty. -/
theorem isEmpty_of_encode (encoded : encode createdAt payload = .ok record) :
    record.isEmpty = false := by
  rw [ByteArray.isEmpty, size_of_encode encoded]
  simp [overhead, headerSize]

theorem header_eq (body : ByteArray) :
    header body = ofList mark ++ ofList (LittleEndian.encode 4 body.size) ++
      ofList (LittleEndian.encode 4 (Digest.Crc32.checksum body).toNat) := by
  rw [header, ofList_append, ofList_append]

theorem extract_header_mark (body rest : ByteArray) :
    (header body ++ rest).extract 0 4 = ofList mark := by
  have read := extract_middle ByteArray.empty (ofList mark)
    (ofList (LittleEndian.encode 4 body.size) ++
      ofList (LittleEndian.encode 4 (Digest.Crc32.checksum body).toNat) ++ rest)
  rwa [ByteArray.empty_append, ← ByteArray.append_assoc, ← ByteArray.append_assoc,
    ← header_eq] at read

theorem field_header_size {body : ByteArray} (short : body.size < sizeLimit) (rest : ByteArray) :
    field (header body ++ rest) 4 8 = body.size := by
  have read := field_middle (ofList mark)
    (ofList (LittleEndian.encode 4 (Digest.Crc32.checksum body).toNat) ++ rest) 4 short
  rwa [← ByteArray.append_assoc, ← header_eq] at read

theorem field_header_checksum (body rest : ByteArray) :
    field (header body ++ rest) 8 12 = (Digest.Crc32.checksum body).toNat := by
  have read := field_middle (ofList mark ++ ofList (LittleEndian.encode 4 body.size)) rest 4
    (Digest.Crc32.checksum body).toNat_lt
  rwa [ByteArray.size_append, size_ofList, size_ofList, LittleEndian.length_encode,
    ← header_eq] at read

/-- A header passes all checks and leaves the body to be read. -/
theorem decode_header_append {body : ByteArray} (short : body.size < sizeLimit) :
    decode (header body ++ body) = decodeBody body := by
  have rest : (header body ++ body).extract headerSize (header body ++ body).size = body := by
    apply ByteArray.extract_append_eq_right (size_header body).symm
    rw [ByteArray.size_append]
  unfold decode
  rw [rest, field_header_size short, field_header_checksum, extract_header_mark,
    ByteArray.size_append, size_header, if_neg (by omega)]
  simp only [toList_ofList, ne_eq, not_true_eq_false, if_false]

/-- Reading a record gives the payload and the moment. -/
theorem decode_of_encode (timely : Timely createdAt)
    (encoded : encode createdAt payload = .ok record) :
    decode record = .ok (Instant.ofMilliseconds createdAt.milliseconds, payload) := by
  obtain ⟨short, rfl⟩ := eq_of_encode encoded
  have payloadShort : payload.size < sizeLimit := by omega
  rw [← decodeBody_body timely payloadShort]
  rw [← size_body createdAt payload] at short
  exact decode_header_append short

end ContentNode.Record
