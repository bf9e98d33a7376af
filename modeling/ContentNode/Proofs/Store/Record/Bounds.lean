import ContentNode.Store.Record

/-!
# Reading records within their bounds

A reader of records that gives up as soon as a range of bytes ends behind the last
byte.  It never does, whatever the bytes are: every range is read only after the
size has been checked.
-/

namespace ContentNode.Record

open Bytes

/-- The bytes of a range, if the range lies within the byte string. -/
def slice? (bytes : ByteArray) (start stop : Nat) : Option ByteArray :=
  if start ≤ stop ∧ stop ≤ bytes.size then some (bytes.extract start stop) else none

/-- The number in a range of bytes, if the range lies within the byte string. -/
def field? (bytes : ByteArray) (start stop : Nat) : Option Nat :=
  (slice? bytes start stop).map fun range => LittleEndian.decode range.data.toList

/-- The moment and the payload of a body; nothing if a range ends behind it. -/
def decodeBody? (body : ByteArray) : Option (Except Damage (Instant × ByteArray)) :=
  if body.size < 16 then return .error .undecodable
  else do
    let length ← field? body 8 16
    if body.size - 16 < length then return .error .undecodable
    else
      let milliseconds ← field? body 0 8
      let ms := LittleEndian.signed64 milliseconds
      if earliest ≤ ms ∧ ms ≤ latest then
        let payload ← slice? body 16 (16 + length)
        return .ok (Instant.ofMilliseconds ms, payload)
      else return .error (.timeOutOfRange ms)

/-- The moment and the payload of a record; nothing if a range ends behind it. -/
def decode? (bytes : ByteArray) : Option (Except Damage (Instant × ByteArray)) :=
  if bytes.size < headerSize then return .error (.truncatedHeader bytes.size)
  else do
    let found ← slice? bytes 0 4
    if found.data.toList ≠ mark then return .error .badMark
    else
      let body ← slice? bytes headerSize bytes.size
      let length ← field? bytes 4 8
      if body.size ≠ length then return .error (.lengthMismatch length body.size)
      else
        let stated ← field? bytes 8 12
        let computed := (Digest.Crc32.checksum body).toNat
        if computed ≠ stated then return .error (.checksumMismatch stated computed)
        else decodeBody? body

theorem slice?_eq_some {bytes : ByteArray} {start stop : Nat} (ordered : start ≤ stop)
    (within : stop ≤ bytes.size) : slice? bytes start stop = some (bytes.extract start stop) :=
  if_pos ⟨ordered, within⟩

theorem field?_eq_some {bytes : ByteArray} {start stop : Nat} (ordered : start ≤ stop)
    (within : stop ≤ bytes.size) : field? bytes start stop = some (field bytes start stop) := by
  rw [field?, slice?_eq_some ordered within]
  rfl

/-- No range of a body ends behind it. -/
theorem decodeBody?_eq (body : ByteArray) : decodeBody? body = some (decodeBody body) := by
  unfold decodeBody? decodeBody
  by_cases short : body.size < 16
  · rw [if_pos short, if_pos short]
    rfl
  · rw [if_neg short, if_neg short, field?_eq_some (by decide) (by omega)]
    simp only [Option.bind_eq_bind, Option.bind_some]
    by_cases cut : body.size - 16 < field body 8 16
    · simp only [if_pos cut]
      rfl
    · simp only [if_neg cut]
      rw [field?_eq_some (by decide) (by omega), slice?_eq_some (by omega) (by omega)]
      simp only [Option.bind_some]
      split <;> rfl

/-- No range of a record ends behind it. -/
theorem decode?_eq (bytes : ByteArray) : decode? bytes = some (decode bytes) := by
  unfold decode? decode
  by_cases short : bytes.size < headerSize
  · rw [if_pos short, if_pos short]
    rfl
  · have header : headerSize ≤ bytes.size := Nat.le_of_not_lt short
    have twelve : 12 ≤ bytes.size := header
    rw [if_neg short, if_neg short]
    rw [slice?_eq_some (by decide) (by omega), slice?_eq_some header (Nat.le_refl _),
      field?_eq_some (by decide) (by omega), field?_eq_some (by decide) twelve]
    simp only [Option.bind_eq_bind, Option.bind_some, decodeBody?_eq]
    split
    · rfl
    · split
      · rfl
      · split <;> rfl

end ContentNode.Record
