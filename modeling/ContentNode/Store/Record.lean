import ContentNode.Bytes.LittleEndian
import ContentNode.Digest.Crc32
import ContentNode.Store.Error
import ContentNode.Store.Object

/-!
# Records

An object in a file: a mark, the length of the body and its checksum, each of
four bytes, and the body.  The body is the moment of creation in milliseconds
and the length of the payload, each of eight bytes, and the payload.  Integers
are little-endian.  Bytes of the body after the payload have no meaning.
-/

namespace ContentNode.Record

/-- The mark at the front of a record: the letters `CAS1`. -/
def mark : List UInt8 := [67, 65, 83, 49]

/-- The number of bytes before the body. -/
def headerSize : Nat := 12

/-- The number of bytes that a record has besides its payload. -/
def overhead : Nat := headerSize + 16

/-- The number of bytes that a body cannot reach. -/
def sizeLimit : Nat := UInt32.size

/-- A byte string of a list. -/
def ofList (bytes : List UInt8) : ByteArray := ⟨bytes.toArray⟩

/-- The body of a record. -/
def body (createdAt : Instant) (payload : ByteArray) : ByteArray :=
  ofList (Bytes.LittleEndian.encode 8 (Bytes.LittleEndian.unsigned64 createdAt.milliseconds) ++
    Bytes.LittleEndian.encode 8 payload.size) ++ payload

/-- The bytes before a body. -/
def header (body : ByteArray) : ByteArray :=
  ofList (mark ++ Bytes.LittleEndian.encode 4 body.size ++
    Bytes.LittleEndian.encode 4 (Digest.Crc32.checksum body).toNat)

/-- The record of an object.  A body that is too long is refused. -/
def encode (createdAt : Instant) (payload : ByteArray) : Except StoreError ByteArray :=
  let body := body createdAt payload
  if body.size < sizeLimit then .ok (header body ++ body)
  else .error (.serialization s!"record of {body.size} bytes is too large")

/-- Why a file is no record. -/
inductive Damage where
  /-- The file ends within the header. -/
  | truncatedHeader (size : Nat)
  | badMark
  | lengthMismatch (stated found : Nat)
  | checksumMismatch (stated computed : Nat)
  /-- The body ends too early. -/
  | undecodable
  | timeOutOfRange (milliseconds : Int)
deriving DecidableEq

/-- A number in hexadecimal digits, at least eight. -/
def hex8 (n : Nat) : String :=
  let digits := Nat.toDigits 16 n
  String.ofList (List.replicate (8 - digits.length) '0' ++ digits)

/-- The text of a damage. -/
def Damage.message : Damage → String
  | truncatedHeader size => s!"truncated header ({size} bytes)"
  | badMark => "bad magic"
  | lengthMismatch stated found =>
    s!"length mismatch: header says {stated}, file has {found}"
  | checksumMismatch stated computed =>
    s!"CRC mismatch: expected {hex8 stated}, computed {hex8 computed}"
  | undecodable => "undecodable body: io error: unexpected end of file"
  | timeOutOfRange ms => s!"timestamp out of range: {ms}"

/-- The number in a range of bytes. -/
def field (bytes : ByteArray) (start stop : Nat) : Nat :=
  Bytes.LittleEndian.decode (bytes.extract start stop).data.toList

/-- The earliest moment that a record can have, in milliseconds. -/
def earliest : Int := -8334601228800000

/-- The latest moment that a record can have, in milliseconds. -/
def latest : Int := 8210266876799999

/-- The moment and the payload of a body. -/
def decodeBody (body : ByteArray) : Except Damage (Instant × ByteArray) :=
  if body.size < 16 then .error .undecodable
  else
    let length := field body 8 16
    if body.size - 16 < length then .error .undecodable
    else
      let ms := Bytes.LittleEndian.signed64 (field body 0 8)
      if earliest ≤ ms ∧ ms ≤ latest then
        .ok (Instant.ofMilliseconds ms, body.extract 16 (16 + length))
      else .error (.timeOutOfRange ms)

/-- The moment and the payload of a record. -/
def decode (bytes : ByteArray) : Except Damage (Instant × ByteArray) :=
  if bytes.size < headerSize then .error (.truncatedHeader bytes.size)
  else if (bytes.extract 0 4).data.toList ≠ mark then .error .badMark
  else
    let body := bytes.extract headerSize bytes.size
    let length := field bytes 4 8
    if body.size ≠ length then .error (.lengthMismatch length body.size)
    else
      let stated := field bytes 8 12
      let computed := (Digest.Crc32.checksum body).toNat
      if computed ≠ stated then .error (.checksumMismatch stated computed)
      else decodeBody body

/-- The object of a record that is stored under an address. -/
def decodeObject (address : Address) (bytes : ByteArray) : Except StoreError StoredObject :=
  match decode bytes with
  | .ok (createdAt, payload) => .ok ⟨address, payload, createdAt⟩
  | .error damage => .error (.corrupt address damage.message)

end ContentNode.Record
