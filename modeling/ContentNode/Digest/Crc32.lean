/-!
# CRC-32

The cyclic redundancy check of IEEE 802.3, in its reflected form: the register
starts with all bits set, takes in one byte at a time, lowest bit first, and is
inverted at the end.
-/

namespace ContentNode.Digest.Crc32

/-- The generator polynomial, lowest power in the highest bit. -/
def polynomial : UInt32 := 0xEDB88320

/-- One bit of the division. -/
def shift (register : UInt32) : UInt32 :=
  if register &&& 1 = 1 then (register >>> 1) ^^^ polynomial else register >>> 1

/-- The division by one byte that has been added to the register. -/
def shiftByte (register : UInt32) : UInt32 :=
  shift (shift (shift (shift (shift (shift (shift (shift register)))))))

/-- The register after one more byte. -/
def update (register : UInt32) (b : UInt8) : UInt32 :=
  shiftByte (register ^^^ b.toUInt32)

/-- The register after a list of bytes. -/
def updateAll (register : UInt32) (bytes : List UInt8) : UInt32 :=
  bytes.foldl update register

/-- The check value of a byte array. -/
def checksum (bytes : ByteArray) : UInt32 :=
  bytes.data.foldl update 0xFFFFFFFF ^^^ 0xFFFFFFFF

theorem checksum_eq (bytes : ByteArray) :
    checksum bytes = updateAll 0xFFFFFFFF bytes.data.toList ^^^ 0xFFFFFFFF := by
  simp [checksum, updateAll]

end ContentNode.Digest.Crc32
