/-!
# Little-endian integers

A natural number as a fixed count of bytes, least significant byte first, and
the number that a byte string denotes.
-/

namespace ContentNode.Bytes.LittleEndian

/-- The `width` lowest bytes of `n`, least significant first. -/
def encode : Nat → Nat → List UInt8
  | 0, _ => []
  | width + 1, n => UInt8.ofNat n :: encode width (n / 256)

/-- The number whose bytes are given, least significant first. -/
def decode : List UInt8 → Nat
  | [] => 0
  | b :: rest => b.toNat + 256 * decode rest

@[simp]
theorem length_encode (width n : Nat) : (encode width n).length = width := by
  induction width generalizing n with
  | zero => rfl
  | succ width ih => simp [encode, ih]

/-- Reading what was written gives the number cut to its width. -/
theorem decode_encode (width n : Nat) :
    decode (encode width n) = n % Nat.pow 256 width := by
  induction width generalizing n with
  | zero => exact (Nat.mod_one n).symm
  | succ width ih =>
    have low : (UInt8.ofNat n).toNat = n % 256 := UInt8.toNat_ofNat'
    have wider : Nat.pow 256 (width + 1) = 256 * Nat.pow 256 width := Nat.mul_comm _ _
    rw [encode, decode, ih, low, wider, Nat.mod_mul]

/-- Writing what was read gives the bytes. -/
theorem encode_decode (bytes : List UInt8) : encode bytes.length (decode bytes) = bytes := by
  induction bytes with
  | nil => rfl
  | cons b rest ih =>
    have byte : b.toNat < 256 := b.toNat_lt
    have low : UInt8.ofNat (b.toNat + 256 * decode rest) = b := by
      rw [← UInt8.toNat_inj, UInt8.toNat_ofNat']
      omega
    have high : (b.toNat + 256 * decode rest) / 256 = decode rest := by omega
    rw [List.length_cons, decode, encode, low, high, ih]

theorem decode_lt (bytes : List UInt8) : decode bytes < Nat.pow 256 bytes.length := by
  have read := decode_encode bytes.length (decode bytes)
  rw [encode_decode] at read
  rw [read]
  exact Nat.mod_lt _ (Nat.pow_pos (by decide))

/-- A signed 64-bit integer from its unsigned reading. -/
def signed64 (n : Nat) : Int :=
  if n < 0x8000000000000000 then (n : Int) else (n : Int) - 0x10000000000000000

/-- The unsigned 64-bit word of a signed integer. -/
def unsigned64 (i : Int) : Nat := (i % 0x10000000000000000).toNat

theorem unsigned64_lt (i : Int) : unsigned64 i < UInt64.size := by
  unfold unsigned64 UInt64.size
  omega

/-- A signed integer of sixty-four bits is read back from its word. -/
theorem signed64_unsigned64 {i : Int} (low : -0x8000000000000000 ≤ i)
    (high : i < 0x8000000000000000) :
    signed64 (unsigned64 i) = i := by
  unfold signed64 unsigned64
  split <;> omega

/-- A word of sixty-four bits is that of the signed integer read from it. -/
theorem unsigned64_signed64 {n : Nat} (small : n < UInt64.size) :
    unsigned64 (signed64 n) = n := by
  unfold UInt64.size at small
  unfold signed64 unsigned64
  split <;> omega

end ContentNode.Bytes.LittleEndian
