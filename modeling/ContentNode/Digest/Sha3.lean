import ContentNode.Digest.Basic

/-!
# SHA3-256

The sponge of FIPS 202 with the permutation Keccak-f[1600], a rate of 136 bytes
and the domain bits `01`.  Lane `lxy` of the state stands in column `x` and row
`y`.  The message is padded with the byte `06`, zeros up to a whole number of
blocks, and the highest bit of the last byte.
-/

namespace ContentNode.Digest.Sha3

/-- The twenty-five lanes of the permutation's state. -/
structure Lanes where
  (l00 l10 l20 l30 l40 : UInt64)
  (l01 l11 l21 l31 l41 : UInt64)
  (l02 l12 l22 l32 l42 : UInt64)
  (l03 l13 l23 l33 l43 : UInt64)
  (l04 l14 l24 l34 l44 : UInt64)

/-- The state before the first block. -/
def Lanes.zero : Lanes :=
  ⟨0, 0, 0, 0, 0, 0, 0, 0, 0, 0, 0, 0, 0,
    0, 0, 0, 0, 0, 0, 0, 0, 0, 0, 0, 0⟩

/-- A lane rotated towards its high end by a count from 1 to 63. -/
@[inline]
def rotate (lane : UInt64) (count : UInt64) : UInt64 :=
  (lane <<< count) ||| (lane >>> (64 - count))

/-- The constants added to the first lane, one for each round. -/
def roundConstants : List UInt64 :=
  [0x0000000000000001, 0x0000000000008082, 0x800000000000808A,
   0x8000000080008000, 0x000000000000808B, 0x0000000080000001,
   0x8000000080008081, 0x8000000000008009, 0x000000000000008A,
   0x0000000000000088, 0x0000000080008009, 0x000000008000000A,
   0x000000008000808B, 0x800000000000008B, 0x8000000000008089,
   0x8000000000008003, 0x8000000000008002, 0x8000000000000080,
   0x000000000000800A, 0x800000008000000A, 0x8000000080008081,
   0x8000000000008080, 0x0000000080000001, 0x8000000080008008]

/-- One round of the permutation: column parities, rotation and transposition
of the lanes, the nonlinear step along rows, and the round constant. -/
def Lanes.round (s : Lanes) (constant : UInt64) : Lanes :=
  let c0 := s.l00 ^^^ s.l01 ^^^ s.l02 ^^^ s.l03 ^^^ s.l04
  let c1 := s.l10 ^^^ s.l11 ^^^ s.l12 ^^^ s.l13 ^^^ s.l14
  let c2 := s.l20 ^^^ s.l21 ^^^ s.l22 ^^^ s.l23 ^^^ s.l24
  let c3 := s.l30 ^^^ s.l31 ^^^ s.l32 ^^^ s.l33 ^^^ s.l34
  let c4 := s.l40 ^^^ s.l41 ^^^ s.l42 ^^^ s.l43 ^^^ s.l44
  let d0 := c4 ^^^ rotate c1 1
  let d1 := c0 ^^^ rotate c2 1
  let d2 := c1 ^^^ rotate c3 1
  let d3 := c2 ^^^ rotate c4 1
  let d4 := c3 ^^^ rotate c0 1
  let b00 := s.l00 ^^^ d0
  let b13 := rotate (s.l01 ^^^ d0) 36
  let b21 := rotate (s.l02 ^^^ d0) 3
  let b34 := rotate (s.l03 ^^^ d0) 41
  let b42 := rotate (s.l04 ^^^ d0) 18
  let b02 := rotate (s.l10 ^^^ d1) 1
  let b10 := rotate (s.l11 ^^^ d1) 44
  let b23 := rotate (s.l12 ^^^ d1) 10
  let b31 := rotate (s.l13 ^^^ d1) 45
  let b44 := rotate (s.l14 ^^^ d1) 2
  let b04 := rotate (s.l20 ^^^ d2) 62
  let b12 := rotate (s.l21 ^^^ d2) 6
  let b20 := rotate (s.l22 ^^^ d2) 43
  let b33 := rotate (s.l23 ^^^ d2) 15
  let b41 := rotate (s.l24 ^^^ d2) 61
  let b01 := rotate (s.l30 ^^^ d3) 28
  let b14 := rotate (s.l31 ^^^ d3) 55
  let b22 := rotate (s.l32 ^^^ d3) 25
  let b30 := rotate (s.l33 ^^^ d3) 21
  let b43 := rotate (s.l34 ^^^ d3) 56
  let b03 := rotate (s.l40 ^^^ d4) 27
  let b11 := rotate (s.l41 ^^^ d4) 20
  let b24 := rotate (s.l42 ^^^ d4) 39
  let b32 := rotate (s.l43 ^^^ d4) 8
  let b40 := rotate (s.l44 ^^^ d4) 14
  {
    l00 := b00 ^^^ (~~~b10 &&& b20) ^^^ constant
    l10 := b10 ^^^ (~~~b20 &&& b30)
    l20 := b20 ^^^ (~~~b30 &&& b40)
    l30 := b30 ^^^ (~~~b40 &&& b00)
    l40 := b40 ^^^ (~~~b00 &&& b10)
    l01 := b01 ^^^ (~~~b11 &&& b21)
    l11 := b11 ^^^ (~~~b21 &&& b31)
    l21 := b21 ^^^ (~~~b31 &&& b41)
    l31 := b31 ^^^ (~~~b41 &&& b01)
    l41 := b41 ^^^ (~~~b01 &&& b11)
    l02 := b02 ^^^ (~~~b12 &&& b22)
    l12 := b12 ^^^ (~~~b22 &&& b32)
    l22 := b22 ^^^ (~~~b32 &&& b42)
    l32 := b32 ^^^ (~~~b42 &&& b02)
    l42 := b42 ^^^ (~~~b02 &&& b12)
    l03 := b03 ^^^ (~~~b13 &&& b23)
    l13 := b13 ^^^ (~~~b23 &&& b33)
    l23 := b23 ^^^ (~~~b33 &&& b43)
    l33 := b33 ^^^ (~~~b43 &&& b03)
    l43 := b43 ^^^ (~~~b03 &&& b13)
    l04 := b04 ^^^ (~~~b14 &&& b24)
    l14 := b14 ^^^ (~~~b24 &&& b34)
    l24 := b24 ^^^ (~~~b34 &&& b44)
    l34 := b34 ^^^ (~~~b44 &&& b04)
    l44 := b44 ^^^ (~~~b04 &&& b14)
  }

/-- The permutation: all rounds in order. -/
def Lanes.permute (s : Lanes) : Lanes :=
  roundConstants.foldl Lanes.round s

/-- The number of message bytes that one block takes in. -/
def rate : Nat := 136

/-- The byte at `index` of the padded message of `blocks` blocks. -/
def paddedByte (message : ByteArray) (blocks index : Nat) : UInt8 :=
  let body :=
    if h : index < message.size then message[index]
    else if index = message.size then 0x06 else 0x00
  if index + 1 = blocks * rate then body ||| 0x80 else body

/-- The lane made of the eight padded bytes from `index` on. -/
def paddedLane (message : ByteArray) (blocks index : Nat) : UInt64 :=
  let byte (i : Nat) (place : UInt64) : UInt64 :=
    (paddedByte message blocks (index + i)).toUInt64 <<< place
  byte 0 0 ||| byte 1 8 ||| byte 2 16 ||| byte 3 24 |||
    byte 4 32 ||| byte 5 40 ||| byte 6 48 ||| byte 7 56

/-- The state after the block that starts at `start`. -/
def Lanes.absorb (message : ByteArray) (blocks : Nat) (s : Lanes) (start : Nat) : Lanes :=
  let lane (i : Nat) : UInt64 := paddedLane message blocks (start + 8 * i)
  Lanes.permute
    { s with
      l00 := s.l00 ^^^ lane 0
      l10 := s.l10 ^^^ lane 1
      l20 := s.l20 ^^^ lane 2
      l30 := s.l30 ^^^ lane 3
      l40 := s.l40 ^^^ lane 4
      l01 := s.l01 ^^^ lane 5
      l11 := s.l11 ^^^ lane 6
      l21 := s.l21 ^^^ lane 7
      l31 := s.l31 ^^^ lane 8
      l41 := s.l41 ^^^ lane 9
      l02 := s.l02 ^^^ lane 10
      l12 := s.l12 ^^^ lane 11
      l22 := s.l22 ^^^ lane 12
      l32 := s.l32 ^^^ lane 13
      l42 := s.l42 ^^^ lane 14
      l03 := s.l03 ^^^ lane 15
      l13 := s.l13 ^^^ lane 16 }

/-- The lane that holds bytes `8 * i` to `8 * i + 7` of the output. -/
def Lanes.output (s : Lanes) : Nat → UInt64
  | 0 => s.l00
  | 1 => s.l10
  | 2 => s.l20
  | _ => s.l30

/-- The SHA3-256 digest of a message. -/
def digest (message : ByteArray) : Digest :=
  let blocks := message.size / rate + 1
  let s := (List.range blocks).foldl
    (fun s k => s.absorb message blocks (k * rate)) Lanes.zero
  Vector.ofFn fun i : Fin 32 =>
    (s.output (i.val / 8) >>> UInt64.ofNat (8 * (i.val % 8))).toUInt8

end ContentNode.Digest.Sha3
