/-!
# Double-precision numbers

The binary interchange format of IEEE 754 with 64 bits, by its encoding.  Every
operation goes through exact arithmetic on natural numbers and is rounded once,
to the nearest number and to the even one of two nearest.
-/

namespace ContentNode

/-- A double-precision number, given by its encoding: a sign, eleven bits of
exponent and fifty-two bits of fraction. -/
structure Binary64 where
  bits : UInt64
deriving DecidableEq

namespace Binary64

/-- Two to the power of fifty-two: the bit of a significand that is not encoded. -/
def hiddenBit : Nat := 0x10000000000000

/-- The encoding of infinity, above that of every finite magnitude. -/
def infinityBits : Nat := 0x7FF * hiddenBit

/-- The bit of the sign. -/
def signBit : Nat := 0x8000000000000000

/-- The number of an encoding. -/
def ofBits (bits : Nat) : Binary64 := ⟨UInt64.ofNat bits⟩

/-- Positive zero. -/
def zero : Binary64 := ofBits 0

/-- Positive infinity. -/
def infinity : Binary64 := ofBits infinityBits

/-- A value that is not a number. -/
def nan : Binary64 := ofBits (infinityBits + hiddenBit / 2)

/-- Whether the sign is negative. -/
def isNegative (x : Binary64) : Bool := signBit ≤ x.bits.toNat

/-- The encoding without the sign. -/
def magnitude (x : Binary64) : Nat := x.bits.toNat % signBit

/-- Whether a number is neither infinite nor undefined. -/
def isFinite (x : Binary64) : Bool := x.magnitude < infinityBits

/-- Whether a number is positive or negative infinity. -/
def isInfinite (x : Binary64) : Bool := x.magnitude == infinityBits

/-- Whether a number is positive or negative zero. -/
def isZero (x : Binary64) : Bool := x.magnitude == 0

/-- The number with the opposite sign. -/
def negate (x : Binary64) : Binary64 :=
  if x.isNegative then ofBits x.magnitude else ofBits (x.magnitude + signBit)

/-- The magnitude of a finite number as `significand * 2 ^ exponent`. -/
def parts (x : Binary64) : Nat × Int :=
  let field : Nat := x.magnitude / hiddenBit
  let fraction : Nat := x.magnitude % hiddenBit
  if field = 0 then (fraction, -1074) else (fraction + hiddenBit, Int.ofNat field - 1075)

/-- The magnitude of a finite number as a fraction. -/
def ratio (x : Binary64) : Nat × Nat :=
  let (significand, exponent) := x.parts
  match exponent with
  | .ofNat e => (significand <<< e, 1)
  | .negSucc e => (significand, 1 <<< (e + 1))

/-- A quotient rounded to the nearest integer, a tie to the even one. -/
def divRound (numerator denominator : Nat) : Nat :=
  let quotient := numerator / denominator
  let rest := numerator % denominator
  if denominator < 2 * rest ∨ (denominator = 2 * rest ∧ quotient % 2 = 1) then quotient + 1
  else quotient

/-- A fraction divided by a power of two. -/
def scaled (numerator denominator : Nat) : Int → Nat × Nat
  | .ofNat e => (numerator, denominator <<< e)
  | .negSucc e => (numerator <<< (e + 1), denominator)

/-- The nonnegative number nearest to a fraction. -/
def ofRatio (numerator denominator : Nat) : Binary64 :=
  if numerator = 0 then zero
  else
    let guess : Int := (Nat.log2 numerator : Int) - (Nat.log2 denominator : Int) - 52
    let (n, d) := scaled numerator denominator guess
    let exponent : Int := max (-1074) (if n < d * hiddenBit then guess - 1 else guess)
    let (n, d) := scaled numerator denominator exponent
    let significand := divRound n d
    let encoding : Int :=
      if significand < hiddenBit then significand
      else (exponent + 1075) * hiddenBit + (significand - hiddenBit : Nat)
    ofBits (min encoding.toNat infinityBits)

/-- The number nearest to a natural number. -/
def ofNat (n : Nat) : Binary64 := ofRatio n 1

/-- The number nearest to a power of ten. -/
def powerOfTen (exponent : Nat) : Binary64 := ofNat (Nat.pow 10 exponent)

/-- The rounded product of two finite magnitudes. -/
def mul (x y : Binary64) : Binary64 :=
  let (xn, xd) := x.ratio
  let (yn, yd) := y.ratio
  ofRatio (xn * yn) (xd * yd)

/-- The rounded quotient of two finite magnitudes, the second one not zero. -/
def div (x y : Binary64) : Binary64 :=
  let (xn, xd) := x.ratio
  let (yn, yd) := y.ratio
  ofRatio (xn * yd) (xd * yn)

/-- The nonnegative number nearest to `digits * 10 ^ exponent`.  Beyond the range
of all numbers the powers of ten are not computed. -/
def ofDecimal (digits : Nat) (exponent : Int) : Binary64 :=
  if digits = 0 then zero
  else
    match exponent with
    | .ofNat e => if 310 ≤ e then infinity else ofRatio (digits * Nat.pow 10 e) 1
    | .negSucc e =>
      if Nat.log2 digits + 1200 ≤ e then zero else ofRatio digits (Nat.pow 10 (e + 1))

end Binary64

end ContentNode
