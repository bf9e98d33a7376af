/-!
# Hexadecimal text

Bytes written as pairs of lowercase hexadecimal digits, high digit first.
Reading accepts exactly what writing produces: an even number of digits, each
one of `0` to `9` and `a` to `f`.
-/

namespace ContentNode.Bytes.Hex

/-- The lowercase digit of a value below sixteen. -/
def digit (value : Nat) : Char :=
  if value < 10 then Char.ofNat (48 + value) else Char.ofNat (87 + value)

/-- The value of a lowercase digit. -/
def value? (c : Char) : Option Nat :=
  if '0' ≤ c ∧ c ≤ '9' then some (c.toNat - 48)
  else if 'a' ≤ c ∧ c ≤ 'f' then some (c.toNat - 87)
  else none

/-- Whether a character is a lowercase hexadecimal digit. -/
def isDigit (c : Char) : Bool := (value? c).isSome

/-- The two digits of a byte. -/
def ofByte (b : UInt8) : List Char :=
  [digit (b.toNat / 16), digit (b.toNat % 16)]

/-- The digits of a byte string. -/
def encode (bytes : List UInt8) : List Char := bytes.flatMap ofByte

/-- The byte string whose digits are given, if they are digits in pairs. -/
def decode? : List Char → Option (List UInt8)
  | [] => some []
  | [_] => none
  | high :: low :: rest => do
    let h ← value? high
    let l ← value? low
    let bytes ← decode? rest
    return UInt8.ofNat (16 * h + l) :: bytes

/-- The digits of a byte array as text. -/
def ofByteArray (bytes : ByteArray) : String :=
  bytes.data.foldl (fun text b => (ofByte b).foldl String.push text) ""

@[simp]
theorem length_encode (bytes : List UInt8) : (encode bytes).length = 2 * bytes.length := by
  induction bytes with
  | nil => rfl
  | cons b rest ih =>
    simp only [encode, List.flatMap_cons, List.length_append, List.length_cons] at ih ⊢
    simp only [ofByte, List.length_cons, List.length_nil]
    omega

/-- A digit stands for the value it was made of. -/
theorem value?_digit {v : Nat} (small : v < 16) : value? (digit v) = some v := by
  have every : ∀ v : Fin 16, value? (digit v) = some v.val := by decide
  exact every ⟨v, small⟩

/-- Only the digit of a value stands for it. -/
theorem digit_of_value? {c : Char} {v : Nat} (h : value? c = some v) :
    v < 16 ∧ digit v = c := by
  unfold value? at h
  split at h
  · next range =>
    have low : 48 ≤ c.toNat := range.1
    have high : c.toNat ≤ 57 := range.2
    obtain rfl := Option.some.inj h
    refine ⟨by omega, ?_⟩
    rw [digit, if_pos (by omega), show 48 + (c.toNat - 48) = c.toNat by omega, Char.ofNat_toNat]
  · split at h
    · next range =>
      have low : 97 ≤ c.toNat := range.1
      have high : c.toNat ≤ 102 := range.2
      obtain rfl := Option.some.inj h
      refine ⟨by omega, ?_⟩
      rw [digit, if_neg (by omega), show 87 + (c.toNat - 87) = c.toNat by omega,
        Char.ofNat_toNat]
    · contradiction

/-- Reading the digits of a byte string gives it back. -/
theorem decode?_encode (bytes : List UInt8) : decode? (encode bytes) = some bytes := by
  induction bytes with
  | nil => rfl
  | cons b rest ih =>
    have bound : b.toNat < 256 := b.toNat_lt
    have halves : 16 * (b.toNat / 16) + b.toNat % 16 = b.toNat := by omega
    change decode? (digit (b.toNat / 16) :: digit (b.toNat % 16) :: encode rest) = _
    rw [decode?, value?_digit (by omega), value?_digit (by omega), ih]
    change some (UInt8.ofNat (16 * (b.toNat / 16) + b.toNat % 16) :: rest) = _
    rw [halves, UInt8.ofNat_toNat]

/-- A text that is read is the one that writing produces. -/
theorem encode_of_decode? {digits : List Char} {bytes : List UInt8}
    (h : decode? digits = some bytes) : encode bytes = digits := by
  fun_induction decode? digits generalizing bytes with
  | case1 =>
    obtain rfl := Option.some.inj h
    rfl
  | case2 => contradiction
  | case3 high low rest ih =>
    simp only [Option.bind_eq_bind, Option.bind_eq_some_iff, Option.pure_def,
      Option.some.injEq] at h
    obtain ⟨v, highValue, w, lowValue, read, restRead, rfl⟩ := h
    obtain ⟨highSmall, rfl⟩ := digit_of_value? highValue
    obtain ⟨lowSmall, rfl⟩ := digit_of_value? lowValue
    have joined : (UInt8.ofNat (16 * v + w)).toNat = 16 * v + w := by
      rw [UInt8.toNat_ofNat']
      omega
    change ofByte (UInt8.ofNat (16 * v + w)) ++ encode read = _
    rw [ih restRead, ofByte, joined, show (16 * v + w) / 16 = v by omega,
      show (16 * v + w) % 16 = w by omega]
    rfl

/-- Every character that writing produces is a digit. -/
theorem isDigit_of_mem_encode {bytes : List UInt8} {c : Char} (h : c ∈ encode bytes) :
    isDigit c = true := by
  obtain ⟨b, -, member⟩ := List.mem_flatMap.mp h
  have bound : b.toNat < 256 := b.toNat_lt
  rcases List.mem_cons.mp member with rfl | member
  · simp [isDigit, value?_digit (v := b.toNat / 16) (by omega)]
  · obtain rfl := List.mem_singleton.mp member
    simp [isDigit, value?_digit (v := b.toNat % 16) (by omega)]

/-- A digit takes one byte. -/
theorem utf8Size_of_isDigit {c : Char} (h : isDigit c = true) : c.utf8Size = 1 := by
  obtain ⟨v, value⟩ := Option.isSome_iff_exists.mp h
  obtain ⟨small, rfl⟩ := digit_of_value? value
  have every : ∀ v : Fin 16, (digit v).utf8Size = 1 := by decide
  exact every ⟨v, small⟩

end ContentNode.Bytes.Hex
