import ContentNode.Proofs.Json.Strings
import ContentNode.Proofs.Number.Digits

/-!
# Integers in JSON text

An integer of at most 64 bits is read back from its text, if nothing follows that could
belong to a number.
-/

namespace ContentNode.Json

variable {c : Char} {cs : List Char} {rest after : List UInt8} {n significand taken : Nat} {i : Int}

/-! ### Digits -/

/-- A decimal digit is written as one byte. -/
theorem utf8EncodeChar_of_isDigit (digit : c.isDigit = true) :
    String.utf8EncodeChar c = [UInt8.ofNat c.toNat] ∧ 48 ≤ c.toNat ∧ c.toNat ≤ 57 := by
  simp only [Char.isDigit, Bool.and_eq_true, decide_eq_true_eq, UInt32.le_iff_toNat_le] at digit
  obtain ⟨low, high⟩ := digit
  change 48 ≤ c.toNat at low
  change c.toNat ≤ 57 at high
  refine ⟨?_, low, high⟩
  unfold String.utf8EncodeChar
  exact if_pos (show c.toNat ≤ 0x7f by omega)

/-- The bytes of decimal digits. -/
theorem flatMap_utf8EncodeChar_of_isDigit (digits : ∀ c ∈ cs, c.isDigit = true) :
    cs.flatMap String.utf8EncodeChar = cs.map fun c => UInt8.ofNat c.toNat := by
  induction cs with
  | nil => rfl
  | cons c cs ih =>
      rw [List.flatMap_cons, (utf8EncodeChar_of_isDigit (digits c List.mem_cons_self)).1,
        ih fun c member => digits c (List.mem_cons_of_mem _ member)]
      rfl

theorem digit_byte (digit : c.isDigit = true) :
    Lexer.isDigit (UInt8.ofNat c.toNat) = true ∧
      Lexer.digitValue (UInt8.ofNat c.toNat) = c.toNat - 48 := by
  obtain ⟨-, low, high⟩ := utf8EncodeChar_of_isDigit digit
  have value : (UInt8.ofNat c.toNat).toNat = c.toNat := UInt8.toNat_ofNat_of_lt' (by
    simp [UInt8.size]
    omega)
  constructor
  · simp only [Lexer.isDigit, Bool.and_eq_true, decide_eq_true_eq, UInt8.le_iff_toNat_le, value]
    exact ⟨low, high⟩
  · rw [Lexer.digitValue, value]

/-! ### What follows a number -/

/-- A byte that could go on a number. -/
def continues (b : UInt8) : Bool := Lexer.isDigit b || b == 46 || b == 101 || b == 69

/-- A text that does not go on a number. -/
def Ends (rest : List UInt8) : Prop := Lexer.startsWith continues rest = false

theorem ends_nil : Ends [] := rfl

theorem startsWith_isDigit_of_ends (ends : Ends rest) :
    Lexer.startsWith Lexer.isDigit rest = false := by
  cases rest with
  | nil => rfl
  | cons b rest =>
      simp only [Ends, Lexer.startsWith, continues, Bool.or_eq_false_iff] at ends
      exact ends.1.1.1

theorem numberEnd_of_ends (ends : Ends rest) (negative : Bool) (significand : Nat) :
    Lexer.numberEnd negative significand rest =
      .ok (Lexer.integer negative significand, rest) := by
  cases rest with
  | nil => rfl
  | cons b rest =>
      simp only [Ends, Lexer.startsWith, continues, Bool.or_eq_false_iff, beq_eq_false_iff_ne]
        at ends
      obtain ⟨⟨⟨-, point⟩, small⟩, capital⟩ := ends
      rw [Lexer.numberEnd]
      simp [point, small, capital]

/-! ### Numbers -/

/-- Digits are taken as long as their number has at most 64 bits. -/
theorem takeDigits_of_isDigit (digits : ∀ c ∈ cs, c.isDigit = true)
    (small : Nat.ofDigitChars 10 cs significand ≤ Lexer.maxSignificand)
    (after : Lexer.startsWith Lexer.isDigit rest = false) :
    Lexer.takeDigits significand taken ((cs.map fun c => UInt8.ofNat c.toNat) ++ rest) =
      (Nat.ofDigitChars 10 cs significand, taken + cs.length, rest) := by
  induction cs generalizing significand taken with
  | nil =>
      cases rest with
      | nil => rfl
      | cons b rest =>
          rw [List.map_nil, List.nil_append, Lexer.takeDigits]
          simp only [Lexer.startsWith] at after
          simp [after]
  | cons c cs ih =>
      obtain ⟨digit, value⟩ := digit_byte (digits c List.mem_cons_self)
      have others : ∀ c ∈ cs, c.isDigit = true := fun c member =>
        digits c (List.mem_cons_of_mem _ member)
      have next : 10 * significand + (c.toNat - '0'.toNat) = significand * 10 + (c.toNat - 48) := by
        rw [Nat.mul_comm]
        rfl
      rw [Nat.ofDigitChars_cons, next] at small
      have fits : significand * 10 + (c.toNat - 48) ≤ Lexer.maxSignificand := by
        rw [Nat.ofDigitChars_eq_ofDigitChars_zero] at small
        have grows := Nat.le_mul_of_pos_left (significand * 10 + (c.toNat - 48))
          (Nat.pow_pos (n := cs.length) (show 0 < 10 by decide))
        omega
      rw [List.map_cons, List.cons_append, Lexer.takeDigits, if_pos digit, value,
        if_neg (Nat.not_lt.mpr fits), ih others small, Nat.ofDigitChars_cons, next,
        List.length_cons, Nat.add_right_comm, Nat.add_assoc]

/-- The number of some digits is read, up to what does not go on a number. -/
theorem number_toDigits (small : n ≤ Lexer.maxSignificand) (ends : Ends rest) (negative : Bool) :
    Lexer.number negative ((Nat.toDigits 10 n).flatMap String.utf8EncodeChar ++ rest) =
      .ok (Lexer.integer negative n, rest) := by
  have digits : ∀ c ∈ Nat.toDigits 10 n, c.isDigit = true := fun c member =>
    Nat.isDigit_of_mem_toDigits (by decide) (by decide) member
  have after := startsWith_isDigit_of_ends ends
  rw [flatMap_utf8EncodeChar_of_isDigit digits]
  rcases Nat.eq_zero_or_pos n with rfl | positive
  · rw [Nat.toDigits_zero]
    change Lexer.number negative (48 :: rest) = _
    rw [Lexer.number, if_pos rfl, after]
    exact numberEnd_of_ends ends negative 0
  · obtain ⟨c, cs, several, different⟩ := head_toDigits positive
    rw [several] at digits ⊢
    obtain ⟨digit, value⟩ := digit_byte (digits c List.mem_cons_self)
    have number : Nat.ofDigitChars 10 cs (c.toNat - 48) = n := by
      have whole : Nat.ofDigitChars 10 (Nat.toDigits 10 n) 0 = n := Nat.ofDigitChars_ten_toDigits
      rw [several, Nat.ofDigitChars_cons, Nat.mul_zero, Nat.zero_add] at whole
      exact whole
    have noZero : UInt8.ofNat c.toNat ≠ 48 := by
      intro same
      rw [same] at value
      have zero : c.toNat - 48 = 0 := value.symm
      have low := (utf8EncodeChar_of_isDigit (digits c List.mem_cons_self)).2.1
      exact different (Char.toNat_inj.mp (show c.toNat = 48 by omega))
    rw [List.map_cons, List.cons_append, Lexer.number, if_neg noZero, if_pos digit, value,
      takeDigits_of_isDigit (fun c member => digits c (List.mem_cons_of_mem _ member))
        (Nat.le_trans (Nat.le_of_eq number) small) after, number]
    dsimp only
    rw [after]
    exact numberEnd_of_ends ends negative n

/-! ### Integers -/

/-- An integer of at most 64 bits, signed or not. -/
def Short (i : Int) : Prop := -0x8000000000000000 ≤ i ∧ i < 0x10000000000000000

instance : DecidablePred Short := fun i =>
  inferInstanceAs (Decidable (-0x8000000000000000 ≤ i ∧ i < 0x10000000000000000))

theorem atom_of_isDigit {b : UInt8} {number : Number} (digit : Lexer.isDigit b = true)
    (read : Lexer.number false (b :: rest) = .ok (number, after)) :
    Parser.atom b rest = .ok (.number number, after) := by
  have other {letter : UInt8} (noDigit : Lexer.isDigit letter = false) : b ≠ letter := by
    rintro rfl
    rw [digit] at noDigit
    cases noDigit
  rw [Parser.atom, if_neg (other rfl), if_neg (other rfl), if_neg (other rfl), if_neg (other rfl),
    if_pos digit, read]
  rfl

/-- The first byte of an integer is a sign or a digit. -/
def opensNumber (b : UInt8) : Bool := b == 45 || Lexer.isDigit b

/-- An integer is read back from its text. -/
theorem atom_integer (short : Short i) (ends : Ends rest) :
    ∃ b s, bytes (toString i) ++ rest = b :: s ∧ opensNumber b = true ∧
      Parser.atom b s = .ok (.number (.integer i), rest) := by
  obtain ⟨low, high⟩ := short
  cases i with
  | ofNat n =>
      have small : n ≤ Lexer.maxSignificand := by
        simp only [Lexer.maxSignificand, UInt64.size, Int.ofNat_eq_natCast] at high ⊢
        omega
      have text : bytes (toString (Int.ofNat n)) =
          (Nat.toDigits 10 n).flatMap String.utf8EncodeChar := by
        rw [bytes_eq]
        exact congrArg (List.flatMap String.utf8EncodeChar) Nat.toList_repr
      have read := number_toDigits small ends false
      obtain ⟨c, cs, several⟩ := List.exists_cons_of_ne_nil (Nat.toDigits_ne_nil (n := n) (b := 10))
      have digit : c.isDigit = true := Nat.isDigit_of_mem_toDigits (b := 10) (n := n) (by decide)
        (by decide) (by rw [several]; exact List.mem_cons_self)
      rw [several, List.flatMap_cons, (utf8EncodeChar_of_isDigit digit).1] at text read
      have first := (digit_byte digit).1
      exact ⟨_, _, by rw [text]; rfl, by simp [opensNumber, first], atom_of_isDigit first read⟩
  | negSucc n =>
      have small : n + 1 ≤ Lexer.maxSignificand := by
        simp only [Lexer.maxSignificand, UInt64.size]
        omega
      have text : bytes (toString (Int.negSucc n)) =
          45 :: (Nat.toDigits 10 (n + 1)).flatMap String.utf8EncodeChar := by
        rw [bytes_eq]
        change (("-" ++ (n + 1).repr).toList).flatMap String.utf8EncodeChar = _
        rw [String.toList_append, Nat.toList_repr]
        rfl
      have read := number_toDigits small ends true
      have bound : ¬ (n + 1 = 0 ∨ 0x8000000000000000 < n + 1) := by omega
      rw [Lexer.integer, if_pos rfl, if_neg bound] at read
      refine ⟨45, (Nat.toDigits 10 (n + 1)).flatMap String.utf8EncodeChar ++ rest,
        by rw [text]; rfl, rfl, ?_⟩
      rw [Parser.atom, if_neg (by decide), if_neg (by decide), if_neg (by decide), if_pos rfl, read]
      rfl

end ContentNode.Json
