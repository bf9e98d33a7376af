import ContentNode.Digest.Crc32
import Mathlib.Data.Nat.Bitwise

/-!
# What a check value tells

The division is linear in exclusive or, and a register that is short after some bits was
that much longer before them.  So two registers that are equal after a few bytes were
apart by no more than those bytes are, and equal before them only if the bytes are equal:
no change within four consecutive bytes keeps the check value.
-/

namespace ContentNode.Digest.Crc32

variable {r s : UInt32}

/-! ### Bits -/

/-- The lowest bit of a register. -/
theorem and_one_eq_one_iff (r : UInt32) : r &&& 1 = 1 ↔ r.toNat % 2 = 1 := by
  rw [← UInt32.toNat_inj, UInt32.toNat_and]
  exact iff_of_eq (congrArg (· = 1) (Nat.and_one_is_mod _))

theorem toNat_shiftRight_one (r : UInt32) : (r >>> 1).toNat = r.toNat / 2 := by
  rw [UInt32.toNat_shiftRight]
  exact Nat.shiftRight_eq_div_pow _ 1

/-- The lowest bit of a sum is set exactly if it is set in one of the summands. -/
theorem xor_and_one_eq_one_iff (r s : UInt32) :
    (r ^^^ s) &&& 1 = 1 ↔ ¬ (r &&& 1 = 1 ↔ s &&& 1 = 1) := by
  rw [and_one_eq_one_iff, and_one_eq_one_iff, and_one_eq_one_iff, UInt32.toNat_xor,
    Nat.xor_mod_two_eq]
  omega

/-- The division of a sum is the sum of the divisions. -/
theorem shift_xor (r s : UInt32) : shift (r ^^^ s) = shift r ^^^ shift s := by
  unfold shift
  rw [UInt32.shiftRight_xor]
  by_cases odd : r &&& 1 = 1 <;> by_cases odd' : s &&& 1 = 1
  · rw [if_neg (by simp [xor_and_one_eq_one_iff, odd, odd']), if_pos odd, if_pos odd',
      UInt32.xor_assoc, UInt32.xor_comm polynomial, UInt32.xor_assoc, UInt32.xor_self,
      UInt32.xor_zero]
  · rw [if_pos (by simp [xor_and_one_eq_one_iff, odd, odd']), if_pos odd, if_neg odd',
      UInt32.xor_assoc, UInt32.xor_comm _ polynomial, UInt32.xor_assoc]
  · rw [if_pos (by simp [xor_and_one_eq_one_iff, odd, odd']), if_neg odd, if_pos odd',
      UInt32.xor_assoc]
  · rw [if_neg (by simp [xor_and_one_eq_one_iff, odd, odd']), if_neg odd, if_neg odd']

/-- The highest bit after a step is the lowest one before it: a register without the
highest bit has only been moved. -/
theorem toNat_eq_of_shift_lt (short : (shift r).toNat < 2 ^ 31) :
    r.toNat = 2 * (shift r).toNat := by
  unfold shift at short ⊢
  have half : r.toNat / 2 < 2 ^ 31 := by
    have := r.toNat_lt
    omega
  by_cases odd : r &&& 1 = 1
  · rw [if_pos odd, UInt32.toNat_xor, toNat_shiftRight_one] at short
    have top := Nat.xor_lt_two_pow half short
    rw [← Nat.xor_assoc, Nat.xor_self, Nat.zero_xor] at top
    exact absurd top (by decide)
  · rw [if_neg odd, toNat_shiftRight_one]
    rw [and_one_eq_one_iff] at odd
    omega

/-! ### Bytes -/

theorem shiftByte_xor (r s : UInt32) : shiftByte (r ^^^ s) = shiftByte r ^^^ shiftByte s := by
  simp only [shiftByte, shift_xor]

/-- A register that has room for some bits after as many steps has only been moved. -/
theorem toNat_eq_of_iterate_lt {n : Nat} (short : 2 ^ n * (shift^[n] r).toNat < 2 ^ 32) :
    r.toNat = 2 ^ n * (shift^[n] r).toNat := by
  induction n generalizing r with
  | zero => exact (Nat.one_mul _).symm
  | succ n ih =>
    rw [Function.iterate_succ_apply, Nat.pow_succ, Nat.mul_comm (2 ^ n), Nat.mul_assoc] at short ⊢
    have moved := ih (r := shift r) (by omega)
    rw [← moved] at short ⊢
    exact toNat_eq_of_shift_lt (by omega)

/-- A register without the highest eight bits has only been moved. -/
theorem toNat_eq_of_shiftByte_lt (short : (shiftByte r).toNat < 2 ^ 24) :
    r.toNat = 256 * (shiftByte r).toNat := by
  have room : 2 ^ 8 * (shift^[8] r).toNat < 2 ^ 32 := by
    change 256 * (shiftByte r).toNat < _
    omega
  exact toNat_eq_of_iterate_lt room

/-- What two registers are apart by after a byte each. -/
theorem update_xor_update (r s : UInt32) (b c : UInt8) :
    update r b ^^^ update s c = shiftByte ((r ^^^ s) ^^^ (b ^^^ c).toUInt32) := by
  rw [update, update, ← shiftByte_xor, UInt8.toUInt32_xor]
  congr 1
  rw [UInt32.xor_assoc, UInt32.xor_assoc, ← UInt32.xor_assoc _ s, UInt32.xor_comm _ s,
    UInt32.xor_assoc s]

/-- Registers that are equal after a byte were equal before it. -/
theorem eq_of_update_eq {b : UInt8} (same : update r b = update s b) : r = s := by
  have apart := update_xor_update r s b b
  rw [same, UInt32.xor_self, UInt8.xor_self, show (0 : UInt8).toUInt32 = 0 from rfl,
    UInt32.xor_zero] at apart
  have none := toNat_eq_of_shiftByte_lt (by rw [← apart]; decide)
  rw [← apart] at none
  rw [← UInt32.xor_eq_zero_iff, ← UInt32.toNat_inj]
  exact none

/-- Registers that are equal after some bytes were equal before them. -/
theorem eq_of_updateAll_eq {bytes : List UInt8} (same : updateAll r bytes = updateAll s bytes) :
    r = s := by
  induction bytes generalizing r s with
  | nil => exact same
  | cons b bytes ih => exact eq_of_update_eq (ih same)

/-- Registers that are apart in some low bits after a byte each were apart in at most eight
more before it, and the bytes are equal if the registers were. -/
theorem apart_of_update_lt {b c : UInt8} {n : Nat} (few : n ≤ 24)
    (near : (update r b ^^^ update s c).toNat < 2 ^ n) :
    (r ^^^ s).toNat < 2 ^ (n + 8) ∧ (r = s → b = c) := by
  rw [update_xor_update] at near
  have before := toNat_eq_of_shiftByte_lt
    (Nat.lt_of_lt_of_le near (Nat.pow_le_pow_right (by decide) few))
  have byte : (b ^^^ c).toUInt32.toNat < 2 ^ 8 := (b ^^^ c).toNat_lt
  constructor
  · have wide : (b ^^^ c).toUInt32.toNat < 2 ^ (n + 8) :=
      Nat.lt_of_lt_of_le byte (Nat.pow_le_pow_right (by decide) (Nat.le_add_left 8 n))
    have sum : (r ^^^ s ^^^ (b ^^^ c).toUInt32).toNat < 2 ^ (n + 8) := by
      rw [before, Nat.pow_add]
      omega
    have summand := Nat.xor_lt_two_pow sum wide
    rwa [← UInt32.toNat_xor, UInt32.xor_assoc, UInt32.xor_self, UInt32.xor_zero] at summand
  · rintro rfl
    rw [UInt32.xor_self, UInt32.zero_xor] at before
    have none : (b ^^^ c).toUInt32 = 0 := by
      rw [← UInt32.toNat_inj]
      change _ = 0
      omega
    exact UInt8.xor_eq_zero_iff.mp (UInt8.toUInt32_inj.mp none)

/-- Registers that are equal after a few bytes each were apart by no more bits than those
bytes have, and the bytes are equal if the registers were equal before them. -/
theorem apart_of_updateAll_eq {old new : List UInt8} (length : old.length = new.length)
    (few : old.length ≤ 4) (same : updateAll r old = updateAll s new) :
    (r ^^^ s).toNat < 2 ^ (8 * old.length) ∧ (r = s → old = new) := by
  induction old generalizing r s new with
  | nil =>
    obtain rfl := List.length_eq_zero_iff.mp length.symm
    have equal : r = s := same
    rw [equal, UInt32.xor_self]
    exact ⟨by decide, fun _ => rfl⟩
  | cons b old ih =>
    obtain ⟨c, new, rfl⟩ := List.exists_cons_of_length_eq_add_one length.symm
    simp only [List.length_cons, Nat.add_right_cancel_iff] at length few
    -- After the first bytes the registers are as near as the other bytes leave them, which
    -- is near enough for the first step only while these are at most three.
    obtain ⟨near, others⟩ := ih length (by omega) same
    obtain ⟨before, bytes⟩ := apart_of_update_lt (by omega) near
    refine ⟨before, fun equal => ?_⟩
    obtain rfl := bytes equal
    rw [others (congrArg (update · b) equal)]

/-! ### Check values -/

theorem updateAll_append (r : UInt32) (front back : List UInt8) :
    updateAll r (front ++ back) = updateAll (updateAll r front) back := by
  rw [updateAll, List.foldl_append]
  rfl

/-- Up to four consecutive bytes are settled by the check value and the bytes around them. -/
theorem eq_of_checksum_eq {front old new back : ByteArray} (size : old.size = new.size)
    (few : old.size ≤ 4)
    (same : checksum (front ++ old ++ back) = checksum (front ++ new ++ back)) : old = new := by
  rw [checksum_eq, checksum_eq, UInt32.xor_left_inj] at same
  simp only [ByteArray.data_append, Array.toList_append, updateAll_append] at same
  have bytes := (apart_of_updateAll_eq size few (eq_of_updateAll_eq same)).2 rfl
  exact ByteArray.ext (Array.toList_inj.mp bytes)

end ContentNode.Digest.Crc32
