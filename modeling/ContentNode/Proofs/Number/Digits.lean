/-!
# Digits of natural numbers

What holds of every digit of a radix holds of the digits of a number, and the digits give the
number back, whichever function reads a digit.
-/

namespace ContentNode

variable {radix n : Nat} {c : Char}

theorem of_mem_toDigits {P : Char → Prop} (several : 1 < radix)
    (digits : ∀ d < radix, P d.digitChar) (member : c ∈ Nat.toDigits radix n) : P c := by
  induction n using Nat.base_induction radix several with
  | single m small =>
      rw [Nat.toDigits_of_lt_base small, List.mem_singleton] at member
      rw [member]
      exact digits m small
  | digit m k small positive ih =>
      rw [← Nat.toDigits_append_toDigits several positive small,
        Nat.toDigits_of_lt_base small] at member
      rcases List.mem_append.mp member with higher | last
      · exact ih higher
      · rw [List.mem_singleton.mp last]
        exact digits k small

/-- The number of the digits of a number, the most significant one first. -/
theorem foldl_toDigits {value : Char → Nat} (several : 1 < radix)
    (digits : ∀ d < radix, value d.digitChar = d) (n : Nat) :
    (Nat.toDigits radix n).foldl (fun number c => number * radix + value c) 0 = n := by
  induction n using Nat.base_induction radix several with
  | single m small =>
      rw [Nat.toDigits_of_lt_base small, List.foldl_cons, List.foldl_nil, digits m small,
        Nat.zero_mul, Nat.zero_add]
  | digit m k small positive ih =>
      rw [← Nat.toDigits_append_toDigits several positive small, Nat.toDigits_of_lt_base small,
        List.foldl_append, ih, List.foldl_cons, List.foldl_nil, digits k small, Nat.mul_comm]

/-- A number of several digits does not begin with a zero. -/
theorem head_toDigits (positive : 0 < n) : ∃ c cs, Nat.toDigits 10 n = c :: cs ∧ c ≠ '0' := by
  induction n using Nat.base_induction 10 (by decide) with
  | single m small =>
      rw [Nat.toDigits_of_lt_base small]
      exact ⟨m.digitChar, [], rfl, by simpa using Nat.pos_iff_ne_zero.mp positive⟩
  | digit m k small large ih =>
      obtain ⟨c, cs, digits, different⟩ := ih large
      rw [← Nat.toDigits_append_toDigits (by decide) large small, digits]
      exact ⟨c, cs ++ Nat.toDigits 10 k, rfl, different⟩

end ContentNode
