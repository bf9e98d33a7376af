import ContentNode.Toml.Printer
import ContentNode.Toml.Scalar

/-!
# Escapes in strings

A character other than a double quote stands between double quotes as itself or as an escape,
and an escape is read as the character that it was written for.
-/

namespace ContentNode.Toml

variable {c d : Char} {e out rest : List Char} {lines : Bool}

theorem skipBlank_cons (visible : Scalar.isBlank c = false) (s : List Char) :
    Scalar.skipBlank (c :: s) = c :: s :=
  List.dropWhile_cons_of_neg (by simp [visible])

/-- What stands after the backslash of an escape of a character. -/
structure Escapes (e : List Char) (c : Char) : Prop where
  reads : ∀ rest, Scalar.escape (e ++ rest) = .ok (c, e.length)
  /-- The backslash before it does not join lines. -/
  opens : ∃ d more, e = d :: more ∧ Scalar.isBlank d = false ∧ d ≠ '\n' ∧ d ≠ '\r'

theorem Escapes.append_ne_nil (escapes : Escapes e c) (rest : List Char) :
    (e ++ rest).isEmpty = false := by
  obtain ⟨d, more, rfl, -⟩ := escapes.opens
  rfl

theorem Escapes.not_joinsLines (escapes : Escapes e c) (rest : List Char) :
    Scalar.joinsLines (e ++ rest) = false := by
  obtain ⟨d, more, rfl, visible, noBreak, noReturn⟩ := escapes.opens
  rw [Scalar.joinsLines, List.cons_append, skipBlank_cons visible]
  unfold Scalar.lineBreak?
  split <;> simp_all

/-- The letters of short escapes are those that are read. -/
theorem escapes_short (short : Scalar.shortEscape? d = some c) : Escapes [d] c := by
  have other {letter : Char} (foreign : Scalar.shortEscape? letter = none) : d ≠ letter := by
    rintro rfl
    rw [foreign] at short
    contradiction
  have visible : Scalar.isBlank d = false := by
    rw [Scalar.isBlank, Bool.or_eq_false_iff, beq_eq_false_iff_ne, beq_eq_false_iff_ne]
    exact ⟨other rfl, other rfl⟩
  refine ⟨fun rest => ?_, d, [], rfl, visible, other rfl, other rfl⟩
  rw [List.cons_append, Scalar.escape, if_neg (other rfl), if_neg (other rfl), short]
  rfl

/-- Four digits of a code point. -/
theorem codePoint_four {digits : List Char} (four : digits.length = 4)
    (number : Scalar.hexNumber? digits = some c.toNat) (rest : List Char) :
    Scalar.codePoint 4 (digits ++ rest) = .ok c := by
  have enough : 4 ≤ (digits ++ rest).length := by
    rw [List.length_append, four]
    omega
  rw [Scalar.codePoint, if_pos enough, List.take_left' four, number]
  have valid : c.toNat.isValidChar := c.valid
  simp only [if_pos valid, Char.ofNat_toNat]
  rfl

theorem toNat_lt_of_isControl (control : Printer.isControl c = true) : c.toNat < 128 := by
  simp only [Printer.isControl, Bool.or_eq_true, Bool.and_eq_true, decide_eq_true_eq,
    beq_iff_eq] at control
  rcases control with ⟨⟨low, -⟩, -⟩ | rfl
  · exact Nat.lt_trans (UInt32.lt_iff_toNat_lt.mp low) (by decide)
  · decide

/-- A control character by its code point. -/
theorem escapes_unicode (control : Printer.isControl c = true) :
    ∃ e, Printer.unicodeEscape c = '\\' :: e ∧ Escapes e c := by
  have small : ∀ n < 128, Printer.isControl (Char.ofNat n) = true →
      (Printer.unicodeEscape (Char.ofNat n)).take 2 = ['\\', 'u'] ∧
        ((Printer.unicodeEscape (Char.ofNat n)).drop 2).length = 4 ∧
        Scalar.hexNumber? ((Printer.unicodeEscape (Char.ofNat n)).drop 2) = some n := by
    decide +kernel
  obtain ⟨mark, four, number⟩ := small c.toNat (toNat_lt_of_isControl control) (by
    rwa [Char.ofNat_toNat])
  rw [Char.ofNat_toNat] at mark four number
  refine ⟨'u' :: (Printer.unicodeEscape c).drop 2, ?_, fun rest => ?_, 'u', _, rfl, rfl,
    by decide, by decide⟩
  · calc Printer.unicodeEscape c
        = (Printer.unicodeEscape c).take 2 ++ (Printer.unicodeEscape c).drop 2 :=
          (List.take_append_drop 2 _).symm
      _ = '\\' :: 'u' :: (Printer.unicodeEscape c).drop 2 := by
          rw [mark]
          rfl
  · rw [List.cons_append, Scalar.escape, if_pos rfl, codePoint_four four number rest]
    rw [List.length_cons, four]
    rfl

/-- How a character stands between double quotes. -/
inductive Written (lines : Bool) (c : Char) : List Char → Prop where
  | plain (noQuote : c ≠ '"') (noEscape : c ≠ '\\') (visible : Scalar.isCommentChar c = true) :
      Written lines c [c]
  | lineBreak (several : lines = true) (isBreak : c = '\n') : Written lines c ['\n']
  | escaped {e : List Char} (escapes : Escapes e c) : Written lines c ('\\' :: e)

theorem written_quote (lines : Bool) : Written lines '"' ['\\', '"'] := .escaped (escapes_short rfl)

/-- What is no control character may stand in a comment, but for line breaks. -/
theorem isCommentChar_of_not_isControl (visible : Printer.isControl c = false)
    (noBreak : c ≠ '\n') : Scalar.isCommentChar c = true := by
  simp only [Printer.isControl, Bool.or_eq_false_iff, Bool.and_eq_false_iff,
    decide_eq_false_iff_not, bne_eq_false_iff_eq, beq_eq_false_iff_ne] at visible
  obtain ⟨low, delete⟩ := visible
  simp only [Scalar.isCommentChar, Bool.or_eq_true, Bool.and_eq_true, beq_iff_eq, bne_iff_ne,
    decide_eq_true_eq]
  rcases low with (low | tab) | isBreak
  · exact .inr ⟨Char.not_lt.mp low, delete⟩
  · exact .inl tab
  · exact absurd isBreak noBreak

theorem ne_break_of_isCommentChar (visible : Scalar.isCommentChar c = true) :
    c ≠ '\n' ∧ c ≠ '\r' := by
  constructor <;>
    · rintro rfl
      revert visible
      decide

theorem written_escape (lines : Bool) (noQuote : c ≠ '"') :
    Written lines c (Printer.escape lines c) := by
  unfold Printer.escape
  split
  next is => exact .escaped (escapes_short (by rw [is]; rfl))
  split
  next is => exact .escaped (escapes_short (by rw [is]; rfl))
  split
  next isBreak =>
    split
    next several => exact .lineBreak several isBreak
    next single => exact .escaped (escapes_short (by rw [isBreak]; rfl))
  next noBreak =>
    split
    next is => exact .escaped (escapes_short (by rw [is]; rfl))
    split
    next is => exact .escaped (escapes_short (by rw [is]; rfl))
    split
    next is => exact .escaped (escapes_short (by rw [is]; rfl))
    next noEscape =>
      split
      next control =>
        obtain ⟨e, same, escapes⟩ := escapes_unicode control
        rw [same]
        exact .escaped escapes
      next visible =>
        exact .plain noQuote noEscape
          (isCommentChar_of_not_isControl (Bool.eq_false_iff.mpr visible) noBreak)

/-- What a character is written as begins with no quote, and with a line break only if it is
one. -/
theorem Written.head_ne (written : Written lines c out) :
    ∃ d more, out = d :: more ∧ d ≠ '"' ∧ d ≠ '\r' ∧ (c ≠ '\n' → d ≠ '\n') := by
  cases written with
  | plain noQuote noEscape visible =>
    exact ⟨c, [], rfl, noQuote, (ne_break_of_isCommentChar visible).2, id⟩
  | lineBreak several isBreak => exact ⟨'\n', [], rfl, by decide, by decide, absurd isBreak⟩
  | escaped escapes => exact ⟨'\\', _, rfl, by decide, by decide, fun _ => by decide⟩

/-- What was written begins with a quote only where one more is allowed, and with a line break
only where the string does. -/
theorem escapeAll_head (lines : Bool) (run : Nat) (c : Char) (s : List Char) :
    ∃ d more, Printer.escapeAll lines run (c :: s) = d :: more ∧
      ((c = '"' → Printer.quotesAllowed lines ≤ run) → d ≠ '"') ∧ d ≠ '\r' ∧
      (c ≠ '\n' → d ≠ '\n') := by
  rw [Printer.escapeAll]
  split
  next isQuote =>
    split
    next many => exact ⟨'\\', _, rfl, fun _ => by decide, by decide, fun _ => by decide⟩
    next allowed =>
      refine ⟨'"', _, rfl, fun closed => ?_, by decide, fun _ => by decide⟩
      exact absurd (Nat.lt_succ_of_le (closed isQuote)) allowed
  next noQuote =>
    obtain ⟨d, more, same, other, noReturn, noBreak⟩ := (written_escape lines noQuote).head_ne
    rw [same]
    exact ⟨d, _, rfl, fun _ => other, noReturn, noBreak⟩

end ContentNode.Toml
