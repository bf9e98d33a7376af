import ContentNode.Proofs.Address.Text

/-!
# Texts that are no address

A text is refused for the first of three faults that it has: the mark that opens an
address is missing, the length in bytes is not that of an address, or a character
after the mark is no lowercase digit.  The checks before the last step leave nothing
for that step to refuse, so that reading answers with an address exactly on the texts
of addresses and with a fault exactly where a text has it.
-/

namespace ContentNode.Address

open Bytes

variable {s : String} {digits before after : List Char} {c : Char} {position : Nat}

/-- The characters that write the digits of an address. -/
def LowerHex (c : Char) : Prop := '0' ≤ c ∧ c ≤ '9' ∨ 'a' ≤ c ∧ c ≤ 'f'

/-- The fault for which a text is refused. -/
inductive Refused (s : String) : ParseError → Prop where
  | opening (unmarked : ¬ "0x".toList <+: s.toList) : Refused s .missingPrefix
  | length (marked : "0x".toList <+: s.toList) (size : s.utf8ByteSize ≠ 66) :
      Refused s (.invalidLength s.utf8ByteSize)
  /-- The fault is at the first character that is no digit, and its place counts the
  bytes of the text before it. -/
  | character {before after : List Char} {c : Char}
      (characters : s.toList = "0x".toList ++ before ++ c :: after)
      (size : s.utf8ByteSize = 66) (digits : ∀ d ∈ before, LowerHex d) (foreign : ¬ LowerHex c) :
      Refused s (.invalidCharacter c (String.ofList ("0x".toList ++ before)).utf8ByteSize)

theorem isDigit_iff : Hex.isDigit c = true ↔ LowerHex c := by
  unfold Hex.isDigit Hex.value? LowerHex
  split
  · next decimal => simp [decimal]
  · next other =>
      split
      · next letter => simp [letter]
      · next neither => simp [other, neither]

/-- The bytes of a text of digits are as many as the digits. -/
theorem utf8ByteSize_of_digits (all : ∀ d ∈ digits, LowerHex d) :
    (String.ofList digits).utf8ByteSize = digits.length :=
  utf8ByteSize_ofList fun d member => Hex.utf8Size_of_isDigit (isDigit_iff.mpr (all d member))

/-! ## The first character that is no digit -/

/-- Digits are passed over one byte at a time. -/
theorem firstNonDigit?_append (all : ∀ d ∈ before, LowerHex d) (foreign : ¬ LowerHex c) :
    firstNonDigit? position (before ++ c :: after) = some (c, position + before.length) := by
  induction before generalizing position with
  | nil => simp [firstNonDigit?, isDigit_iff, foreign]
  | cons d rest ih =>
      have digit := isDigit_iff.mpr (all d List.mem_cons_self)
      rw [List.cons_append, firstNonDigit?, if_pos digit,
        ih (fun e member => all e (List.mem_cons_of_mem d member)), Hex.utf8Size_of_isDigit digit,
        List.length_cons]
      congr 2
      omega

/-- Either every character is a digit or one is the first that is none. -/
theorem all_digits_or_foreign (digits : List Char) :
    (∀ d ∈ digits, LowerHex d) ∨ ∃ before c after, digits = before ++ c :: after ∧
      (∀ d ∈ before, LowerHex d) ∧ ¬ LowerHex c := by
  induction digits with
  | nil => exact .inl fun d member => absurd member List.not_mem_nil
  | cons d rest ih =>
      by_cases digit : LowerHex d
      · rcases ih with all | ⟨before, c, after, rfl, all, foreign⟩
        · exact .inl (List.forall_mem_cons.mpr ⟨digit, all⟩)
        · exact .inr ⟨d :: before, c, after, rfl, List.forall_mem_cons.mpr ⟨digit, all⟩, foreign⟩
      · exact .inr ⟨[], d, rest, rfl, fun e member => absurd member List.not_mem_nil, digit⟩

/-! ## Digits in pairs -/

/-- An even number of digits is read as half as many bytes. -/
theorem decode?_of_digits {count : Nat} (size : digits.length = 2 * count)
    (all : ∀ d ∈ digits, LowerHex d) :
    ∃ bytes, Hex.decode? digits = some bytes ∧ bytes.length = count := by
  induction count generalizing digits with
  | zero =>
      obtain rfl := List.length_eq_zero_iff.mp size
      exact ⟨[], rfl, rfl⟩
  | succ count ih =>
      match digits, size with
      | high :: low :: rest, size =>
          obtain ⟨highDigit, lowDigit, restDigits⟩ :=
            (List.forall_mem_cons.trans (and_congr_right fun _ => List.forall_mem_cons)).mp all
          obtain ⟨h, highValue⟩ := Option.isSome_iff_exists.mp (isDigit_iff.mpr highDigit)
          obtain ⟨l, lowValue⟩ := Option.isSome_iff_exists.mp (isDigit_iff.mpr lowDigit)
          obtain ⟨bytes, read, length⟩ :=
            ih (by simp only [List.length_cons] at size; omega) restDigits
          refine ⟨UInt8.ofNat (16 * h + l) :: bytes, ?_, by rw [List.length_cons, length]⟩
          simp [Hex.decode?, highValue, lowValue, read]

/-- Sixty-four digits are those of an address. -/
theorem ofHexDigits?_of_digits (size : digits.length = 64) (all : ∀ d ∈ digits, LowerHex d) :
    ∃ a, ofHexDigits? digits = some a := by
  have pairs : digits.length = 2 * 32 := size
  obtain ⟨bytes, read, length⟩ := decode?_of_digits pairs all
  exact ⟨⟨bytes.toArray, by simpa using length⟩, by simp [ofHexDigits?, read, length]⟩

/-! ## What reading answers -/

/-- Without the mark a text is refused at once. -/
theorem parse_of_unmarked (unmarked : ¬ "0x".toList <+: s.toList) :
    parse s = .error .missingPrefix := by
  unfold parse
  split
  · next digits characters =>
      exact absurd ⟨digits, characters.symm⟩ unmarked
  · rfl

theorem parse_of_length (characters : s.toList = '0' :: 'x' :: digits)
    (size : s.utf8ByteSize ≠ 66) : parse s = .error (.invalidLength s.utf8ByteSize) := by
  unfold parse
  rw [characters]
  exact if_pos size

theorem parse_of_foreign (characters : s.toList = '0' :: 'x' :: (before ++ c :: after))
    (size : s.utf8ByteSize = 66) (all : ∀ d ∈ before, LowerHex d) (foreign : ¬ LowerHex c) :
    parse s = .error (.invalidCharacter c (2 + before.length)) := by
  unfold parse
  rw [characters]
  simp only [size, show encodedLength = 66 from rfl, ne_eq, not_true_eq_false, if_false,
    show opening.utf8ByteSize = 2 from rfl, firstNonDigit?_append all foreign]

/-- A text of the right length with digits only denotes an address: the number of its
digits is known from its bytes. -/
theorem parse_of_digits (characters : s.toList = '0' :: 'x' :: digits)
    (size : s.utf8ByteSize = 66) (all : ∀ d ∈ digits, LowerHex d) : ∃ a, parse s = .ok a := by
  have whole : s = "0x" ++ String.ofList digits := String.toList_inj.mp (by simp [characters])
  have count : digits.length = 64 := by
    rw [whole, String.utf8ByteSize_append, utf8ByteSize_of_digits all] at size
    exact Nat.add_left_cancel (n := 2) size
  obtain ⟨a, read⟩ := ofHexDigits?_of_digits count all
  have digit : ∀ d ∈ digits, Hex.isDigit d = true := fun d member => isDigit_iff.mpr (all d member)
  refine ⟨a, ?_⟩
  unfold parse
  rw [characters]
  simp only [size, show encodedLength = 66 from rfl, ne_eq, not_true_eq_false, if_false,
    firstNonDigit?_eq_none digit, read]

/-- The place of the first character that is no digit, counted in bytes. -/
theorem utf8ByteSize_before (all : ∀ d ∈ before, LowerHex d) :
    (String.ofList ("0x".toList ++ before)).utf8ByteSize = 2 + before.length := by
  rw [String.ofList_append, String.utf8ByteSize_append, utf8ByteSize_of_digits all]
  rfl

theorem parse_of_refused {reason : ParseError} (refused : Refused s reason) :
    parse s = .error reason := by
  cases refused with
  | opening unmarked => exact parse_of_unmarked unmarked
  | length marked size =>
      obtain ⟨digits, characters⟩ := marked
      exact parse_of_length characters.symm size
  | character characters size digits foreign =>
      rw [utf8ByteSize_before digits]
      exact parse_of_foreign characters size digits foreign

/-- A text that is no address has one of the three faults. -/
theorem address_or_refused (s : String) : (∃ a, parse s = .ok a) ∨ ∃ reason, Refused s reason := by
  by_cases marked : "0x".toList <+: s.toList
  · obtain ⟨digits, characters⟩ := marked
    by_cases size : s.utf8ByteSize = 66
    · rcases all_digits_or_foreign digits with all | ⟨before, c, after, rfl, all, foreign⟩
      · exact .inl (parse_of_digits characters.symm size all)
      · have split : s.toList = "0x".toList ++ before ++ c :: after := by
          rw [← characters, List.append_assoc]
        exact .inr ⟨_, .character split size all foreign⟩
    · exact .inr ⟨_, .length ⟨digits, characters⟩ size⟩
  · exact .inr ⟨_, .opening marked⟩

/-- Reading accepts exactly the texts of addresses and refuses every other text for
exactly the fault that it has; the length of an address is never what a refusal
reports. -/
theorem parse_ok_iff_and_error_iff (s : String) :
    (∀ a, parse s = .ok a ↔ s = a.encode) ∧
    (∀ reason, parse s = .error reason ↔ Refused s reason) ∧
    parse s ≠ .error (.invalidLength 66) := by
  have refused : ∀ reason, parse s = .error reason ↔ Refused s reason := by
    intro reason
    refine ⟨fun failed => ?_, parse_of_refused⟩
    rcases address_or_refused s with ⟨a, read⟩ | ⟨other, holds⟩
    · rw [read] at failed
      contradiction
    · obtain rfl := Except.error.inj ((parse_of_refused holds).symm.trans failed)
      exact holds
  refine ⟨fun a => parse_eq_ok_iff, refused, fun failed => ?_⟩
  generalize reported : ParseError.invalidLength 66 = reason at failed
  cases (refused reason).mp failed with
  | opening | character => contradiction
  | length _ size => exact size (ParseError.invalidLength.inj reported).symm

/-- A character of several bytes is reported whole, with the place of its first byte. -/
example : parse ("0x0" ++ "é" ++ String.ofList (List.replicate 61 '0')) =
    .error (.invalidCharacter 'é' 3) := by
  rfl

end ContentNode.Address
