import ContentNode.Json.Parser
import ContentNode.Json.Printer
import ContentNode.Proofs.Text.Writing
import Mathlib.Data.List.Basic

/-!
# Strings in JSON text

A string is read back from its text, whatever its characters are and whatever follows it.
Every character is written as bytes that are read as that character: as it is, as a short
escape, or as an escape with four digits.
-/

namespace ContentNode.Json

/-! ### Bytes of texts -/

/-- The bytes of a text. -/
def bytes (text : String) : List UInt8 := text.toUTF8.data.toList

theorem bytes_ofList (cs : List Char) :
    bytes (String.ofList cs) = cs.flatMap String.utf8EncodeChar := by
  simp [bytes, List.utf8Encode]

theorem bytes_eq (text : String) : bytes text = text.toList.flatMap String.utf8EncodeChar := by
  rw [← bytes_ofList, String.ofList_toList]

@[simp]
theorem bytes_append (a b : String) : bytes (a ++ b) = bytes a ++ bytes b := by
  simp [bytes, String.toByteArray_append]

/-- A text is read back from its bytes. -/
theorem fromUTF8?_utf8Encode (cs : List Char) :
    String.fromUTF8? cs.utf8Encode = some (String.ofList cs) := by
  rw [String.fromUTF8?, dif_pos ByteArray.isValidUTF8_utf8Encode]
  rfl

/-! ### Characters -/

/-- The bytes of a character in a string. -/
def written (c : Char) : List UInt8 := (escape c).flatMap String.utf8EncodeChar

/-- A string is its characters between quotes. -/
theorem toList_quote (text : String) :
    (quote text).toList = '"' :: text.toList.flatMap escape ++ ['"'] := by
  rw [quote, String.toList_push, String.foldl_eq_foldl_toList, Text.toList_foldl_pieces]
  rfl

theorem bytes_quote (text : String) :
    bytes (quote text) = 34 :: text.toList.flatMap written ++ [34] := by
  rw [bytes_eq, toList_quote, List.flatMap_append, List.flatMap_cons, List.flatMap_assoc]
  rfl

/-- Characters that need no escape are only put between quotes. -/
theorem quote_of_plain {text : String}
    (plain : (text.toList.all fun c => escape c == [c]) = true) :
    quote text = "\"" ++ text ++ "\"" := by
  have same : text.toList.flatMap escape = text.toList := by
    rw [List.flatMap_congr fun c member => eq_of_beq (List.all_eq_true.mp plain c member),
      List.flatMap_singleton']
  apply String.toList_inj.mp
  rw [toList_quote, same, String.toList_append, String.toList_append]
  rfl

/-- A byte that stands for itself in a string. -/
def Plain (b : UInt8) : Prop := b ≠ 34 ∧ b ≠ 92 ∧ 32 ≤ b

theorem stringBytes_quote (read : ByteArray) (rest : List UInt8) :
    Lexer.stringBytes read (34 :: rest) = .ok (read, rest) := by
  rw [Lexer.stringBytes.eq_def]
  rfl

theorem stringBytes_plain {bs : List UInt8} (plain : ∀ b ∈ bs, Plain b) (read : ByteArray)
    (rest : List UInt8) :
    Lexer.stringBytes read (bs ++ rest) = Lexer.stringBytes (read ++ bs.toByteArray) rest := by
  induction bs generalizing read with
  | nil => simp
  | cons b bs ih =>
      obtain ⟨noQuote, noEscape, large⟩ := plain b List.mem_cons_self
      have others : ∀ b ∈ bs, Plain b := fun b member => plain b (List.mem_cons_of_mem _ member)
      have taken : read ++ (b :: bs).toByteArray = read.push b ++ bs.toByteArray := by
        apply ByteArray.ext
        simp [ByteArray.data_append]
      rw [List.cons_append, Lexer.stringBytes.eq_def, taken, ← ih others]
      dsimp only
      rw [if_neg noQuote, if_neg noEscape, if_neg (UInt8.not_lt.mpr large)]

theorem stringBytes_short {e b : UInt8} (short : Lexer.shortEscape? e = some b)
    (read : ByteArray) (rest : List UInt8) :
    Lexer.stringBytes read (92 :: e :: rest) = Lexer.stringBytes (read.push b) rest := by
  have other : e ≠ 117 := by
    rintro rfl
    cases short
  rw [Lexer.stringBytes.eq_def]
  dsimp only
  rw [if_neg (by decide), if_pos rfl, if_neg other, short]

theorem stringBytes_unicode {a b c d : UInt8} {n : Nat}
    (number : Lexer.hexNumber? a b c d = some n) (small : n < 0xD800) (read : ByteArray)
    (rest : List UInt8) :
    Lexer.stringBytes read (92 :: 117 :: a :: b :: c :: d :: rest) =
      Lexer.stringBytes (read ++ Lexer.utf8 n) rest := by
  have noLow : Lexer.isLowSurrogate n = false := by
    simp [Lexer.isLowSurrogate]
    omega
  have noHigh : Lexer.isHighSurrogate n = false := by
    simp [Lexer.isHighSurrogate]
    omega
  rw [Lexer.stringBytes.eq_def]
  dsimp only
  rw [if_neg (by decide), if_pos rfl, if_pos rfl, number]
  dsimp only
  rw [noLow, noHigh]
  rfl

/-- The bytes of a character that is written as it is. -/
theorem plain_of_mem_utf8EncodeChar {c : Char} (noQuote : c ≠ '"') (noEscape : c ≠ '\\')
    (large : 0x20 ≤ c.toNat) {b : UInt8} (member : b ∈ String.utf8EncodeChar c) : Plain b := by
  have plain {n : Nat} (below : n < 256) (noQuote : n ≠ 34) (noEscape : n ≠ 92)
      (large : 32 ≤ n) : Plain (UInt8.ofNat n) := by
    simp only [Plain, Ne, ← UInt8.toNat_inj, UInt8.le_iff_toNat_le,
      UInt8.toNat_ofNat_of_lt' below]
    exact ⟨noQuote, noEscape, large⟩
  have noQuote : c.val.toNat ≠ 34 := fun same => noQuote (Char.toNat_inj.mp same)
  have noEscape : c.val.toNat ≠ 92 := fun same => noEscape (Char.toNat_inj.mp same)
  change 32 ≤ c.val.toNat at large
  unfold String.utf8EncodeChar at member
  dsimp only at member
  split at member
  · next short =>
    rw [List.mem_singleton] at member
    subst member
    exact plain (by omega) noQuote noEscape large
  · split at member
    · simp only [List.mem_cons, List.not_mem_nil, or_false] at member
      rcases member with rfl | rfl <;> apply plain <;> omega
    · split at member <;> simp only [List.mem_cons, List.not_mem_nil, or_false] at member
      · rcases member with rfl | rfl | rfl <;> apply plain <;> omega
      · rcases member with rfl | rfl | rfl | rfl <;> apply plain <;> omega

/-- The byte of a digit of a code point. -/
def digitByte (value : Nat) : UInt8 := UInt8.ofNat (if value < 10 then 48 + value else 87 + value)

/-- A control character is read from its four digits. -/
theorem unicodeEscape_control {n : Nat} (control : n < 0x20) :
    (unicodeEscape (Char.ofNat n)).flatMap String.utf8EncodeChar =
        [92, 117, 48, 48, digitByte (n / 16), digitByte (n % 16)] ∧
      Lexer.hexNumber? 48 48 (digitByte (n / 16)) (digitByte (n % 16)) = some n := by
  have every : ∀ n : Fin 0x20,
      (unicodeEscape (Char.ofNat n)).flatMap String.utf8EncodeChar =
          [92, 117, 48, 48, digitByte (n / 16), digitByte (n % 16)] ∧
        Lexer.hexNumber? 48 48 (digitByte (n / 16)) (digitByte (n % 16)) = some n.val := by
    decide
  exact every ⟨n, control⟩

/-- A character is read from what it is written as. -/
theorem stringBytes_written (c : Char) (read : ByteArray) (rest : List UInt8) :
    Lexer.stringBytes read (written c ++ rest) =
      Lexer.stringBytes (read ++ [c].utf8Encode) rest := by
  have short {e b : UInt8} (short : Lexer.shortEscape? e = some b)
      (written : written c = [92, e]) (same : String.utf8EncodeChar c = [b]) :
      Lexer.stringBytes read (Json.written c ++ rest) =
        Lexer.stringBytes (read ++ [c].utf8Encode) rest := by
    rw [written, List.utf8Encode_singleton, same, ByteArray.append_toByteArray_singleton]
    exact stringBytes_short short read rest
  by_cases quote : c = '"'
  · subst quote
    exact short (b := 34) rfl rfl rfl
  by_cases backslash : c = '\\'
  · subst backslash
    exact short (b := 92) rfl rfl rfl
  by_cases large : 0x20 ≤ c.toNat
  · have itself : written c = String.utf8EncodeChar c := by
      simp [written, escape, quote, backslash, large]
    rw [itself, List.utf8Encode_singleton]
    exact stringBytes_plain (fun b => plain_of_mem_utf8EncodeChar quote backslash large) read rest
  by_cases backspace : c = '\x08'
  · subst backspace
    exact short (b := 8) rfl rfl rfl
  by_cases tab : c = '\t'
  · subst tab
    exact short (b := 9) rfl rfl rfl
  by_cases line : c = '\n'
  · subst line
    exact short (b := 10) rfl rfl rfl
  by_cases page : c = '\x0c'
  · subst page
    exact short (b := 12) rfl rfl rfl
  by_cases carriage : c = '\r'
  · subst carriage
    exact short (b := 13) rfl rfl rfl
  · have control : c.toNat < 0x20 := Nat.lt_of_not_le large
    obtain ⟨digits, number⟩ := unicodeEscape_control control
    rw [Char.ofNat_toNat] at digits
    have four : written c =
        [92, 117, 48, 48, digitByte (c.toNat / 16), digitByte (c.toNat % 16)] := by
      rw [← digits]
      simp [written, escape, quote, backslash, large, backspace, tab, line, page, carriage]
    rw [four]
    have point : Lexer.utf8 c.toNat = [c].utf8Encode := by simp [Lexer.utf8]
    rw [← point]
    exact stringBytes_unicode number (by omega) read rest

/-- A string is read back from its text, after the opening quote. -/
theorem string_written (text : String) (rest : List UInt8) :
    Lexer.string (text.toList.flatMap written ++ 34 :: rest) = .ok (text, rest) := by
  have characters (cs : List Char) (read : ByteArray) :
      Lexer.stringBytes read (cs.flatMap written ++ 34 :: rest) =
        .ok (read ++ cs.utf8Encode, rest) := by
    induction cs generalizing read with
    | nil => simp [stringBytes_quote]
    | cons c cs ih =>
        rw [List.flatMap_cons, List.append_assoc, stringBytes_written, ih, ByteArray.append_assoc,
          ← List.utf8Encode_append, List.singleton_append]
  rw [Lexer.string, characters]
  simp only [bind, Except.bind, ByteArray.empty_append, fromUTF8?_utf8Encode, String.ofList_toList]

end ContentNode.Json
