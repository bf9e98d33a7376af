import ContentNode.Proofs.Address.Text
import ContentNode.Proofs.Number.Digits
import Mathlib.Data.Nat.Digits.Defs

/-!
# Texts written piece by piece

The characters of texts that are written by adding characters at the end, and how many bytes they
take between quotes.
-/

namespace ContentNode.Text

/-- Characters that are added one by one stand at the end. -/
theorem toList_foldl_push (cs : List Char) (text : String) :
    (cs.foldl String.push text).toList = text.toList ++ cs := by
  induction cs generalizing text with
  | nil => simp
  | cons c rest ih => simp [ih]

/-- So do the pieces that are added one after another. -/
theorem toList_foldl_pieces {α : Type} (piece : α → List Char) (items : List α) (text : String) :
    (items.foldl (fun text item => (piece item).foldl String.push text) text).toList =
      text.toList ++ items.flatMap piece := by
  induction items generalizing text with
  | nil => simp
  | cons item rest ih => simp [ih, toList_foldl_push]

/-! ### Sizes -/

/-- Pieces of bounded size make a text whose size is bounded by their number. -/
theorem utf8ByteSize_flatMap_le {α : Type} {piece : α → List Char} {size : Nat}
    (bounded : ∀ item, (String.ofList (piece item)).utf8ByteSize ≤ size) (items : List α) :
    (String.ofList (items.flatMap piece)).utf8ByteSize ≤ size * items.length := by
  induction items with
  | nil => simp
  | cons item rest ih =>
      have first := bounded item
      rw [List.flatMap_cons, String.ofList_append, String.utf8ByteSize_append, List.length_cons,
        Nat.mul_succ]
      omega

/-- No character takes more than four bytes. -/
theorem utf8ByteSize_ofList_le (cs : List Char) :
    (String.ofList cs).utf8ByteSize ≤ 4 * cs.length := by
  have single (c : Char) : (String.ofList [c]).utf8ByteSize ≤ 4 := by
    rw [← String.singleton_eq_ofList, String.utf8ByteSize_singleton]
    exact c.utf8Size_le_four
  simpa using utf8ByteSize_flatMap_le single cs

/-- A number below a power of the radix takes a byte for each digit of the exponent. -/
theorem utf8ByteSize_toDigits_le {radix n count : Nat} (several : 1 < radix) (few : radix ≤ 16)
    (positive : 0 < count) (small : n < radix ^ count) :
    (String.ofList (Nat.toDigits radix n)).utf8ByteSize ≤ count := by
  have digits : ∀ d < 16, d.digitChar.utf8Size = 1 := by decide
  have single : ∀ c ∈ Nat.toDigits radix n, c.utf8Size = 1 := fun c member =>
    of_mem_toDigits (P := fun c => c.utf8Size = 1) several
      (fun d below => digits d (below.trans_le few)) member
  rw [Address.utf8ByteSize_ofList single]
  exact Nat.toDigits_length radix n count positive small

namespace Quoted

/-- A code point has at most six digits. -/
theorem utf8ByteSize_codePoint_le (c : Char) :
    (String.ofList (codePoint c)).utf8ByteSize ≤ 10 := by
  have small : c.toNat < 16 ^ 6 := by
    have valid : c.toNat < 0xD800 ∨ 0xDFFF < c.toNat ∧ c.toNat < 0x110000 := c.valid
    omega
  have digits := utf8ByteSize_toDigits_le (by decide) le_rfl (by decide) small
  rw [codePoint, String.ofList_append, String.ofList_append, String.utf8ByteSize_append,
    String.utf8ByteSize_append,
    show (String.ofList ['\\', 'u', '\x7b']).utf8ByteSize = 3 from rfl,
    show (String.ofList ['\x7d']).utf8ByteSize = 1 from rfl]
  omega

/-- An escape takes at most as many bytes as one with a code point. -/
theorem utf8ByteSize_escape_le (delimits : Char → Bool) (c : Char) :
    (String.ofList (escape delimits c)).utf8ByteSize ≤ 10 := by
  have short {cs : List Char} (few : cs.length ≤ 2) : (String.ofList cs).utf8ByteSize ≤ 10 :=
    (utf8ByteSize_ofList_le cs).trans (by omega)
  unfold escape
  split_ifs
  · exact short le_rfl
  · exact short le_rfl
  · exact short le_rfl
  · exact short le_rfl
  · exact short le_rfl
  · exact utf8ByteSize_codePoint_le c
  · exact short one_le_two

theorem toList_between (quote : Char) (delimits : Char → Bool) (s : String) :
    (between quote delimits s).toList = quote :: s.toList.flatMap (escape delimits) ++ [quote] := by
  rw [between, String.toList_push, String.foldl_eq_foldl_toList, toList_foldl_pieces]
  simp

/-- Between quotes a text takes at most ten bytes for each of its characters. -/
theorem utf8ByteSize_between_le (quote : Char) (delimits : Char → Bool) (s : String) :
    (between quote delimits s).utf8ByteSize ≤ 2 * quote.utf8Size + 10 * s.length := by
  have inner := utf8ByteSize_flatMap_le (utf8ByteSize_escape_le delimits) s.toList
  have whole : between quote delimits s =
      String.singleton quote ++ String.ofList (s.toList.flatMap (escape delimits)) ++
        String.singleton quote :=
    String.toList_inj.mp (by simp [toList_between])
  rw [whole, String.utf8ByteSize_append, String.utf8ByteSize_append,
    String.utf8ByteSize_singleton, ← String.length_toList]
  omega

theorem utf8ByteSize_string_le (s : String) : (string s).utf8ByteSize ≤ 2 + 10 * s.length :=
  utf8ByteSize_between_le '"' _ s

theorem utf8ByteSize_char_le (c : Char) : (char c).utf8ByteSize ≤ 12 := by
  have size := utf8ByteSize_between_le '\'' (· == '\'') (String.singleton c)
  rwa [String.length_singleton] at size

end Quoted

end ContentNode.Text

namespace ContentNode.Bytes.Hex

/-- The digits of a byte array are those of its bytes. -/
theorem toList_ofByteArray (bytes : ByteArray) :
    (ofByteArray bytes).toList = encode bytes.data.toList := by
  rw [ofByteArray, ← Array.foldl_toList, Text.toList_foldl_pieces]
  rfl

end ContentNode.Bytes.Hex
