import ContentNode.Address.Codec

/-!
# The texts of addresses

Every address has one text, and reading accepts exactly these texts.  The digits
of an address are sixty-four and none of them is a separator, so that they can be
cut into the names of a directory and of a file.
-/

namespace ContentNode.Address

open Bytes

/-- A digest has thirty-two bytes. -/
theorem length_bytes (a : Address) : a.bytes.toList.length = 32 := by simp

/-- An address has two digits for every byte. -/
theorem length_hexDigits (a : Address) : a.hexDigits.length = 64 := by
  rw [hexDigits, Hex.length_encode, length_bytes]

/-- Every character after the mark is a lowercase digit. -/
theorem isDigit_of_mem_hexDigits {a : Address} {c : Char} (h : c ∈ a.hexDigits) :
    Hex.isDigit c = true :=
  Hex.isDigit_of_mem_encode h

/-- The digits determine the address. -/
theorem hexDigits_injective {a b : Address} (h : a.hexDigits = b.hexDigits) : a = b := by
  have read : some a.bytes.toList = some b.bytes.toList := by
    rw [← Hex.decode?_encode, ← Hex.decode?_encode]
    exact congrArg Hex.decode? h
  obtain ⟨a⟩ := a
  obtain ⟨b⟩ := b
  exact congrArg Address.mk (Vector.toList_inj.mp (Option.some.inj read))

/-- An address is read back from its digits. -/
theorem ofHexDigits?_hexDigits (a : Address) : ofHexDigits? a.hexDigits = some a := by
  obtain ⟨⟨bytes, size⟩⟩ := a
  simp [ofHexDigits?, hexDigits, Hex.decode?_encode, size]

/-- Digits that are read are those of the address. -/
theorem hexDigits_of_ofHexDigits? {digits : List Char} {a : Address}
    (h : ofHexDigits? digits = some a) : a.hexDigits = digits := by
  simp only [ofHexDigits?, Option.bind_eq_bind, Option.bind_eq_some_iff] at h
  obtain ⟨bytes, read, rest⟩ := h
  split at rest
  · obtain rfl := Option.some.inj rest
    exact Hex.encode_of_decode? read
  · contradiction

/-- The characters of the text of an address. -/
theorem toList_encode (a : Address) : a.encode.toList = '0' :: 'x' :: a.hexDigits := by
  simp [encode, opening, hex]

/-- A text of characters of one byte has as many bytes as characters. -/
theorem utf8ByteSize_ofList {chars : List Char} (single : ∀ c ∈ chars, c.utf8Size = 1) :
    (String.ofList chars).utf8ByteSize = chars.length := by
  induction chars with
  | nil => rfl
  | cons c rest ih =>
    have restSize := ih fun d member => single d (List.mem_cons_of_mem c member)
    rw [String.ofList_cons, String.utf8ByteSize_append, String.utf8ByteSize_singleton,
      single c List.mem_cons_self, restSize, List.length_cons, Nat.add_comm]

/-- The text of an address has as many bytes as reading asks for. -/
theorem utf8ByteSize_encode (a : Address) : a.encode.utf8ByteSize = encodedLength := by
  have size : a.hex.utf8ByteSize = 64 := by
    rw [hex, utf8ByteSize_ofList fun c member => Hex.utf8Size_of_isDigit
      (isDigit_of_mem_hexDigits member), length_hexDigits]
  rw [encode, String.utf8ByteSize_append, size]
  rfl

/-- There is nothing to report on digits. -/
theorem firstNonDigit?_eq_none {digits : List Char} (h : ∀ c ∈ digits, Hex.isDigit c = true)
    (position : Nat) : firstNonDigit? position digits = none := by
  induction digits generalizing position with
  | nil => rfl
  | cons c rest ih =>
    rw [firstNonDigit?, if_pos (h c List.mem_cons_self)]
    exact ih (fun d member => h d (List.mem_cons_of_mem c member)) _

/-- The text of an address denotes it. -/
theorem parse_encode (a : Address) : parse a.encode = .ok a := by
  rw [parse, toList_encode]
  simp only [utf8ByteSize_encode, ne_eq, not_true_eq_false, if_false,
    firstNonDigit?_eq_none fun c => isDigit_of_mem_hexDigits, ofHexDigits?_hexDigits]

/-- A text that denotes an address is its text. -/
theorem eq_encode_of_parse {s : String} {a : Address} (h : parse s = .ok a) : s = a.encode := by
  unfold parse at h
  split at h
  · next digits characters =>
    split at h
    · contradiction
    · split at h
      · contradiction
      · split at h
        · next b read =>
          obtain rfl := Except.ok.inj h
          apply String.toList_inj.mp
          rw [characters, toList_encode, hexDigits_of_ofHexDigits? read]
        · contradiction
  · contradiction

/-- Reading accepts exactly the texts of addresses. -/
theorem parse_eq_ok_iff {s : String} {a : Address} : parse s = .ok a ↔ s = a.encode := by
  constructor
  · exact eq_encode_of_parse
  · rintro rfl
    exact parse_encode a

/-- Different addresses have different texts. -/
theorem encode_injective {a b : Address} (h : a.encode = b.encode) : a = b := by
  have read : parse a.encode = .ok b := by rw [h, parse_encode]
  exact Except.ok.inj ((parse_encode a).symm.trans read)

end ContentNode.Address
