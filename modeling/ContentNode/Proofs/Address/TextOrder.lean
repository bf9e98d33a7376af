import ContentNode.Proofs.Address.Order
import ContentNode.Proofs.Address.Text
import ContentNode.Proofs.Json.Strings
import ContentNode.Store.Memory

/-!
# Addresses in the order of their texts

A digit comes before another exactly if its value does, and the high digit of a byte
decides before the low one.  The digits of bytes therefore compare as the bytes, and
the texts of addresses as the addresses: whoever sorts the texts gets them in the order
in which the addresses are sorted.
-/

namespace ContentNode

namespace Text

variable {s s' t t' : String}

/-- Texts compare byte by byte. -/
def compare (s t : String) : Ordering :=
  List.compareLex Ord.compare s.toUTF8.data.toList t.toUTF8.data.toList

instance : Std.TransCmp compare :=
  inferInstanceAs (Std.TransCmp (compareOn fun s : String => s.toUTF8.data.toList))

instance : Std.LawfulEqCmp compare :=
  (lawfulEqCmp_compareOn fun _ _ same =>
      String.toByteArray_inj.mp (ByteArray.ext (Array.toList_inj.mp same)) :
    Std.LawfulEqCmp (compareOn fun s : String => s.toUTF8.data.toList))

/-- Bytes decide before those behind them, as long as there are equally many. -/
private theorem compareLex_append {as bs cs ds : List UInt8} (length : as.length = bs.length) :
    List.compareLex Ord.compare (as ++ cs) (bs ++ ds) =
      (List.compareLex Ord.compare as bs).then (List.compareLex Ord.compare cs ds) := by
  induction as generalizing bs with
  | nil =>
      obtain rfl := List.eq_nil_of_length_eq_zero length.symm
      rfl
  | cons a as ih =>
      match bs, length with
      | b :: bs, length =>
          rw [List.cons_append, List.cons_append, List.compareLex_cons_cons,
            ih (Nat.succ.inj length), ← Ordering.then_assoc, List.compareLex_cons_cons]

/-- Beginnings of one size decide before what follows them. -/
theorem compare_append (size : s.utf8ByteSize = s'.utf8ByteSize) :
    compare (s ++ t) (s' ++ t') = (compare s s').then (compare t t') := by
  change List.compareLex Ord.compare (Json.bytes (s ++ t)) (Json.bytes (s' ++ t')) = _
  rw [Json.bytes_append, Json.bytes_append]
  exact compareLex_append size

end Text

namespace Bytes.Hex

variable {v w : Nat}

/-- Digits compare as their values: the letters come after the decimal digits. -/
theorem compare_digit (vSmall : v < 16) (wSmall : w < 16) :
    Text.compare (String.singleton (digit v)) (String.singleton (digit w)) = compare v w := by
  have every : ∀ v w : Fin 16,
      Text.compare (String.singleton (digit v)) (String.singleton (digit w)) =
        compare v.val w.val := by decide +kernel
  exact every ⟨v, vSmall⟩ ⟨w, wSmall⟩

theorem utf8ByteSize_digit (small : v < 16) : (String.singleton (digit v)).utf8ByteSize = 1 := by
  rw [String.utf8ByteSize_singleton]
  exact utf8Size_of_isDigit (by rw [isDigit, value?_digit small]; rfl)

/-- What the high digits stand for decides before what the low ones do. -/
theorem compare_halves (m n : Nat) :
    compare m n = (compare (m / 16) (n / 16)).then (compare (m % 16) (n % 16)) := by
  rcases Nat.lt_trichotomy (m / 16) (n / 16) with less | same | more
  · have below : m < n := by omega
    rw [Nat.compare_eq_lt.mpr less, Nat.compare_eq_lt.mpr below]
    rfl
  · have below : m < n ↔ m % 16 < n % 16 := by omega
    have above : n < m ↔ n % 16 < m % 16 := by omega
    rw [Nat.compare_eq_eq.mpr same, Nat.compare_eq_ite_lt m, Nat.compare_eq_ite_lt (m % 16)]
    simp only [below, above, Ordering.then]
  · have above : n < m := by omega
    rw [Nat.compare_eq_gt.mpr more, Nat.compare_eq_gt.mpr above]
    rfl

theorem ofList_ofByte (b : UInt8) : String.ofList (ofByte b) =
    String.singleton (digit (b.toNat / 16)) ++ String.singleton (digit (b.toNat % 16)) := by
  rw [ofByte, String.ofList_cons, ← String.singleton_eq_ofList]

theorem utf8ByteSize_ofByte (b : UInt8) : (String.ofList (ofByte b)).utf8ByteSize = 2 := by
  have bound : b.toNat < 256 := b.toNat_lt
  rw [ofList_ofByte, String.utf8ByteSize_append, utf8ByteSize_digit (by omega),
    utf8ByteSize_digit (by omega)]

theorem compare_ofByte (a b : UInt8) :
    Text.compare (String.ofList (ofByte a)) (String.ofList (ofByte b)) = compare a b := by
  have aBound : a.toNat < 256 := a.toNat_lt
  have bBound : b.toNat < 256 := b.toNat_lt
  have size : (String.singleton (digit (a.toNat / 16))).utf8ByteSize =
      (String.singleton (digit (b.toNat / 16))).utf8ByteSize := by
    rw [utf8ByteSize_digit (by omega), utf8ByteSize_digit (by omega)]
  rw [ofList_ofByte, ofList_ofByte, Text.compare_append size, compare_digit (by omega) (by omega),
    compare_digit (by omega) (by omega), ← compare_halves,
    ← UInt8.compare_eq_toNat_compare_toNat]

/-- The digits of equally many bytes compare as the bytes. -/
theorem compare_encode {as bs : List UInt8} (length : as.length = bs.length) :
    Text.compare (String.ofList (encode as)) (String.ofList (encode bs)) =
      List.compareLex compare as bs := by
  induction as generalizing bs with
  | nil =>
      obtain rfl := List.eq_nil_of_length_eq_zero length.symm
      rfl
  | cons a as ih =>
      match bs, length with
      | b :: bs, length =>
          change Text.compare (String.ofList (ofByte a ++ encode as))
            (String.ofList (ofByte b ++ encode bs)) = _
          rw [String.ofList_append, String.ofList_append,
            Text.compare_append (by rw [utf8ByteSize_ofByte, utf8ByteSize_ofByte]), compare_ofByte,
            ih (Nat.succ.inj length), List.compareLex_cons_cons]

/-- The first letter comes after the last decimal digit, whatever stands behind them. -/
example : Text.compare (String.ofList (encode [0x9f])) (String.ofList (encode [0xa0])) = .lt := by
  decide +kernel

end Bytes.Hex

namespace Address

/-- The texts of addresses compare as the addresses. -/
theorem compare_encode (a b : Address) : Text.compare a.encode b.encode = a.compare b := by
  -- All addresses open with the same mark, and the digits decide.
  have marks : Text.compare opening opening = .eq := Std.ReflCmp.compare_self
  rw [encode, encode, Text.compare_append rfl, marks]
  exact Bytes.Hex.compare_encode (by rw [length_bytes, length_bytes])

/-- Addresses are ordered as their texts are, byte by byte.  A list of addresses may be sorted,
with each address kept once, before its texts are written or after; in particular, the texts of
the addresses that a store lists are in order. -/
theorem ordered_as_texts :
    (∀ a b : Address, Text.compare a.encode b.encode = a.compare b) ∧
    (∀ addresses : List Address, sorted addresses = inOrder compare addresses ∧
      (inOrder compare addresses).map encode = inOrder Text.compare (addresses.map encode)) ∧
    ∀ store : MemoryStore, store.addresses.map encode =
      inOrder Text.compare (store.objects.map (·.address.encode)) := by
  have texts (addresses : List Address) :
      (inOrder compare addresses).map encode = inOrder Text.compare (addresses.map encode) :=
    map_inOrder compare_encode addresses
  refine ⟨compare_encode, fun addresses => ⟨sorted_eq_inOrder addresses, texts addresses⟩,
    fun store => ?_⟩
  rw [MemoryStore.addresses, sorted_eq_inOrder, texts, List.map_map]
  rfl

end Address

end ContentNode
