import ContentNode.Proofs.Store.Memory
import Mathlib.Algebra.BigOperators.Group.Finset.Basic

/-!
# Objects that are offered to a store

A store in memory that is offered objects one after another holds the first one of every
address and no others.  So its totals are told by the objects that it was offered.
-/

namespace ContentNode.MemoryStore

/-- The first object of an address. -/
def firstOf? (offered : List StoredObject) (address : Address) : Option StoredObject :=
  offered.find? fun object => object.address == address

/-- The addresses of objects. -/
def addressesOf (offered : List StoredObject) : Finset Address :=
  (offered.map (·.address)).toFinset

/-- The size of the first payload of an address. -/
def firstSizeOf (offered : List StoredObject) (address : Address) : Nat :=
  ((firstOf? offered address).map StoredObject.size).getD 0

/-- The number of addresses of objects, and the sum of the sizes of their first payloads. -/
def totalsOf (offered : List StoredObject) : StoreStats :=
  ⟨(addressesOf offered).card, ∑ address ∈ addressesOf offered, firstSizeOf offered address⟩

variable {offered : List StoredObject} {store : MemoryStore} {address : Address}
  {object : StoredObject} {now : Instant} {payload : ByteArray}

theorem firstOf?_append (offered more : List StoredObject) (address : Address) :
    firstOf? (offered ++ more) address = (firstOf? offered address).or (firstOf? more address) :=
  List.find?_append

theorem firstOf?_singleton (object : StoredObject) (address : Address) :
    firstOf? [object] address = if address = object.address then some object else none := by
  have same : (object.address == address) = decide (address = object.address) := by
    rw [Bool.eq_iff_iff, beq_iff_eq, decide_eq_true_iff, eq_comm]
  rw [firstOf?, List.find?_singleton, same]
  simp only [decide_eq_true_eq]

theorem mem_addressesOf_iff :
    address ∈ addressesOf offered ↔ (firstOf? offered address).isSome := by
  rw [addressesOf, List.mem_toFinset, firstOf?, List.find?_isSome, List.mem_map]
  simp

/-- A store holds the first of the objects of every address, each once. -/
structure Gathers (offered : List StoredObject) (store : MemoryStore) : Prop where
  distinct : store.Distinct
  found : ∀ address, store.get? address = firstOf? offered address

theorem gathers_nil : Gathers [] .empty := ⟨distinct_empty, fun _ => rfl⟩

namespace Gathers

theorem contains (gathers : Gathers offered store) (address : Address) :
    store.contains address = (firstOf? offered address).isSome := by
  rw [MemoryStore.contains, gathers.found]

/-- The addresses that are held are those of the objects. -/
theorem toFinset_addresses (gathers : Gathers offered store) :
    (store.objects.map (·.address)).toFinset = addressesOf offered := by
  ext address
  rw [List.mem_toFinset, MemoryStore.mem_addresses_iff, ← contains_eq_isSome, gathers.contains,
    mem_addressesOf_iff]

theorem size_eq (gathers : Gathers offered store) :
    store.size = (addressesOf offered).card := by
  rw [← gathers.toFinset_addresses, List.toFinset_card_of_nodup gathers.distinct, List.length_map]
  rfl

/-- The totals are those of the first payloads. -/
theorem stats_eq (gathers : Gathers offered store) : store.stats = totalsOf offered := by
  have sizes : store.objects.map StoredObject.size =
      (store.objects.map (·.address)).map (firstSizeOf offered) := by
    rw [List.map_map]
    apply List.map_congr_left
    intro object member
    rw [Function.comp_apply, firstSizeOf, ← gathers.found, get?_of_mem gathers.distinct member]
    rfl
  have total : ∑ address ∈ addressesOf offered, firstSizeOf offered address =
      (store.objects.map StoredObject.size).sum := by
    rw [← gathers.toFinset_addresses, List.sum_toFinset _ gathers.distinct, sizes]
  rw [totalsOf, total, ← gathers.size_eq, stats, StoreStats.ofSizes, List.length_map,
    List.sum_eq_foldr, size]

/-- One more object is stored unless its address is taken. -/
theorem put (gathers : Gathers offered store) (now : Instant) (address : Address)
    (payload : ByteArray) :
    Gathers (offered ++ [⟨address, payload, now⟩]) (store.put now address payload).2 := by
  refine ⟨gathers.distinct.put, fun other => ?_⟩
  rw [firstOf?_append, firstOf?_singleton, ← gathers.found]
  cases taken : store.contains address with
  | true =>
      rw [put_of_taken taken]
      cases found : store.get? other with
      | some object => rw [Option.some_or]
      | none =>
          have different : other ≠ address := by
            rintro rfl
            rw [MemoryStore.contains, found] at taken
            cases taken
          rw [if_neg different, Option.or_none]
  | false =>
      rw [put_of_free taken, get?_add taken]
      by_cases same : other = address
      · subst same
        have absent : store.get? other = none := by
          simpa [MemoryStore.contains] using taken
        rw [if_pos rfl, if_pos rfl, absent, Option.none_or]
      · rw [if_neg same, if_neg same, Option.or_none]

end Gathers

end ContentNode.MemoryStore
