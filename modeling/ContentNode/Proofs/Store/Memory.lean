import ContentNode.Store.Memory
import Mathlib.Data.List.Nodup
import Mathlib.Logic.Function.Basic

/-!
# What a store in memory holds

A store in memory seen as a partial map from addresses to payloads.  Storing an
object extends the map at an address that is free and changes nothing otherwise,
and no address is ever held twice.
-/

namespace ContentNode.MemoryStore

variable {store : MemoryStore} {now : Instant} {address other : Address} {payload : ByteArray}

/-- The payload of an address. -/
def payload? (store : MemoryStore) (address : Address) : Option ByteArray :=
  (store.get? address).map (·.payload)

/-- The size of the payload of an address. -/
def sizeAt (store : MemoryStore) (address : Address) : Nat :=
  ((store.payload? address).map ByteArray.size).getD 0

/-- Every address is held at most once. -/
def Distinct (store : MemoryStore) : Prop := (store.objects.map (·.address)).Nodup

@[simp]
theorem get?_empty : empty.get? address = none := rfl

@[simp]
theorem payload?_empty : empty.payload? address = none := rfl

theorem distinct_empty : empty.Distinct := List.nodup_nil

/-- An object is held under its own address. -/
theorem address_of_get? {object : StoredObject} (h : store.get? address = some object) :
    object.address = address := by
  simpa using List.find?_some h

/-- An object that is found is among those that are held. -/
theorem mem_of_get? {object : StoredObject} (h : store.get? address = some object) :
    object ∈ store.objects :=
  List.mem_of_find?_eq_some h

/-- An object that is held is found under its address. -/
theorem get?_of_mem (distinct : store.Distinct) {object : StoredObject}
    (member : object ∈ store.objects) : store.get? object.address = some object := by
  cases found : store.get? object.address with
  | none =>
      have different := List.find?_eq_none.mp found object member
      exact absurd (by simp) different
  | some other =>
      have same := List.inj_on_of_nodup_map distinct (mem_of_get? found) member
        (address_of_get? found)
      rw [same]

theorem contains_eq_isSome (store : MemoryStore) (address : Address) :
    store.contains address = (store.payload? address).isSome := by
  simp [contains, payload?]

/-- A free address is the address of nothing that is held. -/
theorem not_mem_of_free (free : store.contains address = false) :
    address ∉ store.objects.map (·.address) := by
  intro member
  obtain ⟨object, held, same⟩ := List.mem_map.mp member
  have absent : store.get? address = none := by simpa [contains] using free
  have different := List.find?_eq_none.mp absent object held
  exact different (by simp [same])

/-- The addresses of the objects are those where a payload is found. -/
theorem mem_addresses_iff :
    address ∈ store.objects.map (·.address) ↔ (store.payload? address).isSome := by
  rw [← contains_eq_isSome]
  constructor
  · intro member
    by_contra free
    exact not_mem_of_free (Bool.eq_false_iff.mpr free) member
  · intro taken
    obtain ⟨object, found⟩ := Option.isSome_iff_exists.mp taken
    exact List.mem_map.mpr ⟨object, mem_of_get? found, address_of_get? found⟩

/-! ### Storing -/

/-- Storing under an address that is taken changes nothing and says so. -/
theorem put_of_taken (taken : store.contains address = true) :
    store.put now address payload = (.alreadyPresent, store) := by
  rw [put, if_pos taken]

/-- Storing under a free address adds the object at the end. -/
theorem put_of_free (free : store.contains address = false) :
    store.put now address payload =
      (.created, ⟨store.objects ++ [⟨address, payload, now⟩]⟩) := by
  rw [put, if_neg (by simp [free])]

/-- An object that is added is found under its address, and nothing else changes. -/
theorem get?_add (free : store.contains address = false) :
    (MemoryStore.mk (store.objects ++ [⟨address, payload, now⟩])).get? other =
      if other = address then some ⟨address, payload, now⟩ else store.get? other := by
  have absent : store.get? address = none := by simpa [contains] using free
  rw [get?, List.find?_append]
  by_cases same : other = address
  · subst same
    rw [if_pos rfl, show List.find? _ store.objects = none from absent]
    simp
  · rw [if_neg same]
    have unequal : (address == other) = false := by simpa using Ne.symm same
    simp [get?, unequal]

/-- The map after storing: the first payload of an address stays. -/
theorem payload?_put :
    (store.put now address payload).2.payload? =
      if (store.payload? address).isSome then store.payload?
      else Function.update store.payload? address (some payload) := by
  rw [← contains_eq_isSome]
  cases taken : store.contains address with
  | true => rw [put_of_taken taken, if_pos rfl]
  | false =>
    rw [put_of_free taken, if_neg (by simp)]
    funext other
    by_cases same : other = address
    · subst same
      simp [payload?, get?_add taken]
    · simp [payload?, get?_add taken, same]

/-- A payload that is held stays. -/
theorem payload?_put_of_held {held : ByteArray} (found : store.payload? other = some held) :
    (store.put now address payload).2.payload? other = some held := by
  rw [payload?_put]
  split
  · exact found
  · next free =>
    have different : other ≠ address := by
      rintro rfl
      exact free (Option.isSome_of_eq_some found)
    rwa [Function.update_of_ne different]

/-- There is an object of an address once one was to be stored. -/
theorem isSome_payload?_put : ((store.put now address payload).2.payload? address).isSome := by
  rw [payload?_put]
  split
  · assumption
  · simp

/-- Storing keeps every address held at most once. -/
theorem Distinct.put (distinct : store.Distinct) :
    (store.put now address payload).2.Distinct := by
  cases taken : store.contains address with
  | true => rwa [put_of_taken taken]
  | false =>
    rw [put_of_free taken, Distinct, List.map_append, List.map_singleton]
    rw [List.nodup_append]
    refine ⟨distinct, List.nodup_singleton _, ?_⟩
    intro held heldMember added addedMember same
    obtain rfl := List.mem_singleton.mp addedMember
    exact not_mem_of_free taken (same ▸ heldMember)

end ContentNode.MemoryStore
