import ContentNode.Proofs.Store.Memory

/-!
# Stores that keep the first payload of an address

What a store of any kind holds, seen as a partial map from addresses to payloads.  Nothing
but an object that is stored under a free address changes the map.
-/

namespace ContentNode

/-- A store that holds what a map tells keeps the first payload of every address.  It may
refuse to store an object, but then it says so and holds what it held. -/
structure KeepsFirst {σ : Type} (perform : Instant → (op : StoreOperation) → σ → op.Answer × σ)
    (timely : Instant → Prop) (holds : σ → (Address → Option ByteArray) → Prop) : Prop where
  exists_ : ∀ now address s held, timely now → holds s held →
    (perform now (.exists_ address) s).1 = (held address).isSome ∧
      holds (perform now (.exists_ address) s).2 held
  get : ∀ now address s held, timely now → holds s held →
    (match held address with
      | some payload => ∃ createdAt,
        (perform now (.get address) s).1 = .ok ⟨address, payload, createdAt⟩
      | none => (perform now (.get address) s).1 = .error (.notFound address)) ∧
      holds (perform now (.get address) s).2 held
  put_taken : ∀ now address payload s held, timely now → holds s held →
    (held address).isSome →
      (perform now (.put address payload) s).1 = .ok .alreadyPresent ∧
        holds (perform now (.put address payload) s).2 held
  put_free : ∀ now address payload s held, timely now → holds s held →
    held address = none →
      ((perform now (.put address payload) s).1 = .ok .created ∧
        holds (perform now (.put address payload) s).2
          (Function.update held address (some payload))) ∨
      ∃ e, (perform now (.put address payload) s).1 = .error e ∧
        holds (perform now (.put address payload) s).2 held

/-- A store in memory holds the payloads of its objects. -/
theorem MemoryStore.keepsFirst :
    KeepsFirst MemoryStore.perform (fun _ => True) fun store held => store.payload? = held := by
  constructor
  · rintro now address store _ - rfl
    exact ⟨contains_eq_isSome store address, rfl⟩
  · rintro now address store _ - rfl
    rw [perform, payload?]
    cases found : store.get? address with
    | none => exact ⟨rfl, rfl⟩
    | some object =>
        obtain rfl := address_of_get? found
        exact ⟨⟨object.createdAt, rfl⟩, rfl⟩
  · rintro now address payload store _ - rfl taken
    rw [← contains_eq_isSome] at taken
    rw [perform, put_of_taken taken]
    exact ⟨rfl, rfl⟩
  · rintro now address payload store _ - rfl free
    have unused : store.contains address = false := by
      rw [contains_eq_isSome, free, Option.isSome_none]
    have added : (store.put now address payload).2.payload? =
        Function.update store.payload? address (some payload) := by
      rw [payload?_put, free]
      rfl
    rw [perform]
    refine .inl ⟨?_, added⟩
    rw [put_of_free unused]

end ContentNode
