import ContentNode.Store.Memory

/-!
# What a store was asked for

The operations of a store, each with its answer.  Keeping a record of them changes
nothing for whoever uses the store.
-/

namespace ContentNode

/-- An operation of a store and its answer. -/
structure StoreEvent where
  op : StoreOperation
  answer : op.Answer

/-- Whether an object was stored that had not been there. -/
def StoreEvent.creates : StoreEvent → Bool
  | ⟨.put _ _, .ok .created⟩ => true
  | _ => false

/-- Performs operations on a store as it does, and records them. -/
def recorded {σ : Type} (onStore : (op : StoreOperation) → σ → op.Answer × σ)
    (op : StoreOperation) (s : σ × List StoreEvent) : op.Answer × (σ × List StoreEvent) :=
  ((onStore op s.1).1, ((onStore op s.1).2, s.2 ++ [⟨op, (onStore op s.1).1⟩]))

/-- Recording what is done does not change what a program does. -/
theorem run_recorded {σ α : Type} (onStore : (op : StoreOperation) → σ → op.Answer × σ)
    (program : StoreProgram α) (s : σ) (log : List StoreEvent) :
    ∃ events, program.run (recorded onStore) (s, log) =
      ((program.run onStore s).1, ((program.run onStore s).2, events)) := by
  induction program generalizing s log with
  | done value => exact ⟨log, rfl⟩
  | step op next ih => exact ih _ _ _

/-- The number of objects that were stored. -/
def created (log : List StoreEvent) : Nat := log.countP StoreEvent.creates

theorem created_append (log : List StoreEvent) (event : StoreEvent) :
    created (log ++ [event]) = created log + if event.creates then 1 else 0 := by
  rw [created, created, List.countP_append, List.countP_singleton]

end ContentNode
