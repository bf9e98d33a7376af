import ContentNode.Engine.Read
import ContentNode.Engine.Write
import ContentNode.Proofs.Store.Memory

/-!
# Reading and writing on a store in memory

Writing a payload that may be stored leaves the store as if the payload had been
stored in one step, whether the object was there before or not.  Reading leaves
it unchanged.
-/

namespace ContentNode.Engine

variable {config : EngineConfig} {now : Instant} {store : MemoryStore} {address : Address}
  {payload : ByteArray}

/-- A payload that may be stored is neither empty nor too long. -/
def Acceptable (config : EngineConfig) (payload : ByteArray) : Prop :=
  0 < payload.size ∧ payload.size ≤ config.maxPayloadSize

instance (config : EngineConfig) : DecidablePred (Acceptable config) := fun payload =>
  inferInstanceAs (Decidable (0 < payload.size ∧ payload.size ≤ config.maxPayloadSize))

theorem not_acceptable_iff :
    ¬ Acceptable config payload ↔ payload.size = 0 ∨ config.maxPayloadSize < payload.size := by
  rw [Acceptable]
  omega

/-- The payloads without a problem are those that may be stored. -/
theorem payloadProblem?_eq_none_iff :
    payloadProblem? config payload = none ↔ Acceptable config payload := by
  unfold payloadProblem?
  split
  · next empty => exact iff_of_false nofun (not_acceptable_iff.mpr (.inl empty))
  · next nonempty =>
    split
    · next long => exact iff_of_false nofun (not_acceptable_iff.mpr (.inr long))
    · next short =>
      exact iff_of_true rfl ⟨Nat.pos_of_ne_zero nonempty, Nat.le_of_not_lt short⟩

/-- A payload with a problem is refused without asking the store. -/
theorem run_write_of_problem {problem : PayloadProblem}
    (h : payloadProblem? config payload = some problem) :
    (write config payload).run (MemoryStore.perform now) store =
      (.error (.invalidPayload problem.message), store) := by
  rw [write, h]
  rfl

/-- Any other payload is stored, and the receipt has its address. -/
theorem run_write_of_none (now : Instant) (store : MemoryStore)
    (h : payloadProblem? config payload = none) :
    ∃ receipt : Receipt, receipt.address = config.codec.derive payload ∧
      (write config payload).run (MemoryStore.perform now) store =
        (.ok receipt, (store.put now (config.codec.derive payload) payload).2) := by
  rw [write, h]
  dsimp only
  rw [commit, Program.run_step, MemoryStore.perform]
  cases taken : store.contains (config.codec.derive payload) with
  | true =>
    refine ⟨.deduplicated (config.codec.derive payload), rfl, ?_⟩
    rw [MemoryStore.put_of_taken taken]
    rfl
  | false =>
    refine ⟨.committed (config.codec.derive payload) .created, rfl, ?_⟩
    simp [MemoryStore.perform, MemoryStore.put_of_free taken, Program.run_done]

/-- Nothing is read from a free address. -/
theorem run_readAddress_of_free (free : store.payload? address = none) :
    (readAddress config address).run (MemoryStore.perform now) store =
      (.error (.notFound address), store) := by
  have absent : store.get? address = none := by simpa [MemoryStore.payload?] using free
  rw [readAddress, Program.run_step]
  simp [MemoryStore.perform, absent, verify, Program.run_done]

/-- A payload that has its own address is read. -/
theorem run_readAddress_of_held (held : store.payload? address = some payload)
    (own : config.codec.derive payload = address) :
    (readAddress config address).run (MemoryStore.perform now) store = (.ok payload, store) := by
  obtain ⟨object, found, rfl⟩ := Option.map_eq_some_iff.mp held
  rw [readAddress, Program.run_step]
  simp [MemoryStore.perform, found, verify, own, Program.run_done]

/-- Reading leaves the store unchanged. -/
theorem run_read_store (text : String) :
    ((read config text).run (MemoryStore.perform now) store).2 = store := by
  unfold read
  split
  · rfl
  · next address _ =>
    rw [readAddress, Program.run_step, Program.run_done]
    cases found : store.get? address <;> simp [MemoryStore.perform, found]

end ContentNode.Engine
