import ContentNode.Proofs.Engine.Tasks
import ContentNode.Proofs.Store.KeepsFirst

/-!
# Naming payloads

Writing and reading objects does not depend on how payloads get their addresses: any
function will do.  With the codec of a configuration these are the programs that writers
and readers run.
-/

namespace ContentNode.Engine

/-- The settings of those who write and read objects, and how they name payloads. -/
structure Naming where
  config : EngineConfig
  derive : ByteArray → Address

namespace Naming

variable (naming : Naming)

/-- Payloads are named by the codec of a configuration. -/
def ofConfig (config : EngineConfig) : Naming := ⟨config, config.codec.derive⟩

/-- Stores a payload. -/
def write (payload : ByteArray) : StoreProgram (Except EngineError Receipt) :=
  match payloadProblem? naming.config payload with
  | some problem => .done (.error (.invalidPayload problem.message))
  | none =>
    .step (.exists_ (naming.derive payload)) fun (present : Bool) =>
      if present then .done (.ok (.deduplicated (naming.derive payload)))
      else .step (.put (naming.derive payload) payload) fun
        | .ok outcome => .done (.ok (.committed (naming.derive payload) outcome))
        | .error e => .done (.error (.storageFailure e.message))

/-- The payload of what a store gave for an address. -/
def verify (address : Address) : Except StoreError StoredObject → Except EngineError ByteArray
  | .ok object =>
    if naming.derive object.payload = address then .ok object.payload
    else .error (.integrityViolation address (.foreign (naming.derive object.payload)))
  | .error (.notFound a) => .error (.notFound a)
  | .error (.corrupt a reason) => .error (.integrityViolation a (.corrupt reason))
  | .error e => .error (.storageFailure e.message)

/-- The payload of an address. -/
def readAddress (address : Address) : StoreProgram (Except EngineError ByteArray) :=
  .step (.get address) fun object => .done (naming.verify address object)

/-- How a task is carried out. -/
def program : (task : Task) → StoreProgram task.Reply
  | .write payload => naming.write payload
  | .read address => naming.readAddress address

/-- With the codec of a configuration these are the programs that run. -/
theorem program_ofConfig (config : EngineConfig) (task : Task) :
    (ofConfig config).program task = task.program config := by
  cases task with
  | write payload =>
      change (ofConfig config).write payload = Engine.write config payload
      unfold write Engine.write
      rw [show (ofConfig config).config = config from rfl]
      cases payloadProblem? config payload with
      | some problem => rfl
      | none =>
          apply Program.step_congr
          intro present
          cases (present : Bool) with
          | true => rfl
          | false =>
              apply Program.step_congr
              intro outcome
              rcases outcome with e | outcome <;> rfl
  | read address =>
      apply Program.step_congr
      intro object
      rcases object with e | object
      · cases e <;> rfl
      · rfl

/-! ### On a store that keeps the first payload -/

variable {σ : Type} {perform : Instant → (op : StoreOperation) → σ → op.Answer × σ}
  {timely : Instant → Prop} {holds : σ → (Address → Option ByteArray) → Prop} {now : Instant}
  {s : σ} {held : Address → Option ByteArray}

/-- A payload is refused, or its address is taken, or it is added to what is held. -/
theorem run_write (keeps : KeepsFirst perform timely holds) (moment : timely now)
    (holding : holds s held) (payload : ByteArray) :
    (∃ e, ((naming.write payload).run (perform now) s).1 = .error e ∧
      holds ((naming.write payload).run (perform now) s).2 held) ∨
    ∃ receipt, ((naming.write payload).run (perform now) s).1 = .ok receipt ∧
      (((held (naming.derive payload)).isSome ∧
        holds ((naming.write payload).run (perform now) s).2 held) ∨
        held (naming.derive payload) = none ∧
          holds ((naming.write payload).run (perform now) s).2
            (Function.update held (naming.derive payload) (some payload))) := by
  unfold write
  cases problem : payloadProblem? naming.config payload with
  | some problem => exact .inl ⟨_, rfl, holding⟩
  | none =>
      dsimp only
      obtain ⟨asked, same⟩ := keeps.exists_ now (naming.derive payload) s held moment holding
      rw [Program.run_step, asked]
      cases taken : held (naming.derive payload) with
      | some first => exact .inr ⟨_, rfl, .inl ⟨rfl, same⟩⟩
      | none =>
          rw [Option.isSome_none, if_neg Bool.false_ne_true, Program.run_step]
          rcases keeps.put_free now _ payload _ held moment same taken with
            ⟨created, added⟩ | ⟨e, failed, unchanged⟩
          · rw [created]
            exact .inr ⟨_, rfl, .inr ⟨rfl, added⟩⟩
          · rw [failed]
            exact .inl ⟨_, rfl, unchanged⟩

/-- What is read is told by the payload that is held, and nothing changes. -/
theorem run_readAddress (keeps : KeepsFirst perform timely holds) (moment : timely now)
    (holding : holds s held) (address : Address) :
    ((naming.readAddress address).run (perform now) s).1 =
        (match held address with
          | some payload =>
            if naming.derive payload = address then .ok payload
            else .error (.integrityViolation address (.foreign (naming.derive payload)))
          | none => .error (.notFound address)) ∧
      holds ((naming.readAddress address).run (perform now) s).2 held := by
  obtain ⟨given, same⟩ := keeps.get now address s held moment holding
  rw [readAddress, Program.run_step, Program.run_done]
  refine ⟨?_, same⟩
  cases taken : held address with
  | none =>
      rw [taken] at given
      rw [given]
      rfl
  | some payload =>
      rw [taken] at given
      obtain ⟨createdAt, given⟩ := given
      rw [given]
      rfl

end Naming

end ContentNode.Engine
