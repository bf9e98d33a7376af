import ContentNode.Proofs.Engine.OnMemory
import ContentNode.Proofs.Store.File.Failing

/-!
# Writing on a machine that fails

A program on a store as a program on its files, and what is left of a payload if writing
it fails: nothing, unless it was the directory of the object that could not be made
durable at the end.
-/

namespace ContentNode.FileStore

open FileSystem

/-- A program on a store as a program on its files. -/
def onFiles {α : Type} (store : FileStore) (now : Instant) : StoreProgram α → FileProgram α
  | .done value => .done value
  | .step op next => (store.program now op).bind fun answer => store.onFiles now (next answer)

variable {store : FileStore} {actor : Actor} {now : Instant} {config : EngineConfig}
  {payload : ByteArray} {tree after : FileTree} {events : Trace}

/-- A program does on the files what it does on the store. -/
theorem run_onFiles {α : Type} (program : StoreProgram α) (tree : FileTree) :
    (store.onFiles now program).run (FileTree.perform actor now) tree =
      program.run (store.perform actor now) tree := by
  induction program generalizing tree with
  | done value => rfl
  | step op next ih =>
      rw [onFiles, Program.run_bind, Program.run_step]
      exact ih _ _

/-- Asking whether there is an object changes nothing. -/
theorem runs_exists {address : Address} {present : Bool}
    (runs : Program.Runs (Attempts actor) (store.program now (.exists_ address)) tree events present
      after) : store.Synced address events ∧ after = tree := by
  rw [program_exists_eq] at runs
  cases runs with
  | @step _ _ _ _ _ found _ _ asked further =>
      obtain ⟨rfl, -⟩ := asked.exists_eq
      cases found <;> cases further <;> exact ⟨synced_cons_iff.mpr ⟨nofun, synced_nil⟩, rfl⟩

/-- Writing fails without a trace, unless the directory cannot be made durable. -/
theorem runs_write {reply : Except EngineError Engine.Receipt}
    (runs : Program.Runs (Attempts actor) (store.onFiles now (Engine.write config payload)) tree
      events reply after) :
    (∀ e, reply = .error e → store.Synced (config.codec.derive payload) events →
      store.Unstored actor (config.codec.derive payload) tree after) ∧
    ∀ cause,
      ⟨.syncDirectory (store.directory (config.codec.derive payload)), .error cause⟩ ∈ events →
      reply = .error (.storageFailure (StoreError.io cause).message) ∧
      store.Deposited actor now (config.codec.derive payload) payload
        (store.Unstored actor (config.codec.derive payload) tree) after := by
  rw [Engine.write] at runs
  cases problem : Engine.payloadProblem? config payload with
  | some problem =>
      rw [problem] at runs
      cases runs
      exact ⟨fun _ _ _ => .refl tree, by simp⟩
  | none =>
      rw [problem] at runs
      obtain ⟨first, present, asked, rest, rfl, asking, further⟩ := runs.of_bind
      obtain ⟨fine, rfl⟩ := runs_exists asking
      have exposed {second : Trace} {cause : IoError}
          (member : ⟨.syncDirectory (store.directory (config.codec.derive payload)), .error cause⟩ ∈
            first ++ second) :
          ⟨.syncDirectory (store.directory (config.codec.derive payload)), .error cause⟩ ∈ second :=
        (List.mem_append.mp member).resolve_left (fine cause)
      cases (present : Bool) with
      | true =>
          cases further
          exact ⟨by simp, fun cause member => absurd (exposed member) List.not_mem_nil⟩
      | false =>
          obtain ⟨second, answer, stored, rest, rfl, putting, further⟩ := further.of_bind
          have leaves := runs_put putting
          cases (answer : Except StoreError PutOutcome) with
          | ok outcome =>
              cases further
              rw [List.append_nil]
              refine ⟨by simp, fun cause member => ?_⟩
              cases (leaves.exposed cause (exposed member)).1
          | error e =>
              cases further
              rw [List.append_nil]
              refine ⟨fun _ _ rest => leaves.failed e rfl (synced_append.mp rest).2, ?_⟩
              intro cause member
              obtain ⟨⟨⟩, deposited⟩ := leaves.exposed cause (exposed member)
              exact ⟨rfl, deposited⟩

/-- On a machine on which anything may fail, storing an object leaves all files as they
were, or it leaves the object and nothing else; and so does writing a payload.  An object
is left although a failure was reported exactly if its directory could not be made
durable at the end. -/
theorem all_or_nothing (store : FileStore) (actor : Actor) (now : Instant) (tree : FileTree) :
    (∀ address payload events answer after,
      Program.Runs (Attempts actor) (store.put now address payload).run tree events answer after →
      store.Leaves actor now address payload (store.Unstored actor address tree) events answer
        after) ∧
    ∀ (config : EngineConfig) payload events reply after,
      Program.Runs (Attempts actor) (store.onFiles now (Engine.write config payload)) tree events
        reply after →
      (∀ reason, reply = .error (.storageFailure reason) →
        store.Synced (config.codec.derive payload) events →
        store.Unstored actor (config.codec.derive payload) tree after) ∧
      ∀ cause,
        ⟨.syncDirectory (store.directory (config.codec.derive payload)), .error cause⟩ ∈ events →
        reply = .error (.storageFailure (StoreError.io cause).message) ∧
        store.Deposited actor now (config.codec.derive payload) payload
          (store.Unstored actor (config.codec.derive payload) tree) after := by
  refine ⟨fun _ _ _ _ _ => runs_put, fun config payload events reply after runs => ?_⟩
  obtain ⟨failed, exposed⟩ := runs_write runs
  exact ⟨fun reason said => failed _ said, exposed⟩

/-! ### A directory that may not be read -/

/-- A payload and its address. -/
def blocked : ByteArray := "blocked".toUTF8

def blockedAddress : Address := EngineConfig.standard.codec.derive blocked

/-- A store in which there is the directory of an object, with these permission bits. -/
def guarded (mode : Nat) : FileTree :=
  ⟨[([.text "s"], .directory Entry.directoryMode),
    (objectsPlace [.text "s"], .directory Entry.directoryMode),
    (directoryPlace [.text "s"] blockedAddress, .directory mode)], 0⟩

/-- Why a payload was not written, if the store failed. -/
def storageFailure? : Except EngineError Engine.Receipt → Option String
  | .error (.storageFailure reason) => some reason
  | _ => none

theorem eq_of_storageFailure? {reply : Except EngineError Engine.Receipt} {reason : String}
    (failed : storageFailure? reply = some reason) : reply = .error (.storageFailure reason) := by
  unfold storageFailure? at failed
  split at failed
  · rw [Option.some.inj failed]
  · cases failed

/-- What a program does if nothing fails is a run. -/
theorem runs_guarded {α : Type} (program : FileProgram α) (mode : Nat) :
    ∃ events, Program.Runs (Attempts .owner) program (guarded mode) events
      (program.run (FileTree.perform .owner 0) (guarded mode)).1
      (program.run (FileTree.perform .owner 0) (guarded mode)).2 :=
  Program.exists_runs (fun op tree => .performed tree 0 op) _ _

/-- In a directory that may be read an object is stored. -/
theorem all_or_nothing_of_readable :
    ∃ events after, Program.Runs (Attempts .owner)
        ((FileStore.mk "s").put 0 blockedAddress blocked).run (guarded 0o755) events
        (.ok .created) after ∧
      (FileStore.mk "s").Deposited .owner 0 blockedAddress blocked
        ((FileStore.mk "s").Unstored .owner blockedAddress (guarded 0o755)) after := by
  obtain ⟨events, runs⟩ := runs_guarded ((FileStore.mk "s").put 0 blockedAddress blocked).run 0o755
  have created : (((FileStore.mk "s").put 0 blockedAddress blocked).run.run
      (FileTree.perform .owner 0) (guarded 0o755)).1.toOption = some .created := by decide +kernel
  rcases said : (((FileStore.mk "s").put 0 blockedAddress blocked).run.run
      (FileTree.perform .owner 0) (guarded 0o755)).1 with e | outcome
  · rw [said] at created
    cases created
  · rw [said] at created runs
    cases created
    exact ⟨events, _, runs, ((all_or_nothing _ _ _ _).1 _ _ _ _ _ runs).created rfl⟩

/-- In a directory that may be changed but not read an object is stored, although a failure
is reported of storing it and of writing its payload. -/
theorem failure_of_unreadable :
    (∃ events e after place, Program.Runs (Attempts .owner)
        ((FileStore.mk "s").put 0 blockedAddress blocked).run (guarded 0o300) events (.error e)
        after ∧
      (guarded 0o300).get? place = none ∧ (after.get? place).map Entry.type = some .file) ∧
    ∃ events reason after place, Program.Runs (Attempts .owner)
        ((FileStore.mk "s").onFiles 0 (Engine.write .standard blocked)) (guarded 0o300) events
        (.error (.storageFailure reason)) after ∧
      (guarded 0o300).get? place = none ∧ (after.get? place).map Entry.type = some .file := by
  constructor
  · obtain ⟨events, runs⟩ :=
      runs_guarded ((FileStore.mk "s").put 0 blockedAddress blocked).run 0o300
    have failed : (((FileStore.mk "s").put 0 blockedAddress blocked).run.run
        (FileTree.perform .owner 0) (guarded 0o300)).1.toOption = none := by decide +kernel
    rcases said : (((FileStore.mk "s").put 0 blockedAddress blocked).run.run
        (FileTree.perform .owner 0) (guarded 0o300)).1 with e | outcome
    · rw [said] at runs
      refine ⟨events, e, _, objectPlace [.text "s"] blockedAddress, runs, ?_, ?_⟩ <;>
        decide +kernel
    · rw [said] at failed
      cases failed
  · obtain ⟨events, runs⟩ :=
      runs_guarded ((FileStore.mk "s").onFiles 0 (Engine.write .standard blocked)) 0o300
    have failed : (storageFailure? (((FileStore.mk "s").onFiles 0
        (Engine.write .standard blocked)).run (FileTree.perform .owner 0) (guarded 0o300)).1).isSome
        = true := by decide +kernel
    obtain ⟨reason, failed⟩ := Option.isSome_iff_exists.mp failed
    rw [eq_of_storageFailure? failed] at runs
    refine ⟨events, reason, _, objectPlace [.text "s"] blockedAddress, runs, ?_, ?_⟩ <;>
      decide +kernel

end ContentNode.FileStore
