import ContentNode.Engine.Read
import ContentNode.Proofs.Store.File.Naming
import ContentNode.Proofs.Store.Record.Bounds

/-!
# Reading objects from files

What is read under an address is decided by the bytes of one file.  There are three
outcomes and each has an exact condition: no file, a file whose bytes are no record
or hold a payload of another address, and a file with a payload of this address.
-/

namespace ContentNode

open FileSystem

namespace FileStore

variable {store : FileStore} {actor : Actor} {now : Instant} {tree after : FileTree}
  {address : Address}

/-- The bytes of the file of an object. -/
def file? (store : FileStore) (actor : Actor) (address : Address) (tree : FileTree) :
    Option ByteArray :=
  match tree.stat actor true (store.objectPath address) with
  | .ok (_, .file content _ _) => some content
  | _ => none

/-- The path of an object is free, or it leads to a regular file that may be read. -/
def Legible (store : FileStore) (actor : Actor) (address : Address) (tree : FileTree) : Prop :=
  tree.stat actor true (store.objectPath address) = .error (.os .noEntry) ∨
    ∃ place content modified mode,
      tree.stat actor true (store.objectPath address) =
        .ok (place, .file content modified mode) ∧ actor.may .read mode = true

theorem file?_of_stat {place : Location} {content : ByteArray} {modified : Instant} {mode : Nat}
    (found : tree.stat actor true (store.objectPath address) =
      .ok (place, .file content modified mode)) :
    store.file? actor address tree = some content := by
  unfold file?
  rw [found]

/-- The content of a file that may be read is known; nothing is read from a free path. -/
theorem contentOf_eq (legible : store.Legible actor address tree) :
    tree.contentOf actor (store.objectPath address) =
      match store.file? actor address tree with
      | some bytes => .ok bytes
      | none => .error (.os .noEntry) := by
  rcases legible with free | ⟨place, content, modified, mode, found, readable⟩
  · unfold FileTree.contentOf file?
    rw [free]
    rfl
  · unfold FileTree.contentOf file?
    rw [found]
    exact if_pos readable

/-- A path leads somewhere exactly if there is a file. -/
theorem exists_eq (legible : store.Legible actor address tree) :
    tree.exists_ actor (store.objectPath address) =
      .ok (store.file? actor address tree).isSome := by
  rcases legible with free | ⟨place, content, modified, mode, found, -⟩
  · unfold FileTree.exists_ file?
    rw [free]
    rfl
  · unfold FileTree.exists_ file?
    rw [found]
    rfl

/-! ### Programs that ask for one thing -/

/-- The steps of fetching an object. -/
theorem run_get_eq (store : FileStore) (address : Address) :
    (store.get address).run = .step (.read (store.objectPath address)) fun
      | .ok bytes => .done (Record.decodeObject address bytes)
      | .error (.os .noEntry) => .done (.error (.notFound address))
      | .error e => .done (.error (.io e)) := by
  apply Program.step_congr
  intro answer
  rcases answer with e | bytes
  · rcases e with errno | _ | _ | _ | _
    · cases errno <;> rfl
    all_goals rfl
  · rfl

/-- The step of asking for an object. -/
theorem program_exists_eq (store : FileStore) (now : Instant) (address : Address) :
    store.program now (.exists_ address) = .step (.exists_ (store.objectPath address)) fun
      | .ok present => .done present
      | .error _ => .done false := by
  apply Program.step_congr
  intro answer
  rcases answer with e | present <;> rfl

/-- What is fetched is told by the content of a file. -/
theorem perform_get_congr
    (same : after.contentOf actor (store.objectPath address) =
      tree.contentOf actor (store.objectPath address)) :
    (store.perform actor now (.get address) after).1 =
      (store.perform actor now (.get address) tree).1 := by
  change ((store.get address).run.run (FileTree.perform actor now) after).1 =
    ((store.get address).run.run (FileTree.perform actor now) tree).1
  rw [run_get_eq, Program.run_step, Program.run_step, FileTree.perform, FileTree.perform, same]
  dsimp only
  split <;> rfl

/-- Whether there is an object is told by its path. -/
theorem perform_exists_congr
    (same : after.exists_ actor (store.objectPath address) =
      tree.exists_ actor (store.objectPath address)) :
    (store.perform actor now (.exists_ address) after).1 =
      (store.perform actor now (.exists_ address) tree).1 := by
  rw [perform, perform, program_exists_eq, Program.run_step, Program.run_step, FileTree.perform,
    FileTree.perform, same]
  dsimp only
  cases tree.exists_ actor (store.objectPath address) <;> rfl

/-- An object is decoded from the bytes of its file. -/
theorem perform_get (legible : store.Legible actor address tree) :
    store.perform actor now (.get address) tree =
      (match store.file? actor address tree with
        | some bytes => Record.decodeObject address bytes
        | none => .error (.notFound address), tree) := by
  change (store.get address).run.run (FileTree.perform actor now) tree = _
  rw [run_get_eq, Program.run_step]
  simp only [FileTree.perform]
  rw [contentOf_eq legible]
  cases store.file? actor address tree <;> rfl

/-- An object exists exactly if it has a file. -/
theorem perform_exists (legible : store.Legible actor address tree) :
    store.perform actor now (.exists_ address) tree =
      ((store.file? actor address tree).isSome, tree) := by
  rw [perform, program_exists_eq, Program.run_step]
  simp only [FileTree.perform]
  rw [exists_eq legible]
  rfl

/-! ### Reading an address -/

/-- What comes of reading an address from files, and the files afterwards. -/
def readAddress (store : FileStore) (actor : Actor) (now : Instant) (config : EngineConfig)
    (address : Address) (tree : FileTree) : Except EngineError ByteArray × FileTree :=
  (Engine.readAddress config address).run (store.perform actor now) tree

/-- The payload of a record, if it has the address. -/
def judge (config : EngineConfig) (address : Address) (bytes : ByteArray) :
    Except EngineError ByteArray :=
  match Record.decode bytes with
  | .error damage => .error (.integrityViolation address (.corrupt damage.message))
  | .ok (_, payload) =>
    if config.codec.derive payload = address then .ok payload
    else .error (.integrityViolation address (.foreign (config.codec.derive payload)))

/-- What is read is told by the bytes of one file. -/
theorem readAddress_eq (config : EngineConfig) (legible : store.Legible actor address tree) :
    store.readAddress actor now config address tree =
      (match store.file? actor address tree with
        | some bytes => judge config address bytes
        | none => .error (.notFound address), tree) := by
  rw [readAddress, Engine.readAddress, Program.run_step, Program.run_done, perform_get legible]
  cases store.file? actor address tree with
  | none => rfl
  | some bytes =>
      simp only [judge, Record.decodeObject]
      cases Record.decode bytes with
      | error damage => rfl
      | ok record => rfl

/-- A record is judged foreign or damaged, or its payload has the address. -/
theorem judge_cases (config : EngineConfig) (address : Address) (bytes : ByteArray) :
    (∃ damage, Record.decode bytes = .error damage ∧
      judge config address bytes =
        .error (.integrityViolation address (.corrupt damage.message))) ∨
    ∃ createdAt payload, Record.decode bytes = .ok (createdAt, payload) ∧
      (config.codec.derive payload ≠ address ∧ judge config address bytes =
          .error (.integrityViolation address (.foreign (config.codec.derive payload))) ∨
        config.codec.derive payload = address ∧ judge config address bytes = .ok payload) := by
  unfold judge
  cases Record.decode bytes with
  | error damage => exact .inl ⟨damage, rfl, rfl⟩
  | ok record =>
      rcases record with ⟨createdAt, payload⟩
      refine .inr ⟨createdAt, payload, rfl, ?_⟩
      by_cases own : config.codec.derive payload = address
      · exact .inr ⟨own, if_pos own⟩
      · exact .inl ⟨own, if_neg own⟩

/-- A payload is given out exactly if the record is valid and the payload has the
address. -/
theorem judge_eq_ok_iff {config : EngineConfig} {bytes payload : ByteArray} :
    judge config address bytes = .ok payload ↔
      ∃ createdAt, Record.decode bytes = .ok (createdAt, payload) ∧
        config.codec.derive payload = address := by
  rcases judge_cases config address bytes with
    ⟨damage, rejected, outcome⟩ |
    ⟨createdAt, found, accepted, ⟨foreign, outcome⟩ | ⟨own, outcome⟩⟩
  · simp [outcome, rejected]
  · rw [outcome, accepted]
    constructor
    · intro given
      cases given
    · rintro ⟨_, same, own⟩
      cases same
      exact absurd own foreign
  · rw [outcome, accepted]
    constructor
    · intro given
      cases given
      exact ⟨createdAt, rfl, own⟩
    · rintro ⟨_, same, -⟩
      cases same
      rfl

/-- A violation is reported exactly if the record is damaged or its payload has another
address. -/
theorem judge_eq_violation_iff {config : EngineConfig} {bytes : ByteArray} :
    (∃ violation, judge config address bytes =
        .error (.integrityViolation address violation)) ↔
      (∃ damage, Record.decode bytes = .error damage) ∨
        ∃ createdAt payload, Record.decode bytes = .ok (createdAt, payload) ∧
          config.codec.derive payload ≠ address := by
  rcases judge_cases config address bytes with
    ⟨damage, rejected, outcome⟩ |
    ⟨createdAt, found, accepted, ⟨foreign, outcome⟩ | ⟨own, outcome⟩⟩
  · rw [outcome]
    exact ⟨fun _ => .inl ⟨damage, rejected⟩, fun _ => ⟨_, rfl⟩⟩
  · rw [outcome]
    exact ⟨fun _ => .inr ⟨createdAt, found, accepted, foreign⟩, fun _ => ⟨_, rfl⟩⟩
  · rw [outcome, accepted]
    constructor
    · rintro ⟨_, given⟩
      cases given
    · rintro (⟨_, rejected⟩ | ⟨_, _, same, foreign⟩)
      · cases rejected
      · cases same
        exact absurd own foreign

/-- There are no other outcomes. -/
theorem judge_outcome (config : EngineConfig) (address : Address) (bytes : ByteArray) :
    (∃ violation, judge config address bytes =
        .error (.integrityViolation address violation)) ∨
      ∃ payload, judge config address bytes = .ok payload := by
  rcases judge_cases config address bytes with
    ⟨_, _, outcome⟩ | ⟨_, _, _, ⟨_, outcome⟩ | ⟨_, outcome⟩⟩
  · exact .inl ⟨_, outcome⟩
  · exact .inl ⟨_, outcome⟩
  · exact .inr ⟨_, outcome⟩

/-- Reading an address has three outcomes, each under an exact condition on the bytes
of the file, which are read within their bounds; no other file and no clock matters. -/
theorem readAddress_outcomes (now : Instant) (config : EngineConfig)
    (legible : store.Legible actor address tree) :
    ((store.readAddress actor now config address tree).1 = .error (.notFound address) ↔
        store.file? actor address tree = none) ∧
      ((store.perform actor now (.exists_ address) tree).1 = false ↔
        store.file? actor address tree = none) ∧
      ((∃ violation, (store.readAddress actor now config address tree).1 =
          .error (.integrityViolation address violation)) ↔
        ∃ bytes, store.file? actor address tree = some bytes ∧
          ((∃ damage, Record.decode bytes = .error damage) ∨
            ∃ createdAt payload, Record.decode bytes = .ok (createdAt, payload) ∧
              config.codec.derive payload ≠ address)) ∧
      (∀ payload, (store.readAddress actor now config address tree).1 = .ok payload ↔
        ∃ bytes createdAt, store.file? actor address tree = some bytes ∧
          Record.decode bytes = .ok (createdAt, payload) ∧
            config.codec.derive payload = address) ∧
      ((store.readAddress actor now config address tree).1 = .error (.notFound address) ∨
        (∃ violation, (store.readAddress actor now config address tree).1 =
          .error (.integrityViolation address violation)) ∨
        ∃ payload, (store.readAddress actor now config address tree).1 = .ok payload) ∧
      (store.readAddress actor now config address tree).2 = tree ∧
      (∀ bytes, store.file? actor address tree = some bytes →
        Record.decode? bytes = some (Record.decode bytes)) ∧
      ∀ later other, store.Legible actor address other →
        store.file? actor address other = store.file? actor address tree →
          (store.readAddress actor later config address other).1 =
            (store.readAddress actor now config address tree).1 := by
  have same_file {later : Instant} {other : FileTree} (clear : store.Legible actor address other)
      (same : store.file? actor address other = store.file? actor address tree) :
      (store.readAddress actor later config address other).1 =
        (store.readAddress actor now config address tree).1 := by
    rw [readAddress_eq config clear, readAddress_eq config legible, same]
  rw [perform_exists legible]
  rw [readAddress_eq config legible] at same_file ⊢
  cases held : store.file? actor address tree with
  | none =>
      rw [held] at same_file
      refine ⟨?_, ?_, ?_, ?_, .inl rfl, rfl, ?_, fun _ _ => same_file⟩
      all_goals simp
  | some bytes =>
      rw [held] at same_file
      have outcome := judge_outcome config address bytes
      refine ⟨?_, ?_, ?_, ?_, .inr outcome, rfl, ?_, fun _ _ => same_file⟩
      · rcases outcome with ⟨_, violation⟩ | ⟨_, given⟩
        · simp [violation]
        · simp [given]
      · simp
      · simpa using judge_eq_violation_iff
      · intro payload
        simpa using judge_eq_ok_iff
      · intro found _
        exact Record.decode?_eq found

/-! ### A torn record -/

/-- The address of zeros only. -/
def zeros : Address := ⟨Vector.replicate 32 0⟩

/-- A tree in which the file of an object ends within the header. -/
def torn : FileTree :=
  ⟨[([.text "s"], .directory Entry.directoryMode),
    (objectsPlace [.text "s"], .directory Entry.directoryMode),
    (directoryPlace [.text "s"] zeros, .directory Entry.directoryMode),
    (objectPlace [.text "s"] zeros, .file ⟨#[67, 65, 83, 49]⟩ 0 Entry.fileMode)], 0⟩

theorem components_s : (FilePath.ofText "s").components = [.name (.text "s")] := by
  decide +kernel

theorem torn_slot : torn.Slot .owner ((FileStore.mk "s").directory zeros)
    (directoryPlace [.text "s"] zeros) (fileName zeros) := by
  have root : torn.Reaches .owner (.ofText "s") [.text "s"] pathRoom := by
    refine ⟨⟨by decide, by decide⟩, ?_, ⟨_, rfl, rfl⟩⟩
    rw [components_s]
    exact .down ⟨_, rfl, rfl⟩ (by decide) rfl (.arrived rfl)
  have objects : torn.Reaches .owner (FileStore.mk "s").objects (objectsPlace [.text "s"]) 66 :=
    reaches_objects root ⟨_, rfl, rfl⟩
  have directory : torn.Reaches .owner ((FileStore.mk "s").directory zeros)
      (directoryPlace [.text "s"] zeros) 63 := reaches_directory objects ⟨_, rfl, rfl⟩
  exact slot_file directory

theorem torn_stat : torn.stat .owner true ((FileStore.mk "s").objectPath zeros) =
    .ok (objectPlace [.text "s"] zeros, .file ⟨#[67, 65, 83, 49]⟩ 0 Entry.fileMode) := by
  have held : torn.get? (objectPlace [.text "s"] zeros) =
      some (.file ⟨#[67, 65, 83, 49]⟩ 0 Entry.fileMode) := rfl
  exact torn_slot.stat_of_some held fun _ => nofun

/-- Reading a torn record reports a violation. -/
theorem readAddress_of_torn :
    (FileStore.mk "s").Legible .owner zeros torn ∧
      ∃ violation, ((FileStore.mk "s").readAddress .owner 0 .standard zeros torn).1 =
        .error (.integrityViolation zeros violation) := by
  have legible : (FileStore.mk "s").Legible .owner zeros torn :=
    .inr ⟨_, _, _, _, torn_stat, rfl⟩
  have bytes : (FileStore.mk "s").file? .owner zeros torn = some ⟨#[67, 65, 83, 49]⟩ :=
    file?_of_stat torn_stat
  have outcomes := readAddress_outcomes 0 .standard legible
  exact ⟨legible, outcomes.2.2.1.mpr ⟨_, bytes, .inl ⟨.truncatedHeader 4, rfl⟩⟩⟩

end FileStore

end ContentNode
