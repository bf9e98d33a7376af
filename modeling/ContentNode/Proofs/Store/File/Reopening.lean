import ContentNode.Proofs.Engine.OnMemory
import ContentNode.Proofs.Store.File.Reflecting
import ContentNode.Proofs.Store.File.Sweeping
import ContentNode.Proofs.Store.File.Swept
import ContentNode.Store.Opening

/-!
# Opening a store anew

Whoever opens a store finds the objects that were stored before, whatever temporary files are
left over from others, and can store more of them.
-/

namespace ContentNode.FileStore

open FileSystem

variable {store : FileStore} {actor : Actor} {now : Instant} {top : Location}
  {tree after : FileTree} {memory : MemoryStore} {config : EngineConfig} {address : Address}
  {payload : ByteArray}

/-- In the directory of every address a temporary name is free. -/
def Spare (top : Location) (tree : FileTree) : Prop :=
  ∀ address, ∃ number, tree.get? (temporaryPlace top address number) = none

/-- The files of a store hold the same objects as a store in memory, and more can be stored. -/
structure Hosts (store : FileStore) (actor : Actor) (top : Location) (memory : MemoryStore)
    (tree : FileTree) : Prop where
  reflects : Reflects store actor top memory tree
  spare : Spare top tree

/-- A store can be opened in a directory that has no objects, but maybe temporary files that
are left over. -/
structure Objectless (store : FileStore) (actor : Actor) (top : Location) (tree : FileTree) :
    Prop where
  shape : store.Blank actor top tree ∨ store.Layout actor top tree
  free : ∀ address, object? top tree address = none
  spare : Spare top tree

/-- The shape of a store that has only a temporary file, which was left over. -/
theorem layout_abandoned : (FileStore.mk "s").Layout .owner [.text "s"] abandoned := by
  have distinct : abandoned.Distinct := (by decide : abandoned.places.Nodup)
  have listed {place : Location} {entry : Entry} (below : place ≠ [])
      (there : abandoned.get? place = some entry) : (place, entry) ∈ abandoned.entries :=
    (distinct.mem_entries_iff below).mpr there
  constructor
  · exact distinct
  · refine ⟨⟨by decide, by decide⟩, ?_, ⟨_, rfl, rfl⟩⟩
    rw [components_s]
    exact .down ⟨_, rfl, rfl⟩ (by decide) rfl (.arrived rfl)
  · exact ⟨_, rfl, FileTree.may_directoryMode _⟩
  · intro name entry there
    obtain ⟨rfl, rfl⟩ : name = .text "ab" ∧ entry = .directory Entry.directoryMode := by
      simpa [abandoned, objectsPlace, objectsName] using listed (by simp) there
    exact ⟨⟨_, rfl, FileTree.may_directoryMode _⟩, ⟨(Vector.replicate 32 0).set 0 0xab⟩, by decide⟩
  · intro directory name entry there
    obtain ⟨⟨rfl, rfl⟩, rfl⟩ : (directory = .text "ab" ∧ name = .text ".tmp-000000") ∧
        entry = .file .empty 0 Entry.temporaryMode := by
      simpa [abandoned, filePlace, objectsPlace, objectsName] using listed filePlace_ne_nil there
    exact ⟨⟨_, rfl⟩, _, _, _, rfl, .inl ⟨by decide, ⟨by decide, by decide, by decide⟩, by decide⟩⟩

theorem objectless_abandoned : (FileStore.mk "s").Objectless .owner [.text "s"] abandoned := by
  have only {directory name : FileName} {entry : Entry}
      (there : abandoned.get? (filePlace [.text "s"] directory name) = some entry) :
      name = FileTree.temporaryName 0 := by
    have member := (layout_abandoned.distinct.mem_entries_iff filePlace_ne_nil).mpr there
    obtain ⟨⟨-, rfl⟩, -⟩ : (directory = .text "ab" ∧ name = .text ".tmp-000000") ∧
        entry = .file .empty 0 Entry.temporaryMode := by
      simpa [abandoned, filePlace, objectsPlace, objectsName] using member
    decide
  refine ⟨.inr layout_abandoned, fun address => ?_, fun address => ⟨1, ?_⟩⟩
  · cases held : object? [.text "s"] abandoned address with
    | none => rfl
    | some content =>
        obtain ⟨-, _, _, there, -⟩ := layout_abandoned.file_of_object? held
        exact absurd (only there).symm (ne_fileName (isTemporary_temporaryName 0))
  · cases there : abandoned.get? (temporaryPlace [.text "s"] address 1) with
    | none => rfl
    | some entry => exact absurd (only there) (by decide)

/-! ### Opening -/

/-- No object is swept away. -/
theorem Swept.object? (swept : Swept tree after) (address : Address) :
    object? top after address = object? top tree address :=
  object?_congr (swept.permanent (isTemporary_fileName address))

theorem Spare.swept (spare : Spare top tree) (swept : Swept tree after) : Spare top after := by
  intro address
  obtain ⟨number, free⟩ := spare address
  exact ⟨number, swept.free free⟩

/-- Once there is the directory of all objects, those who open the store find its objects. -/
theorem Hosts.opened (hosts : Hosts store actor top memory after)
    (made : tree.perform actor now (.makeDirectories store.objects) = (.ok (), after)) :
    ∃ sweep last, Opening.ofStore actor now store tree = (.ok (.files store sweep), last) ∧
      Hosts store actor top memory last := by
  obtain ⟨sweep, last, ran, swept, layout⟩ := hosts.reflects.layout.run_open made
  refine ⟨sweep, last, ?_, ⟨layout, hosts.reflects.distinct, fun address => ?_⟩,
    hosts.spare.swept swept⟩
  · rw [Opening.ofStore, ran]
  · rw [swept.object?]
    exact hosts.reflects.objects address

/-- A store can be opened, and then its files hold what a store in memory does. -/
def Opens (store : FileStore) (actor : Actor) (top : Location) (memory : MemoryStore)
    (tree : FileTree) : Prop :=
  ∀ now, ∃ sweep after, Opening.ofStore actor now store tree =
    (.ok (.files store sweep), after) ∧ Hosts store actor top memory after

/-- A store that is opened anew has the same objects. -/
theorem Hosts.opens (hosts : Hosts store actor top memory tree) :
    store.Opens actor top memory tree :=
  fun _ => hosts.opened hosts.reflects.layout.perform_makeObjects

/-- A store that is opened for the first time has no objects. -/
theorem Objectless.opens (objectless : store.Objectless actor top tree) :
    store.Opens actor top .empty tree := by
  have empty {tree : FileTree} (layout : store.Layout actor top tree) (spare : Spare top tree)
      (free : ∀ address, object? top tree address = none) :
      Hosts store actor top .empty tree := by
    refine ⟨⟨layout, MemoryStore.distinct_empty, fun address => ?_⟩, spare⟩
    rw [free, MemoryStore.payload?_empty]
    exact .none
  intro now
  rcases objectless.shape with blank | layout
  · obtain ⟨made, makes, layout, nothing⟩ := blank.perform_makeObjects now
    have bare (directory name : FileName) : made.get? (filePlace top directory name) = none := by
      rw [filePlace, List.append_assoc, nothing _ (by simp)]
    refine (empty layout (fun address => ⟨0, bare _ _⟩) fun address => ?_).opened makes
    rw [object?, objectPlace_eq, bare]
  · exact (empty layout objectless.spare objectless.free).opens now

/-! ### Writing and reading -/

/-- A payload that may be stored and is short enough for a record is stored, unless its
address is taken. -/
theorem Hosts.write (hosts : Hosts store actor top memory tree)
    (timely : Record.Timely now) (acceptable : Engine.Acceptable config payload)
    (short : 16 + payload.size < Record.sizeLimit) :
    ∃ receipt after, (Engine.write config payload).run (store.perform actor now) tree =
        (.ok receipt, after) ∧ receipt.address = config.codec.derive payload ∧
      Hosts store actor top (memory.put now (config.codec.derive payload) payload).2 after := by
  rw [Engine.write, Engine.payloadProblem?_eq_none_iff.mpr acceptable]
  dsimp only
  rw [Engine.commit, Program.run_step, hosts.reflects.exists_]
  cases taken : memory.contains (config.codec.derive payload) with
  | true =>
      refine ⟨.deduplicated _, tree, rfl, rfl, ?_⟩
      rwa [MemoryStore.put_of_taken taken]
  | false =>
      obtain ⟨after, sameTemporaries, stored⟩ :=
        hosts.reflects.put_free now timely payload taken
      rcases stored with ⟨created, added⟩ | ⟨e, -, -, large | used⟩
      · refine ⟨.committed _ .created, after, ?_, rfl, added, fun other => ?_⟩
        · rw [if_neg Bool.false_ne_true, Program.run_step, created]
          rfl
        · obtain ⟨number, free⟩ := hosts.spare other
          exact ⟨number, (sameTemporaries other number).trans free⟩
      · cases large.symm.trans (Record.encode_eq_ok now short)
      · obtain ⟨number, free⟩ := hosts.spare (config.codec.derive payload)
        exact absurd free (used number)

/-- What is held is read if it has its own address. -/
theorem Hosts.readAddress (hosts : Hosts store actor top memory tree) (config : EngineConfig)
    (now : Instant) (address : Address) :
    (Engine.readAddress config address).run (store.perform actor now) tree =
      (match memory.payload? address with
        | some payload =>
          if config.codec.derive payload = address then .ok payload
          else .error (.integrityViolation address (.foreign (config.codec.derive payload)))
        | none => .error (.notFound address), tree) := by
  have given := hosts.reflects.get now address
  rw [Engine.readAddress, Program.run_step, Program.run_done]
  cases held : memory.payload? address with
  | none =>
      rw [held] at given
      rw [given]
      rfl
  | some payload =>
      rw [held] at given
      obtain ⟨createdAt, given⟩ := given
      rw [given]
      rfl

end ContentNode.FileStore
