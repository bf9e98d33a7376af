import ContentNode.Proofs.Store.File.Failing
import ContentNode.Proofs.Store.File.Reading
import ContentNode.Proofs.Store.File.Swept
import ContentNode.Store.Opening

/-!
# What stays in the files

Whoever stores an object or opens a store, the only files that change are temporary ones,
whatever the tree is like.  So what has once the name of an object stays what it is, even if it
is no object.
-/

namespace ContentNode.FileStore

open FileSystem

variable {store : FileStore} {actor : Actor} {now modified : Instant} {tree after last : FileTree}
  {place : Location} {name : FileName} {address other : Address} {payload content : ByteArray}
  {config : EngineConfig} {mode : Nat}

/-- Directories and links stay, and so do all files without a temporary name.  There are no new
links. -/
structure Lasting (tree after : FileTree) : Prop where
  stays : ∀ above name entry, tree.get? (above ++ [name]) = some entry →
    entry.type ≠ .file ∨ isTemporary name = false → after.get? (above ++ [name]) = some entry
  unlinked : ∀ place target, after.get? place = some (.link target) →
    tree.get? place = some (.link target)

namespace Lasting

theorem refl (tree : FileTree) : Lasting tree tree :=
  ⟨fun _ _ _ there _ => there, fun _ _ linked => linked⟩

theorem trans (first : Lasting tree after) (second : Lasting after last) : Lasting tree last :=
  ⟨fun above name entry there stays =>
    second.stays above name entry (first.stays above name entry there stays) stays,
    fun place target linked => first.unlinked place target (second.unlinked place target linked)⟩

theorem of_furnished {new : Location → Prop} (furnished : FileTree.Furnished new tree after) :
    Lasting tree after := by
  constructor
  · intro above name entry there _
    rcases furnished (above ++ [name]) with same | ⟨free, -, -⟩
    · rw [same, there]
    · cases free.symm.trans there
  · intro place target linked
    rcases furnished place with same | ⟨-, made, -⟩
    · rw [← same, linked]
    · cases made.symm.trans linked

theorem of_swept (swept : Swept tree after) : Lasting tree after := by
  constructor
  · intro above name entry there stays
    rcases stays with kind | permanent
    · exact swept.keeps _ _ kind there
    · rw [swept.permanent permanent, there]
  · exact fun place target linked => swept.there linked

/-- A file is put where there was nothing. -/
theorem of_changed (free : tree.get? place = none)
    (changed : tree.Changed after place (some (.file content modified mode))) :
    Lasting tree after := by
  constructor
  · intro above name entry there _
    rw [changed.get?_of_ne, there]
    rintro rfl
    cases free.symm.trans there
  · intro other target linked
    by_cases same : other = place
    · subst same
      cases changed.get?_self.symm.trans linked
    · rwa [changed.get?_of_ne same] at linked

/-- An object is put where there was nothing. -/
theorem of_deposited (deposited : store.Deposited actor now address payload
    (store.Unstored actor address tree) after) : Lasting tree after := by
  obtain ⟨before, place, record, modified, unstored, -, free, changed, -⟩ := deposited
  exact (of_furnished unstored).trans (of_changed free changed)

theorem keeps (lasting : Lasting tree after) : tree.Keeps after := by
  intro place entry kind there
  rcases List.eq_nil_or_concat' place with rfl | ⟨above, name, rfl⟩
  · exact there
  · exact lasting.stays above name entry there (.inl kind)

end Lasting

/-- Storing an object changes no file that was there before. -/
theorem lasting_put (store : FileStore) (actor : Actor) (now : Instant) (address : Address)
    (payload : ByteArray) (tree : FileTree) :
    Lasting tree (store.perform actor now (.put address payload) tree).2 := by
  have performing (op : Operation) (s : FileTree) :
      Attempts actor op s (s.perform actor now op).1 (s.perform actor now op).2 :=
    .performed s now op
  obtain ⟨events, runs⟩ := Program.exists_runs performing (store.put now address payload).run tree
  have leaves := runs_put runs
  change Lasting tree ((store.put now address payload).run.run _ tree).2
  cases answered : ((store.put now address payload).run.run (FileTree.perform actor now) tree).1 with
  | ok outcome =>
      cases outcome with
      | created => exact .of_deposited (leaves.created answered)
      | alreadyPresent => exact .of_furnished (leaves.present answered)
  | error e =>
      by_cases synced : store.Synced address events
      · exact .of_furnished (leaves.failed e answered synced)
      · unfold Synced at synced
        push Not at synced
        obtain ⟨cause, member⟩ := synced
        exact .of_deposited (leaves.exposed cause member).2

/-- Opening a store changes no file but temporary ones. -/
theorem lasting_open (store : FileStore) (actor : Actor) (now : Instant)
    (distinct : tree.Distinct) : Lasting tree (Opening.ofStore actor now store tree).2 := by
  rcases ran : (store.open_ now).run.run (FileTree.perform actor now) tree with ⟨outcome, after⟩
  obtain ⟨made, furnished, swept⟩ := open_cases distinct ran
  have lasting := (Lasting.of_furnished furnished).trans (.of_swept swept)
  unfold Opening.ofStore
  rw [ran]
  cases outcome <;> exact lasting

/-- Asking for an object changes nothing. -/
theorem perform_exists_snd (store : FileStore) (actor : Actor) (now : Instant) (address : Address)
    (tree : FileTree) : (store.perform actor now (.exists_ address) tree).2 = tree := by
  rw [perform, program_exists_eq, Program.run_step, FileTree.perform]
  dsimp only
  cases tree.exists_ actor (store.objectPath address) <;> rfl

/-- Fetching an object changes nothing. -/
theorem perform_get_snd (store : FileStore) (actor : Actor) (now : Instant) (address : Address)
    (tree : FileTree) : (store.perform actor now (.get address) tree).2 = tree := by
  change ((store.get address).run.run (FileTree.perform actor now) tree).2 = tree
  rw [run_get_eq, Program.run_step, FileTree.perform]
  dsimp only
  split <;> rfl

/-! ### Files that are no objects -/

/-- Bytes are no record, or the payload of the record has another address. -/
def Unfit (config : EngineConfig) (address : Address) (bytes : ByteArray) : Prop :=
  (∃ damage, Record.decode bytes = .error damage) ∨
    ∃ createdAt payload, Record.decode bytes = .ok (createdAt, payload) ∧
      config.codec.derive payload ≠ address

/-- At the path of an object stands a regular file that can be read but does not hold the
object. -/
structure Spoiled (store : FileStore) (actor : Actor) (config : EngineConfig) (address : Address)
    (place : Location) (bytes : ByteArray) (tree : FileTree) : Prop where
  there : ∃ modified mode, tree.stat actor false (store.objectPath address) =
    .ok (place, .file bytes modified mode) ∧ actor.may .read mode = true
  unfit : Unfit config address bytes

namespace Spoiled

variable {bytes : ByteArray}

/-- Such a file stays what it is. -/
theorem lasting (spoiled : Spoiled store actor config address place bytes tree)
    (lasting : Lasting tree after) : Spoiled store actor config address place bytes after := by
  obtain ⟨⟨modified, mode, found, readable⟩, unfit⟩ := spoiled
  refine ⟨⟨modified, mode, ?_, readable⟩, unfit⟩
  rw [objectPath_eq] at found ⊢
  obtain ⟨fits, parent, leads, searchable, rfl, there⟩ := FileTree.stat_child_eq_ok found
  have stays := lasting.stays _ _ _ there (.inr (isTemporary_fileName address))
  rw [FileTree.stat, FileTree.resolve_child fits (plain_fileName address).1
    (lasting.keeps.leads leads) (lasting.keeps.searchable searchable), FileTree.lookup, stays]
  rfl

/-- Such a file is read as if it held the object. -/
theorem file?_eq (spoiled : Spoiled store actor config address place bytes tree) :
    store.Legible actor address tree ∧ store.file? actor address tree = some bytes := by
  obtain ⟨⟨modified, mode, found, readable⟩, -⟩ := spoiled
  rw [objectPath_eq] at found
  have followed : tree.stat actor true (store.objectPath address) =
      .ok (place, .file bytes modified mode) := by
    rw [objectPath_eq]
    exact FileTree.stat_of_file (plain_fileName address).1 found
  exact ⟨.inr ⟨_, _, _, _, followed, readable⟩, file?_of_stat followed⟩

end Spoiled

end ContentNode.FileStore
