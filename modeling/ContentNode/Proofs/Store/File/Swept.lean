import ContentNode.Proofs.FileSystem.Answers
import ContentNode.Proofs.Store.File.Opening

/-!
# What opening a store leaves

One who opens a store alone removes temporary files and nothing else, whatever there is below
its root.  If the files have the shape of a store, it is opened, however many temporary files
others have left over.
-/

namespace ContentNode.FileStore

open FileSystem

variable {store : FileStore} {actor : Actor} {now : Instant} {top place : Location}
  {tree after last : FileTree} {directory : FilePath} {name : FileName} {sweep : Sweep}
  {entries : List (FileName × FileType)} {outcome : Except StoreError Sweep}

/-- Temporary files have been removed, and nothing else has changed. -/
def Swept (tree after : FileTree) : Prop :=
  ∀ place, after.get? place = tree.get? place ∨
    (after.get? place = none ∧ ∃ above name content modified mode, place = above ++ [name] ∧
      isTemporary name = true ∧ tree.get? place = some (.file content modified mode))

namespace Swept

theorem refl (tree : FileTree) : Swept tree tree := fun _ => .inl rfl

theorem trans (first : Swept tree after) (second : Swept after last) : Swept tree last := by
  intro place
  rcases second place with same | ⟨gone, above, name, content, modified, mode, rfl, temporary, file⟩
  · rw [same]
    exact first place
  · rcases first (above ++ [name]) with same | ⟨gone', -⟩
    · exact .inr ⟨gone, above, name, content, modified, mode, rfl, temporary, same ▸ file⟩
    · cases gone'.symm.trans file

theorem keeps (swept : Swept tree after) : tree.Keeps after := by
  intro place entry kind there
  rcases swept place with same | ⟨-, _, _, _, _, _, rfl, -, file⟩
  · exact same.trans there
  · cases there.symm.trans file
    exact absurd rfl kind

/-- What has no temporary name stays. -/
theorem permanent (swept : Swept tree after) (lasting : isTemporary name = false) :
    after.get? (place ++ [name]) = tree.get? (place ++ [name]) := by
  rcases swept (place ++ [name]) with same | ⟨-, above, other, _, _, _, places, temporary, -⟩
  · exact same
  · obtain rfl : name = other := by
      have names := congrArg List.getLast? places
      simpa using names
    rw [lasting] at temporary
    cases temporary

/-- What is there afterwards has been there before. -/
theorem there {entry : Entry} (swept : Swept tree after) (found : after.get? place = some entry) :
    tree.get? place = some entry := by
  rcases swept place with same | ⟨gone, -⟩
  · rw [← same, found]
  · cases gone.symm.trans found

theorem free (swept : Swept tree after) (nothing : tree.get? place = none) :
    after.get? place = none := by
  rcases swept place with same | ⟨gone, -⟩
  · rw [same, nothing]
  · exact gone

theorem erase {content : ByteArray} {modified : Instant} {mode : Nat}
    (temporary : isTemporary name = true)
    (there : tree.get? (place ++ [name]) = some (.file content modified mode)) :
    Swept tree (tree.erase (place ++ [name])) := by
  intro other
  rw [tree.get?_erase (by simp)]
  split
  · next same =>
    subst same
    exact .inr ⟨rfl, place, name, content, modified, mode, rfl, temporary, there⟩
  · exact .inl rfl

end Swept

/-! ### One directory -/

/-- A temporary file is left or removed and the others stay; it can be removed if its directory
may be used. -/
theorem sweepFile_cases {content : ByteArray} {modified : Instant} {mode : Nat}
    (temporary : isTemporary name = true)
    (leads : FileTree.Leads tree actor FileTree.maxLinks [] directory.components place)
    (there : tree.get? (place ++ [name]) = some (.file content modified mode))
    (ran : (sweepFile now sweep (directory.child name) name).run.run (FileTree.perform actor now)
      tree = (outcome, after)) :
    Swept tree after ∧
      (∀ other, other ≠ name → after.get? (place ++ [other]) = tree.get? (place ++ [other])) ∧
      (tree.Slot actor directory place name → tree.Usable actor place →
        ∃ swept, outcome = .ok swept) := by
  rw [run_sweepFile_of_temporary now sweep _ temporary, Program.run_step, FileTree.perform] at ran
  have looked (slot : tree.Slot actor directory place name) :
      tree.metadata actor now (directory.child name) = .ok ⟨content.size, modified⟩ :=
    FileTree.metadata_child slot there
  cases found : tree.metadata actor now (directory.child name) with
  | error e =>
      rw [found] at ran looked
      cases ran
      refine ⟨.refl tree, fun _ _ => rfl, fun slot _ => ?_⟩
      cases looked slot
  | ok info =>
      rw [found] at ran
      dsimp only at ran
      split at ran
      · cases ran
        exact ⟨.refl tree, fun _ _ => rfl, fun _ _ => ⟨_, rfl⟩⟩
      · rw [Program.run_step, FileTree.perform] at ran
        have removed (slot : tree.Slot actor directory place name)
            (usable : tree.Usable actor place) :
            tree.remove actor (directory.child name) = .ok (tree.erase (place ++ [name])) :=
          FileTree.remove_child slot there (usable.mayUse .write)
        cases removing : tree.remove actor (directory.child name) with
        | error e =>
            rw [removing, FileTree.change] at ran
            dsimp only at ran
            obtain rfl : tree = after := by split at ran <;> cases ran <;> rfl
            refine ⟨.refl tree, fun _ _ => rfl, fun slot usable => ?_⟩
            cases removing.symm.trans (removed slot usable)
        | ok less =>
            rw [removing, FileTree.change] at ran
            cases ran
            obtain rfl := FileTree.remove_child_eq_ok leads removing
            refine ⟨.erase temporary there, fun other apart => ?_, fun _ _ => ⟨_, rfl⟩⟩
            rw [tree.get?_erase (by simp), if_neg (by simpa using apart)]

/-- Of the files of a listing the temporary ones are left or removed. -/
theorem visitFiles_cases
    (leads : FileTree.Leads tree actor FileTree.maxLinks [] directory.components place)
    (nodup : (entries.map Prod.fst).Nodup)
    (listed : ∀ name, (name, .file) ∈ entries → ∃ content modified mode,
      tree.get? (place ++ [name]) = some (.file content modified mode))
    (ran : (visitFiles (sweepFile now) directory entries sweep).run.run
      (FileTree.perform actor now) tree = (outcome, after)) :
    Swept tree after ∧
      (tree.Usable actor place →
        (∀ name, (name, .file) ∈ entries → isTemporary name = true →
          tree.Slot actor directory place name) → ∃ swept, outcome = .ok swept) := by
  induction entries generalizing tree sweep with
  | nil =>
      cases ran
      exact ⟨.refl _, fun _ _ => ⟨_, rfl⟩⟩
  | cons first rest ih =>
      obtain ⟨name, kind⟩ := first
      rw [List.map_cons, List.nodup_cons] at nodup
      have later (other : FileName) (member : (other, FileType.file) ∈ rest) :=
        listed other (List.mem_cons_of_mem _ member)
      have skipped (goes : (visitFiles (sweepFile now) directory rest sweep).run.run
          (FileTree.perform actor now) tree = (outcome, after)) :
          Swept tree after ∧ (tree.Usable actor place →
            (∀ other, (other, .file) ∈ (name, kind) :: rest → isTemporary other = true →
              tree.Slot actor directory place other) → ∃ swept, outcome = .ok swept) := by
        obtain ⟨swept, fine⟩ := ih leads nodup.2 later goes
        exact ⟨swept, fun usable slots =>
          fine usable fun other member => slots other (List.mem_cons_of_mem _ member)⟩
      cases kind with
      | directory => exact skipped ran
      | link => exact skipped ran
      | file =>
          rw [run_visitFiles_file] at ran
          cases temporary : isTemporary name with
          | false =>
              rw [run_sweepFile_of_permanent now sweep _ temporary] at ran
              exact skipped ran
          | true =>
              rw [Program.run_bind] at ran
              obtain ⟨content, modified, mode, there⟩ := listed name List.mem_cons_self
              rcases one : (sweepFile now sweep (directory.child name) name).run.run
                (FileTree.perform actor now) tree with ⟨first, middle⟩
              rw [one] at ran
              obtain ⟨swept, others, fine⟩ := sweepFile_cases temporary leads there one
              cases first with
              | error e =>
                  cases ran
                  refine ⟨swept, fun usable slots => ?_⟩
                  obtain ⟨_, never⟩ := fine (slots name List.mem_cons_self temporary) usable
                  cases never
              | ok more =>
                  have apart (other : FileName) (member : (other, FileType.file) ∈ rest) :
                      other ≠ name := by
                    rintro rfl
                    exact nodup.1 (List.mem_map_of_mem (f := Prod.fst) member)
                  obtain ⟨further, goes⟩ := ih (swept.keeps.leads leads) nodup.2
                    (fun other member => others other (apart other member) ▸ later other member) ran
                  refine ⟨swept.trans further, fun usable slots => ?_⟩
                  exact goes (swept.keeps.usable usable) fun other member temporary =>
                    (slots other (List.mem_cons_of_mem _ member) temporary).keeps swept.keeps

/-! ### All directories -/

/-- The temporary files of a store are removed from the directories of a listing. -/
theorem visitDirectories_cases {parent : FilePath} (distinct : tree.Distinct)
    (ran : (visitDirectories (sweepFile now) parent entries sweep).run.run
      (FileTree.perform actor now) tree = (outcome, after)) : Swept tree after := by
  induction entries generalizing tree sweep with
  | nil =>
      cases ran
      exact .refl _
  | cons first rest ih =>
      obtain ⟨name, kind⟩ := first
      cases kind with
      | file => exact ih distinct ran
      | link => exact ih distinct ran
      | directory =>
          rw [run_visitDirectories_directory, Program.run_step, FileTree.perform] at ran
          cases listing : tree.listDirectory actor (parent.child name) with
          | error e =>
              rw [listing] at ran
              cases ran
              exact .refl tree
          | ok inside =>
              rw [listing] at ran
              dsimp only at ran
              rw [Program.run_bind] at ran
              obtain ⟨place, leads, rfl⟩ := FileTree.listDirectory_eq_ok listing
              rcases one : (visitFiles (sweepFile now) (parent.child name) (tree.contents place)
                sweep).run.run (FileTree.perform actor now) tree with ⟨first, middle⟩
              rw [one] at ran
              obtain ⟨swept, -⟩ := visitFiles_cases leads (nodup_listed distinct place)
                (fun other member => distinct.file_of_contents member) one
              cases first with
              | error e =>
                  cases ran
                  exact swept
              | ok more =>
                  exact swept.trans (ih (distinct.run one) ran)

/-- Sweeping removes temporary files only. -/
theorem sweep_cases (distinct : tree.Distinct)
    (ran : (store.sweep now).run.run (FileTree.perform actor now) tree = (outcome, after)) :
    Swept tree after := by
  rw [FileStore.sweep, run_walk, Program.run_step, FileTree.perform] at ran
  cases kind : tree.kindOf actor store.objects with
  | error e =>
      rw [kind] at ran
      cases ran
      exact .refl tree
  | ok kind' =>
      rw [kind] at ran
      cases kind' with
      | file =>
          cases ran
          exact .refl tree
      | link =>
          cases ran
          exact .refl tree
      | directory =>
          dsimp only at ran
          rw [Program.run_step, FileTree.perform] at ran
          cases listing : tree.listDirectory actor store.objects with
          | error e =>
              rw [listing] at ran
              cases ran
              exact .refl tree
          | ok entries =>
              rw [listing] at ran
              exact visitDirectories_cases distinct ran

/-- Who opens a store makes directories and then removes temporary files, whatever comes of
it. -/
theorem open_cases (distinct : tree.Distinct)
    (ran : (store.open_ now).run.run (FileTree.perform actor now) tree = (outcome, after)) :
    ∃ made, FileTree.Furnished (fun _ => True) tree made ∧ Swept made after := by
  rw [run_open, Program.run_step, FileTree.perform] at ran
  have furnished := FileTree.furnished_makeMissing actor (FileTree.ancestry store.objects) tree
  have apart := distinct.makeMissing actor (FileTree.ancestry store.objects)
  rcases makes : FileTree.makeMissing actor (FileTree.ancestry store.objects) tree with
    ⟨answer, made⟩
  rw [makes] at ran furnished apart
  rcases answer with e | ⟨⟩
  · cases ran
    exact ⟨_, furnished, .refl _⟩
  · exact ⟨made, furnished, sweep_cases apart ran⟩

/-! ### In the files of a store -/

namespace Layout

variable {address : Address} {parent : Entry}

/-- Files keep the shape of a store if temporary ones are removed. -/
theorem swept (layout : store.Layout actor top tree) (swept : Swept tree after)
    (distinct : after.Distinct) : store.Layout actor top after := by
  constructor
  · exact distinct
  · exact layout.root.keeps swept.keeps
  · exact swept.keeps.usable layout.objects
  · intro name entry found
    obtain ⟨usable, named⟩ := layout.directories name entry (swept.there found)
    exact ⟨swept.keeps.usable usable, named⟩
  · intro directory name entry found
    obtain ⟨⟨parent, below⟩, file⟩ := layout.files directory name entry (swept.there found)
    obtain ⟨mode, usual, -⟩ := (layout.directories _ _ below).1
    exact ⟨⟨_, swept.keeps _ _ (by simp [Entry.type]) usual⟩, file⟩

/-- A temporary file that is listed can be looked at and removed. -/
theorem slot_listed (layout : store.Layout actor top tree)
    (there : tree.get? (directoryPlace top address) = some parent)
    (listed : (name, .file) ∈ tree.contents (directoryPlace top address))
    (temporary : isTemporary name = true) :
    tree.Slot actor (store.directory address) (directoryPlace top address) name := by
  obtain ⟨content, modified, mode, found⟩ := layout.distinct.file_of_contents listed
  obtain ⟨-, _, _, _, -, ⟨-, plain, short⟩ | ⟨_, -, rfl, -⟩⟩ := layout.files _ _ _ found
  · exact (layout.reaches_directory there).slot (by omega) plain
  · exact absurd rfl (ne_fileName temporary)

/-- The temporary files in the directories of a store can all be swept away. -/
theorem run_visitDirectories (layout : store.Layout actor top tree) (now : Instant)
    (sweep : Sweep)
    (listed : ∀ name kind, (name, kind) ∈ entries → kind = .directory ∧
      ∃ address, name = directoryName address ∧
        ∃ parent, tree.get? (directoryPlace top address) = some parent) :
    ∃ swept after, (visitDirectories (sweepFile now) store.objects entries sweep).run.run
      (FileTree.perform actor now) tree = (.ok swept, after) := by
  induction entries generalizing tree sweep with
  | nil => exact ⟨_, _, rfl⟩
  | cons first rest ih =>
      obtain ⟨name, kind⟩ := first
      obtain ⟨rfl, address, rfl, parent, there⟩ := listed name kind List.mem_cons_self
      obtain ⟨mode, directory, -⟩ := layout.usable there
      rw [run_visitDirectories_directory, ← directory_eq,
        run_of_performed (layout.perform_list_directory there)]
      dsimp only
      rw [Program.run_bind]
      rcases one : (visitFiles (sweepFile now) (store.directory address)
        (tree.contents (directoryPlace top address)) sweep).run.run (FileTree.perform actor now)
        tree with ⟨outcome, middle⟩
      obtain ⟨swept, fine⟩ := visitFiles_cases (layout.reaches_directory there).leads
        (nodup_listed layout.distinct _)
        (fun _ member => layout.distinct.file_of_contents member) one
      obtain ⟨sweep', rfl⟩ := fine (layout.usable there) fun _ member temporary =>
        layout.slot_listed there member temporary
      refine ih (layout.swept swept (layout.distinct.run one)) _ fun name kind member => ?_
      obtain ⟨rfl, other, rfl, parent', there'⟩ :=
        listed name kind (List.mem_cons_of_mem _ member)
      obtain ⟨mode', directory', -⟩ := layout.usable there'
      exact ⟨rfl, other, rfl, _, swept.keeps _ _ (by simp [Entry.type]) directory'⟩

/-- Once there is the directory of all objects, a store is opened, and what is left over from
others may be removed. -/
theorem run_open (layout : store.Layout actor top after)
    (made : tree.perform actor now (.makeDirectories store.objects) = (.ok (), after)) :
    ∃ sweep last, (store.open_ now).run.run (FileTree.perform actor now) tree =
        (.ok sweep, last) ∧ Swept after last ∧ store.Layout actor top last := by
  obtain ⟨sweep', last, ran⟩ := layout.run_visitDirectories now ⟨[], 0⟩
    fun _ _ member => layout.listed_directories member
  have swept := visitDirectories_cases layout.distinct ran
  refine ⟨sweep', last, ?_, swept, layout.swept swept (layout.distinct.run ran)⟩
  rw [FileStore.run_open, run_of_performed made]
  dsimp only
  rw [FileStore.sweep, run_walk, run_of_performed layout.perform_kind_objects]
  dsimp only
  rw [run_of_performed layout.perform_list_objects]
  exact ran

end Layout

end ContentNode.FileStore
