import ContentNode.Proofs.Store.File.Sequential
import ContentNode.Store.Opening

/-!
# Opening a store

A store can be opened in an empty directory.  Opening one in which nobody was
interrupted finds no temporary files, so it removes nothing.
-/

namespace ContentNode.FileStore

open FileSystem

variable {store : FileStore} {actor : Actor} {now : Instant} {top : Location}
  {tree after : FileTree} {address : Address}

/-! ### Sweeping where there is nothing to sweep -/

/-- Files that are not temporary stay. -/
theorem run_visitFiles_of_permanent (directory : FilePath) (sweep : Sweep)
    {entries : List (FileName × FileType)}
    (permanent : ∀ name kind, (name, kind) ∈ entries → kind = .file ∧ isTemporary name = false) :
    (visitFiles (sweepFile now) directory entries sweep).run = .done (.ok sweep) := by
  have none : entries.filter (fun shown => isTemporary shown.1) = [] := by
    rw [List.filter_eq_nil_iff]
    rintro ⟨name, kind⟩ member
    simp [(permanent name kind member).2]
  rw [← run_visitFiles_filter (fun sweep path _ => run_sweepFile_of_permanent now sweep path), none]
  rfl

/-- Nothing is removed from the directories of a listing. -/
theorem run_visitDirectories_settled (layout : store.Layout actor top tree)
    (settled : Settled top tree) (sweep : Sweep) {entries : List (FileName × FileType)}
    (listed : ∀ name kind, (name, kind) ∈ entries → kind = .directory ∧
      ∃ address, name = directoryName address ∧
        ∃ parent, tree.get? (directoryPlace top address) = some parent) :
    (visitDirectories (sweepFile now) store.objects entries sweep).run.run
      (FileTree.perform actor now) tree = (.ok sweep, tree) := by
  induction entries with
  | nil => rfl
  | cons first rest ih =>
      rcases first with ⟨name, kind⟩
      obtain ⟨rfl, address, rfl, parent, there⟩ := listed name kind List.mem_cons_self
      have lasting (name : FileName) (kind : FileType)
          (member : (name, kind) ∈ tree.contents (directoryPlace top address)) :
          kind = .file ∧ isTemporary name = false := by
        obtain ⟨⟨name', entry⟩, inside, same⟩ := List.mem_map.mp member
        cases same
        have placed := layout.distinct.mem_children_iff.mp inside
        exact ⟨(layout.listed_files member).1, settled _ _ _ placed⟩
      rw [run_visitDirectories_directory, ← directory_eq,
        run_of_performed (layout.perform_list_directory there)]
      dsimp only
      rw [run_visitFiles_of_permanent _ _ lasting]
      exact ih fun name kind member => listed name kind (List.mem_cons_of_mem _ member)

/-- A store in which nobody was interrupted is opened without any change to it. -/
theorem run_open_of_settled (layout : store.Layout actor top after)
    (settled : Settled top after)
    (made : tree.perform actor now (.makeDirectories store.objects) = (.ok (), after)) :
    (store.open_ now).run.run (FileTree.perform actor now) tree = (.ok ⟨[], 0⟩, after) := by
  rw [run_open, run_of_performed made]
  dsimp only
  rw [sweep, run_walk, run_of_performed layout.perform_kind_objects]
  dsimp only
  rw [run_of_performed layout.perform_list_objects]
  apply run_visitDirectories_settled layout settled
  intro name kind member
  exact layout.listed_directories member

/-- Where the directory of all objects is there, opening a store comes to sweeping it. -/
theorem run_open_of_isDirectory (standing : tree.isDirectory actor store.objects = true) :
    (store.open_ now).run.run (FileTree.perform actor now) tree =
      (store.sweep now).run.run (FileTree.perform actor now) tree := by
  have made : tree.perform actor now (.makeDirectories store.objects) = (.ok (), tree) := by
    rw [FileTree.perform, objects_eq, FileTree.ancestry_child _ plain_objectsName.1,
      FileTree.makeMissing, ← objects_eq, FileTree.ensureDirectory_of_isDirectory standing]
  rw [run_open, run_of_performed made]

/-! ### Empty directories -/

/-- The root of a store leads to a directory that someone may use and in which there are no
objects yet, nor a directory for them. -/
structure Blank (store : FileStore) (actor : Actor) (top : Location) (tree : FileTree) :
    Prop where
  distinct : tree.Distinct
  root : tree.Reaches actor (.ofText store.root) top pathRoom
  usable : tree.Usable actor top
  free : ∀ below, tree.get? (objectsPlace top ++ below) = none

/-- The directory of all objects is made and there is nothing in it. -/
theorem Blank.perform_makeObjects (blank : store.Blank actor top tree) (now : Instant) :
    ∃ after, tree.perform actor now (.makeDirectories store.objects) = (.ok (), after) ∧
      store.Layout actor top after ∧
      ∀ below, below ≠ [] → after.get? (objectsPlace top ++ below) = none := by
  have free : tree.get? (objectsPlace top) = none := by
    have nothing := blank.free []
    rwa [List.append_nil] at nothing
  have made : tree.perform actor now (.makeDirectories store.objects) =
      (.ok (), tree.insert (objectsPlace top) (.directory Entry.directoryMode)) := by
    rw [FileTree.perform, objects_eq]
    exact FileTree.makeMissing_child_of_free (slot_objects blank.root) free
      (blank.usable.mayUse .write)
  have changed : tree.Changed
      (tree.insert (objectsPlace top) (.directory Entry.directoryMode)) (objectsPlace top)
      (some (.directory Entry.directoryMode)) := tree.changed_insert objectsPlace_ne_nil _
  have kept : tree.Keeps
      (tree.insert (objectsPlace top) (.directory Entry.directoryMode)) := by
    apply FileTree.Keeps.changed changed
    intro old found
    cases free.symm.trans found
  have empty (below : Location) (inside : below ≠ []) :
      (tree.insert (objectsPlace top) (.directory Entry.directoryMode)).get?
        (objectsPlace top ++ below) = none := by
    rw [changed.get?_of_ne (by simpa using inside), blank.free]
  refine ⟨_, made, ?_, empty⟩
  constructor
  · exact blank.distinct.insert _ _
  · exact blank.root.keeps kept
  · exact ⟨_, changed.get?_self, FileTree.may_directoryMode actor⟩
  · intro name entry there
    cases (empty [name] (by simp)).symm.trans there
  · intro directory name entry there
    rw [filePlace, List.append_assoc, empty _ (by simp)] at there
    cases there

/-- The root of a store leads to a directory that someone may use and that is empty. -/
structure Vacant (store : FileStore) (actor : Actor) (top : Location) (tree : FileTree) :
    Prop where
  distinct : tree.Distinct
  fits : (FilePath.ofText store.root).Fits pathRoom
  found : ∃ mode,
    tree.follow actor true FileTree.maxLinks [] (FilePath.ofText store.root).components =
      .ok (.found top (.directory mode)) ∧ ∀ access, actor.may access mode = true
  nothing : ∀ below, below ≠ [] → tree.get? (top ++ below) = none

namespace Vacant

theorem leads (vacant : store.Vacant actor top tree) :
    FileTree.Leads tree actor FileTree.maxLinks [] (FilePath.ofText store.root).components top := by
  obtain ⟨mode, walk, -⟩ := vacant.found
  exact FileTree.leads_of_follow tree.standing_nil walk

theorem usable (vacant : store.Vacant actor top tree) : tree.Usable actor top := by
  obtain ⟨mode, walk, allowed⟩ := vacant.found
  obtain ⟨mode', there⟩ := vacant.leads.directory
  obtain ⟨left, same⟩ := vacant.leads.follow_append true [] (.inr rfl)
  rw [List.append_nil, walk, FileTree.follow_nil there] at same
  cases same
  exact ⟨mode, there, allowed⟩

/-- There is nothing below the directory of all objects. -/
theorem blank (vacant : store.Vacant actor top tree) : store.Blank actor top tree := by
  refine ⟨vacant.distinct, ⟨vacant.fits, vacant.leads, vacant.usable.searchable⟩, vacant.usable,
    fun below => ?_⟩
  rw [objectsPlace, List.append_assoc]
  exact vacant.nothing _ (by simp)

end Vacant

end ContentNode.FileStore
