import ContentNode.Proofs.Store.File.Neighbours

/-!
# Opening a store beside an object

Whoever opens a store looks at all files and removes old temporary ones.  What stands at the
place of an object does not matter for this: in two trees that differ only there, the same
files are kept and removed.
-/

namespace ContentNode.FileStore

open FileSystem

variable {α β : Type} {store : FileStore} {actor : Actor} {now : Instant} {hall : Location}
  {tree twin : FileTree} {address : Address} {directory name : FileName} {sweep : Sweep}
  {entries : List (FileName × FileType)}

/-- A program has the same outcome in two trees, and afterwards they differ only in what stands
at the place of an object.  It removes temporary files at most. -/
def SweepsAlike (store : FileStore) (actor : Actor) (now : Instant) (hall : Location)
    (address : Address) (program : FileProgram α) (tree twin : FileTree) : Prop :=
  ∃ outcome tree' twin', program.run (FileTree.perform actor now) tree = (outcome, tree') ∧
    program.run (FileTree.perform actor now) twin = (outcome, twin') ∧
    store.Neighbours actor hall address tree' twin' ∧ Swept tree tree'

namespace SweepsAlike

variable {program : FileProgram α} {next : α → FileProgram β}

theorem done (neighbours : store.Neighbours actor hall address tree twin) (value : α) :
    SweepsAlike store actor now hall address (.done value) tree twin :=
  ⟨value, tree, twin, rfl, rfl, neighbours, .refl tree⟩

theorem bind (first : SweepsAlike store actor now hall address program tree twin)
    (further : ∀ outcome tree' twin', store.Neighbours actor hall address tree' twin' →
      Swept tree tree' → SweepsAlike store actor now hall address (next outcome) tree' twin') :
    SweepsAlike store actor now hall address (program.bind next) tree twin := by
  obtain ⟨middle, tree', twin', ran, ran', neighbours, swept⟩ := first
  obtain ⟨outcome, last, last', rest, rest', neighbours', swept'⟩ :=
    further middle tree' twin' neighbours swept
  refine ⟨outcome, last, last', ?_, ?_, neighbours', swept.trans swept'⟩
  · rw [Program.run_bind, ran, rest]
  · rw [Program.run_bind, ran', rest']

end SweepsAlike

namespace Neighbours

section Sweeping

variable (neighbours : store.Neighbours actor hall address tree twin)

include neighbours

/-- A temporary file is kept in both trees or removed from both. -/
theorem sweepFile (temporary : isTemporary name = true)
    (straight : ∀ target, tree.get? (hall ++ [directory]) ≠ some (.link target))
    (straight' : ∀ target, tree.get? (hall ++ [directory] ++ [name]) ≠ some (.link target)) :
    SweepsAlike store actor now hall address (FileStore.sweepFile now sweep
      ((store.objects.child directory).child name) name).run tree twin := by
  have alongside := neighbours.alongside_grandchild straight straight'
    (ne_spot_of_temporary temporary)
  have pair : hall ++ [directory, name] = hall ++ [directory] ++ [name] := by simp
  rw [run_sweepFile_of_temporary now sweep _ temporary, SweepsAlike, Program.run_step,
    Program.run_step, FileTree.perform, FileTree.perform, alongside.metadata (by simp)]
  cases tree.metadata actor now ((store.objects.child directory).child name) with
  | error e => exact SweepsAlike.done neighbours _
  | ok info =>
      dsimp only
      split
      · exact SweepsAlike.done neighbours _
      · rw [Program.run_step, Program.run_step, FileTree.perform, FileTree.perform]
        rcases alongside.remove (by simp) with
          ⟨e, failed, failed'⟩ | ⟨⟨content, modified, mode, there⟩, removed, removed'⟩
        · rw [failed, failed', FileTree.change, FileTree.change]
          dsimp only
          split <;> exact SweepsAlike.done neighbours _
        · rw [removed, removed', FileTree.change, FileTree.change]
          rw [pair] at there ⊢
          have there' : twin.get? (hall ++ [directory] ++ [name]) =
              some (.file content modified mode) := by
            rw [neighbours.twins.get? spot_ne_nil (ne_spot_of_temporary temporary), there]
          have swept := Swept.erase temporary there
          refine ⟨_, _, _, rfl, rfl, ?_, swept⟩
          exact neighbours.lasting (neighbours.twins.erase _)
            ⟨.of_swept swept, neighbours.first.distinct.erase _⟩
            ⟨.of_swept (.erase temporary there'), neighbours.second.distinct.erase _⟩

/-- In a directory the same temporary files are removed. -/
theorem visitFiles (temporary : ∀ name kind, (name, kind) ∈ entries → isTemporary name = true)
    (straight : ∀ target, tree.get? (hall ++ [directory]) ≠ some (.link target))
    (straight' : ∀ name, (name, .file) ∈ entries → ∀ target,
      tree.get? (hall ++ [directory] ++ [name]) ≠ some (.link target)) :
    SweepsAlike store actor now hall address (FileStore.visitFiles (FileStore.sweepFile now)
      (store.objects.child directory) entries sweep).run tree twin := by
  induction entries generalizing tree twin sweep with
  | nil => exact SweepsAlike.done neighbours _
  | cons first rest ih =>
      obtain ⟨name, kind⟩ := first
      have later (name : FileName) (kind : FileType) (member : (name, kind) ∈ rest) :=
        temporary name kind (List.mem_cons_of_mem _ member)
      cases kind with
      | file =>
          rw [run_visitFiles_file]
          apply (neighbours.sweepFile (temporary name _ List.mem_cons_self) straight
            (straight' name List.mem_cons_self)).bind
          intro outcome tree' twin' neighbours swept
          cases outcome with
          | error e => exact SweepsAlike.done neighbours _
          | ok sweep =>
              exact ih neighbours later (fun target linked => straight target (swept.there linked))
                fun name member target linked =>
                  straight' name (List.mem_cons_of_mem _ member) target (swept.there linked)
      | directory | link =>
          exact ih neighbours later straight fun name member =>
            straight' name (List.mem_cons_of_mem _ member)

/-- In all directories of a listing the same temporary files are removed. -/
theorem visitDirectories (listed : ∀ name, (name, .directory) ∈ entries →
      ∃ mode, tree.get? (hall ++ [name]) = some (.directory mode)) :
    SweepsAlike store actor now hall address (FileStore.visitDirectories (FileStore.sweepFile now)
      store.objects entries sweep).run tree twin := by
  induction entries generalizing tree twin sweep with
  | nil => exact SweepsAlike.done neighbours _
  | cons first rest ih =>
      obtain ⟨name, kind⟩ := first
      have later (name : FileName) (member : (name, .directory) ∈ rest) :=
        listed name (List.mem_cons_of_mem _ member)
      cases kind with
      | file => exact ih neighbours later
      | link => exact ih neighbours later
      | directory =>
          obtain ⟨mode, there⟩ := listed name List.mem_cons_self
          have straight (target : String) : tree.get? (hall ++ [name]) ≠ some (.link target) := by
            simp [there]
          have shown : (twin.contents (hall ++ [name])).filter (fun shown => isTemporary shown.1) =
              (tree.contents (hall ++ [name])).filter fun shown => isTemporary shown.1 :=
            neighbours.twins.contents _ fun other kind here =>
              Bool.eq_false_iff.mpr fun temporary => ne_spot_of_temporary temporary here.symm
          rw [run_visitDirectories_directory, SweepsAlike, Program.run_step, Program.run_step,
            FileTree.perform, FileTree.perform]
          rcases (neighbours.alongside_child straight).listDirectory with
            ⟨e, failed, failed'⟩ | ⟨shows, shows'⟩
          · rw [failed, failed']
            exact SweepsAlike.done neighbours _
          · rw [shows, shows']
            dsimp only
            have skips (sweep : Sweep) (path : FilePath) (name : FileName)
                (permanent : isTemporary name = false) :=
              run_sweepFile_of_permanent now sweep path permanent
            rw [← run_visitFiles_filter skips _ (tree.contents _),
              ← run_visitFiles_filter skips _ (twin.contents _), shown]
            refine SweepsAlike.bind (neighbours.visitFiles (fun other kind member => ?_) straight
              fun other member target => ?_) fun outcome tree' twin' neighbours swept => ?_
            · exact (List.mem_filter.mp member).2
            · obtain ⟨content, modified, mode, file⟩ :=
                neighbours.first.distinct.file_of_contents (List.mem_filter.mp member).1
              intro linked
              cases file.symm.trans linked
            · cases outcome with
              | error e => exact SweepsAlike.done neighbours _
              | ok sweep =>
                  refine ih neighbours fun other member => ?_
                  obtain ⟨mode, standing⟩ := later other member
                  exact ⟨mode, swept.keeps _ _ (by simp [Entry.type]) standing⟩

/-- The directory of all objects is there, and the same files are removed from it. -/
theorem swept (now : Instant) :
    SweepsAlike store actor now hall address (store.sweep now).run tree twin := by
  have alongside := neighbours.alongside_objects
  have shown : twin.contents hall = tree.contents hall :=
    neighbours.twins.contents_eq fun name => (ne_spot_of_length (by simp)).symm
  rw [FileStore.sweep, run_walk, SweepsAlike, Program.run_step, Program.run_step,
    FileTree.perform, FileTree.perform, alongside.kindOf]
  rcases tree.kindOf actor store.objects with e | ⟨⟩ | ⟨⟩ | ⟨⟩
  · exact SweepsAlike.done neighbours _
  · exact SweepsAlike.done neighbours _
  · dsimp only
    rw [Program.run_step, Program.run_step, FileTree.perform, FileTree.perform]
    rcases alongside.listDirectory with ⟨e, failed, failed'⟩ | ⟨shows, shows'⟩
    · rw [failed, failed']
      exact SweepsAlike.done neighbours _
    · rw [shows, shows', List.append_nil, shown]
      exact neighbours.visitDirectories fun name member =>
        neighbours.first.distinct.directory_of_contents member
  · exact SweepsAlike.done neighbours _

/-- A store is opened with the same outcome. -/
theorem opened (now : Instant) : Together store actor hall address
    (Opening.ofStore actor now store tree) (Opening.ofStore actor now store twin) := by
  have standing {tree : FileTree} (grounds : store.Grounds actor hall tree) :
      tree.isDirectory actor store.objects = true := by
    obtain ⟨mode, there, -⟩ := grounds.reaches.searchable
    have nonempty : store.objects.display ≠ "" :=
      (FilePath.ofText store.root).display_child_ne_empty plain_objectsName.1
    rw [FileTree.isDirectory,
      FileTree.stat_of_leads grounds.reaches.fits nonempty grounds.reaches.leads there]
    rfl
  obtain ⟨outcome, tree', twin', ran, ran', kept, -⟩ := neighbours.swept now
  unfold Together Opening.ofStore
  rw [run_open_of_isDirectory (standing neighbours.first), ran,
    run_open_of_isDirectory (standing neighbours.second), ran']
  cases outcome <;> exact ⟨rfl, kept⟩

end Sweeping

end Neighbours

end ContentNode.FileStore
