import ContentNode.Proofs.FileSystem.Thinned
import ContentNode.Proofs.Store.File.Programs
import ContentNode.Proofs.Store.File.Reading

/-!
# Files that nobody misses

What a store answers does not depend on the temporary files in it, except that a symbolic link
in the place of an object may lead to one.
-/

namespace ContentNode.FileStore

open FileSystem

variable {α β : Type} {store : FileStore} {actor : Actor} {now : Instant} {hall place : Location}
  {tree twin : FileTree} {parent directory : FilePath} {entries : List (FileName × FileType)}
  {gone : List Location} {address : Address}

/-- Places of temporary files in the directories of a directory. -/
def Drafts (hall : Location) (gone : List Location) : Prop :=
  ∀ place ∈ gone, ∃ folder name, place = hall ++ [folder] ++ [name] ∧ isTemporary name = true

namespace Drafts

variable {folder name : FileName} {below : List FileName}

/-- They are two levels below. -/
theorem not_mem_of_length (drafts : Drafts hall gone) (other : below.length ≠ 2) :
    hall ++ below ∉ gone := by
  intro member
  obtain ⟨folder, name, same, -⟩ := drafts _ member
  rw [List.append_assoc, List.append_cancel_left_eq] at same
  subst same
  exact other rfl

theorem not_mem_of_permanent (drafts : Drafts hall gone) (lasting : isTemporary name = false) :
    place ++ [name] ∉ gone := by
  intro member
  obtain ⟨folder, other, same, temporary⟩ := drafts _ member
  obtain ⟨-, rfl⟩ : _ ∧ name = other := by
    simpa using List.append_inj' same rfl
  cases lasting.symm.trans temporary

end Drafts

/-! ### How much there is -/

/-- A program gives the same value in two trees and changes neither. -/
def Concurs (actor : Actor) (now : Instant) (tree twin : FileTree) (program : FileProgram α) : Prop :=
  ∃ value, program.run (FileTree.perform actor now) tree = (value, tree) ∧
    program.run (FileTree.perform actor now) twin = (value, twin)

namespace Concurs

theorem done (value : α) : Concurs actor now tree twin (.done value) := ⟨value, rfl, rfl⟩

theorem bind {program : FileProgram α} {next : α → FileProgram β}
    (first : Concurs actor now tree twin program)
    (further : ∀ value, Concurs actor now tree twin (next value)) :
    Concurs actor now tree twin (program.bind next) := by
  obtain ⟨middle, ran, ran'⟩ := first
  obtain ⟨value, rest, rest'⟩ := further middle
  refine ⟨value, ?_, ?_⟩
  · rw [Program.run_bind, ran, rest]
  · rw [Program.run_bind, ran', rest']

end Concurs

variable (files : tree.HoldsFiles gone) (drafts : Drafts hall gone)

include files drafts

/-- The same files are counted in a directory. -/
theorem concurs_visitFiles
    (leads : FileTree.Leads tree actor FileTree.maxLinks [] directory.components place)
    (listed : ∀ name, (name, .file) ∈ entries → ∃ content modified mode,
      tree.get? (place ++ [name]) = some (.file content modified mode)) (stats : StoreStats) :
    Concurs actor now tree (tree.without gone) (visitFiles count directory entries stats).run := by
  induction entries generalizing stats with
  | nil => exact .done _
  | cons first rest ih =>
      obtain ⟨name, kind⟩ := first
      have next := ih fun other member => listed other (List.mem_cons_of_mem _ member)
      cases kind with
      | directory | link => exact next stats
      | file =>
          rw [run_visitFiles_file]
          refine Concurs.bind ?_ fun outcome => ?_
          · cases temporary : isTemporary name with
            | true =>
                rw [run_count_of_temporary stats _ temporary]
                exact .done _
            | false =>
                obtain ⟨content, modified, mode, there⟩ := listed name List.mem_cons_self
                have alongside := files.alongside_child leads
                  (drafts.not_mem_of_permanent temporary) fun target linked => by
                    cases there.symm.trans linked
                rw [run_count stats _ temporary, Concurs, Program.run_step, Program.run_step,
                  FileTree.perform, FileTree.perform, alongside.metadata (by simp)]
                cases tree.metadata actor now (directory.child name) <;> exact Concurs.done _
          · cases outcome with
            | error e => exact .done _
            | ok stats => exact next stats

/-- So they are in all directories of a listing. -/
theorem concurs_visitDirectories (distinct : tree.Distinct)
    (leads : FileTree.Leads tree actor FileTree.maxLinks [] parent.components hall)
    (listed : ∀ folder, (folder, .directory) ∈ entries →
      ∃ mode, tree.get? (hall ++ [folder]) = some (.directory mode)) (stats : StoreStats) :
    Concurs actor now tree (tree.without gone)
      (visitDirectories count parent entries stats).run := by
  induction entries generalizing stats with
  | nil => exact .done _
  | cons first rest ih =>
      obtain ⟨folder, kind⟩ := first
      have next := ih fun other member => listed other (List.mem_cons_of_mem _ member)
      cases kind with
      | file | link => exact next stats
      | directory =>
          obtain ⟨mode, there⟩ := listed folder List.mem_cons_self
          have shown : ((tree.without gone).contents (hall ++ [folder])).filter
              (fun shown => !isTemporary shown.1) =
              (tree.contents (hall ++ [folder])).filter fun shown => !isTemporary shown.1 := by
            rw [FileTree.contents_without, List.filter_filter]
            apply List.filter_congr
            rintro ⟨name, kind⟩ -
            cases temporary : isTemporary name with
            | true => rfl
            | false => exact decide_eq_true (drafts.not_mem_of_permanent temporary)
          have skips (stats : StoreStats) (path : FilePath) (name : FileName)
              (temporary : (!isTemporary name) = false) :=
            run_count_of_temporary stats path (by simpa using temporary)
          rw [run_visitDirectories_directory, Concurs, Program.run_step, Program.run_step,
            FileTree.perform, FileTree.perform]
          have straight (target : String) : tree.get? (hall ++ [folder]) ≠ some (.link target) := by
            simp [there]
          rcases (files.alongside_child leads (drafts.not_mem_of_length (by simp))
            straight).listDirectory with ⟨e, failed, failed'⟩ | ⟨shows, shows'⟩
          · rw [failed, failed']
            exact Concurs.done _
          · obtain ⟨leads', -⟩ :=
              FileTree.listDirectory_child_eq_ok leads straight shows
            rw [shows, shows']
            dsimp only
            rw [← run_visitFiles_filter skips _ (tree.contents _),
              ← run_visitFiles_filter skips _ ((tree.without gone).contents _), shown,
              run_visitFiles_filter skips]
            refine Concurs.bind (concurs_visitFiles files drafts leads'
              (fun _ => distinct.file_of_contents) stats) fun outcome => ?_
            cases outcome with
            | error e => exact .done _
            | ok stats => exact next stats

/-- How much there is does not depend on temporary files. -/
theorem perform_stats_without (distinct : tree.Distinct)
    (leads : FileTree.Leads tree actor FileTree.maxLinks [] store.objects.components hall) :
    (store.perform actor now .stats (tree.without gone)).1 =
      (store.perform actor now .stats tree).1 := by
  suffices told : Concurs actor now tree (tree.without gone) store.stats.run by
    obtain ⟨value, ran, ran'⟩ := told
    exact (congrArg Prod.fst ran').trans (congrArg Prod.fst ran).symm
  have alongside := files.alongside leads
  have shown : (tree.without gone).contents hall = tree.contents hall := by
    rw [FileTree.contents_without, List.filter_eq_self]
    exact fun shown _ => decide_eq_true (drafts.not_mem_of_length (by simp))
  rw [FileStore.stats, run_walk, Concurs, Program.run_step, Program.run_step, FileTree.perform,
    FileTree.perform, alongside.kindOf]
  rcases tree.kindOf actor store.objects with e | ⟨⟩ | ⟨⟩ | ⟨⟩
  · exact Concurs.done _
  · exact Concurs.done _
  · dsimp only
    rw [Program.run_step, Program.run_step, FileTree.perform, FileTree.perform]
    rcases alongside.listDirectory with ⟨e, failed, failed'⟩ | ⟨shows, shows'⟩
    · rw [failed, failed']
      exact Concurs.done _
    · rw [shows, shows', List.append_nil, shown]
      exact concurs_visitDirectories files drafts distinct leads
        (fun _ => distinct.directory_of_contents) _
  · exact Concurs.done _

/-! ### Single objects -/

/-- The path of an object leads to the same if neither its directory nor its file is a link. -/
theorem alongside_object_without
    (leads : FileTree.Leads tree actor FileTree.maxLinks [] store.objects.components hall)
    (straight : ∀ target, tree.get? (hall ++ [directoryName address]) ≠ some (.link target))
    (straight' : ∀ target,
      tree.get? (hall ++ [directoryName address, fileName address]) ≠ some (.link target)) :
    FileTree.Alongside tree (tree.without gone) actor (store.objectPath address) hall
      [directoryName address, fileName address] := by
  have whole {below : List FileName} (more : below ≠ [])
      (inside : below <+: [directoryName address, fileName address]) :
      below = [directoryName address] ∨ below = [directoryName address, fileName address] := by
    rcases List.prefix_cons_iff.mp inside with rfl | ⟨rest, rfl, behind⟩
    · exact absurd rfl more
    · rcases List.prefix_cons_iff.mp behind with rfl | ⟨last, rfl, end_⟩
      · exact .inl rfl
      · rw [List.prefix_nil.mp end_]
        exact .inr rfl
  have kept : hall ++ [directoryName address, fileName address] ∉ gone := by
    rw [List.append_cons]
    exact drafts.not_mem_of_permanent (isTemporary_fileName address)
  refine files.alongside_names (components_objectPath store address) leads
    (fun below more inside => ?_) fun below more inside => ?_
  · rcases whole more inside with rfl | rfl
    · exact drafts.not_mem_of_length (by simp)
    · exact kept
  · rcases whole more inside with rfl | rfl
    · exact straight
    · exact straight'

omit drafts

/-- An object exists as before unless its path led to one of the files. -/
theorem perform_exists_without
    (apart : ∀ place entry, tree.stat actor true (store.objectPath address) = .ok (place, entry) →
      place ∉ gone) :
    (store.perform actor now (.exists_ address) (tree.without gone)).1 =
      (store.perform actor now (.exists_ address) tree).1 := by
  rcases files.stat_without with same | ⟨place, member, entry, found, -⟩ | ⟨failed, failed'⟩
  · exact perform_exists_congr (by rw [FileTree.exists_, same, FileTree.exists_])
  · exact absurd member (apart place entry found)
  · rw [perform, perform, program_exists_eq, Program.run_step, Program.run_step, FileTree.perform,
      FileTree.perform, FileTree.exists_, FileTree.exists_, failed, failed']
    rfl

/-- It is fetched as before too, but where its path went on behind one of the files, it is
now not found. -/
theorem perform_get_without
    (apart : ∀ place entry, tree.stat actor true (store.objectPath address) = .ok (place, entry) →
      place ∉ gone) :
    (store.perform actor now (.get address) (tree.without gone)).1 =
        (store.perform actor now (.get address) tree).1 ∨
      ((store.perform actor now (.get address) tree).1 = .error (.io (.os .notDirectory)) ∧
        (store.perform actor now (.get address) (tree.without gone)).1 =
          .error (.notFound address)) := by
  rcases files.stat_without with same | ⟨place, member, entry, found, -⟩ | ⟨failed, failed'⟩
  · exact .inl (perform_get_congr (by rw [FileTree.contentOf, same, FileTree.contentOf]))
  · exact absurd member (apart place entry found)
  · right
    constructor
    · change ((store.get address).run.run (FileTree.perform actor now) tree).1 = _
      rw [run_get_eq, Program.run_step, FileTree.perform, FileTree.contentOf, failed]
      rfl
    · change ((store.get address).run.run (FileTree.perform actor now) _).1 = _
      rw [run_get_eq, Program.run_step, FileTree.perform, FileTree.contentOf, failed']
      rfl

end ContentNode.FileStore
