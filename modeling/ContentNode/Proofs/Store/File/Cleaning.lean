import ContentNode.Proofs.FileSystem.Thinned
import ContentNode.Proofs.Store.File.Swept

/-!
# What a sweep removes

A sweep that comes to its end has removed just the temporary files that are old.  Another one
at the same time looks at the same files and finds none to remove.
-/

namespace ContentNode.FileStore

open FileSystem

variable {store : FileStore} {actor : Actor} {now : Instant} {hall place : Location}
  {tree middle after : FileTree} {parent directory : FilePath} {folder name : FileName}
  {sweep swept again : Sweep} {entries : List (FileName × FileType)} {gone : List Location}
  {which more : Location → Prop}

/-! ### What has been removed -/

/-- A temporary file of a name is in a directory, and it is old. -/
def Outdated (now : Instant) (tree : FileTree) (place : Location) (name : FileName) : Prop :=
  isTemporary name = true ∧ ∃ content modified mode,
    tree.get? (place ++ [name]) = some (.file content modified mode) ∧ staleAge ≤ age now modified

/-- The files at just those places that have a property were removed and counted. -/
def Removed (which : Location → Prop) (tree after : FileTree) (sweep swept : Sweep) : Prop :=
  ∃ gone, tree.HoldsFiles gone ∧ gone.Nodup ∧ (∀ place, place ∈ gone ↔ which place) ∧
    after = tree.without gone ∧ swept.removed = sweep.removed + gone.length

namespace Removed

theorem none (nowhere : ∀ place, ¬ which place) (same : swept.removed = sweep.removed) :
    Removed which tree tree sweep swept := by
  refine ⟨[], nofun, List.nodup_nil, fun place => ?_, tree.without_nil.symm, same⟩
  exact iff_of_false List.not_mem_nil (nowhere place)

theorem one {content : ByteArray} {modified : Instant} {mode : Nat}
    (there : tree.get? place = some (.file content modified mode))
    (only : ∀ other, which other ↔ other = place) (counted : swept.removed = sweep.removed + 1) :
    Removed which tree (tree.erase place) sweep swept := by
  refine ⟨[place], ?_, List.nodup_singleton place, fun other => ?_, ?_, counted⟩
  · intro other member
    rw [List.mem_singleton.mp member]
    exact ⟨_, _, _, there⟩
  · rw [List.mem_singleton, only]
  · rw [FileTree.without_cons, FileTree.without_nil]

theorem congr (removed : Removed which tree after sweep swept)
    (same : ∀ place, which place ↔ more place) : Removed more tree after sweep swept := by
  obtain ⟨gone, files, nodup, places, rest⟩ := removed
  exact ⟨gone, files, nodup, fun place => (places place).trans (same place), rest⟩

/-- What was removed after other files were removed had been there before. -/
theorem trans (first : Removed which tree middle sweep swept)
    (second : Removed more middle after swept again) :
    Removed (fun place => which place ∨ more place) tree after sweep again := by
  obtain ⟨gone, files, nodup, places, rfl, counted⟩ := first
  obtain ⟨gone', files', nodup', places', rfl, counted'⟩ := second
  have apart : ∀ place ∈ gone', place ∉ gone := by
    intro place member' member
    obtain ⟨content, modified, mode, there⟩ := files' place member'
    cases (files.get?_of_mem member).symm.trans there
  refine ⟨gone ++ gone', ?_, ?_, fun place => ?_, (tree.without_append gone gone').symm, ?_⟩
  · intro place member
    rcases List.mem_append.mp member with before | later
    · exact files place before
    · obtain ⟨content, modified, mode, there⟩ := files' place later
      rw [files.get?_of_not_mem (apart place later)] at there
      exact ⟨_, _, _, there⟩
  · rw [List.nodup_append]
    refine ⟨nodup, nodup', ?_⟩
    rintro place member other member' rfl
    exact apart place member' member
  · rw [List.mem_append, places, places']
  · rw [List.length_append, counted', counted, Nat.add_assoc]

end Removed

/-- What else was removed does not matter for a file. -/
theorem outdated_without (files : tree.HoldsFiles gone) (kept : place ++ [name] ∉ gone) :
    Outdated now (tree.without gone) place name ↔ Outdated now tree place name := by
  unfold Outdated
  rw [files.get?_of_not_mem kept]

theorem Outdated.listed (distinct : tree.Distinct) (outdated : Outdated now tree place name) :
    (name, .file) ∈ tree.contents place := by
  obtain ⟨-, content, modified, mode, there, -⟩ := outdated
  exact List.mem_map.mpr ⟨_, distinct.mem_children_iff.mpr there, rfl⟩

/-! ### One directory -/

/-- A file that was swept is gone if it is temporary and old; one that is temporary was looked
at. -/
theorem removed_sweepFile {content : ByteArray} {modified : Instant} {mode : Nat}
    (leads : FileTree.Leads tree actor FileTree.maxLinks [] directory.components place)
    (there : tree.get? (place ++ [name]) = some (.file content modified mode))
    (ran : (sweepFile now sweep (directory.child name) name).run.run (FileTree.perform actor now)
      tree = (.ok swept, after)) :
    Removed (fun other => other = place ++ [name] ∧ Outdated now tree place name) tree after sweep
        swept ∧
      (isTemporary name = true →
        ∃ info, tree.metadata actor now (directory.child name) = .ok info) := by
  cases temporary : isTemporary name with
  | false =>
      rw [run_sweepFile_of_permanent now sweep _ temporary] at ran
      cases ran
      refine ⟨.none ?_ rfl, nofun⟩
      rintro _ ⟨-, marked, -⟩
      cases temporary.symm.trans marked
  | true =>
      rw [run_sweepFile_of_temporary now sweep _ temporary, Program.run_step,
        FileTree.perform] at ran
      cases told : tree.metadata actor now (directory.child name) with
      | error e =>
          rw [told] at ran
          cases ran
      | ok info =>
          obtain ⟨found, rfl⟩ := FileTree.metadata_child_eq_ok leads there told
          rw [told] at ran
          dsimp only at ran
          refine ⟨?_, fun _ => ⟨_, rfl⟩⟩
          split at ran
          · next young =>
            cases ran
            refine .none ?_ rfl
            rintro _ ⟨-, -, _, _, _, there', old⟩
            cases there.symm.trans there'
            exact absurd young (Int.not_lt.mpr old)
          · next old =>
            rw [Program.run_step, FileTree.perform] at ran
            cases removing : tree.remove actor (directory.child name) with
            | error e =>
                rw [removing, FileTree.change] at ran
                dsimp only at ran
                split at ran
                · next missing =>
                  subst missing
                  exact absurd removing (FileTree.remove_ne_noEntry found)
                · cases ran
            | ok less =>
                rw [removing, FileTree.change] at ran
                cases ran
                obtain rfl := FileTree.remove_child_eq_ok leads removing
                refine .one there (fun other => and_iff_left ?_) rfl
                exact ⟨temporary, _, _, _, there, Int.not_lt.mp old⟩

/-- Of the files of a listing those that are temporary and old are gone. -/
theorem removed_visitFiles
    (leads : FileTree.Leads tree actor FileTree.maxLinks [] directory.components place)
    (nodup : (entries.map Prod.fst).Nodup)
    (listed : ∀ name, (name, .file) ∈ entries → ∃ content modified mode,
      tree.get? (place ++ [name]) = some (.file content modified mode))
    (ran : (visitFiles (sweepFile now) directory entries sweep).run.run
      (FileTree.perform actor now) tree = (.ok swept, after)) :
    Removed (fun other => ∃ name, (name, .file) ∈ entries ∧ other = place ++ [name] ∧
        Outdated now tree place name) tree after sweep swept ∧
      ∀ name, (name, .file) ∈ entries → isTemporary name = true →
        ∃ info, tree.metadata actor now (directory.child name) = .ok info := by
  induction entries generalizing tree sweep with
  | nil =>
      cases ran
      exact ⟨.none (by simp) rfl, nofun⟩
  | cons first rest ih =>
      obtain ⟨name, kind⟩ := first
      rw [List.map_cons, List.nodup_cons] at nodup
      have later (other : FileName) (member : (other, FileType.file) ∈ rest) :=
        listed other (List.mem_cons_of_mem _ member)
      cases kind with
      | directory | link =>
          obtain ⟨removed, looked⟩ := ih leads nodup.2 later ran
          exact ⟨removed.congr (by simp), by simpa using looked⟩
      | file =>
          rw [run_visitFiles_file, Program.run_bind] at ran
          obtain ⟨content, modified, mode, there⟩ := listed name List.mem_cons_self
          rcases one : (sweepFile now sweep (directory.child name) name).run.run
            (FileTree.perform actor now) tree with ⟨outcome, middle⟩
          rw [one] at ran
          cases outcome with
          | error e => cases ran
          | ok between =>
              obtain ⟨removed, looked⟩ := removed_sweepFile leads there one
              obtain ⟨gone, files, -, places, rfl, -⟩ := id removed
              have kept (other : FileName) (member : (other, FileType.file) ∈ rest) :
                  place ++ [other] ∉ gone := by
                rw [places]
                rintro ⟨same, -⟩
                obtain rfl : other = name := by simpa using same
                exact nodup.1 (List.mem_map_of_mem (f := Prod.fst) member)
              obtain ⟨removed', looked'⟩ := ih (files.keeps.leads leads) nodup.2
                (fun other member => by
                  rw [files.get?_of_not_mem (kept other member)]
                  exact later other member) ran
              refine ⟨(removed.trans removed').congr fun other => ?_, ?_⟩
              · constructor
                · rintro (⟨rfl, outdated⟩ | ⟨last, member, rfl, outdated⟩)
                  · exact ⟨name, List.mem_cons_self, rfl, outdated⟩
                  · exact ⟨last, List.mem_cons_of_mem _ member, rfl,
                      (outdated_without files (kept last member)).mp outdated⟩
                · rintro ⟨last, member, rfl, outdated⟩
                  rcases List.mem_cons.mp member with same | later
                  · cases same
                    exact .inl ⟨rfl, outdated⟩
                  · exact .inr ⟨last, later, rfl,
                      (outdated_without files (kept last later)).mpr outdated⟩
              · intro last member temporary
                rcases List.mem_cons.mp member with same | member
                · cases same
                  exact looked temporary
                · rw [← (files.alongside_child leads (kept last member) ?_).metadata (by simp)]
                  · exact looked' last member temporary
                  · obtain ⟨content, modified, mode, there⟩ := later last member
                    simp [there]

/-! ### All directories -/

/-- A directory was listed and the temporary files in it were looked at. -/
structure Inspected (actor : Actor) (now : Instant) (tree : FileTree) (parent : FilePath)
    (hall : Location) (folder : FileName) : Prop where
  listed : ∃ shown, tree.listDirectory actor (parent.child folder) = .ok shown
  looked : ∀ name, (name, .file) ∈ tree.contents (hall ++ [folder]) → isTemporary name = true →
    ∃ info, tree.metadata actor now ((parent.child folder).child name) = .ok info

namespace Inspected

variable (files : tree.HoldsFiles gone)
  (leads : FileTree.Leads tree actor FileTree.maxLinks [] parent.components hall)
  (there : ∃ mode, tree.get? (hall ++ [folder]) = some (.directory mode))

include files leads there

/-- Listing a directory does not depend on the files. -/
private theorem listed_iff :
    (∃ shown, (tree.without gone).listDirectory actor (parent.child folder) = .ok shown) ↔
      ∃ shown, tree.listDirectory actor (parent.child folder) = .ok shown := by
  obtain ⟨mode, there⟩ := there
  have alongside := files.alongside_child leads (files.not_mem there (by simp [Entry.type]))
    (by simp [there])
  rcases alongside.listDirectory with ⟨e, failed, failed'⟩ | ⟨shows, shows'⟩
  · simp [failed, failed']
  · simp [shows, shows']

/-- Nor does looking at a file that is left. -/
private theorem metadata_eq (distinct : tree.Distinct)
    (listed : ∃ shown, tree.listDirectory actor (parent.child folder) = .ok shown)
    (member : (name, .file) ∈ tree.contents (hall ++ [folder]))
    (kept : hall ++ [folder] ++ [name] ∉ gone) :
    (tree.without gone).metadata actor now ((parent.child folder).child name) =
      tree.metadata actor now ((parent.child folder).child name) := by
  obtain ⟨shown, listed⟩ := listed
  obtain ⟨mode, there⟩ := there
  obtain ⟨leads', -⟩ := FileTree.listDirectory_child_eq_ok leads (by simp [there]) listed
  obtain ⟨content, modified, mode', file⟩ := distinct.file_of_contents member
  refine (files.alongside_child leads' kept fun target linked => ?_).metadata (by simp)
  cases file.symm.trans linked

/-- What was inspected can be inspected again when files are gone. -/
theorem without (distinct : tree.Distinct)
    (inspected : Inspected actor now tree parent hall folder) :
    Inspected actor now (tree.without gone) parent hall folder := by
  refine ⟨(listed_iff files leads there).mpr inspected.listed, fun name member temporary => ?_⟩
  obtain ⟨member, kept⟩ := FileTree.mem_contents_without.mp member
  rw [metadata_eq files leads there distinct inspected.listed member kept]
  exact inspected.looked name member temporary

/-- Files that are gone from elsewhere do not matter. -/
theorem of_without (distinct : tree.Distinct)
    (apart : ∀ name, hall ++ [folder] ++ [name] ∉ gone)
    (inspected : Inspected actor now (tree.without gone) parent hall folder) :
    Inspected actor now tree parent hall folder := by
  have listed := (listed_iff files leads there).mp inspected.listed
  refine ⟨listed, fun name member temporary => ?_⟩
  rw [← metadata_eq files leads there distinct listed member (apart name)]
  exact inspected.looked name (FileTree.mem_contents_without.mpr ⟨member, apart name⟩) temporary

end Inspected

/-- Of the files in the directories of a listing those that are temporary and old are gone. -/
theorem removed_visitDirectories (distinct : tree.Distinct)
    (leads : FileTree.Leads tree actor FileTree.maxLinks [] parent.components hall)
    (nodup : (entries.map Prod.fst).Nodup)
    (listed : ∀ folder, (folder, .directory) ∈ entries →
      ∃ mode, tree.get? (hall ++ [folder]) = some (.directory mode))
    (ran : (visitDirectories (sweepFile now) parent entries sweep).run.run
      (FileTree.perform actor now) tree = (.ok swept, after)) :
    Removed (fun place => ∃ folder name, (folder, .directory) ∈ entries ∧
        place = hall ++ [folder] ++ [name] ∧ Outdated now tree (hall ++ [folder]) name)
        tree after sweep swept ∧
      ∀ folder, (folder, .directory) ∈ entries → Inspected actor now tree parent hall folder := by
  induction entries generalizing tree sweep with
  | nil =>
      cases ran
      exact ⟨.none (by simp) rfl, nofun⟩
  | cons first rest ih =>
      obtain ⟨folder, kind⟩ := first
      rw [List.map_cons, List.nodup_cons] at nodup
      have later (other : FileName) (member : (other, FileType.directory) ∈ rest) :=
        listed other (List.mem_cons_of_mem _ member)
      cases kind with
      | file | link =>
          obtain ⟨removed, inspected⟩ := ih distinct leads nodup.2 later ran
          exact ⟨removed.congr (by simp), by simpa using inspected⟩
      | directory =>
          rw [run_visitDirectories_directory, Program.run_step, FileTree.perform] at ran
          obtain ⟨mode, there⟩ := listed folder List.mem_cons_self
          cases listing : tree.listDirectory actor (parent.child folder) with
          | error e =>
              rw [listing] at ran
              cases ran
          | ok shown =>
              obtain ⟨leads', rfl⟩ :=
                FileTree.listDirectory_child_eq_ok leads (by simp [there]) listing
              rw [listing] at ran
              dsimp only at ran
              rw [Program.run_bind] at ran
              rcases one : (visitFiles (sweepFile now) (parent.child folder)
                (tree.contents (hall ++ [folder])) sweep).run.run (FileTree.perform actor now)
                tree with ⟨outcome, middle⟩
              rw [one] at ran
              cases outcome with
              | error e => cases ran
              | ok between =>
                  obtain ⟨removed, looked⟩ := removed_visitFiles leads'
                    (nodup_listed distinct _) (fun _ => distinct.file_of_contents) one
                  obtain ⟨gone, files, -, places, rfl, -⟩ := id removed
                  have apart (other : FileName) (member : (other, FileType.directory) ∈ rest)
                      (name : FileName) : hall ++ [other] ++ [name] ∉ gone := by
                    rw [places]
                    rintro ⟨_, -, same, -⟩
                    obtain ⟨rfl, -⟩ : other = folder ∧ _ := by simpa using same
                    exact nodup.1 (List.mem_map_of_mem (f := Prod.fst) member)
                  obtain ⟨removed', inspected⟩ := ih (distinct.without gone)
                    (files.keeps.leads leads) nodup.2 (fun other member => by
                      obtain ⟨mode, standing⟩ := later other member
                      exact ⟨mode, files.keeps _ _ (by simp [Entry.type]) standing⟩) ran
                  refine ⟨(removed.trans removed').congr fun place => ?_, ?_⟩
                  · constructor
                    · rintro (⟨name, -, rfl, outdated⟩ | ⟨last, name, member, rfl, outdated⟩)
                      · exact ⟨folder, name, List.mem_cons_self, rfl, outdated⟩
                      · exact ⟨last, name, List.mem_cons_of_mem _ member, rfl,
                          (outdated_without files (apart last member name)).mp outdated⟩
                    · rintro ⟨last, name, member, rfl, outdated⟩
                      rcases List.mem_cons.mp member with same | member
                      · cases same
                        exact .inl ⟨name, outdated.listed distinct, rfl, outdated⟩
                      · exact .inr ⟨last, name, member, rfl,
                          (outdated_without files (apart last member name)).mpr outdated⟩
                  · intro other member
                    rcases List.mem_cons.mp member with same | member
                    · cases same
                      exact ⟨⟨_, listing⟩, looked⟩
                    · exact (inspected other member).of_without files leads (later other member)
                        distinct (apart other member)

/-! ### Sweeping again -/

/-- Files that were looked at and are not old stay where they are. -/
theorem run_visitFiles_of_recent
    (leads : FileTree.Leads tree actor FileTree.maxLinks [] directory.components place)
    (listed : ∀ name, (name, .file) ∈ entries → ∃ content modified mode,
      tree.get? (place ++ [name]) = some (.file content modified mode))
    (looked : ∀ name, (name, .file) ∈ entries → isTemporary name = true →
      ∃ info, tree.metadata actor now (directory.child name) = .ok info)
    (recent : ∀ name, (name, .file) ∈ entries → ¬ Outdated now tree place name) (sweep : Sweep) :
    ∃ swept, (visitFiles (sweepFile now) directory entries sweep).run.run
      (FileTree.perform actor now) tree = (.ok swept, tree) ∧ swept.removed = sweep.removed := by
  induction entries generalizing sweep with
  | nil => exact ⟨sweep, rfl, rfl⟩
  | cons first rest ih =>
      obtain ⟨name, kind⟩ := first
      have next := ih (fun other member => listed other (List.mem_cons_of_mem _ member))
        (fun other member => looked other (List.mem_cons_of_mem _ member))
        fun other member => recent other (List.mem_cons_of_mem _ member)
      cases kind with
      | directory | link => exact next sweep
      | file =>
          rw [run_visitFiles_file]
          cases temporary : isTemporary name with
          | false =>
              rw [run_sweepFile_of_permanent now sweep _ temporary]
              exact next sweep
          | true =>
              obtain ⟨content, modified, mode, there⟩ := listed name List.mem_cons_self
              obtain ⟨info, told⟩ := looked name List.mem_cons_self temporary
              obtain ⟨-, rfl⟩ := FileTree.metadata_child_eq_ok leads there told
              have young : age now modified < staleAge := Int.not_le.mp fun old =>
                recent name List.mem_cons_self ⟨temporary, _, _, _, there, old⟩
              rw [run_sweepFile_of_temporary now sweep _ temporary, Program.bind_step,
                run_of_performed (by rw [FileTree.perform, told])]
              simp only [if_pos young]
              exact next _

/-- Directories that were inspected and have no old files stay as they are. -/
theorem run_visitDirectories_of_recent (distinct : tree.Distinct)
    (leads : FileTree.Leads tree actor FileTree.maxLinks [] parent.components hall)
    (listed : ∀ folder, (folder, .directory) ∈ entries →
      ∃ mode, tree.get? (hall ++ [folder]) = some (.directory mode))
    (inspected : ∀ folder, (folder, .directory) ∈ entries →
      Inspected actor now tree parent hall folder)
    (recent : ∀ folder, (folder, .directory) ∈ entries → ∀ name,
      ¬ Outdated now tree (hall ++ [folder]) name) (sweep : Sweep) :
    ∃ swept, (visitDirectories (sweepFile now) parent entries sweep).run.run
      (FileTree.perform actor now) tree = (.ok swept, tree) ∧ swept.removed = sweep.removed := by
  induction entries generalizing sweep with
  | nil => exact ⟨sweep, rfl, rfl⟩
  | cons first rest ih =>
      obtain ⟨folder, kind⟩ := first
      have next := ih (fun other member => listed other (List.mem_cons_of_mem _ member))
        (fun other member => inspected other (List.mem_cons_of_mem _ member))
        fun other member => recent other (List.mem_cons_of_mem _ member)
      cases kind with
      | file | link => exact next sweep
      | directory =>
          obtain ⟨mode, there⟩ := listed folder List.mem_cons_self
          obtain ⟨⟨shown, listing⟩, looked⟩ := inspected folder List.mem_cons_self
          obtain ⟨leads', rfl⟩ :=
            FileTree.listDirectory_child_eq_ok leads (by simp [there]) listing
          obtain ⟨between, ran, same⟩ := run_visitFiles_of_recent leads'
            (fun _ => distinct.file_of_contents) looked
            (fun name _ => recent folder List.mem_cons_self name) sweep
          obtain ⟨swept, ran', same'⟩ := next between
          refine ⟨swept, ?_, same'.trans same⟩
          rw [run_visitDirectories_directory, run_of_performed (by rw [FileTree.perform, listing])]
          dsimp only
          rw [Program.run_bind, ran]
          exact ran'

end ContentNode.FileStore
