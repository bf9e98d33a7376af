import ContentNode.Proofs.Store.File.Faults

/-!
# What storing comes to

The tree that one who stores an object alone leaves behind.  The temporary file comes and goes,
so all that remains of it is the record under the name of the object, unless that name was taken.
-/

namespace ContentNode.FileStore

open FileSystem

variable {store : FileStore} {actor : Actor} {now modified : Instant} {address : Address}
  {place : Location} {tree after : FileTree} {record : ByteArray} {number mode : Nat}

/-- A program goes on with the answer to its first operation. -/
theorem run_of_performed {α : Type} {op : Operation} {next : op.Answer → FileProgram α}
    {answer : op.Answer} {after : FileTree}
    (performed : tree.perform actor now op = (answer, after)) :
    (Program.step op next).run (FileTree.perform actor now) tree =
      (next answer).run (FileTree.perform actor now) after := by
  rw [Program.run_step, performed]

/-- A file is put under a name in a directory unless the name is taken.  The directory cannot be
made durable by those who may not read it. -/
def install (actor : Actor) (place : Location) (name : FileName) (file : Entry)
    (tree : FileTree) : Except StoreError PutOutcome × FileTree :=
  match tree.get? (place ++ [name]) with
  | some _ => (.ok .alreadyPresent, tree)
  | none =>
    (if tree.mayUse actor .read place then .ok .created else .error (.io (.os .accessDenied)),
      tree.insert (place ++ [name]) file)

/-- A temporary file is not at the place of an object. -/
theorem draftPlace_ne (place : Location) (number : Nat) (address : Address) :
    place ++ [fileName address] ≠ draftPlace place number := by
  intro same
  have names : fileName address = FileTree.temporaryName number := by
    simpa [draftPlace] using same
  have temporary := isTemporary_temporaryName number
  rw [← names, isTemporary_fileName] at temporary
  cases temporary

namespace Site

/-- There is a directory at a site. -/
theorem directory (site : store.Site actor address tree place) :
    ∃ mode, tree.get? place = some (.directory mode) := by
  obtain ⟨mode, there, -⟩ := site.open_
  exact ⟨mode, there⟩

section Full

variable (site : store.Site actor address tree place)

include site

/-- A record that is appended as a whole is in the file. -/
theorem run_fill (now : Instant)
    (begun : tree.get? (draftPlace place number) = some (.file ByteArray.empty modified mode))
    (something : record.isEmpty = false) :
    (fill (store.draftPath address number) record).run.run (FileTree.perform actor now) tree =
      (.ok (), tree.insert (draftPlace place number) (.file record now mode)) := by
  have appended : tree.perform actor now (.append (store.draftPath address number) record) =
      (.ok record.size, tree.insert (draftPlace place number) (.file record now mode)) := by
    rw [FileTree.perform, draftPath, FileTree.appendTo_child (site.slot number) begun,
      ByteArray.empty_append, draftPlace]
  have size : record.size ≠ 0 := by simpa [ByteArray.isEmpty] using something
  obtain ⟨fuel, more⟩ := Nat.exists_eq_succ_of_ne_zero size
  have rest : (record.extract record.size record.size).isEmpty = true := by
    simp [ByteArray.isEmpty]
  have all : (appendAll (store.draftPath address number) record.size record).run.run
      (FileTree.perform actor now) tree =
        (.ok (), tree.insert (draftPlace place number) (.file record now mode)) := by
    rw [more, run_appendAll _ _ something, run_of_performed appended]
    simp only [if_neg size, run_appendAll_of_isEmpty _ _ rest]
    rfl
  rw [FileStore.run_fill, Program.run_bind, all]
  rfl

/-- The directory of an object is made durable by those who may read it. -/
theorem perform_syncDirectory (now : Instant) :
    tree.perform actor now (.syncDirectory (store.directory address)) =
      (if tree.mayUse actor .read place then .ok () else .error (.os .accessDenied), tree) := by
  obtain ⟨mode, there, -⟩ := site.open_
  have found : tree.stat actor true (store.directory address) =
      .ok (place, .directory mode) :=
    FileTree.stat_of_leads (site.slot 0).reaches.fits
      (store.objects.display_child_ne_empty (plain_directoryName address).1) site.leads there
  rw [FileTree.perform, FileTree.openDirectory_of_stat found]
  cases tree.mayUse actor .read place <;> rfl

/-- A temporary file is given up. -/
theorem perform_discard (now : Instant)
    (there : tree.get? (draftPlace place number) = some (.file record modified mode)) :
    tree.perform actor now (.discard (store.draftPath address number)) =
      ((), tree.erase (draftPlace place number)) := by
  rw [FileTree.perform, draftPath, FileTree.remove_child (site.slot number) there site.writable]
  rfl

/-- The content of a temporary file is given the name of the object unless the name is taken. -/
theorem link_draft (full : tree.get? (draftPlace place number) = some (.file record modified mode)) :
    tree.link actor (store.draftPath address number) (store.objectPath address) =
      match tree.get? (place ++ [fileName address]) with
      | some _ => .error (.os .exists_)
      | none => .ok (tree.insert (place ++ [fileName address]) (.file record modified mode)) := by
  rw [FileTree.link, draftPath, (site.slot number).stat_of_some full (by simp), site.resolve,
    FileTree.lookup]
  simp only [bind, Except.bind]
  cases tree.get? (place ++ [fileName address]) with
  | some entry => rfl
  | none =>
      simp only [site.writable, if_true]
      rfl

/-- A full temporary file is given up, and its content is in the file of the object. -/
theorem run_publish (now : Instant)
    (full : tree.get? (draftPlace place number) = some (.file record modified mode)) :
    (publish (store.draftPath address number) (store.objectPath address)
        (store.directory address)).run.run (FileTree.perform actor now) tree =
      ((install actor place (fileName address) (.file record modified mode) tree).1,
        (install actor place (fileName address) (.file record modified mode) tree).2.erase
          (draftPlace place number)) := by
  rw [FileStore.run_publish, Program.run_step, FileTree.perform, site.link_draft full,
    install]
  cases taken : tree.get? (place ++ [fileName address]) with
  | some entry =>
      simp only [FileTree.change]
      rw [run_of_performed (site.perform_discard now full)]
      rfl
  | none =>
      have changed : tree.Changed (tree.insert (place ++ [fileName address])
          (.file record modified mode)) (place ++ [fileName address])
          (some (.file record modified mode)) := tree.changed_insert (by simp) _
      have kept : tree.Keeps (tree.insert (place ++ [fileName address])
          (.file record modified mode)) := by
        apply FileTree.Keeps.changed changed
        intro old there
        cases taken.symm.trans there
      have still : (tree.insert (place ++ [fileName address]) (.file record modified mode)).get?
          (draftPlace place number) = some (.file record modified mode) := by
        rw [changed.get?_of_ne (draftPlace_ne place number address).symm, full]
      have keptLess : tree.Keeps ((tree.insert (place ++ [fileName address])
          (.file record modified mode)).erase (draftPlace place number)) := by
        refine kept.trans (.changed (FileTree.changed_erase _ draftPlace_ne_nil) fun old there => ?_)
        cases still.symm.trans there
        rfl
      simp only [FileTree.change]
      rw [run_of_performed ((site.keeps kept).perform_discard now still),
        run_of_performed ((site.keeps keptLess).perform_syncDirectory now),
        keptLess.mayUse site.directory]
      cases tree.mayUse actor .read place <;> rfl

end Full

/-- What remains of a new temporary file is the record in the file of the object. -/
theorem run_deliver (site : store.Site actor address tree place) (now : Instant)
    (free : tree.get? (draftPlace place number) = none) (something : record.isEmpty = false) :
    (store.deliver address (store.draftPath address number) record).run
        (FileTree.perform actor now)
        { tree.insert (draftPlace place number) (.file ByteArray.empty now Entry.temporaryMode) with
          temporaries := number + 1 } =
      ((install actor place (fileName address) (.file record now Entry.temporaryMode) tree).1,
        { (install actor place (fileName address) (.file record now Entry.temporaryMode) tree).2 with
          temporaries := number + 1 }) := by
  have changed (file : Entry) : tree.Changed
      { tree.insert (draftPlace place number) file with temporaries := number + 1 }
      (draftPlace place number) (some file) := tree.changed_insert draftPlace_ne_nil file
  have kept (file : Entry) : tree.Keeps
      { tree.insert (draftPlace place number) file with temporaries := number + 1 } := by
    apply FileTree.Keeps.changed (changed file)
    intro old there
    cases free.symm.trans there
  rw [deliver, Program.run_bind, (site.keeps (kept _)).run_fill now (changed _).get?_self something,
    FileTree.insert_counted (tree.insert (draftPlace place number) _), FileTree.insert_insert]
  dsimp only
  rw [(site.keeps (kept _)).run_publish now (changed _).get?_self, install, install,
    (changed _).get?_of_ne (draftPlace_ne place number address), (kept _).mayUse site.directory]
  cases tree.get? (place ++ [fileName address]) with
  | some entry =>
      have back := tree.erase_insert_self (draftPlace place number)
        (.file record now Entry.temporaryMode)
      rw [FileTree.erase_of_free draftPlace_ne_nil free] at back
      exact Prod.ext rfl (congrArg (fun tree : FileTree => (⟨tree.entries, number + 1⟩ : FileTree))
        back)
  | none =>
      have back := (tree.insert (draftPlace place number)
        (.file record now Entry.temporaryMode)).erase_insert_of_ne
          (.file record now Entry.temporaryMode) (draftPlace_ne place number address)
      rw [tree.erase_insert_self, FileTree.erase_of_free draftPlace_ne_nil free] at back
      have counted := FileTree.insert_counted (tree.insert (draftPlace place number)
        (.file record now Entry.temporaryMode)) (place ++ [fileName address])
        (.file record now Entry.temporaryMode) (number + 1)
      refine Prod.ext rfl ((congrArg (FileTree.erase (draftPlace place number)) counted).trans ?_)
      exact congrArg (fun tree : FileTree => (⟨tree.entries, number + 1⟩ : FileTree)) back

end Site

/-- So it is with every temporary file that was made in the directory of an object. -/
theorem run_deliver_of_created {file : FilePath} (fits : (store.objectPath address).Fits 0)
    (something : record.isEmpty = false)
    (made : tree.createTemporary actor now (store.directory address) = .ok (file, after)) :
    ∃ place mode, tree.stat actor true (store.directory address) = .ok (place, .directory mode) ∧
      (store.deliver address file record).run (FileTree.perform actor now) after =
        ((install actor place (fileName address) (.file record now Entry.temporaryMode) tree).1,
          { (install actor place (fileName address) (.file record now Entry.temporaryMode) tree).2
            with temporaries := after.temporaries }) := by
  obtain ⟨place, mode, number, leads, there, search, write, free, rfl, rfl⟩ :=
    FileTree.createTemporary_eq_ok made
  have site : store.Site actor address tree place := ⟨fits, leads, mode, there, search, write⟩
  refine ⟨place, mode, ?_, site.run_deliver now free something⟩
  exact FileTree.stat_of_leads (site.slot 0).reaches.fits
    (store.objects.display_child_ne_empty (plain_directoryName address).1) leads there

end ContentNode.FileStore
