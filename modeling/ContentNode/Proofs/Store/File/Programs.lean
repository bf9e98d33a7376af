import ContentNode.Store.File

/-!
# The programs of a store, step by step

Each program of a store that keeps objects in files as the operations that it asks
for, one after another, and what it does with their answers.
-/

namespace ContentNode.FileStore

open FileSystem

variable {α β : Type} {store : FileStore} {now : Instant} {address : Address}
  {payload bytes record : ByteArray} {file target directory : FilePath}

/-- What a program that can fail does after a program that went well. -/
def onward (next : α → Step β) : Except StoreError α → FileProgram (Except StoreError β)
  | .ok value => (next value).run
  | .error e => .done (.error e)

theorem run_bind_eq (first : Step α) (next : α → Step β) :
    (first >>= next).run = first.run.bind (onward next) := by
  apply Program.bind_congr
  intro outcome
  cases outcome <;> rfl

theorem run_ask_bind (program : FileProgram α) (next : α → Step β) :
    (ask program >>= next).run = program.bind fun answer => (next answer).run := by
  rw [run_bind_eq]
  exact Program.bind_assoc program _ _

theorem run_attempt_bind (program : FileProgram (Except IoError α)) (next : α → Step β) :
    (attempt program >>= next).run =
      program.bind fun answer => onward next (answer.mapError StoreError.io) := by
  rw [run_bind_eq]
  exact Program.bind_assoc program _ _

/-! ### Storing -/

/-- All bytes have been appended. -/
theorem run_appendAll_of_isEmpty (file : FilePath) (fuel : Nat) (nothing : bytes.isEmpty = true) :
    (appendAll file fuel bytes).run = .done (.ok ()) := by
  cases fuel with
  | zero => rfl
  | succ fuel =>
      rw [appendAll, if_pos nothing]
      rfl

/-- Some bytes are appended before the others. -/
theorem run_appendAll (file : FilePath) (fuel : Nat) (something : bytes.isEmpty = false) :
    (appendAll file (fuel + 1) bytes).run = .step (.append file bytes) fun
      | .ok taken =>
        if taken = 0 then .done (.error (.io (.other "failed to write whole buffer")))
        else (appendAll file fuel (bytes.extract taken bytes.size)).run
      | .error e => .done (.error (.io e)) := by
  rw [appendAll, if_neg (by simp [something]), run_attempt_bind]
  apply Program.step_congr
  intro answer
  rcases answer with e | taken
  · rfl
  · by_cases none : taken = 0
    · simp only [none, if_true]
      rfl
    · simp only [none, if_false]
      change (if taken = 0 then _ else _ : Step Unit).run = _
      rw [if_neg none]

/-- A record is appended and made durable. -/
theorem run_fill (file : FilePath) (record : ByteArray) :
    (fill file record).run = (appendAll file record.size record).run.bind fun
      | .ok () => .step (.sync file) fun
        | .ok () => .done (.ok ())
        | .error e => .done (.error (.io e))
      | .error e => .done (.error e) := by
  rw [fill, run_bind_eq]
  apply Program.bind_congr
  intro outcome
  rcases outcome with e | ⟨⟩
  · rfl
  · apply Program.step_congr
    intro answer
    rcases answer with e | ⟨⟩ <;> rfl

/-- A filled temporary file gets its final name, and loses the temporary one. -/
theorem run_publish (file target directory : FilePath) :
    (publish file target directory).run = .step (.link file target) fun
      | .ok () => .step (.discard file) fun _ => .step (.syncDirectory directory) fun
        | .ok () => .done (.ok .created)
        | .error e => .done (.error (.io e))
      | .error (.os .exists_) => .step (.discard file) fun _ => .done (.ok .alreadyPresent)
      | .error e => .step (.discard file) fun _ => .done (.error (.io e)) := by
  apply Program.step_congr
  intro answer
  rcases answer with e | ⟨⟩
  · rcases e with errno | _ | _ | _ | _
    · cases errno <;> rfl
    all_goals rfl
  · apply Program.step_congr
    intro _
    apply Program.step_congr
    intro answer
    rcases answer with e | ⟨⟩ <;> rfl

/-- A temporary file that was not filled is removed. -/
theorem run_discardAfter (file : FilePath) (e : StoreError) :
    (discardAfter file e : Step α).run = .step (.discard file) fun _ => .done (.error e) := rfl

/-- What becomes of a temporary file: it is filled and published, or it is discarded. -/
def deliver (store : FileStore) (address : Address) (file : FilePath) (record : ByteArray) :
    FileProgram (Except StoreError PutOutcome) :=
  (fill file record).run.bind fun
    | .ok () => (publish file (store.objectPath address) (store.directory address)).run
    | .error e => (discardAfter file e).run

/-- An object is looked for, then it gets a directory and a temporary file. -/
theorem run_put (store : FileStore) (now : Instant) (address : Address) (payload : ByteArray) :
    (store.put now address payload).run = .step (.exists_ (store.objectPath address)) fun
      | .ok true => .done (.ok .alreadyPresent)
      | .ok false => .step (.makeDirectories (store.directory address)) fun
        | .ok () =>
          match Record.encode now payload with
          | .ok record => .step (.createTemporary (store.directory address)) fun
            | .ok file => store.deliver address file record
            | .error e => .done (.error (.io e))
          | .error e => .done (.error e)
        | .error e => .done (.error (.io e))
      | .error e => .done (.error (.io e)) := by
  apply Program.step_congr
  intro answer
  rcases answer with e | ⟨⟩ | ⟨⟩
  · rfl
  · apply Program.step_congr
    intro answer
    rcases answer with e | ⟨⟩
    · rfl
    · change (ExceptT.mk (pure (Record.encode now payload)) >>= fun record => _ :
        Step PutOutcome).run = _
      rw [run_bind_eq]
      cases Record.encode now payload with
      | error e => rfl
      | ok record =>
          apply Program.step_congr
          intro answer
          rcases answer with e | file
          · rfl
          · change (ask (fill file record).run >>= fun outcome => _ : Step PutOutcome).run = _
            rw [run_ask_bind]
            apply Program.bind_congr
            intro outcome
            cases outcome <;> rfl
  · rfl

/-! ### Walking -/

variable {visit : α → FilePath → FileName → Step α} {value : α} {name : FileName}
  {rest : List (FileName × FileType)}

theorem run_visitFiles_file (visit : α → FilePath → FileName → Step α) (directory : FilePath)
    (name : FileName) (rest : List (FileName × FileType)) (value : α) :
    (visitFiles visit directory ((name, .file) :: rest) value).run =
      (visit value (directory.child name) name).run.bind
        (onward (visitFiles visit directory rest)) := by
  rw [visitFiles]
  exact run_bind_eq _ _

/-- Files that are passed over need not be listed. -/
theorem run_visitFiles_filter {keep : FileName → Bool}
    (skips : ∀ value path name, keep name = false →
      (visit value path name).run = .done (.ok value)) (directory : FilePath)
    (entries : List (FileName × FileType)) (value : α) :
    (visitFiles visit directory (entries.filter fun shown => keep shown.1) value).run =
      (visitFiles visit directory entries value).run := by
  induction entries generalizing value with
  | nil => rfl
  | cons first rest ih =>
      obtain ⟨name, kind⟩ := first
      cases kept : keep name with
      | false =>
          rw [List.filter_cons_of_neg (by simp [kept]), ih]
          cases kind with
          | file =>
              rw [run_visitFiles_file, skips value _ name kept]
              rfl
          | directory => rfl
          | link => rfl
      | true =>
          rw [List.filter_cons_of_pos (by simp [kept])]
          cases kind with
          | file =>
              rw [run_visitFiles_file, run_visitFiles_file]
              apply Program.bind_congr
              intro outcome
              cases outcome with
              | error e => rfl
              | ok value => exact ih value
          | directory => exact ih value
          | link => exact ih value

theorem run_visitDirectories_directory (visit : α → FilePath → FileName → Step α)
    (parent : FilePath) (name : FileName) (rest : List (FileName × FileType)) (value : α) :
    (visitDirectories visit parent ((name, .directory) :: rest) value).run =
      .step (.list (parent.child name)) fun
        | .ok entries => (visitFiles visit (parent.child name) entries value).run.bind
            (onward (visitDirectories visit parent rest))
        | .error e => .done (.error (.io e)) := by
  rw [visitDirectories, run_attempt_bind]
  apply Program.step_congr
  intro answer
  rcases answer with e | entries
  · rfl
  · exact run_bind_eq _ _

/-- The directory of all objects is listed, then each directory in it. -/
theorem run_walk (store : FileStore) (visit : α → FilePath → FileName → Step α) (value : α) :
    (store.walk visit value).run = .step (.kind store.objects) fun
      | .ok .directory => .step (.list store.objects) fun
        | .ok entries => (visitDirectories visit store.objects entries value).run
        | .error e => .done (.error (.io e))
      | .ok _ => .done (.ok value)
      | .error e => .done (.error (.io e)) := by
  rw [walk, run_attempt_bind]
  apply Program.step_congr
  intro answer
  rcases answer with e | kind
  · rfl
  · cases kind with
    | file => rfl
    | link => rfl
    | directory =>
        apply Program.step_congr
        intro answer
        rcases answer with e | entries <;> rfl

theorem run_count_of_temporary (stats : StoreStats) (path : FilePath)
    (temporary : isTemporary name = true) : (count stats path name).run = .done (.ok stats) := by
  rw [count, if_pos temporary]
  rfl

theorem run_count (stats : StoreStats) (path : FilePath) (permanent : isTemporary name = false) :
    (count stats path name).run = .step (.metadata path) fun
      | .ok info => .done (.ok ⟨stats.objects + 1,
          stats.totalBytes + (info.size - Record.overhead)⟩)
      | .error e => .done (.error (.io e)) := by
  rw [count, if_neg (by simp [permanent]), run_attempt_bind]
  apply Program.step_congr
  intro answer
  rcases answer with e | info <;> rfl

/-- What is not temporary is not swept away. -/
theorem run_sweepFile_of_permanent (now : Instant) (sweep : Sweep) (path : FilePath)
    (permanent : isTemporary name = false) :
    (sweepFile now sweep path name).run = .done (.ok sweep) := by
  rw [sweepFile, if_pos (by simp [permanent])]
  rfl

/-- A temporary file is looked at, then it is kept or removed.  It may be gone by then. -/
theorem run_sweepFile_of_temporary (now : Instant) (sweep : Sweep) (path : FilePath)
    (temporary : isTemporary name = true) :
    (sweepFile now sweep path name).run = .step (.metadata path) fun
      | .ok info =>
        if age now info.modified < staleAge then
          .done (.ok { sweep with kept := path :: sweep.kept })
        else .step (.remove path) fun
          | .ok () => .done (.ok { sweep with removed := sweep.removed + 1 })
          | .error e =>
            if e = .os .noEntry then .done (.ok sweep) else .done (.error (.io e))
      | .error e => .done (.error (.io e)) := by
  rw [sweepFile, if_neg (by simp [temporary]), run_attempt_bind]
  apply Program.step_congr
  intro answer
  rcases answer with e | info
  · rfl
  · change (ite (age now info.modified < staleAge) _ _ : Step Sweep).run = _
    by_cases young : age now info.modified < staleAge
    · rw [if_pos young]
      exact (if_pos young).symm
    · rw [if_neg young, run_ask_bind]
      refine Eq.trans ?_ (if_neg young).symm
      apply Program.step_congr
      intro answer
      rcases answer with e | ⟨⟩
      · by_cases gone : e = .os .noEntry
        · rw [gone]
          rfl
        · refine Eq.trans ?_ (if_neg gone).symm
          rw [Program.bind_done]
          split
          · contradiction
          · next same => exact absurd (Except.error.inj same) gone
          · next same =>
            rw [Except.error.inj same]
            rfl
      · rfl

/-- The directory of all objects is made, then temporary files are swept away. -/
theorem run_open (store : FileStore) (now : Instant) :
    (store.open_ now).run = .step (.makeDirectories store.objects) fun
      | .ok () => (store.sweep now).run
      | .error e => .done (.error (.io e)) := by
  rw [open_, run_attempt_bind]
  apply Program.step_congr
  intro answer
  rcases answer with e | ⟨⟩ <;> rfl

end ContentNode.FileStore
