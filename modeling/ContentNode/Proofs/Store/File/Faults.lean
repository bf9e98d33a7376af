import ContentNode.Proofs.FileSystem.Answers
import ContentNode.Proofs.Program.Runs
import ContentNode.Proofs.Store.File.Naming
import ContentNode.Proofs.Store.File.Programs

/-!
# Storing on a machine that fails

What storing an object leaves if any of its operations may fail.  An object whose
temporary file could not be written, made durable or given its name leaves nothing
behind.  But the directory is made durable after the object got its name, and if that
fails the object is there although storing it is reported as failed.
-/

namespace ContentNode.FileStore

open FileSystem

/-! ### Operations that fail -/

/-- The answer of an operation that fails.  Removing a temporary file never does. -/
def failure? (e : IoError) : (op : Operation) → Option op.Answer
  | .discard _ => none
  | .exists_ _ | .makeDirectories _ | .createTemporary _ | .append _ _ | .sync _ | .link _ _
  | .syncDirectory _ | .read _ | .kind _ | .list _ | .metadata _ | .remove _ => some (.error e)

/-- What an operation may do on a machine that fails. -/
inductive Attempts (actor : Actor) : (op : Operation) → FileTree → op.Answer → FileTree → Prop
  /-- It is performed. -/
  | performed (tree : FileTree) (now : Instant) (op : Operation) :
      Attempts actor op tree (tree.perform actor now op).1 (tree.perform actor now op).2
  /-- It fails. -/
  | failed (tree : FileTree) {op : Operation} {answer : op.Answer} {e : IoError}
      (possible : failure? e op = some answer) : Attempts actor op tree answer tree
  /-- It fails after some of the directories have been made, from the top down. -/
  | halfway (tree : FileTree) (path : FilePath) (e : IoError) {made : List FilePath}
      (above : made <:+ FileTree.ancestry path) :
      Attempts actor (.makeDirectories path) tree (.error e)
        (FileTree.makeMissing actor made tree).2
  /-- Some of the bytes are taken. -/
  | part (tree : FileTree) (now : Instant) (file : FilePath) {bytes : ByteArray} {taken : Nat}
      (within : taken ≤ bytes.size) :
      Attempts actor (.append file bytes) tree (.ok taken)
        (tree.appendTo now file (bytes.extract 0 taken))
  /-- It fails after some of the bytes have been taken. -/
  | torn (tree : FileTree) (now : Instant) (file : FilePath) {bytes : ByteArray} {taken : Nat}
      (within : taken ≤ bytes.size) (e : IoError) :
      Attempts actor (.append file bytes) tree (.error e)
        (tree.appendTo now file (bytes.extract 0 taken))

/-- What was asked for, and the answers. -/
abbrev Trace := List ((op : Operation) × op.Answer)

/-! ### What storing leaves -/

variable {store : FileStore} {actor : Actor} {now : Instant} {address : Address}
  {payload record content bytes : ByteArray} {tree before after : FileTree} {place : Location}
  {number mode : Nat} {events : Trace} {answer : Except StoreError PutOutcome}
  {unchanged weaker : FileTree → Prop}

/-- The directory of all objects is there, and all directories above it. -/
def Opened (store : FileStore) (actor : Actor) (tree : FileTree) : Prop :=
  ∀ path ∈ FileTree.ancestry store.objects, tree.isDirectory actor path = true

/-- Where the directory of an object is to be made if it is missing. -/
def Missing (store : FileStore) (actor : Actor) (address : Address) (tree : FileTree)
    (place : Location) : Prop :=
  ∃ parent name, tree.resolve actor false (store.directory address) = .ok (.free parent name) ∧
    place = parent ++ [name]

/-- No file was added, removed or changed.  Directories may be new; in a store that was
opened the directory of the object is the only one. -/
def Unstored (store : FileStore) (actor : Actor) (address : Address) (tree : FileTree) :
    FileTree → Prop :=
  FileTree.Furnished (fun place => store.Opened actor tree → store.Missing actor address tree place)
    tree

/-- The file of an object was added to a tree that is as good as unchanged, with the
payload in a record. -/
def Deposited (store : FileStore) (actor : Actor) (now : Instant) (address : Address)
    (payload : ByteArray) (unchanged : FileTree → Prop) (after : FileTree) : Prop :=
  ∃ before place record modified, unchanged before ∧ Record.encode now payload = .ok record ∧
    before.get? place = none ∧
    before.Changed after place (some (.file record modified Entry.temporaryMode)) ∧
    after.stat actor false (store.objectPath address) =
      .ok (place, .file record modified Entry.temporaryMode)

/-- No attempt to make the directory of an object durable failed. -/
def Synced (store : FileStore) (address : Address) (events : Trace) : Prop :=
  ∀ cause, ⟨.syncDirectory (store.directory address), .error cause⟩ ∉ events

/-- What is left once storing an object has been answered. -/
structure Leaves (store : FileStore) (actor : Actor) (now : Instant) (address : Address)
    (payload : ByteArray) (unchanged : FileTree → Prop) (events : Trace)
    (answer : Except StoreError PutOutcome) (after : FileTree) : Prop where
  present : answer = .ok .alreadyPresent → unchanged after
  created : answer = .ok .created → store.Deposited actor now address payload unchanged after
  failed : ∀ e, answer = .error e → store.Synced address events → unchanged after
  exposed : ∀ cause, ⟨.syncDirectory (store.directory address), .error cause⟩ ∈ events →
    answer = .error (.io cause) ∧ store.Deposited actor now address payload unchanged after

theorem Deposited.mono (deposited : store.Deposited actor now address payload unchanged after)
    (implies : ∀ tree, unchanged tree → weaker tree) :
    store.Deposited actor now address payload weaker after := by
  obtain ⟨before, place, record, modified, same, rest⟩ := deposited
  exact ⟨before, place, record, modified, implies before same, rest⟩

namespace Leaves

theorem mono (leaves : store.Leaves actor now address payload unchanged events answer after)
    (implies : ∀ tree, unchanged tree → weaker tree) :
    store.Leaves actor now address payload weaker events answer after := by
  constructor
  · exact fun said => implies _ (leaves.present said)
  · exact fun said => (leaves.created said).mono implies
  · exact fun e said fine => implies _ (leaves.failed e said fine)
  · intro cause member
    obtain ⟨said, deposited⟩ := leaves.exposed cause member
    exact ⟨said, deposited.mono implies⟩

/-- What was done before does not matter. -/
theorem after_events {earlier : Trace} (fine : store.Synced address earlier)
    (leaves : store.Leaves actor now address payload unchanged events answer after) :
    store.Leaves actor now address payload unchanged (earlier ++ events) answer after := by
  refine ⟨leaves.present, leaves.created, fun e said rest => ?_, fun cause member => ?_⟩
  · exact leaves.failed e said fun cause member => rest cause (List.mem_append_right _ member)
  · rcases List.mem_append.mp member with before | later
    · exact absurd before (fine cause)
    · exact leaves.exposed cause later

/-- A failure that leaves everything as it was. -/
theorem of_error {e : StoreError} (fine : store.Synced address events)
    (same : unchanged after) :
    store.Leaves actor now address payload unchanged events (.error e) after :=
  ⟨nofun, nofun, fun _ _ _ => same, fun cause member => absurd member (fine cause)⟩

/-- An object that is there already leaves everything as it was. -/
theorem of_present (fine : store.Synced address events) (same : unchanged after) :
    store.Leaves actor now address payload unchanged events (.ok .alreadyPresent) after :=
  ⟨fun _ => same, nofun, nofun, fun cause member => absurd member (fine cause)⟩

end Leaves

/-! ### Making the directory -/

/-- Whatever directories have been made, no file has changed. -/
theorem unstored_makeMissing {made : List FilePath}
    (above : made <:+ FileTree.ancestry (store.directory address)) :
    store.Unstored actor address tree (FileTree.makeMissing actor made tree).2 := by
  by_cases opened : store.Opened actor tree
  · rw [directory_eq, FileTree.ancestry_child _ (plain_directoryName address).1,
      List.suffix_cons_iff] at above
    rcases above with rfl | higher
    · rw [FileTree.makeMissing_cons_of_isDirectory opened]
      exact FileTree.furnished_ensureDirectory fun parent name resolved _ =>
        ⟨parent, name, resolved, rfl⟩
    · rw [FileTree.makeMissing_of_isDirectory fun path member =>
        opened path (higher.subset member)]
      exact .refl tree
  · intro place
    rcases FileTree.furnished_makeMissing actor made tree place with same | ⟨free, there, -⟩
    · exact .inl same
    · exact .inr ⟨free, there, fun other => absurd other opened⟩

theorem Attempts.makeDirectories {answer : Except IoError Unit}
    (attempted : Attempts actor (.makeDirectories (store.directory address)) tree answer after) :
    store.Unstored actor address tree after := by
  cases attempted with
  | performed _ now _ => exact unstored_makeMissing List.suffix_rfl
  | failed _ _ => exact .refl tree
  | halfway _ _ e above => exact unstored_makeMissing above

/-! ### Temporary files -/

/-- A directory in which a temporary file was made. -/
structure Site (store : FileStore) (actor : Actor) (address : Address) (tree : FileTree)
    (place : Location) : Prop where
  fits : (store.objectPath address).Fits 0
  leads : FileTree.Leads tree actor FileTree.maxLinks []
    (store.directory address).components place
  open_ : ∃ mode, tree.get? place = some (.directory mode) ∧
    actor.may .search mode = true ∧ actor.may .write mode = true

namespace Site

theorem searchable (site : store.Site actor address tree place) :
    tree.Searchable actor place := by
  obtain ⟨mode, there, search, -⟩ := site.open_
  exact ⟨mode, there, search⟩

theorem writable (site : store.Site actor address tree place) :
    tree.mayUse actor .write place = true := by
  obtain ⟨mode, there, -, write⟩ := site.open_
  simp only [FileTree.mayUse, FileTree.directoryMode, there, Entry.mode, write]

theorem keeps (site : store.Site actor address tree place) (kept : tree.Keeps after) :
    store.Site actor address after place := by
  obtain ⟨mode, there, allowed⟩ := site.open_
  exact ⟨site.fits, kept.leads site.leads, mode, kept _ _ (by simp [Entry.type]) there, allowed⟩

/-- A temporary name is shorter than that of an object. -/
theorem slot (site : store.Site actor address tree place) (number : Nat) :
    tree.Slot actor (store.directory address) place (FileTree.temporaryName number) := by
  have fits : (store.directory address).Fits 62 := by
    have room := FilePath.Fits.of_child (objectPath_eq store address ▸ site.fits)
    rwa [(plain_fileName address).2] at room
  have reaches : tree.Reaches actor (store.directory address) place 62 :=
    ⟨fits, site.leads, site.searchable⟩
  apply reaches.slot _ (plain_temporaryName number).1
  rw [(plain_temporaryName number).2]
  decide

theorem resolve (site : store.Site actor address tree place) :
    tree.resolve actor false (store.objectPath address) =
      .ok (tree.lookup place (fileName address)) :=
  FileTree.resolve_child site.fits (plain_fileName address).1 site.leads site.searchable

end Site

/-- The path of a temporary file. -/
def draftPath (store : FileStore) (address : Address) (number : Nat) : FilePath :=
  (store.directory address).child (FileTree.temporaryName number)

/-- The place of a temporary file. -/
def draftPlace (place : Location) (number : Nat) : Location :=
  place ++ [FileTree.temporaryName number]

theorem draftPlace_ne_nil : draftPlace place number ≠ [] := by simp [draftPlace]

namespace Attempts

variable {modified : Instant}

theorem exists_eq {path : FilePath} {answer : Except IoError Bool}
    (attempted : Attempts actor (.exists_ path) tree answer after) :
    after = tree ∧ (answer = .ok false → tree.exists_ actor path = .ok false) := by
  cases attempted with
  | performed _ now _ => exact ⟨rfl, id⟩
  | failed _ possible =>
      cases possible
      exact ⟨rfl, nofun⟩

theorem sync_eq {file : FilePath} {answer : Except IoError Unit}
    (attempted : Attempts actor (.sync file) tree answer after) : after = tree := by
  cases attempted <;> rfl

theorem syncDirectory_eq {path : FilePath} {answer : Except IoError Unit}
    (attempted : Attempts actor (.syncDirectory path) tree answer after) : after = tree := by
  cases attempted <;> rfl

/-- A temporary file is made in a directory that is open, or nothing happens. -/
theorem createTemporary {answer : Except IoError FilePath}
    (fits : (store.objectPath address).Fits 0)
    (attempted : Attempts actor (.createTemporary (store.directory address)) tree answer after) :
    (∃ place number modified, answer = .ok (store.draftPath address number) ∧
      store.Site actor address tree place ∧ tree.get? (draftPlace place number) = none ∧
      tree.Changed after (draftPlace place number)
        (some (.file ByteArray.empty modified Entry.temporaryMode))) ∨
      ∃ e, answer = .error e ∧ after = tree := by
  cases attempted with
  | performed _ now _ =>
      rw [FileTree.perform]
      cases made : tree.createTemporary actor now (store.directory address) with
      | error e => exact .inr ⟨e, rfl, rfl⟩
      | ok outcome =>
          rcases outcome with ⟨file, after⟩
          obtain ⟨place, mode, number, leads, there, search, write, free, rfl, rfl⟩ :=
            FileTree.createTemporary_eq_ok made
          exact .inl ⟨place, number, now, rfl, ⟨fits, leads, mode, there, search, write⟩, free,
            tree.changed_insert draftPlace_ne_nil _⟩
  | failed _ possible =>
      cases possible
      exact .inr ⟨_, rfl, rfl⟩

/-- A temporary file takes some of the bytes, whatever the answer is. -/
theorem append {answer : Except IoError Nat} (site : store.Site actor address tree place)
    (there : tree.get? (draftPlace place number) = some (.file content modified mode))
    (attempted : Attempts actor (.append (store.draftPath address number) bytes) tree answer
      after) :
    ∃ taken now, taken ≤ bytes.size ∧ (answer = .ok taken ∨ ∃ e, answer = .error e) ∧
      tree.Changed after (draftPlace place number)
        (some (.file (content ++ bytes.extract 0 taken) now mode)) := by
  have grown (now : Instant) (more : ByteArray) :
      tree.Changed (tree.appendTo now (store.draftPath address number) more)
        (draftPlace place number) (some (.file (content ++ more) now mode)) := by
    rw [draftPath, FileTree.appendTo_child (site.slot number) there]
    exact tree.changed_insert draftPlace_ne_nil _
  cases attempted with
  | performed _ now _ =>
      refine ⟨bytes.size, now, Nat.le_refl _, .inl rfl, ?_⟩
      rw [ByteArray.extract_zero_size]
      exact grown now bytes
  | failed _ possible =>
      cases possible
      refine ⟨0, modified, Nat.zero_le _, .inr ⟨_, rfl⟩, fun other => ?_⟩
      rw [ByteArray.extract_same, ByteArray.append_empty]
      split
      · next same => rw [same, there]
      · rfl
  | part _ now _ within => exact ⟨_, now, within, .inl rfl, grown now _⟩
  | torn _ now _ within e => exact ⟨_, now, within, .inr ⟨e, rfl⟩, grown now _⟩

/-- A temporary file is removed. -/
theorem discard {answer : Unit} (site : store.Site actor address tree place)
    (there : tree.get? (draftPlace place number) = some (.file content modified mode))
    (attempted : Attempts actor (.discard (store.draftPath address number)) tree answer after) :
    tree.Changed after (draftPlace place number) none := by
  cases attempted with
  | performed _ now _ =>
      rw [FileTree.perform, draftPath,
        FileTree.remove_child (site.slot number) there site.writable]
      exact tree.changed_erase draftPlace_ne_nil
  | failed _ possible => cases possible

/-- A temporary file gets the name of the object where nothing has this name, or nothing
happens. -/
theorem link {answer : Except IoError Unit} (site : store.Site actor address tree place)
    (there : tree.get? (draftPlace place number) = some (.file content modified mode))
    (attempted : Attempts actor (.link (store.draftPath address number) (store.objectPath address))
      tree answer after) :
    (answer = .ok () ∧ tree.get? (place ++ [fileName address]) = none ∧
      tree.Changed after (place ++ [fileName address]) (some (.file content modified mode))) ∨
      ∃ e, answer = .error e ∧ after = tree := by
  cases attempted with
  | performed _ now _ =>
      rw [FileTree.perform, FileTree.link, draftPath,
        (site.slot number).stat_of_some there (by simp), site.resolve, FileTree.lookup]
      simp only [bind, Except.bind]
      cases taken : tree.get? (place ++ [fileName address]) with
      | some entry => exact .inr ⟨_, rfl, rfl⟩
      | none =>
          simp only [site.writable, if_true]
          exact .inl ⟨rfl, trivial, tree.changed_insert (by simp) _⟩
  | failed _ possible =>
      cases possible
      exact .inr ⟨_, rfl, rfl⟩

end Attempts

end ContentNode.FileStore
