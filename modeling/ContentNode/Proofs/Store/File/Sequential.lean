import ContentNode.Proofs.Store.File.Counting
import ContentNode.Proofs.Store.File.Depositing
import ContentNode.Proofs.Store.Record.Coding

/-!
# One who uses a store alone

What the operations of a store do to its files if nobody else acts in between and
nobody was interrupted before, so that there are no temporary files.
-/

namespace ContentNode.FileStore

open FileSystem

variable {store : FileStore} {actor : Actor} {now modified : Instant} {top : Location}
  {tree : FileTree} {address : Address} {payload record bytes : ByteArray}
  {number mode : Nat}

/-- There are no temporary files. -/
def Settled (top : Location) (tree : FileTree) : Prop :=
  ∀ directory name entry, tree.get? (filePlace top directory name) = some entry →
    isTemporary name = false

theorem Settled.unused (settled : Settled top tree) (address : Address) (number : Nat) :
    tree.get? (temporaryPlace top address number) = none := by
  cases found : tree.get? (temporaryPlace top address number) with
  | none => rfl
  | some entry =>
      have permanent := settled _ _ _ found
      rw [isTemporary_temporaryName] at permanent
      cases permanent

/-! ### Storing -/

theorem perform_put_of_taken (layout : store.Layout actor top tree)
    (taken : object? top tree address = some bytes) :
    store.perform actor now (.put address payload) tree = (.ok .alreadyPresent, tree) := by
  change (store.put now address payload).run.run (FileTree.perform actor now) tree = _
  rw [run_put, run_of_performed layout.perform_exists_object, taken]
  rfl

/-- Where there is no object, a new temporary file ends up as its file. -/
theorem run_deliver_of_free {file : FilePath} {begun : FileTree} {parent : Entry}
    (layout : store.Layout actor top tree)
    (there : tree.get? (directoryPlace top address) = some parent)
    (free : tree.get? (objectPlace top address) = none) (something : record.isEmpty = false)
    (created : tree.createTemporary actor now (store.directory address) = .ok (file, begun)) :
    ∃ after, (store.deliver address file record).run (FileTree.perform actor now) begun =
        (.ok .created, after) ∧ store.Layout actor top after ∧
      tree.Changed after (objectPlace top address) (some (.file record now Entry.temporaryMode)) := by
  obtain ⟨place, mode, found, delivered⟩ := run_deliver_of_created
    ((layout.slot_file there).reaches.fits.child (plain_fileName address).1) something created
  obtain ⟨mode', standing, -⟩ := layout.usable there
  rw [directory_eq, (layout.slot_directory address).stat_of_some standing (by simp)] at found
  cases found
  have installed : install actor (directoryPlace top address) (fileName address)
      (.file record now Entry.temporaryMode) tree =
        (.ok .created, tree.insert (objectPlace top address)
          (.file record now Entry.temporaryMode)) := by
    rw [objectPlace] at free ⊢
    rw [install, free]
    dsimp only
    rw [if_pos ((layout.usable there).mayUse .read)]
  have changed := changed_insert_object tree top address (.file record now Entry.temporaryMode)
  refine ⟨{ tree.insert (objectPlace top address) (.file record now Entry.temporaryMode) with
    temporaries := begun.temporaries }, ?_, ?_, changed⟩
  · exact delivered.trans (by rw [← directoryPlace, installed])
  · refine layout.changed_file (layout.distinct.insert _ _) changed ?_
    intro entry placed
    cases placed
    exact ⟨⟨parent, there⟩, _, _, _, rfl, .inr ⟨address, rfl, rfl, may_temporaryMode actor⟩⟩

/-- Where there is no object, its directory is made and it is stored; the other files stay as
they are.  If the record is too large or no temporary name is free, all of them do. -/
theorem perform_put_cases (layout : store.Layout actor top tree) (now : Instant)
    (payload : ByteArray) (free : object? top tree address = none) :
    ∃ after, store.Layout actor top after ∧
      ((∃ record, Record.encode now payload = .ok record ∧
        store.perform actor now (.put address payload) tree = (.ok .created, after) ∧
        ∀ directory name, after.get? (filePlace top directory name) =
          if filePlace top directory name = objectPlace top address then
            some (.file record now Entry.temporaryMode)
          else tree.get? (filePlace top directory name)) ∨
      ∃ e, store.perform actor now (.put address payload) tree = (.error e, after) ∧
        (∀ directory name, after.get? (filePlace top directory name) =
          tree.get? (filePlace top directory name)) ∧
        (Record.encode now payload = .error e ∨
          ∀ number, tree.get? (temporaryPlace top address number) ≠ none)) := by
  obtain ⟨opened, made, openedLayout, -, ⟨parent, there⟩, sameFiles⟩ :=
    layout.perform_makeDirectory now address
  have steps : store.perform actor now (.put address payload) tree =
      (store.put now address payload).run.run (FileTree.perform actor now) tree := rfl
  rw [run_put, run_of_performed layout.perform_exists_object, free, Option.isSome_none] at steps
  dsimp only at steps
  rw [run_of_performed made] at steps
  dsimp only at steps
  cases encoded : Record.encode now payload with
  | error e =>
    rw [encoded] at steps
    exact ⟨opened, openedLayout, .inr ⟨e, steps, sameFiles, .inl rfl⟩⟩
  | ok record =>
    rw [encoded] at steps
    dsimp only at steps
    rcases openedLayout.perform_createTemporary now there with
      ⟨used, e, failed⟩ | ⟨number, begun, -, created, -, -⟩
    · rw [run_of_performed failed] at steps
      refine ⟨opened, openedLayout, .inr ⟨_, steps, sameFiles, .inr fun number => ?_⟩⟩
      rw [temporaryPlace, ← sameFiles]
      exact used number
    · rw [run_of_performed created] at steps
      dsimp only at steps
      obtain ⟨after, delivered, afterLayout, changed⟩ := run_deliver_of_free openedLayout there
        ((sameFiles _ _).trans (layout.free_of_object? free))
        (Record.isEmpty_of_encode encoded) (FileTree.createTemporary_of_perform created)
      refine ⟨after, afterLayout, .inl ⟨record, rfl, steps.trans delivered,
        fun directory name => ?_⟩⟩
      rw [← sameFiles]
      exact changed _

/-- An object is stored where there is none, if a temporary name is free. -/
theorem perform_put_of_spare (layout : store.Layout actor top tree)
    (spare : tree.get? (temporaryPlace top address number) = none)
    (free : object? top tree address = none) (encoded : Record.encode now payload = .ok record) :
    ∃ after, store.perform actor now (.put address payload) tree = (.ok .created, after) ∧
      store.Layout actor top after ∧
      ∀ directory name, after.get? (filePlace top directory name) =
        if filePlace top directory name = objectPlace top address then
          some (.file record now Entry.temporaryMode)
        else tree.get? (filePlace top directory name) := by
  obtain ⟨after, afterLayout, ⟨_, same, stored, files⟩ | ⟨e, -, -, large | used⟩⟩ :=
    perform_put_cases layout now payload free
  · obtain rfl := Except.ok.inj (encoded.symm.trans same)
    exact ⟨after, stored, afterLayout, files⟩
  · cases large.symm.trans encoded
  · exact absurd spare (used number)

/-- What becomes of the objects when one is added. -/
theorem object?_of_files {after : FileTree} {left : Entry}
    (files : ∀ directory name, after.get? (filePlace top directory name) =
      if filePlace top directory name = objectPlace top address then some left
      else tree.get? (filePlace top directory name))
    (file : left = .file record modified mode) (other : Address) :
    object? top after other = if other = address then some record else object? top tree other := by
  subst file
  have there := files (directoryName other) (fileName other)
  rw [← objectPlace_eq] at there
  by_cases same : other = address
  · subst same
    rw [if_pos rfl] at there ⊢
    rw [object?, there]
  · rw [if_neg fun places => same (objectPlace_injective places)] at there
    rw [if_neg same, object?_congr there]

/-- An object is stored where there is none; the other objects stay as they are. -/
theorem perform_put_of_free (layout : store.Layout actor top tree) (settled : Settled top tree)
    (free : object? top tree address = none) (encoded : Record.encode now payload = .ok record) :
    ∃ after, store.perform actor now (.put address payload) tree = (.ok .created, after) ∧
      store.Layout actor top after ∧ Settled top after ∧
      ∀ other, object? top after other =
        if other = address then some record else object? top tree other := by
  obtain ⟨after, stored, afterLayout, files⟩ :=
    perform_put_of_spare layout (settled.unused address 0) free encoded
  refine ⟨after, stored, afterLayout, ?_, object?_of_files files rfl⟩
  intro directory name entry found
  rw [files] at found
  split at found
  · next here =>
    rw [(filePlace_injective here).2]
    exact isTemporary_fileName address
  · exact settled directory name entry found

/-! ### Counting -/

/-- The terms of one who acts alone at a moment. -/
def alone (actor : Actor) (now : Instant) : Terms Operation Operation.Answer FileTree Unit where
  performs op tree answer after := tree.perform actor now op = (answer, after)
  rely _ before after := before = after
  guarantee _ _ _ _ := True
  rely_refl _ _ := rfl
  rely_trans _ _ _ _ first second := first.trans second

theorem observes_alone (store : FileStore) (actor : Actor) (top : Location) (now : Instant) :
    Observes store actor top (alone actor now) id () := by
  constructor
  · rintro s _ rfl layout
    exact .refl layout
  · intro op s answer t looks performed
    have same := perform_of_looks actor now s looks
    rw [show s.perform actor now op = (answer, t) from performed] at same
    exact ⟨⟨now, congrArg Prod.fst performed.symm⟩, same.symm, trivial⟩

/-- All objects are counted and nothing is changed. -/
theorem perform_stats (layout : store.Layout actor top tree) (now : Instant) :
    ∃ found stats, store.perform actor now .stats tree = (.ok stats, tree) ∧
      Tally top tree found stats ∧
      ∀ address content, object? top tree address = some content →
        address ∈ found.map Prod.fst := by
  have performs (op : Operation) (s : FileTree) : (alone actor now).performs op s
      (s.perform actor now op).1 (s.perform actor now op).2 := rfl
  obtain ⟨_, -, same, found, stats, outcome, tally, -, complete⟩ :=
    ((observes_alone store actor top now).meets_stats (s := tree) layout).run performs
  rw [List.nil_append] at tally
  have unchanged : (store.perform actor now .stats tree).2 = tree := same.symm
  refine ⟨found, stats, Prod.ext outcome unchanged, ?_, fun address content =>
    complete address content trivial⟩
  rwa [← same] at tally

end ContentNode.FileStore
