import ContentNode.Engine.Write
import ContentNode.Proofs.Store.File.Faults
import ContentNode.Proofs.Store.File.Reading

/-!
# What failures leave behind

Storing an object on a machine that fails, step by step: a temporary file is filled,
gets the name of the object and loses its own one, and the directory is made durable.
-/

namespace ContentNode.FileStore

open FileSystem

variable {store : FileStore} {actor : Actor} {now : Instant} {address : Address}
  {payload record content bytes : ByteArray} {tree before after : FileTree} {place : Location}
  {number : Nat} {events : Trace} {answer : Except StoreError PutOutcome}

/-! ### Traces without a failure to make the directory durable -/

@[simp]
theorem synced_nil : store.Synced address [] := fun _ => List.not_mem_nil

@[simp]
theorem synced_append {first second : Trace} :
    store.Synced address (first ++ second) ↔
      store.Synced address first ∧ store.Synced address second := by
  simp only [Synced, List.mem_append, not_or, forall_and]

theorem synced_cons_iff {event : (op : Operation) × op.Answer} :
    store.Synced address (event :: events) ↔
      (∀ cause, event ≠ ⟨.syncDirectory (store.directory address), .error cause⟩) ∧
        store.Synced address events := by
  simp only [Synced, List.mem_cons, not_or, forall_and, ne_eq, eq_comm]

theorem Leaves.after_event {unchanged : FileTree → Prop} {event : (op : Operation) × op.Answer}
    (other : ∀ cause, event ≠ ⟨.syncDirectory (store.directory address), .error cause⟩)
    (leaves : store.Leaves actor now address payload unchanged events answer after) :
    store.Leaves actor now address payload unchanged (event :: events) answer after :=
  leaves.after_events (synced_cons_iff.mpr ⟨other, synced_nil⟩)

/-! ### Filling a temporary file -/

/-- A tree to which a temporary file with this content was added. -/
structure Draft (store : FileStore) (actor : Actor) (address : Address) (before : FileTree)
    (place : Location) (number : Nat) (content : ByteArray) (tree : FileTree) : Prop where
  site : store.Site actor address before place
  free : before.get? (draftPlace place number) = none
  changed : ∃ modified, before.Changed tree (draftPlace place number)
    (some (.file content modified Entry.temporaryMode))

namespace Draft

theorem keeps (draft : store.Draft actor address before place number content tree) :
    before.Keeps tree := by
  obtain ⟨modified, changed⟩ := draft.changed
  apply FileTree.Keeps.changed changed
  intro old there
  cases draft.free.symm.trans there

theorem there (draft : store.Draft actor address before place number content tree) :
    store.Site actor address tree place ∧ ∃ modified, tree.get? (draftPlace place number) =
      some (.file content modified Entry.temporaryMode) := by
  refine ⟨draft.site.keeps draft.keeps, ?_⟩
  obtain ⟨modified, changed⟩ := draft.changed
  exact ⟨modified, changed.get?_self⟩

/-- The content of the file changes. -/
theorem replace {modified : Instant}
    (draft : store.Draft actor address before place number content tree)
    (changed : tree.Changed after (draftPlace place number)
      (some (.file bytes modified Entry.temporaryMode))) :
    store.Draft actor address before place number bytes after := by
  refine ⟨draft.site, draft.free, modified, fun other => ?_⟩
  obtain ⟨_, first⟩ := draft.changed
  rw [changed other, first other]
  split <;> rfl

/-- Without the file everything is as it was. -/
theorem remove (draft : store.Draft actor address before place number content tree)
    (changed : tree.Changed after (draftPlace place number) none) (other : Location) :
    after.get? other = before.get? other := by
  obtain ⟨_, first⟩ := draft.changed
  rw [changed other, first other]
  split
  · next same => rw [same, draft.free]
  · rfl

end Draft

/-- Nothing is appended when there is nothing to append. -/
theorem runs_appendAll_of_isEmpty {outcome : Except StoreError Unit} {fuel : Nat}
    (nothing : bytes.isEmpty = true)
    (draft : store.Draft actor address before place number content tree)
    (runs : Program.Runs (Attempts actor)
      (appendAll (store.draftPath address number) fuel bytes).run tree events outcome after) :
    store.Synced address events ∧
      store.Draft actor address before place number (content ++ bytes) after := by
  obtain rfl : bytes = ByteArray.empty := by
    apply ByteArray.size_eq_zero_iff.mp
    simpa [ByteArray.isEmpty] using nothing
  rw [run_appendAll_of_isEmpty _ _ nothing] at runs
  cases runs
  exact ⟨synced_nil, by rwa [ByteArray.append_empty]⟩

/-- All bytes were appended, or some of them and it failed. -/
theorem runs_appendAll {outcome : Except StoreError Unit} (fuel : Nat)
    (enough : bytes.size ≤ fuel)
    (draft : store.Draft actor address before place number content tree)
    (runs : Program.Runs (Attempts actor)
      (appendAll (store.draftPath address number) fuel bytes).run tree events outcome after) :
    store.Synced address events ∧
      ∃ written, store.Draft actor address before place number (content ++ written) after ∧
        (outcome = .ok () → written = bytes) := by
  induction fuel generalizing bytes content tree events with
  | zero =>
      have nothing : bytes.isEmpty = true := by
        simpa [ByteArray.isEmpty] using enough
      obtain ⟨fine, all⟩ := runs_appendAll_of_isEmpty nothing draft runs
      exact ⟨fine, bytes, all, fun _ => rfl⟩
  | succ fuel ih =>
      cases nothing : bytes.isEmpty with
      | true =>
          obtain ⟨fine, all⟩ := runs_appendAll_of_isEmpty nothing draft runs
          exact ⟨fine, bytes, all, fun _ => rfl⟩
      | false =>
          rw [run_appendAll _ _ nothing] at runs
          cases runs with
          | step attempted further =>
              obtain ⟨site, _, there⟩ := draft.there
              obtain ⟨taken, now, within, said, changed⟩ := attempted.append site there
              have more := draft.replace changed
              rw [synced_cons_iff]
              rcases said with rfl | ⟨e, rfl⟩
              · dsimp only at further
                by_cases stuck : taken = 0
                · rw [if_pos stuck] at further
                  cases further
                  exact ⟨⟨nofun, synced_nil⟩, _, more, nofun⟩
                · rw [if_neg stuck] at further
                  have shorter : (bytes.extract taken bytes.size).size ≤ fuel := by
                    rw [ByteArray.size_extract]
                    omega
                  obtain ⟨fine, written, all, complete⟩ := ih shorter more further
                  rw [ByteArray.append_assoc] at all
                  refine ⟨⟨nofun, fine⟩, _, all, fun done => ?_⟩
                  rw [complete done, ByteArray.extract_append_extract, Nat.zero_min,
                    Nat.max_eq_right within, ByteArray.extract_zero_size]
              · cases further
                exact ⟨⟨nofun, synced_nil⟩, _, more, nofun⟩

/-- The record was written, or a part of it and it failed. -/
theorem runs_fill {outcome : Except StoreError Unit}
    (draft : store.Draft actor address before place number .empty tree)
    (runs : Program.Runs (Attempts actor) (fill (store.draftPath address number) record).run tree
      events outcome after) :
    store.Synced address events ∧
      ∃ content, store.Draft actor address before place number content after ∧
        (outcome = .ok () → content = record) := by
  rw [run_fill] at runs
  obtain ⟨first, appended, middle, rest, rfl, ran, further⟩ := runs.of_bind
  obtain ⟨fine, written, more, complete⟩ := runs_appendAll _ (Nat.le_refl _) draft ran
  rw [ByteArray.empty_append] at more
  rw [synced_append]
  cases appended with
  | error e =>
      cases further
      exact ⟨⟨fine, synced_nil⟩, written, more, nofun⟩
  | ok done =>
      cases further with
      | @step _ _ _ _ _ answer _ _ attempted further =>
          obtain rfl := attempted.sync_eq
          rw [synced_cons_iff]
          cases answer <;> cases further
          · exact ⟨⟨fine, nofun, synced_nil⟩, written, more, nofun⟩
          · exact ⟨⟨fine, nofun, synced_nil⟩, written, more, fun _ => complete rfl⟩

/-! ### Publishing -/

/-- A temporary file is discarded and everything is as it was. -/
theorem runs_discard {α : Type} {value result : α}
    (draft : store.Draft actor address before place number content tree)
    (runs : Program.Runs (Attempts actor)
      (.step (.discard (store.draftPath address number)) fun _ => .done value) tree events result
      after) :
    result = value ∧ store.Synced address events ∧
      ∀ other, after.get? other = before.get? other := by
  cases runs with
  | step attempted further =>
      obtain ⟨site, _, there⟩ := draft.there
      have removed := draft.remove (attempted.discard site there)
      cases further
      exact ⟨rfl, synced_cons_iff.mpr ⟨nofun, synced_nil⟩, removed⟩

theorem objectPlace_ne_draftPlace :
    place ++ [fileName address] ≠ draftPlace place number := by
  intro same
  have names : fileName address = FileTree.temporaryName number := by
    simpa [draftPlace] using same
  have lasting := isTemporary_fileName address
  rw [names, isTemporary_temporaryName] at lasting
  cases lasting

/-- A temporary file that got the name of the object and lost its own one. -/
theorem Draft.deposited {modified : Instant} {linked : FileTree} {answer : Unit}
    (draft : store.Draft actor address before place number record tree)
    (encoded : Record.encode now payload = .ok record)
    (named : tree.Changed linked (place ++ [fileName address])
      (some (.file record modified Entry.temporaryMode)))
    (free : tree.get? (place ++ [fileName address]) = none)
    (discarded : Attempts actor (.discard (store.draftPath address number)) linked answer after) :
    store.Deposited actor now address payload
      (fun tree => ∀ other, tree.get? other = before.get? other) after := by
  obtain ⟨site, _, there⟩ := draft.there
  obtain ⟨_, first⟩ := draft.changed
  have siteLinked := site.keeps (FileTree.Keeps.changed named fun old taken => by
    cases free.symm.trans taken)
  rw [← named.get?_of_ne objectPlace_ne_draftPlace.symm] at there
  have removed := discarded.discard siteLinked there
  have freeBefore : before.get? (place ++ [fileName address]) = none := by
    rw [← first.get?_of_ne objectPlace_ne_draftPlace, free]
  have changed : before.Changed after (place ++ [fileName address])
      (some (.file record modified Entry.temporaryMode)) := by
    intro other
    rw [removed other, named other, first other]
    by_cases temporary : other = draftPlace place number
    · subst temporary
      rw [if_pos rfl, if_neg objectPlace_ne_draftPlace.symm, draft.free]
    · rw [if_neg temporary, if_neg temporary]
  have siteAfter := draft.site.keeps (FileTree.Keeps.changed changed fun old taken => by
    cases freeBefore.symm.trans taken)
  refine ⟨before, _, record, modified, fun _ => rfl, encoded, freeBefore, changed, ?_⟩
  rw [FileTree.stat, siteAfter.resolve, FileTree.lookup, changed.get?_self]
  rfl

/-- Once the record is complete it gets its name, or everything is as it was. -/
theorem runs_publish (encoded : Record.encode now payload = .ok record)
    (draft : store.Draft actor address before place number record tree)
    (runs : Program.Runs (Attempts actor)
      (publish (store.draftPath address number) (store.objectPath address)
        (store.directory address)).run tree events answer after) :
    store.Leaves actor now address payload
      (fun tree => ∀ other, tree.get? other = before.get? other) events answer after := by
  rw [run_publish] at runs
  cases runs with
  | step attempted further =>
      obtain ⟨site, _, there⟩ := draft.there
      rcases attempted.link site there with ⟨rfl, free, linked⟩ | ⟨e, rfl, rfl⟩
      · cases further with
        | step discarded further =>
            -- The object has its name from here on, whatever becomes of the directory.
            have deposited := draft.deposited encoded linked free discarded
            cases further with
            | @step _ _ _ _ _ answer _ _ attempted further =>
                obtain rfl := attempted.syncDirectory_eq
                cases answer with
                | ok done =>
                    cases further
                    exact ⟨nofun, fun _ => deposited, nofun, by simp⟩
                | error cause =>
                    cases further
                    refine ⟨nofun, nofun, fun _ _ fine => absurd (by simp) (fine cause), ?_⟩
                    intro other member
                    obtain rfl : other = cause := by simpa using member
                    exact ⟨rfl, deposited⟩
      · dsimp only at further
        split at further
        · next said => cases said
        · obtain ⟨rfl, fine, same⟩ := runs_discard draft further
          exact .of_present (synced_cons_iff.mpr ⟨nofun, fine⟩) same
        · obtain ⟨rfl, fine, same⟩ := runs_discard draft further
          exact .of_error (synced_cons_iff.mpr ⟨nofun, fine⟩) same

/-- A temporary file is filled and published, or it is discarded. -/
theorem runs_deliver (encoded : Record.encode now payload = .ok record)
    (draft : store.Draft actor address before place number .empty tree)
    (runs : Program.Runs (Attempts actor)
      (store.deliver address (store.draftPath address number) record) tree events answer after) :
    store.Leaves actor now address payload
      (fun tree => ∀ other, tree.get? other = before.get? other) events answer after := by
  obtain ⟨first, filled, middle, rest, rfl, ran, further⟩ := runs.of_bind
  obtain ⟨fine, content, more, complete⟩ := runs_fill draft ran
  cases filled with
  | error e =>
      dsimp only at further
      rw [run_discardAfter] at further
      obtain ⟨rfl, rest, same⟩ := runs_discard more further
      exact .of_error (synced_append.mpr ⟨fine, rest⟩) same
  | ok done =>
      obtain rfl := complete rfl
      exact (runs_publish encoded more further).after_events fine

/-- Once the record is encoded it gets a temporary file. -/
theorem runs_encoded (encoded : Record.encode now payload = .ok record)
    (fits : (store.objectPath address).Fits 0) (unstored : store.Unstored actor address before tree)
    (runs : Program.Runs (Attempts actor)
      (.step (.createTemporary (store.directory address)) fun
        | .ok file => store.deliver address file record
        | .error e => .done (.error (.io e))) tree events answer after) :
    store.Leaves actor now address payload (store.Unstored actor address before) events answer
      after := by
  cases runs with
  | step creating further =>
      refine Leaves.after_event nofun ?_
      rcases creating.createTemporary fits with
        ⟨place, number, modified, rfl, site, free, changed⟩ | ⟨e, rfl, rfl⟩
      · have delivered := runs_deliver encoded ⟨site, free, modified, changed⟩ further
        exact delivered.mono fun tree same place => same place ▸ unstored place
      · cases further
        exact .of_error synced_nil unstored

/-- Whatever fails, storing an object is all or nothing, unless the directory cannot be
made durable at the end. -/
theorem runs_put (runs : Program.Runs (Attempts actor) (store.put now address payload).run tree
      events answer after) :
    store.Leaves actor now address payload (store.Unstored actor address tree) events answer
      after := by
  rw [run_put] at runs
  cases runs with
  | @step _ _ _ _ _ found _ _ asked further =>
      obtain ⟨rfl, absent⟩ := asked.exists_eq
      refine Leaves.after_event nofun ?_
      rcases found with e | ⟨⟩ | ⟨⟩
      · cases further
        exact .of_error synced_nil (.refl _)
      · have fits := FileTree.fits_of_exists_
          (FilePath.display_child_ne_empty _ (plain_fileName address).1) (absent rfl)
        cases further with
        | @step _ _ _ _ _ made _ _ making further =>
            have unstored := making.makeDirectories
            refine Leaves.after_event nofun ?_
            rcases made with e | ⟨⟩
            · cases further
              exact .of_error synced_nil unstored
            · dsimp only at further
              split at further
              · next record encoded =>
                exact runs_encoded encoded fits unstored further
              · cases further
                exact .of_error synced_nil unstored
      · cases further
        exact .of_present synced_nil (.refl _)

end ContentNode.FileStore
