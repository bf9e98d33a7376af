import ContentNode.Proofs.FileSystem.Rooted
import ContentNode.Proofs.Store.File.Cleaning
import ContentNode.Proofs.Store.File.Sweeping
import ContentNode.Proofs.Store.File.Unmissed

/-!
# Opening a store cleans it

Whoever opens a store alone, and without a failure, removes just the temporary files that were
not changed for a quarter of an hour and leaves everything else as it is.  The store answers as
before, unless a symbolic link led to one of these files, and opening it again at the same time
removes nothing.
-/

namespace ContentNode.FileStore

open FileSystem

variable {store : FileStore} {actor : Actor} {now : Instant} {top hall place : Location}
  {tree made after : FileTree} {sweep : Sweep} {gone : List Location}

/-! ### Programs without failures -/

/-- Whether an operation was answered without an error. -/
def succeeds : (op : Operation) → op.Answer → Bool
  | .discard _, _ => true
  | .exists_ _, answer => answer.isOk
  | .makeDirectories _, answer => answer.isOk
  | .createTemporary _, answer => answer.isOk
  | .append _ _, answer => answer.isOk
  | .sync _, answer => answer.isOk
  | .link _ _, answer => answer.isOk
  | .syncDirectory _, answer => answer.isOk
  | .read _, answer => answer.isOk
  | .kind _, answer => answer.isOk
  | .list _, answer => answer.isOk
  | .metadata _, answer => answer.isOk
  | .remove _, answer => answer.isOk

/-- Whether no operation fails that a program asks for. -/
def unfailing {α : Type} (actor : Actor) (now : Instant) : FileProgram α → FileTree → Bool
  | .done _, _ => true
  | .step op next, tree =>
    succeeds op (tree.perform actor now op).1 &&
      unfailing actor now (next (tree.perform actor now op).1) (tree.perform actor now op).2

/-- Such a program has a run on which every operation is answered. -/
theorem exists_runs_of_unfailing {α : Type} {program : FileProgram α}
    (fine : unfailing actor now program tree = true) :
    ∃ events, Program.Runs (fun op s answer t => s.perform actor now op = (answer, t)) program tree
        events (program.run (FileTree.perform actor now) tree).1
        (program.run (FileTree.perform actor now) tree).2 ∧
      ∀ event ∈ events, succeeds event.1 event.2 = true := by
  induction program generalizing tree with
  | done value => exact ⟨[], .done value tree, nofun⟩
  | step op next ih =>
      rw [unfailing, Bool.and_eq_true] at fine
      obtain ⟨events, runs, answered⟩ := ih _ fine.2
      exact ⟨_, .step rfl runs, List.forall_mem_cons.mpr ⟨fine.1, answered⟩⟩

/-- No operation of two programs fails if none of the first one does and, after it, none of the
second one. -/
theorem unfailing_bind {α β : Type} (program : FileProgram α) (next : α → FileProgram β)
    (tree : FileTree) :
    unfailing actor now (program.bind next) tree =
      (unfailing actor now program tree &&
        unfailing actor now (next (program.run (FileTree.perform actor now) tree).1)
          (program.run (FileTree.perform actor now) tree).2) := by
  induction program generalizing tree with
  | done value => rfl
  | step op further ih =>
      rw [Program.bind, unfailing, unfailing, ih, Bool.and_assoc]
      rfl

/-- What is in the way is a failure. -/
theorem Obstructs.not_succeeds {event : (op : Operation) × op.Answer} {e : IoError}
    (obstructs : Obstructs event e) : succeeds event.1 event.2 = false := by
  cases obstructs <;> rfl

/-- A store is opened if nothing fails. -/
theorem exists_of_unfailing (fine : unfailing actor now (store.open_ now).run tree = true) :
    ∃ sweep after, (store.open_ now).run.run (FileTree.perform actor now) tree =
      (.ok sweep, after) := by
  obtain ⟨events, runs, answered⟩ := exists_runs_of_unfailing fine
  obtain ⟨-, concludes⟩ := sweeps_open store _ _ _ _ runs
  rcases ran : (store.open_ now).run.run (FileTree.perform actor now) tree with ⟨outcome, after⟩
  rw [ran] at concludes
  cases concludes with
  | ok sweep _ => exact ⟨sweep, after, rfl⟩
  | @error _ last _ _ obstructs =>
      cases obstructs.not_succeeds.symm.trans (answered last (by simp))

/-! ### What is left over -/

/-- A file two levels below a directory, with a name that is text and begins as those of
temporary files do, that was not changed for a quarter of an hour.  One that is changed in the
future has no age. -/
def LeftOver (now : Instant) (hall : Location) (tree : FileTree) (place : Location) : Prop :=
  ∃ folder text permissions content modified mode, place = hall ++ [folder] ++ [.text text] ∧
    tree.get? (hall ++ [folder]) = some (.directory permissions) ∧
    tree.get? place = some (.file content modified mode) ∧ ".tmp-".toList <+: text.toList ∧
    Instant.ofSeconds (15 * 60) ≤ max 0 (now - modified)

/-- These are the files that a sweep of all directories removes. -/
theorem leftOver_iff (distinct : tree.Distinct) :
    LeftOver now hall tree place ↔ ∃ folder name, (folder, .directory) ∈ tree.contents hall ∧
      place = hall ++ [folder] ++ [name] ∧ Outdated now tree (hall ++ [folder]) name := by
  constructor
  · rintro ⟨folder, text, permissions, content, modified, mode, rfl, above, there, marked, old⟩
    refine ⟨folder, .text text, ?_, rfl, ?_, content, modified, mode, there, old⟩
    · exact List.mem_map.mpr ⟨_, distinct.mem_children_iff.mpr above, rfl⟩
    · exact List.isPrefixOf_iff_prefix.mpr marked
  · rintro ⟨folder, name, listed, rfl, temporary, content, modified, mode, there, old⟩
    obtain ⟨permissions, above⟩ := distinct.directory_of_contents listed
    cases name with
    | raw bytes => cases temporary
    | text text =>
        exact ⟨folder, text, permissions, content, modified, mode, rfl, above, there,
          List.isPrefixOf_iff_prefix.mp temporary, old⟩

theorem LeftOver.draft (leftOver : LeftOver now hall tree place) :
    ∃ folder name, place = hall ++ [folder] ++ [name] ∧ isTemporary name = true := by
  obtain ⟨folder, text, -, -, -, -, rfl, -, -, marked, -⟩ := leftOver
  exact ⟨folder, .text text, rfl, List.isPrefixOf_iff_prefix.mpr marked⟩

/-- Nothing is left over where there are no directories. -/
theorem not_leftOver (nothing : ∀ folder, tree.get? (hall ++ [folder]) = none) :
    ¬ LeftOver now hall tree place := by
  rintro ⟨folder, _, _, _, _, _, _, above, _⟩
  cases (nothing folder).symm.trans above

/-! ### A sweep of the whole store -/

/-- The directory of all objects is there, and nothing is in the way of a sweep. -/
structure Surveyed (store : FileStore) (actor : Actor) (now : Instant) (hall : Location)
    (tree : FileTree) : Prop where
  leads : FileTree.Leads tree actor FileTree.maxLinks [] store.objects.components hall
  standing : tree.isDirectory actor store.objects = true
  listed : ∃ shown, tree.listDirectory actor store.objects = .ok shown
  inspected : ∀ folder, (folder, .directory) ∈ tree.contents hall →
    Inspected actor now tree store.objects hall folder

theorem Surveyed.without (surveyed : store.Surveyed actor now hall tree)
    (distinct : tree.Distinct) (files : tree.HoldsFiles gone) :
    store.Surveyed actor now hall (tree.without gone) := by
  have alongside := files.alongside surveyed.leads
  constructor
  · exact files.keeps.leads surveyed.leads
  · rw [alongside.isDirectory, surveyed.standing]
  · obtain ⟨shown, listed⟩ := surveyed.listed
    rcases alongside.listDirectory with ⟨e, failed, -⟩ | ⟨-, shows⟩
    · cases listed.symm.trans failed
    · exact ⟨_, shows⟩
  · intro folder member
    have before := (FileTree.mem_contents_without.mp member).1
    exact (surveyed.inspected folder before).without files surveyed.leads
      (distinct.directory_of_contents before) distinct

theorem kindOf_of_isDirectory {path : FilePath} (standing : tree.isDirectory actor path = true) :
    tree.kindOf actor path = .ok .directory := by
  unfold FileTree.isDirectory at standing
  unfold FileTree.kindOf
  split at standing
  · next found =>
    rw [found]
    rename_i entry
    cases entry with
    | directory mode => rfl
    | file content modified mode => cases standing
    | link target => cases standing
  · cases standing

/-- A sweep that comes to its end has removed what is left over. -/
theorem removed_sweep (distinct : tree.Distinct)
    (standing : tree.isDirectory actor store.objects = true)
    (ran : (store.sweep now).run.run (FileTree.perform actor now) tree = (.ok sweep, after)) :
    ∃ hall, store.Surveyed actor now hall tree ∧
      Removed (LeftOver now hall tree) tree after ⟨[], 0⟩ sweep := by
  rw [FileStore.sweep, run_walk,
    run_of_performed (by rw [FileTree.perform, kindOf_of_isDirectory standing])] at ran
  dsimp only at ran
  rw [Program.run_step, FileTree.perform] at ran
  cases listing : tree.listDirectory actor store.objects with
  | error e =>
      rw [listing] at ran
      cases ran
  | ok entries =>
      obtain ⟨hall, leads, rfl⟩ := FileTree.listDirectory_eq_ok listing
      rw [listing] at ran
      obtain ⟨removed, inspected⟩ := removed_visitDirectories distinct leads
        (nodup_listed distinct hall) (fun _ => distinct.directory_of_contents) ran
      exact ⟨hall, ⟨leads, standing, ⟨_, listing⟩, inspected⟩,
        removed.congr fun place => (leftOver_iff distinct).symm⟩

/-- A sweep where nothing is left over removes nothing. -/
theorem run_sweep_of_recent (surveyed : store.Surveyed actor now hall tree)
    (distinct : tree.Distinct) (recent : ∀ place, ¬ LeftOver now hall tree place) :
    ∃ sweep, (store.sweep now).run.run (FileTree.perform actor now) tree = (.ok sweep, tree) ∧
      sweep.removed = 0 := by
  obtain ⟨shown, listing⟩ := surveyed.listed
  obtain ⟨hall', leads, rfl⟩ := FileTree.listDirectory_eq_ok listing
  obtain rfl := leads.unique surveyed.leads
  rw [FileStore.sweep, run_walk,
    run_of_performed (by rw [FileTree.perform, kindOf_of_isDirectory surveyed.standing])]
  dsimp only
  rw [run_of_performed (by rw [FileTree.perform, listing])]
  refine run_visitDirectories_of_recent distinct leads (fun _ => distinct.directory_of_contents)
    surveyed.inspected (fun folder member name outdated => ?_) ⟨[], 0⟩
  exact recent _ ((leftOver_iff distinct).mpr ⟨folder, name, member, rfl, outdated⟩)

/-! ### Opening -/

/-- The path of an object does not lead to a file that is left over. -/
def LeadsElsewhere (store : FileStore) (actor : Actor) (now : Instant) (hall : Location)
    (tree : FileTree) (address : Address) : Prop :=
  ∀ place entry, tree.stat actor true (store.objectPath address) = .ok (place, entry) →
    ¬ LeftOver now hall tree place

/-- What became of a tree when a store was opened in it.  The directory of all objects is at
`hall`. -/
structure Cleaned (store : FileStore) (actor : Actor) (now : Instant) (hall : Location)
    (tree : FileTree) (sweep : Sweep) (after : FileTree) : Prop where
  leads : FileTree.Leads after actor FileTree.maxLinks [] store.objects.components hall
  removed : ∃ gone : List Location, gone.Nodup ∧
    (∀ place, place ∈ gone ↔ LeftOver now hall tree place) ∧ sweep.removed = gone.length ∧
    ∀ place ∈ gone, after.get? place = none
  /-- Everything else is as before, but the directory of all objects may be new. -/
  kept : ∀ place, ¬ LeftOver now hall tree place → after.get? place = tree.get? place ∨
    place = hall ∧ tree.get? hall = none ∧
      after.get? hall = some (.directory Entry.directoryMode)
  exists_ : ∀ later address, store.LeadsElsewhere actor now hall tree address →
    (store.perform actor later (.exists_ address) after).1 =
      (store.perform actor later (.exists_ address) tree).1
  get : ∀ later address, store.LeadsElsewhere actor now hall tree address →
    (store.perform actor later (.get address) after).1 =
        (store.perform actor later (.get address) tree).1 ∨
      ((store.perform actor later (.get address) tree).1 = .error (.io (.os .notDirectory)) ∧
        (store.perform actor later (.get address) after).1 = .error (.notFound address))
  /-- Only through links can it be noticed that something was removed. -/
  straight : ∀ later address,
    (∀ target, tree.get? (hall ++ [directoryName address]) ≠ some (.link target)) →
    (∀ target, tree.get? (hall ++ [directoryName address, fileName address]) ≠
      some (.link target)) →
    (store.perform actor later (.exists_ address) after).1 =
        (store.perform actor later (.exists_ address) tree).1 ∧
      (store.perform actor later (.get address) after).1 =
        (store.perform actor later (.get address) tree).1
  stats : ∀ later, tree.isDirectory actor store.objects = true →
    (store.perform actor later .stats after).1 = (store.perform actor later .stats tree).1
  again : ∃ again, Opening.ofStore actor now store after = (.ok (.files store again), after) ∧
    again.removed = 0

/-- A store whose directory of all objects is there is cleaned by a sweep. -/
theorem cleaned_of_sweep (distinct : tree.Distinct)
    (standing : tree.isDirectory actor store.objects = true)
    (ran : (store.sweep now).run.run (FileTree.perform actor now) tree = (.ok sweep, after)) :
    ∃ hall, FileTree.Leads tree actor FileTree.maxLinks [] store.objects.components hall ∧
      store.Cleaned actor now hall tree sweep after := by
  obtain ⟨hall, surveyed, gone, files, nodup, places, rfl, counted⟩ :=
    removed_sweep distinct standing ran
  have drafts : Drafts hall gone := fun place member => ((places place).mp member).draft
  refine ⟨hall, surveyed.leads, ?_⟩
  constructor
  · exact files.keeps.leads surveyed.leads
  · exact ⟨gone, nodup, places, counted.trans (Nat.zero_add _), fun _ => files.get?_of_mem⟩
  · exact fun place other => .inl (files.get?_of_not_mem (mt (places place).mp other))
  · exact fun later address apart => perform_exists_without files fun place entry found =>
      mt (places place).mp (apart place entry found)
  · exact fun later address apart => perform_get_without files fun place entry found =>
      mt (places place).mp (apart place entry found)
  · intro later address straight straight'
    have alongside := alongside_object_without files drafts surveyed.leads straight straight'
    exact ⟨perform_exists_congr alongside.exists_, perform_get_congr alongside.contentOf⟩
  · exact fun later _ => perform_stats_without files drafts distinct surveyed.leads
  · have surveyed' := surveyed.without distinct files
    have recent (place : Location) : ¬ LeftOver now hall (tree.without gone) place := by
      rintro ⟨folder, text, permissions, content, modified, mode, rfl, above, there, rest⟩
      obtain ⟨stays, before⟩ := files.there there
      exact stays ((places _).mpr ⟨folder, text, permissions, content, modified, mode, rfl,
        (files.there above).2, before, rest⟩)
    obtain ⟨again, ran', nothing⟩ := run_sweep_of_recent surveyed' (distinct.without gone) recent
    refine ⟨again, ?_, nothing⟩
    rw [Opening.ofStore, run_open_of_isDirectory surveyed'.standing, ran']

/-! ### Where there was no directory -/

/-- The tree with a directory of all objects. -/
def withObjects (top : Location) (tree : FileTree) : FileTree :=
  tree.insert (objectsPlace top) (.directory Entry.directoryMode)

theorem changed_withObjects (top : Location) (tree : FileTree) : tree.Changed (withObjects top tree)
    (objectsPlace top) (some (.directory Entry.directoryMode)) :=
  tree.changed_insert objectsPlace_ne_nil _

section Missing

variable (root : FileTree.Leads tree actor FileTree.maxLinks []
    (FilePath.ofText store.root).components top)
  (searchable : tree.Searchable actor top) (free : tree.get? (objectsPlace top) = none)

include root searchable free

theorem leads_withObjects : FileTree.Leads (withObjects top tree) actor FileTree.maxLinks []
    store.objects.components (objectsPlace top) := by
  have changed := changed_withObjects top tree
  have kept : tree.Keeps (withObjects top tree) := by
    apply FileTree.Keeps.changed changed
    intro old there
    cases free.symm.trans there
  rw [objects_eq, FilePath.components_child]
  exact (kept.leads root).append fun left => .down (kept.searchable searchable)
    plain_objectsName.1.short changed.get?_self (.arrived changed.get?_self)

/-- The path of an object leads nowhere, whether there is a directory of all objects or not. -/
theorem stat_withObjects (rooted : tree.Rooted) (address : Address) :
    (withObjects top tree).stat actor true (store.objectPath address) =
      tree.stat actor true (store.objectPath address) := by
  have before : tree.follow actor true FileTree.maxLinks []
      (store.objectPath address).components = .error .noEntry := by
    obtain ⟨left, walk⟩ := root.follow_append true
      [.name objectsName, .name (directoryName address), .name (fileName address)]
      (.inl (List.cons_ne_nil _ _))
    rw [FileTree.follow_free searchable plain_objectsName.1.short free (List.cons_ne_nil _ _)]
      at walk
    rw [components_objectPath, objects_eq, FilePath.components_child, List.append_assoc]
    exact walk
  have afterwards : (withObjects top tree).follow actor true FileTree.maxLinks []
      (store.objectPath address).components = .error .noEntry := by
    have changed := changed_withObjects top tree
    have inside : (withObjects top tree).Searchable actor (objectsPlace top) :=
      ⟨_, changed.get?_self, FileTree.may_directoryMode actor .search⟩
    have nothing : (withObjects top tree).get? (objectsPlace top ++ [directoryName address]) =
        none := by
      rw [changed.get?_of_ne (by simp), rooted.free free]
    obtain ⟨left, walk⟩ := (leads_withObjects root searchable free).follow_append true
      [.name (directoryName address), .name (fileName address)] (.inl (List.cons_ne_nil _ _))
    rw [FileTree.follow_free inside (plain_directoryName address).1.short nothing
      (List.cons_ne_nil _ _)] at walk
    rw [components_objectPath]
    exact walk
  unfold FileTree.stat FileTree.resolve
  rw [before, afterwards]

/-- What is asked about one address has the same answer in both. -/
theorem perform_withObjects (rooted : tree.Rooted) (later : Instant) (address : Address) :
    (store.perform actor later (.exists_ address) (withObjects top tree)).1 =
        (store.perform actor later (.exists_ address) tree).1 ∧
      (store.perform actor later (.get address) (withObjects top tree)).1 =
        (store.perform actor later (.get address) tree).1 := by
  have stat := stat_withObjects root searchable free rooted address
  constructor
  · exact perform_exists_congr (by rw [FileTree.exists_, stat, FileTree.exists_])
  · exact perform_get_congr (by rw [FileTree.contentOf, stat, FileTree.contentOf])

theorem isDirectory_of_free (fits : store.objects.Fits 0) :
    tree.isDirectory actor store.objects = false := by
  have looked : tree.resolve actor false store.objects = .ok (.free top objectsName) := by
    rw [objects_eq] at fits ⊢
    rw [FileTree.resolve_child fits plain_objectsName.1 root searchable, FileTree.lookup,
      ← objectsPlace, free]
  rw [FileTree.isDirectory, FileTree.stat, (FileTree.resolve_eq_free looked).2]
  rfl

theorem isDirectory_withObjects (fits : store.objects.Fits 0) :
    (withObjects top tree).isDirectory actor store.objects = true := by
  rw [FileTree.isDirectory, FileTree.stat_of_leads fits
    ((FilePath.ofText store.root).display_child_ne_empty plain_objectsName.1)
    (leads_withObjects root searchable free) (changed_withObjects top tree).get?_self]
  rfl

/-- A store without a directory of all objects gets one, and there is nothing to clean. -/
theorem cleaned_of_missing (distinct : tree.Distinct) (rooted : tree.Rooted)
    (fits : store.objects.Fits 0)
    (ran : (store.sweep now).run.run (FileTree.perform actor now) (withObjects top tree) =
      (.ok sweep, after)) : store.Cleaned actor now (objectsPlace top) tree sweep after := by
  have leads := leads_withObjects root searchable free
  have changed := changed_withObjects top tree
  have below (names : List FileName) (more : names ≠ []) :
      (withObjects top tree).get? (objectsPlace top ++ names) =
        tree.get? (objectsPlace top ++ names) := changed.get?_of_ne (by simpa using more)
  have nothing (place : Location) : ¬ LeftOver now (objectsPlace top) tree place :=
    not_leftOver (rooted.free free)
  have nothing' (place : Location) :
      ¬ LeftOver now (objectsPlace top) (withObjects top tree) place :=
    not_leftOver fun folder => by rw [below [folder] (List.cons_ne_nil _ _), rooted.free free]
  have same := perform_withObjects root searchable free rooted
  have distinct' : (withObjects top tree).Distinct := distinct.insert _ _
  obtain ⟨hall, leads', cleaned⟩ := cleaned_of_sweep distinct'
    (isDirectory_withObjects root searchable free fits) ran
  obtain rfl := leads'.unique leads
  constructor
  · exact cleaned.leads
  · obtain ⟨gone, nodup, places, rest⟩ := cleaned.removed
    exact ⟨gone, nodup, fun place => (places place).trans
      (iff_of_false (nothing' place) (nothing place)), rest⟩
  · intro place _
    have stays : after.get? place = (withObjects top tree).get? place := by
      rcases cleaned.kept place (nothing' place) with stays | ⟨-, before, -⟩
      · exact stays
      · cases changed.get?_self.symm.trans before
    by_cases here : place = objectsPlace top
    · subst here
      exact .inr ⟨rfl, free, stays.trans changed.get?_self⟩
    · exact .inl (stays.trans (changed.get?_of_ne here))
  · intro later address _
    rw [← (same later address).1]
    exact cleaned.exists_ later address fun place _ _ => nothing' place
  · intro later address _
    rw [← (same later address).2]
    exact cleaned.get later address fun place _ _ => nothing' place
  · intro later address straight straight'
    rw [← (same later address).1, ← (same later address).2]
    apply cleaned.straight
    · rwa [below _ (List.cons_ne_nil _ _)]
    · rwa [below _ (List.cons_ne_nil _ _)]
  · intro later there
    cases (isDirectory_of_free root searchable free fits).symm.trans there
  · exact cleaned.again

end Missing

/-- Whoever opens a store whose root is a directory, without a failure, gets it cleaned of just
the files that are left over.  What was there is found as before, unless it was found through a
link to one of these files, and nothing is removed when the store is opened again. -/
theorem opening_cleans (distinct : tree.Distinct) (rooted : tree.Rooted)
    (root : FileTree.Leads tree actor FileTree.maxLinks []
      (FilePath.ofText store.root).components top)
    (fine : unfailing actor now (store.open_ now).run tree = true) :
    ∃ sweep after hall,
      Opening.ofStore actor now store tree = (.ok (.files store sweep), after) ∧
        after.Distinct ∧ after.Rooted ∧ store.Cleaned actor now hall tree sweep after := by
  obtain ⟨sweep, after, ran⟩ := exists_of_unfailing fine
  have distinct' := distinct.run ran
  have rooted' := rooted.run ran
  have opened : Opening.ofStore actor now store tree = (.ok (.files store sweep), after) := by
    rw [Opening.ofStore, ran]
  rw [run_open, Program.run_step, FileTree.perform] at ran
  rcases makes : FileTree.makeMissing actor (FileTree.ancestry store.objects) tree with
    ⟨answer, made⟩
  rw [makes] at ran
  rcases answer with e | ⟨⟩
  · cases ran
  rw [objects_eq] at makes
  rcases FileTree.makeMissing_child_eq_ok plain_objectsName.1 root makes with
    ⟨standing, rfl⟩ | ⟨fits, searchable, free, rfl⟩
  · obtain ⟨hall, -, cleaned⟩ := cleaned_of_sweep distinct standing ran
    exact ⟨sweep, after, hall, opened, distinct', rooted', cleaned⟩
  · exact ⟨sweep, after, objectsPlace top, opened, distinct', rooted',
      cleaned_of_missing root searchable free distinct rooted fits ran⟩

/-! ### A link to a file that is left over -/

/-- A name that begins as those of temporary files do, but is no text. -/
def garbled : FileName := .raw [46, 116, 109, 112, 45, 255]

/-- A store in which two old files have names that begin as those of temporary files do, and
there is a link to one of them in the place of an object. -/
def strewn : FileTree :=
  ⟨abandoned.entries ++
    [([.text "s", .text "objects", .text "ab", garbled], .file .empty 0 Entry.temporaryMode),
      (directoryPlace [.text "s"] zeros, .directory Entry.directoryMode),
      (objectPlace [.text "s"] zeros, .link "../ab/.tmp-000000")], 0⟩

theorem distinct_strewn : strewn.Distinct := (by decide : strewn.places.Nodup)

theorem rooted_strewn : strewn.Rooted := FileTree.rooted_of_places (by decide)

theorem leads_strewn : FileTree.Leads strewn .owner FileTree.maxLinks []
    (FilePath.ofText "s").components [.text "s"] := by
  rw [components_s]
  exact .down ⟨_, rfl, rfl⟩ (by decide) rfl (.arrived rfl)

theorem unfailing_strewn :
    unfailing .owner staleAge ((FileStore.mk "s").open_ staleAge).run strewn = true := by
  decide +kernel

theorem opening_cleans_strewn :
    strewn.Distinct ∧ strewn.Rooted ∧
      FileTree.Leads strewn .owner FileTree.maxLinks [] (FilePath.ofText "s").components
        [.text "s"] ∧
      unfailing .owner staleAge ((FileStore.mk "s").open_ staleAge).run strewn = true ∧
      ∃ sweep after hall,
        Opening.ofStore .owner staleAge ⟨"s"⟩ strewn = (.ok (.files ⟨"s"⟩ sweep), after) ∧
          after.Distinct ∧ after.Rooted ∧ Cleaned ⟨"s"⟩ .owner staleAge hall strewn sweep after :=
  ⟨distinct_strewn, rooted_strewn, leads_strewn, unfailing_strewn,
    opening_cleans distinct_strewn rooted_strewn leads_strewn unfailing_strewn⟩

/-- The name that is no text stays, and the object that is a link to the other file is lost.
How much there is in a store can be told only since it was opened. -/
theorem opening_noticed :
    strewn.Distinct ∧ strewn.Rooted ∧
      FileTree.Leads strewn .owner FileTree.maxLinks [] (FilePath.ofText "s").components
        [.text "s"] ∧
      unfailing .owner staleAge ((FileStore.mk "s").open_ staleAge).run strewn = true ∧
      ".tmp-".toUTF8.data.toList <+: garbled.toBytes ∧
      ((Opening.ofStore .owner staleAge ⟨"s"⟩ strewn).2.get?
        [.text "s", .text "objects", .text "ab", garbled]).isSome = true ∧
      ((FileStore.mk "s").perform .owner staleAge (.exists_ zeros) strewn).1 = true ∧
      ((FileStore.mk "s").perform .owner staleAge (.exists_ zeros)
        (Opening.ofStore .owner staleAge ⟨"s"⟩ strewn).2).1 = false ∧
      (error? ((FileStore.mk "/").perform .owner staleAge .stats .empty).1).isSome = true ∧
      (error? ((FileStore.mk "/").perform .owner staleAge .stats
        (Opening.ofStore .owner staleAge ⟨"/"⟩ .empty).2).1).isSome = false := by
  refine ⟨distinct_strewn, rooted_strewn, leads_strewn, unfailing_strewn, ?_, ?_, ?_, ?_, ?_, ?_⟩
  all_goals decide +kernel

end ContentNode.FileStore
