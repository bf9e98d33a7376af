import ContentNode.Proofs.FileSystem.Twins
import ContentNode.Proofs.Store.File.Depositing
import ContentNode.Proofs.Store.File.Lasting
import ContentNode.Proofs.Store.Record.Coding

/-!
# What an object is to the others

Two trees that differ only in what stands at the place of one object.  Whoever stores, fetches
or looks for other objects, or opens the store, gets the same answers in both trees, and
afterwards they still differ in nothing else.  So an object does not matter to the others,
unless a symbolic link takes the place of one of them.
-/

namespace ContentNode.FileStore

open FileSystem

variable {store : FileStore} {actor : Actor} {now : Instant} {hall place : Location}
  {tree twin after : FileTree} {address other : Address} {payload : ByteArray}
  {path : FilePath} {directory name : FileName}

/-! ### Places below the directory of all objects -/

/-- The place of the file of an object below the directory of all objects. -/
def spot (hall : Location) (address : Address) : Location :=
  hall ++ [directoryName address] ++ [fileName address]

theorem spot_ne_nil : spot hall address ≠ [] := by simp [spot]

theorem spot_injective (same : spot hall address = spot hall other) : address = other := by
  have names : directoryName address = directoryName other ∧ fileName address = fileName other := by
    simpa [spot] using same
  exact address_injective names.1 names.2

/-- Only files in the directories can be at the place of an object. -/
theorem ne_spot_of_length (short : place.length < hall.length + 2) : place ≠ spot hall address := by
  rintro rfl
  simp [spot] at short

/-- Temporary files are elsewhere. -/
theorem ne_spot_of_temporary (temporary : isTemporary name = true) :
    hall ++ [directory] ++ [name] ≠ spot hall address := by
  intro same
  have names : directory = directoryName address ∧ name = fileName address := by
    simpa [spot] using same
  exact ne_fileName temporary names.2

/-- Neither the directory nor the file of an object is a symbolic link. -/
def Straight (hall : Location) (tree : FileTree) : Prop :=
  ∀ address target, tree.get? (hall ++ [directoryName address]) ≠ some (.link target) ∧
    tree.get? (spot hall address) ≠ some (.link target)

/-- The directory of all objects can be searched, and no object is a symbolic link. -/
structure Grounds (store : FileStore) (actor : Actor) (hall : Location) (tree : FileTree) :
    Prop where
  distinct : tree.Distinct
  reaches : tree.Reaches actor store.objects hall 64
  straight : Straight hall tree

namespace Grounds

theorem lasting (grounds : store.Grounds actor hall tree) (lasting : Lasting tree after)
    (distinct : after.Distinct) : store.Grounds actor hall after := by
  refine ⟨distinct, grounds.reaches.keeps lasting.keeps, fun address target => ⟨?_, ?_⟩⟩
  · exact fun linked => (grounds.straight address target).1 (lasting.unlinked _ _ linked)
  · exact fun linked => (grounds.straight address target).2 (lasting.unlinked _ _ linked)

theorem slot_directory (grounds : store.Grounds actor hall tree) (address : Address) :
    tree.Slot actor store.objects hall (directoryName address) := by
  apply grounds.reaches.slot _ (plain_directoryName address).1
  rw [(plain_directoryName address).2]
  decide

end Grounds

/-- Two trees that differ only in what stands at the place of an object. -/
structure Neighbours (store : FileStore) (actor : Actor) (hall : Location) (address : Address)
    (tree twin : FileTree) : Prop where
  twins : FileTree.Twins (spot hall address) tree twin
  first : store.Grounds actor hall tree
  second : store.Grounds actor hall twin
  parent : ∃ mode, tree.get? (hall ++ [directoryName address]) = some (.directory mode)

namespace Neighbours

theorem symm (neighbours : store.Neighbours actor hall address tree twin) :
    store.Neighbours actor hall address twin tree := by
  refine ⟨neighbours.twins.symm, neighbours.second, neighbours.first, ?_⟩
  rw [neighbours.twins.get? spot_ne_nil (ne_spot_of_length (by simp))]
  exact neighbours.parent

/-- Neighbours stay such if both change at the place at most. -/
theorem lasting {tree' twin' : FileTree}
    (neighbours : store.Neighbours actor hall address tree twin)
    (twins : FileTree.Twins (spot hall address) tree' twin')
    (first : Lasting tree tree' ∧ tree'.Distinct) (second : Lasting twin twin' ∧ twin'.Distinct) :
    store.Neighbours actor hall address tree' twin' := by
  obtain ⟨mode, parent⟩ := neighbours.parent
  exact ⟨twins, neighbours.first.lasting first.1 first.2,
    neighbours.second.lasting second.1 second.2, mode, first.1.keeps _ _ (by simp [Entry.type]) parent⟩

/-! ### Paths that lead to the same -/

section Alongside

variable (neighbours : store.Neighbours actor hall address tree twin)

include neighbours

private theorem alongside {names : List FileName}
    (steps : path.components = store.objects.components ++ names.map .name)
    (apart : hall ++ names ≠ spot hall address) (few : names.length ≤ 2)
    (straight : ∀ below, below ≠ [] → below <+: names → ∀ target,
      tree.get? (hall ++ below) ≠ some (.link target)) :
    FileTree.Alongside tree twin actor path hall names := by
  refine ⟨⟨_, steps, neighbours.first.reaches.leads, neighbours.second.reaches.leads⟩,
    fun below inside => ⟨neighbours.twins.get? spot_ne_nil ?_, ?_⟩⟩
  · by_cases whole : below = names
    · exact whole ▸ apart
    · apply ne_spot_of_length
      have shorter : below.length < names.length :=
        Nat.lt_of_le_of_ne inside.length_le fun same => whole (inside.eq_of_length same)
      rw [List.length_append]
      omega
  · by_cases here : below = []
    · obtain ⟨mode, there, -⟩ := neighbours.first.reaches.searchable
      subst here
      simp [there]
    · exact straight below here inside

theorem alongside_objects : FileTree.Alongside tree twin actor store.objects hall [] :=
  neighbours.alongside (by simp) (ne_spot_of_length (by simp)) (by simp)
    fun below more inside => absurd (List.prefix_nil.mp inside) more

theorem alongside_child (straight : ∀ target, tree.get? (hall ++ [name]) ≠ some (.link target)) :
    FileTree.Alongside tree twin actor (store.objects.child name) hall [name] := by
  apply neighbours.alongside (store.objects.components_child name) (ne_spot_of_length (by simp))
    (by simp)
  intro below more inside
  rcases List.prefix_cons_iff.mp inside with rfl | ⟨rest, rfl, behind⟩
  · exact absurd rfl more
  · rw [List.prefix_nil.mp behind]
    exact straight

theorem alongside_grandchild
    (straight : ∀ target, tree.get? (hall ++ [directory]) ≠ some (.link target))
    (straight' : ∀ target, tree.get? (hall ++ [directory] ++ [name]) ≠ some (.link target))
    (apart : hall ++ [directory] ++ [name] ≠ spot hall address) :
    FileTree.Alongside tree twin actor ((store.objects.child directory).child name) hall
      [directory, name] := by
  have pair : hall ++ [directory, name] = hall ++ [directory] ++ [name] := by simp
  apply neighbours.alongside _ (pair ▸ apart) (by simp)
  · intro below more inside
    rcases List.prefix_cons_iff.mp inside with rfl | ⟨rest, rfl, behind⟩
    · exact absurd rfl more
    · rcases List.prefix_cons_iff.mp behind with rfl | ⟨last, rfl, end_⟩
      · exact straight
      · rw [List.prefix_nil.mp end_, pair]
        exact straight'
  · rw [FilePath.components_child, FilePath.components_child, List.append_assoc]
    rfl

theorem alongside_directory (other : Address) :
    FileTree.Alongside tree twin actor (store.directory other) hall [directoryName other] :=
  neighbours.alongside_child fun target => (neighbours.first.straight other target).1

theorem alongside_object (apart : other ≠ address) :
    FileTree.Alongside tree twin actor (store.objectPath other) hall
      [directoryName other, fileName other] :=
  neighbours.alongside_grandchild (fun target => (neighbours.first.straight other target).1)
    (fun target => (neighbours.first.straight other target).2)
    fun same => apart (spot_injective same)

end Alongside

end Neighbours

/-! ### Storing -/

namespace Grounds

theorem makeMissing (grounds : store.Grounds actor hall tree) (paths : List FilePath) :
    store.Grounds actor hall (FileTree.makeMissing actor paths tree).2 :=
  grounds.lasting (.of_furnished (FileTree.furnished_makeMissing actor paths tree))
    (grounds.distinct.makeMissing actor paths)

/-- A temporary file in the directory of an object ends up as the file of this object. -/
theorem run_deliver (grounds : store.Grounds actor hall tree) {file : FilePath}
    {record : ByteArray} (fits : (store.objectPath other).Fits 0)
    (something : record.isEmpty = false)
    (made : tree.createTemporary actor now (store.directory other) = .ok (file, after)) :
    (store.deliver other file record).run (FileTree.perform actor now) after =
      ((install actor (hall ++ [directoryName other]) (fileName other)
        (.file record now Entry.temporaryMode) tree).1,
      { (install actor (hall ++ [directoryName other]) (fileName other)
          (.file record now Entry.temporaryMode) tree).2 with
        temporaries := after.temporaries }) := by
  obtain ⟨place, mode, found, delivered⟩ := run_deliver_of_created fits something made
  rw [directory_eq, (grounds.slot_directory other).stat fun target =>
    (grounds.straight other target).1] at found
  obtain rfl : hall ++ [directoryName other] = place := by
    split at found <;> cases found
    rfl
  exact delivered

/-- What storing an object answers and leaves. -/
theorem perform_put (grounds : store.Grounds actor hall tree) (now : Instant) (other : Address)
    (payload : ByteArray) : store.perform actor now (.put other payload) tree =
      match tree.exists_ actor (store.objectPath other) with
      | .error e => (.error (.io e), tree)
      | .ok true => (.ok .alreadyPresent, tree)
      | .ok false =>
        match FileTree.makeMissing actor (FileTree.ancestry (store.directory other)) tree with
        | (.error e, made) => (.error (.io e), made)
        | (.ok (), made) =>
          match Record.encode now payload with
          | .error e => (.error e, made)
          | .ok record =>
            match made.createTemporary actor now (store.directory other) with
            | .error e => (.error (.io e), made)
            | .ok (_, begun) =>
              ((install actor (hall ++ [directoryName other]) (fileName other)
                (.file record now Entry.temporaryMode) made).1,
              { (install actor (hall ++ [directoryName other]) (fileName other)
                  (.file record now Entry.temporaryMode) made).2 with
                temporaries := begun.temporaries }) := by
  have made := grounds.makeMissing (FileTree.ancestry (store.directory other))
  change (store.put now other payload).run.run (FileTree.perform actor now) tree = _
  rw [run_put, Program.run_step, FileTree.perform]
  rcases looked : tree.exists_ actor (store.objectPath other) with e | ⟨⟩ | ⟨⟩
  · rfl
  · have fits : (store.objectPath other).Fits 0 := by
      refine FileTree.fits_of_exists_ ?_ looked
      exact (store.directory other).display_child_ne_empty (plain_fileName other).1
    dsimp only
    rw [Program.run_step, FileTree.perform]
    rcases prepares : FileTree.makeMissing actor (FileTree.ancestry (store.directory other)) tree
      with ⟨e | ⟨⟩, prepared⟩
    · rfl
    · rw [prepares] at made
      dsimp only
      cases encoded : Record.encode now payload with
      | error e => rfl
      | ok record =>
          dsimp only
          rw [Program.run_step, FileTree.perform]
          cases created : prepared.createTemporary actor now (store.directory other) with
          | error e => rfl
          | ok outcome =>
              obtain ⟨file, begun⟩ := outcome
              exact made.run_deliver fits (Record.isEmpty_of_encode encoded) created
  · rfl

end Grounds

/-- Two outcomes are the same and leave trees that differ only in what stands at the place of an
object. -/
def Together {α : Type} (store : FileStore) (actor : Actor) (hall : Location) (address : Address)
    (one two : α × FileTree) : Prop :=
  two.1 = one.1 ∧ store.Neighbours actor hall address one.2 two.2

theorem perform_distinct (distinct : tree.Distinct) (store : FileStore) (actor : Actor)
    (now : Instant) (op : StoreOperation) : (store.perform actor now op tree).2.Distinct :=
  distinct.run rfl

namespace Neighbours

section Storing

variable (neighbours : store.Neighbours actor hall address tree twin)

include neighbours

/-- The directory of an object is made in both trees or in none. -/
theorem makeDirectory (other : Address) : Together store actor hall address
    (FileTree.makeMissing actor (FileTree.ancestry (store.directory other)) tree)
    (FileTree.makeMissing actor (FileTree.ancestry (store.directory other)) twin) := by
  have first := neighbours.first.slot_directory other
  have second := neighbours.second.slot_directory other
  have same : twin.get? (hall ++ [directoryName other]) =
      tree.get? (hall ++ [directoryName other]) :=
    neighbours.twins.get? spot_ne_nil (ne_spot_of_length (by simp))
  have straight (target : String) := (neighbours.first.straight other target).1
  have furnished (tree : FileTree) := Lasting.of_furnished (FileTree.furnished_makeMissing actor
    (FileTree.ancestry (store.directory other)) tree)
  have after (twins : FileTree.Twins (spot hall address)
      (FileTree.makeMissing actor (FileTree.ancestry (store.directory other)) tree).2
      (FileTree.makeMissing actor (FileTree.ancestry (store.directory other)) twin).2) :=
    neighbours.lasting twins ⟨furnished _, neighbours.first.distinct.makeMissing actor _⟩
      ⟨furnished _, neighbours.second.distinct.makeMissing actor _⟩
  rw [directory_eq] at after ⊢
  rcases there : tree.get? (hall ++ [directoryName other]) with _ | content | mode | target
  · have allowed := neighbours.alongside_objects.same.mayUse actor List.prefix_rfl .write
    rw [List.append_nil] at allowed
    cases writable : tree.mayUse actor .write hall with
    | true =>
        rw [FileTree.makeMissing_child_of_free first there writable,
          FileTree.makeMissing_child_of_free second (same.trans there) (allowed.trans writable)]
          at after ⊢
        exact ⟨rfl, after (neighbours.twins.insert (ne_spot_of_length (by simp)) _)⟩
    | false =>
        rw [FileTree.makeMissing_child_of_closed first there writable,
          FileTree.makeMissing_child_of_closed second (same.trans there) (allowed.trans writable)]
        exact ⟨rfl, neighbours⟩
  · rw [FileTree.makeMissing_child_of_taken first straight there rfl,
      FileTree.makeMissing_child_of_taken second (same ▸ straight) (same.trans there) rfl]
    exact ⟨rfl, neighbours⟩
  · rw [FileTree.makeMissing_child first there,
      FileTree.makeMissing_child second (same.trans there)]
    exact ⟨rfl, neighbours⟩
  · exact absurd there (straight target)

/-- Another object gets its file in both trees or in none. -/
theorem install (apart : other ≠ address) (record : ByteArray) (modified : Instant) (mode : Nat) :
    Together store actor hall address
      (FileStore.install actor (hall ++ [directoryName other]) (fileName other)
        (.file record modified mode) tree)
      (FileStore.install actor (hall ++ [directoryName other]) (fileName other)
        (.file record modified mode) twin) := by
  have elsewhere : spot hall other ≠ spot hall address := fun same => apart (spot_injective same)
  have same : twin.get? (spot hall other) = tree.get? (spot hall other) :=
    neighbours.twins.get? spot_ne_nil elsewhere
  unfold Together FileStore.install
  rw [(neighbours.alongside_directory other).same.mayUse actor List.prefix_rfl, ← spot, same]
  cases taken : tree.get? (spot hall other) with
  | some entry => exact ⟨rfl, neighbours⟩
  | none =>
      refine ⟨rfl, neighbours.lasting (neighbours.twins.insert elsewhere _) ?_ ?_⟩
      · exact ⟨.of_changed taken (tree.changed_insert spot_ne_nil _),
          neighbours.first.distinct.insert _ _⟩
      · exact ⟨.of_changed (same.trans taken) (twin.changed_insert spot_ne_nil _),
          neighbours.second.distinct.insert _ _⟩

/-- Names that were used for temporary files do not matter. -/
theorem counted (used used' : Nat) : store.Neighbours actor hall address
    { tree with temporaries := used } { twin with temporaries := used' } :=
  neighbours.lasting neighbours.twins
    ⟨⟨fun _ _ _ there _ => there, fun _ _ linked => linked⟩, neighbours.first.distinct⟩
    ⟨⟨fun _ _ _ there _ => there, fun _ _ linked => linked⟩, neighbours.second.distinct⟩

/-- Another object is stored in both trees or in none. -/
theorem put (apart : other ≠ address) (now : Instant) (payload : ByteArray) :
    Together store actor hall address (store.perform actor now (.put other payload) tree)
      (store.perform actor now (.put other payload) twin) := by
  have made := neighbours.makeDirectory other
  rw [neighbours.first.perform_put, neighbours.second.perform_put,
    (neighbours.alongside_object apart).exists_]
  rcases tree.exists_ actor (store.objectPath other) with e | ⟨⟩ | ⟨⟩
  · exact ⟨rfl, neighbours⟩
  · generalize FileTree.makeMissing actor (FileTree.ancestry (store.directory other)) tree =
      prepared at made ⊢
    generalize FileTree.makeMissing actor (FileTree.ancestry (store.directory other)) twin =
      prepared' at made ⊢
    obtain ⟨outcome, tree'⟩ := prepared
    obtain ⟨outcome', twin'⟩ := prepared'
    obtain ⟨rfl, made⟩ : outcome' = outcome ∧
      store.Neighbours actor hall address tree' twin' := made
    rcases outcome' with e | ⟨⟩
    · exact ⟨rfl, made⟩
    · cases Record.encode now payload with
      | error e => exact ⟨rfl, made⟩
      | ok record =>
          dsimp only
          rcases (made.alongside_directory other).createTemporary (fun number =>
              made.twins.get? spot_ne_nil
                (ne_spot_of_temporary (isTemporary_temporaryName number))) now with
            ⟨e, failed, failed'⟩ | ⟨⟨⟨_, begun⟩, created⟩, ⟨_, begun'⟩, created'⟩
          · rw [failed, failed']
            exact ⟨rfl, made⟩
          · rw [created, created']
            obtain ⟨answer, kept⟩ := made.install apart record now Entry.temporaryMode
            exact ⟨answer, kept.counted begun.temporaries begun'.temporaries⟩
  · exact ⟨rfl, neighbours⟩

/-- The object itself can be stored in one of the trees only. -/
theorem put_self (now : Instant) (payload : ByteArray) :
    store.Neighbours actor hall address (store.perform actor now (.put address payload) tree).2
      twin := by
  suffices twins : FileTree.Twins (spot hall address)
      (store.perform actor now (.put address payload) tree).2 tree from
    neighbours.lasting (twins.trans neighbours.twins)
      ⟨lasting_put store actor now address payload tree,
        perform_distinct neighbours.first.distinct store actor now _⟩
      ⟨.refl twin, neighbours.second.distinct⟩
  obtain ⟨mode, parent⟩ := neighbours.parent
  rw [neighbours.first.perform_put, directory_eq,
    FileTree.makeMissing_child (neighbours.first.slot_directory address) parent]
  rcases tree.exists_ actor (store.objectPath address) with e | ⟨⟩ | ⟨⟩
  · exact .refl _ _
  · cases Record.encode now payload with
    | error e => exact .refl _ _
    | ok record =>
        dsimp only
        cases tree.createTemporary actor now (store.objects.child (directoryName address)) with
        | error e => exact .refl _ _
        | ok outcome =>
            rw [FileStore.install]
            cases tree.get? (hall ++ [directoryName address] ++ [fileName address]) with
            | some entry => exact .refl _ _
            | none => exact (FileTree.Twins.of_insert _ _ _).symm
  · exact .refl _ _

end Storing

/-! ### Fetching -/

section Fetching

variable (neighbours : store.Neighbours actor hall address tree twin)

include neighbours

theorem exists_ (apart : other ≠ address) (now : Instant) :
    Together store actor hall address (store.perform actor now (.exists_ other) tree)
      (store.perform actor now (.exists_ other) twin) := by
  refine ⟨perform_exists_congr (neighbours.alongside_object apart).exists_, ?_⟩
  rw [perform_exists_snd, perform_exists_snd]
  exact neighbours

theorem get (apart : other ≠ address) (now : Instant) :
    Together store actor hall address (store.perform actor now (.get other) tree)
      (store.perform actor now (.get other) twin) := by
  refine ⟨perform_get_congr (neighbours.alongside_object apart).contentOf, ?_⟩
  rw [perform_get_snd, perform_get_snd]
  exact neighbours

end Fetching

end Neighbours

end ContentNode.FileStore
