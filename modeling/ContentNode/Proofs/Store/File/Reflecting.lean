import ContentNode.Proofs.Store.File.Sequential
import ContentNode.Proofs.Store.KeepsFirst

/-!
# The objects of the files

The files of a store hold the same objects as a store in memory.  One who uses the store
alone keeps it so, whatever temporary files others have left over.
-/

namespace ContentNode.FileStore

open FileSystem

variable {store : FileStore} {actor : Actor} {now later : Instant} {top : Location}
  {tree after : FileTree} {memory : MemoryStore} {address : Address} {payload record : ByteArray}
  {number : Nat}

/-- A file holds a record of a payload. -/
def Records (payload record : ByteArray) : Prop :=
  ∃ createdAt, Record.Timely createdAt ∧ Record.encode createdAt payload = .ok record

/-- The files of a store hold the same objects as a store in memory. -/
structure Reflects (store : FileStore) (actor : Actor) (top : Location) (memory : MemoryStore)
    (tree : FileTree) : Prop where
  layout : store.Layout actor top tree
  distinct : memory.Distinct
  objects : ∀ address, Option.Rel Records (memory.payload? address) (object? top tree address)

namespace Reflects

/-- An address is free in both, or it has the same payload in both. -/
theorem free_or_held (reflects : Reflects store actor top memory tree) (address : Address) :
    (memory.get? address = none ∧ object? top tree address = none) ∨
      ∃ payload moment record, memory.get? address = some ⟨address, payload, moment⟩ ∧
        object? top tree address = some record ∧ Records payload record := by
  have related := reflects.objects address
  unfold MemoryStore.payload? at related
  cases kept : memory.get? address with
  | none =>
      rw [kept] at related
      cases file : object? top tree address with
      | none => exact .inl ⟨rfl, rfl⟩
      | some record =>
          rw [file] at related
          cases related
  | some object =>
      obtain rfl := MemoryStore.address_of_get? kept
      rw [kept] at related
      cases file : object? top tree object.address with
      | none =>
          rw [file] at related
          cases related
      | some record =>
          rw [file] at related
          cases related with
          | some records => exact .inr ⟨_, _, _, rfl, rfl, records⟩

/-! ### Operations -/

/-- An object that is taken is not stored again. -/
theorem put_taken (reflects : Reflects store actor top memory tree)
    (taken : memory.contains address = true) :
    store.perform actor now (.put address payload) tree = (.ok .alreadyPresent, tree) := by
  rcases reflects.free_or_held address with ⟨unknown, -⟩ | ⟨_, _, record, -, held, -⟩
  · rw [MemoryStore.contains, unknown] at taken
    cases taken
  · exact perform_put_of_taken reflects.layout held

/-- A new object is added to both. -/
theorem add (reflects : Reflects store actor top memory tree) (later : Instant)
    (timely : Record.Timely now) (encoded : Record.encode now payload = .ok record)
    (unused : memory.contains address = false) (layout : store.Layout actor top after)
    (objects : ∀ other, object? top after other =
      if other = address then some record else object? top tree other) :
    Reflects store actor top (memory.put later address payload).2 after := by
  refine ⟨layout, reflects.distinct.put, fun other => ?_⟩
  rw [MemoryStore.put_of_free unused, objects, MemoryStore.payload?, MemoryStore.get?_add unused]
  by_cases same : other = address
  · rw [if_pos same, if_pos same]
    exact .some ⟨now, timely, encoded⟩
  · rw [if_neg same, if_neg same]
    exact reflects.objects other

/-- A new object is stored in both if it can be stored in the files; the temporary files stay
as they are. -/
theorem put_free (reflects : Reflects store actor top memory tree) (later : Instant)
    (timely : Record.Timely now) (payload : ByteArray)
    (unused : memory.contains address = false) :
    ∃ after, (∀ other number, after.get? (temporaryPlace top other number) =
        tree.get? (temporaryPlace top other number)) ∧
      ((store.perform actor now (.put address payload) tree = (.ok .created, after) ∧
        Reflects store actor top (memory.put later address payload).2 after) ∨
      ∃ e, store.perform actor now (.put address payload) tree = (.error e, after) ∧
        Reflects store actor top memory after ∧
        (Record.encode now payload = .error e ∨
          ∀ number, tree.get? (temporaryPlace top address number) ≠ none)) := by
  have free : object? top tree address = none := by
    rcases reflects.free_or_held address with ⟨-, free⟩ | ⟨_, _, _, known, -⟩
    · exact free
    · rw [MemoryStore.contains, known] at unused
      cases unused
  obtain ⟨after, layout, ⟨record, encoded, stored, files⟩ | ⟨e, failed, files, reason⟩⟩ :=
    perform_put_cases reflects.layout now payload free
  · refine ⟨after, fun other number => ?_, .inl ⟨stored, ?_⟩⟩
    · rw [temporaryPlace, files, if_neg]
      exact temporaryPlace_ne_objectPlace
    · exact reflects.add later timely encoded unused layout (object?_of_files files rfl)
  · refine ⟨after, fun _ _ => files _ _, .inr ⟨e, failed, ⟨layout, reflects.distinct, ?_⟩, reason⟩⟩
    intro other
    rw [object?_congr (files _ _)]
    exact reflects.objects other

/-- The same payload is fetched from both. -/
theorem get (reflects : Reflects store actor top memory tree) (now : Instant)
    (address : Address) :
    (match memory.payload? address with
      | some payload => ∃ createdAt, store.perform actor now (.get address) tree =
        (.ok ⟨address, payload, createdAt⟩, tree)
      | none => store.perform actor now (.get address) tree = (.error (.notFound address), tree)) := by
  rw [perform_get (reflects.layout.legible address), reflects.layout.file?_eq, MemoryStore.payload?]
  rcases reflects.free_or_held address with
    ⟨unknown, free⟩ | ⟨payload, moment, record, known, taken, createdAt, timely, encoded⟩
  · rw [unknown, free]
    rfl
  · have given : Record.decodeObject address record =
        .ok ⟨address, payload, Instant.ofMilliseconds createdAt.milliseconds⟩ := by
      rw [Record.decodeObject, Record.decode_of_encode timely encoded]
    rw [known, taken]
    dsimp only
    rw [given]
    exact ⟨_, rfl⟩

/-- Both have the same objects. -/
theorem exists_ (reflects : Reflects store actor top memory tree) :
    store.perform actor now (.exists_ address) tree = (memory.contains address, tree) := by
  rw [perform_exists (reflects.layout.legible address), reflects.layout.file?_eq,
    MemoryStore.contains]
  rcases reflects.free_or_held address with
    ⟨unknown, free⟩ | ⟨payload, moment, record, known, taken, -⟩
  · rw [unknown, free]
    rfl
  · rw [known, taken]
    rfl

/-- The objects that are counted in the files are those that are held in memory. -/
theorem perm_of_tally (reflects : Reflects store actor top memory tree)
    {found : List (Address × ByteArray)} {stats : StoreStats} (tally : Tally top tree found stats)
    (complete : ∀ address content, object? top tree address = some content →
      address ∈ found.map Prod.fst) :
    (found.map Prod.fst).Perm (memory.objects.map (·.address)) := by
  rw [List.perm_ext_iff_of_nodup tally.distinct reflects.distinct]
  intro address
  constructor
  · intro member
    obtain ⟨⟨_, content⟩, counted, rfl⟩ := List.mem_map.mp member
    rcases reflects.free_or_held _ with ⟨-, free⟩ | ⟨payload, moment, record, known, -⟩
    · cases free.symm.trans (tally.held _ _ counted)
    · exact List.mem_map.mpr ⟨_, MemoryStore.mem_of_get? known, rfl⟩
  · intro member
    obtain ⟨object, kept, rfl⟩ := List.mem_map.mp member
    rcases reflects.free_or_held object.address with
      ⟨unknown, -⟩ | ⟨payload, moment, record, -, taken, -⟩
    · cases unknown.symm.trans (MemoryStore.get?_of_mem reflects.distinct kept)
    · exact complete _ _ taken

/-- Both count the same.  The sizes are those of the payloads of the same addresses. -/
theorem stats (reflects : Reflects store actor top memory tree) :
    store.perform actor now .stats tree = (.ok memory.stats, tree) := by
  obtain ⟨found, stats, performed, tally, complete⟩ := perform_stats reflects.layout now
  have files : found.map (fun pair => pair.2.size - Record.overhead) =
      (found.map Prod.fst).map memory.sizeAt := by
    rw [List.map_map]
    apply List.map_congr_left
    rintro ⟨address, content⟩ member
    rcases reflects.free_or_held address with
      ⟨-, free⟩ | ⟨payload, moment, record, known, taken, createdAt, -, encoded⟩
    · cases free.symm.trans (tally.held _ _ member)
    · cases taken.symm.trans (tally.held _ _ member)
      simp [MemoryStore.sizeAt, MemoryStore.payload?, known, Record.size_of_encode encoded]
  have objects : memory.objects.map StoredObject.size =
      (memory.objects.map (·.address)).map memory.sizeAt := by
    rw [List.map_map]
    apply List.map_congr_left
    intro object member
    simp [MemoryStore.sizeAt, MemoryStore.payload?,
      MemoryStore.get?_of_mem reflects.distinct member, StoredObject.size]
  -- Files are listed in another order than that in which objects were stored.
  have perm := (reflects.perm_of_tally tally complete).map memory.sizeAt
  rw [← files, ← objects] at perm
  rw [performed, tally.counted, StoreStats.ofSizes_of_perm perm]
  rfl

end Reflects

/-- A store in files holds the payloads of a store in memory that it reflects. -/
theorem keepsFirst (store : FileStore) (actor : Actor) (top : Location) :
    KeepsFirst (store.perform actor) Record.Timely fun tree held =>
      ∃ memory, Reflects store actor top memory tree ∧ memory.payload? = held := by
  constructor
  · rintro now address tree _ - ⟨memory, reflects, rfl⟩
    rw [reflects.exists_, MemoryStore.contains_eq_isSome]
    exact ⟨rfl, memory, reflects, rfl⟩
  · rintro now address tree _ - ⟨memory, reflects, rfl⟩
    have given := reflects.get now address
    cases held : memory.payload? address with
    | none =>
        rw [held] at given
        rw [given]
        exact ⟨rfl, memory, reflects, rfl⟩
    | some payload =>
        rw [held] at given
        obtain ⟨createdAt, given⟩ := given
        rw [given]
        exact ⟨⟨createdAt, rfl⟩, memory, reflects, rfl⟩
  · rintro now address payload tree _ - ⟨memory, reflects, rfl⟩ taken
    rw [← MemoryStore.contains_eq_isSome] at taken
    rw [reflects.put_taken taken]
    exact ⟨rfl, memory, reflects, rfl⟩
  · rintro now address payload tree _ timely ⟨memory, reflects, rfl⟩ free
    have unused : memory.contains address = false := by
      rw [MemoryStore.contains_eq_isSome, free, Option.isSome_none]
    obtain ⟨after, -, ⟨stored, more⟩ | ⟨e, failed, same, -⟩⟩ :=
      reflects.put_free now timely payload unused
    · rw [stored]
      refine .inl ⟨rfl, _, more, ?_⟩
      rw [MemoryStore.payload?_put, free]
      rfl
    · rw [failed]
      exact .inr ⟨e, rfl, memory, same, rfl⟩

end ContentNode.FileStore
