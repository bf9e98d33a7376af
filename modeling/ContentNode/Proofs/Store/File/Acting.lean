import ContentNode.Proofs.Store.File.Sharing

/-!
# Operations among others

What a user of a store can go on with after each operation that changes files, while
others act before it and after it.
-/

namespace ContentNode.FileStore

open FileSystem

variable {store : FileStore} {actor : Actor} {top place : Location} {address : Address}
  {caller number : Nat} {asked : Request} {held kept : Option Location} {w t u : World}
  {content payload record : ByteArray} {left : Option Entry} {α : Type}
  {post : Option Location → α → World → Prop}

/-- A temporary file has this content. -/
def Holds (place : Location) (content : ByteArray) (w : World) : Prop :=
  ∃ modified, w.tree.get? place = some (.file content modified Entry.temporaryMode)

theorem Relies.holds (relies : Relies store actor top (some place) w t)
    (holds : Holds place content w) : Holds place content t := by
  obtain ⟨modified, there⟩ := holds
  exact ⟨modified, (relies.own place rfl).trans there⟩

/-- The directory of a temporary file. -/
theorem Layout.directory_of_holds (layout : store.Layout actor top w.tree)
    (holds : Holds (temporaryPlace top address number) content w) :
    ∃ parent, w.tree.get? (directoryPlace top address) = some parent := by
  obtain ⟨modified, there⟩ := holds
  exact (layout.files _ _ _ there).1

/-- What a user finds after others have acted: its temporary file, in its directory. -/
theorem Relies.temporary
    (relies : Relies store actor top (some (temporaryPlace top address number)) w t)
    (layout : store.Layout actor top w.tree)
    (holds : Holds (temporaryPlace top address number) content w) :
    store.Layout actor top t.tree ∧
      (∃ parent, t.tree.get? (directoryPlace top address) = some parent) ∧
        Holds (temporaryPlace top address number) content t := by
  have mine := relies.holds holds
  have layoutT := (relies.evolves.grows layout).layout
  exact ⟨layoutT, layoutT.directory_of_holds mine, mine⟩

/-- A user can make, change and remove the temporary file that it owns. -/
theorem Guarantees.of_temporary (layout : store.Layout actor top w.tree)
    (afterLayout : store.Layout actor top u.tree)
    (changed : w.tree.Changed u.tree (temporaryPlace top address number) left) {event : Event}
    (recorded : u.history = w.history ++ [event])
    (silent : ∀ address, event.names store address = false)
    (mine : held = some (temporaryPlace top address number) ∨
      w.tree.get? (temporaryPlace top address number) = none)
    (new : kept = held ∨ ∀ place, kept = some place → w.tree.get? place = none)
    (owns : Owns top kept u) : Guarantees store actor top caller asked held w kept u := by
  apply Guarantees.of_silent _ _ recorded silent _ new fun _ => owns
  · intro _
    exact .of_temporary layout afterLayout changed
  · intro other
    exact object?_of_temporary changed
  · intro address' number' foreign there
    apply changed.get?_of_ne
    intro same
    rw [same] at foreign there
    rcases mine with own | free
    · exact foreign own
    · exact there free

/-- A user can give an object its name if there is none, and the object is the one that
it was asked to store. -/
theorem Guarantees.of_link {file : FilePath} {modified : Instant} {mode : Nat}
    (layout : store.Layout actor top w.tree) (named : Named store top w)
    (afterLayout : store.Layout actor top u.tree)
    (request : asked.op = .put address payload)
    (encoded : Record.encode asked.now payload = .ok record)
    (free : object? top w.tree address = none)
    (changed : w.tree.Changed u.tree (objectPlace top address)
      (some (.file record modified mode)))
    (recorded : u.history =
      w.history ++ [⟨caller, .link file (store.objectPath address), .ok ()⟩])
    (owns : Owns top held u) :
    Guarantees store actor top caller asked held w held u ∧
      namers store address u.history = [caller] := by
  have object (other : Address) : object? top u.tree other =
      if other = address then some record else object? top w.tree other :=
    object?_of_added changed
  have nobody : namers store address w.history = [] := by
    rcases named address with ⟨-, nobody⟩ | ⟨_, _, held, -⟩
    · exact nobody
    · cases free.symm.trans held
  have mine : namers store address u.history = [caller] := by
    rw [recorded, namers_concat, nobody]
    simp [Event.names]
  have foreign (other : Address) (different : other ≠ address) :
      namers store other u.history = namers store other w.history := by
    have apart : store.objectPath address ≠ store.objectPath other :=
      fun same => different (objectPath_injective same).symm
    rw [recorded, namers_concat]
    simp [Event.names, apart]
  have evolves : Evolves store actor top w u := by
    constructor
    · exact fun _ => .of_object layout afterLayout free changed
    · exact ⟨_, recorded.symm⟩
    · intro _ _ other
      rw [object other]
      by_cases same : other = address
      · subst same
        exact .inr ⟨record, caller, if_pos rfl, mine⟩
      · rw [if_neg same, foreign other same]
        exact named other
  refine ⟨?_, mine⟩
  constructor
  · exact evolves
  · intro other
    by_cases same : other = address
    · subst same
      exact .inr ⟨mine, payload, record, request, encoded, (object other).trans (if_pos rfl)⟩
    · exact .inl (foreign other same)
  · exact fun _ _ _ _ => changed.get?_of_ne temporaryPlace_ne_objectPlace
  · exact .inl rfl
  · exact fun _ => owns

/-! ### Directories -/

/-- The directory of an object is there after it was made. -/
theorem meets_makeDirectory (layout : store.Layout actor top w.tree)
    {next : Except IoError Unit → FileProgram α}
    (further : ∀ u, Evolves store actor top w u →
      (∃ parent, u.tree.get? (directoryPlace top address) = some parent) →
      Program.Meets (store.terms actor top caller asked) post (next (.ok ())) none u) :
    Program.Meets (store.terms actor top caller asked) post
      (.step (.makeDirectories (store.directory address)) next) none w := by
  intro t others answer u performed
  obtain ⟨now, result⟩ := Performs.perform_eq performed nofun
  have growth := others.evolves.grows layout
  obtain ⟨after, made, afterLayout, kept, there, sameFiles⟩ :=
    growth.layout.perform_makeDirectory now address
  rw [made] at result
  cases result
  have guaranteed : Guarantees store actor top caller asked none t none u := by
    apply Guarantees.of_silent _ _ (Performs.history_eq performed) _ _ (.inl rfl)
    · exact fun _ => nofun
    · intro _
      exact ⟨afterLayout, kept, fun other content held => by
        rwa [object?_congr (sameFiles _ _)]⟩
    · exact fun other => object?_congr (sameFiles _ _)
    · exact fun _ => rfl
    · exact fun _ _ _ _ => sameFiles _ _
  exact ⟨none, guaranteed, further u (others.evolves.trans guaranteed.evolves) there⟩

/-- A directory is made durable. -/
theorem meets_syncDirectory (layout : store.Layout actor top w.tree) {parent : Entry}
    (there : w.tree.get? (directoryPlace top address) = some parent)
    {next : Except IoError Unit → FileProgram α}
    (further : ∀ u, Evolves store actor top w u →
      Program.Meets (store.terms actor top caller asked) post (next (.ok ())) held u) :
    Program.Meets (store.terms actor top caller asked) post
      (.step (.syncDirectory (store.directory address)) next) held w := by
  intro t others answer u performed
  obtain ⟨now, result⟩ := Performs.perform_eq performed nofun
  have growth := others.evolves.grows layout
  obtain ⟨parent, stands⟩ := growth.directory layout there
  rw [growth.layout.perform_syncDirectory stands] at result
  obtain ⟨rfl, same⟩ := Prod.mk.inj result
  have guaranteed : Guarantees store actor top caller asked held t held u :=
    .of_same same.symm (Performs.history_eq performed) fun _ => rfl
  exact ⟨held, guaranteed, further u (others.evolves.trans guaranteed.evolves)⟩

/-! ### Temporary files -/

theorem owns_temporary {entry : Entry}
    (there : u.tree.get? (temporaryPlace top address number) = some entry) :
    Owns top (some (temporaryPlace top address number)) u := by
  rintro place own
  cases own
  constructor
  · exact ⟨address, number, rfl⟩
  · rw [there]
    exact Option.some_ne_none entry

/-- A user gets a temporary file of its own, or none. -/
theorem meets_createTemporary (layout : store.Layout actor top w.tree) {parent : Entry}
    (there : w.tree.get? (directoryPlace top address) = some parent)
    {next : Except IoError FilePath → FileProgram α}
    (failed : ∀ u e, Evolves store actor top w u →
      Program.Meets (store.terms actor top caller asked) post (next (.error e)) none u)
    (further : ∀ u number, Evolves store actor top w u →
      Holds (temporaryPlace top address number) ByteArray.empty u →
      Program.Meets (store.terms actor top caller asked) post
        (next (.ok (store.temporaryPath address number)))
        (some (temporaryPlace top address number)) u) :
    Program.Meets (store.terms actor top caller asked) post
      (.step (.createTemporary (store.directory address)) next) none w := by
  intro t others answer u performed
  obtain ⟨now, result⟩ := Performs.perform_eq performed nofun
  have growth := others.evolves.grows layout
  obtain ⟨parent, stands⟩ := growth.directory layout there
  rcases growth.layout.perform_createTemporary now stands with
    ⟨-, e, created⟩ | ⟨number, after, free, created, afterLayout, changed⟩
  · rw [created] at result
    obtain ⟨rfl, same⟩ := Prod.mk.inj result
    have guaranteed : Guarantees store actor top caller asked none t none u :=
      .of_same same.symm (Performs.history_eq performed) fun _ => rfl
    exact ⟨none, guaranteed, failed u e (others.evolves.trans guaranteed.evolves)⟩
  · rw [created] at result
    obtain ⟨rfl, rfl⟩ := Prod.mk.inj result
    have guaranteed : Guarantees store actor top caller asked none t
        (some (temporaryPlace top address number)) u := by
      apply Guarantees.of_temporary growth.layout afterLayout changed
        (Performs.history_eq performed) _ (.inr free) _ (owns_temporary changed.get?_self)
      · exact fun _ => rfl
      · right
        intro place own
        cases own
        exact free
    exact ⟨_, guaranteed, further u number (others.evolves.trans guaranteed.evolves)
      ⟨now, changed.get?_self⟩⟩

section Temporary

variable (layout : store.Layout actor top w.tree)
  (holds : Holds (temporaryPlace top address number) content w)

include layout holds

/-- Some bytes are appended to the temporary file of a user. -/
theorem meets_append {bytes : ByteArray} {next : Except IoError Nat → FileProgram α}
    (further : ∀ u taken, Evolves store actor top w u → taken ≤ bytes.size →
      Holds (temporaryPlace top address number) (content ++ bytes.extract 0 taken) u →
      Program.Meets (store.terms actor top caller asked) post (next (.ok taken))
        (some (temporaryPlace top address number)) u) :
    Program.Meets (store.terms actor top caller asked) post
      (.step (.append (store.temporaryPath address number) bytes) next)
      (some (temporaryPlace top address number)) w := by
  intro t others answer u performed
  obtain ⟨now, taken, within, rfl, result⟩ := Performs.appended performed
  obtain ⟨layoutT, ⟨parent, there⟩, modified, file⟩ := others.temporary layout holds
  obtain ⟨afterLayout, changed⟩ :=
    layoutT.appendTo_temporary there file now (bytes.extract 0 taken)
  rw [← result] at afterLayout changed
  have guaranteed : Guarantees store actor top caller asked
      (some (temporaryPlace top address number)) t (some (temporaryPlace top address number)) u :=
    .of_temporary layoutT afterLayout changed (Performs.history_eq performed) (fun _ => rfl)
      (.inl rfl) (.inl rfl) (owns_temporary changed.get?_self)
  exact ⟨_, guaranteed, further u taken (others.evolves.trans guaranteed.evolves) within
    ⟨now, changed.get?_self⟩⟩

omit layout in
/-- The temporary file of a user is made durable. -/
theorem meets_sync {next : Except IoError Unit → FileProgram α}
    (further : ∀ u, Evolves store actor top w u →
      Holds (temporaryPlace top address number) content u →
      Program.Meets (store.terms actor top caller asked) post (next (.ok ()))
        (some (temporaryPlace top address number)) u) :
    Program.Meets (store.terms actor top caller asked) post
      (.step (.sync (store.temporaryPath address number)) next)
      (some (temporaryPlace top address number)) w := by
  intro t others answer u performed
  obtain ⟨now, result⟩ := Performs.perform_eq performed nofun
  obtain ⟨rfl, same⟩ := Prod.mk.inj result
  have guaranteed : Guarantees store actor top caller asked
      (some (temporaryPlace top address number)) t (some (temporaryPlace top address number)) u :=
    .of_same same.symm (Performs.history_eq performed) fun _ => rfl
  have mine := others.holds holds
  unfold Holds at mine
  rw [same] at mine
  exact ⟨_, guaranteed, further u (others.evolves.trans guaranteed.evolves) mine⟩

/-- The temporary file of a user is removed. -/
theorem meets_discard {next : Unit → FileProgram α}
    (further : ∀ u, Evolves store actor top w u →
      Program.Meets (store.terms actor top caller asked) post (next ()) none u) :
    Program.Meets (store.terms actor top caller asked) post
      (.step (.discard (store.temporaryPath address number)) next)
      (some (temporaryPlace top address number)) w := by
  intro t others answer u performed
  obtain ⟨now, result⟩ := Performs.perform_eq performed nofun
  obtain ⟨layoutT, ⟨parent, there⟩, modified, file⟩ := others.temporary layout holds
  obtain ⟨after, discarded, afterLayout, changed⟩ := layoutT.perform_discard there file now
  rw [discarded] at result
  obtain ⟨-, rfl⟩ := Prod.mk.inj result
  have guaranteed : Guarantees store actor top caller asked
      (some (temporaryPlace top address number)) t none u :=
    .of_temporary layoutT afterLayout changed (Performs.history_eq performed) (fun _ => rfl)
      (.inl rfl) (.inr nofun) nofun
  exact ⟨none, guaranteed, further u (others.evolves.trans guaranteed.evolves)⟩

/-- The temporary file of a user becomes the object if there is none.  Then the user is
the one who gave it its name. -/
theorem meets_link (named : Named store top w)
    (request : asked.op = .put address payload)
    (encoded : Record.encode asked.now payload = .ok content)
    {next : Except IoError Unit → FileProgram α}
    (taken : ∀ u bytes, Evolves store actor top w u →
      Holds (temporaryPlace top address number) content u →
      object? top u.tree address = some bytes →
      Program.Meets (store.terms actor top caller asked) post (next (.error (.os .exists_)))
        (some (temporaryPlace top address number)) u)
    (linked : ∀ u, Evolves store actor top w u →
      Holds (temporaryPlace top address number) content u →
      object? top u.tree address = some content →
      namers store address u.history = [caller] →
      Program.Meets (store.terms actor top caller asked) post (next (.ok ()))
        (some (temporaryPlace top address number)) u) :
    Program.Meets (store.terms actor top caller asked) post
      (.step (.link (store.temporaryPath address number) (store.objectPath address)) next)
      (some (temporaryPlace top address number)) w := by
  intro t others answer u performed
  obtain ⟨now, result⟩ := Performs.perform_eq performed nofun
  obtain ⟨layoutT, ⟨parent, there⟩, modified, file⟩ := others.temporary layout holds
  -- Whether the name is free is decided here, not by the look that came before.
  cases present : object? top t.tree address with
  | some bytes =>
      rw [layoutT.perform_link_of_taken there file present] at result
      obtain ⟨rfl, same⟩ := Prod.mk.inj result
      have guaranteed : Guarantees store actor top caller asked
          (some (temporaryPlace top address number)) t
          (some (temporaryPlace top address number)) u :=
        .of_same same.symm (Performs.history_eq performed) fun _ => rfl
      rw [same] at file present
      exact ⟨_, guaranteed, taken u bytes (others.evolves.trans guaranteed.evolves)
        ⟨modified, file⟩ present⟩
  | none =>
      obtain ⟨after, performs, afterLayout, changed⟩ :=
        layoutT.perform_link there file now (may_temporaryMode actor) present
      rw [performs] at result
      obtain ⟨rfl, rfl⟩ := Prod.mk.inj result
      have kept : u.tree.get? (temporaryPlace top address number) =
          some (.file content modified Entry.temporaryMode) := by
        rw [changed.get?_of_ne temporaryPlace_ne_objectPlace, file]
      obtain ⟨guaranteed, mine⟩ : Guarantees store actor top caller asked
          (some (temporaryPlace top address number)) t
          (some (temporaryPlace top address number)) u ∧
            namers store address u.history = [caller] :=
        Guarantees.of_link layoutT (others.evolves.named layout named) afterLayout request
          encoded present changed (Performs.history_eq performed) (owns_temporary kept)
      have object : object? top u.tree address = some content := by
        rw [object?_of_added changed, if_pos rfl]
      exact ⟨_, guaranteed, linked u (others.evolves.trans guaranteed.evolves)
        ⟨modified, kept⟩ object mine⟩

end Temporary

end ContentNode.FileStore
