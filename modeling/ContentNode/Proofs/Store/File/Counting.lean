import ContentNode.Proofs.Program.Meets
import ContentNode.Proofs.Store.File.Programs
import ContentNode.Proofs.Store.File.Steps

/-!
# Counting objects

How much there is in a store is found out by many operations, between which objects
can be added.  What is counted in the end are the objects of some set: it has all
those that were there at the beginning, and only such as are there at the end.
-/

namespace ContentNode.FileStore

open FileSystem

variable {store : FileStore} {actor : Actor} {top : Location} {tree before after : FileTree}
  {address : Address} {content : ByteArray} {name : FileName}

/-- A store only gets more directories and objects. -/
structure Grows (store : FileStore) (actor : Actor) (top : Location) (before after : FileTree) :
    Prop where
  layout : store.Layout actor top after
  kept : before.Keeps after
  objects : ∀ address content, object? top before address = some content →
    object? top after address = some content

theorem Grows.refl (layout : store.Layout actor top tree) : Grows store actor top tree tree :=
  ⟨layout, .refl tree, fun _ _ held => held⟩

theorem Grows.trans (first : Grows store actor top before tree)
    (second : Grows store actor top tree after) : Grows store actor top before after :=
  ⟨second.layout, first.kept.trans second.kept,
    fun address content held => second.objects _ _ (first.objects address content held)⟩

/-- A temporary file comes, changes or goes. -/
theorem Grows.of_temporary {number : Nat} {left : Option Entry}
    (layout : store.Layout actor top before) (afterLayout : store.Layout actor top after)
    (changed : before.Changed after (temporaryPlace top address number) left) :
    Grows store actor top before after := by
  constructor
  · exact afterLayout
  · apply FileTree.Keeps.changed changed
    intro old there
    obtain ⟨-, _, _, _, rfl, -⟩ := layout.files _ _ _ there
    rfl
  · intro other bytes held
    rw [object?_of_temporary changed]
    exact held

/-- An object is added where there was none. -/
theorem Grows.of_object {modified : Instant} {mode : Nat}
    (layout : store.Layout actor top before) (afterLayout : store.Layout actor top after)
    (free : object? top before address = none)
    (changed : before.Changed after (objectPlace top address)
      (some (.file content modified mode))) : Grows store actor top before after := by
  constructor
  · exact afterLayout
  · apply FileTree.Keeps.changed changed
    intro old there
    cases (layout.free_of_object? free).symm.trans there
  · intro other bytes held
    have different : other ≠ address := by
      rintro rfl
      cases free.symm.trans held
    rw [object?_of_added changed, if_neg different]
    exact held

/-- A directory stays where it is. -/
theorem Grows.directory (grows : Grows store actor top before after)
    (layout : store.Layout actor top before) {parent : Entry}
    (there : before.get? (directoryPlace top address) = some parent) :
    ∃ parent, after.get? (directoryPlace top address) = some parent := by
  obtain ⟨mode, found, -⟩ := layout.usable there
  exact ⟨_, grows.kept _ _ (by simp [Entry.type]) found⟩

/-! ### Listings -/

/-- Everything in the directory of all objects is the directory of an object. -/
theorem Layout.listed_directories (layout : store.Layout actor top tree) {kind : FileType}
    (listed : (name, kind) ∈ tree.contents (objectsPlace top)) :
    kind = .directory ∧ ∃ address, name = directoryName address ∧
      ∃ parent, tree.get? (directoryPlace top address) = some parent := by
  obtain ⟨⟨name', entry⟩, member, same⟩ := List.mem_map.mp listed
  cases same
  have there := layout.distinct.mem_children_iff.mp member
  obtain ⟨⟨mode, found, -⟩, address, rfl⟩ := layout.directories _ _ there
  obtain rfl := Option.some.inj (there.symm.trans found)
  exact ⟨rfl, address, rfl, _, there⟩

/-- Everything in the directory of an object is a temporary file or an object. -/
theorem Layout.listed_files (layout : store.Layout actor top tree) {kind : FileType}
    (listed : (name, kind) ∈ tree.contents (directoryPlace top address)) :
    kind = .file ∧ (isTemporary name = true ∨
      ∃ other content, directoryName other = directoryName address ∧ fileName other = name ∧
        object? top tree other = some content) := by
  obtain ⟨⟨name', entry⟩, member, same⟩ := List.mem_map.mp listed
  cases same
  have there := layout.distinct.mem_children_iff.mp member
  obtain ⟨-, content, modified, mode, rfl, belongs⟩ := layout.files _ _ _ there
  refine ⟨rfl, ?_⟩
  rcases belongs with ⟨temporary, -⟩ | ⟨other, sameDirectory, rfl, -⟩
  · exact .inl temporary
  · refine .inr ⟨other, content, sameDirectory.symm, rfl, ?_⟩
    have place : objectPlace top other =
        filePlace top (directoryName address) (fileName other) := by
      rw [objectPlace_eq, sameDirectory]
    unfold object?
    rw [place, filePlace]
    rw [directoryPlace] at there
    rw [there]

/-- An object is listed in its directory, and the directory in that of all objects. -/
theorem Layout.object_listed (layout : store.Layout actor top tree)
    (held : object? top tree address = some content) :
    directoryName address ∈ (tree.contents (objectsPlace top)).map Prod.fst ∧
      fileName address ∈ (tree.contents (directoryPlace top address)).map Prod.fst := by
  obtain ⟨⟨parent, below⟩, modified, mode, there, -⟩ := layout.file_of_object? held
  rw [FileTree.contents, FileTree.contents, List.map_map, List.map_map]
  constructor
  · exact List.mem_map.mpr ⟨_, layout.distinct.mem_children_iff.mpr below, rfl⟩
  · exact List.mem_map.mpr ⟨_, layout.distinct.mem_children_iff.mpr there, rfl⟩

theorem nodup_listed (distinct : tree.Distinct) (place : Location) :
    ((tree.contents place).map Prod.fst).Nodup := by
  rw [FileTree.contents, List.map_map]
  exact distinct.nodup_children place

/-! ### Tallies -/

/-- Objects that are there, each once, and how much they are. -/
structure Tally (top : Location) (tree : FileTree) (found : List (Address × ByteArray))
    (stats : StoreStats) : Prop where
  held : ∀ address content, (address, content) ∈ found → object? top tree address = some content
  distinct : (found.map Prod.fst).Nodup
  counted : stats = .ofSizes (found.map fun pair => pair.2.size - Record.overhead)

variable {found : List (Address × ByteArray)} {stats : StoreStats}

theorem tally_nil (top : Location) (tree : FileTree) : Tally top tree [] .empty :=
  ⟨nofun, List.nodup_nil, rfl⟩

theorem Tally.grows (tally : Tally top before found stats)
    (grows : Grows store actor top before after) : Tally top after found stats :=
  ⟨fun address content member => grows.objects _ _ (tally.held address content member),
    tally.distinct, tally.counted⟩

/-- One more object. -/
theorem Tally.add (tally : Tally top tree found stats)
    (held : object? top tree address = some content) (new : address ∉ found.map Prod.fst) :
    Tally top tree (found ++ [(address, content)])
      ⟨stats.objects + 1, stats.totalBytes + (content.size - Record.overhead)⟩ := by
  obtain ⟨holds, distinct, rfl⟩ := tally
  constructor
  · intro other bytes member
    rcases List.mem_append.mp member with member | member
    · exact holds other bytes member
    · cases List.mem_singleton.mp member
      exact held
  · rw [List.map_append, List.nodup_append]
    refine ⟨distinct, List.nodup_cons.mpr ⟨List.not_mem_nil, List.nodup_nil⟩, ?_⟩
    rintro one member two last rfl
    rw [List.map_singleton, List.mem_singleton] at last
    subst last
    exact new member
  · rw [List.map_append, List.map_singleton, StoreStats.ofSizes_concat]

/-! ### Looking at a store that others change -/

/-- An operation that changes nothing. -/
def Looks : Operation → Prop
  | .exists_ _ | .read _ | .kind _ | .list _ | .metadata _ => True
  | _ => False

theorem perform_of_looks (actor : Actor) (now : Instant) (tree : FileTree) {op : Operation}
    (looks : Looks op) : (tree.perform actor now op).2 = tree := by
  cases op <;> first | rfl | cases looks

variable {σ ρ : Type} {terms : Terms Operation Operation.Answer σ ρ} {view : σ → FileTree}
  {held : ρ} {s : σ}

/-- On these terms others only add objects, and who looks gets the answers of the files. -/
structure Observes (store : FileStore) (actor : Actor) (top : Location)
    (terms : Terms Operation Operation.Answer σ ρ) (view : σ → FileTree) (held : ρ) : Prop where
  grows : ∀ s t, terms.rely held s t → store.Layout actor top (view s) →
    Grows store actor top (view s) (view t)
  answers : ∀ op s answer t, Looks op → terms.performs op s answer t →
    (∃ now, answer = ((view s).perform actor now op).1) ∧ terms.rely held s t ∧
      terms.guarantee held s held t

/-- After a look the program goes on with the answer of the files as they were. -/
theorem Observes.meets_look {α : Type} {post : ρ → α → σ → Prop} {op : Operation}
    {next : op.Answer → FileProgram α} (observes : Observes store actor top terms view held)
    (looks : Looks op)
    (further : ∀ t u now, terms.rely held s t → terms.rely held t u →
      Program.Meets terms post (next ((view t).perform actor now op).1) held u) :
    Program.Meets terms post (.step op next) held s := by
  intro t others answer u performed
  obtain ⟨⟨now, rfl⟩, moved, guaranteed⟩ := observes.answers op t answer u looks performed
  exact ⟨held, guaranteed, further t u now others moved⟩

/-- What has been counted when a part of the walk is over: the objects that were found
before, and more in the directories of that part, among them all that were there. -/
def Counted (top : Location) (terms : Terms Operation Operation.Answer σ ρ)
    (view : σ → FileTree) (held : ρ) (s : σ) (found : List (Address × ByteArray))
    (within : Address → Prop) (kept : ρ) (outcome : Except StoreError StoreStats) (t : σ) : Prop :=
  kept = held ∧ terms.rely held s t ∧ ∃ more stats, outcome = .ok stats ∧
    Tally top (view t) (found ++ more) stats ∧ (∀ pair ∈ more, within pair.1) ∧
      ∀ address content, within address → object? top (view s) address = some content →
        address ∈ more.map Prod.fst

/-- A part of the walk can be told by other addresses if the same objects have them. -/
theorem Counted.congr {within whole : Address → Prop} {kept : ρ}
    {outcome : Except StoreError StoreStats} {t : σ}
    (counted : Counted top terms view held s found within kept outcome t)
    (inside : ∀ address, within address → whole address)
    (same : ∀ address content, whole address → object? top (view s) address = some content →
      within address) : Counted top terms view held s found whole kept outcome t := by
  obtain ⟨rfl, moved, more, stats, rfl, tally, part, complete⟩ := counted
  refine ⟨rfl, moved, more, stats, rfl, tally, ?_, ?_⟩
  · intro pair member
    exact inside _ (part pair member)
  · intro address content belongs there
    exact complete address content (same address content belongs there) there

/-- An object is counted. -/
theorem Observes.meets_count (observes : Observes store actor top terms view held)
    (layout : store.Layout actor top (view s)) (tally : Tally top (view s) found stats)
    (there : object? top (view s) address = some content) (new : address ∉ found.map Prod.fst) :
    Program.Meets terms (Counted top terms view held s found (· = address))
      (count stats (store.objectPath address) (fileName address)).run held s := by
  rw [run_count stats _ (isTemporary_fileName address)]
  apply observes.meets_look
  · trivial
  intro t u now before moved
  have growth := observes.grows s t before layout
  obtain ⟨modified, found_⟩ := growth.layout.perform_metadata_object
    (growth.objects _ _ there)
  rw [found_]
  intro last after
  have whole := terms.rely_trans _ _ _ _ before (terms.rely_trans _ _ _ _ moved after)
  have grown := observes.grows s last whole layout
  refine ⟨rfl, whole, [(address, content)], _, rfl,
    (tally.grows grown).add (grown.objects _ _ there) new, ?_, ?_⟩
  · intro pair member
    cases List.mem_singleton.mp member
    rfl
  · rintro other bytes rfl -
    simp

/-- Nothing is counted where there is nothing to count. -/
theorem Observes.meets_nothing (observes : Observes store actor top terms view held)
    (layout : store.Layout actor top (view s)) (tally : Tally top (view s) found stats)
    {within : Address → Prop} (nowhere : ∀ address, ¬ within address) :
    Program.Meets terms (Counted top terms view held s found within) (.done (.ok stats)) held
      s := by
  intro t others
  refine ⟨rfl, others, [], stats, rfl, ?_, nofun, ?_⟩
  · rw [List.append_nil]
    exact tally.grows (observes.grows s t others layout)
  · intro address _ inside
    exact absurd inside (nowhere address)

/-- A part of the walk can be taken to begin earlier. -/
theorem Observes.counted_earlier (observes : Observes store actor top terms view held)
    (layout : store.Layout actor top (view s)) {t u : σ} {within : Address → Prop} {kept : ρ}
    {outcome : Except StoreError StoreStats} (before : terms.rely held s t)
    (counted : Counted top terms view held t found within kept outcome u) :
    Counted top terms view held s found within kept outcome u := by
  obtain ⟨rfl, moved, more, stats, rfl, tally, inside, complete⟩ := counted
  have grown := observes.grows s t before layout
  exact ⟨rfl, terms.rely_trans _ _ _ _ before moved, more, stats, rfl, tally, inside,
    fun address content part there => complete address content part (grown.objects _ _ there)⟩

/-- One part of the walk after another. -/
theorem Observes.meets_onward (observes : Observes store actor top terms view held)
    (layout : store.Layout actor top (view s)) {within whole : Address → Prop}
    (further : Address → Prop) (parts : ∀ address, whole address ↔ within address ∨ further address)
    {program : FileProgram (Except StoreError StoreStats)} {next : StoreStats → Step StoreStats}
    {begun : σ}
    (first : Program.Meets terms (Counted top terms view held s found within) program held begun)
    (second : ∀ t more stats, terms.rely held s t → Tally top (view t) (found ++ more) stats →
      (∀ pair ∈ more, within pair.1) →
      Program.Meets terms (Counted top terms view held t (found ++ more) further) (next stats).run
        held t) :
    Program.Meets terms (Counted top terms view held s found whole) (program.bind (onward next))
      held begun := by
  apply Program.Meets.bind
  apply first.mono
  rintro kept outcome t ⟨rfl, moved, more, stats, rfl, tally, inside, complete⟩
  apply (second t more stats moved tally inside).mono
  rintro kept outcome u ⟨rfl, moved', more', stats', rfl, tally', inside', complete'⟩
  refine ⟨rfl, terms.rely_trans _ _ _ _ moved moved', more ++ more', stats', rfl, ?_, ?_, ?_⟩
  · rw [← List.append_assoc]
    exact tally'
  · intro pair member
    rw [parts]
    rcases List.mem_append.mp member with member | member
    · exact .inl (inside pair member)
    · exact .inr (inside' pair member)
  · intro address content part there
    rw [List.map_append, List.mem_append]
    rcases (parts address).mp part with part | part
    · exact .inl (complete address content part there)
    · have grown := observes.grows s t moved layout
      exact .inr (complete' address content part (grown.objects _ _ there))

/-! ### The walk -/

/-- All objects in one directory are counted. -/
theorem Observes.meets_visitFiles (observes : Observes store actor top terms view held)
    (layout : store.Layout actor top (view s)) (tally : Tally top (view s) found stats)
    {entries : List (FileName × FileType)} (distinct : (entries.map Prod.fst).Nodup)
    (listed : ∀ name kind, (name, kind) ∈ entries → kind = .file ∧ (isTemporary name = true ∨
      ∃ other content, directoryName other = directoryName address ∧ fileName other = name ∧
        object? top (view s) other = some content))
    (new : ∀ pair ∈ found, directoryName pair.1 = directoryName address →
      fileName pair.1 ∉ entries.map Prod.fst) :
    Program.Meets terms
      (Counted top terms view held s found fun other =>
        directoryName other = directoryName address ∧ fileName other ∈ entries.map Prod.fst)
      (visitFiles count (store.directory address) entries stats).run held s := by
  induction entries generalizing found stats s with
  | nil => exact observes.meets_nothing layout tally fun _ inside => nomatch inside.2
  | cons first rest ih =>
      rcases first with ⟨name, kind⟩
      rw [List.map_cons, List.nodup_cons] at distinct
      have others (name : FileName) (kind : FileType) (member : (name, kind) ∈ rest) :=
        listed name kind (List.mem_cons_of_mem _ member)
      obtain ⟨rfl, temporary | ⟨other, content, sameDirectory, rfl, there⟩⟩ :=
        listed name kind List.mem_cons_self
      · rw [run_visitFiles_file, run_count_of_temporary stats _ temporary]
        have further := ih layout tally distinct.2 others fun pair member same inRest =>
          new pair member same (List.mem_cons_of_mem _ inRest)
        apply further.mono
        intro kept outcome t counted
        apply counted.congr
        · rintro other ⟨same, inRest⟩
          exact ⟨same, List.mem_cons_of_mem _ inRest⟩
        · rintro other content ⟨same, member⟩ -
          rcases List.mem_cons.mp member with rfl | inRest
          · exact absurd rfl (ne_fileName temporary)
          · exact ⟨same, inRest⟩
      · have path : (store.directory address).child (fileName other) = store.objectPath other := by
          rw [objectPath_eq, directory_eq, directory_eq, sameDirectory]
        rw [run_visitFiles_file, path]
        have absent : other ∉ found.map Prod.fst := by
          intro member
          obtain ⟨pair, inFound, rfl⟩ := List.mem_map.mp member
          exact new pair inFound sameDirectory List.mem_cons_self
        apply observes.meets_onward layout (fun address' =>
            directoryName address' = directoryName address ∧ fileName address' ∈ rest.map Prod.fst)
          _ (observes.meets_count layout tally there absent)
        · intro t more stats moved tally inside
          have grown := observes.grows s t moved layout
          apply ih grown.layout tally distinct.2
          · intro name kind member
            obtain ⟨isFile, temporary | ⟨other', content', same, named, there'⟩⟩ :=
              others name kind member
            · exact ⟨isFile, .inl temporary⟩
            · exact ⟨isFile, .inr ⟨other', content', same, named, grown.objects _ _ there'⟩⟩
          · intro pair member same inRest
            rcases List.mem_append.mp member with member | member
            · exact new pair member same (List.mem_cons_of_mem _ inRest)
            · rw [inside pair member] at inRest
              exact distinct.1 inRest
        · intro address'
          rw [List.map_cons, List.mem_cons]
          constructor
          · rintro ⟨same, here | inRest⟩
            · exact .inl (address_injective (same.trans sameDirectory.symm) here)
            · exact .inr ⟨same, inRest⟩
          · rintro (rfl | ⟨same, inRest⟩)
            · exact ⟨sameDirectory, .inl rfl⟩
            · exact ⟨same, .inr inRest⟩

/-- All objects in a directory that was listed are counted. -/
theorem Observes.meets_directory (observes : Observes store actor top terms view held)
    (address : Address) (layout : store.Layout actor top (view s))
    (tally : Tally top (view s) found stats) {t u : σ}
    (before : terms.rely held s t) (moved : terms.rely held t u)
    (new : ∀ pair ∈ found, directoryName pair.1 ≠ directoryName address) :
    Program.Meets terms
      (Counted top terms view held s found fun other => directoryName other = directoryName address)
      (visitFiles count (store.directory address)
        ((view t).contents (directoryPlace top address)) stats).run held u := by
  have whole := terms.rely_trans _ _ _ _ before moved
  have early := observes.grows s t before layout
  have late := observes.grows t u moved early.layout
  have tallied := tally.grows (early.trans late)
  apply (observes.meets_visitFiles late.layout tallied (nodup_listed early.layout.distinct _)
    ?_ ?_).mono
  · intro kept outcome last counted
    apply (observes.counted_earlier layout whole counted).congr
    · exact fun other inside => inside.1
    · intro other content sameDirectory there
      have listed := (early.layout.object_listed (early.objects _ _ there)).2
      rw [directoryPlace, sameDirectory] at listed
      exact ⟨sameDirectory, listed⟩
  · intro name kind listed
    obtain ⟨isFile, temporary | ⟨other, content, same, named, there⟩⟩ :=
      early.layout.listed_files listed
    · exact ⟨isFile, .inl temporary⟩
    · exact ⟨isFile, .inr ⟨other, content, same, named, late.objects _ _ there⟩⟩
  · intro pair member same
    exact absurd same (new pair member)

/-- All objects in the directories of a listing are counted. -/
theorem Observes.meets_visitDirectories (observes : Observes store actor top terms view held)
    (layout : store.Layout actor top (view s)) (tally : Tally top (view s) found stats)
    {entries : List (FileName × FileType)} (distinct : (entries.map Prod.fst).Nodup)
    (listed : ∀ name kind, (name, kind) ∈ entries → kind = .directory ∧
      ∃ address, name = directoryName address ∧
        ∃ parent, (view s).get? (directoryPlace top address) = some parent)
    (new : ∀ pair ∈ found, directoryName pair.1 ∉ entries.map Prod.fst) :
    Program.Meets terms
      (Counted top terms view held s found fun address =>
        directoryName address ∈ entries.map Prod.fst)
      (visitDirectories count store.objects entries stats).run held s := by
  induction entries generalizing found stats s with
  | nil => exact observes.meets_nothing layout tally fun _ inside => nomatch inside
  | cons first rest ih =>
      rcases first with ⟨name, kind⟩
      rw [List.map_cons, List.nodup_cons] at distinct
      obtain ⟨rfl, address, rfl, parent, there⟩ := listed name kind List.mem_cons_self
      rw [run_visitDirectories_directory, ← directory_eq]
      apply observes.meets_look
      · trivial
      intro t u now before moved
      have growth := observes.grows s t before layout
      obtain ⟨parent, stands⟩ := growth.directory layout there
      rw [growth.layout.perform_list_directory stands]
      have unlisted (pair : Address × ByteArray) (member : pair ∈ found) :
          directoryName pair.1 ≠ directoryName address := by
        intro same
        apply new pair member
        rw [List.map_cons, same]
        exact List.mem_cons_self
      apply observes.meets_onward layout (fun other => directoryName other ∈ rest.map Prod.fst)
        _ (observes.meets_directory address layout tally before moved unlisted)
      · intro v more stats moved' tally inside
        have grown := observes.grows s v moved' layout
        apply ih grown.layout tally distinct.2
        · intro name kind member
          obtain ⟨isDirectory, other, named, parent, below⟩ :=
            listed name kind (List.mem_cons_of_mem _ member)
          exact ⟨isDirectory, other, named, grown.directory layout below⟩
        · intro pair member inRest
          rcases List.mem_append.mp member with member | member
          · exact new pair member (List.mem_cons_of_mem _ inRest)
          · rw [inside pair member] at inRest
            exact distinct.1 inRest
      · intro other
        rw [List.map_cons, List.mem_cons]

/-- Counting ends with the objects of some set: it has all that were there at the
beginning, and only such as are there at the end. -/
theorem Observes.meets_stats (observes : Observes store actor top terms view held)
    (layout : store.Layout actor top (view s)) :
    Program.Meets terms (Counted top terms view held s [] fun _ => True) store.stats.run held
      s := by
  rw [FileStore.stats, run_walk]
  apply observes.meets_look
  · trivial
  intro t u now before moved
  have early := observes.grows s t before layout
  rw [early.layout.perform_kind_objects]
  have middle := terms.rely_trans _ _ _ _ before moved
  apply observes.meets_look
  · trivial
  intro v w now before' moved'
  have listing := terms.rely_trans _ _ _ _ middle before'
  have listed := observes.grows s v listing layout
  rw [listed.layout.perform_list_objects]
  have whole := terms.rely_trans _ _ _ _ listing moved'
  have late := observes.grows v w moved' listed.layout
  apply (observes.meets_visitDirectories late.layout (tally_nil top _)
    (nodup_listed listed.layout.distinct _) ?_ nofun).mono
  · intro kept outcome last counted
    apply (observes.counted_earlier layout whole counted).congr
    · exact fun _ _ => trivial
    · intro address content _ there
      exact (listed.layout.object_listed (listed.objects _ _ there)).1
  · intro name kind member
    obtain ⟨isDirectory, address, named, parent, there⟩ := listed.layout.listed_directories member
    exact ⟨isDirectory, address, named, late.directory listed.layout there⟩

end ContentNode.FileStore
