import ContentNode.Proofs.FileSystem.Making

/-!
# What answers tell

What is known of a tree and of a path after an operation has answered.
-/

namespace ContentNode.FileSystem

namespace FilePath

variable {path : FilePath} {name : FileName} {room : Nat}

theorem utf8ByteSize_le_append (path name : String) :
    path.utf8ByteSize + name.utf8ByteSize ≤ (append path name).utf8ByteSize := by
  unfold append
  split
  · exact Nat.le_of_eq (String.utf8ByteSize_append).symm
  · rw [String.utf8ByteSize_append, String.utf8ByteSize_append]
    omega

theorem mem_append {c : Char} {path name : String} (member : c ∈ path.toList) :
    c ∈ (append path name).toList := by
  unfold append
  split <;> simp [member]

/-- If a path and a name can be used, the path can be used with any name that is not
longer. -/
theorem Fits.of_child (fits : (path.child name).Fits room) :
    path.Fits (name.display.utf8ByteSize + room) := by
  constructor
  · intro null
    have := fits.clean
    rw [display_child] at this
    exact this (mem_append null)
  · have limit := fits.size
    rw [display_child] at limit
    have := utf8ByteSize_le_append path.display name.display
    omega

end FilePath

namespace FileTree

variable {tree after : FileTree} {actor : Actor} {now : Instant} {path file target : FilePath}
  {place parent : Location} {name last : FileName} {entry : Entry} {mode : Nat}

/-- A path that leads nowhere can be used. -/
theorem fits_of_exists_ (nonempty : path.display ≠ "")
    (absent : tree.exists_ actor path = .ok false) : path.Fits 0 := by
  unfold exists_ stat resolve at absent
  simp only at absent
  split at absent
  · cases absent
  · next missing =>
    split at missing
    · cases missing
    · next clean =>
      split at missing
      · cases missing
      · next size => exact ⟨by simpa using clean, by omega⟩
  · cases absent

/-- A path that is resolved can be used, and its components are followed from the root. -/
theorem resolve_eq_ok {followLast : Bool} {target : Target}
    (resolved : tree.resolve actor followLast path = .ok target) :
    path.Fits 0 ∧ tree.follow actor followLast maxLinks [] path.components = .ok target := by
  unfold resolve at resolved
  simp only at resolved
  split at resolved
  · cases resolved
  · next clean =>
    split at resolved
    · cases resolved
    · next size =>
      refine ⟨⟨by simpa using clean, by omega⟩, ?_⟩
      split at resolved
      · cases resolved
      · cases walk : tree.follow actor followLast maxLinks [] path.components with
        | error e =>
            rw [walk] at resolved
            cases resolved
        | ok found =>
            rw [walk] at resolved
            cases resolved
            rfl

/-- The entry that a path leads to is found at the end of its components. -/
theorem follow_of_stat {followLast : Bool}
    (found : tree.stat actor followLast path = .ok (place, entry)) :
    tree.follow actor followLast maxLinks [] path.components = .ok (.found place entry) := by
  unfold stat at found
  rcases resolved : tree.resolve actor followLast path with e | ⟨there, held⟩ | ⟨parent, name⟩
  · rw [resolved] at found
    cases found
  · rw [resolved] at found
    cases found
    exact (resolve_eq_ok resolved).2
  · rw [resolved] at found
    cases found

/-- A path to a directory has a derivation. -/
theorem leads_of_stat (found : tree.stat actor true path = .ok (place, .directory mode)) :
    Leads tree actor maxLinks [] path.components place :=
  leads_of_follow tree.standing_nil (follow_of_stat found)

/-- Conversely, a path that can be used leads to the directory of its derivation. -/
theorem stat_of_leads {room : Nat} (fits : path.Fits room) (nonempty : path.display ≠ "")
    (leads : Leads tree actor maxLinks [] path.components place)
    (there : tree.get? place = some (.directory mode)) :
    tree.stat actor true path = .ok (place, .directory mode) := by
  obtain ⟨left, walk⟩ := leads.follow_append true [] (.inr rfl)
  rw [List.append_nil, follow_nil there] at walk
  rw [stat, resolve_of_fits fits nonempty, walk]
  rfl

/-- A directory is opened by those who may read it. -/
theorem openDirectory_of_stat (found : tree.stat actor true path = .ok (place, .directory mode)) :
    tree.openDirectory actor path =
      if tree.mayUse actor .read place then .ok place else .error (.os .accessDenied) := by
  unfold openDirectory
  rw [found]
  simp only [bind, Except.bind, Entry.isDirectory]
  cases tree.mayUse actor .read place <;> rfl

/-- What is known of a directory in which a temporary file was made. -/
theorem createTemporary_eq_ok (made : tree.createTemporary actor now path = .ok (file, after)) :
    ∃ place mode number, Leads tree actor maxLinks [] path.components place ∧
      tree.get? place = some (.directory mode) ∧ actor.may .search mode = true ∧
      actor.may .write mode = true ∧ tree.get? (place ++ [temporaryName number]) = none ∧
      file = path.child (temporaryName number) ∧
      after = { tree.insert (place ++ [temporaryName number])
        (.file ByteArray.empty now Entry.temporaryMode) with temporaries := number + 1 } := by
  unfold createTemporary at made
  simp only at made
  split at made
  · cases made
  · cases made
  · next place entry found =>
    cases entry with
    | file content modified mode => cases made
    | link target => cases made
    | directory mode =>
      simp only [Entry.isDirectory, Bool.not_true, Bool.false_eq_true, if_false] at made
      split at made
      · cases made
      · next allowed =>
        split at made
        · cases made
        · next number fresh =>
          cases made
          have leads := leads_of_stat found
          obtain ⟨mode', there⟩ := leads.directory
          simp only [mayUse, directoryMode, there, Entry.mode, Bool.not_eq_true,
            Bool.not_eq_false', Bool.and_eq_true] at allowed
          exact ⟨place, mode', number, leads, there, allowed.1, allowed.2,
            free_of_freshNumber? fresh, rfl, rfl⟩

/-- The last name of a path is looked up in its directory. -/
theorem resolve_child (fits : (path.child name).Fits 0) (plain : name.Plain)
    (leads : Leads tree actor maxLinks [] path.components place)
    (searchable : tree.Searchable actor place) :
    tree.resolve actor false (path.child name) = .ok (tree.lookup place name) := by
  obtain ⟨left, further⟩ := leads.follow_append false [.name name] (.inl (List.cons_ne_nil _ _))
  rw [resolve_of_fits fits (path.display_child_ne_empty plain), FilePath.components_child, further]
  have short : ¬ FileName.maxSize < name.toBytes.length := Nat.not_lt.mpr plain.short
  rcases there : tree.get? (place ++ [name]) with _ | content | mode | target <;>
    cases left <;> simp [follow, along, lookup, searchable.mayUse, short, there] <;> rfl

/-- What the last name of a path leads to is looked up in the directory before it. -/
theorem resolve_child_eq_ok {target : Target}
    (resolved : tree.resolve actor false (path.child name) = .ok target) :
    (path.child name).Fits 0 ∧ ∃ parent, Leads tree actor maxLinks [] path.components parent ∧
      tree.Searchable actor parent ∧ target = tree.lookup parent name := by
  obtain ⟨fits, walk⟩ := resolve_eq_ok resolved
  rw [FilePath.components_child] at walk
  exact ⟨fits, leads_of_follow_last tree.standing_nil walk⟩

/-- The entry behind a path and a name is in the directory to which the path leads. -/
theorem stat_child_eq_ok (found : tree.stat actor false (path.child name) = .ok (place, entry)) :
    (path.child name).Fits 0 ∧ ∃ parent, Leads tree actor maxLinks [] path.components parent ∧
      tree.Searchable actor parent ∧ place = parent ++ [name] ∧ tree.get? place = some entry := by
  unfold stat at found
  cases resolved : tree.resolve actor false (path.child name) with
  | error e =>
      rw [resolved] at found
      cases found
  | ok target =>
      obtain ⟨fits, parent, leads, searchable, same⟩ := resolve_child_eq_ok resolved
      refine ⟨fits, parent, leads, searchable, ?_⟩
      rw [resolved, same, lookup] at found
      cases there : tree.get? (parent ++ [name]) with
      | none =>
          rw [there] at found
          cases found
      | some held =>
          rw [there] at found
          cases found
          exact ⟨rfl, there⟩

/-- In a directory it is not missing that a name is looked up. -/
theorem resolve_child_ne_noEntry (plain : name.Plain)
    (leads : Leads tree actor maxLinks [] path.components place) :
    tree.resolve actor false (path.child name) ≠ .error (.os .noEntry) := by
  obtain ⟨left, further⟩ := leads.follow_append false [.name name] (.inl (List.cons_ne_nil _ _))
  have short : ¬ FileName.maxSize < name.toBytes.length := Nat.not_lt.mpr plain.short
  have known : tree.follow actor false left place [.name name] ≠ .error .noEntry := by
    cases allowed : tree.mayUse actor .search place <;>
      rcases there : tree.get? (place ++ [name]) with _ | content | mode | target <;>
      cases left <;> simp [follow, along, allowed, short, there]
  intro missing
  unfold resolve at missing
  simp only [FilePath.components_child, further, path.display_child_ne_empty plain, if_false]
    at missing
  split at missing
  · cases missing
  split at missing
  · cases missing
  cases walk : tree.follow actor false left place [.name name] with
  | error e =>
      rw [walk] at missing
      cases missing
      exact known walk
  | ok target =>
      rw [walk] at missing
      cases missing

/-- A directory below one that is there was there before, or it is the only one made. -/
theorem makeMissing_child_eq_ok (plain : name.Plain)
    (leads : Leads tree actor maxLinks [] path.components place)
    (made : makeMissing actor (ancestry (path.child name)) tree = (.ok (), after)) :
    (tree.isDirectory actor (path.child name) = true ∧ after = tree) ∨
      ((path.child name).Fits 0 ∧ tree.Searchable actor place ∧
        tree.get? (place ++ [name]) = none ∧
        after = tree.insert (place ++ [name]) (.directory Entry.directoryMode)) := by
  rw [ancestry_child _ plain, makeMissing] at made
  cases standing : tree.isDirectory actor (path.child name) with
  | true =>
      rw [ensureDirectory_of_isDirectory standing] at made
      cases made
      exact .inl ⟨rfl, rfl⟩
  | false =>
      have known : tree.resolve actor false (path.child name) ≠ .error (.os .noEntry) :=
        resolve_child_ne_noEntry plain leads
      unfold ensureDirectory makeDirectory at made
      rcases resolved : tree.resolve actor false (path.child name) with
        e | ⟨there, entry⟩ | ⟨parent, last⟩
      · rw [resolved] at made known
        simp only [bind, Except.bind, standing, Bool.false_eq_true, if_false] at made
        split at made
        · next missing =>
          cases missing
          exact absurd rfl known
        · cases made
      · rw [resolved] at made
        simp only [bind, Except.bind, standing, Bool.false_eq_true, if_false] at made
        cases made
      · obtain ⟨fits, parent', leads', searchable, target⟩ := resolve_child_eq_ok resolved
        obtain rfl := leads'.unique leads
        rw [lookup] at target
        split at target
        · cases target
        · next free =>
          cases target
          rw [resolved] at made
          simp only [bind, Except.bind, standing, Bool.false_eq_true, if_false] at made
          cases allowed : tree.mayUse actor .write parent with
          | true =>
              rw [allowed] at made
              simp only [if_true, pure, Except.pure] at made
              cases made
              exact .inr ⟨fits, searchable, free, rfl⟩
          | false =>
              rw [allowed] at made
              simp only [Bool.false_eq_true, if_false] at made
              cases made

/-- A path to a regular file leads there as well if links are followed. -/
theorem stat_of_file {content : ByteArray} {modified : Instant} (plain : name.Plain)
    (found : tree.stat actor false (path.child name) = .ok (place, .file content modified mode)) :
    tree.stat actor true (path.child name) = .ok (place, .file content modified mode) := by
  obtain ⟨fits, parent, leads, searchable, rfl, there⟩ := stat_child_eq_ok found
  obtain ⟨left, further⟩ := leads.follow_append true [.name name] (.inl (List.cons_ne_nil _ _))
  unfold stat
  rw [resolve_of_fits fits (path.display_child_ne_empty plain), FilePath.components_child,
    further, follow_last searchable plain.short (by simp [there]), lookup, there]
  rfl

/-- What gets another name gets it where there was nothing. -/
theorem link_eq_ok (linked : tree.link actor path target = .ok after) :
    ∃ entry parent name, tree.resolve actor false target = .ok (.free parent name) ∧
      after = tree.insert (parent ++ [name]) entry := by
  unfold link at linked
  cases found : tree.stat actor false path with
  | error e =>
      rw [found] at linked
      cases linked
  | ok pair =>
      rcases resolved : tree.resolve actor false target with e | ⟨place, entry⟩ | ⟨parent, name⟩
      · rw [found, resolved] at linked
        cases linked
      · rw [found, resolved] at linked
        cases linked
      · rw [found, resolved] at linked
        simp only [bind, Except.bind] at linked
        split at linked
        · cases linked
          exact ⟨_, parent, name, rfl, rfl⟩
        · cases linked

/-- What is removed was there and was no directory. -/
theorem remove_eq_ok (removed : tree.remove actor path = .ok after) :
    ∃ place entry, tree.stat actor false path = .ok (place, entry) ∧
      entry.isDirectory = false ∧ after = tree.erase place := by
  unfold remove at removed
  cases found : tree.stat actor false path with
  | error e =>
      rw [found] at removed
      cases removed
  | ok pair =>
      obtain ⟨place, entry⟩ := pair
      rw [found] at removed
      simp only [bind, Except.bind] at removed
      split at removed
      · cases removed
      · split at removed
        · cases removed
        · next other =>
          exact ⟨place, entry, rfl, Bool.eq_false_iff.mpr other, (Except.ok.inj removed).symm⟩

/-- What is removed is what has the name in the directory to which the path leads. -/
theorem remove_child_eq_ok (leads : Leads tree actor maxLinks [] path.components place)
    (removed : tree.remove actor (path.child name) = .ok after) :
    after = tree.erase (place ++ [name]) := by
  obtain ⟨there, entry, found, -, rfl⟩ := remove_eq_ok removed
  obtain ⟨-, parent, leads', -, rfl, -⟩ := stat_child_eq_ok found
  rw [leads'.unique leads]

/-- What is told of a file is its size and the time of its last change. -/
theorem metadata_child_eq_ok {info : Metadata} {content : ByteArray} {modified : Instant}
    (leads : Leads tree actor maxLinks [] path.components place)
    (there : tree.get? (place ++ [name]) = some (.file content modified mode))
    (told : tree.metadata actor now (path.child name) = .ok info) :
    tree.stat actor false (path.child name) =
        .ok (place ++ [name], .file content modified mode) ∧ info = ⟨content.size, modified⟩ := by
  unfold metadata at told
  cases found : tree.stat actor false (path.child name) with
  | error e =>
      rw [found] at told
      cases told
  | ok pair =>
      obtain ⟨other, entry⟩ := pair
      obtain ⟨-, parent, leads', -, rfl, held⟩ := stat_child_eq_ok found
      obtain rfl := leads'.unique leads
      obtain rfl := Option.some.inj (held.symm.trans there)
      rw [found] at told
      cases told
      exact ⟨rfl, rfl⟩

/-- What is there is not missing when it is to be removed. -/
theorem remove_ne_noEntry (found : tree.stat actor false path = .ok (place, entry)) :
    tree.remove actor path ≠ .error (.os .noEntry) := by
  unfold remove
  rw [found]
  simp only [bind, Except.bind]
  split
  · nofun
  · split <;> nofun

/-- What is listed is the content of the directory to which the path leads. -/
theorem listDirectory_eq_ok {entries : List (FileName × FileType)}
    (listed : tree.listDirectory actor path = .ok entries) :
    ∃ place, Leads tree actor maxLinks [] path.components place ∧
      entries = tree.contents place := by
  unfold listDirectory openDirectory at listed
  cases found : tree.stat actor true path with
  | error e =>
      rw [found] at listed
      cases listed
  | ok pair =>
      obtain ⟨place, entry⟩ := pair
      rw [found] at listed
      simp only [bind, Except.bind] at listed
      split at listed
      · cases listed
      · next directory =>
        split at listed
        · cases listed
        · cases listed
          cases entry with
          | directory mode => exact ⟨place, leads_of_stat found, rfl⟩
          | file content modified mode => exact absurd rfl directory
          | link target => exact absurd rfl directory

/-- What is listed of a name in a directory is the content of the directory that it names. -/
theorem listDirectory_child_eq_ok {entries : List (FileName × FileType)}
    (leads : Leads tree actor maxLinks [] path.components place)
    (straight : ∀ target, tree.get? (place ++ [name]) ≠ some (.link target))
    (listed : tree.listDirectory actor (path.child name) = .ok entries) :
    Leads tree actor maxLinks [] (path.child name).components (place ++ [name]) ∧
      entries = tree.contents (place ++ [name]) := by
  obtain ⟨other, further, rfl⟩ := listDirectory_eq_ok listed
  have same := further
  rw [FilePath.components_child] at same
  obtain rfl := leads.child_place same straight
  exact ⟨further, rfl⟩

/-! ### No place gets two entries -/

theorem Distinct.link (distinct : tree.Distinct)
    (linked : tree.link actor path target = .ok after) : after.Distinct := by
  obtain ⟨entry, parent, name, -, rfl⟩ := link_eq_ok linked
  exact distinct.insert _ _

theorem Distinct.remove (distinct : tree.Distinct) (removed : tree.remove actor path = .ok after) :
    after.Distinct := by
  obtain ⟨place, entry, -, -, rfl⟩ := remove_eq_ok removed
  exact distinct.erase _

/-- A change that fails keeps everything. -/
theorem change_keeps {holds : FileTree → Prop} {outcome : Except IoError FileTree}
    (start : holds tree) (changed : ∀ after, outcome = .ok after → holds after) :
    holds (tree.change outcome).2 := by
  cases outcome with
  | ok after => exact changed after rfl
  | error e => exact start

/-- Every operation keeps all places apart. -/
theorem Distinct.perform (distinct : tree.Distinct) (actor : Actor) (now : Instant)
    (op : Operation) : (tree.perform actor now op).2.Distinct := by
  cases op with
  | makeDirectories path => exact distinct.makeMissing actor _
  | createTemporary path =>
      rw [FileTree.perform]
      cases made : tree.createTemporary actor now path with
      | error e => exact distinct
      | ok outcome =>
          obtain ⟨file, after⟩ := outcome
          obtain ⟨_, _, _, -, -, -, -, -, -, rfl⟩ := createTemporary_eq_ok made
          exact distinct.insert _ _
  | append file bytes =>
      rw [FileTree.perform, appendTo]
      dsimp only
      split
      · exact distinct.insert _ _
      · exact distinct
  | link file target => exact change_keeps distinct fun after linked => distinct.link linked
  | discard file => exact change_keeps distinct fun after removed => distinct.remove removed
  | remove path => exact change_keeps distinct fun after removed => distinct.remove removed
  | exists_ path | sync file | syncDirectory path | read path | kind path | list path
  | metadata path => exact distinct

/-- So does every program. -/
theorem Distinct.run {α : Type} {program : FileProgram α} {value : α} (distinct : tree.Distinct)
    (ran : program.run (FileTree.perform actor now) tree = (value, after)) : after.Distinct := by
  have kept := program.run_keeps Distinct
    (fun op _ distinct => Distinct.perform distinct actor now op) distinct
  rwa [ran] at kept

end FileTree

end ContentNode.FileSystem
