import ContentNode.Proofs.FileSystem.Answers
import ContentNode.Proofs.FileSystem.Fresh

/-!
# Trees that differ at one place

Two trees that have the same entries in the same order, except at one place.  What a path
leads to, and what an operation answers, is the same in both as long as the path does not
lead there and meets no symbolic link behind a directory that both trees have.
-/

namespace ContentNode.FileSystem.FileTree

variable {tree twin third : FileTree} {actor : Actor} {now : Instant} {followLast : Bool}
  {links left : Nat} {place other at_ hall : Location} {names : List FileName} {name : FileName}
  {rest : List Component} {entry : Entry} {path : FilePath}

/-- Two trees have the same entries in the same order, except at one place. -/
def Twins (place : Location) (tree twin : FileTree) : Prop :=
  (tree.erase place).entries = (twin.erase place).entries

namespace Twins

theorem refl (place : Location) (tree : FileTree) : Twins place tree tree := rfl

theorem symm (twins : Twins place tree twin) : Twins place twin tree := Eq.symm twins

theorem trans (first : Twins place tree twin) (second : Twins place twin third) :
    Twins place tree third := Eq.trans first second

theorem of_insert (tree : FileTree) (place : Location) (entry : Entry) :
    Twins place tree (tree.insert place entry) := by
  rw [Twins, erase_insert_self]

theorem of_erase (tree : FileTree) (place : Location) : Twins place tree (tree.erase place) := by
  simp [Twins, FileTree.erase, List.filter_filter]

theorem insert (twins : Twins place tree twin) (apart : other ≠ place) (entry : Entry) :
    Twins place (tree.insert other entry) (twin.insert other entry) := by
  rw [Twins, erase_insert_of_ne _ _ apart, erase_insert_of_ne _ _ apart]
  exact entries_insert_congr twins other entry

theorem erase (twins : Twins place tree twin) (other : Location) :
    Twins place (tree.erase other) (twin.erase other) := by
  rw [Twins, erase_erase tree, erase_erase twin]
  exact congrArg (List.filter _) twins

/-- Twins have the same at all other places. -/
theorem get? (twins : Twins place tree twin) (below : place ≠ []) (apart : other ≠ place) :
    twin.get? other = tree.get? other := by
  have same := get?_congr twins other
  rw [get?_erase _ below, get?_erase _ below, if_neg apart, if_neg apart] at same
  exact same.symm

/-- Listings of twins show the same apart from what stands at the place. -/
theorem contents (twins : Twins place tree twin) (above : Location)
    {keep : FileName × FileType → Bool}
    (hidden : ∀ name kind, place = above ++ [name] → keep (name, kind) = false) :
    (twin.contents above).filter keep = (tree.contents above).filter keep := by
  have erased (tree : FileTree) : ((tree.erase place).contents above).filter keep =
      (tree.contents above).filter keep := by
    unfold FileTree.contents
    rw [List.filter_map, List.filter_map, filter_children_erase]
    exact fun name entry there => hidden name entry.type there
  have same : (tree.erase place).contents above = (twin.erase place).contents above := by
    unfold FileTree.contents children
    rw [twins]
  rw [← erased tree, ← erased twin, same]

/-- Elsewhere they show the same. -/
theorem contents_eq (twins : Twins place tree twin) {above : Location}
    (apart : ∀ name, place ≠ above ++ [name]) : twin.contents above = tree.contents above := by
  have all : (twin.contents above).filter (fun _ => true) =
      (tree.contents above).filter fun _ => true :=
    twins.contents above fun name _ here => absurd here (apart name)
  rwa [List.filter_true, List.filter_true] at all

end Twins

/-! ### Names without links -/

/-- At the end of a path there is something or not. -/
theorem follow_end (tree : FileTree) (actor : Actor) (followLast : Bool) (links : Nat)
    (at_ : Location) : tree.follow actor followLast links at_ [] =
      match tree.get? at_ with
      | some entry => .ok (.found at_ entry)
      | none => .error .noEntry := by
  cases links <;> rfl

/-- A name that is no symbolic link is looked up in its directory. -/
theorem follow_name (straight : ∀ target, tree.get? (at_ ++ [name]) ≠ some (.link target)) :
    tree.follow actor followLast links at_ (.name name :: rest) =
      if !tree.mayUse actor .search at_ then .error .accessDenied
      else if FileName.maxSize < name.toBytes.length then .error .nameTooLong
      else match tree.get? (at_ ++ [name]) with
        | none => if rest = [] then .ok (.free at_ name) else .error .noEntry
        | some (.directory _) => tree.follow actor followLast links (at_ ++ [name]) rest
        | some entry =>
          if rest = [] then .ok (.found (at_ ++ [name]) entry) else .error .notDirectory := by
  rcases there : tree.get? (at_ ++ [name]) with _ | content | mode | target
  · cases links <;> simp only [follow, along, there]
  · cases links <;> simp only [follow, along, there]
  · cases links <;> simp only [follow, along, there]
  · exact absurd there (straight target)

/-- Two trees have the same along names below a directory, and no symbolic link. -/
def SameAlong (tree twin : FileTree) (at_ : Location) (names : List FileName) : Prop :=
  ∀ below, below <+: names → twin.get? (at_ ++ below) = tree.get? (at_ ++ below) ∧
    ∀ target, tree.get? (at_ ++ below) ≠ some (.link target)

namespace SameAlong

theorem next (same : SameAlong tree twin at_ (name :: names)) :
    SameAlong tree twin (at_ ++ [name]) names := by
  intro below inside
  have longer := same (name :: below) (List.cons_prefix_cons.mpr ⟨rfl, inside⟩)
  rwa [List.append_cons] at longer

theorem mayUse (same : SameAlong tree twin at_ names) (actor : Actor) {below : List FileName}
    (inside : below <+: names) (access : Access) :
    twin.mayUse actor access (at_ ++ below) = tree.mayUse actor access (at_ ++ below) := by
  unfold FileTree.mayUse directoryMode
  rw [(same below inside).1]

/-- Such names lead to the same in both trees. -/
theorem follow (same : SameAlong tree twin at_ names) :
    twin.follow actor followLast left at_ (names.map .name) =
      tree.follow actor followLast links at_ (names.map .name) := by
  induction names generalizing at_ with
  | nil =>
      have here := (same [] List.prefix_rfl).1
      rw [List.append_nil] at here
      rw [List.map_nil, follow_end, follow_end, here]
  | cons name rest ih =>
      obtain ⟨there, straight⟩ := same [name] (by simp)
      have allowed := same.mayUse actor List.nil_prefix .search
      rw [List.append_nil] at allowed
      rw [List.map_cons, follow_name straight, follow_name (there ▸ straight), there, allowed,
        ih same.next]

/-- What they lead to stands below the directory. -/
theorem found (same : SameAlong tree twin at_ names)
    (walk : tree.follow actor followLast links at_ (names.map .name) =
      .ok (.found other entry)) : other = at_ ++ names ∧ tree.get? other = some entry := by
  induction names generalizing at_ with
  | nil =>
      rw [List.map_nil, follow_end] at walk
      split at walk
      · next there =>
        cases walk
        exact ⟨(List.append_nil _).symm, there⟩
      · cases walk
  | cons name rest ih =>
      have straight := (same [name] (by simp)).2
      rw [List.map_cons, follow_name straight] at walk
      split at walk
      · cases walk
      · split at walk
        · cases walk
        · split at walk
          · split at walk <;> cases walk
          · obtain ⟨rfl, there⟩ := ih same.next walk
            exact ⟨(List.append_cons _ _ _).symm, there⟩
          · next _ there =>
            split at walk
            · next last =>
              cases walk
              rw [List.map_eq_nil_iff] at last
              subst last
              exact ⟨rfl, there⟩
            · cases walk

end SameAlong

/-! ### Answers of two trees -/

/-- A path leads to a directory in two trees and goes on with names that are the same in
both. -/
structure Alongside (tree twin : FileTree) (actor : Actor) (path : FilePath) (hall : Location)
    (names : List FileName) : Prop where
  base : ∃ above, path.components = above ++ names.map .name ∧
    Leads tree actor maxLinks [] above hall ∧ Leads twin actor maxLinks [] above hall
  same : SameAlong tree twin hall names

namespace Alongside

variable (alongside : Alongside tree twin actor path hall names)

include alongside

/-- The path is followed to the directory first. -/
theorem walks (followed : names ≠ [] ∨ followLast = true) :
    ∃ left left', tree.follow actor followLast maxLinks [] path.components =
        tree.follow actor followLast left hall (names.map .name) ∧
      twin.follow actor followLast maxLinks [] path.components =
        twin.follow actor followLast left' hall (names.map .name) := by
  obtain ⟨above, steps, leads, leads'⟩ := alongside.base
  have more : names.map Component.name ≠ [] ∨ followLast = true := by
    simpa only [ne_eq, List.map_eq_nil_iff] using followed
  obtain ⟨left, walk⟩ := leads.follow_append followLast (names.map .name) more
  obtain ⟨left', walk'⟩ := leads'.follow_append followLast (names.map .name) more
  rw [← steps] at walk walk'
  exact ⟨left, left', walk, walk'⟩

theorem follow (followed : names ≠ [] ∨ followLast = true) :
    twin.follow actor followLast maxLinks [] path.components =
      tree.follow actor followLast maxLinks [] path.components := by
  obtain ⟨left, left', walk, walk'⟩ := alongside.walks followed
  rw [walk, walk']
  exact alongside.same.follow

theorem stat (followed : names ≠ [] ∨ followLast = true) :
    twin.stat actor followLast path = tree.stat actor followLast path := by
  unfold FileTree.stat resolve
  rw [alongside.follow followed]

/-- What the path leads to is behind the names. -/
theorem found (followed : names ≠ [] ∨ followLast = true)
    (there : tree.stat actor followLast path = .ok (other, entry)) :
    other = hall ++ names ∧ tree.get? other = some entry := by
  obtain ⟨left, -, walk, -⟩ := alongside.walks followed
  exact alongside.same.found (walk.symm.trans (follow_of_stat there))

theorem exists_ : twin.exists_ actor path = tree.exists_ actor path := by
  unfold FileTree.exists_
  rw [alongside.stat (.inr rfl)]

theorem isDirectory : twin.isDirectory actor path = tree.isDirectory actor path := by
  unfold FileTree.isDirectory
  rw [alongside.stat (.inr rfl)]

theorem contentOf : twin.contentOf actor path = tree.contentOf actor path := by
  unfold FileTree.contentOf
  rw [alongside.stat (.inr rfl)]

theorem kindOf : twin.kindOf actor path = tree.kindOf actor path := by
  unfold FileTree.kindOf
  rw [alongside.stat (.inr rfl)]

theorem metadata (more : names ≠ []) :
    twin.metadata actor now path = tree.metadata actor now path := by
  unfold FileTree.metadata
  rw [alongside.stat (.inl more)]

/-- A directory is opened in both trees or in none. -/
theorem openDirectory : twin.openDirectory actor path = tree.openDirectory actor path ∧
    ∀ there, tree.openDirectory actor path = .ok there → there = hall ++ names := by
  unfold FileTree.openDirectory
  rw [alongside.stat (.inr rfl)]
  cases stood : tree.stat actor true path with
  | error e => exact ⟨rfl, nofun⟩
  | ok pair =>
      obtain ⟨there, entry⟩ := pair
      obtain ⟨rfl, -⟩ := alongside.found (.inr rfl) stood
      simp only [bind, Except.bind, alongside.same.mayUse actor List.prefix_rfl .read]
      refine ⟨trivial, fun there opened => ?_⟩
      split at opened
      · cases opened
      · split at opened <;> cases opened
        rfl

/-- A directory is listed in both trees or in none. -/
theorem listDirectory :
    (∃ e, tree.listDirectory actor path = .error e ∧ twin.listDirectory actor path = .error e) ∨
      (tree.listDirectory actor path = .ok (tree.contents (hall ++ names)) ∧
        twin.listDirectory actor path = .ok (twin.contents (hall ++ names))) := by
  obtain ⟨same, there⟩ := alongside.openDirectory
  unfold FileTree.listDirectory
  rw [same]
  cases opened : tree.openDirectory actor path with
  | error e => exact .inl ⟨_, rfl, rfl⟩
  | ok place =>
      obtain rfl := there place opened
      exact .inr ⟨rfl, rfl⟩

/-- A file is removed from both trees or from none. -/
theorem remove (more : names ≠ []) :
    (∃ e, tree.remove actor path = .error e ∧ twin.remove actor path = .error e) ∨
      ((∃ content modified mode, tree.get? (hall ++ names) =
          some (.file content modified mode)) ∧
        tree.remove actor path = .ok (tree.erase (hall ++ names)) ∧
        twin.remove actor path = .ok (twin.erase (hall ++ names))) := by
  unfold FileTree.remove
  rw [alongside.stat (.inl more)]
  cases stood : tree.stat actor false path with
  | error e => exact .inl ⟨e, rfl, rfl⟩
  | ok pair =>
      obtain ⟨there, entry⟩ := pair
      obtain ⟨rfl, standing⟩ := alongside.found (.inl more) stood
      have allowed := alongside.same.mayUse actor (List.dropLast_prefix names) .write
      rw [← List.dropLast_append_of_ne_nil more] at allowed
      simp only [bind, Except.bind, allowed]
      split
      · exact .inl ⟨_, rfl, rfl⟩
      · split
        · exact .inl ⟨_, rfl, rfl⟩
        · next file =>
          refine .inr ⟨?_, rfl, rfl⟩
          cases entry with
          | file content modified mode => exact ⟨_, _, _, standing⟩
          | directory mode => exact absurd rfl file
          | link target => exact absurd standing ((alongside.same names List.prefix_rfl).2 target)

/-- A temporary file is made in both trees or in none, maybe under different names. -/
theorem createTemporary
    (others : ∀ number, twin.get? (hall ++ names ++ [temporaryName number]) =
      tree.get? (hall ++ names ++ [temporaryName number])) (now : Instant) :
    (∃ e, tree.createTemporary actor now path = .error e ∧
      twin.createTemporary actor now path = .error e) ∨
      ((∃ made, tree.createTemporary actor now path = .ok made) ∧
        ∃ made, twin.createTemporary actor now path = .ok made) := by
  unfold FileTree.createTemporary
  rw [alongside.stat (.inr rfl)]
  cases stood : tree.stat actor true path with
  | error e => cases e <;> exact .inl ⟨_, rfl, rfl⟩
  | ok pair =>
      obtain ⟨there, entry⟩ := pair
      obtain ⟨rfl, -⟩ := alongside.found (.inr rfl) stood
      simp only [alongside.same.mayUse actor List.prefix_rfl]
      split
      · exact .inl ⟨_, rfl, rfl⟩
      · split
        · exact .inl ⟨_, rfl, rfl⟩
        · cases fresh : tree.freshNumber? (hall ++ names) (tree.entries.length + 1)
              tree.temporaries with
          | none =>
              have used := used_of_freshNumber?_eq_none fresh
              cases fresh' : twin.freshNumber? (hall ++ names) (twin.entries.length + 1)
                  twin.temporaries with
              | none => exact .inl ⟨_, rfl, rfl⟩
              | some number =>
                  exact absurd ((others number).symm.trans (free_of_freshNumber? fresh'))
                    (used number)
          | some number =>
              have free := (others number).trans (free_of_freshNumber? fresh)
              obtain ⟨number', fresh'⟩ : ∃ found, twin.freshNumber? (hall ++ names)
                  (twin.entries.length + 1) twin.temporaries = some found := exists_freshNumber? free
              rw [fresh']
              exact .inr ⟨⟨_, rfl⟩, _, rfl⟩

end Alongside

end ContentNode.FileSystem.FileTree
