import ContentNode.Proofs.FileSystem.Twins

/-!
# Trees without some files

A tree from which files have been taken away.  Directories and symbolic links are kept, so
a path leads where it led before, unless it led to one of the files, or through one as if
it were a directory.
-/

namespace ContentNode.FileSystem.FileTree

variable {tree : FileTree} {actor : Actor} {followLast : Bool} {links : Nat}
  {gone more : List Location} {at_ place other : Location} {steps : List Component}
  {path : FilePath} {entry : Entry}

/-- The tree without the entries at some places. -/
def without (gone : List Location) (tree : FileTree) : FileTree :=
  { tree with entries := tree.entries.filter fun (p, _) => p ∉ gone }

/-- There are files at some places. -/
def HoldsFiles (tree : FileTree) (gone : List Location) : Prop :=
  ∀ place ∈ gone, ∃ content modified mode, tree.get? place = some (.file content modified mode)

theorem without_nil (tree : FileTree) : tree.without [] = tree := by
  simp [without]

theorem without_cons (tree : FileTree) (place : Location) (gone : List Location) :
    tree.without (place :: gone) = (tree.erase place).without gone := by
  unfold without erase
  simp [List.filter_filter, Bool.and_comm]

theorem without_append (tree : FileTree) (gone more : List Location) :
    tree.without (gone ++ more) = (tree.without gone).without more := by
  induction gone generalizing tree with
  | nil => rw [List.nil_append, without_nil]
  | cons place rest ih => rw [List.cons_append, without_cons, ih, without_cons]

namespace HoldsFiles

theorem ne_nil (files : tree.HoldsFiles gone) (member : place ∈ gone) : place ≠ [] := by
  rintro rfl
  obtain ⟨content, modified, mode, there⟩ := files [] member
  cases there

/-- Where there are files is nothing afterwards, and elsewhere what was there before. -/
theorem get? (files : tree.HoldsFiles gone) (place : Location) :
    (tree.without gone).get? place = if place ∈ gone then none else tree.get? place := by
  have below : ∀ place ∈ gone, place ≠ [] := fun _ => files.ne_nil
  clear files
  induction gone generalizing tree with
  | nil => rw [without_nil, if_neg List.not_mem_nil]
  | cons first rest ih =>
      rw [without_cons, ih fun place member => below place (List.mem_cons_of_mem _ member),
        get?_erase _ (below first List.mem_cons_self)]
      by_cases same : place = first
      · simp [same]
      · simp [same]

theorem get?_of_mem (files : tree.HoldsFiles gone) (member : place ∈ gone) :
    (tree.without gone).get? place = none := by
  rw [files.get?, if_pos member]

theorem get?_of_not_mem (files : tree.HoldsFiles gone) (kept : place ∉ gone) :
    (tree.without gone).get? place = tree.get? place := by
  rw [files.get?, if_neg kept]

/-- What is there afterwards was there before and was not taken away. -/
theorem there (files : tree.HoldsFiles gone)
    (found : (tree.without gone).get? place = some entry) :
    place ∉ gone ∧ tree.get? place = some entry := by
  by_cases member : place ∈ gone
  · cases (files.get?_of_mem member).symm.trans found
  · exact ⟨member, (files.get?_of_not_mem member).symm.trans found⟩

/-- What is no file is not at one of the places. -/
theorem not_mem (files : tree.HoldsFiles gone) (there : tree.get? place = some entry)
    (other : entry.type ≠ .file) : place ∉ gone := by
  intro member
  obtain ⟨content, modified, mode, file⟩ := files place member
  cases there.symm.trans file
  exact other rfl

theorem keeps (files : tree.HoldsFiles gone) : tree.Keeps (tree.without gone) := by
  intro place entry other there
  rw [files.get?_of_not_mem (files.not_mem there other), there]

theorem mayUse (files : tree.HoldsFiles gone) (standing : tree.Standing at_) (access : Access) :
    (tree.without gone).mayUse actor access at_ = tree.mayUse actor access at_ :=
  files.keeps.mayUse standing.directory access

end HoldsFiles

theorem Distinct.without (distinct : tree.Distinct) (gone : List Location) :
    (tree.without gone).Distinct :=
  List.Nodup.sublist (List.Sublist.map _ List.filter_sublist) distinct

/-- A listing loses what was taken away and keeps its order. -/
theorem contents_without (tree : FileTree) (gone : List Location) (place : Location) :
    (tree.without gone).contents place =
      (tree.contents place).filter fun shown => place ++ [shown.1] ∉ gone := by
  unfold contents children without
  rw [List.filter_map, List.filter_filterMap, List.filterMap_filter]
  congr 1
  apply List.filterMap_congr
  rintro ⟨p, entry⟩ -
  dsimp only
  cases last : p.getLast? with
  | none => simp
  | some name =>
      by_cases here : p = place ++ [name]
      · by_cases member : p ∈ gone
        · simp [← here, member, Option.filter]
        · simp [← here, member, Option.filter]
      · simp [here]

theorem mem_contents_without {shown : FileName × FileType} :
    shown ∈ (tree.without gone).contents place ↔
      shown ∈ tree.contents place ∧ place ++ [shown.1] ∉ gone := by
  rw [contents_without, List.mem_filter, decide_eq_true_iff]

/-! ### Where paths lead -/

/-- What becomes of the end of a path when files are taken away. -/
inductive Thins (gone : List Location) : Except Errno Target → Except Errno Target → Prop
  | same (result : Except Errno Target) : Thins gone result result
  /-- The path led to one of the files. -/
  | found {parent : Location} {name : FileName} {entry : Entry} (member : parent ++ [name] ∈ gone) :
      Thins gone (.ok (.found (parent ++ [name]) entry)) (.ok (.free parent name))
  /-- The path went on behind one of the files. -/
  | through : Thins gone (.error .notDirectory) (.error .noEntry)

private theorem thins_along {jump jump' : Location → List Component → Except Errno Target}
    (files : tree.HoldsFiles gone)
    (jumps : ∀ at_ steps, tree.Standing at_ → Thins gone (jump at_ steps) (jump' at_ steps))
    (standing : tree.Standing at_) :
    Thins gone (tree.along actor followLast jump at_ steps)
      ((tree.without gone).along actor followLast jump' at_ steps) := by
  induction steps generalizing at_ with
  | nil =>
      obtain ⟨mode, there⟩ := standing.directory
      rw [along, along, files.keeps at_ _ (by simp [Entry.type]) there, there]
      exact .same _
  | cons step rest ih =>
      cases step with
      | here =>
          rw [along, along, files.mayUse standing]
          split
          · exact ih standing
          · exact .same _
      | parent =>
          rw [along, along, files.mayUse standing]
          split
          · exact ih standing.dropLast
          · exact .same _
      | name name =>
          rw [along, along, files.mayUse standing]
          split
          · exact .same _
          split
          · exact .same _
          by_cases member : at_ ++ [name] ∈ gone
          · obtain ⟨content, modified, mode, there⟩ := files _ member
            rw [files.get?_of_mem member, there]
            dsimp only
            split
            · exact .found member
            · exact .through
          · rw [files.get?_of_not_mem member]
            rcases there : tree.get? (at_ ++ [name]) with _ | content | mode | target
            · exact .same _
            · exact .same _
            · exact ih (standing.concat there)
            · dsimp only
              split
              · exact .same _
              · refine jumps _ _ ?_
                split
                · exact tree.standing_nil
                · exact standing

/-- A path leads where it led before, unless one of the files is at its end or on its way. -/
theorem thins_follow (files : tree.HoldsFiles gone) (standing : tree.Standing at_) :
    Thins gone (tree.follow actor followLast links at_ steps)
      ((tree.without gone).follow actor followLast links at_ steps) := by
  induction links generalizing at_ steps with
  | zero => exact thins_along files (fun _ _ _ => .same _) standing
  | succ links ih => exact thins_along files (fun _ _ origin => ih origin) standing

/-- So does the path of an operation. -/
theorem HoldsFiles.stat_without (files : tree.HoldsFiles gone) :
    (tree.without gone).stat actor followLast path = tree.stat actor followLast path ∨
      (∃ place ∈ gone, ∃ entry, tree.stat actor followLast path = .ok (place, entry) ∧
        (tree.without gone).stat actor followLast path = .error (.os .noEntry)) ∨
      (tree.stat actor followLast path = .error (.os .notDirectory) ∧
        (tree.without gone).stat actor followLast path = .error (.os .noEntry)) := by
  have thins : Thins gone (tree.follow actor followLast maxLinks [] path.components)
      ((tree.without gone).follow actor followLast maxLinks [] path.components) :=
    thins_follow files tree.standing_nil
  unfold stat resolve
  simp only
  split
  · exact .inl rfl
  split
  · exact .inl rfl
  split
  · exact .inl rfl
  generalize tree.follow actor followLast maxLinks [] path.components = before at thins
  generalize (tree.without gone).follow actor followLast maxLinks [] path.components = after at thins
  cases thins with
  | same => exact .inl rfl
  | found member => exact .inr (.inl ⟨_, member, _, rfl, rfl⟩)
  | through => exact .inr (.inr ⟨rfl, rfl⟩)

/-! ### Names in directories -/

section Directory

variable {directory : FilePath} {name : FileName} {names : List FileName}

/-- Names in a directory that were not taken away and are no links lead to the same in both
trees. -/
theorem HoldsFiles.alongside_names (files : tree.HoldsFiles gone)
    (steps : path.components = directory.components ++ names.map .name)
    (leads : Leads tree actor maxLinks [] directory.components place)
    (kept : ∀ below, below ≠ [] → below <+: names → place ++ below ∉ gone)
    (straight : ∀ below, below ≠ [] → below <+: names →
      ∀ target, tree.get? (place ++ below) ≠ some (.link target)) :
    Alongside tree (tree.without gone) actor path place names := by
  refine ⟨⟨_, steps, leads, files.keeps.leads leads⟩, fun below inside => ?_⟩
  by_cases here : below = []
  · obtain ⟨mode, there⟩ := leads.directory
    rw [here, List.append_nil, files.keeps _ _ (by simp [Entry.type]) there, there]
    exact ⟨rfl, by simp⟩
  · exact ⟨files.get?_of_not_mem (kept below here inside), straight below here inside⟩

/-- A directory that a path leads to is there in both trees. -/
theorem HoldsFiles.alongside (files : tree.HoldsFiles gone)
    (leads : Leads tree actor maxLinks [] path.components place) :
    Alongside tree (tree.without gone) actor path place [] :=
  files.alongside_names (List.append_nil _).symm leads
    (fun _ more inside => absurd (List.prefix_nil.mp inside) more)
    fun _ more inside => absurd (List.prefix_nil.mp inside) more

/-- So is a name in it, unless it was taken away or is a link. -/
theorem HoldsFiles.alongside_child (files : tree.HoldsFiles gone)
    (leads : Leads tree actor maxLinks [] directory.components place)
    (kept : place ++ [name] ∉ gone)
    (straight : ∀ target, tree.get? (place ++ [name]) ≠ some (.link target)) :
    Alongside tree (tree.without gone) actor (directory.child name) place [name] := by
  have whole {below : List FileName} (more : below ≠ []) (inside : below <+: [name]) :
      below = [name] := by
    rcases List.prefix_cons_iff.mp inside with rfl | ⟨rest, rfl, last⟩
    · exact absurd rfl more
    · rw [List.prefix_nil.mp last]
  refine files.alongside_names (FilePath.components_child directory name) leads ?_ ?_
  · exact fun below more inside => whole more inside ▸ kept
  · exact fun below more inside => whole more inside ▸ straight

end Directory

end ContentNode.FileSystem.FileTree
