import ContentNode.FileSystem.Basic

/-!
# Places of a tree

What a tree has at a place after an entry was put somewhere or taken away, and what
a listing of a directory shows.
-/

namespace ContentNode.FileSystem.FileTree

variable {tree : FileTree} {place other : Location} {name : FileName} {entry : Entry}

/-- The places of a tree other than the top. -/
def places (tree : FileTree) : List Location := tree.entries.map Prod.fst

/-- No place has two entries. -/
def Distinct (tree : FileTree) : Prop := tree.places.Nodup

theorem get?_of_ne_nil (tree : FileTree) (below : place ≠ []) :
    tree.get? place = List.lookup place tree.entries := if_neg below

/-! ### Entries and their places -/

private theorem lookup_eq_none_iff (entries : List (Location × Entry)) :
    List.lookup place entries = none ↔ place ∉ entries.map Prod.fst := by
  induction entries with
  | nil => simp
  | cons first rest ih =>
      rcases first with ⟨p, e⟩
      rw [List.lookup_cons]
      by_cases same : place = p
      · simp [same]
      · simp [same, ih, beq_false_of_ne same]

private theorem lookup_eq_some_iff {entries : List (Location × Entry)}
    (distinct : (entries.map Prod.fst).Nodup) :
    List.lookup place entries = some entry ↔ (place, entry) ∈ entries := by
  induction entries with
  | nil => simp
  | cons first rest ih =>
      rcases first with ⟨p, e⟩
      have rest_distinct := (List.nodup_cons.mp distinct).2
      have p_new := (List.nodup_cons.mp distinct).1
      rw [List.lookup_cons]
      by_cases same : place = p
      · subst same
        have absent : (place, entry) ∉ rest := fun found =>
          p_new (List.mem_map.mpr ⟨_, found, rfl⟩)
        simp [absent, eq_comm]
      · simp [same, ih rest_distinct, beq_false_of_ne same]

/-- The places of a tree are those where there is something. -/
theorem mem_places_iff (below : place ≠ []) : place ∈ tree.places ↔ tree.get? place ≠ none := by
  rw [get?_of_ne_nil _ below, ne_eq, lookup_eq_none_iff, Classical.not_not, places]

theorem Distinct.mem_entries_iff (distinct : tree.Distinct) (below : place ≠ []) :
    (place, entry) ∈ tree.entries ↔ tree.get? place = some entry := by
  rw [get?_of_ne_nil _ below]
  exact (lookup_eq_some_iff distinct).symm

/-! ### Putting and taking away -/

private theorem lookup_map_replace (entries : List (Location × Entry)) :
    List.lookup other (entries.map fun (p, old) => if p = place then (p, entry) else (p, old)) =
      if other = place then (List.lookup other entries).map fun _ => entry
      else List.lookup other entries := by
  induction entries with
  | nil => simp
  | cons first rest ih =>
      rcases first with ⟨p, e⟩
      rw [List.map_cons, List.lookup_cons]
      by_cases replaced : p = place
      · by_cases asked : other = p
        · simp [replaced, asked]
        · have apart : other ≠ place := fun same => asked (same.trans replaced.symm)
          rw [if_neg apart] at ih
          simp [replaced, List.lookup_cons, beq_false_of_ne apart, apart, ih]
      · by_cases asked : other = p
        · simp [replaced, asked]
        · simp [replaced, List.lookup_cons, beq_false_of_ne asked, ih]

/-- Putting an entry at a place changes this place only. -/
theorem get?_insert (tree : FileTree) (below : place ≠ []) (entry : Entry) (other : Location) :
    (tree.insert place entry).get? other =
      if other = place then some entry else tree.get? other := by
  by_cases top : other = []
  · subst top
    rw [if_neg (Ne.symm below)]
    rfl
  · rw [get?_of_ne_nil _ top, get?_of_ne_nil _ top]
    unfold insert
    cases held : List.lookup place tree.entries with
    | some old =>
        rw [lookup_map_replace]
        by_cases same : other = place
        · simp [same, held]
        · simp [same]
    | none =>
        rw [List.lookup_append]
        by_cases same : other = place
        · simp [same, held]
        · simp [same, List.lookup_cons, beq_false_of_ne same]

theorem get?_insert_self (tree : FileTree) (below : place ≠ []) (entry : Entry) :
    (tree.insert place entry).get? place = some entry := by
  rw [get?_insert tree below, if_pos rfl]

theorem get?_insert_of_ne (tree : FileTree) (below : place ≠ []) (entry : Entry)
    (apart : other ≠ place) : (tree.insert place entry).get? other = tree.get? other := by
  rw [get?_insert tree below, if_neg apart]

private theorem lookup_filter_ne (entries : List (Location × Entry)) :
    List.lookup other (entries.filter fun (p, _) => p ≠ place) =
      if other = place then none else List.lookup other entries := by
  induction entries with
  | nil => simp
  | cons first rest ih =>
      rcases first with ⟨p, e⟩
      by_cases removed : p = place
      · rw [List.filter_cons_of_neg (by simpa using removed), ih, List.lookup_cons]
        by_cases same : other = place
        · simp [same]
        · have apart : other ≠ p := fun h => same (h.trans removed)
          simp [same, beq_false_of_ne apart]
      · rw [List.filter_cons_of_pos (by simpa using removed), List.lookup_cons, ih,
          List.lookup_cons]
        by_cases same : other = p
        · simp [same, removed]
        · simp [beq_false_of_ne same]

/-- Taking the entry of a place away changes this place only. -/
theorem get?_erase (tree : FileTree) (below : place ≠ []) (other : Location) :
    (tree.erase place).get? other = if other = place then none else tree.get? other := by
  by_cases top : other = []
  · subst top
    rw [if_neg (Ne.symm below)]
    rfl
  · rw [get?_of_ne_nil _ top, get?_of_ne_nil _ top]
    exact lookup_filter_ne tree.entries

/-- Two trees differ at one place at most, where the second one has a given entry. -/
def Changed (tree after : FileTree) (place : Location) (entry : Option Entry) : Prop :=
  ∀ other, after.get? other = if other = place then entry else tree.get? other

theorem changed_insert (tree : FileTree) (below : place ≠ []) (entry : Entry) :
    tree.Changed (tree.insert place entry) place (some entry) :=
  tree.get?_insert below entry

theorem changed_erase (tree : FileTree) (below : place ≠ []) :
    tree.Changed (tree.erase place) place none :=
  tree.get?_erase below

namespace Changed

variable {after : FileTree} {left : Option Entry}

theorem get?_self (changed : tree.Changed after place left) : after.get? place = left := by
  rw [changed place, if_pos rfl]

theorem get?_of_ne (changed : tree.Changed after place left) (apart : other ≠ place) :
    after.get? other = tree.get? other := by
  rw [changed other, if_neg apart]

end Changed

theorem Distinct.insert (distinct : tree.Distinct) (place : Location) (entry : Entry) :
    (tree.insert place entry).Distinct := by
  unfold FileTree.insert Distinct places
  cases held : List.lookup place tree.entries with
  | some old =>
      have same : (tree.entries.map fun (p, old) =>
          if p = place then (p, entry) else (p, old)).map Prod.fst = tree.places := by
        rw [List.map_map, places]
        refine List.map_congr_left fun found _ => ?_
        rcases found with ⟨p, e⟩
        by_cases here : p = place <;> simp [here]
      exact same ▸ distinct
  | none =>
      have absent := (lookup_eq_none_iff tree.entries).mp held
      simp only [List.map_append, List.map_cons, List.map_nil]
      rw [List.nodup_append]
      refine ⟨distinct, List.pairwise_singleton _ _, fun p found q asked => ?_⟩
      rw [List.mem_singleton] at asked
      subst asked
      exact fun same => absent (same ▸ found)

theorem Distinct.erase (distinct : tree.Distinct) (place : Location) :
    (tree.erase place).Distinct :=
  List.Nodup.sublist (List.Sublist.map _ List.filter_sublist) distinct

/-! ### One change after another -/

/-- A change of an entry, as it is made to all entries of a list. -/
private theorem filter_map_replace (entries : List (Location × Entry))
    (kept : Location → Bool) :
    (entries.map fun (p, old) => if p = place then (p, entry) else (p, old)).filter
        (fun (p, _) => kept p) =
      (entries.filter fun (p, _) => kept p).map fun (p, old) =>
        if p = place then (p, entry) else (p, old) := by
  rw [List.filter_map]
  congr 1
  apply List.filter_congr
  rintro ⟨p, old⟩ -
  by_cases here : p = place <;> simp [here]

/-- Nothing is replaced where the place does not occur. -/
private theorem map_replace_of_absent {entries : List (Location × Entry)}
    (absent : place ∉ entries.map Prod.fst) :
    (entries.map fun (p, old) => if p = place then (p, entry) else (p, old)) = entries := by
  refine (List.map_congr_left ?_).trans (List.map_id entries)
  rintro ⟨p, old⟩ member
  have other : p ≠ place := by
    rintro rfl
    exact absent (List.mem_map.mpr ⟨_, member, rfl⟩)
  exact if_neg other

/-- What stands at a place is told by the entries. -/
theorem get?_congr {after : FileTree} (same : tree.entries = after.entries) (place : Location) :
    tree.get? place = after.get? place := by
  unfold get?
  rw [same]

/-- So is what becomes of the entries when another one is put there. -/
theorem entries_insert_congr {after : FileTree} (same : tree.entries = after.entries)
    (place : Location) (entry : Entry) :
    (tree.insert place entry).entries = (after.insert place entry).entries := by
  unfold insert
  rw [same]
  cases List.lookup place after.entries <;> rfl

/-- The count of temporary names does not matter for the entries. -/
theorem insert_counted (tree : FileTree) (place : Location) (entry : Entry) (count : Nat) :
    insert place entry { tree with temporaries := count } =
      { tree.insert place entry with temporaries := count } := by
  unfold insert
  cases List.lookup place tree.entries <;> rfl

/-- Of two entries that are put at a place the second one stays. -/
theorem insert_insert (tree : FileTree) (place : Location) (first second : Entry) :
    (tree.insert place first).insert place second = tree.insert place second := by
  cases held : List.lookup place tree.entries with
  | some old =>
      have again : List.lookup place (tree.entries.map fun (p, old) =>
          if p = place then (p, first) else (p, old)) = some first := by
        rw [lookup_map_replace, if_pos rfl, held]
        rfl
      simp only [insert, held, again, List.map_map, FileTree.mk.injEq, and_true]
      apply List.map_congr_left
      rintro ⟨p, old⟩ -
      by_cases here : p = place <;> simp [here]
  | none =>
      have absent := (lookup_eq_none_iff tree.entries).mp held
      have again : List.lookup place (tree.entries ++ [(place, first)]) = some first := by
        simp [List.lookup_append, held]
      simp only [insert, held, again, List.map_append, map_replace_of_absent absent]
      simp

/-- An entry that is put at a place and taken away leaves what there was elsewhere. -/
theorem erase_insert_self (tree : FileTree) (place : Location) (entry : Entry) :
    (tree.insert place entry).erase place = tree.erase place := by
  cases held : List.lookup place tree.entries with
  | some old =>
      have absent : place ∉ (tree.entries.filter fun (p, _) => decide (p ≠ place)).map Prod.fst := by
        simp
      simp only [insert, held, erase]
      rw [filter_map_replace tree.entries fun p => decide (p ≠ place),
        map_replace_of_absent absent]
  | none => simp [insert, held, erase]

/-- Changes at different places do not depend on their order. -/
theorem erase_insert_of_ne (tree : FileTree) (entry : Entry) (apart : other ≠ place) :
    (tree.insert other entry).erase place = (tree.erase place).insert other entry := by
  have looked : List.lookup other (tree.erase place).entries = List.lookup other tree.entries := by
    rw [erase, lookup_filter_ne, if_neg apart]
  cases held : List.lookup other tree.entries with
  | some old =>
      rw [insert, insert, looked, held]
      simp only [erase]
      rw [filter_map_replace tree.entries fun p => decide (p ≠ place)]
  | none =>
      rw [insert, insert, looked, held]
      simp [erase, apart]

theorem erase_erase (tree : FileTree) (place other : Location) :
    (tree.erase place).erase other = (tree.erase other).erase place := by
  simp only [erase, List.filter_filter, Bool.and_comm]

/-- Nothing is taken away from where there is nothing. -/
theorem erase_of_free (below : place ≠ []) (free : tree.get? place = none) :
    tree.erase place = tree := by
  rw [get?_of_ne_nil _ below] at free
  have absent := (lookup_eq_none_iff tree.entries).mp free
  have all : (tree.entries.filter fun (p, _) => decide (p ≠ place)) = tree.entries := by
    rw [List.filter_eq_self]
    rintro ⟨p, old⟩ member
    have other : p ≠ place := by
      rintro rfl
      exact absent (List.mem_map.mpr ⟨_, member, rfl⟩)
    exact decide_eq_true other
  rw [erase, all]

/-! ### Listings -/

/-- What a listing of a directory shows of an entry. -/
private theorem shown_iff {p : Location} {e : Entry} :
    (match p.getLast? with
      | some last => if p = place ++ [last] then some (last, e) else none
      | none => none) = some (name, entry) ↔ p = place ++ [name] ∧ e = entry := by
  constructor
  · intro shown
    split at shown
    · split at shown
      · rename_i there
        cases shown
        exact ⟨there, rfl⟩
      · cases shown
    · cases shown
  · rintro ⟨rfl, rfl⟩
    simp

/-- A listing shows what stands right below a directory. -/
theorem Distinct.mem_children_iff (distinct : tree.Distinct) :
    (name, entry) ∈ tree.children place ↔ tree.get? (place ++ [name]) = some entry := by
  rw [← distinct.mem_entries_iff (by simp)]
  unfold children
  rw [List.mem_filterMap]
  constructor
  · rintro ⟨⟨p, e⟩, found, shown⟩
    obtain ⟨rfl, rfl⟩ := shown_iff.mp shown
    exact found
  · intro found
    exact ⟨_, found, shown_iff.mpr ⟨rfl, rfl⟩⟩

/-- No name is listed twice. -/
theorem Distinct.nodup_children (distinct : tree.Distinct) (place : Location) :
    ((tree.children place).map Prod.fst).Nodup := by
  have apart : tree.entries.Pairwise fun one two => one.1 ≠ two.1 := List.pairwise_map.mp distinct
  refine List.pairwise_map.mpr (List.pairwise_filterMap.mpr (apart.imp ?_))
  rintro ⟨p, e⟩ ⟨q, f⟩ different ⟨name, _⟩ first ⟨name', _⟩ second same
  have here : p = place ++ [name] := (shown_iff.mp first).1
  have there : q = place ++ [name'] := (shown_iff.mp second).1
  cases same
  exact different (here.trans there.symm)

/-- A listing loses at most what was taken away. -/
theorem filter_children_erase (tree : FileTree) (above : Location) {keep : FileName × Entry → Bool}
    (hidden : ∀ name entry, place = above ++ [name] → keep (name, entry) = false) :
    ((tree.erase place).children above).filter keep = (tree.children above).filter keep := by
  unfold children erase
  dsimp only
  induction tree.entries with
  | nil => rfl
  | cons first rest ih =>
      obtain ⟨p, e⟩ := first
      by_cases here : p = place
      · subst here
        rw [List.filter_cons_of_neg (by simp), ih, List.filterMap_cons]
        split
        · rfl
        · next shown found =>
          obtain ⟨name, entry⟩ := shown
          obtain ⟨there, rfl⟩ := shown_iff.mp found
          rw [List.filter_cons_of_neg (by simp [hidden name e there])]
      · rw [List.filter_cons_of_pos (by simpa using here), List.filterMap_cons, List.filterMap_cons]
        split
        · exact ih
        · rw [List.filter_cons, List.filter_cons, ih]

end ContentNode.FileSystem.FileTree
