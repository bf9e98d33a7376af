import ContentNode.Proofs.FileSystem.Answers

/-!
# Entries stand in directories

Whatever there is in a tree stands in a directory, and no operation changes this.
-/

namespace ContentNode.FileSystem.FileTree

variable {tree after : FileTree} {actor : Actor} {now : Instant} {followLast : Bool} {links : Nat}
  {place parent at_ : Location} {steps : List Component} {path file : FilePath} {name : FileName}
  {entry : Entry} {target : Target} {mode : Nat}

/-- Whatever there is stands in a directory. -/
def Rooted (tree : FileTree) : Prop :=
  ∀ place name entry, tree.get? (place ++ [name]) = some entry →
    ∃ mode, tree.get? place = some (.directory mode)

/-- It can be told from the entries whether everything stands in a directory. -/
theorem rooted_of_places (above : ∀ place ∈ tree.places,
    (tree.get? place.dropLast).map Entry.isDirectory = some true) : tree.Rooted := by
  intro place name entry there
  have standing := above _ ((tree.mem_places_iff (by simp)).mpr (there ▸ Option.some_ne_none _))
  rw [List.dropLast_concat] at standing
  rcases held : tree.get? place with _ | content | mode | target
  · rw [held] at standing
    cases standing
  · rw [held] at standing
    cases standing
  · exact ⟨mode, rfl⟩
  · rw [held] at standing
    cases standing

/-! ### Where paths end -/

/-- What is found at the end of a path is there, and what is free has a directory. -/
inductive Ends (tree : FileTree) : Target → Prop
  | found {place : Location} {entry : Entry} (there : tree.get? place = some entry) :
      Ends tree (.found place entry)
  | free {parent : Location} {name : FileName} (standing : tree.Standing parent) :
      Ends tree (.free parent name)

/-- A walk ends like that if its jumps do so. -/
private theorem ends_of_along {jump : Location → List Component → Except Errno Target}
    (jumps : ∀ at_ steps, tree.Standing at_ → jump at_ steps = .ok target → Ends tree target)
    (standing : tree.Standing at_)
    (walk : tree.along actor followLast jump at_ steps = .ok target) : Ends tree target := by
  induction steps generalizing at_ with
  | nil =>
      obtain ⟨mode, there⟩ := standing.directory
      rw [along, there] at walk
      cases walk
      exact .found there
  | cons step rest ih =>
      cases step with
      | here =>
          rw [along] at walk
          split at walk
          · exact ih standing walk
          · cases walk
      | parent =>
          rw [along] at walk
          split at walk
          · exact ih standing.dropLast walk
          · cases walk
      | name n =>
          rw [along] at walk
          split at walk
          · cases walk
          split at walk
          · cases walk
          rcases there : tree.get? (at_ ++ [n]) with _ | content | mode | link
          · rw [there] at walk
            dsimp only at walk
            split at walk
            · cases walk
              exact .free standing
            · cases walk
          · rw [there] at walk
            dsimp only at walk
            split at walk
            · cases walk
              exact .found there
            · cases walk
          · rw [there] at walk
            exact ih (standing.concat there) walk
          · rw [there] at walk
            dsimp only at walk
            split at walk
            · cases walk
              exact .found there
            · refine jumps _ _ ?_ walk
              split
              · exact tree.standing_nil
              · exact standing

theorem ends_of_follow (standing : tree.Standing at_)
    (walk : tree.follow actor followLast links at_ steps = .ok target) : Ends tree target := by
  induction links generalizing at_ steps with
  | zero => exact ends_of_along (fun _ _ _ jumped => by cases jumped) standing walk
  | succ links ih =>
      exact ends_of_along (fun _ _ origin jumped => ih origin jumped) standing walk

/-- A path that leads to a free name leads to a directory. -/
theorem directory_of_free (free : tree.resolve actor followLast path = .ok (.free parent name)) :
    ∃ mode, tree.get? parent = some (.directory mode) := by
  cases ends_of_follow tree.standing_nil (resolve_eq_ok free).2 with
  | free standing => exact standing.directory

/-- What a path leads to is there. -/
theorem get?_of_stat (found : tree.stat actor followLast path = .ok (place, entry)) :
    tree.get? place = some entry := by
  cases ends_of_follow tree.standing_nil (follow_of_stat found) with
  | found there => exact there

/-! ### What is kept -/

namespace Rooted

/-- Where there is nothing, there is nothing below. -/
theorem free (rooted : tree.Rooted) (free : tree.get? place = none) (name : FileName) :
    tree.get? (place ++ [name]) = none := by
  cases there : tree.get? (place ++ [name]) with
  | none => rfl
  | some entry =>
      obtain ⟨mode, standing⟩ := rooted _ _ _ there
      cases free.symm.trans standing

/-- An entry that is put into a directory takes the place of no other one. -/
theorem insert (rooted : tree.Rooted) (above : tree.get? place = some (.directory mode))
    (other : ∀ mode, tree.get? (place ++ [name]) ≠ some (.directory mode)) (entry : Entry) :
    (tree.insert (place ++ [name]) entry).Rooted := by
  have stays (at_ : Location) (mode : Nat) (there : tree.get? at_ = some (.directory mode)) :
      (tree.insert (place ++ [name]) entry).get? at_ = some (.directory mode) := by
    rw [get?_insert_of_ne _ (by simp), there]
    rintro rfl
    exact other mode there
  intro at_ n held found
  rw [get?_insert _ (by simp)] at found
  split at found
  · next same =>
    obtain ⟨rfl, -⟩ : at_ = place ∧ _ := by simpa using same
    exact ⟨mode, stays _ _ above⟩
  · obtain ⟨mode', there⟩ := rooted _ _ _ found
    exact ⟨mode', stays _ _ there⟩

/-- An entry that is taken away is no directory. -/
theorem erase (rooted : tree.Rooted) (other : ∀ mode, tree.get? place ≠ some (.directory mode)) :
    (tree.erase place).Rooted := by
  have below : place ≠ [] := by
    rintro rfl
    exact other _ rfl
  intro at_ n held found
  rw [get?_erase _ below] at found
  split at found
  · cases found
  · obtain ⟨mode, there⟩ := rooted _ _ _ found
    refine ⟨mode, ?_⟩
    rw [get?_erase _ below, if_neg, there]
    rintro rfl
    exact other mode there

/-- So is a new entry where a path found nothing. -/
theorem insert_free (rooted : tree.Rooted)
    (free : tree.resolve actor followLast path = .ok (.free parent name)) (entry : Entry) :
    (tree.insert (parent ++ [name]) entry).Rooted := by
  obtain ⟨mode, above⟩ := directory_of_free free
  exact rooted.insert above (by simp [(resolve_eq_free free).1]) entry

theorem makeMissing (rooted : tree.Rooted) (actor : Actor) (paths : List FilePath) :
    (FileTree.makeMissing actor paths tree).2.Rooted := by
  refine makeMissing_keeps Rooted (fun tree path rooted => ?_) paths rooted
  rcases tree.ensureDirectory_eq actor path with same | ⟨parent, name, resolved, made⟩
  · rwa [same]
  · rw [made]
    exact rooted.insert_free resolved _

theorem appendTo (rooted : tree.Rooted) (now : Instant) (file : FilePath) (bytes : ByteArray) :
    (tree.appendTo now file bytes).Rooted := by
  unfold FileTree.appendTo
  split
  · next place content modified mode found =>
    have there := get?_of_stat found
    rcases List.eq_nil_or_concat place with rfl | ⟨above, name, rfl⟩
    · cases there
    · rw [List.concat_eq_append] at there ⊢
      obtain ⟨permissions, standing⟩ := rooted _ _ _ there
      exact rooted.insert standing (by simp [there]) _
  · exact rooted

theorem remove (rooted : tree.Rooted) (removed : tree.remove actor path = .ok after) :
    after.Rooted := by
  obtain ⟨place, entry, found, other, rfl⟩ := remove_eq_ok removed
  refine rooted.erase fun mode there => ?_
  cases (get?_of_stat found).symm.trans there
  cases other

/-- After every operation everything still stands in a directory. -/
theorem perform (rooted : tree.Rooted) (actor : Actor) (now : Instant) (op : Operation) :
    (tree.perform actor now op).2.Rooted := by
  cases op with
  | makeDirectories path => exact rooted.makeMissing actor _
  | createTemporary path =>
      rw [FileTree.perform]
      cases made : tree.createTemporary actor now path with
      | error e => exact rooted
      | ok outcome =>
          obtain ⟨file, after⟩ := outcome
          obtain ⟨place, mode, number, -, above, -, -, free, -, rfl⟩ := createTemporary_eq_ok made
          exact rooted.insert above (by simp [free]) _
  | append file bytes => exact rooted.appendTo now file bytes
  | link file path =>
      refine change_keeps rooted fun after linked => ?_
      obtain ⟨entry, parent, name, free, rfl⟩ := link_eq_ok linked
      exact rooted.insert_free free entry
  | discard file => exact change_keeps rooted fun after removed => rooted.remove removed
  | remove path => exact change_keeps rooted fun after removed => rooted.remove removed
  | exists_ path | sync file | syncDirectory path | read path | kind path | list path
  | metadata path => exact rooted

/-- So it does after every program. -/
theorem run {α : Type} {program : FileProgram α} {value : α} (rooted : tree.Rooted)
    (ran : program.run (FileTree.perform actor now) tree = (value, after)) : after.Rooted := by
  have kept := program.run_keeps Rooted
    (fun op _ rooted => Rooted.perform rooted actor now op) rooted
  rwa [ran] at kept

end Rooted

end ContentNode.FileSystem.FileTree
