import ContentNode.Proofs.FileSystem.Effects

/-!
# Making directories

What may have become of a tree in which directories were to be made: nothing but
directories was added, at places where there had been nothing.
-/

namespace ContentNode.FileSystem.FileTree

variable {tree after : FileTree} {actor : Actor} {followLast : Bool} {links : Nat}
  {at_ parent place : Location} {steps : List Component} {path : FilePath} {name : FileName}
  {paths : List FilePath} {mode : Nat}

/-! ### Paths that lead to nothing -/

private theorem along_free {jump jump' : Location → List Component → Except Errno Target}
    (jumps : ∀ at_ steps, jump at_ steps = .ok (.free parent name) →
      tree.get? (parent ++ [name]) = none ∧ jump' at_ steps = .ok (.free parent name))
    (free : tree.along actor followLast jump at_ steps = .ok (.free parent name)) :
    tree.get? (parent ++ [name]) = none ∧
      tree.along actor true jump' at_ steps = .ok (.free parent name) := by
  induction steps generalizing at_ with
  | nil =>
      rw [along] at free
      cases there : tree.get? at_ <;> simp [there] at free
  | cons step rest ih =>
      cases step with
      | here =>
          rw [along] at free ⊢
          split at free
          · next allowed =>
            rw [if_pos allowed]
            exact ih free
          · cases free
      | parent =>
          rw [along] at free ⊢
          split at free
          · next allowed =>
            rw [if_pos allowed]
            exact ih free
          · cases free
      | name n =>
          rw [along] at free ⊢
          split at free
          · cases free
          · next allowed =>
            rw [if_neg allowed]
            split at free
            · cases free
            · next short =>
              rw [if_neg short]
              cases there : tree.get? (at_ ++ [n]) with
              | none =>
                  simp only [there] at free ⊢
                  split at free
                  · next last =>
                    cases free
                    exact ⟨there, if_pos last⟩
                  · cases free
              | some entry =>
                  cases entry with
                  | directory mode =>
                      simp only [there] at free ⊢
                      exact ih free
                  | file content modified mode =>
                      simp only [there] at free
                      split at free <;> cases free
                  | link target =>
                      simp only [there] at free ⊢
                      split at free
                      · cases free
                      · simp only [Bool.not_true, Bool.false_eq_true, and_false, if_false]
                        exact jumps _ _ free

/-- A path that leads to nothing does so too if a link at its end is followed. -/
theorem follow_eq_free (free : tree.follow actor followLast links at_ steps =
      .ok (.free parent name)) :
    tree.get? (parent ++ [name]) = none ∧
      tree.follow actor true links at_ steps = .ok (.free parent name) := by
  induction links generalizing at_ steps with
  | zero => exact along_free (fun _ _ jumped => by cases jumped) free
  | succ links ih => exact along_free (fun _ _ jumped => ih jumped) free

theorem resolve_eq_free (free : tree.resolve actor followLast path = .ok (.free parent name)) :
    tree.get? (parent ++ [name]) = none ∧
      tree.resolve actor true path = .ok (.free parent name) := by
  unfold resolve at free ⊢
  simp only at free ⊢
  split at free
  · cases free
  · next clean =>
    rw [if_neg clean]
    split at free
    · cases free
    · next size =>
      rw [if_neg size]
      split at free
      · cases free
      · next nonempty =>
        rw [if_neg nonempty]
        cases followed : tree.follow actor followLast maxLinks [] path.components with
        | error e =>
            rw [followed] at free
            cases free
        | ok target =>
            rw [followed] at free
            cases free
            obtain ⟨nothing, further⟩ := follow_eq_free followed
            rw [further]
            exact ⟨nothing, rfl⟩

/-! ### What is made -/

/-- One directory is made at a place where there was nothing, or nothing changes. -/
theorem ensureDirectory_eq (tree : FileTree) (actor : Actor) (path : FilePath) :
    (tree.ensureDirectory actor path).2 = tree ∨
      ∃ parent name, tree.resolve actor false path = .ok (.free parent name) ∧
        (tree.ensureDirectory actor path).2 =
          tree.insert (parent ++ [name]) (.directory Entry.directoryMode) := by
  unfold ensureDirectory makeDirectory
  rcases resolved : tree.resolve actor false path with e | ⟨place, entry⟩ | ⟨parent, name⟩
  · exact .inl rfl
  · exact .inl rfl
  · simp only [bind, Except.bind]
    split
    · next made =>
      split at made
      · cases made
        exact .inr ⟨parent, name, rfl, rfl⟩
      · cases made
    · exact .inl rfl

/-- A directory that is there is not made again. -/
theorem ensureDirectory_of_isDirectory (there : tree.isDirectory actor path = true) :
    tree.ensureDirectory actor path = (.ok (), tree) := by
  unfold ensureDirectory makeDirectory
  rcases resolved : tree.resolve actor false path with e | ⟨place, entry⟩ | ⟨parent, name⟩
  · simp only [bind, Except.bind, there, if_true]
  · simp only [bind, Except.bind, there, if_true]
  · have nothing : tree.stat actor true path = .error (.os .noEntry) := by
      unfold stat
      rw [(resolve_eq_free resolved).2]
      rfl
    rw [isDirectory, nothing] at there
    cases there

/-- Where all directories are there, none is made. -/
theorem makeMissing_of_isDirectory (there : ∀ path ∈ paths, tree.isDirectory actor path = true) :
    makeMissing actor paths tree = (.ok (), tree) := by
  cases paths with
  | nil => rfl
  | cons path above =>
      rw [makeMissing, ensureDirectory_of_isDirectory (there path List.mem_cons_self)]

/-- Where only the last directory is missing, no other one is made. -/
theorem makeMissing_cons_of_isDirectory
    (above : ∀ path ∈ paths, tree.isDirectory actor path = true) :
    (makeMissing actor (path :: paths) tree).2 = (tree.ensureDirectory actor path).2 := by
  rw [makeMissing]
  split
  · next tree' missing =>
    rw [makeMissing_of_isDirectory above]
  · rfl

/-- Directories have been made at places where there was nothing, all of which have a
property, and nothing else has changed. -/
def Furnished (new : Location → Prop) (tree after : FileTree) : Prop :=
  ∀ place, after.get? place = tree.get? place ∨
    (tree.get? place = none ∧ after.get? place = some (.directory Entry.directoryMode) ∧ new place)

namespace Furnished

variable {new : Location → Prop} {last : FileTree}

theorem refl (tree : FileTree) : Furnished new tree tree := fun _ => .inl rfl

theorem trans (first : Furnished new tree after) (second : Furnished new after last) :
    Furnished new tree last := by
  intro place
  rcases second place with same | ⟨free, made, allowed⟩
  · rw [same]
    exact first place
  · rcases first place with same | ⟨-, there, -⟩
    · exact .inr ⟨same ▸ free, made, allowed⟩
    · cases free.symm.trans there

theorem insert (free : tree.get? (place ++ [name]) = none) (allowed : new (place ++ [name])) :
    Furnished new tree (tree.insert (place ++ [name]) (.directory Entry.directoryMode)) := by
  intro other
  by_cases same : other = place ++ [name]
  · subst same
    exact .inr ⟨free, get?_insert_self _ (by simp) _, allowed⟩
  · exact .inl (get?_insert_of_ne _ (by simp) _ same)

end Furnished

/-- Making a directory adds this directory at most. -/
theorem furnished_ensureDirectory {new : Location → Prop}
    (allowed : ∀ parent name, tree.resolve actor false path = .ok (.free parent name) →
      new (parent ++ [name])) :
    Furnished new tree (tree.ensureDirectory actor path).2 := by
  rcases tree.ensureDirectory_eq actor path with same | ⟨parent, name, resolved, made⟩
  · rw [same]
    exact .refl tree
  · rw [made]
    exact .insert (resolve_eq_free resolved).1 (allowed parent name resolved)

/-- Making directories adds directories at most. -/
theorem furnished_makeMissing (actor : Actor) (paths : List FilePath) (tree : FileTree) :
    Furnished (fun _ => True) tree (makeMissing actor paths tree).2 := by
  induction paths generalizing tree with
  | nil => exact .refl tree
  | cons path above ih =>
      rw [makeMissing]
      split
      · have further := ih tree
        split
        · next made =>
          rw [made] at further
          exact further.trans (furnished_ensureDirectory fun _ _ _ => trivial)
        · exact further
      · exact furnished_ensureDirectory fun _ _ _ => trivial

/-- What is kept when one directory is made is kept when many are. -/
theorem makeMissing_keeps (holds : FileTree → Prop)
    (one : ∀ tree path, holds tree → holds (tree.ensureDirectory actor path).2)
    (paths : List FilePath) (start : holds tree) : holds (makeMissing actor paths tree).2 := by
  induction paths generalizing tree with
  | nil => exact start
  | cons path above ih =>
      rw [makeMissing]
      split
      · have further := ih start
        split
        · next made =>
          rw [made] at further
          exact one _ path further
        · exact further
      · exact one _ path start

/-- Making directories keeps all places apart. -/
theorem Distinct.makeMissing (distinct : tree.Distinct) (actor : Actor) (paths : List FilePath) :
    (FileTree.makeMissing actor paths tree).2.Distinct := by
  refine makeMissing_keeps Distinct (fun tree path distinct => ?_) paths distinct
  rcases tree.ensureDirectory_eq actor path with same | ⟨_, _, -, made⟩
  · rwa [same]
  · rw [made]
    exact distinct.insert _ _

end ContentNode.FileSystem.FileTree
