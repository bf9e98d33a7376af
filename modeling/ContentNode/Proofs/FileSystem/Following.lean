import ContentNode.FileSystem.Path
import ContentNode.Proofs.FileSystem.Tree

/-!
# Following paths

Where a path leads is told by a derivation with one rule for each kind of step.  A
path to a directory consults only directories and symbolic links, so it leads to the
same place in every tree that keeps these.
-/

namespace ContentNode.FileSystem

/-- Permissions that let the owner of a file in let the privileged in as well. -/
theorem Actor.may_privileged (access : Access) (mode : Nat) :
    Actor.privileged.may access mode = true := by
  simp [Actor.may]

namespace FileTree

variable {tree other : FileTree} {actor : Actor} {links : Nat} {followLast : Bool}
  {at_ place : Location} {steps more : List Component} {name : FileName} {entry : Entry}

/-- A directory that someone may search. -/
def Searchable (tree : FileTree) (actor : Actor) (place : Location) : Prop :=
  ∃ mode, tree.get? place = some (.directory mode) ∧ actor.may .search mode = true

/-- The steps of a path lead from one directory to another, through at most `links`
symbolic links. -/
inductive Leads (tree : FileTree) (actor : Actor) :
    Nat → Location → List Component → Location → Prop
  | arrived {links : Nat} {place : Location} {mode : Nat}
      (there : tree.get? place = some (.directory mode)) : Leads tree actor links place [] place
  | here {links : Nat} {at_ place : Location} {rest : List Component}
      (searchable : tree.Searchable actor at_) (further : Leads tree actor links at_ rest place) :
      Leads tree actor links at_ (.here :: rest) place
  | parent {links : Nat} {at_ place : Location} {rest : List Component}
      (searchable : tree.Searchable actor at_)
      (further : Leads tree actor links at_.dropLast rest place) :
      Leads tree actor links at_ (.parent :: rest) place
  | down {links : Nat} {at_ place : Location} {name : FileName} {rest : List Component} {mode : Nat}
      (searchable : tree.Searchable actor at_) (short : name.toBytes.length ≤ FileName.maxSize)
      (there : tree.get? (at_ ++ [name]) = some (.directory mode))
      (further : Leads tree actor links (at_ ++ [name]) rest place) :
      Leads tree actor links at_ (.name name :: rest) place
  | jump {links : Nat} {at_ place : Location} {name : FileName} {rest : List Component}
      {target : String} (searchable : tree.Searchable actor at_)
      (short : name.toBytes.length ≤ FileName.maxSize)
      (there : tree.get? (at_ ++ [name]) = some (.link target))
      (further : Leads tree actor links (if target.startsWith "/" then [] else at_)
        (Component.ofPath target ++ rest) place) :
      Leads tree actor (links + 1) at_ (.name name :: rest) place

/-! ### The rules of following -/

theorem Searchable.mayUse (searchable : tree.Searchable actor place) :
    tree.mayUse actor .search place = true := by
  obtain ⟨mode, there, allowed⟩ := searchable
  simp only [FileTree.mayUse, directoryMode, there, Entry.mode, allowed]

theorem follow_here (searchable : tree.Searchable actor at_) :
    tree.follow actor followLast links at_ (.here :: steps) =
      tree.follow actor followLast links at_ steps := by
  cases links <;> simp [follow, along, searchable.mayUse]

theorem follow_parent (searchable : tree.Searchable actor at_) :
    tree.follow actor followLast links at_ (.parent :: steps) =
      tree.follow actor followLast links at_.dropLast steps := by
  cases links <;> simp [follow, along, searchable.mayUse]

theorem follow_directory {mode : Nat} (searchable : tree.Searchable actor at_)
    (short : name.toBytes.length ≤ FileName.maxSize)
    (there : tree.get? (at_ ++ [name]) = some (.directory mode)) :
    tree.follow actor followLast links at_ (.name name :: steps) =
      tree.follow actor followLast links (at_ ++ [name]) steps := by
  have fits : ¬ FileName.maxSize < name.toBytes.length := Nat.not_lt.mpr short
  cases links <;> simp [follow, along, searchable.mayUse, fits, there]

theorem follow_link {target : String} (searchable : tree.Searchable actor at_)
    (short : name.toBytes.length ≤ FileName.maxSize)
    (there : tree.get? (at_ ++ [name]) = some (.link target))
    (followed : steps ≠ [] ∨ followLast = true) :
    tree.follow actor followLast (links + 1) at_ (.name name :: steps) =
      tree.follow actor followLast links (if target.startsWith "/" then [] else at_)
        (Component.ofPath target ++ steps) := by
  have fits : ¬ FileName.maxSize < name.toBytes.length := Nat.not_lt.mpr short
  have through : ¬ (steps = [] ∧ followLast = false) := by
    rintro ⟨nothing, left⟩
    rcases followed with something | right
    · exact something nothing
    · rw [left] at right
      cases right
  simp [follow, along, searchable.mayUse, fits, there, through]

/-- What the last name of a path leads to. -/
def lookup (tree : FileTree) (parent : Location) (name : FileName) : Target :=
  match tree.get? (parent ++ [name]) with
  | some entry => .found (parent ++ [name]) entry
  | none => .free parent name

/-- Nothing is below a name that is free. -/
theorem follow_free (searchable : tree.Searchable actor at_)
    (short : name.toBytes.length ≤ FileName.maxSize) (free : tree.get? (at_ ++ [name]) = none)
    (below : steps ≠ []) :
    tree.follow actor followLast links at_ (.name name :: steps) = .error .noEntry := by
  have fits : ¬ FileName.maxSize < name.toBytes.length := Nat.not_lt.mpr short
  cases links <;> simp [follow, along, searchable.mayUse, fits, free, below]

theorem follow_last (searchable : tree.Searchable actor at_)
    (short : name.toBytes.length ≤ FileName.maxSize)
    (final : ∀ target, tree.get? (at_ ++ [name]) ≠ some (.link target)) :
    tree.follow actor followLast links at_ [.name name] = .ok (tree.lookup at_ name) := by
  have fits : ¬ FileName.maxSize < name.toBytes.length := Nat.not_lt.mpr short
  cases there : tree.get? (at_ ++ [name]) with
  | none => cases links <;> simp [follow, along, lookup, searchable.mayUse, fits, there]
  | some entry =>
      cases entry with
      | link target => exact absurd there (final target)
      | file content modified mode =>
          cases links <;> simp [follow, along, lookup, searchable.mayUse, fits, there]
      | directory mode =>
          cases links <;> simp [follow, along, lookup, searchable.mayUse, fits, there]

/-- What is found behind a name that is no link is found where the name leads. -/
theorem follow_of_name_found (straight : ∀ target, tree.get? (at_ ++ [name]) ≠ some (.link target))
    (walk : tree.follow actor followLast links at_ (.name name :: steps) =
      .ok (.found place entry)) :
    tree.follow actor followLast links (at_ ++ [name]) steps = .ok (.found place entry) := by
  have step {jump : Location → List Component → Except Errno Target}
      (walk : tree.along actor followLast jump at_ (.name name :: steps) =
        .ok (.found place entry)) :
      tree.along actor followLast jump (at_ ++ [name]) steps = .ok (.found place entry) := by
    rw [along] at walk
    split at walk
    · cases walk
    split at walk
    · cases walk
    rcases there : tree.get? (at_ ++ [name]) with _ | content | mode | target
    · rw [there] at walk
      dsimp only at walk
      split at walk <;> cases walk
    · rw [there] at walk
      dsimp only at walk
      split at walk
      · next last =>
        cases walk
        rw [last, along, there]
      · cases walk
    · rwa [there] at walk
    · exact absurd there (straight target)
  cases links <;> exact step walk

/-! ### Directories are reached through directories -/

/-- All places on the way down to a place are directories. -/
def Standing (tree : FileTree) (place : Location) : Prop :=
  ∀ count, ∃ mode, tree.get? (place.take count) = some (.directory mode)

theorem standing_nil (tree : FileTree) : tree.Standing [] := fun _ => ⟨_, by
  rw [List.take_nil]
  rfl⟩

theorem Standing.directory (standing : tree.Standing place) :
    ∃ mode, tree.get? place = some (.directory mode) := by
  have whole := standing place.length
  rwa [List.take_length] at whole

theorem Standing.dropLast (standing : tree.Standing place) : tree.Standing place.dropLast := by
  intro count
  rw [List.dropLast_eq_take, List.take_take]
  exact standing _

theorem Standing.concat {mode : Nat} (standing : tree.Standing place)
    (there : tree.get? (place ++ [name]) = some (.directory mode)) :
    tree.Standing (place ++ [name]) := by
  intro count
  by_cases within : count ≤ place.length
  · rw [List.take_append_of_le_length within]
    exact standing count
  · have beyond : (place ++ [name]).length ≤ count := by
      rw [List.length_append, List.length_singleton]
      omega
    rw [List.take_of_length_le beyond]
    exact ⟨mode, there⟩

theorem Standing.searchable (standing : tree.Standing place)
    (allowed : tree.mayUse actor .search place = true) : tree.Searchable actor place := by
  obtain ⟨mode, there⟩ := standing.directory
  simp only [FileTree.mayUse, directoryMode, there, Entry.mode] at allowed
  exact ⟨mode, there, allowed⟩

/-- A walk that ends in a directory has a derivation if its jumps have one. -/
private theorem leads_of_along {jump : Location → List Component → Except Errno Target} {mode : Nat}
    (jumps : ∀ at_ steps, tree.Standing at_ →
      jump at_ steps = .ok (.found place (.directory mode)) →
        ∃ fewer, links = fewer + 1 ∧ Leads tree actor fewer at_ steps place)
    (standing : tree.Standing at_)
    (walk : tree.along actor true jump at_ steps = .ok (.found place (.directory mode))) :
    Leads tree actor links at_ steps place := by
  induction steps generalizing at_ with
  | nil =>
      obtain ⟨mode', there⟩ := standing.directory
      simp only [along, there, Except.ok.injEq, Target.found.injEq] at walk
      obtain ⟨rfl, -⟩ := walk
      exact .arrived there
  | cons step rest ih =>
      cases step with
      | here =>
          rw [along] at walk
          split at walk
          · rename_i allowed
            exact .here (standing.searchable allowed) (ih standing walk)
          · cases walk
      | parent =>
          rw [along] at walk
          split at walk
          · rename_i allowed
            exact .parent (standing.searchable allowed) (ih standing.dropLast walk)
          · cases walk
      | name name =>
          rw [along] at walk
          by_cases allowed : tree.mayUse actor .search at_ = true
          · rw [allowed] at walk
            by_cases long : FileName.maxSize < name.toBytes.length
            · simp [long] at walk
            · have searchable := standing.searchable allowed
              have short : name.toBytes.length ≤ FileName.maxSize := Nat.not_lt.mp long
              cases there : tree.get? (at_ ++ [name]) with
              | none =>
                  by_cases last : rest = [] <;> simp [long, there, last] at walk
              | some entry =>
                  cases entry with
                  | directory mode' =>
                      simp only [Bool.not_true, Bool.false_eq_true, if_false, long, there] at walk
                      exact .down searchable short there (ih (standing.concat there) walk)
                  | file content modified mode' =>
                      by_cases last : rest = [] <;> simp [long, there, last] at walk
                  | link target =>
                      simp only [Bool.not_true, Bool.false_eq_true, if_false, long, there,
                        and_false] at walk
                      have origin : tree.Standing (if target.startsWith "/" then [] else at_) := by
                        split
                        · exact tree.standing_nil
                        · exact standing
                      obtain ⟨fewer, rfl, further⟩ := jumps _ _ origin walk
                      exact .jump searchable short there further
          · simp [allowed] at walk

/-- If the steps of a path end in a directory, there is a derivation of it. -/
theorem leads_of_follow {mode : Nat} (standing : tree.Standing at_)
    (walk : tree.follow actor true links at_ steps = .ok (.found place (.directory mode))) :
    Leads tree actor links at_ steps place := by
  induction links generalizing at_ steps with
  | zero =>
      refine leads_of_along (fun _ _ _ jumped => ?_) standing walk
      cases jumped
  | succ links ih =>
      exact leads_of_along (fun _ _ origin jumped => ⟨links, rfl, ih origin jumped⟩) standing walk

/-- A walk whose last step is a name looks it up in a directory that has a derivation, if its
jumps do so. -/
private theorem leads_of_along_last {jump : Location → List Component → Except Errno Target}
    {target : Target}
    (jumps : ∀ at_ steps, tree.Standing at_ → jump at_ (steps ++ [.name name]) = .ok target →
      ∃ fewer parent, links = fewer + 1 ∧ Leads tree actor fewer at_ steps parent ∧
        tree.Searchable actor parent ∧ target = tree.lookup parent name)
    (standing : tree.Standing at_)
    (walk : tree.along actor false jump at_ (steps ++ [.name name]) = .ok target) :
    ∃ parent, Leads tree actor links at_ steps parent ∧ tree.Searchable actor parent ∧
      target = tree.lookup parent name := by
  induction steps generalizing at_ with
  | nil =>
      obtain ⟨mode, there⟩ := standing.directory
      rw [List.nil_append, along] at walk
      by_cases allowed : tree.mayUse actor .search at_ = true
      · refine ⟨at_, .arrived there, standing.searchable allowed, ?_⟩
        rw [allowed] at walk
        by_cases long : FileName.maxSize < name.toBytes.length
        · simp [long] at walk
        · rw [lookup]
          rcases found : tree.get? (at_ ++ [name]) with _ | content | mode | target <;>
            simp [long, found, along] at walk <;> exact walk.symm
      · simp [allowed] at walk
  | cons step rest ih =>
      have more : rest ++ [.name name] ≠ [] := by simp
      rw [List.cons_append] at walk
      cases step with
      | here =>
          rw [along] at walk
          split at walk
          · next allowed =>
            obtain ⟨parent, leads, found⟩ := ih standing walk
            exact ⟨parent, .here (standing.searchable allowed) leads, found⟩
          · cases walk
      | parent =>
          rw [along] at walk
          split at walk
          · next allowed =>
            obtain ⟨parent, leads, found⟩ := ih standing.dropLast walk
            exact ⟨parent, .parent (standing.searchable allowed) leads, found⟩
          · cases walk
      | name n =>
          rw [along] at walk
          by_cases allowed : tree.mayUse actor .search at_ = true
          · rw [allowed] at walk
            by_cases long : FileName.maxSize < n.toBytes.length
            · simp [long] at walk
            · have searchable := standing.searchable allowed
              have short : n.toBytes.length ≤ FileName.maxSize := Nat.not_lt.mp long
              rcases there : tree.get? (at_ ++ [n]) with _ | content | mode | link
              · simp [long, there] at walk
              · simp [long, there] at walk
              · simp only [Bool.not_true, Bool.false_eq_true, if_false, long, there] at walk
                obtain ⟨parent, leads, found⟩ := ih (standing.concat there) walk
                exact ⟨parent, .down searchable short there leads, found⟩
              · simp only [Bool.not_true, Bool.false_eq_true, if_false, long, there, more,
                  false_and] at walk
                rw [← List.append_assoc] at walk
                have origin : tree.Standing (if link.startsWith "/" then [] else at_) := by
                  split
                  · exact tree.standing_nil
                  · exact standing
                obtain ⟨fewer, parent, rfl, leads, found⟩ := jumps _ _ origin walk
                exact ⟨parent, .jump searchable short there leads, found⟩
          · simp [allowed] at walk

/-- A path whose last step is a name leads to a directory, in which the name is looked up. -/
theorem leads_of_follow_last {target : Target} (standing : tree.Standing at_)
    (walk : tree.follow actor false links at_ (steps ++ [.name name]) = .ok target) :
    ∃ parent, Leads tree actor links at_ steps parent ∧ tree.Searchable actor parent ∧
      target = tree.lookup parent name := by
  induction links generalizing at_ steps with
  | zero =>
      refine leads_of_along_last (fun _ _ _ jumped => ?_) standing walk
      cases jumped
  | succ links ih =>
      refine leads_of_along_last (fun _ _ origin jumped => ?_) standing walk
      obtain ⟨parent, found⟩ := ih origin jumped
      exact ⟨links, parent, rfl, found⟩

namespace Leads

/-- A path leads to a directory. -/
theorem directory (leads : Leads tree actor links at_ steps place) :
    ∃ mode, tree.get? place = some (.directory mode) := by
  induction leads with
  | arrived there => exact ⟨_, there⟩
  | here _ _ ih => exact ih
  | parent _ _ ih => exact ih
  | down _ _ _ _ ih => exact ih
  | jump _ _ _ _ ih => exact ih

/-- Steps behind a path to a directory go on from there. -/
theorem follow_append (leads : Leads tree actor links at_ steps place) (followLast : Bool)
    (more : List Component) (followed : more ≠ [] ∨ followLast = true) :
    ∃ left, tree.follow actor followLast links at_ (steps ++ more) =
      tree.follow actor followLast left place more := by
  induction leads with
  | arrived there => exact ⟨_, rfl⟩
  | here searchable _ ih =>
      obtain ⟨left, further⟩ := ih
      exact ⟨left, (follow_here searchable).trans further⟩
  | parent searchable _ ih =>
      obtain ⟨left, further⟩ := ih
      exact ⟨left, (follow_parent searchable).trans further⟩
  | down searchable short there _ ih =>
      obtain ⟨left, further⟩ := ih
      exact ⟨left, (follow_directory searchable short there).trans further⟩
  | jump searchable short there _ ih =>
      obtain ⟨left, further⟩ := ih
      refine ⟨left, (follow_link searchable short there ?_).trans ?_⟩
      · rcases followed with something | always
        · exact .inl (by simp [something])
        · exact .inr always
      · rw [List.append_assoc] at further
        exact further

/-- A path leads to one directory only. -/
theorem unique {other : Location} (leads : Leads tree actor links at_ steps place)
    (leads' : Leads tree actor links at_ steps other) : place = other := by
  obtain ⟨mode, there⟩ := leads.directory
  obtain ⟨mode', there'⟩ := leads'.directory
  obtain ⟨left, walk⟩ := leads.follow_append true [] (.inr rfl)
  obtain ⟨left', walk'⟩ := leads'.follow_append true [] (.inr rfl)
  rw [follow_nil there] at walk
  rw [follow_nil there', walk, Except.ok.injEq, Target.found.injEq] at walk'
  exact walk'.1

/-- Two paths one after the other. -/
theorem append (leads : Leads tree actor links at_ steps place)
    {target : Location} (further : ∀ left, Leads tree actor left place more target) :
    Leads tree actor links at_ (steps ++ more) target := by
  induction leads with
  | arrived there => exact further _
  | here searchable _ ih => exact .here searchable (ih further)
  | parent searchable _ ih => exact .parent searchable (ih further)
  | down searchable short there _ ih => exact .down searchable short there (ih further)
  | jump searchable short there _ ih =>
      have whole := ih further
      rw [List.append_assoc] at whole
      exact .jump searchable short there whole

/-- A path to a directory leads to other directories on the way. -/
theorem of_append (leads : Leads tree actor links at_ (steps ++ more) place) (behind : more ≠ []) :
    ∃ left middle, Leads tree actor links at_ steps middle ∧
      Leads tree actor left middle more place := by
  have start {links : Nat} {at_ target : Location} {all : List Component}
      (leads : Leads tree actor links at_ all target) (searchable : tree.Searchable actor at_)
      (whole : [] ++ more = all) : ∃ left middle, Leads tree actor links at_ [] middle ∧
        Leads tree actor left middle more target := by
    obtain ⟨mode, there, -⟩ := searchable
    subst whole
    exact ⟨_, _, .arrived there, leads⟩
  generalize whole : steps ++ more = all at leads
  induction leads generalizing steps with
  | arrived there => exact absurd (List.append_eq_nil_iff.mp whole).2 behind
  | here searchable further ih =>
      cases steps with
      | nil => exact start (.here searchable further) searchable whole
      | cons first rest =>
          obtain ⟨rfl, rest_eq⟩ := List.cons.inj whole
          obtain ⟨left, middle, leads, last⟩ := ih rest_eq
          exact ⟨left, middle, .here searchable leads, last⟩
  | parent searchable further ih =>
      cases steps with
      | nil => exact start (.parent searchable further) searchable whole
      | cons first rest =>
          obtain ⟨rfl, rest_eq⟩ := List.cons.inj whole
          obtain ⟨left, middle, leads, last⟩ := ih rest_eq
          exact ⟨left, middle, .parent searchable leads, last⟩
  | down searchable short there further ih =>
      cases steps with
      | nil => exact start (.down searchable short there further) searchable whole
      | cons first rest =>
          obtain ⟨rfl, rest_eq⟩ := List.cons.inj whole
          obtain ⟨left, middle, leads, last⟩ := ih rest_eq
          exact ⟨left, middle, .down searchable short there leads, last⟩
  | jump searchable short there further ih =>
      cases steps with
      | nil => exact start (.jump searchable short there further) searchable whole
      | cons first rest =>
          obtain ⟨rfl, rfl⟩ := List.cons.inj whole
          obtain ⟨left, middle, leads, last⟩ := ih (List.append_assoc _ _ _)
          exact ⟨left, middle, .jump searchable short there leads, last⟩

/-- A path to a directory leads from the one before it to what has its name there, unless that
is a link. -/
theorem child_place {other : Location} (leads : Leads tree actor links at_ steps place)
    (further : Leads tree actor links at_ (steps ++ [.name name]) other)
    (straight : ∀ target, tree.get? (place ++ [name]) ≠ some (.link target)) :
    other = place ++ [name] := by
  obtain ⟨left, middle, leads', last⟩ := further.of_append (List.cons_ne_nil _ _)
  obtain rfl := leads'.unique leads
  cases last with
  | down searchable short there arrived =>
      cases arrived
      rfl
  | jump searchable short there further => exact absurd there (straight _)

end Leads

/-! ### Trees that keep directories and links -/

/-- All directories and symbolic links of a tree are in another one too. -/
def Keeps (tree other : FileTree) : Prop :=
  ∀ place entry, entry.type ≠ .file → tree.get? place = some entry → other.get? place = some entry

theorem Keeps.refl (tree : FileTree) : tree.Keeps tree := fun _ _ _ there => there

theorem Keeps.trans {third : FileTree} (first : tree.Keeps other) (second : other.Keeps third) :
    tree.Keeps third :=
  fun place entry kind there => second place entry kind (first place entry kind there)

/-- A change at a place where there is nothing or a file keeps directories and links. -/
theorem Keeps.changed {left : Option Entry} (changed : tree.Changed other place left)
    (replaced : ∀ old, tree.get? place = some old → old.type = .file) : tree.Keeps other := by
  intro found old kind there
  by_cases same : found = place
  · subst same
    exact absurd (replaced old there) kind
  · rw [changed.get?_of_ne same]
    exact there

theorem Keeps.searchable (keeps : tree.Keeps other) (searchable : tree.Searchable actor place) :
    other.Searchable actor place := by
  obtain ⟨mode, there, allowed⟩ := searchable
  exact ⟨mode, keeps _ _ (by simp [Entry.type]) there, allowed⟩

/-- Whoever may use a directory may do so still. -/
theorem Keeps.mayUse (keeps : tree.Keeps other)
    (there : ∃ mode, tree.get? place = some (.directory mode)) (access : Access) :
    other.mayUse actor access place = tree.mayUse actor access place := by
  obtain ⟨mode, there⟩ := there
  unfold FileTree.mayUse directoryMode
  rw [keeps _ _ (by simp [Entry.type]) there, there]

/-- A path to a directory leads to the same place if directories and links are kept. -/
theorem Keeps.leads (keeps : tree.Keeps other) (leads : Leads tree actor links at_ steps place) :
    Leads other actor links at_ steps place := by
  induction leads with
  | arrived there => exact .arrived (keeps _ _ (by simp [Entry.type]) there)
  | here searchable _ ih => exact .here (keeps.searchable searchable) ih
  | parent searchable _ ih => exact .parent (keeps.searchable searchable) ih
  | down searchable short there _ ih =>
      exact .down (keeps.searchable searchable) short (keeps _ _ (by simp [Entry.type]) there) ih
  | jump searchable short there _ ih =>
      exact .jump (keeps.searchable searchable) short (keeps _ _ (by simp [Entry.type]) there) ih

/-- Where someone gets to, the privileged get to as well. -/
theorem Leads.privileged (leads : Leads tree actor links at_ steps place) :
    Leads tree .privileged links at_ steps place := by
  have search {at_ : Location} (searchable : tree.Searchable actor at_) :
      tree.Searchable .privileged at_ := by
    obtain ⟨mode, there, -⟩ := searchable
    exact ⟨mode, there, Actor.may_privileged _ _⟩
  induction leads with
  | arrived there => exact .arrived there
  | here searchable _ ih => exact .here (search searchable) ih
  | parent searchable _ ih => exact .parent (search searchable) ih
  | down searchable short there _ ih => exact .down (search searchable) short there ih
  | jump searchable short there _ ih => exact .jump (search searchable) short there ih

/-! ### Directories of one's own -/

/-- A directory that someone may read, change and search. -/
def Usable (tree : FileTree) (actor : Actor) (place : Location) : Prop :=
  ∃ mode, tree.get? place = some (.directory mode) ∧ ∀ access, actor.may access mode = true

theorem Usable.searchable (usable : tree.Usable actor place) : tree.Searchable actor place := by
  obtain ⟨mode, there, allowed⟩ := usable
  exact ⟨mode, there, allowed .search⟩

theorem Usable.mayUse (usable : tree.Usable actor place) (access : Access) :
    tree.mayUse actor access place = true := by
  obtain ⟨mode, there, allowed⟩ := usable
  simp only [FileTree.mayUse, directoryMode, there, Entry.mode, allowed]

theorem Keeps.usable (keeps : tree.Keeps other) (usable : tree.Usable actor place) :
    other.Usable actor place := by
  obtain ⟨mode, there, allowed⟩ := usable
  exact ⟨mode, keeps _ _ (by simp [Entry.type]) there, allowed⟩

/-- A new directory may be used. -/
theorem may_directoryMode (actor : Actor) (access : Access) :
    actor.may access Entry.directoryMode = true := by
  cases actor <;> cases access <;> rfl

end FileTree

end ContentNode.FileSystem
