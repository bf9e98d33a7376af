import ContentNode.Proofs.Store.File.Counting
import ContentNode.Proofs.Store.File.Faults

/-!
# Opening a store that others use

What opening a store asks for and when it fails, whatever happens to the files in the
meantime.  It removes nothing but temporary files, each right after it was found to be old,
and it does not matter if such a file is gone by then.  But it fails if a file is gone when
it is to be looked at, so of several who open a store at once one can fail.
-/

namespace ContentNode.FileStore

open FileSystem

/-! ### What is asked for -/

/-- A request that failed for other reasons than that a file to be removed was gone. -/
inductive Obstructs : ((op : Operation) × op.Answer) → IoError → Prop
  | makeDirectories (path : FilePath) (e : IoError) : Obstructs ⟨.makeDirectories path, .error e⟩ e
  | kind (path : FilePath) (e : IoError) : Obstructs ⟨.kind path, .error e⟩ e
  | list (path : FilePath) (e : IoError) : Obstructs ⟨.list path, .error e⟩ e
  | metadata (path : FilePath) (e : IoError) : Obstructs ⟨.metadata path, .error e⟩ e
  | remove (path : FilePath) {e : IoError} (there : e ≠ .os .noEntry) :
      Obstructs ⟨.remove path, .error e⟩ e

/-- Nothing is asked for but to look at files, to make directories, and to remove temporary
files that have just been found to be old. -/
inductive Careful (now : Instant) : Trace → Prop
  | nil : Careful now []
  | look {op : Operation} {answer : op.Answer} {events : Trace}
      (looks : Looks op) (rest : Careful now events) : Careful now (⟨op, answer⟩ :: events)
  | makeDirectories {path : FilePath} {answer : Except IoError Unit}
      {events : Trace} (rest : Careful now events) :
      Careful now (⟨.makeDirectories path, answer⟩ :: events)
  | remove {directory : FilePath} {name : FileName} {info : Metadata} {answer : Except IoError Unit}
      {events : Trace} (temporary : isTemporary name = true)
      (old : staleAge ≤ age now info.modified) (rest : Careful now events) :
      Careful now (⟨.metadata (directory.child name), .ok info⟩ ::
        ⟨.remove (directory.child name), answer⟩ :: events)

/-- Nothing was in the way, or the last request was and is reported. -/
inductive Concludes {α : Type} : Trace → Except StoreError α → Prop
  | ok {events : Trace} (value : α)
      (clear : ∀ event ∈ events, ∀ e, ¬ Obstructs event e) : Concludes events (.ok value)
  | error {events : Trace} {last : (op : Operation) × op.Answer}
      {e : IoError} (clear : ∀ event ∈ events, ∀ e, ¬ Obstructs event e)
      (obstructs : Obstructs last e) : Concludes (events ++ [last]) (.error (.io e))

variable {σ α β : Type} {performs : (op : Operation) → σ → op.Answer → σ → Prop}
  {now : Instant} {first second events : Trace}
  {event : (op : Operation) × op.Answer} {outcome : Except StoreError α}

theorem Careful.append (careful : Careful now first) (further : Careful now second) :
    Careful now (first ++ second) := by
  induction careful with
  | nil => exact further
  | look looks _ ih => exact .look looks ih
  | makeDirectories _ ih => exact .makeDirectories ih
  | remove temporary old _ ih => exact .remove temporary old ih

theorem Concludes.append (clear : ∀ event ∈ first, ∀ e, ¬ Obstructs event e)
    (concludes : Concludes second outcome) : Concludes (first ++ second) outcome := by
  have both {events : Trace}
      (rest : ∀ event ∈ events, ∀ e, ¬ Obstructs event e) :
      ∀ event ∈ first ++ events, ∀ e, ¬ Obstructs event e := by
    intro event member
    rcases List.mem_append.mp member with before | after
    · exact clear event before
    · exact rest event after
  cases concludes with
  | ok value rest => exact .ok value (both rest)
  | error rest obstructs =>
      rw [← List.append_assoc]
      exact .error (both rest) obstructs

theorem Concludes.cons (clear : ∀ e, ¬ Obstructs event e) (concludes : Concludes events outcome) :
    Concludes (event :: events) outcome := by
  have one : ∀ other ∈ [event], ∀ e, ¬ Obstructs other e := by
    intro other member
    rw [List.mem_singleton.mp member]
    exact clear
  exact Concludes.append one concludes

/-- Nothing was asked for. -/
theorem concludes_nil (value : α) : Concludes [] (.ok value) := .ok value nofun

theorem concludes_singleton {e : IoError} (obstructs : Obstructs event e) :
    Concludes [event] (.error (.io e) : Except StoreError α) := by
  rw [← List.nil_append [event]]
  exact .error nofun obstructs

/-! ### Programs that sweep -/

/-- Whatever its requests do, a program removes old temporary files only and fails only if
something is in the way. -/
def Sweeps (performs : (op : Operation) → σ → op.Answer → σ → Prop) (now : Instant)
    (program : FileProgram (Except StoreError α)) : Prop :=
  ∀ s events outcome u, Program.Runs performs program s events outcome u →
    Careful now events ∧ Concludes events outcome

theorem sweeps_done (value : α) : Sweeps performs now (.done (.ok value)) := by
  intro s events outcome u runs
  cases runs
  exact ⟨.nil, concludes_nil value⟩

/-- A request that is answered goes on, and one that is in the way ends the program. -/
theorem sweeps_step {op : Operation} {next : op.Answer → FileProgram (Except StoreError α)}
    (harmless : Looks op ∨ ∃ path, op = .makeDirectories path)
    (goes : ∀ answer : op.Answer,
      (∃ e, Obstructs ⟨op, answer⟩ e ∧ next answer = .done (.error (.io e))) ∨
        (∀ e, ¬ Obstructs ⟨op, answer⟩ e) ∧ Sweeps performs now (next answer)) :
    Sweeps performs now (.step op next) := by
  intro s events outcome u runs
  cases runs with
  | @step _ _ _ _ _ answer events _ performed further =>
      have careful (rest : Careful now events) : Careful now (⟨op, answer⟩ :: events) := by
        rcases harmless with looks | ⟨path, rfl⟩
        · exact .look looks rest
        · exact .makeDirectories rest
      rcases goes answer with ⟨e, obstructs, stops⟩ | ⟨clear, sweeps⟩
      · rw [stops] at further
        cases further
        exact ⟨careful .nil, concludes_singleton obstructs⟩
      · obtain ⟨rest, concludes⟩ := sweeps _ _ _ _ further
        exact ⟨careful rest, concludes.cons clear⟩

theorem sweeps_bind {program : FileProgram (Except StoreError α)} {next : α → Step β}
    (sweeps : Sweeps performs now program) (goes : ∀ value, Sweeps performs now (next value).run) :
    Sweeps performs now (program.bind (onward next)) := by
  intro s events outcome u runs
  obtain ⟨first, middle, t, second, rfl, ran, after⟩ := runs.of_bind
  obtain ⟨careful, concludes⟩ := sweeps _ _ _ _ ran
  cases concludes with
  | ok value clear =>
      obtain ⟨rest, further⟩ := goes value _ _ _ _ after
      exact ⟨careful.append rest, further.append clear⟩
  | error clear obstructs =>
      cases after
      rw [List.append_nil]
      exact ⟨careful, .error clear obstructs⟩

/-! ### Opening -/

/-- A file is left, or it is removed if it is temporary and old. -/
theorem sweeps_sweepFile (sweep : Sweep) (directory : FilePath) (name : FileName) :
    Sweeps performs now (sweepFile now sweep (directory.child name) name).run := by
  cases temporary : isTemporary name with
  | false =>
      rw [run_sweepFile_of_permanent now sweep _ temporary]
      exact sweeps_done sweep
  | true =>
      intro s events outcome u runs
      rw [run_sweepFile_of_temporary now sweep _ temporary] at runs
      cases runs with
      | @step _ _ _ _ _ answer _ _ performed further =>
          rcases answer with e | info
          · cases further
            exact ⟨.look trivial .nil, concludes_singleton (.metadata _ e)⟩
          have looked (e : IoError) :
              ¬ Obstructs ⟨.metadata (directory.child name), .ok info⟩ e := nofun
          dsimp only at further
          split at further
          · cases further
            exact ⟨.look trivial .nil, (concludes_nil _).cons looked⟩
          · next late =>
            have old := Int.not_lt.mp late
            cases further with
            | @step _ _ _ _ _ answer _ _ performed further =>
                rcases answer with e | ⟨⟩
                · dsimp only at further
                  split at further
                  · next gone =>
                    cases further
                    refine ⟨.remove temporary old .nil, ((concludes_nil _).cons ?_).cons looked⟩
                    intro other obstructs
                    cases obstructs with
                    | remove _ there => exact there gone
                  · next there =>
                    cases further
                    exact ⟨.remove temporary old .nil,
                      (concludes_singleton (.remove _ there)).cons looked⟩
                · cases further
                  have removed (e : IoError) :
                      ¬ Obstructs ⟨.remove (directory.child name), .ok ()⟩ e := nofun
                  exact ⟨.remove temporary old .nil,
                    ((concludes_nil _).cons removed).cons looked⟩

theorem sweeps_visitFiles (directory : FilePath) (entries : List (FileName × FileType))
    (sweep : Sweep) :
    Sweeps performs now (visitFiles (sweepFile now) directory entries sweep).run := by
  induction entries generalizing sweep with
  | nil => exact sweeps_done sweep
  | cons entry rest ih =>
      obtain ⟨name, type⟩ := entry
      cases type with
      | file =>
          rw [run_visitFiles_file]
          exact sweeps_bind (sweeps_sweepFile sweep directory name) ih
      | directory => exact ih sweep
      | link => exact ih sweep

theorem sweeps_visitDirectories (parent : FilePath) (entries : List (FileName × FileType))
    (sweep : Sweep) :
    Sweeps performs now (visitDirectories (sweepFile now) parent entries sweep).run := by
  induction entries generalizing sweep with
  | nil => exact sweeps_done sweep
  | cons entry rest ih =>
      obtain ⟨name, type⟩ := entry
      cases type with
      | directory =>
          rw [run_visitDirectories_directory]
          refine sweeps_step (.inl ?_) fun answer => ?_
          · trivial
          rcases answer with e | listed
          · exact .inl ⟨e, .list _ e, rfl⟩
          · exact .inr ⟨nofun, sweeps_bind (sweeps_visitFiles _ listed sweep) ih⟩
      | file => exact ih sweep
      | link => exact ih sweep

/-- Opening a store removes old temporary files only and fails only with a request that is in
the way, whatever others do to its files in the meantime. -/
theorem sweeps_open (store : FileStore) : Sweeps performs now (store.open_ now).run := by
  rw [run_open]
  refine sweeps_step (.inr ⟨_, rfl⟩) fun answer => ?_
  rcases answer with e | ⟨⟩
  · exact .inl ⟨e, .makeDirectories _ e, rfl⟩
  refine .inr ⟨nofun, ?_⟩
  dsimp only
  rw [sweep, run_walk]
  refine sweeps_step (.inl ?_) fun answer => ?_
  · trivial
  rcases answer with e | kind
  · exact .inl ⟨e, .kind _ e, rfl⟩
  refine .inr ⟨nofun, ?_⟩
  cases kind with
  | file => exact sweeps_done _
  | link => exact sweeps_done _
  | directory =>
      refine sweeps_step (.inl ?_) fun answer => ?_
      · trivial
      rcases answer with e | entries
      · exact .inl ⟨e, .list _ e, rfl⟩
      · exact .inr ⟨nofun, sweeps_visitDirectories _ entries _⟩

/-! ### Two who open a store -/

/-- What an operation does if others may open the same store before it. -/
inductive Shares (store : FileStore) (actor : Actor) (now : Instant) :
    (op : Operation) → FileTree → op.Answer → FileTree → Prop
  | performed (op : Operation) (tree : FileTree) :
      Shares store actor now op tree (tree.perform actor now op).1 (tree.perform actor now op).2
  | opened {op : Operation} {answer : op.Answer} {tree after : FileTree}
      (shares : Shares store actor now op
        ((store.open_ now).run.run (FileTree.perform actor now) tree).2 answer after) :
      Shares store actor now op tree answer after

/-- A store with a temporary file that was left over. -/
def abandoned : FileTree :=
  ⟨[([.text "s"], .directory Entry.directoryMode),
    ([.text "s", .text "objects"], .directory Entry.directoryMode),
    ([.text "s", .text "objects", .text "ab"], .directory Entry.directoryMode),
    ([.text "s", .text "objects", .text "ab", .text ".tmp-000000"],
      .file .empty 0 Entry.temporaryMode)], 0⟩

/-- Another one opens the store each time before a file is looked at. -/
def overtaken (op : Operation) (tree : FileTree) : op.Answer × FileTree :=
  match op with
  | .metadata path =>
    (((FileStore.mk "s").open_ staleAge).run.run (FileTree.perform .owner staleAge) tree).2.perform
      .owner staleAge (.metadata path)
  | op => tree.perform .owner staleAge op

theorem shares_overtaken (op : Operation) (tree : FileTree) :
    Shares ⟨"s"⟩ .owner staleAge op tree (overtaken op tree).1 (overtaken op tree).2 := by
  unfold overtaken
  split
  · exact .opened (.performed _ _)
  · exact .performed _ _

/-- The error of an outcome. -/
def error? : Except StoreError α → Option StoreError
  | .error e => some e
  | .ok _ => none

theorem eq_of_error? {e : StoreError} (failed : error? outcome = some e) : outcome = .error e := by
  cases outcome with
  | error other => rw [Option.some.inj failed]
  | ok value => cases failed

/-- Who opens a store can fail because another one does the same: a file that was listed was
removed before it was looked at. -/
theorem exists_open_of_shared : ∃ events after,
    Program.Runs (Shares ⟨"s"⟩ .owner staleAge) ((FileStore.mk "s").open_ staleAge).run abandoned
      events (.error (.io (.visiting .noEntry "s/objects/ab/.tmp-000000"))) after := by
  obtain ⟨events, runs⟩ := Program.exists_runs shares_overtaken
    ((FileStore.mk "s").open_ staleAge).run abandoned
  have failed : error? (((FileStore.mk "s").open_ staleAge).run.run overtaken abandoned).1 =
      some (.io (.visiting .noEntry "s/objects/ab/.tmp-000000")) := by decide +kernel
  rw [eq_of_error? failed] at runs
  exact ⟨events, _, runs⟩

end ContentNode.FileStore
