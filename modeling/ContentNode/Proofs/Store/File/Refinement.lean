import ContentNode.Proofs.Store.File.Opening
import ContentNode.Proofs.Store.File.Reflecting

/-!
# Files as a store in memory

Whoever uses a store alone cannot tell whether it keeps its objects in files or in
memory, except by the moments at which objects were stored.  Opening the store in
files anew makes no difference.
-/

namespace ContentNode

open FileSystem

/-- What is asked of a store that can be opened anew. -/
inductive Demand where
  | perform (op : StoreOperation)
  | reopen

/-- What comes of a demand, without the moment at which an object was stored. -/
inductive Outcome where
  | put (outcome : Except StoreError PutOutcome)
  | get (object : Except StoreError (Address × ByteArray))
  | exists_ (present : Bool)
  | stats (totals : Except StoreError StoreStats)
  | reopen (opened : Except StoreError Unit)

namespace Outcome

/-- The answer to an operation as an outcome. -/
def ofAnswer : (op : StoreOperation) → op.Answer → Outcome
  | .put _ _, answer => put answer
  | .get _, answer => get (answer.map fun object => (object.address, object.payload))
  | .exists_ _, answer => exists_ answer
  | .stats, answer => stats answer

/-- The outcomes of demands one after another, each at its own moment. -/
def sequence {σ : Type} (demand : Instant → Demand → σ → Outcome × σ) :
    List (Instant × Demand) → σ → List Outcome
  | [], _ => []
  | (now, first) :: rest, s =>
    let (outcome, s) := demand now first s
    outcome :: sequence demand rest s

end Outcome

/-- A store in memory is never opened anew. -/
def MemoryStore.demand (now : Instant) : Demand → MemoryStore → Outcome × MemoryStore
  | .perform op, memory =>
    let (answer, memory) := memory.perform now op
    (.ofAnswer op answer, memory)
  | .reopen, memory => (.reopen (.ok ()), memory)

/-- A demand on the files of a store. -/
def FileStore.demand (store : FileStore) (actor : Actor) (now : Instant) :
    Demand → FileTree → Outcome × FileTree
  | .perform op, tree =>
    let (answer, tree) := store.perform actor now op tree
    (.ofAnswer op answer, tree)
  | .reopen, tree =>
    let (opened, tree) := Opening.ofStore actor now store tree
    (.reopen (opened.map fun _ => ()), tree)

theorem MemoryStore.demand_perform (now : Instant) (op : StoreOperation) (memory : MemoryStore) :
    MemoryStore.demand now (.perform op) memory =
      (.ofAnswer op (memory.perform now op).1, (memory.perform now op).2) := rfl

theorem FileStore.demand_perform (store : FileStore) (actor : Actor) (now : Instant)
    (op : StoreOperation) (tree : FileTree) : store.demand actor now (.perform op) tree =
      (.ofAnswer op (store.perform actor now op tree).1, (store.perform actor now op tree).2) := rfl

namespace FileStore

variable {store : FileStore} {actor : Actor} {now later : Instant} {top : Location}
  {tree after : FileTree} {memory : MemoryStore} {address : Address} {payload record : ByteArray}

/-- The files of a store hold the same objects as a store in memory. -/
structure Mirrors (store : FileStore) (actor : Actor) (top : Location) (memory : MemoryStore)
    (tree : FileTree) : Prop where
  layout : store.Layout actor top tree
  settled : Settled top tree
  distinct : memory.Distinct
  objects : ∀ address, Option.Rel Records (memory.payload? address) (object? top tree address)

namespace Mirrors

theorem reflects (mirrors : Mirrors store actor top memory tree) :
    Reflects store actor top memory tree :=
  ⟨mirrors.layout, mirrors.distinct, mirrors.objects⟩

/-- An address is free in both, or it has the same payload in both. -/
theorem free_or_held (mirrors : Mirrors store actor top memory tree) (address : Address) :
    (memory.get? address = none ∧ object? top tree address = none) ∨
      ∃ payload moment record, memory.get? address = some ⟨address, payload, moment⟩ ∧
        object? top tree address = some record ∧ Records payload record :=
  mirrors.reflects.free_or_held address

/-! ### Operations -/

/-- An object that is taken is stored in neither; a free one is stored in both. -/
theorem put (mirrors : Mirrors store actor top memory tree) (later : Instant)
    (address : Address) (timely : Record.Timely now)
    (short : 16 + payload.size < Record.sizeLimit) :
    (store.perform actor now (.put address payload) tree).1 =
        .ok (memory.put later address payload).1 ∧
      Mirrors store actor top (memory.put later address payload).2
        (store.perform actor now (.put address payload) tree).2 := by
  cases used : memory.contains address with
  | true =>
      rw [mirrors.reflects.put_taken used, MemoryStore.put_of_taken used]
      exact ⟨rfl, mirrors⟩
  | false =>
      have free : object? top tree address = none := by
        rcases mirrors.free_or_held address with ⟨-, free⟩ | ⟨_, _, _, known, -⟩
        · exact free
        · rw [MemoryStore.contains, known] at used
          cases used
      have encoded := Record.encode_eq_ok now short
      obtain ⟨after, performed, layout, settled, objects⟩ :=
        perform_put_of_free mirrors.layout mirrors.settled free encoded
      have added := mirrors.reflects.add later timely encoded used layout objects
      rw [performed]
      refine ⟨?_, layout, settled, added.distinct, added.objects⟩
      rw [MemoryStore.put_of_free used]

/-- The same payload is fetched from both. -/
theorem get (mirrors : Mirrors store actor top memory tree) (now later : Instant)
    (address : Address) :
    Outcome.ofAnswer (.get address) (store.perform actor now (.get address) tree).1 =
        Outcome.ofAnswer (.get address) (memory.perform later (.get address)).1 ∧
      (store.perform actor now (.get address) tree).2 = tree ∧
      (memory.perform later (.get address)).2 = memory := by
  have given := mirrors.reflects.get now address
  rw [MemoryStore.payload?] at given
  rw [MemoryStore.perform]
  cases known : memory.get? address with
  | none =>
      rw [known] at given
      rw [show store.perform actor now (.get address) tree = _ from given]
      exact ⟨rfl, rfl, rfl⟩
  | some object =>
      obtain rfl := MemoryStore.address_of_get? known
      rw [known] at given
      obtain ⟨createdAt, given⟩ := given
      rw [given]
      exact ⟨rfl, rfl, rfl⟩

/-- Opening the files anew changes nothing. -/
theorem reopen (mirrors : Mirrors store actor top memory tree) :
    Opening.ofStore actor now store tree = (.ok (.files store ⟨[], 0⟩), tree) := by
  unfold Opening.ofStore
  rw [run_open_of_settled mirrors.layout mirrors.settled mirrors.layout.perform_makeObjects]

/-! ### Runs -/

/-- A demand has the same outcome on both and keeps them alike. -/
theorem demand (mirrors : Mirrors store actor top memory tree) (later : Instant)
    (demanded : Demand)
    (acceptable : ∀ address payload, demanded = .perform (.put address payload) →
      Record.Timely now ∧ 16 + payload.size < Record.sizeLimit) :
    (store.demand actor now demanded tree).1 = (memory.demand later demanded).1 ∧
      Mirrors store actor top (memory.demand later demanded).2
        (store.demand actor now demanded tree).2 := by
  cases demanded with
  | reopen =>
      rw [FileStore.demand, mirrors.reopen]
      exact ⟨rfl, mirrors⟩
  | perform op =>
      rw [FileStore.demand_perform, MemoryStore.demand_perform]
      cases op with
      | put address payload =>
          obtain ⟨timely, short⟩ := acceptable address payload rfl
          obtain ⟨same, kept⟩ := mirrors.put later address timely short
          exact ⟨congrArg Outcome.put same, kept⟩
      | get address =>
          obtain ⟨same, unchanged, unchanged'⟩ := mirrors.get now later address
          rw [unchanged, unchanged']
          exact ⟨same, mirrors⟩
      | exists_ address =>
          rw [mirrors.reflects.exists_]
          exact ⟨rfl, mirrors⟩
      | stats =>
          rw [mirrors.reflects.stats]
          exact ⟨rfl, mirrors⟩

/-- A run has the same outcomes on both. -/
theorem sequence (mirrors : Mirrors store actor top memory tree)
    {onFiles inMemory : List (Instant × Demand)}
    (same : onFiles.map Prod.snd = inMemory.map Prod.snd)
    (acceptable : ∀ now address payload, (now, .perform (.put address payload)) ∈ onFiles →
      Record.Timely now ∧ 16 + payload.size < Record.sizeLimit) :
    Outcome.sequence (store.demand actor) onFiles tree =
      Outcome.sequence MemoryStore.demand inMemory memory := by
  induction onFiles generalizing inMemory tree memory with
  | nil =>
      obtain rfl := List.map_eq_nil_iff.mp same.symm
      rfl
  | cons first rest ih =>
      rcases first with ⟨now, demanded⟩
      cases inMemory with
      | nil => cases same
      | cons other others =>
          rcases other with ⟨later, _⟩
          obtain ⟨rfl, sameRest⟩ := List.cons.inj same
          have allowed (address : Address) (payload : ByteArray)
              (asked : demanded = .perform (.put address payload)) :
              Record.Timely now ∧ 16 + payload.size < Record.sizeLimit := by
            subst asked
            exact acceptable now address payload List.mem_cons_self
          obtain ⟨outcome, kept⟩ := mirrors.demand later demanded allowed
          have further := ih kept sameRest fun now address payload member =>
            acceptable now address payload (List.mem_cons_of_mem _ member)
          exact congr (congrArg List.cons outcome) further

end Mirrors

/-- A store that was opened in an empty directory holds what an empty store in memory does. -/
theorem Vacant.mirrors (vacant : store.Vacant actor top tree) (now : Instant) :
    ∃ after, Opening.ofStore actor now store tree = (.ok (.files store ⟨[], 0⟩), after) ∧
      Mirrors store actor top .empty after := by
  obtain ⟨after, made, layout, nothing⟩ := vacant.blank.perform_makeObjects now
  have settled : Settled top after := by
    intro directory name entry there
    rw [filePlace, List.append_assoc, nothing _ (by simp)] at there
    cases there
  refine ⟨after, ?_, layout, settled, MemoryStore.distinct_empty, ?_⟩
  · unfold Opening.ofStore
    rw [run_open_of_settled layout settled made]
  · intro address
    have free : object? top after address = none := by
      unfold object?
      rw [objectPlace_eq, filePlace, List.append_assoc, nothing _ (by simp)]
    rw [free, MemoryStore.payload?_empty]
    exact .none

/-- Whatever is asked of a store that is opened in an empty directory, a store in memory
gives the same outcomes, each at its own moments. -/
theorem outcomes_eq_memory (vacant : store.Vacant actor top tree) (opened : Instant)
    {onFiles inMemory : List (Instant × Demand)}
    (same : onFiles.map Prod.snd = inMemory.map Prod.snd)
    (acceptable : ∀ now address payload, (now, .perform (.put address payload)) ∈ onFiles →
      Record.Timely now ∧ payload.size ≤ UInt32.size - 17) :
    ∃ after, Opening.ofStore actor opened store tree = (.ok (.files store ⟨[], 0⟩), after) ∧
      Outcome.sequence (store.demand actor) onFiles after =
        Outcome.sequence MemoryStore.demand inMemory .empty := by
  obtain ⟨after, outcome, mirrors⟩ := vacant.mirrors opened
  refine ⟨after, outcome, mirrors.sequence same fun now address payload member => ?_⟩
  obtain ⟨timely, short⟩ := acceptable now address payload member
  refine ⟨timely, ?_⟩
  have limit : UInt32.size = 4294967296 := rfl
  rw [Record.sizeLimit]
  omega

/-! ### A short run -/

/-- A tree in which there is one directory, which is empty. -/
def bare : FileTree := ⟨[([.text "s"], .directory Entry.directoryMode)], 0⟩

theorem vacant_bare : (FileStore.mk "s").Vacant .owner [.text "s"] bare := by
  constructor
  · exact List.nodup_singleton _
  · exact ⟨by decide, by decide⟩
  · refine ⟨Entry.directoryMode, ?_, FileTree.may_directoryMode _⟩
    rw [components_s, FileTree.follow_directory ⟨_, rfl, rfl⟩ (by decide) rfl]
    rfl
  · intro below inside
    rw [FileTree.get?_of_ne_nil _ (by simp)]
    simp [bare, inside]

/-- The empty payload is stored, the store is opened anew and the payload is fetched. -/
theorem outcomes_of_bare :
    (FileStore.mk "s").Vacant .owner [.text "s"] bare ∧
      ∃ after, Opening.ofStore .owner 0 ⟨"s"⟩ bare = (.ok (.files ⟨"s"⟩ ⟨[], 0⟩), after) ∧
        Outcome.sequence ((FileStore.mk "s").demand .owner)
          [(5, .perform (.put zeros .empty)), (3, .reopen), (8, .perform (.get zeros)),
            (9, .perform .stats)] after =
          [.put (.ok .created), .reopen (.ok ()), .get (.ok (zeros, .empty)),
            .stats (.ok ⟨1, 0⟩)] := by
  have acceptable (now : Instant) (address : Address) (payload : ByteArray)
      (member : (now, .perform (.put address payload)) ∈ ([(5, .perform (.put zeros .empty)),
        (3, .reopen), (8, .perform (.get zeros)), (9, .perform .stats)] :
          List (Instant × Demand))) : Record.Timely now ∧ payload.size ≤ UInt32.size - 17 := by
    simp only [List.mem_cons, Prod.mk.injEq, Demand.perform.injEq, StoreOperation.put.injEq,
      reduceCtorEq, and_false, List.not_mem_nil, or_false] at member
    obtain ⟨rfl, rfl, rfl⟩ := member
    exact ⟨⟨by decide, by decide⟩, by decide⟩
  have inMemory : Outcome.sequence MemoryStore.demand [(0, .perform (.put zeros .empty)),
      (0, .reopen), (0, .perform (.get zeros)), (0, .perform .stats)] .empty =
        [.put (.ok .created), .reopen (.ok ()), .get (.ok (zeros, .empty)),
          .stats (.ok ⟨1, 0⟩)] := rfl
  obtain ⟨after, opened, same⟩ := outcomes_eq_memory vacant_bare 0 rfl acceptable
  exact ⟨vacant_bare, after, opened, same.trans inMemory⟩

end FileStore

end ContentNode
