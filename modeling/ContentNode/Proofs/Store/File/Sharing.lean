import ContentNode.Proofs.Program.Pool
import ContentNode.Proofs.Store.File.Counting
import ContentNode.Proofs.Store.Record.Coding

/-!
# Files that many use

What each of many users of a store may do to its files, and what the others can rely
on.  A user owns a temporary file at most, which nobody else touches, and gives an
object its name only if there is none.  All that is done is recorded, so that it is
known who gave an object its name.
-/

namespace ContentNode.FileStore

open FileSystem

variable {store : FileStore} {actor : Actor} {top : Location} {address other : Address}
  {caller : Nat}

/-- What was done: an operation of a caller and its answer. -/
structure Event where
  caller : Nat
  op : Operation
  answer : op.Answer

/-- Files that many use, and all that was done with them, the first event first. -/
structure World where
  tree : FileTree
  history : List Event

/-- What is asked of a store, and when. -/
structure Request where
  op : StoreOperation
  now : Instant
  timely : Record.Timely now

/-- An operation of a caller.  Of bytes that are to be appended only a part may be taken. -/
inductive Performs (actor : Actor) (caller : Nat) :
    (op : Operation) → World → op.Answer → World → Prop
  | whole (world : World) (now : Instant) (op : Operation) :
      Performs actor caller op world (world.tree.perform actor now op).1
        ⟨(world.tree.perform actor now op).2,
          world.history ++ [⟨caller, op, (world.tree.perform actor now op).1⟩]⟩
  | part (world : World) (now : Instant) (file : FilePath) {bytes : ByteArray} {taken : Nat}
      (within : taken ≤ bytes.size) :
      Performs actor caller (.append file bytes) world (.ok taken)
        ⟨world.tree.appendTo now file (bytes.extract 0 taken),
          world.history ++ [⟨caller, .append file bytes, .ok taken⟩]⟩

namespace Performs

variable {op : Operation} {answer : op.Answer} {w u : World}

theorem history_eq (performed : Performs actor caller op w answer u) :
    u.history = w.history ++ [⟨caller, op, answer⟩] := by
  cases performed <;> rfl

/-- What is not appended is performed as a whole. -/
theorem perform_eq (performed : Performs actor caller op w answer u)
    (other : ∀ file bytes, op ≠ .append file bytes) :
    ∃ now, w.tree.perform actor now op = (answer, u.tree) := by
  cases performed with
  | whole _ now _ => exact ⟨now, rfl⟩
  | part _ now file within => exact absurd rfl (other _ _)

/-- Some of the bytes are appended. -/
theorem appended {file : FilePath} {bytes : ByteArray} {answer : Except IoError Nat}
    (performed : Performs actor caller (.append file bytes) w answer u) :
    ∃ now taken, taken ≤ bytes.size ∧ answer = .ok taken ∧
      u.tree = w.tree.appendTo now file (bytes.extract 0 taken) := by
  cases performed with
  | whole _ now _ =>
      refine ⟨now, bytes.size, Nat.le_refl _, rfl, ?_⟩
      rw [ByteArray.extract_zero_size]
      rfl
  | part _ now file within => exact ⟨now, _, within, rfl, rfl⟩

end Performs

/-! ### Who gave an object its name -/

/-- Whether an event gave an object its name. -/
def Event.names (store : FileStore) (address : Address) : Event → Bool
  | ⟨_, .link _ target, .ok ()⟩ => target = store.objectPath address
  | _ => false

/-- Those who gave an object its name. -/
def namers (store : FileStore) (address : Address) (history : List Event) : List Nat :=
  (history.filter (Event.names store address)).map Event.caller

theorem objectPath_injective (same : store.objectPath address = store.objectPath other) :
    address = other :=
  eq_of_components_eq (congrArg FilePath.components same)

theorem namers_concat (history : List Event) (event : Event) :
    namers store address (history ++ [event]) =
      namers store address history ++
        if event.names store address then [event.caller] else [] := by
  unfold namers
  rw [List.filter_append, List.map_append]
  cases named : event.names store address <;> simp [named]

theorem namers_prefix {before after : List Event} (longer : before <+: after) :
    namers store address before <+: namers store address after :=
  (longer.filter _).map _

/-- An object has one who gave it its name, and nobody did if there is no object. -/
def Named (store : FileStore) (top : Location) (w : World) : Prop :=
  ∀ address, (object? top w.tree address = none ∧ namers store address w.history = []) ∨
    ∃ record caller, object? top w.tree address = some record ∧
      namers store address w.history = [caller]

/-! ### What happens to files that many use -/

/-- Objects are added and the history goes on. -/
structure Evolves (store : FileStore) (actor : Actor) (top : Location) (before after : World) :
    Prop where
  grows : store.Layout actor top before.tree → Grows store actor top before.tree after.tree
  history : before.history <+: after.history
  named : store.Layout actor top before.tree → Named store top before → Named store top after

variable {w t u : World}

theorem Evolves.refl (w : World) : Evolves store actor top w w :=
  ⟨.refl, List.prefix_rfl, fun _ named => named⟩

theorem Evolves.trans (first : Evolves store actor top w t) (second : Evolves store actor top t u) :
    Evolves store actor top w u := by
  constructor
  · intro layout
    have grown := first.grows layout
    exact grown.trans (second.grows grown.layout)
  · exact first.history.trans second.history
  · intro layout named
    exact second.named (first.grows layout).layout (first.named layout named)

/-- Who gave an object its name remains the only one. -/
theorem Evolves.namers_eq (evolves : Evolves store actor top w t)
    (layout : store.Layout actor top w.tree) (named : Named store top w)
    (one : namers store address w.history = [caller]) :
    namers store address t.history = [caller] := by
  have longer : namers store address w.history <+: namers store address t.history :=
    namers_prefix evolves.history
  rw [one] at longer
  rcases evolves.named layout named address with ⟨-, nobody⟩ | ⟨record, other, -, same⟩
  · rw [nobody] at longer
    cases longer.length_le
  · rw [same] at longer ⊢
    exact (longer.eq_of_length rfl).symm

/-! ### Users -/

/-- What a user owns: nothing or a temporary file that is there. -/
def Owns (top : Location) (held : Option Location) (w : World) : Prop :=
  ∀ place, held = some place →
    (∃ address number, place = temporaryPlace top address number) ∧ w.tree.get? place ≠ none

/-- Two users do not own the same. -/
def Apart (held other : Option Location) : Prop :=
  ∀ place, held = some place → other ≠ some place

/-- What a user can rely on while others act. -/
structure Relies (store : FileStore) (actor : Actor) (top : Location) (held : Option Location)
    (before after : World) : Prop where
  evolves : Evolves store actor top before after
  own : ∀ place, held = some place → after.tree.get? place = before.tree.get? place

/-- What an operation of a user does.  It gives a name to the object that was asked to be
stored, or to none; of the temporary files it changes none but that of the user; and the
user owns the same afterwards, or nothing, or a file that is new. -/
structure Guarantees (store : FileStore) (actor : Actor) (top : Location) (caller : Nat)
    (asked : Request) (held : Option Location) (before : World) (kept : Option Location)
    (after : World) : Prop where
  evolves : Evolves store actor top before after
  names : ∀ address,
    namers store address after.history = namers store address before.history ∨
      namers store address after.history = [caller] ∧
        ∃ payload record, asked.op = .put address payload ∧
          Record.encode asked.now payload = .ok record ∧
            object? top after.tree address = some record
  others : ∀ address number, held ≠ some (temporaryPlace top address number) →
    before.tree.get? (temporaryPlace top address number) ≠ none →
      after.tree.get? (temporaryPlace top address number) =
        before.tree.get? (temporaryPlace top address number)
  new : kept = held ∨ ∀ place, kept = some place → before.tree.get? place = none
  owns : Owns top held before → Owns top kept after

variable {asked : Request} {held kept : Option Location}

/-- The terms on which a user acts. -/
def terms (store : FileStore) (actor : Actor) (top : Location) (caller : Nat) (asked : Request) :
    Terms Operation Operation.Answer World (Option Location) where
  performs := Performs actor caller
  rely := Relies store actor top
  guarantee := Guarantees store actor top caller asked
  rely_refl _ w := ⟨.refl w, fun _ _ => rfl⟩
  rely_trans _ _ _ _ first second := ⟨first.evolves.trans second.evolves, fun place own =>
    (second.own place own).trans (first.own place own)⟩

theorem concord_terms (store : FileStore) (actor : Actor) (top : Location) :
    Pool.Concord (terms store actor top) (Owns top) Apart := by
  constructor
  · intro caller asked held s kept t guaranteed
    exact guaranteed.owns
  · intro caller asked other asked' held kept found s t different guaranteed apart owned
    have unchanged (place : Location) (own : found = some place) :
        t.tree.get? place = s.tree.get? place := by
      obtain ⟨⟨address, number, rfl⟩, there⟩ := owned place own
      exact guaranteed.others address number (fun same => apart _ same own) there
    have different (place : Location) (mine : kept = some place) : found ≠ some place := by
      intro own
      rcases guaranteed.new with rfl | fresh
      · exact apart place mine own
      · exact (owned place own).2 (fresh place mine)
    refine ⟨⟨guaranteed.evolves, unchanged⟩, different, fun place own mine => ?_, ?_⟩
    · exact different place mine own
    · intro place own
      rw [unchanged place own]
      exact owned place own

/-! ### Operations that name no object -/

/-- An operation that leaves all objects alone and gives no names is within the guarantee
if it respects what others own. -/
theorem Guarantees.of_silent
    (grows : store.Layout actor top w.tree → Grows store actor top w.tree u.tree)
    (objects : ∀ address, object? top u.tree address = object? top w.tree address)
    {event : Event} (recorded : u.history = w.history ++ [event])
    (silent : ∀ address, event.names store address = false)
    (others : ∀ address number, held ≠ some (temporaryPlace top address number) →
      w.tree.get? (temporaryPlace top address number) ≠ none →
        u.tree.get? (temporaryPlace top address number) =
          w.tree.get? (temporaryPlace top address number))
    (keeps : kept = held ∨ ∀ place, kept = some place → w.tree.get? place = none)
    (owns : Owns top held w → Owns top kept u) :
    Guarantees store actor top caller asked held w kept u := by
  have same (address : Address) :
      namers store address u.history = namers store address w.history := by
    rw [recorded, namers_concat, silent, if_neg Bool.false_ne_true, List.append_nil]
  constructor
  · constructor
    · exact grows
    · exact ⟨_, recorded.symm⟩
    · intro _ named address
      rw [objects, same]
      exact named address
  · exact fun address => .inl (same address)
  · exact others
  · exact keeps
  · exact owns

/-- An operation that changes nothing and gives no names is within the guarantee. -/
theorem Guarantees.of_same {event : Event} (same : u.tree = w.tree)
    (recorded : u.history = w.history ++ [event])
    (silent : ∀ address, event.names store address = false) :
    Guarantees store actor top caller asked held w held u := by
  apply Guarantees.of_silent _ _ recorded silent _ (.inl rfl)
  · intro owned place own
    rw [same]
    exact owned place own
  · rw [same]
    exact .refl
  · rw [same]
    exact fun _ => rfl
  · rw [same]
    exact fun _ _ _ _ => rfl

theorem names_of_looks {op : Operation} (looks : Looks op) (answer : op.Answer) :
    Event.names store address ⟨caller, op, answer⟩ = false := by
  cases op <;> first | rfl | cases looks

theorem observes_terms (store : FileStore) (actor : Actor) (top : Location) (caller : Nat)
    (asked : Request) (held : Option Location) :
    Observes store actor top (terms store actor top caller asked) World.tree held := by
  constructor
  · intro s t relied
    exact relied.evolves.grows
  · intro op s answer t looks performed
    have whole (file : FilePath) (bytes : ByteArray) : op ≠ .append file bytes := by
      rintro rfl
      cases looks
    obtain ⟨now, result⟩ := Performs.perform_eq performed whole
    have same : t.tree = s.tree := by
      rw [← perform_of_looks actor now s.tree looks, result]
    have guaranteed : Guarantees store actor top caller asked held s held t :=
      .of_same same (Performs.history_eq performed) fun address => names_of_looks looks answer
    refine ⟨⟨now, (congrArg Prod.fst result).symm⟩, ⟨guaranteed.evolves, ?_⟩, guaranteed⟩
    intro place own
    rw [same]

end ContentNode.FileStore
