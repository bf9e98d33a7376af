import ContentNode.Proofs.Address.Order
import ContentNode.Proofs.Program.Transcripts
import ContentNode.Proofs.Store.Offers
import Mathlib.Algebra.Order.BigOperators.Group.Finset

/-!
# What a store in memory has been asked

A store in memory keeps the first object of every address for good.  All that it ever
answers is told by the requests before: which objects were to be stored, and which of them
was the first of its address.
-/

namespace ContentNode.MemoryStore

/-! ### Inquiries and their answers -/

/-- What a store in memory is asked for: an operation at a moment, or all its addresses. -/
inductive Inquiry where
  | perform (now : Instant) (op : StoreOperation)
  | addresses

/-- The type of the answer to an inquiry. -/
abbrev Inquiry.Answer : Inquiry → Type
  | perform _ op => op.Answer
  | addresses => List Address

/-- Answers an inquiry. -/
def inquire : (inquiry : Inquiry) → MemoryStore → inquiry.Answer × MemoryStore
  | .perform now op, store => store.perform now op
  | .addresses, store => (store.addresses, store)

/-- Inquiries and their answers. -/
abbrev Dialogue := Transcript Inquiry.Answer

/-! ### What the inquiries tell -/

/-- The object that was to be stored. -/
def offer? : ((inquiry : Inquiry) × inquiry.Answer) → Option StoredObject
  | ⟨.perform now (.put address payload), _⟩ => some ⟨address, payload, now⟩
  | _ => none

/-- The objects that were to be stored, the first one first. -/
def offers (log : Dialogue) : List StoredObject := log.filterMap offer?

/-- The first object that was to be stored under an address. -/
def first? (log : Dialogue) (address : Address) : Option StoredObject :=
  (offers log).find? fun object => object.address == address

/-- The addresses under which something was to be stored. -/
def named (log : Dialogue) : Finset Address := ((offers log).map (·.address)).toFinset

/-- The size of the first payload of an address. -/
def firstSize (log : Dialogue) (address : Address) : Nat :=
  ((first? log address).map StoredObject.size).getD 0

/-- An exchange is answered as those before it ask for. -/
def Fits (before : Dialogue) : ((inquiry : Inquiry) × inquiry.Answer) → Prop
  | ⟨.perform _ (.put address _), answer⟩ =>
    answer = .ok (if (first? before address).isSome then .alreadyPresent else .created)
  | ⟨.perform _ (.get address), answer⟩ =>
    answer = match first? before address with
      | some object => .ok object
      | none => .error (.notFound address)
  | ⟨.perform _ (.exists_ address), answer⟩ => answer = (first? before address).isSome
  | ⟨.perform _ .stats, answer⟩ =>
    answer = .ok ⟨(named before).card, ∑ address ∈ named before, firstSize before address⟩
  | ⟨.addresses, answer⟩ =>
    answer.Pairwise Address.Before ∧ ∀ address, address ∈ answer ↔ address ∈ named before

variable {log more : Dialogue} {store : MemoryStore}
  {address : Address} {object : StoredObject} {now : Instant}

theorem offers_append (log more : Dialogue) : offers (log ++ more) = offers log ++ offers more :=
  List.filterMap_append

/-- The first object stays the first one. -/
theorem first?_append (log more : Dialogue) (address : Address) :
    first? (log ++ more) address = (first? log address).or (first? more address) := by
  rw [first?, offers_append, List.find?_append]
  rfl

theorem first?_append_of_some (more : Dialogue) (found : first? log address = some object) :
    first? (log ++ more) address = some object := by
  rw [first?_append, found, Option.some_or]

theorem mem_named_iff : address ∈ named log ↔ (first? log address).isSome := by
  rw [named, List.mem_toFinset, first?, List.find?_isSome, List.mem_map]
  simp

theorem named_subset_append (log more : Dialogue) : named log ⊆ named (log ++ more) := by
  intro address member
  rw [mem_named_iff] at member ⊢
  rw [first?_append, Option.isSome_or, member, Bool.true_or]

theorem firstSize_append_of_mem (more : Dialogue) (member : address ∈ named log) :
    firstSize (log ++ more) address = firstSize log address := by
  obtain ⟨object, found⟩ := Option.isSome_iff_exists.mp (mem_named_iff.mp member)
  rw [firstSize, firstSize, first?_append_of_some more found, found]

/-- What has been counted is counted later too. -/
theorem sum_firstSize_le_append (log more : Dialogue) :
    ∑ address ∈ named log, firstSize log address ≤
      ∑ address ∈ named (log ++ more), firstSize (log ++ more) address := by
  calc ∑ address ∈ named log, firstSize log address
      = ∑ address ∈ named log, firstSize (log ++ more) address :=
        Finset.sum_congr rfl fun _ member => (firstSize_append_of_mem more member).symm
    _ ≤ ∑ address ∈ named (log ++ more), firstSize (log ++ more) address :=
        Finset.sum_le_sum_of_subset (named_subset_append log more)

/-! ### What the store recalls -/

/-- A store holds the first objects of a log, each once. -/
structure Recalls (log : Dialogue) (store : MemoryStore) : Prop where
  distinct : store.Distinct
  found : ∀ address, store.get? address = first? log address

theorem recalls_nil : Recalls [] .empty := ⟨distinct_empty, fun _ => rfl⟩

namespace Recalls

/-- These are the first of the objects that were to be stored. -/
theorem gathers (recalls : Recalls log store) : Gathers (offers log) store :=
  ⟨recalls.distinct, recalls.found⟩

theorem contains (recalls : Recalls log store) (address : Address) :
    store.contains address = (first? log address).isSome :=
  recalls.gathers.contains address

/-- The addresses that are held are those under which something was to be stored. -/
theorem mem_addresses_iff (recalls : Recalls log store) :
    address ∈ store.objects.map (·.address) ↔ address ∈ named log := by
  rw [MemoryStore.mem_addresses_iff, ← contains_eq_isSome, recalls.contains, mem_named_iff]

/-- The totals are those of the first payloads. -/
theorem stats_eq (recalls : Recalls log store) : store.stats =
    ⟨(named log).card, ∑ address ∈ named log, firstSize log address⟩ :=
  recalls.gathers.stats_eq

/-- The store answers as the exchanges before ask for. -/
theorem fits (recalls : Recalls log store) (inquiry : Inquiry) :
    Fits log ⟨inquiry, (store.inquire inquiry).1⟩ := by
  cases inquiry with
  | addresses =>
      refine ⟨Address.pairwise_sorted _, fun address => ?_⟩
      rw [inquire, addresses, Address.mem_sorted, recalls.mem_addresses_iff]
  | perform now op =>
      cases op with
      | put address payload =>
          change Except.ok (store.put now address payload).1 = _
          rw [← recalls.contains]
          cases taken : store.contains address with
          | true =>
              rw [put_of_taken taken]
              rfl
          | false =>
              rw [put_of_free taken]
              rfl
      | get address =>
          change (store.perform now (.get address)).1 = _
          rw [perform, recalls.found]
          cases first? log address <;> rfl
      | exists_ address => exact recalls.contains address
      | stats => exact congrArg Except.ok recalls.stats_eq

/-- Nothing but an object that is to be stored changes what is recalled. -/
theorem inquire (recalls : Recalls log store) (inquiry : Inquiry) :
    Recalls (log ++ [⟨inquiry, (store.inquire inquiry).1⟩]) (store.inquire inquiry).2 := by
  have unchanged (silent : offer? ⟨inquiry, (store.inquire inquiry).1⟩ = none) :
      Recalls (log ++ [⟨inquiry, (store.inquire inquiry).1⟩]) store := by
    refine ⟨recalls.distinct, fun address => ?_⟩
    have nothing : offers [⟨inquiry, (store.inquire inquiry).1⟩] = [] := by
      rw [offers, List.filterMap_cons_none silent, List.filterMap_nil]
    rw [recalls.found, first?_append, show first? [_] address = none by rw [first?, nothing]; rfl,
      Option.or_none]
  cases inquiry with
  | addresses => exact unchanged rfl
  | perform now op =>
      cases op with
      | get address =>
          have same : (store.inquire (.perform now (.get address))).2 = store := by
            rw [MemoryStore.inquire, perform]
            cases store.get? address <;> rfl
          rw [same]
          exact unchanged rfl
      | exists_ address => exact unchanged rfl
      | stats => exact unchanged rfl
      | put address payload =>
          have put := recalls.gathers.put now address payload
          refine ⟨put.distinct, fun other => ?_⟩
          rw [first?_append]
          exact (put.found other).trans (firstOf?_append _ _ other)

end Recalls

/-! ### Runs -/

/-- In a run every address keeps the first object that was to be stored under it. -/
structure WritesOnce (log : Dialogue) (store : MemoryStore) : Prop where
  /-- Every answer is told by the exchanges before. -/
  fits : ∀ before exchange, Follows exchange before log → Fits before exchange
  /-- The first object is fetched ever after. -/
  kept : ∀ before between address object now answer, first? before address = some object →
    Follows ⟨.perform now (.get address), answer⟩ (before ++ between) log → answer = .ok object
  /-- An object exists exactly if it is fetched. -/
  exists_iff : ∀ address now, (store.perform now (.exists_ address)).1 = true ↔
    ∃ object, (store.perform now (.get address)).1 = .ok object
  /-- The totals never become less. -/
  grows : ∀ before between now past earlier later,
    Follows ⟨.perform past .stats, .ok earlier⟩ before log →
    Follows ⟨.perform now .stats, .ok later⟩ (before ++ between) log →
      earlier.objects ≤ later.objects ∧ earlier.totalBytes ≤ later.totalBytes

/-- Whatever a store in memory is asked from the beginning on, every address keeps the first
object that was to be stored under it. -/
theorem writesOnce_converse (inquiries : List Inquiry) :
    WritesOnce (converse inquire inquiries .empty).1 (converse inquire inquiries .empty).2 := by
  have sustains : Sustains inquire (fun _ => True) Fits Recalls :=
    fun _ _ inquiry _ recalls => ⟨recalls.fits inquiry, recalls.inquire inquiry⟩
  obtain ⟨fits, -⟩ := sustains.converse recalls_nil fun inquiry _ => (trivial : True)
  simp only [List.nil_append] at fits
  constructor
  · exact fits
  · intro before between address object now answer found follows
    have answered : answer = match first? (before ++ between) address with
      | some object => .ok object
      | none => .error (.notFound address) := fits _ _ follows
    rw [answered, first?_append_of_some between found]
  · intro address now
    generalize (converse inquire inquiries .empty).2 = store
    change store.contains address = true ↔ _
    rw [contains, perform]
    cases store.get? address <;> simp
  · intro before between now past earlier later first second
    have early : Except.ok earlier = Except.ok ⟨_, _⟩ := fits _ _ first
    have late : Except.ok later = Except.ok ⟨_, _⟩ := fits _ _ second
    obtain rfl := Except.ok.inj early
    obtain rfl := Except.ok.inj late
    exact ⟨Finset.card_le_card (named_subset_append before between),
      sum_firstSize_le_append before between⟩

end ContentNode.MemoryStore
