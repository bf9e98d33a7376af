import ContentNode.Address.Basic
import ContentNode.Proofs.Order.Listing

/-!
# Addresses in order

The order of addresses is strict and total.  Sorting a list of addresses gives the same
addresses, each once, every one before those behind it.
-/

namespace ContentNode.Address

variable {a b c : Address} {addresses : List Address}

/-- One address comes before another. -/
def Before (a b : Address) : Prop := a.compare b = .lt

instance : Std.TransCmp compare :=
  inferInstanceAs (Std.TransCmp (compareOn fun a : Address => a.bytes.toList))

instance : Std.LawfulEqCmp compare :=
  (lawfulEqCmp_compareOn fun _ _ same => congrArg Address.mk (Vector.toList_inj.mp same) :
    Std.LawfulEqCmp (compareOn fun a : Address => a.bytes.toList))

theorem compare_eq_iff : a.compare b = .eq ↔ a = b := Std.LawfulEqCmp.compare_eq_iff_eq

theorem compare_gt_iff : a.compare b = .gt ↔ Before b a := Std.OrientedCmp.gt_iff_lt

theorem Before.trans (first : Before a b) (second : Before b c) : Before a c :=
  Std.TransCmp.lt_trans first second

theorem mem_insertSorted : b ∈ insertSorted a addresses ↔ b = a ∨ b ∈ addresses := by
  induction addresses with
  | nil => simp [insertSorted]
  | cons first rest ih =>
      rw [insertSorted]
      cases order : a.compare first with
      | lt => exact List.mem_cons
      | eq =>
          obtain rfl := compare_eq_iff.mp order
          simp
      | gt =>
          dsimp only
          rw [List.mem_cons, ih, List.mem_cons]
          exact or_left_comm

/-- An address that is inserted stands behind those before it. -/
theorem pairwise_insertSorted (a : Address) (ordered : addresses.Pairwise Before) :
    (insertSorted a addresses).Pairwise Before := by
  induction addresses with
  | nil => exact List.pairwise_singleton _ _
  | cons first rest ih =>
      obtain ⟨least, further⟩ := List.pairwise_cons.mp ordered
      rw [insertSorted]
      cases order : a.compare first with
      | lt =>
          refine List.pairwise_cons.mpr ⟨fun b member => ?_, ordered⟩
          rcases List.mem_cons.mp member with rfl | behind
          · exact order
          · exact Before.trans order (least b behind)
      | eq => exact ordered
      | gt =>
          refine List.pairwise_cons.mpr ⟨fun b member => ?_, ih further⟩
          rcases mem_insertSorted.mp member with rfl | behind
          · exact compare_gt_iff.mp order
          · exact least b behind

/-- What holds of a list that is sorted as its addresses are inserted one by one. -/
private theorem foldl_insertSorted (more : List Address) (ordered : addresses.Pairwise Before) :
    (more.foldl (fun sorted a => insertSorted a sorted) addresses).Pairwise Before ∧
      ∀ b, b ∈ more.foldl (fun sorted a => insertSorted a sorted) addresses ↔
        b ∈ addresses ∨ b ∈ more := by
  induction more generalizing addresses with
  | nil => simpa using ordered
  | cons a rest ih =>
      obtain ⟨further, members⟩ := ih (pairwise_insertSorted a ordered)
      refine ⟨further, fun b => ?_⟩
      rw [List.foldl_cons, members b, mem_insertSorted, List.mem_cons, or_assoc]
      exact or_left_comm

theorem mem_sorted : a ∈ sorted addresses ↔ a ∈ addresses := by
  rw [sorted, (foldl_insertSorted addresses .nil).2]
  simp

theorem pairwise_sorted (addresses : List Address) : (sorted addresses).Pairwise Before :=
  (foldl_insertSorted addresses .nil).1

/-- Inserting addresses one by one comes to sorting them all. -/
theorem sorted_eq_inOrder (addresses : List Address) :
    sorted addresses = inOrder compare addresses :=
  eq_inOrder (pairwise_sorted addresses) fun _ => mem_sorted

end ContentNode.Address
