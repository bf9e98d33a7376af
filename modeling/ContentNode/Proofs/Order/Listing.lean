import Mathlib.Data.List.Dedup

/-!
# Elements in order

A list is brought into the order of a comparison by sorting it and leaving out what
occurs again.  No other list has the same elements, every one before those behind it,
so that a map that keeps the order may be applied before or after.
-/

namespace ContentNode

variable {α β : Type}

/-- A comparison by what determines an element finds no difference only between equal ones. -/
theorem lawfulEqCmp_compareOn [Ord β] [Std.LawfulEqOrd β] {f : α → β}
    (injective : Function.Injective f) : Std.LawfulEqCmp (compareOn f) where
  compare_self := Std.ReflCmp.compare_self
  eq_of_compare same := injective (Std.LawfulEqCmp.eq_of_compare same)

variable [DecidableEq α] [DecidableEq β] {cmp : α → α → Ordering} {cmp' : β → β → Ordering}
  {xs ys : List α} {x : α}

/-- The elements of a list in order, each once: the list is sorted and loses its repetitions. -/
def inOrder (cmp : α → α → Ordering) (xs : List α) : List α :=
  (xs.mergeSort fun x y => (cmp x y).isLE).dedup

theorem mem_inOrder : x ∈ inOrder cmp xs ↔ x ∈ xs := by
  rw [inOrder, List.mem_dedup, List.mem_mergeSort]

/-- Every element is before those behind it. -/
theorem pairwise_inOrder [Std.TransCmp cmp] [Std.LawfulEqCmp cmp] (xs : List α) :
    (inOrder cmp xs).Pairwise fun x y => cmp x y = .lt := by
  have total (x y : α) : ((cmp x y).isLE || (cmp y x).isLE) = true := by
    cases order : cmp x y with
    | lt | eq => rfl
    | gt => rw [Std.OrientedCmp.lt_of_gt order]; rfl
  have sorted := (List.pairwise_mergeSort (fun x y z => Std.TransCmp.isLE_trans) total xs).sublist
    (List.dedup_sublist _)
  -- Sorting leaves equal elements side by side, so that only both facts together give `lt`.
  refine (sorted.and (List.nodup_dedup _)).imp fun {x y} ⟨le, different⟩ => ?_
  cases order : cmp x y with
  | lt => rfl
  | eq => exact absurd (Std.LawfulEqCmp.eq_of_compare order) different
  | gt => simp [order] at le

/-- The elements of a list, each before those behind it, are in order. -/
theorem eq_inOrder [Std.TransCmp cmp] [Std.LawfulEqCmp cmp]
    (ordered : ys.Pairwise fun x y => cmp x y = .lt) (members : ∀ x, x ∈ ys ↔ x ∈ xs) :
    ys = inOrder cmp xs := by
  have once : ys.Nodup := ordered.imp fun {x y} before same => by
    have equal : cmp y y = .eq := Std.ReflCmp.compare_self
    rw [same, equal] at before
    contradiction
  have permuted : ys.Perm (inOrder cmp xs) :=
    (List.perm_ext_iff_of_nodup once (List.nodup_dedup _)).mpr
      fun x => (members x).trans mem_inOrder.symm
  refine permuted.eq_of_pairwise (fun x y _ _ before after => ?_) ordered (pairwise_inOrder xs)
  exact absurd after (Std.OrientedCmp.not_lt_of_lt before)

/-- A map that keeps the order takes elements in order to elements in order. -/
theorem map_inOrder [Std.TransCmp cmp] [Std.LawfulEqCmp cmp] [Std.TransCmp cmp']
    [Std.LawfulEqCmp cmp'] {f : α → β} (keeps : ∀ x y, cmp' (f x) (f y) = cmp x y)
    (xs : List α) : (inOrder cmp xs).map f = inOrder cmp' (xs.map f) := by
  refine eq_inOrder (List.pairwise_map.mpr ?_) fun y => ?_
  · exact (pairwise_inOrder xs).imp fun before => (keeps _ _).trans before
  · simp only [List.mem_map, mem_inOrder]

end ContentNode
