import ContentNode.Json.Printer
import ContentNode.Schema

/-!
# Totals of a store
-/

namespace ContentNode

/-- How much a store holds. -/
structure StoreStats where
  /-- The number of objects. -/
  objects : Nat
  /-- The sum of the sizes of their payloads. -/
  totalBytes : Nat
deriving DecidableEq

namespace StoreStats

/-- The totals of an empty store. -/
def empty : StoreStats := ⟨0, 0⟩

/-- The totals of payloads of these sizes. -/
def ofSizes (sizes : List Nat) : StoreStats := ⟨sizes.length, sizes.foldr (· + ·) 0⟩

theorem ofSizes_cons (size : Nat) (sizes : List Nat) :
    ofSizes (size :: sizes) =
      ⟨(ofSizes sizes).objects + 1, size + (ofSizes sizes).totalBytes⟩ := rfl

/-- One payload more. -/
theorem ofSizes_concat (sizes : List Nat) (size : Nat) :
    ofSizes (sizes ++ [size]) =
      ⟨(ofSizes sizes).objects + 1, (ofSizes sizes).totalBytes + size⟩ := by
  induction sizes with
  | nil => rw [List.nil_append, ofSizes_cons, Nat.add_comm size]
  | cons first rest ih => simp only [List.cons_append, ofSizes_cons, ih, Nat.add_assoc]

/-- The order of payloads does not matter. -/
theorem ofSizes_of_perm {sizes others : List Nat} (same : sizes.Perm others) :
    ofSizes sizes = ofSizes others := by
  induction same with
  | nil => rfl
  | cons size _ ih => rw [ofSizes_cons, ofSizes_cons, ih]
  | swap one two rest => simp only [ofSizes_cons, Nat.add_left_comm]
  | trans _ _ first second => exact first.trans second

/-- The shape of totals. -/
def shape : Schema.Record Schema.Leaf StoreStats where
  name := "StoreStats"
  blank := empty
  required := true
  fields := [
    { name := "objects"
      type := Nat
      shape := .scalar (.unsigned "u64")
      set := fun objects stats => { stats with objects } },
    { name := "total_bytes"
      type := Nat
      shape := .scalar (.unsigned "u64")
      set := fun totalBytes stats => { stats with totalBytes } }]

/-- Totals in JSON. -/
def render (stats : StoreStats) : String :=
  Json.renderRecord [
    ("objects", toString stats.objects),
    ("total_bytes", toString stats.totalBytes)]

end StoreStats

end ContentNode
