import ContentNode.Proofs.FileSystem.Effects
import Mathlib.Data.List.Nodup
import Mathlib.Data.List.Perm.Subperm

/-!
# Fresh temporary names

There are as many temporary names as words of six letters.  A tree looks for a fresh one
among more names than it has entries, so it finds one if there is one.
-/

namespace ContentNode.FileSystem.FileTree

variable {tree : FileTree} {parent : Location} {number : Nat}

/-! ### Names of numbers -/

/-- The number of temporary names. -/
def temporaryCount : Nat := Nat.pow 62 6

theorem temporaryCount_eq : temporaryCount = 56800235584 := rfl

/-- The digits, the capitals and the small letters stand in three runs of the code table. -/
theorem toNat_letter {value : Nat} (small : value < 62) :
    (letter value).toNat = value + if value < 10 then 48 else if value < 36 then 55 else 61 := by
  have every : ∀ v : Fin 62, (letter v).toNat =
      v.val + if v.val < 10 then 48 else if v.val < 36 then 55 else 61 := by decide +kernel
  exact every ⟨value, small⟩

theorem letter_inj {one two : Nat} (small : one < 62) (small' : two < 62)
    (same : letter one = letter two) : one = two := by
  have points := congrArg Char.toNat same
  rw [toNat_letter small, toNat_letter small'] at points
  split_ifs at points <;> omega

theorem letters_eq_iff {count n m : Nat} :
    letters count n = letters count m ↔ n % Nat.pow 62 count = m % Nat.pow 62 count := by
  induction count generalizing n m with
  | zero => simp [letters, Nat.pow, Nat.mod_one]
  | succ count ih =>
      have lowest : letter (n % 62) = letter (m % 62) ↔ n % 62 = m % 62 :=
        ⟨letter_inj (Nat.mod_lt _ (by decide)) (Nat.mod_lt _ (by decide)), congrArg letter⟩
      have grown : Nat.pow 62 (count + 1) = 62 * Nat.pow 62 count := Nat.pow_succ'
      rw [letters, letters, List.cons.injEq, lowest, ih, grown, Nat.mod_mul, Nat.mod_mul]
      have small := Nat.mod_lt n (show 0 < 62 by decide)
      have small' := Nat.mod_lt m (show 0 < 62 by decide)
      omega

/-- Numbers have the same temporary name if they agree up to the number of names. -/
theorem temporaryName_eq_iff {n m : Nat} :
    temporaryName n = temporaryName m ↔ n % temporaryCount = m % temporaryCount := by
  rw [temporaryName, temporaryName, FileName.text.injEq, String.append_right_inj]
  have same : String.ofList (letters 6 n) = String.ofList (letters 6 m) ↔
      letters 6 n = letters 6 m := ⟨fun texts => String.ofList_injective texts, congrArg _⟩
  rw [same, letters_eq_iff, temporaryCount]

/-! ### Finding a fresh name -/

/-- The first number is found whose name is not in use, if there is one within the limit. -/
theorem freshNumber?_eq_find? (tree : FileTree) (parent : Location) (limit start : Nat) :
    tree.freshNumber? parent limit start = (List.range' start limit).find? fun number =>
      (tree.get? (parent ++ [temporaryName number])).isNone := by
  induction limit generalizing start with
  | zero => rfl
  | succ limit ih =>
      rw [freshNumber?, List.range'_succ, List.find?_cons]
      cases tree.get? (parent ++ [temporaryName start]) with
      | none => rfl
      | some entry => exact ih (start + 1)

/-- Among more names than there are entries one is free, unless the names repeat. -/
theorem exists_free (tree : FileTree) (parent : Location) (start : Nat)
    (few : tree.entries.length < temporaryCount) :
    ∃ number ∈ List.range' start (tree.entries.length + 1),
      tree.get? (parent ++ [temporaryName number]) = none := by
  by_contra used
  push Not at used
  have distinct : ((List.range' start (tree.entries.length + 1)).map fun number =>
      parent ++ [temporaryName number]).Nodup := by
    apply List.Nodup.map_on _ List.nodup_range'
    intro one inside two inside' same
    have names : temporaryName one = temporaryName two := by simpa using same
    rw [temporaryName_eq_iff] at names
    rw [List.mem_range'_1] at inside inside'
    rw [temporaryCount_eq] at names few
    omega
  have taken : ((List.range' start (tree.entries.length + 1)).map fun number =>
      parent ++ [temporaryName number]) ⊆ tree.places := by
    intro place member
    obtain ⟨number, inside, rfl⟩ := List.mem_map.mp member
    exact (mem_places_iff (by simp)).mpr (used number inside)
  have sizes := (List.subperm_of_subset distinct taken).length_le
  rw [List.length_map, List.length_range', places, List.length_map] at sizes
  omega

/-- If no number is found among more than there are entries, no temporary name is free. -/
theorem used_of_freshNumber?_eq_none {start : Nat}
    (exhausted : tree.freshNumber? parent (tree.entries.length + 1) start = none)
    (number : Nat) : tree.get? (parent ++ [temporaryName number]) ≠ none := by
  rw [freshNumber?_eq_find?, List.find?_eq_none] at exhausted
  have used (tried : Nat) (inside : tried ∈ List.range' start (tree.entries.length + 1)) :
      tree.get? (parent ++ [temporaryName tried]) ≠ none := by
    simpa using exhausted tried inside
  by_cases few : tree.entries.length < temporaryCount
  · obtain ⟨free, inside, nothing⟩ := exists_free tree parent start few
    exact absurd nothing (used free inside)
  · -- All names have been tried.
    have turned : (start + (number + temporaryCount - start % temporaryCount) % temporaryCount) %
        temporaryCount = number % temporaryCount := by
      rw [temporaryCount_eq]
      omega
    rw [← temporaryName_eq_iff.mpr turned]
    apply used
    rw [List.mem_range'_1]
    have small := Nat.mod_lt (number + temporaryCount - start % temporaryCount)
      (show 0 < temporaryCount by decide)
    omega

/-- A fresh name is found if one is free. -/
theorem exists_freshNumber? {start : Nat}
    (free : tree.get? (parent ++ [temporaryName number]) = none) :
    ∃ found, tree.freshNumber? parent (tree.entries.length + 1) start = some found := by
  apply Option.ne_none_iff_exists'.mp
  intro exhausted
  exact used_of_freshNumber?_eq_none exhausted number free

end ContentNode.FileSystem.FileTree
