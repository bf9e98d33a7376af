import ContentNode.Json.FromValue
import ContentNode.Json.Parser
import Mathlib.Data.List.Nodup

/-!
# Records from members

What a record is that is read from the members of an object, whatever their order.  Each
field is read from the member of its name, and members that are no fields do not matter.
If every key occurs once, it is enough that the fields can be read.
-/

namespace ContentNode

/-- Programs one after another succeed exactly if each of them does. -/
theorem bind_eq_ok_iff {ε α β : Type} {first : Except ε α} {next : α → Except ε β} {value : β} :
    (first >>= next) = .ok value ↔ ∃ between, first = .ok between ∧ next between = .ok value := by
  cases first with
  | ok between => simp [bind, Except.bind]
  | error e => simp [bind, Except.bind]

namespace Json.Value

variable {key : String} {v : Value} {members : List (String × Value)}

/-- A value that has every key once, if it is an object. -/
def HasKeysOnce : Value → Prop
  | object members => (members.map Prod.fst).Nodup
  | _ => True

instance : DecidablePred HasKeysOnce
  | object members => inferInstanceAs (Decidable (members.map Prod.fst).Nodup)
  | null | bool _ | number _ | string _ | array _ => inferInstanceAs (Decidable True)

theorem lookup_eq_none_iff : lookup key members = none ↔ key ∉ members.map Prod.fst := by
  induction members with
  | nil => simp [lookup]
  | cons member rest ih =>
      obtain ⟨k, v⟩ := member
      by_cases same : k = key
      · simp [lookup, same]
      · simp [lookup, same, ih, Ne.symm same]

@[simp]
theorem canonical_null : null.canonical = null := by
  rw [canonical]
  all_goals simp

@[simp]
theorem canonical_integer (i : Int) : (integer i).canonical = integer i := by
  rw [canonical]
  all_goals simp

@[simp]
theorem canonical_string (text : String) : (string text).canonical = string text := by
  rw [canonical]
  all_goals simp

theorem insert_nil : insert key v [] = [(key, v)] := rfl

/-- A key that comes first is set in front. -/
theorem insert_of_lt {k : String} {w : Value} (before : key < k) :
    insert key v ((k, w) :: members) = (key, v) :: (k, w) :: members := by
  have different : key ≠ k := by
    rintro rfl
    exact String.lt_irrefl key before
  rw [insert, if_neg different, if_pos before]

/-- A key that comes later is set behind. -/
theorem insert_of_gt {k : String} {w : Value} (behind : k < key) :
    insert key v ((k, w) :: members) = (k, w) :: insert key v members := by
  have different : key ≠ k := by
    rintro rfl
    exact String.lt_irrefl key behind
  rw [insert, if_neg different, if_neg (String.lt_asymm behind)]

/-- The keys after one is set. -/
theorem mem_keys_insert {other : String} :
    other ∈ (insert key v members).map Prod.fst ↔ other = key ∨ other ∈ members.map Prod.fst := by
  induction members with
  | nil => simp [insert]
  | cons member rest ih =>
      obtain ⟨k, w⟩ := member
      unfold insert
      split
      · next same => simp [same]
      · split
        · simp
        · simp only [List.map_cons, List.mem_cons, ih]
          tauto

/-- Setting a key keeps the keys in order. -/
theorem sorted_insert (sorted : (members.map Prod.fst).Pairwise (· < ·)) :
    ((insert key v members).map Prod.fst).Pairwise (· < ·) := by
  induction members with
  | nil => simp [insert]
  | cons member rest ih =>
      obtain ⟨k, w⟩ := member
      obtain ⟨first, others⟩ := List.pairwise_cons.mp sorted
      unfold insert
      split
      · next same => simpa [same] using sorted
      · next different =>
        split
        · next before =>
          refine List.pairwise_cons.mpr ⟨?_, sorted⟩
          intro other member
          rcases List.mem_cons.mp member with rfl | member
          · exact before
          · exact String.lt_trans before (first other member)
        · next after =>
          have behind : k < key := Std.lt_of_le_of_ne (String.not_lt.mp after) (Ne.symm different)
          refine List.pairwise_cons.mpr ⟨?_, ih others⟩
          intro other member
          rcases mem_keys_insert.mp member with rfl | member
          · exact behind
          · exact first other member

theorem sorted_sortMembers (members : List (String × Value)) :
    ((sortMembers members).map Prod.fst).Pairwise (· < ·) := by
  have kept (sorted : List (String × Value)) (rest : List (String × Value))
      (ordered : (sorted.map Prod.fst).Pairwise (· < ·)) :
      ((rest.foldl (fun sorted member => insert member.1 member.2 sorted) sorted).map
        Prod.fst).Pairwise (· < ·) := by
    induction rest generalizing sorted with
    | nil => exact ordered
    | cons member rest ih => exact ih _ (sorted_insert ordered)
  exact kept [] members List.Pairwise.nil

/-- In its canonical form a value has every key once. -/
theorem hasKeysOnce_canonical (v : Value) : v.canonical.HasKeysOnce := by
  cases v with
  | object members =>
      unfold canonical HasKeysOnce
      apply (sorted_sortMembers _).imp
      rintro first _ less rfl
      exact String.lt_irrefl first less
  | null | bool _ | number _ | string _ | array _ =>
      unfold canonical
      trivial

/-- The value of a text has every key once. -/
theorem hasKeysOnce_of_parse {text : List UInt8} (read : Json.Parser.parse text = .ok v) :
    v.HasKeysOnce := by
  obtain ⟨⟨w, rest⟩, -, finished⟩ := bind_eq_ok_iff.mp read
  obtain ⟨⟨⟩, -, same⟩ := bind_eq_ok_iff.mp finished
  obtain rfl := Except.ok.inj same
  exact hasKeysOnce_canonical w

end Json.Value

namespace Schema.Record

variable {S : Type → Type 1} {ρ ε : Type} {record : Record S ρ} {fail : DataError → ε}
  {partly final : Partial ρ} {field : Field S ρ} {key : String}

section AnyNotation

variable {ν : Type} {read : (τ : Type) → S τ → ν → Except ε τ} {members : List (String × ν)}
  {v : ν}

/-- The field of a name has that name. -/
theorem name_of_field? (found : record.field? key = some field) : field.name = key := by
  simpa using List.find?_some found

theorem takeMember_of_foreign (foreign : record.field? key = none) :
    record.takeMember fail read partly (key, v) = .ok partly := by
  rw [takeMember, foreign]

theorem takeMember_of_field (found : record.field? key = some field)
    (fresh : field.name ∉ partly.given) :
    record.takeMember fail read partly (key, v) = do
      let value ← read field.type field.shape v
      return ⟨field.set value partly.value, field.name :: partly.given⟩ := by
  rw [takeMember, found]
  dsimp only
  rw [if_neg (by simpa using fresh)]

/-- What one member does: it is passed over, or it is the first one of a field. -/
theorem takeMember_eq_ok (taken : record.takeMember fail read partly (key, v) = .ok final) :
    (record.field? key = none ∧ final = partly) ∨
      ∃ field value, record.field? key = some field ∧ read field.type field.shape v = .ok value ∧
        final = ⟨field.set value partly.value, key :: partly.given⟩ := by
  cases found : record.field? key with
  | none =>
      rw [takeMember_of_foreign found] at taken
      exact .inl ⟨rfl, (Except.ok.inj taken).symm⟩
  | some field =>
      by_cases given : field.name ∈ partly.given
      · rw [takeMember, found] at taken
        dsimp only at taken
        rw [if_pos (by simpa using given)] at taken
        cases taken
      · rw [takeMember_of_field found given] at taken
        obtain ⟨value, readable, same⟩ := bind_eq_ok_iff.mp taken
        rw [name_of_field? found] at same
        exact .inr ⟨field, value, rfl, readable, (Except.ok.inj same).symm⟩

/-- The fields that have been given after some members were taken in. -/
theorem mem_given_iff (taken : members.foldlM (record.takeMember fail read) partly = .ok final) :
    key ∈ final.given ↔
      key ∈ partly.given ∨ key ∈ members.map Prod.fst ∧ (record.field? key).isSome := by
  induction members generalizing partly with
  | nil =>
      obtain rfl := Except.ok.inj taken
      simp
  | cons member rest ih =>
      obtain ⟨k, v⟩ := member
      obtain ⟨between, first, others⟩ := bind_eq_ok_iff.mp taken
      rw [ih others]
      rcases takeMember_eq_ok first with ⟨foreign, rfl⟩ | ⟨field, value, found, -, rfl⟩
      · by_cases same : key = k
        · simp [same, foreign]
        · simp [same]
      · by_cases same : key = k
        · simp [same, found]
        · simp [same]

/-- A component of a record that the field of a name sets and no other one touches. -/
structure Component (record : Record S ρ) (name : String) {τ : Type} (shape : S τ)
    (component : ρ → τ) : Prop where
  found : ∃ set, record.field? name = some ⟨name, τ, shape, set⟩ ∧
    ∀ value r, component (set value r) = value
  others : ∀ other ∈ record.fields, other.name ≠ name → ∀ value r,
    component (other.set value r) = component r

/-- A field that has been given does not come again. -/
theorem not_mem_keys_of_given (known : record.field? key = some field)
    (given : key ∈ partly.given)
    (taken : members.foldlM (record.takeMember fail read) partly = .ok final) :
    key ∉ members.map Prod.fst := by
  induction members generalizing partly with
  | nil => simp
  | cons member rest ih =>
      obtain ⟨k, v⟩ := member
      obtain ⟨between, first, others⟩ := bind_eq_ok_iff.mp taken
      have different : key ≠ k := by
        rintro rfl
        rw [takeMember, known] at first
        dsimp only at first
        rw [name_of_field? known, if_pos (by simpa using given)] at first
        cases first
      have kept : key ∈ between.given := by
        rcases takeMember_eq_ok first with ⟨-, rfl⟩ | ⟨_, _, -, -, rfl⟩
        · exact given
        · exact List.mem_cons_of_mem k given
      rw [List.map_cons, List.mem_cons, not_or]
      exact ⟨different, ih kept others⟩

/-- What every field keeps true stays true while members are taken in. -/
theorem holds_of_foldlM {P : ρ → Prop}
    (kept : ∀ field ∈ record.fields, ∀ member ∈ members, ∀ value r,
      read field.type field.shape member.2 = .ok value → P r → P (field.set value r))
    (start : P partly.value)
    (taken : members.foldlM (record.takeMember fail read) partly = .ok final) :
    P final.value := by
  induction members generalizing partly with
  | nil =>
      obtain rfl := Except.ok.inj taken
      exact start
  | cons member rest ih =>
      obtain ⟨k, v⟩ := member
      obtain ⟨between, first, others⟩ := bind_eq_ok_iff.mp taken
      refine ih (fun field known m inside => kept field known m (List.mem_cons_of_mem _ inside))
        ?_ others
      rcases takeMember_eq_ok first with ⟨-, rfl⟩ | ⟨field, value, found, readable, rfl⟩
      · exact start
      · exact kept field (List.mem_of_find?_eq_some found) (k, v) List.mem_cons_self value _
          readable start

/-- What the blank record has and every field keeps true holds of a record that was read. -/
theorem holds_of_ofMembers {P : ρ → Prop} {r : ρ} (blank : P record.blank)
    (kept : ∀ field ∈ record.fields, ∀ member ∈ members, ∀ value r,
      read field.type field.shape member.2 = .ok value → P r → P (field.set value r))
    (taken : record.ofMembers fail read members = .ok r) : P r := by
  obtain ⟨final, all, completed⟩ := bind_eq_ok_iff.mp taken
  have holds : P final.value := holds_of_foldlM kept blank all
  unfold complete at completed
  split at completed
  · contradiction
  · obtain rfl := Except.ok.inj completed
    exact holds

/-- A record is the same without members that are no fields. -/
theorem ofMembers_filter {names : List String}
    (fields : ∀ field ∈ record.fields, field.name ∈ names) :
    record.ofMembers fail read (members.filter fun member => names.contains member.1) =
      record.ofMembers fail read members := by
  have same (partly : Partial ρ) :
      (members.filter fun member => names.contains member.1).foldlM
        (record.takeMember fail read) partly =
      members.foldlM (record.takeMember fail read) partly := by
    induction members generalizing partly with
    | nil => rfl
    | cons member rest ih =>
        obtain ⟨key, v⟩ := member
        by_cases kept : key ∈ names
        · rw [List.filter_cons_of_pos (by simpa using kept), List.foldlM_cons, List.foldlM_cons]
          exact bind_congr ih
        · have foreign : record.field? key = none := by
            refine List.find?_eq_none.mpr fun field known named => kept ?_
            rw [← eq_of_beq named]
            exact fields field known
          rw [List.filter_cons_of_neg (by simpa using kept), List.foldlM_cons,
            takeMember_of_foreign foreign, ih]
          rfl
  rw [ofMembers, ofMembers, same]

end AnyNotation

variable {read : (τ : Type) → S τ → Json.Value → Except ε τ}
  {members : List (String × Json.Value)} {v : Json.Value}

/-- A component is read from the member of its field, or it stays as it was. -/
theorem Component.read_of_foldlM {name : String} {τ : Type} {shape : S τ} {component : ρ → τ}
    (holds : record.Component name shape component)
    (taken : members.foldlM (record.takeMember fail read) partly = .ok final) :
    match Json.Value.lookup name members with
    | some v => read τ shape v = .ok (component final.value)
    | none => component final.value = component partly.value := by
  obtain ⟨set, found, own⟩ := holds.found
  induction members generalizing partly with
  | nil =>
      obtain rfl := Except.ok.inj taken
      rfl
  | cons member rest ih =>
      obtain ⟨k, v⟩ := member
      obtain ⟨between, first, others⟩ := bind_eq_ok_iff.mp taken
      have further := ih others
      rw [Json.Value.lookup]
      by_cases same : k = name
      · subst same
        rw [if_pos rfl]
        rcases takeMember_eq_ok first with ⟨foreign, -⟩ | ⟨field, value, other, readable, rfl⟩
        · cases found.symm.trans foreign
        · obtain rfl := Option.some.inj (found.symm.trans other)
          have absent := not_mem_keys_of_given found List.mem_cons_self others
          rw [Json.Value.lookup_eq_none_iff.mpr absent] at further
          dsimp only at further readable ⊢
          rw [further, own, readable]
      · have unchanged : component between.value = component partly.value := by
          rcases takeMember_eq_ok first with ⟨-, rfl⟩ | ⟨field, value, other, -, rfl⟩
          · rfl
          · have named := name_of_field? other
            exact holds.others field (List.mem_of_find?_eq_some other) (named.trans_ne same) _ _
        rw [if_neg same, ← unchanged]
        exact further

/-- Members are taken in if those that are fields can be read. -/
theorem exists_foldlM (once : (members.map Prod.fst).Nodup)
    (fresh : ∀ key ∈ partly.given, key ∉ members.map Prod.fst)
    (readable : ∀ field ∈ record.fields, ∀ v,
      Json.Value.lookup field.name members = some v →
        ∃ value, read field.type field.shape v = .ok value) :
    ∃ final, members.foldlM (record.takeMember fail read) partly = .ok final := by
  induction members generalizing partly with
  | nil => exact ⟨partly, rfl⟩
  | cons member rest ih =>
      obtain ⟨k, v⟩ := member
      obtain ⟨absent, restOnce⟩ := List.nodup_cons.mp once
      have later (field : Field S ρ) (known : field ∈ record.fields) (w : Json.Value)
          (member : Json.Value.lookup field.name rest = some w) :
          ∃ value, read field.type field.shape w = .ok value := by
        apply readable field known w
        have different : k ≠ field.name := by
          rintro rfl
          rw [Json.Value.lookup_eq_none_iff.mpr absent] at member
          cases member
        rw [Json.Value.lookup, if_neg different, member]
      cases found : record.field? k with
      | none =>
          rw [List.foldlM_cons, takeMember_of_foreign found]
          refine ih restOnce ?_ later
          intro key given inside
          exact fresh key given (List.mem_cons_of_mem _ inside)
      | some field =>
          have named := name_of_field? found
          subst named
          have unused : field.name ∉ partly.given := fun given =>
            fresh _ given List.mem_cons_self
          obtain ⟨value, reads⟩ := readable field (List.mem_of_find?_eq_some found) v
            (by rw [Json.Value.lookup, if_pos rfl])
          rw [List.foldlM_cons, takeMember_of_field found unused, reads]
          refine ih restOnce ?_ later
          intro key given inside
          rcases List.mem_cons.mp given with rfl | given
          · exact absent inside
          · exact fresh key given (List.mem_cons_of_mem _ inside)

end Schema.Record

end ContentNode
