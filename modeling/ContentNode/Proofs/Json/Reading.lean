import ContentNode.Proofs.Json.Numbers

/-!
# Reading what was written

A value whose numbers are short integers is read back from its text, up to where the text
ends, if it does not nest deeper than is allowed.
-/

namespace ContentNode.Json

variable {b : UInt8} {text : String} {v : Value} {items before : List Value}
  {member : String × Value} {members earlier : List (String × Value)} {rest s part : List UInt8}
  {parts : List (List UInt8)} {fuel levels : Nat} {item : List UInt8 → Lexer.Result Value}

/-- A value whose numbers are integers of at most 64 bits and whose arrays and objects nest
up to some number of levels. -/
inductive Readable : Nat → Value → Prop where
  | null {levels : Nat} : Readable levels .null
  | bool {levels : Nat} (b : Bool) : Readable levels (.bool b)
  | integer {levels : Nat} {i : Int} (short : Short i) : Readable levels (.integer i)
  | string {levels : Nat} (text : String) : Readable levels (.string text)
  | array {levels : Nat} {items : List Value} (all : ∀ v ∈ items, Readable levels v) :
      Readable (levels + 1) (.array items)
  | object {levels : Nat} {members : List (String × Value)}
      (all : ∀ member ∈ members, Readable levels member.2) :
      Readable (levels + 1) (.object members)

theorem Readable.no_members : Readable (levels + 1) (.object []) := .object nofun

/-- An object with one more member. -/
theorem Readable.cons_member (key : String) (value : Readable levels v)
    (others : Readable (levels + 1) (.object members)) :
    Readable (levels + 1) (.object ((key, v) :: members)) := by
  cases others with
  | object all =>
      apply Readable.object
      intro member inside
      rcases List.mem_cons.mp inside with rfl | inside
      · exact value
      · exact all member inside

/-- A value that is read back from its text, whatever ends the text. -/
structure ReadsBack (item : List UInt8 → Lexer.Result Value) (v : Value) : Prop where
  /-- The text neither begins with blank space nor closes an array. -/
  opens : ∃ b s, bytes v.render = b :: s ∧ Lexer.isBlank b = false ∧ b ≠ 93
  reads : ∀ {rest : List UInt8}, Ends rest → item (bytes v.render ++ rest) = .ok (v, rest)

theorem skipBlank_of_not_blank (visible : Lexer.isBlank b = false) :
    Lexer.skipBlank (b :: s) = b :: s := by
  rw [Lexer.skipBlank, List.dropWhile_cons_of_neg (by simp [visible])]

/-! ### Atoms -/

/-- A first byte of a value that is no array and no object. -/
def OpensAtom (b : UInt8) : Prop := Lexer.isBlank b = false ∧ b ≠ 93 ∧ b ≠ 91 ∧ b ≠ 123

instance : DecidablePred OpensAtom := fun b =>
  inferInstanceAs (Decidable (Lexer.isBlank b = false ∧ b ≠ 93 ∧ b ≠ 91 ∧ b ≠ 123))

theorem value_of_opensAtom (opens : OpensAtom b) :
    Parser.value levels (b :: s) = Parser.atom b s := by
  obtain ⟨visible, -, noArray, noObject⟩ := opens
  rw [Parser.value.eq_def]
  dsimp only
  rw [skipBlank_of_not_blank visible]
  dsimp only
  rw [if_neg noArray, if_neg noObject]

theorem opensAtom_of_opensNumber (opens : opensNumber b = true) : OpensAtom b := by
  have other {letter : UInt8} (none : opensNumber letter = false) : b ≠ letter := by
    rintro rfl
    rw [none] at opens
    cases opens
  have space : b ≠ 32 := other rfl
  have tab : b ≠ 9 := other rfl
  have line : b ≠ 10 := other rfl
  have carriage : b ≠ 13 := other rfl
  refine ⟨?_, other rfl, other rfl, other rfl⟩
  simp [Lexer.isBlank, space, tab, line, carriage]

/-- A value is read back if it is an atom that is. -/
theorem readsBack_of_atom
    (atom : ∀ rest, Ends rest → ∃ b s, bytes v.render ++ rest = b :: s ∧ OpensAtom b ∧
      Parser.atom b s = .ok (v, rest)) :
    ReadsBack (Parser.value levels) v := by
  constructor
  · obtain ⟨b, s, text, ⟨visible, noEnd, -⟩, -⟩ := atom [] ends_nil
    rw [List.append_nil] at text
    exact ⟨b, s, text, visible, noEnd⟩
  · intro rest ends
    obtain ⟨b, s, text, opens, read⟩ := atom rest ends
    rw [text, value_of_opensAtom opens, read]

theorem readsBack_null : ReadsBack (Parser.value levels) .null :=
  readsBack_of_atom fun rest _ => ⟨110, [117, 108, 108] ++ rest, rfl, by decide, rfl⟩

theorem readsBack_bool (b : Bool) : ReadsBack (Parser.value levels) (.bool b) := by
  apply readsBack_of_atom
  intro rest _
  cases b with
  | true =>
      exact ⟨116, [114, 117, 101] ++ rest, rfl, by decide, rfl⟩
  | false =>
      exact ⟨102, [97, 108, 115, 101] ++ rest, rfl, by decide, rfl⟩

theorem readsBack_integer {i : Int} (short : Short i) :
    ReadsBack (Parser.value levels) (.integer i) := by
  apply readsBack_of_atom
  intro rest ends
  obtain ⟨b, s, text, opens, read⟩ := atom_integer short ends
  rw [Value.render, Number.render]
  exact ⟨b, s, text, opensAtom_of_opensNumber opens, read⟩

theorem bytes_render_string : bytes (Value.string text).render ++ rest =
    34 :: (text.toList.flatMap written ++ 34 :: rest) := by
  rw [Value.render, bytes_quote]
  simp

theorem atom_string :
    Parser.atom 34 (text.toList.flatMap written ++ 34 :: rest) = .ok (.string text, rest) := by
  rw [Parser.atom, if_neg (by decide), if_neg (by decide), if_neg (by decide),
    if_neg (by decide), if_neg (by decide), if_pos rfl, string_written]
  rfl

theorem readsBack_string (text : String) : ReadsBack (Parser.value levels) (.string text) :=
  readsBack_of_atom fun _ _ => ⟨34, _, bytes_render_string, by decide, atom_string⟩

/-! ### Parts -/

/-- The text of the parts of an array or object after the first. -/
def following (parts : List (List UInt8)) : List UInt8 := parts.flatMap fun part => 44 :: part

theorem following_cons_append :
    following (part :: parts) ++ s = 44 :: (part ++ (following parts ++ s)) := by
  simp [following]

theorem ends_following (close : continues b = false) : Ends (following parts ++ b :: rest) := by
  cases parts with
  | nil => exact close
  | cons part parts => rfl

theorem length_le_following (parts : List (List UInt8)) :
    parts.length ≤ (following parts).length := by
  induction parts with
  | nil => exact Nat.le_refl 0
  | cons part parts ih =>
      rw [following] at ih ⊢
      rw [List.flatMap_cons, List.length_append, List.length_cons, List.length_cons]
      omega

/-! ### Arrays -/

theorem bytes_renderItems_cons : bytes (Value.renderItems (v :: items)) =
    bytes v.render ++ following (items.map fun v => bytes v.render) := by
  induction items generalizing v with
  | nil => simp [Value.renderItems, following]
  | cons w items ih =>
      rw [Value.renderItems]
      · rw [bytes_append, bytes_append, ih, List.append_assoc]
        rfl
      · simp

theorem nextElement_first (back : ReadsBack item v) :
    Parser.nextElement true (bytes v.render ++ rest) = .ok (true, bytes v.render ++ rest) := by
  obtain ⟨b, s, text, visible, noEnd⟩ := back.opens
  rw [text, List.cons_append, Parser.nextElement, skipBlank_of_not_blank visible]
  dsimp only
  rw [if_neg noEnd, if_pos rfl]

theorem nextElement_comma (back : ReadsBack item v) :
    Parser.nextElement false (44 :: (bytes v.render ++ rest)) =
      .ok (true, bytes v.render ++ rest) := by
  obtain ⟨b, s, text, visible, noEnd⟩ := back.opens
  rw [text, List.cons_append, Parser.nextElement, skipBlank_of_not_blank (by decide)]
  dsimp only
  rw [if_neg (by decide), if_neg (by decide), if_pos rfl, skipBlank_of_not_blank visible]
  dsimp only
  rw [if_neg noEnd]

theorem elements_step {first : Bool} (back : ReadsBack item v) (ends : Ends rest)
    (more : Parser.nextElement first s = .ok (true, bytes v.render ++ rest)) :
    Parser.elements item (fuel + 1) first before s =
      Parser.elements item fuel false (v :: before) rest := by
  rw [Parser.elements, more]
  dsimp only
  rw [back.reads ends]

/-- The elements after the first are read back. -/
theorem elements_following (back : ∀ v ∈ items, ReadsBack item v) (enough : items.length < fuel) :
    Parser.elements item fuel false before
        (following (items.map fun v => bytes v.render) ++ 93 :: rest) =
      .ok (before.reverse ++ items, rest) := by
  induction items generalizing before fuel with
  | nil =>
      cases fuel with
      | zero => cases enough
      | succ fuel =>
          rw [List.append_nil]
          rfl
  | cons v items ih =>
      cases fuel with
      | zero => cases enough
      | succ fuel =>
          have first := back v List.mem_cons_self
          have others : ∀ w ∈ items, ReadsBack item w := fun w member =>
            back w (List.mem_cons_of_mem _ member)
          rw [List.map_cons, following_cons_append,
            elements_step first (ends_following rfl) (nextElement_comma first),
            ih others (Nat.lt_of_succ_lt_succ enough), List.reverse_cons, List.append_assoc,
            List.singleton_append]

/-- The elements of an array are read back. -/
theorem elements_renderItems (back : ∀ v ∈ items, ReadsBack item v) :
    Parser.elements item ((bytes (Value.renderItems items) ++ 93 :: rest).length + 1) true []
        (bytes (Value.renderItems items) ++ 93 :: rest) =
      .ok (items, rest) := by
  cases items with
  | nil => rfl
  | cons v items =>
      have first := back v List.mem_cons_self
      have enough : items.length <
          (bytes (Value.renderItems (v :: items)) ++ 93 :: rest).length := by
        have shorter := length_le_following (items.map fun v => bytes v.render)
        rw [List.length_map] at shorter
        rw [bytes_renderItems_cons, List.length_append, List.length_append, List.length_cons]
        omega
      have others : ∀ w ∈ items, ReadsBack item w := fun w member =>
        back w (List.mem_cons_of_mem _ member)
      rw [bytes_renderItems_cons, List.append_assoc] at enough ⊢
      rw [elements_step first (ends_following rfl) (nextElement_first first),
        elements_following others enough]
      rfl

theorem readsBack_array (back : ∀ v ∈ items, ReadsBack (Parser.value levels) v) :
    ReadsBack (Parser.value (levels + 1)) (.array items) := by
  have text : bytes (Value.array items).render =
      91 :: (bytes (Value.renderItems items) ++ [93]) := by
    rw [Value.render, bytes_append, bytes_append]
    rfl
  refine ⟨⟨91, _, text, by decide, by decide⟩, ?_⟩
  intro rest _
  rw [text, List.cons_append, List.append_assoc, List.singleton_append, Parser.value.eq_def]
  dsimp only
  rw [skipBlank_of_not_blank (by decide)]
  dsimp only
  rw [if_pos rfl, elements_renderItems back]
  rfl

/-! ### Objects -/

/-- The text of a member of an object. -/
def entry (member : String × Value) : List UInt8 :=
  bytes (quote member.1) ++ 58 :: bytes member.2.render

theorem entry_append : entry member ++ s =
    34 :: (member.1.toList.flatMap written ++ 34 :: 58 :: (bytes member.2.render ++ s)) := by
  simp [entry, bytes_quote]

theorem bytes_renderMembers_cons : bytes (Value.renderMembers (member :: members)) =
    entry member ++ following (members.map entry) := by
  induction members generalizing member with
  | nil =>
      rw [Value.renderMembers, bytes_append, bytes_append, List.append_assoc, List.map_nil]
      exact (List.append_nil _).symm
  | cons other members ih =>
      rw [Value.renderMembers]
      · rw [bytes_append, bytes_append, bytes_append, bytes_append, ih, List.append_assoc,
          List.append_assoc]
        simp [entry, following]
        rfl
      · simp

theorem colon_cons : Parser.colon (58 :: s) = .ok s := rfl

theorem members_step {first : Bool} (back : ReadsBack item member.2) (ends : Ends rest)
    (more : Parser.nextMember first s =
      .ok (true, member.1.toList.flatMap written ++ 34 :: 58 :: (bytes member.2.render ++ rest))) :
    Parser.members item (fuel + 1) first earlier s =
      Parser.members item fuel false (member :: earlier) rest := by
  rw [Parser.members, more]
  dsimp only
  rw [string_written]
  dsimp only
  rw [colon_cons]
  dsimp only
  rw [back.reads ends]

/-- The members after the first are read back. -/
theorem members_following (back : ∀ member ∈ members, ReadsBack item member.2)
    (enough : members.length < fuel) :
    Parser.members item fuel false earlier (following (members.map entry) ++ 125 :: rest) =
      .ok (earlier.reverse ++ members, rest) := by
  induction members generalizing earlier fuel with
  | nil =>
      cases fuel with
      | zero => cases enough
      | succ fuel =>
          rw [List.append_nil]
          rfl
  | cons member members ih =>
      cases fuel with
      | zero => cases enough
      | succ fuel =>
          have first := back member List.mem_cons_self
          have others : ∀ other ∈ members, ReadsBack item other.2 := fun other inside =>
            back other (List.mem_cons_of_mem _ inside)
          rw [List.map_cons, following_cons_append, entry_append,
            members_step first (ends_following rfl) rfl,
            ih others (Nat.lt_of_succ_lt_succ enough), List.reverse_cons, List.append_assoc,
            List.singleton_append]

/-- The members of an object are read back. -/
theorem members_renderMembers (back : ∀ member ∈ members, ReadsBack item member.2) :
    Parser.members item ((bytes (Value.renderMembers members) ++ 125 :: rest).length + 1) true []
        (bytes (Value.renderMembers members) ++ 125 :: rest) =
      .ok (members, rest) := by
  cases members with
  | nil => rfl
  | cons member members =>
      have first := back member List.mem_cons_self
      have enough : members.length <
          (bytes (Value.renderMembers (member :: members)) ++ 125 :: rest).length := by
        have shorter := length_le_following (members.map entry)
        rw [List.length_map] at shorter
        rw [bytes_renderMembers_cons, List.length_append, List.length_append, List.length_cons]
        omega
      have others : ∀ other ∈ members, ReadsBack item other.2 := fun other inside =>
        back other (List.mem_cons_of_mem _ inside)
      rw [bytes_renderMembers_cons, List.append_assoc, entry_append] at enough ⊢
      rw [members_step first (ends_following rfl) rfl, members_following others enough]
      rfl

theorem readsBack_object (back : ∀ member ∈ members, ReadsBack (Parser.value levels) member.2) :
    ReadsBack (Parser.value (levels + 1)) (.object members) := by
  have text : bytes (Value.object members).render =
      123 :: (bytes (Value.renderMembers members) ++ [125]) := by
    rw [Value.render, bytes_append, bytes_append]
    rfl
  refine ⟨⟨123, _, text, by decide, by decide⟩, ?_⟩
  intro rest _
  rw [text, List.cons_append, List.append_assoc, List.singleton_append, Parser.value.eq_def]
  dsimp only
  rw [skipBlank_of_not_blank (by decide)]
  dsimp only
  rw [if_neg (by decide), if_pos rfl, members_renderMembers back]
  rfl

/-! ### Whole texts -/

/-- A value is read back from its text, with its members in the order of the text. -/
theorem readsBack (readable : Readable levels v) : ReadsBack (Parser.value levels) v := by
  induction readable with
  | null => exact readsBack_null
  | bool b => exact readsBack_bool b
  | integer short => exact readsBack_integer short
  | string text => exact readsBack_string text
  | array _ ih => exact readsBack_array ih
  | object _ ih => exact readsBack_object ih

/-- The text of a value denotes its canonical form. -/
theorem parse_render (readable : Readable Parser.maxLevels v) :
    Parser.parse (bytes v.render) = .ok v.canonical := by
  have read := (readsBack readable).reads ends_nil
  rw [List.append_nil] at read
  rw [Parser.parse, read]
  rfl

/-- A record of values is written as the object of its members. -/
theorem renderRecord_eq (members : List (String × Value)) :
    renderRecord (members.map fun member => (member.1, member.2.render)) =
      (Value.object members).render := by
  have separated : ",".intercalate (members.map fun member =>
      quote member.1 ++ ":" ++ member.2.render) = Value.renderMembers members := by
    induction members with
    | nil => rfl
    | cons member members ih =>
        cases members with
        | nil => rfl
        | cons other members =>
            rw [Value.renderMembers, ← ih]
            · exact String.intercalate_cons_cons
            · simp
  rw [renderRecord, List.map_map, Value.render, ← separated]
  rfl

end ContentNode.Json
