import ContentNode.Proofs.Toml.Integers
import ContentNode.Proofs.Toml.Strings
import ContentNode.Toml.Parser

/-!
# Reading lines back

A document of one line for each entry is read back as the entries of its lines, in their
order, if their names are different and need no quotes.
-/

namespace ContentNode.Toml

open ContentNode.Toml.Parser

variable {c : Char} {s text rest : List Char} {name : String} {v : Value} {n : Nat}

/-- A value that is read back from its text at the end of a line. -/
structure ReadsBack (text : List Char) (v : Value) : Prop where
  opens : ∃ c more, text = c :: more ∧ Scalar.isBlank c = false
  reads : ∀ rest, Parser.value (limit - 1) (text ++ '\n' :: rest) = .ok (v, '\n' :: rest)

/-- What begins neither an array nor a table is a scalar. -/
theorem value_eq_scalar {levels : Nat} (noArray : s.head? ≠ some '[')
    (noTable : s.head? ≠ some '\x7b') : Parser.value levels s = Scalar.scalar s := by
  unfold Parser.value
  split
  · exact absurd rfl noArray
  · exact absurd rfl noTable
  · rfl

theorem head_string (s : List Char) :
    ∃ c more, Printer.string s = c :: more ∧ (c = '"' ∨ c = '\'') := by
  unfold Printer.string
  cases Printer.Style.of s with
  | basic | basicLines => exact ⟨'"', _, rfl, .inl rfl⟩
  | literal | literalLines => exact ⟨'\'', _, rfl, .inr rfl⟩

theorem readsBack_string (s : List Char) :
    ReadsBack (Printer.string s) (.text (String.ofList s)) := by
  obtain ⟨c, more, same, isQuote⟩ := head_string s
  have visible : ∀ c : Char, c = '"' ∨ c = '\'' →
      Scalar.isBlank c = false ∧ c ≠ '[' ∧ c ≠ '\x7b' := by
    rintro c (rfl | rfl) <;> decide
  obtain ⟨noBlank, noArray, noTable⟩ := visible c isQuote
  refine ⟨⟨c, more, same, noBlank⟩, fun rest => ?_⟩
  have read : Scalar.string (Printer.string s ++ '\n' :: rest) =
      .ok (String.ofList s, '\n' :: rest) := string_string s (by simp) (by simp)
  rw [same, List.cons_append] at read ⊢
  rw [value_eq_scalar (by simpa using noArray) (by simpa using noTable), Scalar.scalar,
    if_pos isQuote, read]
  rfl

theorem isBlank_of_test {p : Char → Bool} (holds : p c = true) (space : p ' ' = false)
    (tab : p '\t' = false) : Scalar.isBlank c = false := by
  rw [Scalar.isBlank, Bool.or_eq_false_iff, beq_eq_false_iff_ne, beq_eq_false_iff_ne]
  exact ⟨ne_of_test holds space, ne_of_test holds tab⟩

theorem readsBack_natural (small : n ≤ Printer.maxInteger) :
    ReadsBack (Nat.toDigits 10 n) (.integer n) := by
  have numeral := numeral_toDigits n
  obtain ⟨c, cs, same, decimal⟩ := numeral.exists_cons
  refine ⟨⟨c, cs, same, isBlank_of_test decimal rfl rfl⟩, fun rest => ?_⟩
  have read := scalar_append numeral (by rwa [value_toDigits]) rest
  rw [value_toDigits] at read
  rw [← read, value_eq_scalar]
  · simpa [same] using ne_of_test decimal (rfl : Scalar.isDecimal '[' = false)
  · simpa [same] using ne_of_test decimal (rfl : Scalar.isDecimal '\x7b' = false)

/-! ### Keys -/

/-- A name that needs no quotes. -/
structure Bare (name : String) : Prop where
  nonempty : name.toList ≠ []
  bare : ∀ c ∈ name.toList, Printer.isBare c = true

theorem Bare.exists_cons (bare : Bare name) :
    ∃ c cs, name.toList = c :: cs ∧ Printer.isBare c = true := by
  obtain ⟨c, cs, same⟩ := List.exists_cons_of_ne_nil bare.nonempty
  exact ⟨c, cs, same, bare.bare c (by rw [same]; exact List.mem_cons_self)⟩

/-- A text that begins with such a name begins with none of the other characters. -/
theorem Bare.append_ne (bare : Bare name) {letter : Char}
    (foreign : Printer.isBare letter = false) (rest more : List Char) :
    name.toList ++ rest ≠ letter :: more := by
  obtain ⟨c, cs, same, first⟩ := bare.exists_cons
  rw [same]
  intro equal
  exact ne_of_test first foreign (List.cons.inj equal).1

theorem Bare.skipBlank_append (bare : Bare name) (rest : List Char) :
    Scalar.skipBlank (name.toList ++ rest) = name.toList ++ rest := by
  obtain ⟨c, cs, same, first⟩ := bare.exists_cons
  rw [same]
  exact skipBlank_cons (isBlank_of_test first rfl rfl) _

theorem simpleKey_append (bare : Bare name) (rest : List Char) :
    ∃ span, simpleKey (name.toList ++ ' ' :: rest) = .ok (⟨name, span⟩, ' ' :: rest) := by
  have taken : (name.toList ++ ' ' :: rest).takeWhile Printer.isBare = name.toList := by
    rw [List.takeWhile_append_of_pos bare.bare]
    simp [Printer.isBare]
  have dropped : (name.toList ++ ' ' :: rest).dropWhile Printer.isBare = ' ' :: rest := by
    rw [List.dropWhile_append_of_pos bare.bare]
    rfl
  have nonempty : name.toList.isEmpty = false := by simpa using bare.nonempty
  unfold simpleKey
  split
  next equal => exact absurd equal (bare.append_ne rfl _ _)
  next equal => exact absurd equal (bare.append_ne rfl _ _)
  next =>
    dsimp only
    rw [taken, dropped, nonempty, String.ofList_toList]
    exact ⟨_, rfl⟩

/-- A name before an equals sign is a key of one part. -/
theorem key_append (bare : Bare name) (rest : List Char) :
    ∃ span, key (name.toList ++ ' ' :: '=' :: rest) = .ok (([], ⟨name, span⟩), '=' :: rest) := by
  obtain ⟨span, read⟩ := simpleKey_append bare ('=' :: rest)
  refine ⟨span, ?_⟩
  have parts (fuel : Nat) : keyParts (fuel + 1) (name.toList ++ ' ' :: '=' :: rest) =
      .ok ([⟨name, span⟩], '=' :: rest) := by
    rw [keyParts, bare.skipBlank_append, read]
    rfl
  rw [key, parts]
  rfl

/-! ### Lines -/

theorem entry_eq (name : String) (text rest : List Char) :
    Printer.entry name text ++ rest =
      name.toList ++ ' ' :: '=' :: ' ' :: (text ++ '\n' :: rest) := by
  simp [Printer.entry]

theorem expecting_ok {α : Type} (expected : List String) (x : α) :
    expecting expected (.ok x) = .ok x := rfl

theorem endLine_break (rest : List Char) : endLine ('\n' :: rest) = .ok rest := rfl

/-- An entry is read up to the end of its line. -/
theorem entry_append (bare : Bare name) (back : ReadsBack text v) (rest : List Char) :
    ∃ span place, entry (Parser.value (limit - 1)) endLine (Printer.entry name text ++ rest) =
      .ok (⟨[], ⟨name, span⟩, place, v⟩, rest) := by
  obtain ⟨span, read⟩ := key_append bare (' ' :: (text ++ '\n' :: rest))
  obtain ⟨c, more, same, visible⟩ := back.opens
  have skipped : Scalar.skipBlank (' ' :: (text ++ '\n' :: rest)) = text ++ '\n' :: rest := by
    rw [same]
    exact skipBlank_cons visible _
  have sign : Scalar.word ['='] ('=' :: ' ' :: (text ++ '\n' :: rest)) =
      .ok (' ' :: (text ++ '\n' :: rest)) := rfl
  refine ⟨span, ⟨(text ++ '\n' :: rest).length, ('\n' :: rest).length⟩, ?_⟩
  rw [entry_eq, entry, read]
  simp only [bind, Except.bind, expecting_ok, sign, skipped, back.reads, endLine_break]
  rfl

/-- A line that begins with a name is read as an entry. -/
theorem lines_entry (bare : Bare name) (fuel : Nat) (draft : Draft) (rest : List Char) :
    Parser.lines (fuel + 1) draft (Printer.entry name text ++ rest) = (do
      let (draft, rest) ← draft.addEntry (Printer.entry name text ++ rest)
      Parser.lines fuel draft rest) := by
  rw [entry_eq, Parser.lines, bare.skipBlank_append]
  split
  next equal => exact absurd (List.append_eq_nil_iff.mp equal).1 bare.nonempty
  next equal => exact absurd equal (bare.append_ne rfl _ _)
  next equal => exact absurd equal (bare.append_ne rfl _ _)
  next equal => exact absurd equal (bare.append_ne rfl _ _)
  next equal => exact absurd equal (bare.append_ne rfl _ _)
  next => rfl

theorem addEntry_append (bare : Bare name) (back : ReadsBack text v) {entries : Entries}
    (fresh : entries.entry? name = none) (rest : List Char) :
    ∃ key span, key.name = name ∧
      Draft.addEntry ⟨entries, []⟩ (Printer.entry name text ++ rest) =
        .ok (⟨entries ++ [(key, span, v)], []⟩, rest) := by
  obtain ⟨span, place, read⟩ := entry_append bare back rest
  refine ⟨⟨name, span⟩, place, rfl, ?_⟩
  rw [Draft.addEntry, read]
  have added : entries.addUnder [] [] ⟨name, span⟩ place v =
      .ok (entries ++ [(⟨name, span⟩, place, v)]) := by
    simp [Entries.addUnder, Entries.add, Entries.descend, fresh]
  simp only [bind, Except.bind, added]
  rfl

/-- A line of a document: a name, a text, and the value that the text stands for. -/
structure Line where
  name : String
  text : List Char
  value : Value

namespace Line

/-- A line as it is written. -/
def write (line : Line) : List Char := Printer.entry line.name line.text

/-- A line that can be read back. -/
structure Sound (line : Line) : Prop where
  bare : Bare line.name
  back : ReadsBack line.text line.value

end Line

/-- The names and values of entries, without their places. -/
def contents (entries : Entries) : List (String × Value) :=
  entries.map fun entry => (entry.1.name, entry.2.2)

theorem entry?_eq_none {entries : Entries} (absent : name ∉ (contents entries).map Prod.fst) :
    entries.entry? name = none := by
  rw [Entries.entry?, List.find?_eq_none]
  intro entry member same
  apply absent
  rw [contents, List.map_map, List.mem_map]
  exact ⟨entry, member, beq_iff_eq.mp same⟩

theorem contents_append_singleton (entries : Entries) (key : Key) (span : Span) (v : Value) :
    contents (entries ++ [(key, span, v)]) = contents entries ++ [(key.name, v)] := by
  rw [contents, List.map_append, ← contents]
  rfl

/-- The lines of a document add their entries to those that are there. -/
theorem lines_append (lines : List Line) (sound : ∀ line ∈ lines, line.Sound)
    (entries : Entries)
    (once : ((contents entries).map Prod.fst ++ lines.map Line.name).Nodup) {fuel : Nat}
    (enough : lines.length < fuel) :
    ∃ final, Parser.lines fuel ⟨entries, []⟩ (lines.flatMap Line.write) = .ok final ∧
      contents final = contents entries ++ lines.map fun line => (line.name, line.value) := by
  induction lines generalizing entries fuel with
  | nil =>
    cases fuel with
    | zero => contradiction
    | succ fuel => exact ⟨entries, rfl, (List.append_nil _).symm⟩
  | cons line lines ih =>
    cases fuel with
    | zero => contradiction
    | succ fuel =>
      obtain ⟨bare, back⟩ := sound line List.mem_cons_self
      have fresh : entries.entry? line.name = none := by
        apply entry?_eq_none
        rw [List.map_cons, List.nodup_append] at once
        exact fun held => once.2.2 _ held _ List.mem_cons_self rfl
      obtain ⟨key, span, named, read⟩ :=
        addEntry_append bare back fresh (lines.flatMap Line.write)
      have grown : contents (entries ++ [(key, span, line.value)]) =
          contents entries ++ [(line.name, line.value)] := by
        rw [contents_append_singleton, named]
      have again : ((contents (entries ++ [(key, span, line.value)])).map Prod.fst ++
          lines.map Line.name).Nodup := by
        rw [grown, List.map_append, List.append_assoc]
        exact once
      obtain ⟨final, readRest, same⟩ :=
        ih (fun other member => sound other (List.mem_cons_of_mem line member)) _ again
          (Nat.lt_of_succ_lt_succ enough)
      refine ⟨final, ?_, ?_⟩
      · rw [List.flatMap_cons, Line.write, lines_entry bare, read]
        exact readRest
      · rw [same, grown, List.append_assoc]
        rfl

theorem length_le_length_write (lines : List Line) :
    lines.length ≤ (lines.flatMap Line.write).length := by
  induction lines with
  | nil => exact Nat.le_refl 0
  | cons line lines ih =>
    have one : 1 ≤ line.write.length := by
      simp only [Line.write, Printer.entry, List.length_append, List.length_cons]
      omega
    rw [List.flatMap_cons, List.length_append, List.length_cons]
    omega

/-- A document of lines is read back. -/
theorem parse_lines (lines : List Line) (sound : ∀ line ∈ lines, line.Sound)
    (once : (lines.map Line.name).Nodup) :
    ∃ entries, parse (lines.flatMap Line.write) = .ok entries ∧
      contents entries = lines.map fun line => (line.name, line.value) := by
  have noMark : ∀ rest, lines.flatMap Line.write ≠ '\ufeff' :: rest := by
    intro rest
    cases lines with
    | nil => nofun
    | cons line lines =>
      rw [List.flatMap_cons, Line.write, entry_eq]
      exact (sound line List.mem_cons_self).bare.append_ne (by decide) _ rest
  obtain ⟨final, read, same⟩ := lines_append lines sound [] once
    (Nat.lt_succ_of_le (length_le_length_write lines))
  refine ⟨final, ?_, same⟩
  rw [← read]
  unfold parse
  split
  next equal => exact absurd equal (noMark _)
  next => rfl

end ContentNode.Toml
