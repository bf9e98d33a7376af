import ContentNode.Toml.Parser

/-!
# Integers of documents

Every integer that a document gives to a name at its top is in the range of integers, whatever
else the document holds.
-/

namespace ContentNode.Toml

variable {α β ε : Type} {P : α → Prop} {Q : β → Prop} {result : Except ε α}
  {next : α → Except ε β} {s : List Char} {name : String} {entries final : Entries}

/-! ### Results -/

/-- Whatever is read has a property. -/
def Gives (P : α → Prop) (result : Except ε α) : Prop := ∀ x, result = .ok x → P x

theorem gives_ok {x : α} (holds : P x) : Gives P (.ok x : Except ε α) := by
  rintro y ⟨⟩
  exact holds

theorem gives_error (e : ε) : Gives P (.error e : Except ε α) := nofun

theorem Gives.bind (gives : Gives P result) (further : ∀ x, P x → Gives Q (next x)) :
    Gives Q (result >>= next) := by
  cases result with
  | error e => exact gives_error e
  | ok x => exact further x (gives x rfl)

theorem gives_bind (further : ∀ x, Gives Q (next x)) : Gives Q (result >>= next) :=
  Gives.bind (fun _ _ => trivial : Gives (fun _ => True) result) fun x _ => further x

theorem Gives.mapError {ε' : Type} (gives : Gives P result) (f : ε → ε') :
    Gives P (result.mapError f) := by
  cases result with
  | error e => exact gives_error (f e)
  | ok x => exact gives_ok (gives x rfl)

theorem Gives.orElse {result : Except Fault α} {other : Unit → Except Fault α}
    (first : Gives P result) (second : Gives P (other ())) : Gives P (orElse result other) := by
  unfold Toml.orElse
  split
  · split
    · exact gives_error _
    · exact second
  · exact first

theorem Gives.quotesMissing {result : Except Fault α} (gives : Gives P result) :
    Gives P (Scalar.quotesMissing result) :=
  (gives.mapError _).mapError _

/-! ### Values -/

/-- An integer of a document is not too large. -/
def Value.InRange : Value → Prop
  | .integer i => i ≤ Printer.maxInteger
  | _ => True

/-- A value in range with what follows it. -/
abbrev ReadInRange (r : Value × List Char) : Prop := r.1.InRange

theorem inRange_inRange (i : Int) (place : Place) (rest : List Char) :
    Gives ReadInRange (Scalar.inRange i place rest) := by
  unfold Scalar.inRange
  split
  · exact gives_error _
  split
  · exact gives_error _
  next small =>
    refine gives_ok ?_
    change i ≤ (Printer.maxInteger : Nat)
    rw [Printer.maxInteger]
    omega

theorem inRange_integer (s : List Char) : Gives ReadInRange (Scalar.integer s) := by
  unfold Scalar.integer
  split
  · exact gives_bind fun _ => inRange_inRange _ _ _
  · exact gives_bind fun _ => inRange_inRange _ _ _
  · exact gives_bind fun _ => inRange_inRange _ _ _
  · exact gives_bind fun _ => inRange_inRange _ _ _

theorem inRange_double (s : List Char) : Gives ReadInRange (Scalar.double s) := by
  refine Gives.mapError (Gives.orElse ?_ ?_) _
  · refine gives_bind fun _ => gives_bind fun _ => ?_
    dsimp only
    split
    · exact gives_error _
    · exact gives_ok trivial
  · exact gives_bind fun _ => gives_ok trivial

theorem inRange_scalar (s : List Char) : Gives ReadInRange (Scalar.scalar s) := by
  unfold Scalar.scalar
  split
  · exact gives_error _
  split
  · exact gives_bind fun _ => gives_ok trivial
  split
  · exact Gives.quotesMissing ((gives_bind fun _ => gives_ok trivial).mapError _)
  split
  · exact Gives.quotesMissing ((gives_bind fun _ => gives_ok trivial).mapError _)
  split
  · exact Gives.orElse (gives_bind fun _ => gives_ok trivial)
      (Gives.orElse (inRange_double _) (inRange_integer _))
  split
  · exact (inRange_integer _).mapError _
  split
  · exact (inRange_double _).mapError _
  · exact Gives.quotesMissing (gives_bind fun _ => gives_ok trivial)

theorem inRange_value (levels : Nat) (s : List Char) :
    Gives ReadInRange (Parser.value levels s) := by
  unfold Parser.value
  split
  · split
    · exact (gives_error _).mapError _
    · exact gives_bind fun _ => gives_ok trivial
  · split
    · exact (gives_error _).mapError _
    · exact gives_bind fun _ => gives_ok trivial
  · exact inRange_scalar s

/-! ### Tables -/

/-- The integers of a table are in range, those within its values left aside. -/
def Entries.InRange (entries : Entries) : Prop := ∀ entry ∈ entries, entry.2.2.InRange

namespace Entries

theorem inRange_nil : InRange [] := nofun

theorem InRange.append (inRange : InRange entries) {key : Key} {span : Span} {v : Value}
    (value : v.InRange) : InRange (entries ++ [(key, span, v)]) := by
  intro entry member
  rcases List.mem_append.mp member with old | new
  · exact inRange entry old
  · rw [List.mem_singleton.mp new]
    exact value

theorem InRange.erase (inRange : InRange entries) (name : String) :
    InRange (entries.erase name) :=
  fun entry member => inRange entry (List.mem_filter.mp member).1

theorem InRange.replace (inRange : InRange entries) (name : String) {v : Value}
    (value : v.InRange) : InRange (entries.replace name v) := by
  intro entry member
  obtain ⟨⟨key, span, old⟩, held, rfl⟩ := List.mem_map.mp member
  dsimp only
  split
  · exact value
  · exact inRange _ held

theorem InRange.extend (inRange : InRange entries) (name : String) (last : Place) :
    InRange (entries.extend name last) := by
  intro entry member
  obtain ⟨⟨key, span, old⟩, held, rfl⟩ := List.mem_map.mp member
  exact inRange (key, span, old) held

/-- Below the top only tables change, and at the top what the change does. -/
theorem InRange.descend (inRange : InRange entries) {start : Start}
    {change : Origin → Entries → Except Conflict Entries}
    (changed : ∀ origin, Gives InRange (change origin entries)) (path : List String)
    (below : List Key) (origin : Origin) :
    Gives InRange (descend start change path below origin entries) := by
  cases below with
  | nil => exact changed origin
  | cons key below =>
    unfold Entries.descend
    split
    · exact gives_bind fun _ => gives_ok (inRange.append trivial)
    · exact gives_bind fun _ => gives_bind fun _ => gives_ok (inRange.replace _ trivial)
    · split
      · exact gives_error _
      · exact gives_bind fun _ => gives_ok (inRange.replace _ trivial)
    · exact gives_error _

theorem InRange.add (inRange : InRange entries) (start : Start) (table : Option (List String))
    (path : List Key) (key : Key) (span : Span) {v : Value} (value : v.InRange)
    (origin : Origin) : Gives InRange (entries.add start table path key span v origin) := by
  refine inRange.descend (fun _ => ?_) [] path origin
  split
  · exact gives_error _
  split
  · exact gives_error _
  · exact gives_ok (inRange.append value)

theorem InRange.addUnder (inRange : InRange entries) (opened path : List Key) (key : Key)
    (span : Span) {v : Value} (value : v.InRange) :
    Gives InRange (entries.addUnder opened path key span v) :=
  inRange.descend (fun origin => inRange.add _ _ path key span value origin) [] opened .header

theorem InRange.openTable (inRange : InRange entries) (path : List Key) (key : Key)
    (span : Span) : Gives InRange (openTable path key span entries) := by
  refine inRange.descend (fun _ => ?_) [] path .header
  split
  · exact gives_ok (inRange.append trivial)
  · exact gives_ok ((inRange.erase _).append trivial)
  · exact gives_error _

theorem InRange.openItem (inRange : InRange entries) (path : List Key) (key : Key)
    (span : Span) : Gives InRange (openItem path key span entries) := by
  refine inRange.descend (fun _ => ?_) [] path .header
  split
  · exact gives_ok (inRange.append trivial)
  next items _ =>
    have grown : Value.InRange (.tables (items ++ [[]])) := trivial
    exact gives_ok ((inRange.replace key.name grown).extend key.name span.last)
  · exact gives_error _

theorem InRange.reachUnder (inRange : InRange entries) (opened : List Key) (last : Place) :
    InRange (entries.reachUnder opened last) := by
  unfold Entries.reachUnder
  split
  · exact inRange
  next key above _ =>
    have extended (origin : Origin) : Gives InRange
        ((fun _ inner => .ok (inner.extend key.name last) :
          Origin → Entries → Except Conflict Entries) origin entries) :=
      gives_ok (inRange.extend key.name last)
    split
    next final reached => exact inRange.descend extended [] above.reverse .header final reached
    · exact inRange

end Entries

/-! ### Documents -/

theorem Gives.withoutConflict {result : Except Conflict α} (gives : Gives P result)
    (place : Place) : Gives P (Parser.withoutConflict place result) := by
  cases result with
  | ok x => exact gives_ok (gives x rfl)
  | error conflict => exact gives_error _

/-- A document whose integers are in range, with what follows. -/
abbrev DraftInRange (r : Parser.Draft × List Char) : Prop := r.1.entries.InRange

theorem inRange_addEntry {draft : Parser.Draft} (inRange : draft.entries.InRange)
    (s : List Char) : Gives DraftInRange (draft.addEntry s) := by
  have entry : Gives (fun r : Parser.Addition × List Char => r.1.value.InRange)
      (Parser.entry (Parser.value (Parser.limit - 1)) Parser.endLine s) := by
    refine gives_bind fun _ => Gives.mapError (gives_bind fun _ => ?_) _
    exact Gives.bind (inRange_value _ _) fun _ value => gives_bind fun _ => gives_ok value
  refine Gives.bind entry fun _ value => ?_
  refine Gives.bind ((inRange.addUnder _ _ _ _ value).withoutConflict _) fun _ added => ?_
  exact gives_ok (added.reachUnder _ _)

theorem inRange_openHeader {draft : Parser.Draft} (inRange : draft.entries.InRange)
    (s : List Char) : Gives DraftInRange (draft.openHeader s) := by
  unfold Parser.Draft.openHeader
  refine Gives.mapError ?_ _
  split
  · refine gives_bind fun _ => ?_
    exact Gives.bind ((inRange.openItem _ _ _).withoutConflict _) fun _ opened => gives_ok opened
  · refine gives_bind fun _ => ?_
    exact Gives.bind ((inRange.openTable _ _ _).withoutConflict _) fun _ opened => gives_ok opened
  · exact gives_error _

theorem inRange_lines (fuel : Nat) {draft : Parser.Draft} (inRange : draft.entries.InRange)
    (s : List Char) : Gives Entries.InRange (Parser.lines fuel draft s) := by
  induction fuel generalizing draft s with
  | zero => exact gives_error _
  | succ fuel ih =>
    unfold Parser.lines
    split
    · exact gives_ok inRange
    · exact gives_bind fun _ => ih inRange _
    · exact Gives.bind (inRange_openHeader inRange _) fun _ opened => ih opened _
    · exact gives_bind fun _ => ih inRange _
    · exact ih inRange _
    · exact Gives.bind (inRange_addEntry inRange _) fun _ added => ih added _

/-- The integers that a document gives to names at its top are in range. -/
theorem inRange_parse (s : List Char) : Gives Entries.InRange (Parser.parse s) :=
  inRange_lines _ Entries.inRange_nil _

end ContentNode.Toml
