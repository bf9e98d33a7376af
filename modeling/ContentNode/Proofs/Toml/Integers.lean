import ContentNode.Toml.Printer
import ContentNode.Toml.Scalar
import ContentNode.Proofs.Number.Digits

/-!
# Reading natural numbers back

A natural number is read back from its digits at the end of a line.  Digits begin no date, no
time and no number with a fraction that a line break could end, and a reader that finds this
out leaves the choice to the next one.
-/

namespace ContentNode.Toml

variable {α β : Type} {result : Except Fault α} {next : α → Except Fault β} {c d : Char}
  {s ds rest : List Char} {n width low high : Nat}

/-- Characters that a test tells apart are different. -/
theorem ne_of_test {p : Char → Bool} (holds : p c = true) (fails : p d = false) : c ≠ d := by
  rintro rfl
  rw [holds] at fails
  contradiction

/-! ### Faults that are not final -/

/-- Nothing was read, and another reading may be tried. -/
def Open (result : Except Fault α) : Prop :=
  ∃ fault, result = .error fault ∧ fault.settled = false

theorem open_fault (s : List Char) : Open (fault s : Except Fault α) := ⟨_, rfl, rfl⟩

theorem open_outOfRange (s : List Char) : Open (Scalar.outOfRange s : Except Fault α) :=
  ⟨_, rfl, rfl⟩

theorem Open.bind (opened : Open result) (next : α → Except Fault β) : Open (result >>= next) := by
  obtain ⟨fault, rfl, unsettled⟩ := opened
  exact ⟨fault, rfl, unsettled⟩

theorem Open.about (opened : Open result) (subject : String) : Open (about subject result) := by
  obtain ⟨fault, rfl, unsettled⟩ := opened
  exact ⟨_, rfl, unsettled⟩

/-- The next reading is tried. -/
theorem Open.orElse_eq (opened : Open result) (other : Unit → Except Fault α) :
    orElse result other = other () := by
  obtain ⟨fault, rfl, unsettled⟩ := opened
  simp [orElse, unsettled]

theorem Open.orElse (opened : Open result) {other : Unit → Except Fault α}
    (last : Open (other ())) : Open (orElse result other) := by
  rwa [opened.orElse_eq]

/-- A text that does not begin with a word. -/
theorem open_word {word : List Char} (other : s.head? ≠ some c) :
    Open (Scalar.word (c :: word) s) := by
  have absent : (c :: word).isPrefixOf s = false := by
    cases s with
    | nil => rfl
    | cons d s =>
      have different : (c == d) = false := by
        rw [beq_eq_false_iff_ne]
        rintro rfl
        exact other rfl
      rw [List.isPrefixOf, different, Bool.false_and]
  rw [Scalar.word, if_neg (by simp [absent])]
  exact open_fault s

/-! ### Digits -/

theorem isDecimal_toDigits (member : c ∈ Nat.toDigits 10 n) : Scalar.isDecimal c = true :=
  of_mem_toDigits (P := fun c => Scalar.isDecimal c = true) (by decide) (by decide) member

theorem value_toDigits (n : Nat) : Scalar.value 10 (Nat.toDigits 10 n) = n :=
  foldl_toDigits (by decide) (by decide) n

/-- A text of some digits at the end of a line. -/
structure Numeral (ds : List Char) : Prop where
  nonempty : ds ≠ []
  decimal : ∀ c ∈ ds, Scalar.isDecimal c = true
  /-- It is the only digit if it is a zero. -/
  head : ∀ more, ds = '0' :: more → more = []

theorem Numeral.exists_cons (numeral : Numeral ds) :
    ∃ c cs, ds = c :: cs ∧ Scalar.isDecimal c = true := by
  obtain ⟨c, cs, rfl⟩ := List.exists_cons_of_ne_nil numeral.nonempty
  exact ⟨c, cs, rfl, numeral.decimal c List.mem_cons_self⟩

theorem numeral_toDigits (n : Nat) : Numeral (Nat.toDigits 10 n) where
  nonempty := Nat.toDigits_ne_nil
  decimal _ := isDecimal_toDigits
  head more same := by
    rcases Nat.eq_zero_or_pos n with rfl | positive
    · rw [Nat.toDigits_zero] at same
      exact (List.cons.inj same).2.symm
    · obtain ⟨c, cs, digits, other⟩ := head_toDigits positive
      rw [digits] at same
      exact absurd (List.cons.inj same).1 other

theorem moreDigits_append (decimal : ∀ c ∈ ds, Scalar.isDecimal c = true) (rest : List Char) :
    Scalar.moreDigits Scalar.isDecimal (ds ++ '\n' :: rest) = .ok (ds, '\n' :: rest) := by
  induction ds with
  | nil =>
    rw [List.nil_append, Scalar.moreDigits.eq_def]
    rfl
  | cons c ds ih =>
    rw [List.cons_append, Scalar.moreDigits.eq_def]
    simp only [decimal c List.mem_cons_self, if_true]
    rw [ih fun d member => decimal d (List.mem_cons_of_mem c member)]
    rfl

/-- Digits with a sign or without one are not told apart from a number without one. -/
theorem sign_of_isDecimal (decimal : Scalar.isDecimal c = true) (s : List Char) :
    Scalar.sign (c :: s) = (false, c :: s) := by
  unfold Scalar.sign
  split
  next equal =>
    rw [(List.cons.inj equal).1] at decimal
    contradiction
  next equal =>
    rw [(List.cons.inj equal).1] at decimal
    contradiction
  next => rfl

theorem signedWhole_append (numeral : Numeral ds) (rest : List Char) :
    Scalar.signedWhole (ds ++ '\n' :: rest) = .ok ((false, ds), '\n' :: rest) := by
  obtain ⟨c, cs, rfl, decimal⟩ := numeral.exists_cons
  rw [Scalar.signedWhole, List.cons_append, sign_of_isDecimal decimal]
  have whole : Scalar.whole (c :: (cs ++ '\n' :: rest)) = .ok (c :: cs, '\n' :: rest) := by
    unfold Scalar.whole
    split
    next equal =>
      obtain ⟨rfl, rfl⟩ := List.cons.inj equal
      rw [numeral.head cs rfl]
      rfl
    next =>
      rw [Scalar.digits, if_pos decimal,
        moreDigits_append (fun d member => numeral.decimal d (List.mem_cons_of_mem c member))]
      rfl
  simp only [whole]
  rfl

/-- A number of so many digits may be read from digits at the end of a line.  Then another
digit or the line break follows. -/
theorem fixed_append (decimal : ∀ c ∈ ds, Scalar.isDecimal c = true) (width low high : Nat)
    (rest : List Char) :
    Open (Scalar.fixed width low high (ds ++ '\n' :: rest)) ∨
      ∃ n more, Scalar.fixed width low high (ds ++ '\n' :: rest) = .ok (n, more) ∧
        ∀ mark, Scalar.isDecimal mark = false → mark ≠ '\n' → more.head? ≠ some mark := by
  unfold Scalar.fixed
  dsimp only
  split
  next digits =>
    obtain ⟨enough, all⟩ := digits
    -- A longer number would have the line break among its digits.
    have short : width ≤ ds.length := by
      refine Nat.not_lt.mp fun long => ?_
      have inside : '\n' ∈ (ds ++ '\n' :: rest).take width := by
        obtain ⟨more, rfl⟩ := Nat.exists_eq_add_of_lt long
        rw [List.take_append, Nat.add_assoc, Nat.add_sub_cancel_left, List.take_succ_cons]
        simp
      have wrong := List.all_eq_true.mp all _ inside
      contradiction
    split
    · refine .inr ⟨_, _, rfl, fun mark noDigit noBreak => ?_⟩
      rw [List.drop_append_of_le_length short]
      cases left : ds.drop width with
      | nil => simpa using Ne.symm noBreak
      | cons d more =>
        have member : d ∈ ds := List.mem_of_mem_drop (by rw [left]; exact List.mem_cons_self)
        simpa using ne_of_test (decimal d member) noDigit
    · exact .inl (open_outOfRange _)
  next => exact .inl (open_fault _)

/-- Digits at the end of a line are neither a date nor a time. -/
theorem open_moment (decimal : ∀ c ∈ ds, Scalar.isDecimal c = true) (rest : List Char) :
    Open (Scalar.moment (ds ++ '\n' :: rest)) := by
  have date : Open (Scalar.date (ds ++ '\n' :: rest)) := by
    rw [Scalar.date]
    rcases fixed_append decimal 4 0 9999 rest with opened | ⟨n, more, read, ends⟩
    · exact opened.bind _
    · rw [read]
      exact (open_word (ends '-' rfl (by decide))).bind _
  have time : Open (Scalar.time (ds ++ '\n' :: rest)) := by
    rw [Scalar.time]
    rcases fixed_append decimal 2 0 23 rest with opened | ⟨n, more, read, ends⟩
    · exact opened.bind _
    · rw [read]
      exact (open_word (ends ':' rfl (by decide))).bind _
  exact Open.bind (((date.bind _).about _).orElse (time.about _)) _

/-- Digits at the end of a line are no number with a fraction or an exponent. -/
theorem open_double (numeral : Numeral ds) (rest : List Char) :
    Open (Scalar.double (ds ++ '\n' :: rest)) := by
  have decimal : Open (Scalar.decimal (ds ++ '\n' :: rest)) := by
    rw [Scalar.decimal, signedWhole_append numeral]
    have noFraction : Open (Scalar.fractionAndExponent ('\n' :: rest)) := open_fault _
    obtain ⟨fault, stuck, unsettled⟩ := noFraction
    exact ⟨fault, by simp [bind, Except.bind, stuck], unsettled⟩
  have special : Open (Scalar.special (ds ++ '\n' :: rest)) := by
    obtain ⟨c, cs, rfl, first⟩ := numeral.exists_cons
    have other (letter : Char) (noDigit : Scalar.isDecimal letter = false) :
        (c :: (cs ++ '\n' :: rest)).head? ≠ some letter := by
      simpa using ne_of_test first noDigit
    rw [Scalar.special, List.cons_append, sign_of_isDecimal first]
    have infinity : Open (Scalar.infinity (c :: (cs ++ '\n' :: rest))) :=
      (open_word (other 'i' rfl)).bind _
    have undefined : Open (Scalar.undefined (c :: (cs ++ '\n' :: rest))) :=
      (open_word (other 'n' rfl)).bind _
    exact (infinity.orElse undefined).bind _
  exact (decimal.orElse special).about _

/-- Digits at the end of a line are an integer. -/
theorem integer_append (numeral : Numeral ds) (small : Scalar.value 10 ds ≤ Printer.maxInteger)
    (rest : List Char) :
    Scalar.integer (ds ++ '\n' :: rest) = .ok (.integer (Scalar.value 10 ds), '\n' :: rest) := by
  have second {mark : Char} {more : List Char} (equal : ds ++ '\n' :: rest = '0' :: mark :: more) :
      mark = '\n' := by
    obtain ⟨c, cs, rfl, -⟩ := numeral.exists_cons
    obtain ⟨rfl, same⟩ := List.cons.inj equal
    rw [numeral.head cs rfl] at same
    exact (List.cons.inj same).1.symm
  unfold Scalar.integer
  split
  next equal => exact absurd (second equal) (by decide)
  next equal => exact absurd (second equal) (by decide)
  next equal => exact absurd (second equal) (by decide)
  next =>
    have range : ¬ ((Scalar.value 10 ds : Nat) : Int) < -0x8000000000000000 ∧
        ¬ 0x8000000000000000 ≤ ((Scalar.value 10 ds : Nat) : Int) := by
      rw [Printer.maxInteger] at small
      omega
    rw [signedWhole_append numeral]
    simp [bind, Except.bind, Scalar.inRange, range.1, range.2]

/-- Of all scalars, digits at the end of a line are an integer. -/
theorem scalar_append (numeral : Numeral ds) (small : Scalar.value 10 ds ≤ Printer.maxInteger)
    (rest : List Char) :
    Scalar.scalar (ds ++ '\n' :: rest) = .ok (.integer (Scalar.value 10 ds), '\n' :: rest) := by
  have moment := open_moment numeral.decimal rest
  have double := open_double numeral rest
  have integer := integer_append numeral small rest
  obtain ⟨c, cs, rfl, first⟩ := numeral.exists_cons
  have noQuote : ¬ (c = '"' ∨ c = '\'') :=
    not_or.mpr ⟨ne_of_test first rfl, ne_of_test first rfl⟩
  rw [List.cons_append] at moment double integer ⊢
  rw [Scalar.scalar, if_neg noQuote, if_neg (ne_of_test first rfl), if_neg (ne_of_test first rfl),
    if_pos (.inr (.inr first)), moment.orElse_eq, double.orElse_eq, integer]

end ContentNode.Toml
