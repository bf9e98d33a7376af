import ContentNode.Proofs.Toml.Escapes

/-!
# Reading strings back

A string is read back from its text, in whichever style it was written.  Where it goes over
several lines, the quotes at its end stand next to those that close it, and both are read
together.
-/

namespace ContentNode.Toml

variable {c quote : Char} {s out rest : List Char} {read : String}

theorem push_append_ofList (read : String) (c : Char) (s : List Char) :
    read.push c ++ String.ofList s = read ++ String.ofList (c :: s) := by
  rw [← String.toList_inj]
  simp

theorem append_ofList_nil (read : String) : read ++ String.ofList [] = read := by
  rw [← String.toList_inj]
  simp

/-! ### One line -/

theorem basic_skip (skipped rest : List Char) (read : String) :
    Scalar.basic skipped.length read (skipped ++ rest) = Scalar.basic 0 read rest := by
  induction skipped with
  | nil => rfl
  | cons c skipped ih => exact ih

theorem basic_written (written : Written false c out) (read : String) (rest : List Char) :
    Scalar.basic 0 read (out ++ rest) = Scalar.basic 0 (read.push c) rest := by
  cases written with
  | plain noQuote noEscape visible =>
    rw [List.cons_append, Scalar.basic]
    simp [noQuote, noEscape, visible]
  | lineBreak several isBreak => contradiction
  | @escaped e escapes =>
    rw [List.cons_append, Scalar.basic]
    simp only [reduceCtorEq, escapes.append_ne_nil, escapes.reads]
    exact basic_skip e rest _

/-- What was written between double quotes on one line is read up to the closing quote. -/
theorem basic_escapeAll (s : List Char) (run : Nat) (read : String) (rest : List Char) :
    Scalar.basic 0 read (Printer.escapeAll false run s ++ '"' :: rest) =
      .ok (read ++ String.ofList s, rest) := by
  induction s generalizing run read with
  | nil =>
    rw [Printer.escapeAll, append_ofList_nil]
    rfl
  | cons c s ih =>
    rw [← push_append_ofList, Printer.escapeAll]
    split
    next isQuote =>
      have closing : Printer.quotesAllowed false < run + 1 := Nat.succ_pos run
      rw [isQuote, if_pos closing, List.append_assoc, basic_written (written_quote false), ih]
    next noQuote =>
      rw [List.append_assoc, basic_written (written_escape false noQuote), ih]

theorem literal_append (visible : ∀ c ∈ s, Printer.isControl c = false) (noQuote : '\'' ∉ s)
    (noBreak : '\n' ∉ s) (read : String) (rest : List Char) :
    Scalar.literal read (s ++ '\'' :: rest) = .ok (read ++ String.ofList s, rest) := by
  induction s generalizing read with
  | nil =>
    rw [append_ofList_nil]
    rfl
  | cons c s ih =>
    rw [List.mem_cons, not_or] at noQuote noBreak
    have comment : Scalar.isCommentChar c = true :=
      isCommentChar_of_not_isControl (visible c List.mem_cons_self) (Ne.symm noBreak.1)
    rw [List.cons_append, Scalar.literal, if_neg (Ne.symm noQuote.1), if_pos comment,
      ih (fun d member => visible d (List.mem_cons_of_mem c member)) noQuote.2 noBreak.2,
      push_append_ofList]

/-! ### Quotes within several lines -/

/-- A text that begins with something other than a quote, perhaps after one quote. -/
def FewQuotes (quote : Char) (s : List Char) : Prop :=
  ∃ c more, c ≠ quote ∧ (s = c :: more ∨ s = quote :: c :: more)

theorem startsWithTwo_of_ne (other : c ≠ quote) (rest : List Char) :
    Scalar.startsWithTwo quote (c :: rest) = false := by
  cases rest with
  | nil => rfl
  | cons d rest => simp [Scalar.startsWithTwo, other]

theorem startsWithTwo_cons (follows : rest.head? ≠ some quote) :
    Scalar.startsWithTwo quote (quote :: rest) = false := by
  cases rest with
  | nil => rfl
  | cons c rest =>
    have other : c ≠ quote := fun same => follows (congrArg some same)
    simp [Scalar.startsWithTwo, other]

/-- One more quote in front of such a text does not close a string. -/
theorem FewQuotes.not_startsWithTwo (few : FewQuotes quote s) (rest : List Char) :
    Scalar.startsWithTwo quote (s ++ rest) = false := by
  obtain ⟨c, more, other, rfl | rfl⟩ := few
  · exact startsWithTwo_of_ne other (more ++ rest)
  · exact startsWithTwo_cons fun same => other (Option.some.inj same)

/-- What follows its quotes. -/
theorem FewQuotes.afterQuotes (few : FewQuotes quote s) (rest : List Char) :
    ∃ c ∈ s, c ≠ quote ∧ ∃ more, Scalar.afterQuotes quote (s ++ rest) = c :: more := by
  obtain ⟨c, more, other, rfl | rfl⟩ := few
  · exact ⟨c, List.mem_cons_self, other, more ++ rest, by simp [Scalar.afterQuotes, other]⟩
  · exact ⟨c, by simp, other, more ++ rest, by simp [Scalar.afterQuotes, other]⟩

/-- The quotes at the end of a string and those that close it. -/
theorem closeQuotes_replicate {k : Nat} (few : k ≤ 2) (follows : rest.head? ≠ some quote)
    (read : String) :
    Scalar.closeQuotes quote read (List.replicate k quote ++ quote :: quote :: rest) =
      (read ++ String.ofList (List.replicate k quote), rest) := by
  obtain rfl | rfl | rfl : k = 0 ∨ k = 1 ∨ k = 2 := by omega
  · rw [List.replicate_zero, append_ofList_nil, List.nil_append]
    cases rest with
    | nil => rfl
    | cons c rest =>
      have other : c ≠ quote := fun same => follows (congrArg some same)
      simp [Scalar.closeQuotes, other]
  · rw [List.replicate_one, ← push_append_ofList, append_ofList_nil]
    cases rest with
    | nil => simp [Scalar.closeQuotes]
    | cons c rest =>
      have other : c ≠ quote := fun same => follows (congrArg some same)
      simp [Scalar.closeQuotes, other]
  · rw [List.replicate_succ, List.replicate_one, ← push_append_ofList, ← push_append_ofList,
      append_ofList_nil]
    simp [Scalar.closeQuotes]

theorem replicate_append_cons (quote : Char) (k : Nat) (rest : List Char) :
    List.replicate k quote ++ quote :: rest = quote :: (List.replicate k quote ++ rest) := by
  rw [← List.singleton_append, ← List.append_assoc, ← List.replicate_succ', List.replicate_succ,
    List.cons_append]

theorem startsWithTwo_replicate (quote : Char) (k : Nat) (rest : List Char) :
    Scalar.startsWithTwo quote (List.replicate k quote ++ quote :: quote :: rest) = true := by
  match k with
  | 0 | 1 | k + 2 => simp [Scalar.startsWithTwo, List.replicate_succ]

/-! ### Several lines with escapes -/

theorem basicLines_skip (skipped rest : List Char) (read : String) :
    Scalar.basicLines false skipped.length read (skipped ++ rest) =
      Scalar.basicLines false 0 read rest := by
  induction skipped with
  | nil => rfl
  | cons c skipped ih => exact ih

theorem basicLines_written (written : Written true c out) (read : String) (rest : List Char) :
    Scalar.basicLines false 0 read (out ++ rest) =
      Scalar.basicLines false 0 (read.push c) rest := by
  cases written with
  | plain noQuote noEscape visible =>
    obtain ⟨noBreak, noReturn⟩ := ne_break_of_isCommentChar visible
    rw [List.cons_append, Scalar.basicLines]
    simp [noQuote, noEscape, noBreak, noReturn, visible]
  | lineBreak several isBreak =>
    rw [isBreak, List.cons_append, Scalar.basicLines]
    simp
  | @escaped e escapes =>
    rw [List.cons_append, Scalar.basicLines]
    simp only [reduceCtorEq, escapes.append_ne_nil, escapes.not_joinsLines, escapes.reads]
    exact basicLines_skip e rest _

/-- The quotes at the end of a string are read together with those that close it. -/
theorem basicLines_close {k : Nat} (few : k ≤ 2) (follows : rest.head? ≠ some '"')
    (read : String) :
    Scalar.basicLines false 0 read (List.replicate k '"' ++ '"' :: '"' :: '"' :: rest) =
      .ok (read ++ String.ofList (List.replicate k '"'), rest) := by
  rw [replicate_append_cons, Scalar.basicLines]
  simp [startsWithTwo_replicate, closeQuotes_replicate few follows]

/-- Other quotes are read one by one. -/
theorem basicLines_quote (few : FewQuotes '"' s) (read : String) (rest : List Char) :
    Scalar.basicLines false 0 read ('"' :: (s ++ rest)) =
      Scalar.basicLines false 0 (read.push '"') (s ++ rest) := by
  obtain ⟨c, -, -, more, after⟩ := few.afterQuotes rest
  rw [Scalar.basicLines]
  simp [few.not_startsWithTwo, after]

/-- After a quote, either only few more quotes are left, or they are soon interrupted. -/
theorem escapeAll_quotes {run : Nat} (after : 0 < run) (few : run ≤ 2) (s : List Char) :
    (∃ k, k + run ≤ 2 ∧ s = List.replicate k '"' ∧
      Printer.escapeAll true run s = List.replicate k '"') ∨
      FewQuotes '"' (Printer.escapeAll true run s) := by
  cases s with
  | nil => exact .inl ⟨0, by omega, rfl, rfl⟩
  | cons c s =>
    by_cases closed : c = '"' → 2 ≤ run
    · obtain ⟨d, more, same, other, -⟩ := escapeAll_head true run c s
      exact .inr ⟨d, more, other closed, .inl same⟩
    · rw [Classical.not_imp] at closed
      obtain ⟨rfl, one⟩ := closed
      have allowed : ¬ Printer.quotesAllowed true < run + 1 := by
        change ¬ 2 < run + 1
        omega
      rw [Printer.escapeAll, if_pos rfl, if_neg allowed]
      cases s with
      | nil => exact .inl ⟨1, by omega, rfl, rfl⟩
      | cons d s =>
        obtain ⟨f, more, same, other, -⟩ := escapeAll_head true (run + 1) d s
        have closed : d = '"' → 2 ≤ run + 1 := fun _ => by omega
        exact .inr ⟨f, more, other closed, .inr (congrArg _ same)⟩

theorem basicLines_escapeAll {run : Nat} (few : run ≤ 2) (follows : rest.head? ≠ some '"')
    (s : List Char) (read : String) :
    Scalar.basicLines false 0 read (Printer.escapeAll true run s ++ '"' :: '"' :: '"' :: rest) =
      .ok (read ++ String.ofList s, rest) := by
  induction s generalizing run read with
  | nil => exact basicLines_close (Nat.zero_le 2) follows read
  | cons c s ih =>
    rw [← push_append_ofList, Printer.escapeAll]
    split
    next isQuote =>
      subst isQuote
      split
      next many =>
        rw [List.append_assoc, basicLines_written (written_quote true), ih (Nat.zero_le 2)]
      next allowed =>
        have fewer : run + 1 ≤ 2 := Nat.not_lt.mp allowed
        -- A quote at the end of the string is read with those that close it, any other one
        -- by itself.
        rcases escapeAll_quotes (Nat.succ_pos run) fewer s with ⟨k, most, rfl, same⟩ | inner
        · rw [same, push_append_ofList, ← List.replicate_succ]
          exact basicLines_close (by omega) follows read
        · rw [List.cons_append, basicLines_quote inner, ih fewer]
    next noQuote =>
      rw [List.append_assoc, basicLines_written (written_escape true noQuote), ih (Nat.zero_le 2)]

/-! ### Several lines without escapes -/

theorem literalLines_close {k : Nat} (few : k ≤ 2) (follows : rest.head? ≠ some '\'')
    (read : String) :
    Scalar.literalLines read (List.replicate k '\'' ++ '\'' :: '\'' :: '\'' :: rest) =
      .ok (read ++ String.ofList (List.replicate k '\''), rest) := by
  rw [replicate_append_cons, Scalar.literalLines]
  simp [startsWithTwo_replicate, closeQuotes_replicate few follows]

theorem literalLines_quote (few : FewQuotes '\'' s)
    (visible : ∀ c ∈ s, Printer.isControl c = false) (read : String) (rest : List Char) :
    Scalar.literalLines read ('\'' :: (s ++ rest)) =
      Scalar.literalLines (read.push '\'') (s ++ rest) := by
  obtain ⟨c, member, -, more, after⟩ := few.afterQuotes rest
  have starts : Scalar.startsLiteral (Scalar.afterQuotes '\'' (s ++ rest)) = true := by
    rw [after, Scalar.startsLiteral, Bool.or_eq_true]
    by_cases isBreak : c = '\n'
    · rw [isBreak]
      exact .inr rfl
    · exact .inl (isCommentChar_of_not_isControl (visible c member) isBreak)
  rw [Scalar.literalLines]
  simp [few.not_startsWithTwo, starts]

theorem literalLines_cons (noQuote : c ≠ '\'') (visible : Printer.isControl c = false)
    (read : String) (rest : List Char) :
    Scalar.literalLines read (c :: rest) = Scalar.literalLines (read.push c) rest := by
  rw [Scalar.literalLines, if_neg noQuote]
  by_cases isBreak : c = '\n'
  · rw [isBreak, if_pos rfl]
  · have comment := isCommentChar_of_not_isControl visible isBreak
    have noReturn := (ne_break_of_isCommentChar comment).2
    simp [isBreak, noReturn, comment]

theorem le_longestRun (quote : Char) (run : Nat) (s : List Char) :
    run ≤ Printer.longestRun quote run s := by
  induction s generalizing run with
  | nil => exact Nat.le_refl run
  | cons c s ih =>
    rw [Printer.longestRun]
    split
    · exact Nat.le_of_succ_le (ih (run + 1))
    · exact Nat.le_max_left _ _

/-- After a quote, either only few more quotes are left, or they are soon interrupted. -/
theorem longestRun_quotes {run : Nat} (after : 0 < run)
    (few : Printer.longestRun quote run s ≤ 2) :
    (∃ k, k + run ≤ 2 ∧ s = List.replicate k quote) ∨ FewQuotes quote s := by
  match s with
  | [] => exact .inl ⟨0, by rwa [Nat.zero_add], rfl⟩
  | c :: s =>
    by_cases isQuote : c = quote
    · rw [isQuote, Printer.longestRun, if_pos rfl] at few
      rw [isQuote]
      match s with
      | [] => exact .inl ⟨1, by rwa [Nat.add_comm], rfl⟩
      | d :: s =>
        have other : d ≠ quote := by
          intro same
          rw [Printer.longestRun, if_pos same] at few
          have := le_longestRun quote (run + 1 + 1) s
          omega
        exact .inr ⟨d, s, other, .inr rfl⟩
    · exact .inr ⟨c, s, isQuote, .inl rfl⟩

theorem literalLines_append {run : Nat} (visible : ∀ c ∈ s, Printer.isControl c = false)
    (few : Printer.longestRun '\'' run s ≤ 2) (follows : rest.head? ≠ some '\'')
    (read : String) :
    Scalar.literalLines read (s ++ '\'' :: '\'' :: '\'' :: rest) =
      .ok (read ++ String.ofList s, rest) := by
  induction s generalizing run read with
  | nil => exact literalLines_close (Nat.zero_le 2) follows read
  | cons c s ih =>
    have others : ∀ d ∈ s, Printer.isControl d = false := fun d member =>
      visible d (List.mem_cons_of_mem c member)
    rw [Printer.longestRun] at few
    split at few
    next isQuote =>
      subst isQuote
      rcases longestRun_quotes (Nat.succ_pos run) few with ⟨k, most, rfl⟩ | inner
      · rw [← List.replicate_succ]
        exact literalLines_close (by omega) follows read
      · rw [List.cons_append, literalLines_quote inner others, ih others few, push_append_ofList]
    next noQuote =>
      rw [List.cons_append, literalLines_cons noQuote (visible c List.mem_cons_self),
        ih others (Nat.le_trans (Nat.le_max_right run _) few), push_append_ofList]

/-! ### Styles -/

theorem not_mem_of_longestRun {run : Nat} (absent : Printer.longestRun quote run s = 0) :
    quote ∉ s := by
  induction s generalizing run with
  | nil => exact List.not_mem_nil
  | cons c s ih =>
    rw [Printer.longestRun] at absent
    split at absent
    next =>
      have := le_longestRun quote (run + 1) s
      omega
    next other =>
      rw [List.mem_cons, not_or]
      exact ⟨Ne.symm other, ih (Nat.max_eq_zero_iff.mp absent).2⟩

theorem any_isControl_eq_false_iff :
    (!s.any Printer.isControl) = true ↔ ∀ c ∈ s, Printer.isControl c = false := by
  simp

/-- What a style without escapes asks of a string. -/
def Fits : Printer.Style → List Char → Prop
  | .literal, s => (∀ c ∈ s, Printer.isControl c = false) ∧ '\'' ∉ s ∧ '\n' ∉ s
  | .literalLines, s =>
    (∀ c ∈ s, Printer.isControl c = false) ∧ Printer.longestRun '\'' 0 s ≤ 2
  | .basic, _ | .basicLines, _ => True

/-- A string is written in a style that it fits. -/
theorem fits_style (s : List Char) : Fits (Printer.Style.of s) s := by
  unfold Printer.Style.of
  dsimp only
  split
  · trivial
  split
  next literal =>
    simp only [Bool.and_eq_true, any_isControl_eq_false_iff, beq_iff_eq] at literal
    obtain ⟨⟨visible, noQuote⟩, noBreak⟩ := literal
    exact ⟨visible, not_mem_of_longestRun noQuote, by simpa using noBreak⟩
  split
  · trivial
  split
  next literal =>
    simp only [Bool.and_eq_true, any_isControl_eq_false_iff, decide_eq_true_eq] at literal
    exact literal
  split <;> trivial

theorem string_basic (single : Scalar.startsWithTwo '"' s = false) :
    Scalar.string ('"' :: s) = Scalar.basic 0 "" s := by
  unfold Scalar.string
  split
  next equal =>
    obtain rfl := (List.cons.inj equal).2
    contradiction
  next equal => rw [(List.cons.inj equal).2]
  next equal => exact absurd (List.cons.inj equal).1 (by decide)
  next equal => exact absurd (List.cons.inj equal).1 (by decide)
  next _ other _ _ => exact (other s rfl).elim

theorem string_literal (single : Scalar.startsWithTwo '\'' s = false) :
    Scalar.string ('\'' :: s) = Scalar.literal "" s := by
  unfold Scalar.string
  split
  next equal => exact absurd (List.cons.inj equal).1 (by decide)
  next equal => exact absurd (List.cons.inj equal).1 (by decide)
  next equal =>
    obtain rfl := (List.cons.inj equal).2
    contradiction
  next equal => rw [(List.cons.inj equal).2]
  next other => exact (other s rfl).elim

/-- The line break after opening quotes is passed over, and no other one is taken for it. -/
theorem skipLineBreak_of_ne (noBreak : c ≠ '\n') (noReturn : c ≠ '\r') (s : List Char) :
    Scalar.skipLineBreak (c :: s) = c :: s := by
  unfold Scalar.skipLineBreak Scalar.lineBreak?
  split <;> simp_all

/-- What is written over several lines begins with a line break only if the string does. -/
theorem head_body {style : Printer.Style} (several : style.hasLines = true) (fits : Fits style s)
    (noBreak : '\n' ∉ s) (rest : List Char) :
    ∃ d more, style.body s ++ style.quotes ++ rest = d :: more ∧ d ≠ '\n' ∧ d ≠ '\r' := by
  cases s with
  | nil =>
    cases style with
    | basic | literal => contradiction
    | basicLines => exact ⟨'"', _, rfl, by decide, by decide⟩
    | literalLines => exact ⟨'\'', _, rfl, by decide, by decide⟩
  | cons c s =>
    rw [List.mem_cons, not_or] at noBreak
    cases style with
    | basic | literal => contradiction
    | basicLines =>
      obtain ⟨d, more, same, -, noReturn, head⟩ := escapeAll_head true 0 c s
      rw [Printer.Style.body, same]
      exact ⟨d, _, rfl, head (Ne.symm noBreak.1), noReturn⟩
    | literalLines =>
      have visible := fits.1 c List.mem_cons_self
      have comment := isCommentChar_of_not_isControl visible (Ne.symm noBreak.1)
      exact ⟨c, _, rfl, ne_break_of_isCommentChar comment⟩

/-- The line break that precedes a string with line breaks is passed over. -/
theorem skipLineBreak_body {style : Printer.Style} (several : style.hasLines = true)
    (fits : Fits style s) (rest : List Char) :
    Scalar.skipLineBreak ((if style.hasLines && s.contains '\n' then ['\n'] else []) ++
        (style.body s ++ style.quotes ++ rest)) = style.body s ++ style.quotes ++ rest := by
  split
  · rfl
  next single =>
    have noBreak : '\n' ∉ s := by simpa [several] using single
    obtain ⟨d, more, same, head⟩ := head_body several fits noBreak rest
    rw [List.nil_append, same, skipLineBreak_of_ne head.1 head.2]

/-- A string in a style, before what follows it. -/
def inStyle (style : Printer.Style) (s rest : List Char) : List Char :=
  style.quotes ++ ((if style.hasLines && s.contains '\n' then ['\n'] else []) ++
    (style.body s ++ style.quotes ++ rest))

theorem string_append (s rest : List Char) :
    Printer.string s ++ rest = inStyle (Printer.Style.of s) s rest := by
  simp only [Printer.string, inStyle, List.append_assoc]

theorem read_basic (s : List Char) (double : rest.head? ≠ some '"') :
    Scalar.string (inStyle .basic s rest) = .ok (String.ofList s, rest) := by
  have closing : Scalar.startsWithTwo '"' (Printer.escapeAll false 0 s ++ '"' :: rest) =
      false := by
    cases s with
    | nil => exact startsWithTwo_cons double
    | cons c s =>
      obtain ⟨d, more, same, other, -⟩ := escapeAll_head false 0 c s
      rw [same]
      exact startsWithTwo_of_ne (other fun _ => Nat.le_refl 0) _
  change Scalar.string ('"' :: (Printer.escapeAll false 0 s ++ ['"'] ++ rest)) = _
  rw [List.append_assoc, List.singleton_append, string_basic closing, basic_escapeAll,
    String.empty_append]

theorem read_literal (fits : Fits .literal s) (single : rest.head? ≠ some '\'') :
    Scalar.string (inStyle .literal s rest) = .ok (String.ofList s, rest) := by
  obtain ⟨visible, noQuote, noBreak⟩ := fits
  have closing : Scalar.startsWithTwo '\'' (s ++ '\'' :: rest) = false := by
    cases s with
    | nil => exact startsWithTwo_cons single
    | cons c s => exact startsWithTwo_of_ne (by rintro rfl; exact noQuote List.mem_cons_self) _
  change Scalar.string ('\'' :: (s ++ ['\''] ++ rest)) = _
  rw [List.append_assoc, List.singleton_append, string_literal closing,
    literal_append visible noQuote noBreak, String.empty_append]

theorem read_basicLines (s : List Char) (double : rest.head? ≠ some '"') :
    Scalar.string (inStyle .basicLines s rest) = .ok (String.ofList s, rest) := by
  have fits : Fits .basicLines s := trivial
  change Scalar.basicLines false 0 "" (Scalar.skipLineBreak (_ ++ (_ ++ _ ++ _))) = _
  rw [skipLineBreak_body rfl fits, List.append_assoc, ← String.empty_append (s := .ofList s)]
  exact basicLines_escapeAll (Nat.zero_le 2) double s ""

theorem read_literalLines (fits : Fits .literalLines s) (single : rest.head? ≠ some '\'') :
    Scalar.string (inStyle .literalLines s rest) = .ok (String.ofList s, rest) := by
  change Scalar.literalLines "" (Scalar.skipLineBreak (_ ++ (_ ++ _ ++ _))) = _
  rw [skipLineBreak_body rfl fits, List.append_assoc, ← String.empty_append (s := .ofList s)]
  exact literalLines_append fits.1 fits.2 single ""

/-- A string is read back from its text, whatever stands after it but another quote. -/
theorem string_string (s : List Char) (double : rest.head? ≠ some '"')
    (single : rest.head? ≠ some '\'') :
    Scalar.string (Printer.string s ++ rest) = .ok (String.ofList s, rest) := by
  have fits := fits_style s
  rw [string_append]
  cases style : Printer.Style.of s with
  | basic => exact read_basic s double
  | literal =>
    rw [style] at fits
    exact read_literal fits single
  | basicLines => exact read_basicLines s double
  | literalLines =>
    rw [style] at fits
    exact read_literalLines fits single

end ContentNode.Toml
