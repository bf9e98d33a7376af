import ContentNode.Proofs.Program.Meets

/-!
# Pools of calls

Any number of calls on one shared state.  A call runs a program; its operations are
performed one at a time, in any order with those of the other calls, and a call need
not ever go on.  Calls can begin at any time.
-/

namespace ContentNode

variable {Op : Type} {Answer : Op → Type} {κ : Type} {Result : κ → Type} {σ ρ : Type}

namespace Program

variable {α : Type} (handle : (op : Op) → σ → Answer op × σ)

/-- What is left of a program after some of its operations, and the state then. -/
def advance : Nat → Program Op Answer α → σ → Program Op Answer α × σ
  | 0, program, s => (program, s)
  | _ + 1, .done value, s => (.done value, s)
  | count + 1, .step op next, s => advance count (next (handle op s).1) (handle op s).2

/-- After enough operations a program has ended as its run does. -/
theorem exists_advance_eq (program : Program Op Answer α) (s : σ) :
    ∃ count, advance handle count program s =
      (.done (program.run handle s).1, (program.run handle s).2) := by
  induction program generalizing s with
  | done value => exact ⟨0, rfl⟩
  | step op next ih =>
      obtain ⟨count, ended⟩ := ih (handle op s).1 (handle op s).2
      exact ⟨count + 1, ended⟩

end Program

/-- A call: what was asked for and what is left of its program. -/
structure Call (Op : Type) (Answer : Op → Type) {κ : Type} (Result : κ → Type) where
  asked : κ
  left : Program Op Answer (Result asked)

/-- A shared state and the calls on it, the first one first. -/
structure Pool (Op : Type) (Answer : Op → Type) {κ : Type} (Result : κ → Type) (σ : Type) where
  shared : σ
  calls : List (Call Op Answer Result)

namespace Pool

/-- One step of a pool: a call begins, or the next operation of a call is performed. -/
inductive Step (program : (asked : κ) → Program Op Answer (Result asked))
    (performs : Nat → (op : Op) → σ → Answer op → σ → Prop) :
    Pool Op Answer Result σ → Pool Op Answer Result σ → Prop
  | begin (s : σ) (calls : List (Call Op Answer Result)) (asked : κ) :
      Step program performs ⟨s, calls⟩ ⟨s, calls ++ [⟨asked, program asked⟩]⟩
  | act {s t : σ} {calls : List (Call Op Answer Result)} {caller : Nat} {asked : κ} {op : Op}
      {next : Answer op → Program Op Answer (Result asked)} {answer : Answer op}
      (turn : calls[caller]? = some ⟨asked, .step op next⟩)
      (performed : performs caller op s answer t) :
      Step program performs ⟨s, calls⟩ ⟨t, calls.set caller ⟨asked, next answer⟩⟩

/-- Any number of steps. -/
inductive Steps (program : (asked : κ) → Program Op Answer (Result asked))
    (performs : Nat → (op : Op) → σ → Answer op → σ → Prop) (start : Pool Op Answer Result σ) :
    Pool Op Answer Result σ → Prop
  | refl : Steps program performs start start
  | next {pool later : Pool Op Answer Result σ} (before : Steps program performs start pool)
      (step : Step program performs pool later) : Steps program performs start later

variable {program : (asked : κ) → Program Op Answer (Result asked)}
  {performs : Nat → (op : Op) → σ → Answer op → σ → Prop}
  {start pool later : Pool Op Answer Result σ}

theorem Steps.trans {last : Pool Op Answer Result σ} (first : Steps program performs start pool)
    (second : Steps program performs pool last) : Steps program performs start last := by
  induction second with
  | refl => exact first
  | next _ step ih => exact .next ih step

/-- No call goes away. -/
theorem Steps.length_le (steps : Steps program performs start pool) :
    start.calls.length ≤ pool.calls.length := by
  induction steps with
  | refl => exact Nat.le_refl _
  | next _ step ih =>
      cases step with
      | begin s calls asked =>
          rw [List.length_append]
          exact Nat.le_add_right_of_le ih
      | act turn performed =>
          rw [List.length_set]
          exact ih

/-- A call can go on for some operations without anyone acting in between. -/
theorem Steps.advance {handle : (op : Op) → σ → Answer op × σ} {caller : Nat}
    (performing : ∀ op s, performs caller op s (handle op s).1 (handle op s).2) (count : Nat)
    {s : σ} {calls : List (Call Op Answer Result)} {asked : κ}
    {left : Program Op Answer (Result asked)} (turn : calls[caller]? = some ⟨asked, left⟩) :
    Steps program performs ⟨s, calls⟩
      ⟨(left.advance handle count s).2,
        calls.set caller ⟨asked, (left.advance handle count s).1⟩⟩ := by
  have same {calls : List (Call Op Answer Result)} {call : Call Op Answer Result}
      (turn : calls[caller]? = some call) : calls.set caller call = calls := by
    obtain ⟨within, there⟩ := List.getElem?_eq_some_iff.mp turn
    rw [← there, List.set_getElem_self]
  induction count generalizing left s calls with
  | zero =>
      rw [Program.advance, same turn]
      exact .refl
  | succ count ih =>
      cases left with
      | done value =>
          rw [Program.advance, same turn]
          exact .refl
      | step op next =>
          have within := (List.getElem?_eq_some_iff.mp turn).1
          have answered : (calls.set caller ⟨asked, next (handle op s).1⟩)[caller]? =
            some ⟨asked, next (handle op s).1⟩ := List.getElem?_set_self within
          have further := ih (s := (handle op s).2) answered
          rw [List.set_set] at further
          exact (Steps.next .refl (.act turn (performing op s))).trans further

/-! ### Resources of callers -/

/-- The terms of all callers go together: what one guarantees the others can rely on,
and no two of them hold the same resource. -/
structure Concord (terms : Nat → κ → Terms Op Answer σ ρ) (valid : ρ → σ → Prop)
    (apart : ρ → ρ → Prop) : Prop where
  own : ∀ caller asked held s kept t, (terms caller asked).guarantee held s kept t →
    valid held s → valid kept t
  others : ∀ caller asked other asked' held kept found s t, caller ≠ other →
    (terms caller asked).guarantee held s kept t → apart held found → valid found s →
    (terms other asked').rely found s t ∧ apart kept found ∧ apart found kept ∧ valid found t

/-- In a pool an invariant holds, no two callers hold the same resource, and every
caller meets its postcondition. -/
structure Sound (terms : Nat → κ → Terms Op Answer σ ρ) (nothing : ρ) (valid : ρ → σ → Prop)
    (apart : ρ → ρ → Prop) (post : Nat → (asked : κ) → ρ → Result asked → σ → Prop)
    (inv : Pool Op Answer Result σ → Prop) (pool : Pool Op Answer Result σ) : Prop where
  kept : inv pool
  callers : ∃ held : Nat → ρ, (∀ caller other, caller ≠ other → apart (held caller) (held other)) ∧
    (∀ caller, valid (held caller) pool.shared) ∧
    (∀ caller, pool.calls.length ≤ caller → held caller = nothing) ∧
    ∀ caller call, pool.calls[caller]? = some call →
      Program.Meets (terms caller call.asked) (post caller call.asked) call.left (held caller)
        pool.shared

variable {terms : Nat → κ → Terms Op Answer σ ρ} {nothing : ρ} {valid : ρ → σ → Prop}
  {apart : ρ → ρ → Prop} {post : Nat → (asked : κ) → ρ → Result asked → σ → Prop}
  {inv : Pool Op Answer Result σ → Prop}

/-- A call that begins meets its postcondition from then on. -/
theorem Sound.begin {s : σ} {calls : List (Call Op Answer Result)} {asked : κ}
    (sound : Sound terms nothing valid apart post inv ⟨s, calls⟩)
    (kept : inv ⟨s, calls ++ [⟨asked, program asked⟩]⟩)
    (meets : Program.Meets (terms calls.length asked) (post calls.length asked) (program asked)
      nothing s) :
    Sound terms nothing valid apart post inv ⟨s, calls ++ [⟨asked, program asked⟩]⟩ := by
  obtain ⟨held, disjoint, valids, rest, meeting⟩ := sound.callers
  refine ⟨kept, held, disjoint, valids, ?_, ?_⟩
  · intro caller beyond
    apply rest
    simp only [List.length_append, List.length_singleton] at beyond
    exact Nat.le_of_succ_le beyond
  · intro caller call there
    by_cases before : caller < calls.length
    · rw [List.getElem?_append_left before] at there
      exact meeting caller call there
    · have last : caller = calls.length := by
        have within := (List.getElem?_eq_some_iff.mp there).1
        simp only [List.length_append, List.length_singleton] at within
        omega
      subst last
      rw [List.getElem?_concat_length] at there
      obtain rfl := Option.some.inj there
      rw [rest _ (Nat.le_refl _)]
      exact meets

/-- An operation of one caller leaves all the others on course. -/
theorem Sound.act (concord : Concord terms valid apart) {s t : σ}
    {calls : List (Call Op Answer Result)} {caller : Nat} {asked : κ} {op : Op}
    {next : Answer op → Program Op Answer (Result asked)} {answer : Answer op}
    (sound : Sound terms nothing valid apart post inv ⟨s, calls⟩)
    (turn : calls[caller]? = some ⟨asked, .step op next⟩)
    (performed : (terms caller asked).performs op s answer t)
    (kept : ∀ held after, (terms caller asked).guarantee held s after t →
      inv ⟨t, calls.set caller ⟨asked, next answer⟩⟩) :
    Sound terms nothing valid apart post inv ⟨t, calls.set caller ⟨asked, next answer⟩⟩ := by
  obtain ⟨held, disjoint, valids, rest, meeting⟩ := sound.callers
  have within := (List.getElem?_eq_some_iff.mp turn).1
  obtain ⟨after, guaranteed, further⟩ := (meeting caller _ turn).step_next performed
  -- The others stay on course by their rely; only the caller itself moves on in its program.
  have course (other : Nat) (different : caller ≠ other) (asked' : κ) :=
    concord.others caller asked other asked' (held caller) after (held other) s t different
      guaranteed (disjoint caller other different) (valids other)
  refine ⟨kept _ _ guaranteed, fun other => if other = caller then after else held other,
    ?_, ?_, ?_, ?_⟩
  · intro one two different
    by_cases first : one = caller
    · subst first
      simp only [if_true, if_neg (Ne.symm different)]
      exact (course two different asked).2.1
    · by_cases second : two = caller
      · subst second
        simp only [if_true, if_neg first]
        exact (course one (Ne.symm different) asked).2.2.1
      · simp only [if_neg first, if_neg second]
        exact disjoint one two different
  · intro other
    by_cases same : other = caller
    · subst same
      simp only [if_true]
      exact concord.own _ _ _ _ _ _ guaranteed (valids other)
    · simp only [if_neg same]
      exact (course other (Ne.symm same) asked).2.2.2
  · intro other beyond
    rw [List.length_set] at beyond
    have different : other ≠ caller := by
      rintro rfl
      exact absurd within (Nat.not_lt.mpr beyond)
    simp only [if_neg different]
    exact rest other beyond
  · intro other call there
    by_cases same : other = caller
    · subst same
      rw [List.getElem?_set_self within] at there
      obtain rfl := Option.some.inj there
      simp only [if_true]
      exact further
    · rw [List.getElem?_set_ne (Ne.symm same)] at there
      simp only [if_neg same]
      exact (meeting other call there).later (course other (Ne.symm same) call.asked).1

/-- All calls of a pool stay on course, whatever the order of their operations. -/
theorem Sound.steps (concord : Concord terms valid apart)
    (performing : ∀ caller asked, (terms caller asked).performs = performs caller)
    (begins : ∀ s calls asked, start.calls.length ≤ calls.length → inv ⟨s, calls⟩ →
      inv ⟨s, calls ++ [⟨asked, program asked⟩]⟩ ∧
        Program.Meets (terms calls.length asked) (post calls.length asked) (program asked) nothing
          s)
    (acts : ∀ s t calls caller asked op next (answer : Answer op) held kept,
      calls[caller]? = some ⟨asked, .step op next⟩ →
      (terms caller asked).guarantee held s kept t → inv ⟨s, calls⟩ →
      inv ⟨t, calls.set caller ⟨asked, next answer⟩⟩)
    (sound : Sound terms nothing valid apart post inv start)
    (steps : Steps program performs start pool) :
    Sound terms nothing valid apart post inv pool := by
  induction steps with
  | refl => exact sound
  | next before step ih =>
      cases step with
      | begin s calls asked =>
          obtain ⟨kept, meets⟩ := begins s calls asked before.length_le ih.kept
          exact ih.begin kept meets
      | act turn performed =>
          refine ih.act concord turn ?_ fun held after guaranteed =>
            acts _ _ _ _ _ _ _ _ held after turn guaranteed ih.kept
          rw [performing]
          exact performed

end Pool

end ContentNode
