import ContentNode.Program

/-!
# What programs ask for

A program that asks only for operations of some kind keeps what these operations keep, and it
gives the same value wherever they are answered the same.
-/

namespace ContentNode.Program

variable {Op : Type} {Answer : Op → Type} {α σ τ : Type} {allowed : Op → Prop}
  {program : Program Op Answer α} {handle : (op : Op) → σ → Answer op × σ}
  {handle' : (op : Op) → τ → Answer op × τ} {s : σ} {t : τ}

/-- Every operation that a program asks for has a property, whatever the answers are. -/
inductive Asks (allowed : Op → Prop) : Program Op Answer α → Prop
  | done (value : α) : Asks allowed (.done value)
  | step {op : Op} {next : Answer op → Program Op Answer α} (asked : allowed op)
      (further : ∀ answer, Asks allowed (next answer)) : Asks allowed (.step op next)

namespace Asks

/-- What every operation keeps, the program keeps. -/
theorem keeps (asks : Asks allowed program) (invariant : σ → Prop)
    (kept : ∀ op s, allowed op → invariant s → invariant (handle op s).2) (holds : invariant s) :
    invariant (program.run handle s).2 := by
  induction asks generalizing s with
  | done value => exact holds
  | step asked _ ih => exact ih _ (kept _ s asked holds)

/-- If every operation has the same answer in two places, the program gives the same value. -/
theorem run_eq (asks : Asks allowed program) (related : σ → τ → Prop)
    (alike : ∀ op s t, allowed op → related s t →
      (handle' op t).1 = (handle op s).1 ∧ related (handle op s).2 (handle' op t).2)
    (relation : related s t) : (program.run handle' t).1 = (program.run handle s).1 ∧
      related (program.run handle s).2 (program.run handle' t).2 := by
  induction asks generalizing s t with
  | done value => exact ⟨rfl, relation⟩
  | @step op next asked _ ih =>
      obtain ⟨answer, further⟩ := alike op s t asked relation
      rw [run_step, run_step, answer]
      exact ih _ further

end Asks

end ContentNode.Program
