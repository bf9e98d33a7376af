import ContentNode.Program

/-!
# What programs end with

A property of every value that a program can end with holds of the value of each of its runs,
whatever performs its operations.  That may leave an operation without an answer; then the
program does not end.
-/

namespace ContentNode.Program

variable {Op : Type} {Answer : Op → Type} {α β σ ι : Type} {ending : α → Prop}
  {program : Program Op Answer α}

/-- Every value that a program can end with has a property, whatever the answers are. -/
inductive Ends (ending : α → Prop) : Program Op Answer α → Prop
  | done {value : α} (holds : ending value) : Ends ending (.done value)
  | step {op : Op} {next : Answer op → Program Op Answer α}
      (further : ∀ answer, Ends ending (next answer)) : Ends ending (.step op next)

/-- Runs a program where operations may be left without an answer. -/
def attempt (handle : (op : Op) → σ → Except ι (Answer op) × σ) :
    Program Op Answer α → σ → Except ι α × σ
  | done value, s => (.ok value, s)
  | step op next, s =>
    match handle op s with
    | (.ok answer, s) => attempt handle (next answer) s
    | (.error interruption, s) => (.error interruption, s)

namespace Ends

/-- A program ends with some value. -/
theorem any (program : Program Op Answer α) : Ends (fun _ => True) program := by
  induction program with
  | done value => exact .done trivial
  | step op next ih => exact .step ih

/-- What a program ends with decides what it ends with after another one. -/
theorem bind {next : α → Program Op Answer β} {later : β → Prop} (ends : Ends ending program)
    (further : ∀ value, ending value → Ends later (next value)) :
    Ends later (program.bind next) := by
  induction ends with
  | done holds => exact further _ holds
  | step _ ih => exact .step ih

/-- The value of a run has the property. -/
theorem run (ends : Ends ending program) (handle : (op : Op) → σ → Answer op × σ) (s : σ) :
    ending (program.run handle s).1 := by
  induction ends generalizing s with
  | done holds => exact holds
  | step _ ih => exact ih _ _

/-- So has the value of a run in which no operation was left without an answer. -/
theorem attempt (ends : Ends ending program) {handle : (op : Op) → σ → Except ι (Answer op) × σ}
    {s : σ} {value : α} (ended : (program.attempt handle s).1 = .ok value) : ending value := by
  induction ends generalizing s with
  | done holds =>
      cases ended
      exact holds
  | @step op next _ ih =>
      rw [Program.attempt] at ended
      split at ended
      · exact ih _ ended
      · cases ended

end Ends

end ContentNode.Program
