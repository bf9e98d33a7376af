import ContentNode.Program

/-!
# Runs whose operations may fail

Runs of programs whose operations have more than one possible outcome, as operations on
a machine that can fail have.  A run tells what was performed and what the answers were.
-/

namespace ContentNode.Program

variable {Op : Type} {Answer : Op → Type} {α β σ : Type}

/-- A program runs from one state to another one, performs operations with these answers
and ends with a value. -/
inductive Runs (performs : (op : Op) → σ → Answer op → σ → Prop) :
    Program Op Answer α → σ → List ((op : Op) × Answer op) → α → σ → Prop
  | done (value : α) (s : σ) : Runs performs (.done value) s [] value s
  | step {op : Op} {next : Answer op → Program Op Answer α} {s t u : σ} {answer : Answer op}
      {events : List ((op : Op) × Answer op)} {value : α} (performed : performs op s answer t)
      (further : Runs performs (next answer) t events value u) :
      Runs performs (.step op next) s (⟨op, answer⟩ :: events) value u

variable {performs : (op : Op) → σ → Answer op → σ → Prop} {s u : σ}
  {events : List ((op : Op) × Answer op)}

/-- A run of two programs is a run of the first one and then one of the second one. -/
theorem Runs.of_bind {program : Program Op Answer α} {next : α → Program Op Answer β} {value : β}
    (runs : Runs performs (program.bind next) s events value u) :
    ∃ first middle t rest, events = first ++ rest ∧ Runs performs program s first middle t ∧
      Runs performs (next middle) t rest value u := by
  induction program generalizing s events with
  | done middle => exact ⟨[], middle, s, events, rfl, .done middle s, runs⟩
  | step op rest ih =>
      cases runs with
      | step performed further =>
          obtain ⟨first, middle, t, left, rfl, ran, after⟩ := ih _ further
          exact ⟨_ :: first, middle, t, left, rfl, .step performed ran, after⟩

/-- If every operation can do what a handler does, programs can run as they do there. -/
theorem exists_runs {handle : (op : Op) → σ → Answer op × σ}
    (performing : ∀ op s, performs op s (handle op s).1 (handle op s).2)
    (program : Program Op Answer α) (s : σ) :
    ∃ events, Runs performs program s events (program.run handle s).1 (program.run handle s).2 := by
  induction program generalizing s with
  | done value => exact ⟨[], .done value s⟩
  | step op next ih =>
      obtain ⟨events, ran⟩ := ih (handle op s).1 (handle op s).2
      exact ⟨_, .step (performing op s) ran⟩

end ContentNode.Program
