/-!
# Programs over operations

A program asks for operations one after another and goes on with their answers.
What an operation does is left to whoever runs the program: a store of some
kind, a file system that fails, or a schedule that lets other programs act in
between.
-/

namespace ContentNode

/-- A program that performs operations of type `Op`, each answered by a value of
its answer type, and ends with a value. -/
inductive Program (Op : Type) (Answer : Op → Type) (α : Type) where
  /-- The program has ended. -/
  | done (value : α)
  /-- The program performs an operation and goes on with the answer. -/
  | step (op : Op) (next : Answer op → Program Op Answer α)

namespace Program

variable {Op : Type} {Answer : Op → Type} {α β : Type}

/-- Runs a program and then the one that its value asks for. -/
def bind (p : Program Op Answer α) (f : α → Program Op Answer β) : Program Op Answer β :=
  match p with
  | done value => f value
  | step op next => step op fun answer => bind (next answer) f

/-- Performs one operation. -/
def perform (op : Op) : Program Op Answer (Answer op) := step op done

instance : Monad (Program Op Answer) where
  pure := done
  bind := bind

/-- Runs a program on a state, where `handle` performs its operations. -/
def run {σ : Type} (handle : (op : Op) → σ → Answer op × σ) : Program Op Answer α → σ → α × σ
  | done value, s => (value, s)
  | step op next, s =>
    let (answer, s) := handle op s
    run handle (next answer) s

@[simp]
theorem bind_done (value : α) (f : α → Program Op Answer β) : bind (done value) f = f value := rfl

@[simp]
theorem bind_step (op : Op) (next : Answer op → Program Op Answer α)
    (f : α → Program Op Answer β) :
    bind (step op next) f = step op fun answer => bind (next answer) f := rfl

/-- Programs with the same first operation agree if they agree on all its answers. -/
theorem step_congr {op : Op} {next next' : Answer op → Program Op Answer α}
    (same : ∀ answer, next answer = next' answer) : step op next = step op next' :=
  congrArg (step op) (funext same)

/-- Programs with the same beginning agree if they agree on all its values. -/
theorem bind_congr {p : Program Op Answer α} {f g : α → Program Op Answer β}
    (same : ∀ value, f value = g value) : p.bind f = p.bind g :=
  congrArg p.bind (funext same)

theorem pure_eq_done (value : α) : (pure value : Program Op Answer α) = done value := rfl

theorem bind_eq (p : Program Op Answer α) (f : α → Program Op Answer β) :
    p >>= f = p.bind f := rfl

@[simp]
theorem run_done {σ : Type} (handle : (op : Op) → σ → Answer op × σ) (value : α) (s : σ) :
    run handle (done value) s = (value, s) := rfl

@[simp]
theorem run_step {σ : Type} (handle : (op : Op) → σ → Answer op × σ) (op : Op)
    (next : Answer op → Program Op Answer α) (s : σ) :
    run handle (step op next) s = run handle (next (handle op s).1) (handle op s).2 := rfl

/-- It does not matter how programs that follow each other are grouped. -/
theorem bind_assoc {γ : Type} (p : Program Op Answer α) (f : α → Program Op Answer β)
    (g : β → Program Op Answer γ) : (p.bind f).bind g = p.bind fun value => (f value).bind g := by
  induction p with
  | done value => rfl
  | step op next ih => exact step_congr ih

/-- Running one program after another passes the state on. -/
theorem run_bind {σ : Type} (handle : (op : Op) → σ → Answer op × σ)
    (p : Program Op Answer α) (f : α → Program Op Answer β) (s : σ) :
    run handle (p.bind f) s = run handle (f (run handle p s).1) (run handle p s).2 := by
  induction p generalizing s with
  | done value => rfl
  | step op next ih => exact ih _ _

/-- What every operation keeps, a program keeps. -/
theorem run_keeps {σ : Type} {handle : (op : Op) → σ → Answer op × σ} {s : σ}
    (p : Program Op Answer α) (holds : σ → Prop)
    (kept : ∀ op s, holds s → holds (handle op s).2) (start : holds s) :
    holds (run handle p s).2 := by
  induction p generalizing s with
  | done value => exact start
  | step op next ih => exact ih _ (kept op s start)

end Program

end ContentNode
