import ContentNode.Program

/-!
# Programs among others

What a program can be held to while others act between its operations.  A program
holds a resource; it relies on what the others leave alone of it, and guarantees
something of each of its own operations.  It meets a postcondition if, whatever the
others do within these bounds, its operations stay within the guarantee and it ends
with a value for which the postcondition holds from then on.
-/

namespace ContentNode

/-- The terms on which a program acts: what its operations do and answer, what the
others may do while it holds a resource, and what it may do itself. -/
structure Terms (Op : Type) (Answer : Op → Type) (σ ρ : Type) where
  performs : (op : Op) → σ → Answer op → σ → Prop
  rely : ρ → σ → σ → Prop
  guarantee : ρ → σ → ρ → σ → Prop
  rely_refl : ∀ held s, rely held s s
  rely_trans : ∀ held s t u, rely held s t → rely held t u → rely held s u

namespace Program

variable {Op : Type} {Answer : Op → Type} {α β σ ρ : Type} {terms : Terms Op Answer σ ρ}
  {held : ρ} {s t : σ}

/-- A program that holds a resource in a state ends only with values for which the
postcondition holds from then on, and keeps to the guarantee until then. -/
def Meets (terms : Terms Op Answer σ ρ) (post : ρ → α → σ → Prop) :
    Program Op Answer α → ρ → σ → Prop
  | done value, held, s => ∀ t, terms.rely held s t → post held value t
  | step op next, held, s =>
    ∀ t, terms.rely held s t → ∀ answer u, terms.performs op t answer u →
      ∃ kept, terms.guarantee held t kept u ∧ Meets terms post (next answer) kept u

namespace Meets

variable {post weaker : ρ → α → σ → Prop} {program : Program Op Answer α}

/-- What the others do does not matter. -/
theorem later (meets : Meets terms post program held s) (others : terms.rely held s t) :
    Meets terms post program held t := by
  cases program with
  | done value =>
      intro u further
      exact meets u (terms.rely_trans _ _ _ _ others further)
  | step op next =>
      intro u further
      exact meets u (terms.rely_trans _ _ _ _ others further)

/-- A value that was given satisfies the postcondition at once. -/
theorem post_of_done {value : α} (meets : Meets terms post (done value) held s) :
    post held value s :=
  meets s (terms.rely_refl held s)

/-- The operation that comes next. -/
theorem step_next {op : Op} {next : Answer op → Program Op Answer α} {answer : Answer op}
    (meets : Meets terms post (step op next) held s) (performed : terms.performs op s answer t) :
    ∃ kept, terms.guarantee held s kept t ∧ Meets terms post (next answer) kept t :=
  meets s (terms.rely_refl held s) answer t performed

theorem mono (meets : Meets terms post program held s)
    (implies : ∀ held value s, post held value s → weaker held value s) :
    Meets terms weaker program held s := by
  induction program generalizing held s with
  | done value =>
      intro t others
      exact implies _ _ _ (meets t others)
  | step op next ih =>
      intro t others answer u performed
      obtain ⟨kept, guaranteed, further⟩ := meets t others answer u performed
      exact ⟨kept, guaranteed, ih answer further⟩

/-- One program after another. -/
theorem bind {post : ρ → β → σ → Prop} {next : α → Program Op Answer β}
    (meets : Meets terms (fun held value s => Meets terms post (next value) held s)
      program held s) : Meets terms post (program.bind next) held s := by
  induction program generalizing held s with
  | done value => exact meets s (terms.rely_refl held s)
  | step op rest ih =>
      intro t others answer u performed
      obtain ⟨kept, guaranteed, further⟩ := meets t others answer u performed
      exact ⟨kept, guaranteed, ih answer further⟩

/-- A program that runs alone ends with a value for which the postcondition holds. -/
theorem run {handle : (op : Op) → σ → Answer op × σ}
    (performs : ∀ op s, terms.performs op s (handle op s).1 (handle op s).2)
    (meets : Meets terms post program held s) :
    ∃ kept, post kept (program.run handle s).1 (program.run handle s).2 := by
  induction program generalizing held s with
  | done value => exact ⟨held, meets.post_of_done⟩
  | step op next ih =>
      obtain ⟨kept, -, further⟩ := meets.step_next (performs op s)
      exact ih _ further

end Meets

end Program

end ContentNode
