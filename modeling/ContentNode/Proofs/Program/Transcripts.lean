/-!
# Transcripts

What a state answers to requests, one after another.  How every answer follows from the
exchanges before it, and what holds of the state in the end, is told by what a single
request preserves.
-/

namespace ContentNode

variable {κ σ : Type} {Answer : κ → Type}

/-- Requests and their answers, the first one first. -/
abbrev Transcript (Answer : κ → Type) := List ((request : κ) × Answer request)

/-- Answers requests one after another. -/
def converse (serve : (request : κ) → σ → Answer request × σ) :
    List κ → σ → Transcript Answer × σ
  | [], s => ([], s)
  | request :: rest, s =>
    let (answer, s) := serve request s
    let (log, s) := converse serve rest s
    (⟨request, answer⟩ :: log, s)

/-- An exchange of a transcript, and those before it. -/
def Follows (exchange : (request : κ) × Answer request) (before log : Transcript Answer) : Prop :=
  before ++ [exchange] <+: log

/-- Every request that is allowed is answered as the exchanges before it ask for, and an
invariant of the exchanges and the state holds on. -/
def Sustains (serve : (request : κ) → σ → Answer request × σ) (allowed : κ → Prop)
    (fits : Transcript Answer → ((request : κ) × Answer request) → Prop)
    (invariant : Transcript Answer → σ → Prop) : Prop :=
  ∀ log s request, allowed request → invariant log s →
    fits log ⟨request, (serve request s).1⟩ ∧
      invariant (log ++ [⟨request, (serve request s).1⟩]) (serve request s).2

variable {serve : (request : κ) → σ → Answer request × σ} {allowed : κ → Prop}
  {fits : Transcript Answer → ((request : κ) × Answer request) → Prop}
  {invariant : Transcript Answer → σ → Prop} {log : Transcript Answer} {s : σ}

/-- The requests of a transcript are those that were made. -/
theorem map_fst_converse (requests : List κ) (s : σ) :
    (converse serve requests s).1.map Sigma.fst = requests := by
  induction requests generalizing s with
  | nil => rfl
  | cons request rest ih => exact congrArg (List.cons request) (ih _)

/-- The second exchange follows the first one alone. -/
theorem follows_second (serve : (request : κ) → σ → Answer request × σ) (first second : κ)
    (rest : List κ) (s : σ) :
    Follows ⟨second, (serve second (serve first s).2).1⟩ [⟨first, (serve first s).1⟩]
      (converse serve (first :: second :: rest) s).1 := ⟨_, rfl⟩

/-- Every request is answered in some state. -/
theorem exists_answer_of_mem (serve : (request : κ) → σ → Answer request × σ)
    {requests : List κ} {request : κ} (member : request ∈ requests) (s : σ) :
    ∃ t, ⟨request, (serve request t).1⟩ ∈ (converse serve requests s).1 := by
  induction requests generalizing s with
  | nil => cases member
  | cons first rest ih =>
      rcases List.mem_cons.mp member with rfl | later
      · exact ⟨s, List.mem_cons_self⟩
      · obtain ⟨t, answered⟩ := ih later (serve first s).2
        exact ⟨t, List.mem_cons_of_mem _ answered⟩

/-- What one request preserves is preserved by all. -/
theorem Sustains.converse (sustains : Sustains serve allowed fits invariant)
    (holds : invariant log s) {requests : List κ} (every : ∀ request ∈ requests, allowed request) :
    (∀ before exchange, Follows exchange before (converse serve requests s).1 →
      fits (log ++ before) exchange) ∧
    invariant (log ++ (ContentNode.converse serve requests s).1)
      (ContentNode.converse serve requests s).2 := by
  induction requests generalizing log s with
  | nil =>
      refine ⟨fun before exchange follows => ?_, ?_⟩
      · cases before <;> simp [Follows, ContentNode.converse] at follows
      · rwa [ContentNode.converse, List.append_nil]
  | cons request rest ih =>
      obtain ⟨answered, kept⟩ := sustains log s request (every request List.mem_cons_self) holds
      obtain ⟨later, last⟩ := ih kept fun other member => every other (List.mem_cons_of_mem _ member)
      rw [ContentNode.converse]
      refine ⟨fun before exchange follows => ?_, ?_⟩
      · cases before with
        | nil =>
            obtain rfl : exchange = ⟨request, (serve request s).1⟩ :=
              (List.cons_prefix_cons.mp follows).1
            rwa [List.append_nil]
        | cons earliest others =>
            obtain ⟨rfl, behind⟩ := List.cons_prefix_cons.mp follows
            rw [List.append_cons]
            exact later others exchange behind
      · rwa [List.append_cons]

/-- What every request preserves, whatever was exchanged before, is preserved by all. -/
theorem converse_keeps (holds : σ → Prop) {good : ((request : κ) × Answer request) → Prop}
    (step : ∀ request s, holds s →
      good ⟨request, (serve request s).1⟩ ∧ holds (serve request s).2)
    (start : holds s) (requests : List κ) :
    (∀ exchange ∈ (converse serve requests s).1, good exchange) ∧
      holds (converse serve requests s).2 := by
  induction requests generalizing s with
  | nil => exact ⟨nofun, start⟩
  | cons request rest ih =>
      obtain ⟨answered, kept⟩ := step request s start
      obtain ⟨later, last⟩ := ih kept
      exact ⟨List.forall_mem_cons.mpr ⟨answered, later⟩, last⟩

/-! ### Requests that do not matter to others -/

/-- The answers to some requests are those that would be given if no others were made. -/
theorem filter_converse {relevant : κ → Bool} {related : σ → σ → Prop} {t : σ}
    (alike : ∀ request s t, relevant request = true → related s t →
      (serve request t).1 = (serve request s).1 ∧ related (serve request s).2 (serve request t).2)
    (silent : ∀ request s t, relevant request = false → related s t →
      related (serve request s).2 t)
    (relation : related s t) (requests : List κ) :
    (converse serve requests s).1.filter (fun exchange => relevant exchange.1) =
      (converse serve (requests.filter relevant) t).1 := by
  induction requests generalizing s t with
  | nil => rfl
  | cons request rest ih =>
      rw [converse]
      dsimp only
      cases matters : relevant request with
      | true =>
          obtain ⟨answer, further⟩ := alike request s t matters relation
          simp only [List.filter_cons, matters, if_true]
          rw [ih further, ← answer]
          rfl
      | false =>
          simp only [List.filter_cons, matters, Bool.false_eq_true, if_false]
          exact ih (silent request s t matters relation)

/-- So they are the same if these requests are the same. -/
theorem filter_converse_eq {relevant : κ → Bool} {related : σ → σ → Prop} {t u : σ}
    (alike : ∀ request s t, relevant request = true → related s t →
      (serve request t).1 = (serve request s).1 ∧ related (serve request s).2 (serve request t).2)
    (silent : ∀ request s t, relevant request = false → related s t →
      related (serve request s).2 t)
    (relation : related s u) (relation' : related t u) {requests others : List κ}
    (same : requests.filter relevant = others.filter relevant) :
    (converse serve requests s).1.filter (fun exchange => relevant exchange.1) =
      (converse serve others t).1.filter fun exchange => relevant exchange.1 := by
  rw [filter_converse alike silent relation, filter_converse alike silent relation', same]

end ContentNode
