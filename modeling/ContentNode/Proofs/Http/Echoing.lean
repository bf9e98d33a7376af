import ContentNode.Proofs.Http.Serving

/-!
# Every answer repeats one identifier

The identifier in the response to a body is told by the body alone.  Whatever the store answers,
and whether the call is carried out, takes too long or is given up, a client gets a text with the
same one, and reads it back.
-/

namespace ContentNode

open FileSystem

namespace Rpc

variable {body : ByteArray} {v id : Json.Value}

/-- Without a usable identifier a response repeats none. -/
theorem echoOf_eq_null_iff :
    echoOf v = .null ↔ ∀ id, v.member? "id" = some id → isIdentifier id = false := by
  unfold echoOf
  split
  · next id found =>
    rw [found]
    cases usable : isIdentifier id with
    | true =>
        refine iff_of_false ?_ fun none => ?_
        · rintro rfl
          cases usable
        · cases usable.symm.trans (none id rfl)
    | false =>
        refine iff_of_true rfl ?_
        rintro _ ⟨⟩
        exact usable
  · next absent => exact iff_of_true rfl (by simp [absent])

/-- A body that is an object with a usable identifier. -/
def Identified (body : ByteArray) (id : Json.Value) : Prop :=
  ∃ members, Json.Parser.parse body.data.toList = .ok (.object members) ∧
    Json.Value.lookup "id" members = some id ∧
    ((∃ text, id = .string text) ∨ ∃ n, id = .number n)

theorem Identified.echoOfBody_eq (identified : Identified body id) : echoOfBody body = id := by
  obtain ⟨members, readable, found, usable⟩ := identified
  rw [echoOfBody, readable]
  exact echoOf_of_member found (Request.isIdentifier_iff.mpr usable)

/-- The identifier is null only where there is none to repeat. -/
theorem echoOfBody_eq_null_iff :
    echoOfBody body = .null ↔
      (∃ failure, Json.Parser.parse body.data.toList = .error failure) ∨
        ∃ v, Json.Parser.parse body.data.toList = .ok v ∧ ∀ id, ¬ Identified body id := by
  cases readable : Json.Parser.parse body.data.toList with
  | error failure =>
      refine iff_of_true ?_ (.inl ⟨failure, rfl⟩)
      rw [echoOfBody, readable]
  | ok v =>
      have same : echoOfBody body = echoOf v := by rw [echoOfBody, readable]
      rw [same, echoOf_eq_null_iff]
      constructor
      · intro none
        refine .inr ⟨v, rfl, ?_⟩
        rintro id ⟨members, readable', found, usable⟩
        obtain rfl := Except.ok.inj (readable.symm.trans readable')
        cases (none id found).symm.trans (Request.isIdentifier_iff.mpr usable)
      · rintro (⟨failure, ⟨⟩⟩ | ⟨w, -, none⟩) id found
        refine Bool.eq_false_iff.mpr fun usable => ?_
        cases v with
        | object members =>
            exact none id ⟨members, readable, found, Request.isIdentifier_iff.mp usable⟩
        | null | bool _ | number _ | string _ | array _ => cases found

end Rpc

namespace Node

variable {α : Type} {actor : Actor} {now : Instant}

/-- A node runs a program with the operations of its store, which may have no answer. -/
theorem run_eq_attempt (p : StoreProgram α) (node : Node) :
    node.run actor now p = p.attempt (Node.perform actor now) node := by
  induction p generalizing node with
  | done value => rfl
  | step op next ih =>
      rw [Program.attempt, perform, Program.perform, run, run]
      rcases node.backend.perform actor now op node.files with ⟨answer | answer, backend, files⟩
      · rfl
      · exact ih _ _

end Node

namespace Http

variable {config : Config} {backend : String} {request : Request} {body : ByteArray}
  {id : Json.Value}

/-- A response that shows an identifier to a client: its text is an object with the identifier
between the version and either a result or an error. -/
structure Repeats (id : Json.Value) (response : Response) : Prop where
  status : response.status = 200
  contentType : response.contentType = some "application/json"
  text : ∃ name v, (name = "result" ∨ name = "error") ∧ response.body =
    "\x7b\"jsonrpc\":\"2.0\",\"id\":" ++ id.render ++ ",\"" ++ name ++ "\":" ++
      Json.Value.render v ++ "\x7d"
  /-- The client reads the identifier back, unless it is a number but no integer of at most
  64 bits. -/
  read : id = .null ∨ Rpc.Identifies id → ∃ answer,
    Rpc.Response.ofText (Json.bytes response.body) = .ok answer ∧ answer.id = id

/-- A response of calls shows the identifier that it repeats. -/
theorem repeats_ofRpc {answer : Rpc.Response} (answers : Rpc.Answers id answer) :
    Repeats id (ofRpc answer) where
  status := rfl
  contentType := rfl
  text := by
    refine ⟨answer.outcome.member.1, answer.outcome.member.2, ?_, answers.render_eq⟩
    cases answer.outcome with
    | result v => exact .inl rfl
    | error e => exact .inr rfl
  read usable :=
    ⟨answer, Rpc.Response.ofText_render (answers.legible usable), answers.id⟩

theorem repeats_timedOut (body : ByteArray) (milliseconds : Nat) :
    Repeats (Rpc.echoOfBody body) (timedOut body milliseconds) :=
  repeats_ofRpc (Rpc.answers_failure _ _)

theorem repeats_aborted (body : ByteArray) : Repeats (Rpc.echoOfBody body) (aborted body) :=
  repeats_ofRpc (Rpc.answers_failure _ _)

/-- A call that is short enough is answered by the dispatcher. -/
theorem ends_respond (call : request.IsCall)
    (short : request.body.size ≤ config.maxRequestBytes) :
    Program.Ends (Repeats (Rpc.echoOfBody request.body)) (respond config backend request) := by
  have leads : Route.ofPath? (pathOf request.target) = some .calls := by
    rw [call.2]
    rfl
  have answered : Program.Ends (Repeats (Rpc.echoOfBody request.body))
      (answer config backend request.body .calls) := by
    rw [answer, if_neg (Nat.not_lt.mpr short)]
    exact (Rpc.ends_dispatch config.engine request.body).bind fun _ answers =>
      .done (repeats_ofRpc answers)
  rw [respond, leads]
  dsimp only
  rw [if_neg (by rw [call.1]; decide)]
  refine answered.bind fun response repeats => ?_
  rw [if_neg (by rw [call.1]; decide)]
  exact .done repeats

/-- So the node answers it under its identifier, whether the store answers or not. -/
theorem repeats_respond (actor : Actor) (now : Instant) (node : Node) (call : request.IsCall)
    (short : request.body.size ≤ node.config.maxRequestBytes) :
    Repeats (Rpc.echoOfBody request.body) (node.respond actor now request).1 := by
  have ends : Program.Ends (Repeats (Rpc.echoOfBody request.body))
      (respond node.config node.backend.name request) := ends_respond call short
  rw [Node.respond, Node.run_eq_attempt]
  rcases ended : (respond node.config node.backend.name request).attempt (Node.perform actor now)
    node with ⟨interruption | response, after⟩
  · cases interruption with
    | waiting => exact repeats_timedOut _ _
    | panicked => exact repeats_aborted _
  · exact ends.attempt (congrArg Prod.fst ended)

/-- All that a client can be answered to a body repeats one identifier. -/
structure Echoes (config : Config) (body : ByteArray) (id : Json.Value) : Prop where
  /-- The response of the dispatcher, whatever the store answers. -/
  completed : ∀ (σ : Type) (onStore : (op : StoreOperation) → σ → op.Answer × σ) (s : σ),
    ((Rpc.dispatch config.engine body).run onStore s).1.id = id
  /-- The same if the store can leave operations without an answer, but did not do so. -/
  attempted : ∀ (σ : Type)
    (onStore : (op : StoreOperation) → σ → Except Interruption op.Answer × σ) (s : σ)
    (response : Rpc.Response),
    ((Rpc.dispatch config.engine body).attempt onStore s).1 = .ok response → response.id = id
  timedOut : ∀ milliseconds, Repeats id (timedOut body milliseconds)
  aborted : Repeats id (aborted body)
  /-- The response over HTTP of a node with a store of any kind. -/
  served : ∀ (actor : Actor) (now : Instant) (node : Node) (request : Request),
    node.config = config → request.body = body → request.IsCall →
    body.size ≤ config.maxRequestBytes → Repeats id (node.respond actor now request).1
  /-- An identifier of the body is repeated if it is usable. -/
  usable : ∀ own, Rpc.Identified body own → id = own
  null : id = .null ↔
    (∃ failure, Json.Parser.parse body.data.toList = .error failure) ∨
      ∃ v, Json.Parser.parse body.data.toList = .ok v ∧ ∀ own, ¬ Rpc.Identified body own

/-- Every body has one identifier, and whatever becomes of its call, this is the one that the
client gets. -/
theorem every_answer_echoes (config : Config) (body : ByteArray) :
    Echoes config body (Rpc.echoOfBody body) where
  completed _ onStore s := ((Rpc.ends_dispatch config.engine body).run onStore s).id
  attempted _ _ _ _ ended := ((Rpc.ends_dispatch config.engine body).attempt ended).id
  timedOut milliseconds := repeats_timedOut body milliseconds
  aborted := repeats_aborted body
  served := by
    rintro actor now node request rfl rfl call short
    exact repeats_respond actor now node call short
  usable _ identified := identified.echoOfBody_eq
  null := Rpc.echoOfBody_eq_null_iff

end Http

end ContentNode
