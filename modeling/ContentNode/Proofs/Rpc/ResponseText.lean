import ContentNode.Proofs.Program.Endings
import ContentNode.Proofs.Rpc.RequestText
import ContentNode.Rpc.ResponseReader
import ContentNode.Store.Memory

/-!
# The text of responses

Every response to a body is read back from its text, in one go or by way of a value.  The
outcome is kept as a member under its name until all members have been read.
-/

namespace ContentNode.Rpc

open Json Json.FromText

variable {echo id v : Value} {key version : String} {response : Response} {outcome : Outcome}
  {levels fuel : Nat} {rest s : List UInt8} {first : Bool} {draft : Response.Draft}

/-! ### Outcomes -/

namespace ErrorObject

/-- An error as a value. -/
def toValue (e : ErrorObject) : Value :=
  .object [("code", .integer e.code), ("message", .string e.message)]

theorem render_eq (e : ErrorObject) : e.render = e.toValue.render := by
  rw [toValue, ← renderRecord_eq]
  simp [render, Value.render, Number.render]

theorem canonical_toValue (e : ErrorObject) : e.toValue.canonical = e.toValue := by
  simp (disch := decide) only [toValue, Value.canonical, Value.canonicalMembers,
    Value.sortMembers, List.foldl_cons, List.foldl_nil, Value.insert_nil, Value.insert_of_gt]

/-- An error is read back from its value if its code has 32 bits. -/
theorem leafRecord_toValue {e : ErrorObject} (low : -0x80000000 ≤ e.code)
    (high : e.code ≤ 0x7FFFFFFF) : FromValue.leafRecord .ofBuffer shape e.toValue = .ok e := by
  have code : FromValue.leaf (.scalar (.integer "i32" (-0x80000000) 0x7FFFFFFF))
      (.integer e.code) = .ok e.code := by
    simp [FromValue.leaf, FromValue.found, Schema.Scalar.read, Schema.Scalar.integer, low, high]
  have message : FromValue.leaf (.scalar .text) (.string e.message) = .ok e.message := rfl
  rw [toValue, FromValue.leafRecord, FromValue.record, Schema.Record.ofMembers, List.foldlM_cons,
    Schema.Record.takeMember_of_field rfl (by simp), code]
  dsimp only [bind, Except.bind, pure, Except.pure]
  rw [List.foldlM_cons,
    Schema.Record.takeMember_of_field rfl (by simp), message]
  rfl

end ErrorObject

/-- The codes of errors have 32 bits. -/
theorem ErrorKind.code_bounds (kind : ErrorKind) :
    -0x80000000 ≤ kind.code ∧ kind.code ≤ 0x7FFFFFFF := by
  cases kind <;> decide

/-- A result of a call: a text, or the digits of bytes that are no text. -/
inductive Rendered : Value → Prop where
  | text (text : String) : Rendered (.string text)
  | digits (digits : String) :
      Rendered (.object [("data", .string digits), ("encoding", .string "hex")])

/-- The members of a marked payload in the order of their names. -/
theorem ofMembers_marked (digits : String) :
    Value.ofMembers [("encoding", .string "hex"), ("data", .string digits)] =
      .object [("data", .string digits), ("encoding", .string "hex")] := by
  simp (disch := decide) only [Value.ofMembers, Value.sortMembers, List.foldl_cons,
    List.foldl_nil, Value.insert_nil, Value.insert_of_lt]

theorem rendered_renderPayload (payload : ByteArray) : Rendered (renderPayload payload) := by
  unfold renderPayload
  split
  · exact .text _
  · rw [ofMembers_marked]
    exact .digits _

namespace Rendered

theorem canonical (rendered : Rendered v) : v.canonical = v := by
  cases rendered with
  | text text => exact Value.canonical_string text
  | digits digits =>
      simp (disch := decide) only [Value.canonical, Value.canonicalMembers, Value.sortMembers,
        List.foldl_cons, List.foldl_nil, Value.insert_nil, Value.insert_of_gt]

theorem readable (rendered : Rendered v) : Readable (levels + 1) v := by
  cases rendered with
  | text text => exact .string text
  | digits digits => exact .cons_member _ (.string _) (.cons_member _ (.string _) .no_members)

end Rendered

namespace Outcome

/-- The member that holds an outcome. -/
def member : Outcome → String × Value
  | result v => ("result", v)
  | error e => ("error", e.toValue)

/-- An outcome that a call can have. -/
inductive Possible : Outcome → Prop where
  | result {v : Value} (rendered : Rendered v) : Possible (.result v)
  | error (e : Error) : Possible (.error e.toObject)

theorem render_eq (outcome : Outcome) :
    outcome.render = (outcome.member.1, outcome.member.2.render) := by
  cases outcome with
  | result v => rfl
  | error e => rw [render, e.render_eq, member]

/-- The names of outcomes need no escape. -/
theorem quote_name (outcome : Outcome) :
    quote outcome.member.1 = "\"" ++ outcome.member.1 ++ "\"" := by
  cases outcome with
  | result v => exact quote_of_plain (show ("result".toList.all _) = true by decide)
  | error e => exact quote_of_plain (show ("error".toList.all _) = true by decide)

theorem Possible.canonical (possible : Possible outcome) :
    outcome.member.2.canonical = outcome.member.2 := by
  cases possible with
  | result rendered => exact rendered.canonical
  | error e => exact e.toObject.canonical_toValue

theorem Possible.readable (possible : Possible outcome) :
    Readable (levels + 1) outcome.member.2 := by
  cases possible with
  | result rendered => exact rendered.readable
  | error e =>
      have bounds := e.kind.code_bounds
      have short : Short e.toObject.code := by
        simp only [Short, Error.toObject, Error.code]
        omega
      exact .cons_member _ (.integer short) (.cons_member _ (.string _) .no_members)

/-- An outcome is read back from its member. -/
theorem Possible.ofMember_member (possible : Possible outcome) :
    ofMember outcome.member.1 outcome.member.2 = .ok outcome := by
  cases possible with
  | result rendered => rw [member, ofMember, if_pos rfl, rendered.canonical]
  | error e =>
      rw [member, ofMember, if_neg (by simp),
        ErrorObject.leafRecord_toValue e.kind.code_bounds.1 e.kind.code_bounds.2]
      rfl

theorem Possible.ofMembers_member (possible : Possible outcome) :
    ofMembers [outcome.member] = .ok outcome := by
  have named : outcome.member.1 ∈ names := by cases outcome <;> simp [member, names]
  rw [ofMembers, List.find?_cons_of_pos (by simpa using named)]
  exact possible.ofMember_member

end Outcome

namespace Response

/-- A response that a body can have if it gives no identifier but a string or an integer of
at most 64 bits. -/
structure Legible (r : Response) : Prop where
  id : r.id = .null ∨ Identifies r.id
  outcome : r.outcome.Possible

theorem Legible.canonical_id (legible : response.Legible) : response.id.canonical = response.id := by
  rcases legible.id with null | identifies
  · rw [null]
    simp [Value.canonical]
  · exact identifies.canonical

theorem Legible.readable_id (legible : response.Legible) : Readable levels response.id := by
  rcases legible.id with null | identifies
  · rw [null]
    exact .null
  · exact identifies.readable

/-! ### The reader of values -/

/-- The members of a response in the order of its text. -/
def entries (r : Response) : List (String × Value) :=
  [("jsonrpc", .string r.version), ("id", r.id), r.outcome.member]

theorem render_eq (r : Response) : r.render = (Value.object r.entries).render := by
  rw [← renderRecord_eq]
  simp [render, entries, Value.render, Outcome.render_eq]

/-- A response is complete once its version, its identifier and its outcome have been read. -/
theorem complete_outcome (possible : outcome.Possible) :
    (Draft.mk (some version) (some id) [outcome.member]).complete = .ok ⟨version, id, outcome⟩ := by
  simp only [Draft.complete, List.reverse_singleton, possible.ofMembers_member]
  rfl

/-- A response is read back from its value, whose members are in the order of their keys. -/
theorem ofValue_canonical (legible : response.Legible) :
    ofValue (Value.object response.entries).canonical = .ok response := by
  have possible := legible.outcome
  have canonical := legible.canonical_id
  have inner := possible.canonical
  obtain ⟨version, id, outcome⟩ := response
  dsimp only at possible canonical inner
  cases outcome with
  | result v =>
      have sorted : (Value.object (entries ⟨version, id, .result v⟩)).canonical =
          .object [("id", id), ("jsonrpc", .string version), (Outcome.result v).member] := by
        rw [entries, Value.canonical]
        simp only [Value.canonicalMembers, Value.canonical_string, canonical, inner]
        simp (disch := decide) only [Outcome.member, Value.sortMembers, List.foldl_cons,
          List.foldl_nil, Value.insert_nil, Value.insert_of_lt, Value.insert_of_gt]
      rw [sorted]
      exact complete_outcome possible
  | error e =>
      have sorted : (Value.object (entries ⟨version, id, .error e⟩)).canonical =
          .object [(Outcome.error e).member, ("id", id), ("jsonrpc", .string version)] := by
        rw [entries, Value.canonical]
        simp only [Value.canonicalMembers, Value.canonical_string, canonical, inner]
        simp (disch := decide) only [Outcome.member, Value.sortMembers, List.foldl_cons,
          List.foldl_nil, Value.insert_nil, Value.insert_of_lt]
      rw [sorted]
      exact complete_outcome possible

/-! ### The reader of texts -/

/-- The version is read from the member of its name. -/
theorem members_version (fresh : draft.version = none)
    (more : Parser.nextMember first s = .ok (true,
      "jsonrpc".toList.flatMap written ++
        34 :: 58 :: (bytes (Value.string version).render ++ rest))) :
    members levels (fuel + 1) first draft s =
      members levels fuel false { draft with version := some version } rest := by
  have text : scalar .text (bytes (Value.string version).render ++ rest) = .ok (version, rest) := by
    rw [bytes_render_string, scalar, found, skipBlank_of_not_blank (by decide)]
    dsimp only
    rw [if_neg (by decide), if_neg (by decide), atom_string]
    rfl
  rw [members, more]
  simp only [parsing, Except.mapError, bind, Except.bind, string_written, colon_cons, text, fresh]
  simp

/-- The identifier is read from the member of its name. -/
theorem members_id (fresh : draft.id = none) (back : ReadsBack (Parser.value levels) id)
    (more : Parser.nextMember first s = .ok (true,
      "id".toList.flatMap written ++ 34 :: 58 :: (bytes id.render ++ rest)))
    (ends : Ends rest) :
    members levels (fuel + 1) first draft s =
      members levels fuel false { draft with id := some id.canonical } rest := by
  rw [members, more]
  simp only [parsing, Except.mapError, bind, Except.bind, string_written, colon_cons, fresh,
    back.reads ends]
  simp

/-- Any other member is kept. -/
theorem members_other (noVersion : key ≠ "jsonrpc") (noId : key ≠ "id")
    (back : ReadsBack (Parser.value levels) v)
    (more : Parser.nextMember first s = .ok (true,
      key.toList.flatMap written ++ 34 :: 58 :: (bytes v.render ++ rest)))
    (ends : Ends rest) :
    members levels (fuel + 1) first draft s =
      members levels fuel false { draft with rest := (key, v) :: draft.rest } rest := by
  rw [members, more]
  simp only [parsing, Except.mapError, bind, Except.bind, string_written, colon_cons,
    if_neg noVersion, if_neg noId, back.reads ends]
  simp

/-- At the closing brace the response is complete. -/
theorem members_close (complete : draft.complete = .ok response) :
    members levels (fuel + 1) first draft (125 :: rest) = .ok (response, rest) := by
  have closed : Parser.nextMember first (125 :: rest) = .ok (false, 125 :: rest) := rfl
  rw [members, closed]
  simp only [parsing, Except.mapError, bind, Except.bind, complete, fitting]
  rfl

/-- The members of a response in the order of its text are read back. -/
theorem members_entries (legible : response.Legible) :
    members (levels + 1) (fuel + 4) true {}
        (bytes (Value.renderMembers response.entries) ++ 125 :: rest) = .ok (response, rest) := by
  have other : response.outcome.member.1 ≠ "jsonrpc" ∧ response.outcome.member.1 ≠ "id" := by
    cases response.outcome <;> simp [Outcome.member]
  rw [entries, bytes_renderMembers_cons, List.append_assoc, entry_append,
    members_version rfl rfl, List.map_cons, following_cons_append,
    entry_append, members_id rfl (readsBack legible.readable_id) rfl (ends_following rfl),
    List.map_cons, following_cons_append, entry_append,
    members_other other.1 other.2 (readsBack legible.outcome.readable) rfl (ends_following rfl)]
  apply members_close
  rw [legible.canonical_id]
  exact complete_outcome legible.outcome

/-- A response is read back from its text. -/
theorem ofText_render (legible : response.Legible) :
    ofText (bytes response.render) = .ok response := by
  have text : bytes response.render =
      123 :: (bytes (Value.renderMembers response.entries) ++ [125]) := by
    rw [render_eq, Value.render, bytes_append, bytes_append]
    rfl
  obtain ⟨fuel, enough⟩ : ∃ fuel,
      (bytes (Value.renderMembers response.entries) ++ [125]).length + 1 = fuel + 4 := by
    refine ⟨_, (Nat.sub_add_cancel ?_).symm⟩
    rw [entries, bytes_renderMembers_cons, List.append_assoc, entry_append]
    simp only [List.length_cons, List.length_append]
    omega
  have read : read Parser.maxLevels (bytes response.render) = .ok (response, []) := by
    rw [text, read, skipBlank_of_not_blank (by decide)]
    dsimp only [Parser.maxLevels]
    rw [if_pos rfl, enough]
    exact members_entries legible
  rw [ofText, whole, read]
  rfl

/-- The text of a response is the object of its members. -/
theorem Legible.readable_entries (legible : response.Legible) :
    Readable (levels + 2) (.object response.entries) :=
  .cons_member _ (.string _) (.cons_member _ legible.readable_id
    (.cons_member _ legible.outcome.readable .no_members))

end Response

/-! ### Responses to bodies -/

variable {σ : Type} {onStore : (op : StoreOperation) → σ → op.Answer × σ} {state : σ}
  {config : EngineConfig} {body : ByteArray}

/-- A response that repeats an identifier and has an outcome that a call can have. -/
structure Answers (echo : Value) (r : Response) : Prop where
  version : r.version = "2.0"
  id : r.id = echo
  outcome : r.outcome.Possible

theorem answers_failure (echo : Value) (e : Error) : Answers echo (.failure echo e) :=
  ⟨rfl, rfl, .error e⟩

theorem answers_answerTo (echo : Value) (called : CallOutcome) :
    Answers echo (answerTo echo called) := by
  cases called with
  | read called =>
      cases called with
      | ok payload => exact ⟨rfl, rfl, .result (rendered_renderPayload payload)⟩
      | error e => exact answers_failure echo (.ofEngine e)
  | write called =>
      cases called with
      | ok receipt => exact ⟨rfl, rfl, .result (.text _)⟩
      | error e => exact answers_failure echo (.ofEngine e)

/-- What a response is written as, up to the texts of its identifier and of its outcome. -/
theorem Answers.render_eq (answers : Answers echo response) : response.render =
    "\x7b\"jsonrpc\":\"2.0\",\"id\":" ++ echo.render ++ ",\"" ++ response.outcome.member.1 ++
      "\":" ++ response.outcome.member.2.render ++ "\x7d" := by
  rw [Response.render, renderRecord]
  simp (disch := decide) only [List.map_cons, List.map_nil, String.intercalate_cons_cons,
    String.intercalate_singleton, quote_of_plain, answers.version, answers.id,
    Outcome.render_eq, response.outcome.quote_name]
  apply String.toList_inj.mp
  simp

theorem Answers.legible (answers : Answers echo response)
    (usable : echo = .null ∨ Identifies echo) : response.Legible := by
  refine ⟨?_, answers.outcome⟩
  rw [answers.id]
  exact usable

/-- A usable identifier is the one that a response repeats. -/
theorem echoOf_of_member (found : v.member? "id" = some id) (usable : isIdentifier id = true) :
    echoOf v = id := by
  rw [echoOf, found]
  exact if_pos usable

/-- However a value is handled, its identifier is repeated. -/
theorem ends_handleValue (config : EngineConfig) (v : Value) :
    Program.Ends (fun handling => Answers (echoOf v) handling.response)
      (handleValue config v) := by
  rw [handleValue]
  cases accepted : Request.ofValue v with
  | error e => exact .done (answers_failure _ e)
  | ok request =>
      obtain ⟨found, usable⟩ := Request.member?_id_of_ofValue accepted
      rw [echoOf_of_member found usable]
      refine (Program.Ends.any _).bind fun outcome _ => ?_
      exact .done (answers_answerTo request.id outcome)

/-- So is that of a body, which may be no value. -/
theorem ends_dispatch (config : EngineConfig) (body : ByteArray) :
    Program.Ends (Answers (echoOfBody body)) (dispatch config body) := by
  rw [dispatch, handle, echoOfBody]
  cases Parser.parse body.data.toList with
  | error failure => exact .done (answers_failure _ _)
  | ok v => exact (ends_handleValue config v).bind fun handling answers => .done answers

/-- The identifier that a response repeats is usable, unless it is null. -/
theorem echoOfBody_eq_null_or (body : ByteArray) :
    echoOfBody body = .null ∨ isIdentifier (echoOfBody body) = true := by
  unfold echoOfBody echoOf
  split
  · split
    · split
      · next usable => exact .inr usable
      · exact .inl rfl
    · exact .inl rfl
  · exact .inl rfl

/-- The responses to bodies are legible. -/
theorem legible_run_dispatch
    (usable : isIdentifier (echoOfBody body) = true → Identifies (echoOfBody body)) :
    ((dispatch config body).run onStore state).1.Legible :=
  ((ends_dispatch config body).run onStore state).legible
    ((echoOfBody_eq_null_or body).imp_right usable)

/-- Every response to a body whose identifier, if it has a usable one, is a string or an
integer of at most 64 bits is written as an object of three members: the version, the
identifier, and the outcome under its name.  The response is read back from this text, and
from the value that the text denotes. -/
theorem run_dispatch_reads_back (config : EngineConfig)
    (onStore : (op : StoreOperation) → σ → op.Answer × σ) (state : σ) (body : ByteArray)
    (usable : isIdentifier (echoOfBody body) = true → Identifies (echoOfBody body)) :
    let response := ((dispatch config body).run onStore state).1
    let text := response.render.toUTF8.data.toList
    (∃ members, Parser.value Parser.maxLevels text = .ok (.object members, []) ∧
      members.map Prod.fst =
        ["jsonrpc", "id", if response.isSuccess then "result" else "error"]) ∧
    Response.ofText text = .ok response ∧
    ∃ v, Parser.parse text = .ok v ∧ Response.ofValue v = .ok response := by
  intro response text
  have legible : response.Legible := legible_run_dispatch usable
  have readable : Readable Parser.maxLevels (.object response.entries) := legible.readable_entries
  have same : text = bytes (Value.object response.entries).render := by
    rw [← response.render_eq]
    rfl
  refine ⟨⟨response.entries, ?_, ?_⟩, response.ofText_render legible, _, ?_,
    Response.ofValue_canonical legible⟩
  · have read := (readsBack readable).reads ends_nil
    rw [List.append_nil] at read
    rw [same, read]
  · cases outcome : response.outcome <;>
      simp [Response.entries, Response.isSuccess, outcome, Outcome.member]
  · rw [same, parse_render readable]

/-- The response to a text that has to be escaped. -/
theorem run_dispatch_reads_back_of_escapes :
    let response :=
      ((dispatch .standard escapes.render.toUTF8).run (MemoryStore.perform 0) .empty).1
    Identifies (echoOfBody escapes.render.toUTF8) ∧
    Response.ofText response.render.toUTF8.data.toList = .ok response := by
  intro response
  have usable : Identifies (echoOfBody escapes.render.toUTF8) := by
    rw [escapes, echoOfBody_render (.integer (by decide))]
    exact .integer (by decide)
  exact ⟨usable, (run_dispatch_reads_back .standard (MemoryStore.perform 0) .empty _
    fun _ => usable).2.1⟩

end ContentNode.Rpc
