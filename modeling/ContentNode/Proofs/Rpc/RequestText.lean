import ContentNode.Proofs.Json.Reading
import ContentNode.Proofs.Rpc.Handling

/-!
# The text of requests

A request of a call is read back from its value and from its text, whatever the argument
of the call is, so that it is handled alike if it is handed over as a value and if it is
sent as a text.
-/

namespace ContentNode.Rpc

variable {id : Json.Value}

/-- An identifier that a client chooses: a string, or an integer of at most 64 bits. -/
inductive Identifies : Json.Value → Prop where
  | string (text : String) : Identifies (.string text)
  | integer {i : Int} (short : Json.Short i) : Identifies (.integer i)

theorem Identifies.isIdentifier (identifies : Identifies id) : isIdentifier id = true := by
  cases identifies <;> rfl

theorem Identifies.canonical (identifies : Identifies id) : id.canonical = id := by
  cases identifies with
  | string text => exact Json.Value.canonical_string text
  | integer short => exact Json.Value.canonical_integer _

theorem Identifies.readable {levels : Nat} (identifies : Identifies id) :
    Json.Readable levels id := by
  cases identifies with
  | string text => exact .string text
  | integer short => exact .integer short

namespace Call

theorem readable_toValue (call : Call) {levels : Nat} :
    Json.Readable (levels + 2) call.toValue :=
  .cons_member _ (.string _) (.cons_member _ (.cons_member _ (.string _) .no_members) .no_members)

/-- The value of a call has its members in order. -/
theorem canonical_toValue (call : Call) : call.toValue.canonical = call.toValue := by
  simp (disch := decide) only [toValue, Json.Value.canonical, Json.Value.canonicalMembers,
    Json.Value.sortMembers, List.foldl_cons, List.foldl_nil, Json.Value.insert_nil,
    Json.Value.insert_of_gt]

/-- A call is read back from its value. -/
theorem tagged_toValue (call : Call) : Json.FromValue.tagged shape call.toValue = .ok call := by
  cases call <;> rfl

end Call

namespace Request

/-- The members of a request in the order of its text. -/
def members (r : Request) : List (String × Json.Value) := [
  ("jsonrpc", .string r.version),
  ("id", r.id),
  ("method", .string r.method),
  ("params", r.call.toValue)]

/-- A request is written as the object of its members. -/
theorem render_eq (r : Request) : r.render = (Json.Value.object r.members).render := by
  rw [← Json.renderRecord_eq]
  simp [render, members, Json.Value.render, Call.render]

theorem toValue_eq (r : Request) : r.toValue = .object [
    ("id", r.id), ("jsonrpc", .string r.version), ("method", .string r.method),
    ("params", r.call.toValue)] := by
  simp (disch := decide) only [toValue, Json.Value.ofMembers, Json.Value.sortMembers,
    List.foldl_cons, List.foldl_nil, Json.Value.insert_nil, Json.Value.insert_of_lt,
    Json.Value.insert_of_gt]

theorem canonical_members (r : Request) (canonical : r.id.canonical = r.id) :
    (Json.Value.object r.members).canonical = r.toValue := by
  rw [Json.Value.canonical, toValue, Json.Value.ofMembers, members]
  simp only [Json.Value.canonicalMembers, canonical, Json.Value.canonical_string,
    Call.canonical_toValue]

/-- A request of a call is read back from its value. -/
theorem ofValue_toValue (identifies : Identifies id) (call : Call) :
    ofValue (ofCall id call).toValue = .ok (ofCall id call) := by
  rw [toValue_eq]
  refine ofValue_eq_ok_iff.mpr ⟨_, id, call, rfl, rfl, ?_, rfl, ?_, rfl⟩
  · exact checkId_eq_ok_iff.mpr ⟨rfl, identifies.isIdentifier⟩
  · exact checkCall_eq_ok_iff.mpr ⟨_, rfl, call.tagged_toValue⟩

/-- The text of a request of a call denotes the value of the request. -/
theorem parse_render (identifies : Identifies id) (call : Call) :
    Json.Parser.parse (Json.bytes (ofCall id call).render) = .ok (ofCall id call).toValue := by
  have readable : Json.Readable Json.Parser.maxLevels (.object (ofCall id call).members) :=
    .cons_member _ (.string _) (.cons_member _ identifies.readable
      (.cons_member _ (.string _) (.cons_member _ call.readable_toValue .no_members)))
  rw [render_eq, Json.parse_render readable, canonical_members _ identifies.canonical]

end Request

/-- The text of a request of a call is an envelope of the call. -/
theorem envelops_render (identifies : Identifies id) (call : Call) :
    Envelops (Request.ofCall id call).render.toUTF8 id call :=
  ⟨(Request.ofCall id call).toValue, .ofCall id call, Request.parse_render identifies call,
    Request.ofValue_toValue identifies call, by rw [Request.toValue_eq]; rfl, rfl⟩

/-- A body with the text of a request is answered under the identifier of the request. -/
theorem echoOfBody_render (identifies : Identifies id) (call : Call) :
    echoOfBody (Request.ofCall id call).render.toUTF8 = id := by
  have readable := Request.parse_render identifies call
  rw [Json.bytes] at readable
  rw [echoOfBody, readable, Request.toValue_eq]
  exact if_pos identifies.isIdentifier

/-- A request of a call is read back from its value, and the text of the request denotes the
same value.  So a body with this text is answered by the same operations on the store as the
value, and with the same response. -/
theorem ofCall_reads_back (config : EngineConfig) (identifies : Identifies id) (call : Call) :
    Request.ofValue (Request.ofCall id call).toValue = .ok (Request.ofCall id call) ∧
    Json.Parser.parse (Request.ofCall id call).render.toUTF8.data.toList =
      .ok (Request.ofCall id call).toValue ∧
    dispatch config (Request.ofCall id call).render.toUTF8 =
      dispatchValue config (Request.ofCall id call).toValue :=
  have readable := Request.parse_render identifies call
  ⟨Request.ofValue_toValue identifies call, readable, dispatch_of_value readable⟩

/-- The largest identifier, and a text with a quote, a backslash, control characters and a
character of four bytes. -/
def escapes : Request := .ofCall (.integer 0xFFFFFFFFFFFFFFFF) (.write "\"\\\n\x00𝄞")

theorem ofCall_reads_back_of_escapes :
    Identifies escapes.id ∧
    Request.ofValue escapes.toValue = .ok escapes ∧
    Json.Parser.parse escapes.render.toUTF8.data.toList = .ok escapes.toValue ∧
    dispatch .standard escapes.render.toUTF8 = dispatchValue .standard escapes.toValue :=
  ⟨.integer (by decide), ofCall_reads_back .standard (.integer (by decide)) (.write _)⟩

end ContentNode.Rpc
