import ContentNode.Proofs.Rpc.Envelope

/-!
# Two readers of requests

A request is read from a value by its shape, whatever its version, its identifier and its
method are, or by the checks of the envelope.  Both accept the same requests, if those
read by their shape are objects and have the right version, a usable identifier and the
right method.  A value that the checks refuse is refused for the first thing that is
wrong with it.
-/

namespace ContentNode.Rpc.Request

variable {members : List (String × Json.Value)} {v : Json.Value} {request : Request}
  {α β : Type}

/-! ### The reader of the shape -/

theorem component_version : shape.Component "jsonrpc" (.leaf (.scalar .text)) version := by
  constructor
  · exact ⟨_, rfl, fun _ _ => rfl⟩
  · simp [shape]

theorem component_id : shape.Component "id" .free id := by
  constructor
  · exact ⟨_, rfl, fun _ _ => rfl⟩
  · simp [shape]

theorem component_method : shape.Component "method" (.leaf (.scalar .text)) method := by
  constructor
  · exact ⟨_, rfl, fun _ _ => rfl⟩
  · simp [shape]

theorem component_call : shape.Component "params" (.tagged Call.shape) call := by
  constructor
  · exact ⟨_, rfl, fun _ _ => rfl⟩
  · simp [shape]

/-- A string is read from strings only. -/
theorem read_parsed_eq_ok_iff {expected text : String} :
    (Schema.Scalar.parsed expected .ok).read (Json.FromValue.found v) = .ok text ↔
      v = .string text := by
  cases v with
  | string s =>
      constructor
      · intro same
        rw [Except.ok.inj same]
      · rintro ⟨⟩
        rfl
  | number n => cases n <;> simp [Json.FromValue.found, Schema.Scalar.read, Schema.Scalar.parsed]
  | null | bool _ | array _ | object _ =>
      simp [Json.FromValue.found, Schema.Scalar.read, Schema.Scalar.parsed]

theorem member_text_eq_ok_iff {text : String} :
    Json.FromValue.member (.leaf (.scalar .text)) v = .ok text ↔ v = .string text :=
  read_parsed_eq_ok_iff

/-- A request is complete once its four members have been given. -/
theorem missing?_eq_none_iff {given : List String} :
    shape.missing? given = none ↔
      "jsonrpc" ∈ given ∧ "id" ∈ given ∧ "method" ∈ given ∧ "params" ∈ given := by
  simp [Schema.Record.missing?, shape]

/-- The members that make up a request. -/
def Members (members : List (String × Json.Value)) (request : Request) : Prop :=
  Json.Value.lookup "jsonrpc" members = some (.string request.version) ∧
  Json.Value.lookup "id" members = some request.id ∧
  Json.Value.lookup "method" members = some (.string request.method) ∧
  ∃ params, Json.Value.lookup "params" members = some params ∧
    Json.FromValue.tagged Call.shape params = .ok request.call

theorem Members.unique {other : Request} (these : Members members request)
    (those : Members members other) : request = other := by
  obtain ⟨version, id, method, params, callMember, call⟩ := these
  obtain ⟨version', id', method', params', callMember', call'⟩ := those
  rw [version, Option.some.injEq, Json.Value.string.injEq] at version'
  rw [id, Option.some.injEq] at id'
  rw [method, Option.some.injEq, Json.Value.string.injEq] at method'
  rw [callMember, Option.some.injEq] at callMember'
  rw [← callMember', call, Except.ok.injEq] at call'
  cases request
  cases other
  simp_all only

/-- What is read from an object by its shape is made up of its members. -/
theorem members_of_message
    (accepted : Json.FromValue.message shape (.object members) = .ok request) :
    Members members request := by
  obtain ⟨partly, taken, completed⟩ := bind_eq_ok_iff.mp accepted
  obtain ⟨given, rfl⟩ : shape.missing? partly.given = none ∧ partly.value = request := by
    unfold Schema.Record.complete at completed
    split at completed
    · cases completed
    · next whole => exact ⟨whole, Except.ok.inj completed⟩
  have present (name : String) (member : name ∈ partly.given) :
      ∃ v, Json.Value.lookup name members = some v := by
    have inside := (Schema.Record.mem_given_iff taken).mp member
    rw [← Option.ne_none_iff_exists', Ne, Json.Value.lookup_eq_none_iff, not_not]
    exact (inside.resolve_left List.not_mem_nil).1
  obtain ⟨hasVersion, hasId, hasMethod, hasCall⟩ := missing?_eq_none_iff.mp given
  obtain ⟨version, versionMember⟩ := present _ hasVersion
  obtain ⟨id, idMember⟩ := present _ hasId
  obtain ⟨method, methodMember⟩ := present _ hasMethod
  obtain ⟨params, callMember⟩ := present _ hasCall
  have versionRead := component_version.read_of_foldlM taken
  have idRead := component_id.read_of_foldlM taken
  have methodRead := component_method.read_of_foldlM taken
  have callRead := component_call.read_of_foldlM taken
  rw [versionMember] at versionRead
  rw [idMember] at idRead
  rw [methodMember] at methodRead
  rw [callMember] at callRead
  refine ⟨?_, ?_, ?_, params, callMember, callRead⟩
  · rw [versionMember, member_text_eq_ok_iff.mp versionRead]
  · rw [idMember, Except.ok.inj idRead]
  · rw [methodMember, member_text_eq_ok_iff.mp methodRead]

/-- An object with the members of a request is read by its shape. -/
theorem exists_message (once : (members.map Prod.fst).Nodup) (these : Members members request) :
    ∃ other, Json.FromValue.message shape (.object members) = .ok other := by
  obtain ⟨versionMember, idMember, methodMember, params, callMember, callRead⟩ := these
  obtain ⟨partly, taken⟩ : ∃ partly, members.foldlM
      (shape.takeMember (fun e => e) fun _ => Json.FromValue.member) ⟨shape.blank, []⟩ =
        .ok partly := by
    apply Schema.Record.exists_foldlM once (by simp)
    intro field known v member
    simp only [shape, List.mem_cons, List.not_mem_nil, or_false] at known
    rcases known with rfl | rfl | rfl | rfl
    · cases versionMember.symm.trans member
      exact ⟨_, rfl⟩
    · exact ⟨v, rfl⟩
    · cases methodMember.symm.trans member
      exact ⟨_, rfl⟩
    · cases callMember.symm.trans member
      exact ⟨_, callRead⟩
  have given {name : String} {v : Json.Value} (member : Json.Value.lookup name members = some v)
      (known : (shape.field? name).isSome) : name ∈ partly.given := by
    apply (Schema.Record.mem_given_iff taken).mpr
    right
    constructor
    · rw [← not_not (a := name ∈ _), ← Json.Value.lookup_eq_none_iff, member]
      exact Option.some_ne_none v
    · exact known
  have whole : shape.missing? partly.given = none := missing?_eq_none_iff.mpr
    ⟨given versionMember rfl, given idMember rfl, given methodMember rfl, given callMember rfl⟩
  refine ⟨partly.value, bind_eq_ok_iff.mpr ⟨partly, taken, ?_⟩⟩
  rw [Schema.Record.complete, whole]
  rfl

/-- The request of an object whose keys occur once, by its shape. -/
theorem message_eq_ok_iff (once : (members.map Prod.fst).Nodup) :
    Json.FromValue.message shape (.object members) = .ok request ↔ Members members request := by
  constructor
  · exact members_of_message
  · intro these
    obtain ⟨other, accepted⟩ := exists_message once these
    rw [accepted, these.unique (members_of_message accepted)]

/-! ### The reader of the envelope -/

/-- The request of an object, by the checks of its envelope. -/
theorem ofValue_object_eq_ok_iff :
    ofValue (.object members) = .ok request ↔
      Members members request ∧ request.version = "2.0" ∧ isIdentifier request.id = true ∧
        request.method = "local" := by
  rw [ofValue_eq_ok_iff]
  constructor
  · rintro ⟨_, id, call, ⟨⟩, version, identified, method, called, rfl⟩
    obtain ⟨idMember, usable⟩ := checkId_eq_ok_iff.mp identified
    exact ⟨⟨checkVersion_eq_ok_iff.mp version, idMember, checkMethod_eq_ok_iff.mp method,
      checkCall_eq_ok_iff.mp called⟩, rfl, usable, rfl⟩
  · rintro ⟨⟨version, id, method, called⟩, versionSame, usable, methodSame⟩
    rw [versionSame] at version
    rw [methodSame] at method
    refine ⟨members, request.id, request.call, rfl, checkVersion_eq_ok_iff.mpr version,
      checkId_eq_ok_iff.mpr ⟨id, usable⟩, checkMethod_eq_ok_iff.mpr method,
      checkCall_eq_ok_iff.mpr called, ?_⟩
    cases request
    cases versionSame
    cases methodSame
    rfl

/-! ### Agreement -/

/-- The checks accept what is read by its shape, is an object and has the right version, a
string or a number as its identifier, and the right method; what they refuse is refused
for the first fault, in the order of `Aspect.all`. -/
theorem ofValue_agrees (once : v.HasKeysOnce) :
    (∀ request, ofValue v = .ok request ↔
      (∃ members, v = .object members) ∧ Json.FromValue.message shape v = .ok request ∧
        request.version = "2.0" ∧
        ((∃ text, request.id = .string text) ∨ ∃ n, request.id = .number n) ∧
        request.method = "local") ∧
    ∀ e, ofValue v = .error e ↔
      ∃ before aspect after report, Aspect.all = before ++ aspect :: after ∧
        (∀ earlier ∈ before, earlier.fault? v = none) ∧ aspect.fault? v = some report ∧
        e = ⟨.invalidRequest, "Invalid request: " ++ report⟩ := by
  constructor
  · intro request
    cases v with
    | object members =>
        rw [ofValue_object_eq_ok_iff, message_eq_ok_iff once, isIdentifier_iff]
        simp
    | null | bool _ | number _ | string _ | array _ => simp [ofValue]
  · intro e
    have finds := finds_ofValue v
    constructor
    · intro refused
      cases first : Aspect.all.findSome? fun aspect => aspect.fault? v with
      | none =>
          rw [first] at finds
          obtain ⟨request, accepted⟩ := finds
          cases refused.symm.trans accepted
      | some report =>
          rw [first] at finds
          obtain ⟨before, aspect, after, split, fault, passed⟩ :=
            List.findSome?_eq_some_iff.mp first
          refine ⟨before, aspect, after, report, split, passed, fault, ?_⟩
          exact Except.error.inj (refused.symm.trans finds)
    · rintro ⟨before, aspect, after, report, split, passed, fault, rfl⟩
      have first : (Aspect.all.findSome? fun aspect => aspect.fault? v) = some report :=
        List.findSome?_eq_some_iff.mpr ⟨before, aspect, after, split, fault, passed⟩
      rw [first] at finds
      exact finds

/-- A request is accepted with a member that it does not have, and refused for the version
that it lacks if its method is wrong too. -/
theorem ofValue_of_members :
    (ofValue (.object [("id", .integer 7), ("jsonrpc", .string "2.0"), ("method", .string "local"),
        ("more", .null), ("params", (Call.read "x").toValue)]) =
      .ok ⟨"2.0", .integer 7, "local", .read "x"⟩) ∧
    (ofValue (.object [("id", .integer 7), ("method", .string "remote")]) =
      .error ⟨.invalidRequest, "Invalid request: missing `jsonrpc`"⟩) := by
  constructor
  · apply ((ofValue_agrees (by decide)).1 _).mpr
    exact ⟨⟨_, rfl⟩, rfl, rfl, .inr ⟨_, rfl⟩, rfl⟩
  · apply ((ofValue_agrees (by decide)).2 _).mpr
    exact ⟨[.object], .version, [.identifier, .method, .presence, .call], _, rfl, by decide, rfl,
      rfl⟩

end ContentNode.Rpc.Request
