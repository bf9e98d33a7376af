import ContentNode.Proofs.Schema.Members
import ContentNode.Rpc.Request

/-!
# Which values are requests

A value is a request if it passes the four checks of the envelope, and a value
that fails one of them is refused, as no well-formed request, for the first fault
that is found.
-/

namespace ContentNode.Rpc.Request

variable {members : List (String × Json.Value)} {v : Json.Value} {request : Request}
  {α β : Type}

/-! ### Requests -/

theorem checkVersion_eq_ok_iff :
    checkVersion members = .ok () ↔
      Json.Value.lookup "jsonrpc" members = some (.string "2.0") := by
  unfold checkVersion
  split
  · next absent => simp [absent]
  · next v found =>
    split
    · next same => simp [found, same, protocolVersion]
    · next different => simpa [found, protocolVersion] using different

/-- The usable identifiers are the strings and the numbers. -/
theorem isIdentifier_iff {id : Json.Value} :
    isIdentifier id = true ↔ (∃ text, id = .string text) ∨ ∃ n, id = .number n := by
  cases id <;> simp [isIdentifier]

theorem checkId_eq_ok_iff {id : Json.Value} :
    checkId members = .ok id ↔
      Json.Value.lookup "id" members = some id ∧ isIdentifier id = true := by
  unfold checkId
  split
  · next absent => simp [absent]
  · next v found =>
    split
    · next usable =>
      rw [found]
      constructor
      · rintro ⟨⟩
        exact ⟨rfl, usable⟩
      · rintro ⟨⟨⟩, -⟩
        rfl
    · next unusable =>
      rw [found]
      constructor
      · nofun
      · rintro ⟨⟨⟩, usable⟩
        exact absurd usable unusable

theorem checkMethod_eq_ok_iff :
    checkMethod members = .ok () ↔
      Json.Value.lookup "method" members = some (.string "local") := by
  unfold checkMethod
  split
  · next absent => simp [absent]
  · next method found =>
    split
    · next same => simp [found, same, localMethod]
    · next different => simpa [found, localMethod] using different
  · next v other found =>
    rw [found]
    constructor
    · nofun
    · rintro ⟨⟨⟩⟩
      exact absurd rfl (other _)

theorem checkCall_eq_ok_iff {call : Call} :
    checkCall members = .ok call ↔
      ∃ params, Json.Value.lookup "params" members = some params ∧
        Json.FromValue.tagged Call.shape params = .ok call := by
  unfold checkCall
  split
  · next absent => simp [absent]
  · next params found =>
    split
    · next read => simp [found, read]
    · next e failed => simp [found, failed]

/-- A value is a request exactly if it is an object that passes all checks. -/
theorem ofValue_eq_ok_iff :
    ofValue v = .ok request ↔
      ∃ members id call, v = .object members ∧ checkVersion members = .ok () ∧
        checkId members = .ok id ∧ checkMethod members = .ok () ∧
        checkCall members = .ok call ∧ request = ofCall id call := by
  constructor
  · intro accepted
    unfold ofValue at accepted
    split at accepted
    · next members =>
      obtain ⟨⟨⟩, versionOk, accepted⟩ := bind_eq_ok_iff.mp accepted
      obtain ⟨id, idOk, accepted⟩ := bind_eq_ok_iff.mp accepted
      obtain ⟨⟨⟩, methodOk, accepted⟩ := bind_eq_ok_iff.mp accepted
      obtain ⟨call, callOk, accepted⟩ := bind_eq_ok_iff.mp accepted
      exact ⟨members, id, call, rfl, versionOk, idOk, methodOk, callOk,
        (Except.ok.inj accepted).symm⟩
    · contradiction
  · rintro ⟨members, id, call, rfl, versionOk, idOk, methodOk, callOk, rfl⟩
    simp only [ofValue, bind, Except.bind, versionOk, idOk, methodOk, callOk]
    rfl

/-- The identifier of a request is a member of the envelope, and usable. -/
theorem member?_id_of_ofValue (accepted : ofValue v = .ok request) :
    v.member? "id" = some request.id ∧ isIdentifier request.id = true := by
  obtain ⟨members, id, call, rfl, -, idOk, -, -, rfl⟩ := ofValue_eq_ok_iff.mp accepted
  exact checkId_eq_ok_iff.mp idOk

/-! ### What is wrong with an envelope -/

/-- What is looked at in an envelope. -/
inductive Aspect where
  /-- Whether there is an object at all. -/
  | object
  | version
  | identifier
  | method
  /-- Whether there is a call at all. -/
  | presence
  /-- The shape of the call. -/
  | call
deriving DecidableEq

/-- What is looked at, in this order. -/
def Aspect.all : List Aspect := [object, version, identifier, method, presence, call]

/-- What is wrong with a value in one respect. -/
def Aspect.fault? : Aspect → Json.Value → Option String
  | object, .object _ => none
  | object, _ => some "request must be a JSON object"
  | version, v =>
    match v.member? "jsonrpc" with
    | none => some "missing `jsonrpc`"
    | some found =>
      if found = .string "2.0" then none
      else some ("unsupported jsonrpc version " ++ found.render)
  | identifier, v =>
    match v.member? "id" with
    | none => some "missing `id`"
    | some (.string _) | some (.number _) => none
    | some found => some ("`id` must be a string or number, got " ++ found.render)
  | method, v =>
    match v.member? "method" with
    | none => some "missing `method`"
    | some (.string name) =>
      if name = "local" then none else some ("unsupported method `" ++ name ++ "`")
    | some _ => some "`method` must be a string"
  | presence, v =>
    match v.member? "params" with
    | none => some "missing `params`"
    | some _ => none
  | call, v =>
    match v.member? "params" with
    | none => none
    | some params =>
      match Json.FromValue.tagged Call.shape params with
      | .ok _ => none
      | .error e => some ("bad `params`: " ++ shapeMessage e)

/-- A check finds fault, or it succeeds. -/
def Finds (check : Except Error α) : Option String → Prop
  | none => ∃ value, check = .ok value
  | some report => check = .error ⟨.invalidRequest, "Invalid request: " ++ report⟩

/-- Of two checks the second one matters only if the first one finds nothing. -/
theorem Finds.bind {check : Except Error α} {next : α → Except Error β}
    {fault rest : Option String} (first : Finds check fault)
    (second : ∀ value, check = .ok value → Finds (next value) rest) :
    Finds (check >>= next) (fault.or rest) := by
  cases fault with
  | none =>
      obtain ⟨value, passed⟩ := first
      rw [passed]
      exact second value passed
  | some report =>
      rw [show check = .error _ from first]
      exact rfl

theorem finds_checkVersion :
    Finds (checkVersion members) (Aspect.version.fault? (.object members)) := by
  unfold checkVersion Aspect.fault? Json.Value.member?
  dsimp only
  cases Json.Value.lookup "jsonrpc" members with
  | none => exact rfl
  | some found =>
      by_cases same : found = .string "2.0"
      · simp [Finds, same, protocolVersion]
      · simp only [same, protocolVersion, if_false]
        exact rfl

theorem finds_checkId : Finds (checkId members) (Aspect.identifier.fault? (.object members)) := by
  unfold checkId Aspect.fault? Json.Value.member?
  dsimp only
  cases Json.Value.lookup "id" members with
  | none => exact rfl
  | some found =>
      cases found with
      | string s => exact ⟨_, rfl⟩
      | number n => exact ⟨_, rfl⟩
      | null | bool _ | array _ | object _ => exact rfl

theorem finds_checkMethod :
    Finds (checkMethod members) (Aspect.method.fault? (.object members)) := by
  unfold checkMethod Aspect.fault? Json.Value.member?
  dsimp only
  cases Json.Value.lookup "method" members with
  | none => exact rfl
  | some found =>
      cases found with
      | string name =>
          by_cases same : name = "local"
          · simp [Finds, same, localMethod]
          · simp only [same, localMethod, if_false]
            exact rfl
      | null | bool _ | number _ | array _ | object _ => exact rfl

theorem finds_checkCall :
    Finds (checkCall members) ((Aspect.presence.fault? (.object members)).or
      (Aspect.call.fault? (.object members))) := by
  unfold checkCall Aspect.fault? Json.Value.member?
  dsimp only
  cases Json.Value.lookup "params" members with
  | none => exact rfl
  | some params =>
      dsimp only
      cases Json.FromValue.tagged Call.shape params with
      | ok call => exact ⟨call, rfl⟩
      | error e => exact rfl

theorem findSome?_cons_eq_or {find : α → Option β} {first : α} {rest : List α} :
    (first :: rest).findSome? find = (find first).or (rest.findSome? find) := by
  rw [List.findSome?_cons]
  cases find first <;> rfl

/-- A value is refused for the first fault that is found, and it is a request if there is
none. -/
theorem finds_ofValue (v : Json.Value) :
    Finds (ofValue v) (Aspect.all.findSome? fun aspect => aspect.fault? v) := by
  cases v with
  | object members =>
      rw [Aspect.all]
      simp only [findSome?_cons_eq_or, List.findSome?_nil, Option.or_none]
      apply finds_checkVersion.bind
      intro _ _
      apply finds_checkId.bind
      intro id _
      apply finds_checkMethod.bind
      intro _ _
      rw [← Option.or_none (o := Option.or _ _)]
      apply finds_checkCall.bind
      intro call _
      exact ⟨ofCall id call, rfl⟩
  | null | bool _ | number _ | string _ | array _ => exact rfl

/-- Every value that is refused is refused as no well-formed request. -/
theorem kind_of_ofValue {e : Error} (refused : ofValue v = .error e) :
    e.kind = .invalidRequest := by
  have finds := finds_ofValue v
  cases first : Aspect.all.findSome? fun aspect => aspect.fault? v with
  | none =>
      rw [first] at finds
      obtain ⟨request, accepted⟩ := finds
      cases refused.symm.trans accepted
  | some report =>
      rw [first] at finds
      cases refused.symm.trans finds
      rfl

end ContentNode.Rpc.Request
