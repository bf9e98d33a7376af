import ContentNode.Proofs.Rpc.Handling
import ContentNode.Proofs.Rpc.Readers
import ContentNode.Proofs.Store.Events

/-!
# How calls are written

A call is documented as an object that holds its name and an object with its argument.
It is also read where a list stands for one of these objects, or where the name is the key
of an object.  A request whose call is written in no such way is refused, and the store is
not asked.
-/

namespace ContentNode.Rpc

namespace Call

variable {call : Call} {params arguments v : Json.Value} {name field text : String}
  {make : String → Call}

/-- The documented form of a call. -/
structure Documented (call : Call) (params : Json.Value) : Prop where
  name : params.member? "method" = some (.string call.name)
  argument : ∃ arguments, params.member? "params" = some arguments ∧
    arguments.member? call.argumentName = some (.string call.argument)

/-- What gives the argument of a call: an object with the member of its name, or a list
of nothing else. -/
inductive Given (call : Call) : Json.Value → Prop where
  | member {arguments : Json.Value}
      (found : arguments.member? call.argumentName = some (.string call.argument)) :
      Given call arguments
  | element : Given call (.array [.string call.argument])

/-- The forms of a call that are read although they are not documented. -/
inductive Abridged (call : Call) : Json.Value → Prop where
  /-- A list of the name and what gives the argument. -/
  | pair {arguments : Json.Value} (given : Given call arguments) :
      Abridged call (.array [.string call.name, arguments])
  /-- The name as the only key of an object. -/
  | key {params arguments : Json.Value}
      (name : params.member? "method" = some (.object [(call.name, .null)]))
      (content : params.member? "params" = some arguments) (given : Given call arguments) :
      Abridged call params
  /-- The argument as the only element of a list. -/
  | element {params : Json.Value}
      (name : params.member? "method" = some (.string call.name))
      (content : params.member? "params" = some (.array [.string call.argument])) :
      Abridged call params

/-! ### Arguments -/

theorem component_argument (own : ∀ text, (make text).argument = text) :
    (parameters name field make).Component field (.scalar .text) argument := by
  constructor
  · exact ⟨_, by simp [Schema.Record.field?, parameters], fun text _ => own text⟩
  · simp [parameters]

/-- Whatever members are taken in, the call stays one of its kind. -/
theorem kind_of_foldlM {members : List (String × Json.Value)}
    {partly final : Schema.Record.Partial Call}
    (taken : members.foldlM ((parameters name field make).takeMember id fun _ =>
      Json.FromValue.leaf) partly = .ok final)
    (kind : ∃ text, partly.value = make text) : ∃ text, final.value = make text := by
  induction members generalizing partly with
  | nil =>
      obtain rfl := Except.ok.inj taken
      exact kind
  | cons member rest ih =>
      obtain ⟨between, first, others⟩ := bind_eq_ok_iff.mp taken
      apply ih others
      rcases Schema.Record.takeMember_eq_ok first with ⟨-, rfl⟩ | ⟨field, value, found, -, rfl⟩
      · exact kind
      · have known := List.mem_of_find?_eq_some found
        simp only [parameters, List.mem_singleton] at known
        subst known
        exact ⟨value, rfl⟩

theorem leaf_text_eq_ok_iff :
    Json.FromValue.leaf (.scalar .text) v = .ok text ↔ v = .string text :=
  Request.read_parsed_eq_ok_iff

/-- What is read as the parameters of a call gives its argument. -/
theorem of_leafRecord (own : ∀ text, (make text).argument = text)
    (accepted : Json.FromValue.leafRecord .ofValue (parameters name field make) v = .ok call) :
    ∃ text, call = make text ∧
      (v.member? field = some (.string text) ∨ v = .array [.string text]) := by
  cases v with
  | object members =>
      obtain ⟨partly, taken, completed⟩ := bind_eq_ok_iff.mp accepted
      obtain ⟨text, value⟩ := kind_of_foldlM taken ⟨"", rfl⟩
      have read := (component_argument own).read_of_foldlM taken
      unfold Schema.Record.complete at completed
      split at completed
      · cases completed
      · next whole =>
        obtain rfl := Except.ok.inj completed
        have given : field ∈ partly.given := by
          simpa [Schema.Record.missing?, parameters] using whole
        obtain ⟨inside, -⟩ := ((Schema.Record.mem_given_iff taken).mp given).resolve_left
          List.not_mem_nil
        refine ⟨text, value, .inl ?_⟩
        change Json.Value.lookup field members = _
        cases found : Json.Value.lookup field members with
        | none => exact absurd inside (Json.Value.lookup_eq_none_iff.mp found)
        | some w =>
            rw [found] at read
            rw [leaf_text_eq_ok_iff.mp read, value, own]
  | array items =>
      cases items with
      | nil => cases accepted
      | cons element rest =>
          obtain ⟨value, elements, short⟩ := bind_eq_ok_iff.mp accepted
          obtain ⟨⟨_, used⟩, taken, same⟩ := bind_eq_ok_iff.mp elements
          obtain ⟨text, read, taken⟩ := bind_eq_ok_iff.mp taken
          obtain rfl := leaf_text_eq_ok_iff.mp read
          cases rest with
          | nil =>
              cases taken
              cases same
              cases short
              exact ⟨text, rfl, .inr rfl⟩
          | cons second more => cases short
  | null | bool _ | number _ | string _ => cases accepted

/-- The parameters of a call are read from an object with its argument. -/
theorem leafRecord_of_member {members : List (String × Json.Value)}
    (own : ∀ text, (make text).argument = text) (once : (members.map Prod.fst).Nodup)
    (found : Json.Value.lookup field members = some (.string text)) :
    Json.FromValue.leafRecord .ofValue (parameters name field make) (.object members) =
      .ok (make text) := by
  obtain ⟨partly, taken⟩ : ∃ partly, members.foldlM ((parameters name field make).takeMember id
      fun _ => Json.FromValue.leaf) ⟨(parameters name field make).blank, []⟩ = .ok partly := by
    apply Schema.Record.exists_foldlM once (by simp)
    intro only known v member
    simp only [parameters, List.mem_singleton] at known
    subst known
    cases found.symm.trans member
    exact ⟨text, rfl⟩
  have inside : field ∈ members.map Prod.fst := by
    rw [← not_not (a := field ∈ _), ← Json.Value.lookup_eq_none_iff, found]
    exact Option.some_ne_none _
  have given : field ∈ partly.given := by
    apply (Schema.Record.mem_given_iff taken).mpr
    exact .inr ⟨inside, by simp [Schema.Record.field?, parameters]⟩
  have accepted : Json.FromValue.leafRecord .ofValue (parameters name field make)
      (.object members) = .ok partly.value := by
    refine bind_eq_ok_iff.mpr ⟨partly, taken, ?_⟩
    have whole : (parameters name field make).missing? partly.given = none := by
      simpa [Schema.Record.missing?, parameters] using given
    rw [Schema.Record.complete, whole]
    rfl
  obtain ⟨other, value, member | ⟨⟨⟩⟩⟩ := of_leafRecord own accepted
  cases found.symm.trans member
  rw [accepted, value]

/-- The content of a name gives the argument of a call of that name. -/
theorem of_content (accepted : Json.FromValue.content shape name v = .ok call) :
    name = call.name ∧ Given call v := by
  unfold Json.FromValue.content at accepted
  split at accepted
  · cases accepted
  · next alternative selected =>
    unfold Schema.Tagged.select at selected
    split at selected
    · next chosen found =>
      obtain rfl := Except.ok.inj selected
      have tag : chosen.tag = name := by simpa using List.find?_some found
      have known := List.mem_of_find?_eq_some found
      simp only [shape, List.mem_cons, List.not_mem_nil, or_false] at known
      rcases known with rfl | rfl
      · obtain ⟨text, rfl, member | rfl⟩ := of_leafRecord (fun _ => rfl) accepted
        · exact ⟨tag.symm, .member member⟩
        · exact ⟨tag.symm, .element⟩
      · obtain ⟨text, rfl, member | rfl⟩ := of_leafRecord (fun _ => rfl) accepted
        · exact ⟨tag.symm, .member member⟩
        · exact ⟨tag.symm, .element⟩
    · cases selected

/-- What gives the argument of a call is read as the content of its name. -/
theorem content_of_given (once : arguments.HasKeysOnce) (given : Given call arguments) :
    Json.FromValue.content shape call.name arguments = .ok call := by
  cases given with
  | element => cases call <;> rfl
  | member found =>
      cases arguments with
      | object members =>
          cases call with
          | read address =>
              exact leafRecord_of_member (fun text => (rfl : (read text).argument = text)) once found
          | write data =>
              exact leafRecord_of_member (fun text => (rfl : (write text).argument = text)) once found
      | null | bool _ | number _ | string _ | array _ => cases found

/-! ### Calls -/

theorem eq_of_selectName {allowed : List String} {given : String}
    (selected : Schema.selectName allowed name = .ok given) : name = given := by
  unfold Schema.selectName at selected
  split at selected
  · exact Except.ok.inj selected
  · cases selected

/-- A name is written as a string or as the only key of an object. -/
theorem of_name {allowed : List String} (accepted : Json.FromValue.name allowed v = .ok name) :
    v = .string name ∨ v = .object [(name, .null)] := by
  unfold Json.FromValue.name at accepted
  split at accepted
  · exact .inl (congrArg Json.Value.string (eq_of_selectName accepted))
  · next key content =>
    obtain ⟨given, selected, same⟩ := bind_eq_ok_iff.mp accepted
    obtain rfl := eq_of_selectName selected
    cases content with
    | null =>
        cases same
        exact .inr rfl
    | bool _ | number _ | string _ | array _ | object _ => cases same
  · cases accepted
  · cases accepted

/-- A value that is read as a call is written in the documented form, or in one of the
others. -/
theorem of_tagged (accepted : Json.FromValue.tagged shape params = .ok call) :
    Documented call params ∨ Abridged call params := by
  cases params with
  | object members =>
      unfold Json.FromValue.tagged at accepted
      dsimp only at accepted
      split at accepted
      · cases accepted
      · next tag tagMember =>
        obtain ⟨given, named, accepted⟩ := bind_eq_ok_iff.mp accepted
        split at accepted
        · cases accepted
        · next arguments contentMember =>
          obtain ⟨rfl, given⟩ := of_content accepted
          rcases of_name named with rfl | rfl
          · cases given with
            | member found => exact .inl ⟨tagMember, arguments, contentMember, found⟩
            | element => exact .inr (.element tagMember contentMember)
          · exact .inr (.key tagMember contentMember given)
  | array items =>
      cases items with
      | nil => cases accepted
      | cons tag rest =>
          obtain ⟨found, readable, accepted⟩ := bind_eq_ok_iff.mp accepted
          obtain ⟨given, selected, accepted⟩ := bind_eq_ok_iff.mp accepted
          obtain rfl := eq_of_selectName selected
          obtain rfl := Request.read_parsed_eq_ok_iff.mp readable
          cases rest with
          | nil => cases accepted
          | cons arguments more =>
              obtain ⟨value, read, accepted⟩ := bind_eq_ok_iff.mp accepted
              obtain ⟨rfl, given⟩ := of_content read
              cases more with
              | nil =>
                  cases accepted
                  exact .inr (.pair given)
              | cons _ _ => cases accepted
  | null | bool _ | number _ | string _ => cases accepted

/-- The other forms are read as the call that they stand for. -/
theorem tagged_of_abridged (abridged : Abridged call params)
    (once : ∀ arguments, params.member? "params" = some arguments ∨
      params = .array [.string call.name, arguments] → arguments.HasKeysOnce) :
    Json.FromValue.tagged shape params = .ok call := by
  cases abridged with
  | @pair arguments given =>
      have read := content_of_given (once arguments (.inr rfl)) given
      cases call <;>
        exact bind_eq_ok_iff.mpr ⟨_, rfl, bind_eq_ok_iff.mpr ⟨_, rfl,
          bind_eq_ok_iff.mpr ⟨_, read, rfl⟩⟩⟩
  | @key _ arguments name content given =>
      have read := content_of_given (once arguments (.inl content)) given
      cases params with
      | object members =>
          change Json.Value.lookup "method" members = _ at name
          change Json.Value.lookup "params" members = _ at content
          simp only [Json.FromValue.tagged, shape, name, content]
          cases call <;> exact bind_eq_ok_iff.mpr ⟨_, rfl, read⟩
      | null | bool _ | number _ | string _ | array _ => cases name
  | element name content =>
      have read : Json.FromValue.content shape call.name (.array [.string call.argument]) =
          .ok call := content_of_given trivial .element
      cases params with
      | object members =>
          change Json.Value.lookup "method" members = _ at name
          change Json.Value.lookup "params" members = _ at content
          simp only [Json.FromValue.tagged, shape, name, content]
          cases call <;> exact bind_eq_ok_iff.mpr ⟨_, rfl, read⟩
      | null | bool _ | number _ | string _ | array _ => cases name

end Call

/-! ### Requests -/

/-- A value without the documented form of a call is refused as no well-formed request, and
the store is not asked for anything, unless the call has one of the other forms.  Then the
call of an envelope is carried out as if it were written in the documented form. -/
theorem dispatchValue_of_undocumented {σ : Type}
    (onStore : (op : StoreOperation) → σ → op.Answer × σ) (s : σ) (config : EngineConfig)
    (v : Json.Value)
    (undocumented : ∀ params call, v.member? "params" = some params →
      ¬ Call.Documented call params) :
    ((∀ params call, v.member? "params" = some params → ¬ Call.Abridged call params) →
      ∃ e : Error, e.kind = .invalidRequest ∧
        (dispatchValue config v).run (recorded onStore) (s, []) =
          (.failure (echoOf v) e, (s, []))) ∧
    ∀ id params call, v.member? "jsonrpc" = some (.string "2.0") → v.member? "id" = some id →
      isIdentifier id = true → v.member? "method" = some (.string "local") →
      v.member? "params" = some params → Call.Abridged call params →
      (∀ arguments, params.member? "params" = some arguments ∨
        params = .array [.string call.name, arguments] → arguments.HasKeysOnce) →
      (dispatchValue config v).run onStore s =
        (answerTo id ((perform config call).run onStore s).1,
          ((perform config call).run onStore s).2) := by
  constructor
  · intro unabridged
    cases read : Request.ofValue v with
    | error e =>
        exact ⟨e, Request.kind_of_ofValue read, run_dispatchValue_of_rejected read⟩
    | ok request =>
        obtain ⟨members, id, call, rfl, -, -, -, called, -⟩ := Request.ofValue_eq_ok_iff.mp read
        obtain ⟨params, found, readable⟩ := Request.checkCall_eq_ok_iff.mp called
        rcases Call.of_tagged readable with documented | abridged
        · exact absurd documented (undocumented params call found)
        · exact absurd abridged (unabridged params call found)
  · intro id params call version identified usable method found abridged once
    have accepted : Request.ofValue v = .ok (.ofCall id call) := by
      cases v with
      | object members =>
          exact Request.ofValue_eq_ok_iff.mpr ⟨members, id, call, rfl,
            Request.checkVersion_eq_ok_iff.mpr version,
            Request.checkId_eq_ok_iff.mpr ⟨identified, usable⟩,
            Request.checkMethod_eq_ok_iff.mpr method,
            Request.checkCall_eq_ok_iff.mpr ⟨params, found, Call.tagged_of_abridged abridged once⟩,
            rfl⟩
      | null | bool _ | number _ | string _ | array _ => cases version
    exact run_dispatchValue_of_accepted accepted

/-- An envelope around what stands in the place of a call. -/
def envelope (params : Json.Value) : Json.Value :=
  .object [("id", .integer 1), ("jsonrpc", .string "2.0"), ("method", .string "local"),
    ("params", params)]

/-- A call to write a number. -/
def writeNumber : Json.Value :=
  .object [("method", .string "write"), ("params", .object [("data", .integer 5)])]

/-- A call to write a text, as a list of its name and a list with the text. -/
def writeInList : Json.Value := .array [.string "write", .array [.string "x"]]

theorem not_documented_writeInList (call : Call) : ¬ Call.Documented call writeInList := by
  rintro ⟨⟨⟩, -⟩

/-- A number is not written, and the text in a list is. -/
theorem dispatchValue_of_number_and_list :
    (∃ e : Error, e.kind = .invalidRequest ∧
      (dispatchValue .standard (envelope writeNumber)).run (recorded (MemoryStore.perform 0))
        (.empty, []) = (.failure (.integer 1) e, (.empty, []))) ∧
    (dispatchValue .standard (envelope writeInList)).run (MemoryStore.perform 0) .empty =
      (answerTo (.integer 1)
          ((perform .standard (.write "x")).run (MemoryStore.perform 0) .empty).1,
        ((perform .standard (.write "x")).run (MemoryStore.perform 0) .empty).2) := by
  constructor
  · apply (dispatchValue_of_undocumented _ _ _ _ ?_).1
    · rintro _ call ⟨⟩ abridged
      cases abridged with
      | key name => simp [writeNumber, Json.Value.member?, Json.Value.lookup] at name
      | element _ content => simp [writeNumber, Json.Value.member?, Json.Value.lookup] at content
    · rintro _ call ⟨⟩ ⟨name, _, ⟨⟩, argument⟩
      cases call with
      | read address =>
          simp [writeNumber, Json.Value.member?, Json.Value.lookup, Call.name] at name
      | write data =>
          simp [Json.Value.member?, Json.Value.lookup, Call.argumentName] at argument
  · apply (dispatchValue_of_undocumented _ _ _ _ ?_).2 (.integer 1) writeInList (.write "x") rfl rfl
      rfl rfl rfl
    · exact .pair .element
    · rintro _ (⟨⟨⟩⟩ | ⟨⟨⟩⟩)
      trivial
    · rintro _ call ⟨⟩
      exact not_documented_writeInList call

/-- A text in a list is stored although the call is not documented: the store is asked twice
and holds an object afterwards. -/
theorem stored_of_list :
    (∀ params call, (envelope writeInList).member? "params" = some params →
      ¬ Call.Documented call params) ∧
    let (response, store, log) :=
      (dispatchValue .standard (envelope writeInList)).run (recorded (MemoryStore.perform 0))
        (.empty, [])
    response.isSuccess = true ∧ store.size = 1 ∧ log.length = 2 := by
  constructor
  · rintro _ call ⟨⟩
    exact not_documented_writeInList call
  · decide +kernel

end ContentNode.Rpc
