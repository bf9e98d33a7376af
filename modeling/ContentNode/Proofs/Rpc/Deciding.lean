import ContentNode.Proofs.Engine.OnMemory
import ContentNode.Proofs.Rpc.Handling
import ContentNode.Proofs.Store.Events

/-!
# What decides a response

Which response a body gets from a node on a store of any kind, whatever the store answers.
A body that is no request, a payload that cannot be stored and a text that is no address
are answered without asking the store.  Otherwise the store is asked for as little as
possible, and each of its answers has its own response.
-/

namespace ContentNode.Rpc

/-- The code of the error in a response. -/
def Response.code? (response : Response) : Option Int := response.error?.map ErrorObject.code

variable {config : EngineConfig} {body data : ByteArray} {id result : Json.Value}
  {text : String} {address : Address} {σ : Type}
  {onStore : (op : StoreOperation) → σ → op.Answer × σ} {s : σ} {response : Response}
  {log : List StoreEvent}

@[simp]
theorem code?_success : (Response.success id result).code? = none := rfl

@[simp]
theorem code?_failure {e : Error} : (Response.failure id e).code? = some e.kind.code := rfl

@[simp]
theorem result?_success : (Response.success id result).result? = some result := rfl

@[simp]
theorem result?_failure {e : Error} : (Response.failure id e).result? = none := rfl

/-! ### Calls to write -/

/-- What a call to write is answered, and what the store is asked for. -/
structure WriteDecided (config : EngineConfig) (data : ByteArray) (response : Response)
    (log : List StoreEvent) : Prop where
  refused : response.code? = some (-32602) ↔
    data.size = 0 ∨ config.maxPayloadSize < data.size
  silent : ¬ Engine.Acceptable config data → log = []
  asked : Engine.Acceptable config data →
    (log = [⟨.exists_ (config.codec.derive data), true⟩] ∧
      response.result? = some (.string (config.codec.derive data).encode)) ∨
    ∃ answer, log = [⟨.exists_ (config.codec.derive data), false⟩,
        ⟨.put (config.codec.derive data) data, answer⟩] ∧
      (response.result? = some (.string (config.codec.derive data).encode) ↔
        ∃ outcome, answer = .ok outcome) ∧
      (response.code? = some (-32004) ↔ ∃ e, answer = .error e)

/-- A call to write asks the store only for what it needs. -/
theorem writeDecided (id : Json.Value) (s : σ) :
    WriteDecided config data
      (answerTo id (.write ((Engine.write config data).run (recorded onStore) (s, [])).1))
      ((Engine.write config data).run (recorded onStore) (s, [])).2.2 := by
  rw [Engine.write]
  cases problem : Engine.payloadProblem? config data with
  | some problem =>
      have refused : ¬ Engine.Acceptable config data := by
        rw [← Engine.payloadProblem?_eq_none_iff, problem]
        simp
      constructor
      · exact iff_of_true rfl (Engine.not_acceptable_iff.mp refused)
      · exact fun _ => rfl
      · exact fun accepted => absurd accepted refused
  | none =>
      have accepted := Engine.payloadProblem?_eq_none_iff.mp problem
      have fine : ¬ (data.size = 0 ∨ config.maxPayloadSize < data.size) := fun refused =>
        Engine.not_acceptable_iff.mpr refused accepted
      rcases first : onStore (.exists_ (config.codec.derive data)) s with ⟨present, t⟩
      rcases second : onStore (.put (config.codec.derive data) data) t with ⟨answer, u⟩
      cases (present : Bool) with
      | true =>
          simp only [Engine.commit, Program.run_step, recorded, first]
          constructor
          · exact iff_of_false (by simp) fine
          · exact fun refused => absurd accepted refused
          · exact fun _ => .inl ⟨rfl, rfl⟩
      | false =>
          simp only [Engine.commit, Program.run_step, recorded, first, Bool.false_eq_true, if_false,
            second]
          cases (answer : Except StoreError PutOutcome) with
          | ok outcome =>
            constructor
            · exact iff_of_false (by simp) fine
            · exact fun refused => absurd accepted refused
            · intro _
              exact .inr ⟨.ok outcome, rfl, iff_of_true rfl ⟨outcome, rfl⟩,
                iff_of_false (by simp) (by simp)⟩
          | error e =>
            constructor
            · exact iff_of_false (by simp [Error.ofEngine, Error.kindOf, ErrorKind.code]) fine
            · exact fun refused => absurd accepted refused
            · intro _
              exact .inr ⟨.error e, rfl, iff_of_false (by simp) (by simp),
                iff_of_true rfl ⟨e, rfl⟩⟩

/-! ### Calls to read -/

/-- What a call to read is answered after the store has given its answer. -/
structure AnswerDecided (config : EngineConfig) (address : Address) (response : Response)
    (answer : Except StoreError StoredObject) : Prop where
  wellFormed : response.code? ≠ some (-32002)
  notFound : response.code? = some (-32001) ↔ ∃ other, answer = .error (.notFound other)
  violated : response.code? = some (-32003) ↔
    (∃ other reason, answer = .error (.corrupt other reason)) ∨
      ∃ object, answer = .ok object ∧ config.codec.derive object.payload ≠ address
  failed : response.code? = some (-32004) ↔
    (∃ reason, answer = .error (.serialization reason)) ∨ ∃ cause, answer = .error (.io cause)
  succeeded : ∀ result, response.result? = some result ↔
    ∃ object, answer = .ok object ∧ config.codec.derive object.payload = address ∧
      result = renderPayload object.payload

theorem answerDecided (id : Json.Value) (answer : Except StoreError StoredObject) :
    AnswerDecided config address (answerTo id (.read (Engine.verify config address answer)))
      answer := by
  rcases answer with e | object
  · constructor <;> cases e <;>
      simp [Engine.verify, Error.ofEngine, Error.kindOf, ErrorKind.code]
  · by_cases own : config.codec.derive object.payload = address
    · constructor <;>
        simp [Engine.verify, own, eq_comm]
    · constructor <;>
        simp [Engine.verify, own, Error.ofEngine, Error.kindOf, ErrorKind.code]

/-- What a call to read is answered, and what the store is asked for. -/
structure ReadDecided (config : EngineConfig) (text : String) (response : Response)
    (log : List StoreEvent) : Prop where
  malformed : response.code? = some (-32002) ↔ ∀ address : Address, text ≠ address.encode
  silent : (∀ address : Address, text ≠ address.encode) → log = []
  asked : ∀ address : Address, text = address.encode →
    ∃ answer, log = [⟨.get address, answer⟩] ∧ AnswerDecided config address response answer

/-- A call to read asks the store once, or not at all. -/
theorem readDecided (id : Json.Value) (s : σ) :
    ReadDecided config text
      (answerTo id (.read ((Engine.read config text).run (recorded onStore) (s, [])).1))
      ((Engine.read config text).run (recorded onStore) (s, [])).2.2 := by
  cases denoted : Address.parse text with
  | error reason =>
      have foreign (address : Address) : text ≠ address.encode := by
        rintro rfl
        rw [Address.parse_encode] at denoted
        cases denoted
      rw [read_eq_of_malformed denoted]
      constructor
      · exact iff_of_true rfl foreign
      · exact fun _ => rfl
      · exact fun address same => absurd same (foreign address)
  | ok address =>
      obtain rfl := Address.eq_encode_of_parse denoted
      have canonical : ¬ ∀ other : Address, address.encode ≠ other.encode := fun foreign =>
        foreign address rfl
      rcases asked : onStore (.get address) s with ⟨answer, t⟩
      have decided : AnswerDecided config address
          (answerTo id (.read (Engine.verify config address answer))) answer :=
        answerDecided id answer
      rw [read_encode, Engine.readAddress]
      simp only [Program.run_step, Program.run_done, recorded, asked, List.nil_append]
      constructor
      · exact iff_of_false decided.wellFormed canonical
      · exact fun foreign => absurd foreign canonical
      · intro other same
        obtain rfl := Address.encode_injective same
        exact ⟨answer, rfl, decided⟩

/-! ### Bodies -/

/-- A response has a result or an error, and not both. -/
theorem result?_xor_error? (response : Response) :
    Xor (∃ result, response.result? = some result) (∃ e, response.error? = some e) := by
  obtain ⟨version, id, result | e⟩ := response
  · exact .inl ⟨⟨result, rfl⟩, nofun⟩
  · exact .inr ⟨⟨e, rfl⟩, nofun⟩

/-- The outcome of a call is answered under its identifier. -/
theorem answerTo_envelope (id : Json.Value) (outcome : CallOutcome) :
    (answerTo id outcome).version = "2.0" ∧ (answerTo id outcome).id = id := by
  unfold answerTo
  split <;> exact ⟨rfl, rfl⟩

/-- The outcome of a call is no failure to read a request. -/
theorem code?_answerTo (id : Json.Value) (outcome : CallOutcome) :
    (answerTo id outcome).code? ≠ some (-32700) ∧ (answerTo id outcome).code? ≠ some (-32600) := by
  rcases outcome with (e | payload) | (e | receipt)
  · cases e <;> simp [Error.ofEngine, Error.kindOf, ErrorKind.code]
  · simp
  · cases e <;> simp [Error.ofEngine, Error.kindOf, ErrorKind.code]
  · simp

/-- The response to an envelope is decided by its call. -/
theorem called {call : Call} {t : σ} (envelope : Envelops body id call)
    (ran : (dispatch config body).run (recorded onStore) (s, []) = (response, (t, log))) :
    ∃ outcome, response = answerTo id outcome ∧
      (∀ data, call = .write data → WriteDecided config data.toUTF8 response log) ∧
      ∀ text, call = .read text → ReadDecided config text response log := by
  rw [run_dispatch_of_envelops envelope] at ran
  obtain ⟨rfl, rest⟩ := Prod.mk.inj ran
  obtain rfl := congrArg Prod.snd rest
  refine ⟨_, rfl, ?_⟩
  cases call with
  | write data =>
      rw [run_perform_write]
      refine ⟨?_, nofun⟩
      rintro _ ⟨⟩
      exact writeDecided id s
  | read text =>
      rw [run_perform_read]
      refine ⟨nofun, ?_⟩
      rintro _ ⟨⟩
      exact readDecided id s

/-- What a body is answered, and what the store is asked for. -/
structure Decided (config : EngineConfig) (body : ByteArray) (response : Response)
    (log : List StoreEvent) : Prop where
  version : response.version = "2.0"
  exclusive : Xor (∃ result, response.result? = some result) (∃ e, response.error? = some e)
  parseError : response.code? = some (-32700) ↔
    ∃ failure, Json.Parser.parse body.data.toList = .error failure
  invalidRequest : response.code? = some (-32600) ↔
    ∃ v e, Json.Parser.parse body.data.toList = .ok v ∧ Request.ofValue v = .error e
  notJson : ∀ failure, Json.Parser.parse body.data.toList = .error failure →
    response.id = .null ∧ log = []
  rejected : ∀ v e, Json.Parser.parse body.data.toList = .ok v → Request.ofValue v = .error e →
    response.id = echoOf v ∧ log = []
  accepted : ∀ v request, Json.Parser.parse body.data.toList = .ok v →
    Request.ofValue v = .ok request →
    response.id = request.id ∧ v.member? "id" = some request.id ∧
      ((∃ text, request.id = .string text) ∨ ∃ n, request.id = .number n) ∧
      (∀ data, request.call = .write data → WriteDecided config data.toUTF8 response log) ∧
      ∀ text, request.call = .read text → ReadDecided config text response log

/-- A body that is no JSON is answered with no identifier. -/
theorem decided_of_notJson {failure : Json.Failure} {message : String}
    (unreadable : Json.Parser.parse body.data.toList = .error failure) :
    Decided config body (.failure .null (.parseError message)) [] where
  version := rfl
  exclusive := result?_xor_error? _
  parseError := iff_of_true rfl ⟨failure, unreadable⟩
  invalidRequest := iff_of_false (by simp [Error.parseError, ErrorKind.code]) (by simp [unreadable])
  notJson _ _ := ⟨rfl, rfl⟩
  rejected := by simp [unreadable]
  accepted := by simp [unreadable]

/-- A value that is refused is answered with its identifier, if that is usable. -/
theorem decided_of_rejected {v : Json.Value} {e : Error}
    (readable : Json.Parser.parse body.data.toList = .ok v)
    (refused : Request.ofValue v = .error e) :
    Decided config body (.failure (echoOf v) e) [] where
  version := rfl
  exclusive := result?_xor_error? _
  parseError := iff_of_false
    (by simp [Request.kind_of_ofValue refused, ErrorKind.code]) (by simp [readable])
  invalidRequest := iff_of_true (by simp [Request.kind_of_ofValue refused, ErrorKind.code])
    ⟨v, e, readable, refused⟩
  notJson := by simp [readable]
  rejected := by
    rintro w _ other -
    obtain rfl := Except.ok.inj (readable.symm.trans other)
    exact ⟨rfl, rfl⟩
  accepted := by
    rintro w request other also
    obtain rfl := Except.ok.inj (readable.symm.trans other)
    cases refused.symm.trans also

/-- A request is answered under its identifier, as its call decides. -/
theorem decided_of_accepted {v : Json.Value} {request : Request} {outcome : CallOutcome}
    (readable : Json.Parser.parse body.data.toList = .ok v)
    (accepted : Request.ofValue v = .ok request)
    (write : ∀ data, request.call = .write data →
      WriteDecided config data.toUTF8 (answerTo request.id outcome) log)
    (read : ∀ text, request.call = .read text →
      ReadDecided config text (answerTo request.id outcome) log) :
    Decided config body (answerTo request.id outcome) log where
  version := (answerTo_envelope request.id outcome).1
  exclusive := result?_xor_error? _
  parseError := iff_of_false (code?_answerTo request.id outcome).1 (by simp [readable])
  invalidRequest :=
    iff_of_false (code?_answerTo request.id outcome).2 (by simp [readable, accepted])
  notJson := by simp [readable]
  rejected := by
    rintro w e other refused
    obtain rfl := Except.ok.inj (readable.symm.trans other)
    cases refused.symm.trans accepted
  accepted := by
    rintro w other same also
    obtain rfl := Except.ok.inj (readable.symm.trans same)
    obtain rfl := Except.ok.inj (accepted.symm.trans also)
    obtain ⟨member, usable⟩ := Request.member?_id_of_ofValue accepted
    exact ⟨(answerTo_envelope request.id outcome).2, member, Request.isIdentifier_iff.mp usable,
      write, read⟩

/-- Whatever a store answers, every body gets a response, and this is what decides it. -/
theorem dispatch_decided {σ : Type} (onStore : (op : StoreOperation) → σ → op.Answer × σ) (s : σ)
    (config : EngineConfig) (body : ByteArray) :
    ∃ response t log, (dispatch config body).run onStore s = (response, t) ∧
      (dispatch config body).run (recorded onStore) (s, []) = (response, (t, log)) ∧
      Decided config body response log := by
  obtain ⟨log, same⟩ := run_recorded onStore (dispatch config body) s []
  rcases alone : (dispatch config body).run onStore s with ⟨response, t⟩
  rw [alone] at same
  refine ⟨response, t, log, rfl, same, ?_⟩
  cases readable : Json.Parser.parse body.data.toList with
  | error failure =>
      rw [run_dispatch_of_notJson readable] at same
      obtain ⟨rfl, rest⟩ := Prod.mk.inj same
      obtain ⟨-, rfl⟩ := Prod.mk.inj rest
      exact decided_of_notJson readable
  | ok v =>
      cases accepted : Request.ofValue v with
      | error e =>
          rw [run_dispatch_of_rejected readable accepted] at same
          obtain ⟨rfl, rest⟩ := Prod.mk.inj same
          obtain ⟨-, rfl⟩ := Prod.mk.inj rest
          exact decided_of_rejected readable accepted
      | ok request =>
          have envelope : Envelops body request.id request.call :=
            ⟨v, request, readable, accepted, (Request.member?_id_of_ofValue accepted).1, rfl⟩
          obtain ⟨outcome, rfl, write, read⟩ := called envelope same
          exact decided_of_accepted readable accepted write read

end ContentNode.Rpc
