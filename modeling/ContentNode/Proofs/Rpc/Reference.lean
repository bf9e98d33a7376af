import ContentNode.Proofs.Rpc.Asking

/-!
# A node as a map

What a node on a store in memory answers to a sequence of bodies, told by nothing
but a map from addresses to payloads.  The rules of this reference node say for
every shape of a body which response it gets and what it adds to the map.  A run
of the node follows the rules, and no other responses and no other map do.
-/

namespace ContentNode.Rpc

/-- Answers bodies one after another, each at its own moment. -/
def serve {σ : Type} (perform : Instant → (op : StoreOperation) → σ → op.Answer × σ)
    (config : EngineConfig) : List (Instant × ByteArray) → σ → List Response × σ
  | [], s => ([], s)
  | (now, body) :: rest, s =>
    let (response, s) := (dispatch config body).run (perform now) s
    let (responses, s) := serve perform config rest s
    (response :: responses, s)

/-- Bodies that follow others are answered on the store that the others leave. -/
theorem serve_append {σ : Type}
    (perform : Instant → (op : StoreOperation) → σ → op.Answer × σ) (config : EngineConfig)
    (requests more : List (Instant × ByteArray)) (s : σ) :
    (serve perform config (requests ++ more) s).2 =
      (serve perform config more (serve perform config requests s).2).2 := by
  induction requests generalizing s with
  | nil => rfl
  | cons request rest ih => exact ih _

/-- After any bodies, a store in memory holds the first of the objects that they offered. -/
theorem gathers_serve (config : EngineConfig) (requests : List (Instant × ByteArray)) :
    (serve MemoryStore.perform config requests .empty).2.Gathers (offersOf config requests) := by
  induction requests using List.reverseRecOn with
  | nil => exact MemoryStore.gathers_nil
  | append_singleton requests request ih =>
    rw [serve_append, offersOf, filterMap_append_singleton]
    exact gathers_dispatch ih request

namespace Reference

/-- The payloads of the reference node by their addresses. -/
abbrev Objects := Address → Option ByteArray

/-- The map with a payload added, unless its address is taken. -/
def Objects.add (objects : Objects) (address : Address) (payload : ByteArray) : Objects :=
  if (objects address).isSome then objects else Function.update objects address (some payload)

/-- The rules of the reference node: the response to a body and the map after it. -/
inductive Answers (config : EngineConfig) :
    Objects → ByteArray → Response → Objects → Prop where
  | notJson {objects : Objects} {body : ByteArray} {failure : Json.Failure}
      (unreadable : Json.Parser.parse body.data.toList = .error failure) :
      Answers config objects body
        (.failure .null ⟨.parseError, "Parse error: " ++ failure.message body.data.toList⟩)
        objects
  | rejected {objects : Objects} {body : ByteArray} {v : Json.Value} {e : Error}
      (readable : Json.Parser.parse body.data.toList = .ok v)
      (refused : Request.ofValue v = .error e) :
      Answers config objects body (.failure (echoOf v) ⟨.invalidRequest, e.message⟩) objects
  | empty {objects : Objects} {body : ByteArray} {id : Json.Value} {data : String}
      (envelope : Envelops body id (.write data)) (empty : data.toUTF8.size = 0) :
      Answers config objects body
        (.failure id ⟨.invalidPayload, "Invalid payload: payload is empty"⟩) objects
  | tooLong {objects : Objects} {body : ByteArray} {id : Json.Value} {data : String}
      (envelope : Envelops body id (.write data))
      (long : config.maxPayloadSize < data.toUTF8.size) :
      Answers config objects body
        (.failure id ⟨.invalidPayload, "Invalid payload: payload of " ++
          toString data.toUTF8.size ++ " bytes exceeds the " ++
          toString config.maxPayloadSize ++ " byte limit"⟩)
        objects
  | written {objects : Objects} {body : ByteArray} {id : Json.Value} {data : String}
      (envelope : Envelops body id (.write data)) (nonempty : 0 < data.toUTF8.size)
      (short : data.toUTF8.size ≤ config.maxPayloadSize) :
      Answers config objects body
        (.success id (.string (config.codec.derive data.toUTF8).encode))
        (objects.add (config.codec.derive data.toUTF8) data.toUTF8)
  | malformed {objects : Objects} {body : ByteArray} {id : Json.Value} {text : String}
      {reason : Address.ParseError} (envelope : Envelops body id (.read text))
      (foreign : ∀ address : Address, text ≠ address.encode)
      (report : Address.parse text = .error reason) :
      Answers config objects body
        (.failure id ⟨.malformedAddress, "Malformed address " ++
          Text.Quoted.string (MalformedAddress.shorten text) ++ ": " ++ reason.message⟩)
        objects
  | missing {objects : Objects} {body : ByteArray} {id : Json.Value} {address : Address}
      (envelope : Envelops body id (.read address.encode)) (free : objects address = none) :
      Answers config objects body
        (.failure id ⟨.notFound, "Object not found: " ++ address.encode⟩) objects
  | found {objects : Objects} {body : ByteArray} {id : Json.Value} {address : Address}
      {text : String} (envelope : Envelops body id (.read address.encode))
      (held : objects address = some text.toUTF8) :
      Answers config objects body (.success id (.string text)) objects

/-- Bodies that the reference node answers one after another. -/
inductive Serves (config : EngineConfig) :
    Objects → List ByteArray → List Response → Objects → Prop where
  | nil {objects : Objects} : Serves config objects [] [] objects
  | cons {before between after : Objects} {body : ByteArray} {bodies : List ByteArray}
      {response : Response} {responses : List Response}
      (first : Answers config before body response between)
      (rest : Serves config between bodies responses after) :
      Serves config before (body :: bodies) (response :: responses) after

/-! ### A single body -/

variable {config : EngineConfig} {now : Instant} {store : MemoryStore} {body : ByteArray}
  {response : Response} {objects : Objects}

/-- What a node keeps true of its store: every address is held once, and every
payload is a text that was accepted and has the address it is held under. -/
structure Kept (config : EngineConfig) (store : MemoryStore) : Prop where
  distinct : store.Distinct
  isText : ∀ {address payload}, store.payload? address = some payload →
    ∃ text : String, payload = text.toUTF8
  named : ∀ {address payload}, store.payload? address = some payload →
    config.codec.derive payload = address

theorem kept_empty : Kept config .empty where
  distinct := MemoryStore.distinct_empty
  isText := nofun
  named := nofun

/-- Storing a text under its address keeps all this true. -/
theorem Kept.put (kept : Kept config store) (text : String) :
    Kept config (store.put now (config.codec.derive text.toUTF8) text.toUTF8).2 := by
  have entry {address : Address} {payload : ByteArray}
      (held : (store.put now (config.codec.derive text.toUTF8) text.toUTF8).2.payload? address =
        some payload) :
      store.payload? address = some payload ∨
        address = config.codec.derive text.toUTF8 ∧ payload = text.toUTF8 := by
    rw [MemoryStore.payload?_put] at held
    split at held
    · exact .inl held
    · by_cases same : address = config.codec.derive text.toUTF8
      · rw [same, Function.update_self] at held
        exact .inr ⟨same, (Option.some.inj held).symm⟩
      · rw [Function.update_of_ne same] at held
        exact .inl held
  constructor
  · exact kept.distinct.put
  · intro address payload held
    rcases entry held with old | ⟨-, rfl⟩
    · exact kept.isText old
    · exact ⟨text, rfl⟩
  · intro address payload held
    rcases entry held with old | ⟨rfl, rfl⟩
    · exact kept.named old
    · rfl

/-- What the rules say is what the node does. -/
theorem run_of_answers (now : Instant) (kept : Kept config store)
    (rule : Answers config store.payload? body response objects) :
    ((dispatch config body).run (MemoryStore.perform now) store).1 = response ∧
      ((dispatch config body).run (MemoryStore.perform now) store).2.payload? = objects := by
  cases rule with
  | notJson unreadable =>
    rw [run_dispatch_of_notJson unreadable]
    exact ⟨rfl, rfl⟩
  | @rejected v e readable refused =>
    have kind : e = ⟨.invalidRequest, e.message⟩ := by
      rw [← Request.kind_of_ofValue refused]
    rw [run_dispatch_of_rejected readable refused, ← kind]
    exact ⟨rfl, rfl⟩
  | @empty id data envelope empty =>
    have problem : Engine.payloadProblem? config data.toUTF8 = some .empty := by
      rw [Engine.payloadProblem?, if_pos empty]
    rw [run_dispatch_of_envelops envelope, run_perform_write,
      Engine.run_write_of_problem problem]
    constructor
    · simp only [answerTo_write_error, Error.ofEngine_eq]
      rfl
    · rfl
  | @tooLong id data envelope long =>
    have problem : Engine.payloadProblem? config data.toUTF8 =
        some (.tooLong data.toUTF8.size config.maxPayloadSize) := by
      rw [Engine.payloadProblem?, if_neg (by omega), if_pos long]
    rw [run_dispatch_of_envelops envelope, run_perform_write,
      Engine.run_write_of_problem problem]
    constructor
    · simp only [answerTo_write_error, Error.ofEngine_eq]
      simp only [Engine.PayloadProblem.message, String.append_assoc]
      rfl
    · rfl
  | @written id data envelope nonempty short =>
    have acceptable := Engine.payloadProblem?_eq_none_iff.mpr ⟨nonempty, short⟩
    obtain ⟨receipt, address, run⟩ := Engine.run_write_of_none now store acceptable
    rw [run_dispatch_of_envelops envelope, run_perform_write, run]
    constructor
    · rw [← address]
      rfl
    · exact MemoryStore.payload?_put
  | @malformed id text reason envelope foreign report =>
    rw [run_dispatch_of_envelops envelope, run_perform_read, read_eq_of_malformed report,
      Program.run_done]
    constructor
    · simp only [answerTo_read_error, Error.ofEngine_eq]
      rfl
    · rfl
  | @missing id address envelope free =>
    rw [run_dispatch_of_envelops envelope, run_perform_read, read_encode,
      Engine.run_readAddress_of_free free]
    constructor
    · simp only [answerTo_read_error, Error.ofEngine_eq]
      rfl
    · rfl
  | @found id address text envelope held =>
    rw [run_dispatch_of_envelops envelope, run_perform_read, read_encode,
      Engine.run_readAddress_of_held held (kept.named held)]
    constructor
    · simp only [answerTo, CallOutcome.result, renderPayload_toUTF8]
    · rfl

/-- The rules cover every body. -/
theorem exists_answers (kept : Kept config store) (body : ByteArray) :
    ∃ response objects, Answers config store.payload? body response objects := by
  cases readable : Json.Parser.parse body.data.toList with
  | error failure => exact ⟨_, _, .notJson readable⟩
  | ok v =>
    cases accepted : Request.ofValue v with
    | error e => exact ⟨_, _, .rejected readable accepted⟩
    | ok request =>
      have envelope : Envelops body request.id request.call :=
        ⟨v, request, readable, accepted, (Request.member?_id_of_ofValue accepted).1, rfl⟩
      cases call : request.call with
      | write data =>
        rw [call] at envelope
        by_cases empty : data.toUTF8.size = 0
        · exact ⟨_, _, .empty envelope empty⟩
        · by_cases long : config.maxPayloadSize < data.toUTF8.size
          · exact ⟨_, _, .tooLong envelope long⟩
          · exact ⟨_, _, .written envelope (Nat.pos_of_ne_zero empty) (Nat.le_of_not_lt long)⟩
      | read text =>
        rw [call] at envelope
        cases denoted : Address.parse text with
        | error reason =>
          refine ⟨_, _, .malformed envelope ?_ denoted⟩
          rintro address rfl
          rw [Address.parse_encode] at denoted
          contradiction
        | ok address =>
          obtain rfl := Address.eq_encode_of_parse denoted
          cases held : store.payload? address with
          | none => exact ⟨_, _, .missing envelope held⟩
          | some payload =>
            obtain ⟨text, rfl⟩ := kept.isText held
            exact ⟨_, _, .found envelope held⟩

/-- The rules are met by what the node does and by nothing else. -/
theorem answers_iff (now : Instant) (kept : Kept config store) :
    Answers config store.payload? body response objects ↔
      response = ((dispatch config body).run (MemoryStore.perform now) store).1 ∧
        objects = ((dispatch config body).run (MemoryStore.perform now) store).2.payload? := by
  constructor
  · intro rule
    obtain ⟨sameResponse, sameObjects⟩ := run_of_answers now kept rule
    exact ⟨sameResponse.symm, sameObjects.symm⟩
  · rintro ⟨rfl, rfl⟩
    obtain ⟨response, objects, rule⟩ := exists_answers kept body
    obtain ⟨rfl, rfl⟩ := run_of_answers now kept rule
    exact rule

/-- Answering a body keeps what the node keeps true. -/
theorem Kept.dispatch (kept : Kept config store) (now : Instant) (body : ByteArray) :
    Kept config ((dispatch config body).run (MemoryStore.perform now) store).2 := by
  rw [run_dispatch_store]
  cases asked : payloadOf? config body with
  | none => exact kept
  | some payload =>
    obtain ⟨id, data, -, -, rfl⟩ := payloadOf?_eq_some_iff.mp asked
    exact kept.put data

/-- What a body is answered is never about a damaged object or a failed store. -/
theorem kind_of_answers {before : Objects} {e : ErrorObject}
    (rule : Answers config before body response objects) (failed : response.error? = some e) :
    e.kind? ≠ some .integrityViolation ∧ e.kind? ≠ some .storageFailure := by
  have ofKind {kind : ErrorKind} {text : String} {id : Json.Value}
      (harmless : kind ≠ .integrityViolation ∧ kind ≠ .storageFailure)
      (same : (Response.failure id ⟨kind, text⟩).error? = some e) :
      e.kind? ≠ some .integrityViolation ∧ e.kind? ≠ some .storageFailure := by
    obtain rfl := Option.some.inj same
    rw [ErrorObject.kind?, show (Error.toObject ⟨kind, text⟩).code = kind.code from rfl,
      ErrorKind.ofCode?_code]
    simpa using harmless
  cases rule with
  | notJson | rejected | empty | tooLong | malformed | missing =>
    exact ofKind (by decide) failed
  | written | found => contradiction

/-! ### Runs -/

/-- A node on a store in memory follows the rules of the reference node body by
body, whatever it has been asked before. -/
theorem serves_iff (requests : List (Instant × ByteArray)) {responses : List Response}
    (kept : Kept config store) :
    Serves config store.payload? (requests.map Prod.snd) responses objects ↔
      responses = (serve MemoryStore.perform config requests store).1 ∧
        objects = (serve MemoryStore.perform config requests store).2.payload? := by
  induction requests generalizing store responses with
  | nil =>
    constructor
    · rintro ⟨⟩
      exact ⟨rfl, rfl⟩
    · rintro ⟨rfl, rfl⟩
      exact .nil
  | cons request rest ih =>
    obtain ⟨now, body⟩ := request
    have kept' := kept.dispatch now body
    constructor
    · rintro ⟨⟩
      next between response responses first others =>
        obtain ⟨rfl, rfl⟩ := (answers_iff now kept).mp first
        obtain ⟨rfl, rfl⟩ := (ih kept').mp others
        exact ⟨rfl, rfl⟩
    · rintro ⟨rfl, rfl⟩
      exact .cons ((answers_iff now kept).mpr ⟨rfl, rfl⟩) ((ih kept').mpr ⟨rfl, rfl⟩)

/-- What a node keeps true of its store holds after any bodies. -/
theorem Kept.serve (kept : Kept config store) (requests : List (Instant × ByteArray)) :
    Kept config (serve MemoryStore.perform config requests store).2 := by
  induction requests generalizing store with
  | nil => exact kept
  | cons request rest ih => exact ih (kept.dispatch request.1 request.2)

/-- No response of the reference node is about a damaged object or a failed store. -/
theorem kind_of_serves {before : Objects} {bodies : List ByteArray} {responses : List Response}
    (run : Serves config before bodies responses objects) :
    ∀ response ∈ responses, ∀ e, response.error? = some e →
      e.kind? ≠ some .integrityViolation ∧ e.kind? ≠ some .storageFailure := by
  induction run with
  | nil => nofun
  | cons first _ ih =>
    intro response member e failed
    rcases List.mem_cons.mp member with rfl | member
    · exact kind_of_answers first failed
    · exact ih response member e failed

/-- A node on an empty store in memory is the reference node: to any bodies it
gives the responses that the rules allow and no others, and what it holds in the
end is the map of the reference node, every address once and every payload under
its own address.  No request ever meets a damaged object or a failed store. -/
theorem serve_memory_iff (config : EngineConfig) (requests : List (Instant × ByteArray)) :
    (∀ responses objects,
      Serves config (fun _ => none) (requests.map Prod.snd) responses objects ↔
        responses = (serve MemoryStore.perform config requests .empty).1 ∧
          objects = (serve MemoryStore.perform config requests .empty).2.payload?) ∧
      (serve MemoryStore.perform config requests .empty).2.Distinct ∧
      (∀ address payload,
        (serve MemoryStore.perform config requests .empty).2.payload? address = some payload →
          config.codec.derive payload = address) ∧
      ∀ response ∈ (serve MemoryStore.perform config requests .empty).1,
        ∀ e, response.error? = some e →
          e.kind? ≠ some .integrityViolation ∧ e.kind? ≠ some .storageFailure := by
  have start : Kept config .empty := kept_empty
  have kept := start.serve requests
  have run := (serves_iff requests start).mpr ⟨rfl, rfl⟩
  exact ⟨fun _ _ => serves_iff requests start, kept.distinct, fun _ _ => kept.named,
    kind_of_serves run⟩

end Reference

end ContentNode.Rpc
