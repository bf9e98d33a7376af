import ContentNode.Proofs.Address.Text
import ContentNode.Proofs.Rpc.Envelope
import ContentNode.Rpc.Dispatch

/-!
# What becomes of a body

A body is no JSON, or it is refused, or it is the envelope of a call.  In the first
two cases the store is not asked for anything; in the third the response is the
outcome of the call under the identifier of the envelope.
-/

namespace ContentNode.Rpc

variable {σ : Type} {onStore : (op : StoreOperation) → σ → op.Answer × σ} {s : σ}
  {config : EngineConfig} {body : ByteArray}

/-- A body that is the envelope of a call, with the identifier that it carries. -/
def Envelops (body : ByteArray) (id : Json.Value) (call : Call) : Prop :=
  ∃ v request, Json.Parser.parse body.data.toList = .ok v ∧ Request.ofValue v = .ok request ∧
    v.member? "id" = some id ∧ request.call = call

/-- The response with the outcome of a call. -/
def answerTo (id : Json.Value) (outcome : CallOutcome) : Response :=
  match outcome.result with
  | .ok result => .success id result
  | .error error => .failure id error

@[simp]
theorem answerTo_write_error (id : Json.Value) (e : EngineError) :
    answerTo id (.write (.error e)) = .failure id (.ofEngine e) := rfl

@[simp]
theorem answerTo_read_error (id : Json.Value) (e : EngineError) :
    answerTo id (.read (.error e)) = .failure id (.ofEngine e) := rfl

@[simp]
theorem answerTo_write_ok (id : Json.Value) (receipt : Engine.Receipt) :
    answerTo id (.write (.ok receipt)) = .success id (.string receipt.address.encode) := rfl

@[simp]
theorem answerTo_read_ok (id : Json.Value) (payload : ByteArray) :
    answerTo id (.read (.ok payload)) = .success id (renderPayload payload) := rfl

/-- A body that is no JSON is answered without asking the store. -/
theorem run_dispatch_of_notJson {failure : Json.Failure}
    (unreadable : Json.Parser.parse body.data.toList = .error failure) :
    (dispatch config body).run onStore s =
      (.failure .null (.parseError (failure.message body.data.toList)), s) := by
  simp only [dispatch, handle, unreadable]
  rfl

/-- A body is answered as the value that it denotes. -/
theorem dispatch_of_value {v : Json.Value}
    (readable : Json.Parser.parse body.data.toList = .ok v) :
    dispatch config body = dispatchValue config v := by
  simp only [dispatch, handle, readable, dispatchValue]

/-- A value that is refused is answered without asking the store. -/
theorem run_dispatchValue_of_rejected {v : Json.Value} {e : Error}
    (refused : Request.ofValue v = .error e) :
    (dispatchValue config v).run onStore s = (.failure (echoOf v) e, s) := by
  simp only [dispatchValue, handleValue, refused]
  rfl

/-- A request is answered with the outcome of its call. -/
theorem run_dispatchValue_of_accepted {v : Json.Value} {request : Request}
    (accepted : Request.ofValue v = .ok request) :
    (dispatchValue config v).run onStore s =
      (answerTo request.id ((perform config request.call).run onStore s).1,
        ((perform config request.call).run onStore s).2) := by
  simp only [dispatchValue, handleValue, accepted, Program.bind_eq, Program.pure_eq_done,
    Program.run_bind, Program.run_done]
  rfl

/-- A body that is refused is answered without asking the store. -/
theorem run_dispatch_of_rejected {v : Json.Value} {e : Error}
    (readable : Json.Parser.parse body.data.toList = .ok v)
    (refused : Request.ofValue v = .error e) :
    (dispatch config body).run onStore s = (.failure (echoOf v) e, s) := by
  rw [dispatch_of_value readable, run_dispatchValue_of_rejected refused]

/-- An envelope is answered with the outcome of its call. -/
theorem run_dispatch_of_envelops {id : Json.Value} {call : Call}
    (envelope : Envelops body id call) :
    (dispatch config body).run onStore s =
      (answerTo id ((perform config call).run onStore s).1,
        ((perform config call).run onStore s).2) := by
  obtain ⟨v, request, readable, accepted, member, rfl⟩ := envelope
  have same : some request.id = some id :=
    (Request.member?_id_of_ofValue accepted).1.symm.trans member
  obtain rfl := Option.some.inj same
  rw [dispatch_of_value readable, run_dispatchValue_of_accepted accepted]

/-- A call to write stores the bytes of its text. -/
theorem run_perform_write (data : String) :
    (perform config (.write data)).run onStore s =
      (.write ((Engine.write config data.toUTF8).run onStore s).1,
        ((Engine.write config data.toUTF8).run onStore s).2) := by
  rw [perform, Program.bind_eq, Program.run_bind]
  rfl

/-- A call to read reads what its text denotes. -/
theorem run_perform_read (text : String) :
    (perform config (.read text)).run onStore s =
      (.read ((Engine.read config text).run onStore s).1,
        ((Engine.read config text).run onStore s).2) := by
  rw [perform, Program.bind_eq, Program.run_bind]
  rfl

/-- A text that is no address is refused with a report. -/
theorem read_eq_of_malformed {text : String} {reason : Address.ParseError}
    (malformed : Address.parse text = .error reason) :
    Engine.read config text =
      .done (.error (.malformedAddress ⟨MalformedAddress.shorten text, reason⟩)) := by
  simp only [Engine.read, AddressCodec.decode, malformed]

/-- The text of an address is read as the address. -/
theorem read_encode (address : Address) :
    Engine.read config address.encode = Engine.readAddress config address := by
  simp only [Engine.read, AddressCodec.decode, Address.parse_encode]

/-- Bytes are read as the text whose encoding they are. -/
theorem fromUTF8?_eq_some_iff {payload : ByteArray} {text : String} :
    String.fromUTF8? payload = some text ↔ text.toUTF8 = payload := by
  unfold String.fromUTF8?
  constructor
  · intro read
    split at read
    · obtain rfl := Option.some.inj read
      rfl
    · cases read
  · rintro rfl
    rw [dif_pos (show text.toUTF8.IsValidUTF8 from text.isValidUTF8)]
    rfl

/-- The payload of a text is rendered as the text. -/
theorem renderPayload_toUTF8 (text : String) : renderPayload text.toUTF8 = .string text := by
  rw [renderPayload, fromUTF8?_eq_some_iff.mpr rfl]

end ContentNode.Rpc
