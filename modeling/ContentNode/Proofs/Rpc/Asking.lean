import ContentNode.Proofs.Engine.OnMemory
import ContentNode.Proofs.Rpc.Handling
import ContentNode.Proofs.Store.Offers

/-!
# What bodies ask a store for

A body asks for at most one thing: to store the payload of an accepted call to write, or to
fetch the object of the address that a call to read denotes.  All other bodies ask for
nothing.  So what a store in memory holds after a body is told by the body.
-/

namespace ContentNode.Rpc

variable {config : EngineConfig} {now : Instant} {store : MemoryStore} {body : ByteArray}
  {call : Call} {address : Address} {payload : ByteArray}

/-- The call of a body, if the body is a request. -/
def callOf? (body : ByteArray) : Option Call :=
  match Json.Parser.parse body.data.toList with
  | .error _ => none
  | .ok v =>
    match Request.ofValue v with
    | .error _ => none
    | .ok request => some request.call

/-- The payload that a body asks to store: that of a call to write, if it may be stored. -/
def payloadOf? (config : EngineConfig) (body : ByteArray) : Option ByteArray :=
  match callOf? body with
  | some (.write data) => if Engine.Acceptable config data.toUTF8 then some data.toUTF8 else none
  | _ => none

/-- The address that a body asks about: that of a call to read, if its text denotes one. -/
def addressOf? (body : ByteArray) : Option Address :=
  match callOf? body with
  | some (.read text) => (Address.parse text).toOption
  | _ => none

/-- The object that a body offers to a store at a moment. -/
def offer? (config : EngineConfig) (request : Instant × ByteArray) : Option StoredObject :=
  (payloadOf? config request.2).map fun payload =>
    ⟨config.codec.derive payload, payload, request.1⟩

/-- The objects that bodies offer to a store, the first one first. -/
def offersOf (config : EngineConfig) (requests : List (Instant × ByteArray)) :
    List StoredObject :=
  requests.filterMap (offer? config)

/-- A body has a call exactly if it is the envelope of that call. -/
theorem callOf?_eq_some_iff : callOf? body = some call ↔ ∃ id, Envelops body id call := by
  unfold callOf?
  constructor
  · split
    · nofun
    next v readable =>
    split
    · nofun
    next request accepted =>
    rintro ⟨⟩
    exact ⟨_, v, request, readable, accepted, (Request.member?_id_of_ofValue accepted).1, rfl⟩
  · rintro ⟨id, v, request, readable, accepted, -, rfl⟩
    simp only [readable, accepted]

/-- What is asked to be stored is the text of a call to write that may be stored. -/
theorem payloadOf?_eq_some_iff :
    payloadOf? config body = some payload ↔
      ∃ id data, Envelops body id (.write data) ∧ Engine.Acceptable config payload ∧
        payload = data.toUTF8 := by
  unfold payloadOf?
  constructor
  · split
    next data write =>
      split
      next acceptable =>
        rintro ⟨⟩
        obtain ⟨id, envelope⟩ := callOf?_eq_some_iff.mp write
        exact ⟨id, data, envelope, acceptable, rfl⟩
      · nofun
    · nofun
  · rintro ⟨id, data, envelope, acceptable, rfl⟩
    simp only [callOf?_eq_some_iff.mpr ⟨id, envelope⟩, if_pos acceptable]

/-- What is asked about is the address whose text a call to read has. -/
theorem addressOf?_eq_some_iff :
    addressOf? body = some address ↔ ∃ id, Envelops body id (.read address.encode) := by
  unfold addressOf?
  constructor
  · split
    next text read =>
      intro denoted
      cases parsed : Address.parse text with
      | error reason => rw [parsed] at denoted; cases denoted
      | ok other =>
        rw [parsed] at denoted
        obtain rfl : other = address := Option.some.inj denoted
        obtain rfl := Address.eq_encode_of_parse parsed
        exact callOf?_eq_some_iff.mp read
    · nofun
  · rintro ⟨id, envelope⟩
    simp only [callOf?_eq_some_iff.mpr ⟨id, envelope⟩, Address.parse_encode]
    rfl

/-- A body without a call asks no store for anything. -/
theorem run_dispatch_of_no_call {σ : Type} {onStore : (op : StoreOperation) → σ → op.Answer × σ}
    {s : σ} (no_call : callOf? body = none) : ((dispatch config body).run onStore s).2 = s := by
  cases readable : Json.Parser.parse body.data.toList with
  | error failure => rw [run_dispatch_of_notJson readable]
  | ok v =>
    cases accepted : Request.ofValue v with
    | error e => rw [run_dispatch_of_rejected readable accepted]
    | ok request =>
      simp only [callOf?, readable, accepted] at no_call
      cases no_call

/-- A store in memory after a body: what the body asks to store is stored. -/
theorem run_dispatch_store (config : EngineConfig) (now : Instant) (body : ByteArray)
    (store : MemoryStore) :
    ((dispatch config body).run (MemoryStore.perform now) store).2 =
      match payloadOf? config body with
      | some payload => (store.put now (config.codec.derive payload) payload).2
      | none => store := by
  unfold payloadOf?
  cases called : callOf? body with
  | none => exact run_dispatch_of_no_call called
  | some call =>
    obtain ⟨id, envelope⟩ := callOf?_eq_some_iff.mp called
    rw [run_dispatch_of_envelops envelope]
    cases call with
    | read text =>
      rw [run_perform_read]
      exact Engine.run_read_store text
    | write data =>
      rw [run_perform_write]
      cases problem : Engine.payloadProblem? config data.toUTF8 with
      | some fault =>
        have refused : ¬ Engine.Acceptable config data.toUTF8 := by
          rw [← Engine.payloadProblem?_eq_none_iff, problem]
          nofun
        simp only [Engine.run_write_of_problem problem, if_neg refused]
      | none =>
        obtain ⟨receipt, -, run⟩ := Engine.run_write_of_none now store problem
        simp only [run, if_pos (Engine.payloadProblem?_eq_none_iff.mp problem)]

/-- What the last member of a list adds to what is picked from it. -/
theorem filterMap_append_singleton {α β : Type} (pick : α → Option β) (members : List α)
    (last : α) :
    (members ++ [last]).filterMap pick = members.filterMap pick ++ (pick last).toList := by
  rw [List.filterMap_append]
  cases picked : pick last with
  | none => rw [List.filterMap_cons_none picked]; rfl
  | some value => rw [List.filterMap_cons_some picked]; rfl

/-- A store that holds the first of the objects that were offered still does after a body. -/
theorem gathers_dispatch {offered : List StoredObject} (gathers : store.Gathers offered)
    (request : Instant × ByteArray) :
    ((dispatch config request.2).run (MemoryStore.perform request.1) store).2.Gathers
      (offered ++ (offer? config request).toList) := by
  rw [run_dispatch_store, offer?]
  cases payloadOf? config request.2 with
  | none => rwa [Option.map_none, Option.toList_none, List.append_nil]
  | some payload => exact gathers.put request.1 _ payload

end ContentNode.Rpc
