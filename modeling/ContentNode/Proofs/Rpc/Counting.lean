import ContentNode.Proofs.Rpc.Reference
import ContentNode.Store.Recording

/-!
# How often a store is asked

A node asks its store for no more than it has to: to store every address once, and to fetch
an object once for every well-formed call to read.  A store that counts tells so after any
bodies.
-/

namespace ContentNode

namespace Engine

variable {config : EngineConfig} {now : Instant} {store : RecordingStore} {payload : ByteArray}

/-- A payload with a problem is not counted. -/
theorem run_write_recording_of_problem {problem : PayloadProblem}
    (found : payloadProblem? config payload = some problem) :
    ((write config payload).run (RecordingStore.perform now) store).2 = store := by
  rw [write, found]
  rfl

/-- Any other payload is stored, and counted if its address was free. -/
theorem run_write_recording_of_none (fine : payloadProblem? config payload = none) :
    ((write config payload).run (RecordingStore.perform now) store).2 =
      ⟨(store.inner.put now (config.codec.derive payload) payload).2,
        store.puts + (if store.inner.contains (config.codec.derive payload) then 0 else 1),
        store.gets⟩ := by
  rw [write, fine]
  dsimp only
  rw [commit, Program.run_step, RecordingStore.perform, MemoryStore.perform]
  cases taken : store.inner.contains (config.codec.derive payload) with
  | true =>
    rw [MemoryStore.put_of_taken taken]
    rfl
  | false =>
    simp [RecordingStore.perform, MemoryStore.perform, RecordingStore.count,
      MemoryStore.put_of_free taken, Program.run_done]

/-- Reading an address is counted once. -/
theorem run_readAddress_recording (address : Address) :
    ((readAddress config address).run (RecordingStore.perform now) store).2 =
      { store with gets := store.gets + 1 } := by
  rw [readAddress, Program.run_step, Program.run_done, RecordingStore.perform,
    MemoryStore.perform]
  cases store.inner.get? address <;> rfl

/-- A text that is no address is not counted. -/
theorem run_read_recording (text : String) :
    ((read config text).run (RecordingStore.perform now) store).2 =
      { store with gets := store.gets + ((Address.parse text).toOption.toList).length } := by
  cases parsed : Address.parse text with
  | error reason =>
    rw [Rpc.read_eq_of_malformed parsed]
    rfl
  | ok address =>
    obtain rfl := Address.eq_encode_of_parse parsed
    rw [Rpc.read_encode, run_readAddress_recording]
    rfl

end Engine

namespace Rpc

variable {config : EngineConfig} {now : Instant} {body : ByteArray}

/-- A store that counts after a body. -/
theorem run_dispatch_recording (config : EngineConfig) (now : Instant) (body : ByteArray)
    (store : RecordingStore) :
    ((dispatch config body).run (RecordingStore.perform now) store).2 =
      ⟨((dispatch config body).run (MemoryStore.perform now) store.inner).2,
        store.puts + (match payloadOf? config body with
          | some payload => if store.inner.contains (config.codec.derive payload) then 0 else 1
          | none => 0),
        store.gets + (addressOf? body).toList.length⟩ := by
  rw [run_dispatch_store]
  unfold payloadOf? addressOf?
  cases called : callOf? body with
  | none =>
    rw [run_dispatch_of_no_call called]
    rfl
  | some call =>
    obtain ⟨id, envelope⟩ := callOf?_eq_some_iff.mp called
    rw [run_dispatch_of_envelops envelope]
    cases call with
    | read text =>
      rw [run_perform_read]
      exact Engine.run_read_recording text
    | write data =>
      rw [run_perform_write]
      cases problem : Engine.payloadProblem? config data.toUTF8 with
      | some fault =>
        have refused : ¬ Engine.Acceptable config data.toUTF8 := by
          rw [← Engine.payloadProblem?_eq_none_iff, problem]
          nofun
        simp only [Engine.run_write_recording_of_problem problem, if_neg refused]
        rfl
      | none =>
        simp only [Engine.run_write_recording_of_none problem,
          if_pos (Engine.payloadProblem?_eq_none_iff.mp problem)]
        rfl

/-- The addresses that bodies ask about, the first one first. -/
def inquiriesOf (requests : List (Instant × ByteArray)) : List Address :=
  requests.filterMap fun request => addressOf? request.2

/-- A store has counted what some bodies asked for. -/
structure Counted (offered : List StoredObject) (asked : List Address) (store : RecordingStore) :
    Prop where
  gathers : store.inner.Gathers offered
  puts : store.puts = store.inner.size
  gets : store.gets = asked.length

theorem counted_nil : Counted [] [] .empty := ⟨MemoryStore.gathers_nil, rfl, rfl⟩

variable {offered : List StoredObject} {asked : List Address} {store : RecordingStore}

/-- One more body is counted. -/
theorem Counted.dispatch (counted : Counted offered asked store)
    (request : Instant × ByteArray) :
    Counted (offered ++ (offer? config request).toList)
      (asked ++ (addressOf? request.2).toList)
      ((dispatch config request.2).run (RecordingStore.perform request.1) store).2 := by
  rw [run_dispatch_recording]
  refine ⟨gathers_dispatch counted.gathers request, ?_, ?_⟩
  · rw [run_dispatch_store, counted.puts]
    cases payloadOf? config request.2 with
    | none => rfl
    | some payload =>
      dsimp only
      cases taken : store.inner.contains (config.codec.derive payload) with
      | true =>
        rw [MemoryStore.put_of_taken taken]
        rfl
      | false =>
        rw [MemoryStore.put_of_free taken, MemoryStore.size, MemoryStore.size, List.length_append]
        rfl
  · rw [counted.gets, List.length_append]

/-- All bodies are counted. -/
theorem counted_of_serve (config : EngineConfig) (requests : List (Instant × ByteArray)) :
    Counted (offersOf config requests) (inquiriesOf requests)
      (serve RecordingStore.perform config requests .empty).2 := by
  -- What the last body adds depends on the store that all the others leave.
  induction requests using List.reverseRecOn with
  | nil => exact counted_nil
  | append_singleton requests request ih =>
    rw [serve_append, offersOf, inquiriesOf, filterMap_append_singleton,
      filterMap_append_singleton]
    exact ih.dispatch request

/-! ### Bodies that are not counted -/

/-- A body that asks neither for an object nor to store one under an address where nothing is
held. -/
inductive Idle (config : EngineConfig) (held : Finset Address) (body : ByteArray) : Prop where
  | notJson {failure : Json.Failure}
      (unreadable : Json.Parser.parse body.data.toList = .error failure)
  | rejected {v : Json.Value} {e : Error} (readable : Json.Parser.parse body.data.toList = .ok v)
      (refused : Request.ofValue v = .error e)
  | invalid {id : Json.Value} {data : String} (envelope : Envelops body id (.write data))
      (refused : ¬ Engine.Acceptable config data.toUTF8)
  | repeated {id : Json.Value} {data : String} (envelope : Envelops body id (.write data))
      (present : config.codec.derive data.toUTF8 ∈ held)
  | malformed {id : Json.Value} {text : String} (envelope : Envelops body id (.read text))
      (foreign : ∀ address : Address, text ≠ address.encode)

/-- An idle body asks about no address, and what it asks to store is held. -/
theorem Idle.asks_nothing {held : Finset Address} (idle : Idle config held body) :
    addressOf? body = none ∧
      ∀ payload, payloadOf? config body = some payload → config.codec.derive payload ∈ held := by
  unfold addressOf? payloadOf?
  cases idle with
  | notJson unreadable => simp [callOf?, unreadable]
  | rejected readable refused => simp [callOf?, readable, refused]
  | invalid envelope refused =>
    simp only [callOf?_eq_some_iff.mpr ⟨_, envelope⟩, if_neg refused]
    exact ⟨trivial, fun _ asked => absurd asked (Option.some_ne_none _).symm⟩
  | repeated envelope present =>
    simp only [callOf?_eq_some_iff.mpr ⟨_, envelope⟩]
    refine ⟨trivial, fun payload asked => ?_⟩
    split at asked
    · obtain rfl := Option.some.inj asked
      exact present
    · cases asked
  | @malformed id text envelope foreign =>
    simp only [callOf?_eq_some_iff.mpr ⟨_, envelope⟩]
    cases parsed : Address.parse text with
    | error reason => exact ⟨rfl, fun _ asked => absurd asked (Option.some_ne_none _).symm⟩
    | ok address => exact absurd (Address.eq_encode_of_parse parsed) (foreign address)

/-- A body that asks for nothing new is idle. -/
theorem idle_of_asks_nothing {held : Finset Address} (silent : addressOf? body = none)
    (stale : ∀ payload, payloadOf? config body = some payload →
      config.codec.derive payload ∈ held) : Idle config held body := by
  cases readable : Json.Parser.parse body.data.toList with
  | error failure => exact .notJson readable
  | ok v =>
    cases accepted : Request.ofValue v with
    | error e => exact .rejected readable accepted
    | ok request =>
      have envelope : Envelops body request.id request.call :=
        ⟨v, request, readable, accepted, (Request.member?_id_of_ofValue accepted).1, rfl⟩
      cases call : request.call with
      | write data =>
        rw [call] at envelope
        by_cases acceptable : Engine.Acceptable config data.toUTF8
        · exact .repeated envelope
            (stale _ (payloadOf?_eq_some_iff.mpr ⟨_, _, envelope, acceptable, rfl⟩))
        · exact .invalid envelope acceptable
      | read text =>
        rw [call] at envelope
        refine .malformed envelope fun address same => ?_
        rw [same] at envelope
        have asked := addressOf?_eq_some_iff.mpr ⟨_, envelope⟩
        rw [silent] at asked
        cases asked

/-- A body adds to neither counter exactly if it is idle. -/
theorem Counted.idle_iff (counted : Counted offered asked store) (config : EngineConfig)
    (now : Instant) (body : ByteArray) :
    Idle config (MemoryStore.addressesOf offered) body ↔
      ((Rpc.dispatch config body).run (RecordingStore.perform now) store).2.puts = store.puts ∧
        ((Rpc.dispatch config body).run (RecordingStore.perform now) store).2.gets =
          store.gets := by
  have held (address : Address) :
      address ∈ MemoryStore.addressesOf offered ↔ store.inner.contains address = true := by
    rw [MemoryStore.mem_addressesOf_iff, counted.gathers.contains]
  have asks : Idle config (MemoryStore.addressesOf offered) body ↔ addressOf? body = none ∧
      ∀ payload, payloadOf? config body = some payload →
        config.codec.derive payload ∈ MemoryStore.addressesOf offered :=
    ⟨Idle.asks_nothing, fun asks => idle_of_asks_nothing asks.1 asks.2⟩
  rw [asks, run_dispatch_recording, and_comm]
  refine and_congr ?_ ?_
  · cases payloadOf? config body with
    | none => simp
    | some payload => simp [held]
  · cases addressOf? body <;> simp

/-- After any bodies, a store that counts was asked to store an object once for every address
of an accepted call to write, which is the number of its objects, and for an object once for
every call to read with the text of an address.  A body adds to neither counter exactly if it
is no JSON, no request, a call with an unacceptable payload or with one whose address is taken,
or a call with a text that is no address. -/
theorem counted_serve (config : EngineConfig) (requests : List (Instant × ByteArray)) :
    (serve RecordingStore.perform config requests .empty).2.puts =
        (MemoryStore.addressesOf (offersOf config requests)).card ∧
      (serve RecordingStore.perform config requests .empty).2.puts =
        (serve RecordingStore.perform config requests .empty).2.inner.size ∧
      (serve RecordingStore.perform config requests .empty).2.gets =
        (inquiriesOf requests).length ∧
      ∀ now body, Idle config (MemoryStore.addressesOf (offersOf config requests)) body ↔
        (serve RecordingStore.perform config (requests ++ [(now, body)]) .empty).2.puts =
            (serve RecordingStore.perform config requests .empty).2.puts ∧
          (serve RecordingStore.perform config (requests ++ [(now, body)]) .empty).2.gets =
            (serve RecordingStore.perform config requests .empty).2.gets := by
  have counted := counted_of_serve config requests
  refine ⟨?_, counted.puts, counted.gets, fun now body => ?_⟩
  · rw [counted.puts, counted.gathers.size_eq]
  · rw [counted.idle_iff config now body, serve_append]
    rfl

end Rpc

end ContentNode
