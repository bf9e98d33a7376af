import ContentNode.Node
import ContentNode.Proofs.Rpc.Reference
import ContentNode.Proofs.Rpc.ResponseText

/-!
# A node over HTTP

A node on a store in memory answers any requests over HTTP as the dispatcher answers the
bodies that are posted to the path of calls and are short enough.  All other requests leave
the store alone, and what the node tells of itself follows from those bodies.  The texts of the
answers are given letter by letter, and they are read back.
-/

namespace ContentNode

open FileSystem

namespace Node

variable {α : Type} {config : Config} {files : FileTree}

/-- Answers requests one after another, each at its own moment. -/
def serve (actor : Actor) :
    List (Instant × Http.Request) → Node → List Http.Response × Node
  | [], node => ([], node)
  | (now, request) :: rest, node =>
    let (response, node) := node.respond actor now request
    let (responses, node) := serve actor rest node
    (response :: responses, node)

/-- A node that keeps its objects in memory. -/
def onMemory (config : Config) (files : FileTree) (store : MemoryStore) : Node :=
  ⟨config, .memory store, files⟩

/-- A store in memory answers every operation, so no program on it is interrupted. -/
theorem run_onMemory (actor : Actor) (now : Instant) (p : StoreProgram α) (config : Config)
    (files : FileTree) (store : MemoryStore) :
    run actor now p (onMemory config files store) =
      (.ok (p.run (MemoryStore.perform now) store).1,
        onMemory config files (p.run (MemoryStore.perform now) store).2) := by
  induction p generalizing store with
  | done value => rfl
  | step op next ih => exact ih _ _

theorem respond_onMemory (actor : Actor) (now : Instant) (request : Http.Request)
    (store : MemoryStore) :
    respond actor now request (onMemory config files store) =
      (((Http.respond config "memory" request).run (MemoryStore.perform now) store).1,
        onMemory config files
          ((Http.respond config "memory" request).run (MemoryStore.perform now) store).2) := by
  have run := run_onMemory actor now (Http.respond config "memory" request) config files store
  simp only [respond]
  rw [show (onMemory config files store).config = config from rfl,
    show (onMemory config files store).backend.name = "memory" from rfl, run]

theorem serve_append_singleton (actor : Actor) (requests : List (Instant × Http.Request))
    (now : Instant) (request : Http.Request) (node : Node) :
    serve actor (requests ++ [(now, request)]) node =
      ((serve actor requests node).1 ++
          [((serve actor requests node).2.respond actor now request).1],
        ((serve actor requests node).2.respond actor now request).2) := by
  induction requests generalizing node with
  | nil => rfl
  | cons first rest ih =>
    simp only [List.cons_append, serve, ih]

end Node

namespace Http

variable {config : Config} {now : Instant} {store : MemoryStore} {request : Request}
  {route : Route} {path : String} {offered : List StoredObject}

/-- Whether a request is posted to the path of calls. -/
def Request.IsCall (request : Request) : Prop :=
  request.method = "POST" ∧ pathOf request.target = "/"

instance : DecidablePred Request.IsCall := fun request =>
  inferInstanceAs (Decidable (request.method = "POST" ∧ pathOf request.target = "/"))

/-- The body that a request hands to the dispatcher: that of a call that is short enough. -/
def callOf? (config : Config) (request : Instant × Request) : Option (Instant × ByteArray) :=
  if request.2.IsCall ∧ request.2.body.size ≤ config.maxRequestBytes then
    some (request.1, request.2.body)
  else none

/-- The bodies that requests hand to the dispatcher, the first one first. -/
def callsOf (config : Config) (requests : List (Instant × Request)) :
    List (Instant × ByteArray) :=
  requests.filterMap (callOf? config)

/-! ### Routes -/

/-- A path leads only to the route that has it. -/
theorem Route.path_of_ofPath? (leads : ofPath? path = some route) : route.path = path := by
  rw [ofPath?] at leads
  have same := List.find?_some leads
  exact beq_iff_eq.mp same

/-- A request with a method of its route is answered by the route. -/
theorem respond_of_mem (leads : Route.ofPath? (pathOf request.target) = some route)
    (allowed : request.method ∈ route.methods) (visible : request.method ≠ "HEAD") :
    (respond config "memory" request).run (MemoryStore.perform now) store =
      (answer config "memory" request.body route).run (MemoryStore.perform now) store := by
  rw [respond, leads]
  dsimp only
  rw [if_neg (not_not_intro allowed), Program.bind_eq, Program.run_bind]
  simp only [if_neg visible]
  rfl

/-- A call that is short enough is answered by the dispatcher. -/
theorem run_respond_call (call : request.IsCall)
    (short : request.body.size ≤ config.maxRequestBytes) :
    (respond config "memory" request).run (MemoryStore.perform now) store =
      (ofRpc ((Rpc.dispatch config.engine request.body).run (MemoryStore.perform now) store).1,
        ((Rpc.dispatch config.engine request.body).run (MemoryStore.perform now) store).2) := by
  have leads : Route.ofPath? (pathOf request.target) = some .calls := by
    rw [call.2]
    rfl
  rw [respond_of_mem leads (by rw [call.1]; decide) (by rw [call.1]; decide), answer,
    if_neg (Nat.not_lt.mpr short), Program.bind_eq, Program.run_bind]
  rfl

/-- A call that is too long is refused. -/
theorem run_respond_tooLarge (call : request.IsCall)
    (long : config.maxRequestBytes < request.body.size) :
    (respond config "memory" request).run (MemoryStore.perform now) store =
      (tooLarge, store) := by
  have leads : Route.ofPath? (pathOf request.target) = some .calls := by
    rw [call.2]
    rfl
  rw [respond_of_mem leads (by rw [call.1]; decide) (by rw [call.1]; decide), answer,
    if_pos long, Program.run_done]

/-- What the node tells of itself has the totals of its store. -/
theorem run_respond_info (got : request.method = "GET")
    (path : pathOf request.target = "/v1/info") :
    (respond config "memory" request).run (MemoryStore.perform now) store =
      (.json 200 (renderInfo "memory" config.algorithm store.stats), store) := by
  have leads : Route.ofPath? (pathOf request.target) = some .info := by
    rw [path]
    rfl
  rw [respond_of_mem leads (by rw [got]; decide) (by rw [got]; decide)]
  rfl

/-- Only the route of calls reaches the objects of a store. -/
theorem run_answer_store (body : ByteArray) (other : route ≠ .calls) :
    ((answer config "memory" body route).run (MemoryStore.perform now) store).2 = store := by
  cases route with
  | calls => contradiction
  | health | info => rfl

/-- Requests that are no calls leave a store alone. -/
theorem run_respond_other (other : ¬ request.IsCall) :
    ((respond config "memory" request).run (MemoryStore.perform now) store).2 = store := by
  unfold respond
  split
  · rfl
  next route leads =>
    split
    · rfl
    next allowed =>
      have different : route ≠ .calls := by
        rintro rfl
        have method : request.method = "POST" :=
          List.mem_singleton.mp (not_not.mp allowed)
        exact other ⟨method, (Route.path_of_ofPath? leads).symm⟩
      rw [Program.bind_eq, Program.run_bind]
      exact run_answer_store request.body different

/-! ### What a node tells of itself -/

/-- A response that tells the totals of a store in memory.  Totals of 64 bits are read back from
its text, with all else that it tells. -/
structure Reports (config : Config) (totals : StoreStats) (response : Response) : Prop where
  told : response = ⟨200, some "application/json", none,
    "\x7b\"name\":\"cas-server\",\"version\":\"0.1.0\",\"backend\":\"memory\"," ++
      "\"hash_algorithm\":\"" ++ config.algorithm.name ++
      "\",\"objects\":" ++ toString totals.objects ++
      ",\"total_bytes\":" ++ toString totals.totalBytes ++ "\x7d"⟩
  read : totals.objects < 2 ^ 64 → totals.totalBytes < 2 ^ 64 →
    Json.Parser.parse (Json.bytes response.body) = .ok (.object
      [("backend", .string "memory"), ("hash_algorithm", .string config.algorithm.name),
        ("name", .string "cas-server"), ("objects", .integer totals.objects),
        ("total_bytes", .integer totals.totalBytes), ("version", .string "0.1.0")])

/-- The names of algorithms need no escape. -/
theorem quote_name (algorithm : HashAlgorithm) :
    Json.quote algorithm.name = "\"" ++ algorithm.name ++ "\"" := by
  apply Json.quote_of_plain
  cases algorithm <;> decide

theorem renderInfo_eq_append (algorithm : HashAlgorithm) (totals : StoreStats) :
    renderInfo "memory" algorithm totals =
      "\x7b\"name\":\"cas-server\",\"version\":\"0.1.0\",\"backend\":\"memory\"," ++
        "\"hash_algorithm\":\"" ++ algorithm.name ++
        "\",\"objects\":" ++ toString totals.objects ++
        ",\"total_bytes\":" ++ toString totals.totalBytes ++ "\x7d" := by
  rw [renderInfo, Json.renderRecord]
  simp (disch := decide) only [List.map_cons, List.map_nil, String.intercalate_cons_cons,
    String.intercalate_singleton, nodeVersion, HashAlgorithm.render, Json.quote_of_plain,
    quote_name]
  apply String.toList_inj.mp
  simp

/-- What a node tells of itself, as members in the order of its text. -/
def infoMembers (algorithm : HashAlgorithm) (totals : StoreStats) : List (String × Json.Value) :=
  [("name", .string "cas-server"), ("version", .string nodeVersion),
    ("backend", .string "memory"), ("hash_algorithm", .string algorithm.name),
    ("objects", .integer totals.objects), ("total_bytes", .integer totals.totalBytes)]

theorem renderInfo_eq_render (algorithm : HashAlgorithm) (totals : StoreStats) :
    renderInfo "memory" algorithm totals =
      (Json.Value.object (infoMembers algorithm totals)).render := by
  rw [← Json.renderRecord_eq]
  rfl

theorem readable_infoMembers {totals : StoreStats} (algorithm : HashAlgorithm)
    (few : totals.objects < 2 ^ 64) (small : totals.totalBytes < 2 ^ 64) :
    Json.Readable Json.Parser.maxLevels (.object (infoMembers algorithm totals)) := by
  have short {n : Nat} (below : n < 2 ^ 64) : Json.Short n := by
    simp only [Json.Short]
    omega
  exact .cons_member _ (.string _) (.cons_member _ (.string _) (.cons_member _ (.string _)
    (.cons_member _ (.string _) (.cons_member _ (.integer (short few))
      (.cons_member _ (.integer (short small)) .no_members)))))

/-- The response to a question about a node has the totals of its store. -/
theorem reports_renderInfo (config : Config) (totals : StoreStats) :
    Reports config totals (.json 200 (renderInfo "memory" config.algorithm totals)) where
  told := by
    rw [Response.json, renderInfo_eq_append]
  read few small := by
    rw [Response.json, renderInfo_eq_render,
      Json.parse_render (readable_infoMembers config.algorithm few small), infoMembers,
      Json.Value.canonical]
    simp only [Json.Value.canonicalMembers, Json.Value.canonical_string,
      Json.Value.canonical_integer]
    simp (disch := decide) only [Json.Value.sortMembers, List.foldl_cons, List.foldl_nil,
      Json.Value.insert_nil, Json.Value.insert_of_lt, Json.Value.insert_of_gt]
    rfl

/-! ### Runs -/

/-- The rules of a node over HTTP for one request, on a store that was offered some
objects. -/
structure Refines (config : Config) (offered : List StoredObject) (now : Instant)
    (request : Request) (before : MemoryStore) (response : Response) (after : MemoryStore) :
    Prop where
  /-- A call that is short enough is answered with the text of what the dispatcher answers, and
  moves the store as the dispatcher does.  The answer is read back from the text, unless the body
  has an identifier that is a number but no integer of at most 64 bits. -/
  call : request.IsCall → request.body.size ≤ config.maxRequestBytes →
    let dispatched :=
      (Rpc.dispatch config.engine request.body).run (MemoryStore.perform now) before
    response = ⟨200, some "application/json", none, dispatched.1.render⟩ ∧
      after = dispatched.2 ∧
      ((Rpc.isIdentifier (Rpc.echoOfBody request.body) = true →
          Rpc.Identifies (Rpc.echoOfBody request.body)) →
        Rpc.Response.ofText (Json.bytes response.body) = .ok dispatched.1)
  tooLong : request.IsCall → config.maxRequestBytes < request.body.size →
    response.status = 413 ∧ after = before
  other : ¬ request.IsCall → after = before
  /-- A question about the node is answered with the number of the addresses of the objects and
  the sum of the sizes of the first payloads under them. -/
  totals : request.method = "GET" → pathOf request.target = "/v1/info" →
    Reports config (MemoryStore.totalsOf offered) response

/-- A node on a store in memory follows the rules for one request. -/
theorem refines_respond (gathers : store.Gathers offered) (config : Config) (now : Instant)
    (request : Request) :
    Refines config offered now request store
      ((respond config "memory" request).run (MemoryStore.perform now) store).1
      ((respond config "memory" request).run (MemoryStore.perform now) store).2 where
  call call short := by
    rw [run_respond_call call short]
    exact ⟨rfl, rfl, fun usable => Rpc.Response.ofText_render (Rpc.legible_run_dispatch usable)⟩
  tooLong call long := by
    rw [run_respond_tooLarge call long]
    exact ⟨rfl, rfl⟩
  other := run_respond_other
  totals got path := by
    rw [run_respond_info got path, gathers.stats_eq]
    exact reports_renderInfo config _

/-- A request moves a store as the body does that it hands to the dispatcher, if any. -/
theorem run_respond_store (config : Config) (now : Instant) (request : Request)
    (store : MemoryStore) :
    ((respond config "memory" request).run (MemoryStore.perform now) store).2 =
      (Rpc.serve MemoryStore.perform config.engine (callOf? config (now, request)).toList
        store).2 := by
  unfold callOf?
  split
  next handed =>
    rw [run_respond_call handed.1 handed.2]
    rfl
  next kept =>
    by_cases call : request.IsCall
    · rw [run_respond_tooLarge call (Nat.not_le.mp fun short => kept ⟨call, short⟩)]
      rfl
    · rw [run_respond_other call]
      rfl

/-- After any requests, the store is what the dispatcher makes of the bodies they handed to
it. -/
theorem serve_store (actor : Actor) (config : Config) (files : FileTree)
    (requests : List (Instant × Request)) :
    (Node.serve actor requests (.onMemory config files .empty)).2 =
      .onMemory config files
        (Rpc.serve MemoryStore.perform config.engine (callsOf config requests) .empty).2 := by
  induction requests using List.reverseRecOn with
  | nil => rfl
  | append_singleton requests request ih =>
    rw [Node.serve_append_singleton, ih, Node.respond_onMemory, run_respond_store,
      ← Rpc.serve_append, callsOf, callsOf,
      Rpc.filterMap_append_singleton]

/-- A node on an empty store in memory refines the dispatcher.  After any requests, its
store is the one that the dispatcher leaves after the bodies of the calls that were short
enough, and every further request is answered by the rules: such a call with the response of
the dispatcher, and a question about the node with the number of the addresses that were
derived for accepted writes and the sum of the sizes of the payloads under them. -/
theorem serve_refines (actor : Actor) (config : Config) (files : FileTree)
    (requests : List (Instant × Request)) :
    ∃ store, store =
        (Rpc.serve MemoryStore.perform config.engine (callsOf config requests) .empty).2 ∧
      (Node.serve actor requests (.onMemory config files .empty)).2 =
        .onMemory config files store ∧
      ∀ now request, ∃ response after,
        Refines config (Rpc.offersOf config.engine (callsOf config requests)) now request store
          response after ∧
        Node.serve actor (requests ++ [(now, request)]) (.onMemory config files .empty) =
          ((Node.serve actor requests (.onMemory config files .empty)).1 ++ [response],
            .onMemory config files after) := by
  have gathers := Rpc.gathers_serve config.engine (callsOf config requests)
  refine ⟨_, rfl, serve_store actor config files requests, fun now request => ?_⟩
  refine ⟨_, _, refines_respond gathers config now request, ?_⟩
  rw [Node.serve_append_singleton, serve_store, Node.respond_onMemory]

end Http

end ContentNode
