import ContentNode.Config.Basic
import ContentNode.Http.Health
import ContentNode.NodeError
import ContentNode.Rpc.Dispatch

/-!
# Requests over HTTP

Calls are posted to one path; two more paths tell whether the node is well and
how much it holds.  Paths and methods have to match exactly.
-/

namespace ContentNode.Http

/-- A request. -/
structure Request where
  method : String
  /-- The path and what follows it. -/
  target : String
  body : ByteArray

/-- A response. -/
structure Response where
  status : Nat
  contentType : Option String
  /-- The methods that are allowed, where another one was used. -/
  allow : Option String
  body : String

/-- What a path leads to. -/
inductive Route where
  | calls
  | health
  | info
deriving DecidableEq

namespace Route

/-- Every route. -/
def all : List Route := [calls, health, info]

/-- The path of a route. -/
def path : Route → String
  | calls => "/"
  | health => "/v1/health"
  | info => "/v1/info"

/-- The methods of a route. -/
def methods : Route → List String
  | calls => ["POST"]
  | health | info => ["GET", "HEAD"]

/-- The route of a path. -/
def ofPath? (path : String) : Option Route := all.find? fun route => route.path == path

end Route

/-- Whether a character ends the authority of a target. -/
def endsAuthority (c : Char) : Bool := c == '/' || c == '?' || c == '#'

/-- What follows the scheme and the authority of a target, if it has them. -/
def afterAuthority? (target : List Char) : Option (List Char) :=
  let (_, rest) := target.span fun c => c.isAlphanum || ['+', '-', '.'].contains c
  match rest with
  | ':' :: '/' :: '/' :: rest => some (rest.dropWhile (!endsAuthority ·))
  | _ => none

/-- The path of a target, without a query and a fragment.  After an authority, no path
means the top. -/
def pathOf (target : String) : String :=
  let path (cs : List Char) := String.ofList (cs.takeWhile fun c => c != '?' && c != '#')
  match afterAuthority? target.toList with
  | none => path target.toList
  | some rest => if path rest = "" then "/" else path rest

/-- A response with JSON. -/
def Response.json (status : Nat) (body : String) : Response :=
  ⟨status, some "application/json", none, body⟩

/-- A response without a body. -/
def Response.empty (status : Nat) : Response := ⟨status, none, none, ""⟩

/-- The response to a path that leads nowhere. -/
def notFound : Response := .empty 404

/-- The response to a method that a route does not have. -/
def methodNotAllowed (route : Route) : Response :=
  { Response.empty 405 with allow := some (",".intercalate route.methods) }

/-- The response to a body that is too long. -/
def tooLarge : Response :=
  ⟨413, some "text/plain; charset=utf-8", none,
    "Failed to buffer the request body: length limit exceeded"⟩

/-- A response of calls. -/
def ofRpc (response : Rpc.Response) : Response := .json 200 response.render

/-- The response when a call was not finished in time. -/
def timedOut (body : ByteArray) (milliseconds : Nat) : Response :=
  ofRpc (.failure (Rpc.echoOfBody body) (.timeout milliseconds))

/-- The response when a call was given up. -/
def aborted (body : ByteArray) : Response :=
  ofRpc (.failure (Rpc.echoOfBody body) .aborted)

/-- What the node tells of itself, in JSON. -/
def renderInfo (backend : String) (algorithm : HashAlgorithm) (stats : StoreStats) : String :=
  Json.renderRecord [
    ("name", Json.quote "cas-server"),
    ("version", Json.quote nodeVersion),
    ("backend", Json.quote backend),
    ("hash_algorithm", algorithm.render),
    ("objects", toString stats.objects),
    ("total_bytes", toString stats.totalBytes)]

/-- The response that tells how much there is. -/
def info (config : Config) (backend : String) : StoreProgram Response :=
  .step .stats fun
    | .ok stats => .done (.json 200 (renderInfo backend config.algorithm stats))
    | .error e =>
      .done (.json 500
        (Json.renderRecord [("error", Json.quote (NodeError.store e).message)]))

/-- The response to a request whose method is one of the route's. -/
def answer (config : Config) (backend : String) (body : ByteArray) :
    Route → StoreProgram Response
  | .calls =>
    if config.maxRequestBytes < body.size then .done tooLarge
    else do return ofRpc (← Rpc.dispatch config.engine body)
  | .health => .done (.json 200 Health.ok.render)
  | .info => info config backend

/-- The response to a request, for a store of a name. -/
def respond (config : Config) (backend : String) (request : Request) : StoreProgram Response :=
  match Route.ofPath? (pathOf request.target) with
  | none => .done notFound
  | some route =>
    if request.method ∉ route.methods then .done (methodNotAllowed route)
    else do
      let response ← answer config backend request.body route
      return if request.method = "HEAD" then { response with body := "" } else response

end ContentNode.Http
