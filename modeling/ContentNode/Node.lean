import ContentNode.Http.Router
import ContentNode.Store.Opening

/-!
# Nodes

A node serves one store under one configuration.  Requests run as programs on
its store; one that the store leaves without an answer is answered by the node.
-/

namespace ContentNode

open FileSystem

/-- A configuration, a store, and the files around it. -/
structure Node where
  config : Config
  backend : Backend
  files : FileTree

namespace Node

variable (actor : Actor) (now : Instant)

/-- Runs a program on the store. -/
def run : StoreProgram α → Node → Except Interruption α × Node
  | .done value, node => (.ok value, node)
  | .step op next, node =>
    match node.backend.perform actor now op node.files with
    | (.ok answer, backend, files) => run (next answer) { node with backend, files }
    | (.error interruption, backend, files) => (.error interruption, { node with backend, files })

/-- Performs one operation of the store. -/
def perform (op : StoreOperation) (node : Node) : Except Interruption op.Answer × Node :=
  node.run actor now (Program.perform op)

/-- Answers a request over HTTP. -/
def respond (request : Http.Request) (node : Node) : Http.Response × Node :=
  match node.run actor now (Http.respond node.config node.backend.name request) with
  | (.ok response, node) => (response, node)
  | (.error .waiting, node) =>
    (Http.timedOut request.body node.config.requestTimeoutMs, node)
  | (.error .panicked, node) => (Http.aborted request.body, node)

/-- Opens the store that a configuration names, if the configuration is valid. -/
def openStore (config : Config) (files : FileTree) : Except NodeError Opening × FileTree :=
  match config.validate with
  | .error e => (.error (.config e), files)
  | .ok config =>
    match Opening.ofDirectory actor now config.dataDir files with
    | (.ok opening, files) => (.ok opening, files)
    | (.error e, files) => (.error (.store e), files)

/-- A node with the store that its configuration names. -/
def start (config : Config) (files : FileTree) : Except NodeError Node × FileTree :=
  match openStore actor now config files with
  | (.ok opening, files) => (.ok ⟨config, opening.backend, files⟩, files)
  | (.error e, files) => (.error e, files)

end Node

end ContentNode
