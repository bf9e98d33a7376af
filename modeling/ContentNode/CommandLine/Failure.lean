import ContentNode.NodeError

/-!
# Failed commands

A failure is reported with what is behind it, one line for each.
-/

namespace ContentNode.CommandLine

/-- Why a command failed. -/
structure Failure where
  message : String
  causes : List String
deriving DecidableEq

namespace Failure

/-- An error of the node. -/
def ofNode (e : NodeError) : Failure := ⟨e.message, e.causes⟩

/-- An error of the store. -/
def ofStore (e : StoreError) : Failure := ⟨e.message, e.causes⟩

/-- A failure while something else was done. -/
def during (doing : String) (failure : Failure) : Failure :=
  ⟨doing, failure.message :: failure.causes⟩

/-- A text with something in front of its first line and of all others. -/
def indented (first others text : String) : String :=
  first ++ String.ofList (text.toList.flatMap fun c => if c = '\n' then c :: others.toList else [c])

/-- A number at the right end of five places. -/
def ordinal (n : Nat) : String :=
  let digits := toString n
  String.ofList (List.replicate (5 - digits.length) ' ') ++ digits

/-- The lines of the causes.  Several causes are numbered. -/
def renderCauses : List String → List String
  | [] => []
  | [cause] => ["", "Caused by:", indented "    " "    " cause]
  | causes =>
    "" :: "Caused by:" ::
      causes.zipIdx.map fun (cause, n) => indented (ordinal n ++ ": ") "       " cause

/-- The report of a failure. -/
def render (failure : Failure) : String :=
  let lines := ("Error: " ++ failure.message) :: renderCauses failure.causes
  String.join (lines.map fun line => line ++ "\n")

end Failure

end ContentNode.CommandLine
