import ContentNode.Log.Directive
import ContentNode.Text.Pieces

/-!
# Log filters

A filter is a list of directives.  Of those that concern an event the one that
outranks the others counts, and the last one of those that are equal.
-/

namespace ContentNode.Log

/-- A list of directives. -/
structure Filter where
  directives : List Directive
deriving DecidableEq

namespace Filter

/-- The filter that lets errors through. -/
def errorsOnly : Filter := ⟨[⟨none, none, [], .upTo .error⟩]⟩

/-- The filter of a text with commas between the directives. -/
def ofText? (text : String) : Option Filter := do
  let directives ← (Text.words ',' text.toList).mapM fun piece =>
    Directive.ofText? (String.ofList piece)
  return if directives.isEmpty then errorsOnly else ⟨directives⟩

/-- The directive that counts of two that concern an event. -/
def prefer (best : Option Directive) (directive : Directive) : Option Directive :=
  match best with
  | none => some directive
  | some d => if d.outranks directive then some d else some directive

/-- The directive that counts for the events of a target with fields of the given
names. -/
def directive? (filter : Filter) (target : String) (names : List String) : Option Directive :=
  (filter.directives.filter (·.concerns target names)).foldl prefer none

/-- Whether events of a level and a target with fields of the given names are logged. -/
def admits (filter : Filter) (level : Level) (target : String) (names : List String) : Bool :=
  match filter.directive? target names with
  | some directive => directive.threshold.admits level
  | none => false

/-- The filter that was asked for if it is one; else the one of verbose runs or
of the configured level. -/
def choose (asked : Option String) (verbose : Bool) (configured : String) : Filter :=
  match asked.bind ofText? with
  | some filter => filter
  | none => (ofText? (if verbose then "debug" else configured)).getD errorsOnly

end Filter

end ContentNode.Log
