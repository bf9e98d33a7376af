/-!
# Faults in TOML text

A reader that cannot go on tells where, what it was about to read, and what it
expected there.  Readers can be tried one after the other; once a reader has settled
on what there is, its fault is final.
-/

namespace ContentNode.Toml

/-- A place in a text, as the number of characters that follow it. -/
abbrev Place := Nat

/-- What lies between two places. -/
structure Span where
  first : Place
  last : Place
deriving DecidableEq

/-- Why a text cannot be read. -/
structure Fault where
  place : Place
  /-- Whether no other reading is tried. -/
  settled : Bool
  /-- What was being read. -/
  subject : Option String
  expected : List String
  cause : Option String
deriving DecidableEq

/-- The text of a fault. -/
def Fault.message (fault : Fault) : String :=
  let subject := (fault.subject.map fun subject => s!"invalid {subject}").toList
  let expected :=
    if fault.expected.isEmpty then [] else ["expected " ++ ", ".intercalate fault.expected]
  "\n".intercalate (subject ++ expected ++ fault.cause.toList)

/-- What reads something from the front of a text and leaves the rest. -/
abbrev Reader (α : Type) := List Char → Except Fault (α × List Char)

/-- A text that cannot be read from its front. -/
def fault (s : List Char) : Except Fault α := .error ⟨s.length, false, none, [], none⟩

/-- A text that cannot be read for a reason. -/
def because (cause : String) (place : Place) : Except Fault α :=
  .error ⟨place, false, none, [], some cause⟩

/-- Makes a fault final. -/
def settled (result : Except Fault α) : Except Fault α :=
  result.mapError fun fault => { fault with settled := true }

/-- Tells what was being read, unless that is known more closely. -/
def about (subject : String) (result : Except Fault α) : Except Fault α :=
  result.mapError fun fault => { fault with subject := fault.subject <|> some subject }

/-- Tells what was expected. -/
def expecting (expected : List String) (result : Except Fault α) : Except Fault α :=
  result.mapError fun fault => { fault with expected := fault.expected ++ expected }

/-- Tries another reading unless the fault of the first one is final. -/
def orElse (result : Except Fault α) (other : Unit → Except Fault α) : Except Fault α :=
  match result with
  | .error fault => if fault.settled then .error fault else other ()
  | result => result

end ContentNode.Toml
