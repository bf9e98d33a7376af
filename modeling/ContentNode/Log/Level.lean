/-!
# Levels and thresholds

How grave an event is, and how much is logged.
-/

namespace ContentNode.Log

/-- How grave an event is, gravest first. -/
inductive Level where
  | error
  | warn
  | info
  | debug
  | trace
deriving DecidableEq

namespace Level

/-- Every level. -/
def all : List Level := [error, warn, info, debug, trace]

/-- The name of a level. -/
def name : Level → String
  | error => "error"
  | warn => "warn"
  | info => "info"
  | debug => "debug"
  | trace => "trace"

/-- The name of a level in log lines. -/
def label (level : Level) : String := level.name.toUpper

/-- The number of a level. -/
def number : Level → Nat
  | error => 1
  | warn => 2
  | info => 3
  | debug => 4
  | trace => 5

end Level

/-- How much is logged: events up to a level, or none at all. -/
inductive Threshold where
  | off
  | upTo (level : Level)
deriving DecidableEq

namespace Threshold

/-- Every threshold. -/
def all : List Threshold := off :: Level.all.map upTo

/-- The name of a threshold. -/
def name : Threshold → String
  | off => "off"
  | upTo level => level.name

/-- The number of a threshold. -/
def number : Threshold → Nat
  | off => 0
  | upTo level => level.number

/-- Whether an event of a level is logged. -/
def admits (threshold : Threshold) (level : Level) : Bool := level.number ≤ threshold.number

/-- The number that decimal digits stand for, after a plus sign or none. -/
def decimal? (text : List Char) : Option Nat :=
  let digits := if text.head? = some '+' then text.tail else text
  if digits.isEmpty || !digits.all Char.isDigit then none
  else some (digits.foldl (fun n c => 10 * n + (c.toNat - '0'.toNat)) 0)

/-- The threshold of a number or of a name in any case. -/
def ofText? (text : String) : Option Threshold :=
  match decimal? text.toList with
  | some n => all.find? fun threshold => threshold.number == n
  | none => all.find? fun threshold => threshold.name == text.toLower

end Threshold

end ContentNode.Log
