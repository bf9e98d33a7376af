import ContentNode.Log.Level
import ContentNode.Log.Pattern
import ContentNode.Number.Literal
import ContentNode.Text.Alphanumeric
import ContentNode.Text.Pieces

/-!
# Directives

A directive sets how much is logged of some targets: `target[span{field=value}]=level`,
of which most can be left out.  A directive that names a span, or the value of a
field, says nothing about the events of a node, which are in no span.

A directive is read in one pass over its characters without the blanks around them,
but its parts are cut from the text with these blanks, at the same places.
-/

namespace ContentNode.Log

/-- What is asked of a field. -/
structure FieldCondition where
  name : String
  /-- A number that the value has to be, or a pattern that it has to match. -/
  value : Option String
deriving DecidableEq

/-- How much is logged of some targets. -/
structure Directive where
  /-- How the targets begin; all targets without it. -/
  target : Option String
  /-- The span that the events are in. -/
  span : Option String
  fields : List FieldCondition
  threshold : Threshold
deriving DecidableEq

namespace FieldCondition

/-- The condition of a text: a name, or a name and a value with `=` between them.
What stands after another `=` does not count. -/
def ofText? (text : String) : Option FieldCondition :=
  match Text.pieces '=' text.toList with
  | name :: value :: _ =>
    let value := String.ofList value
    if Number.Literal.holds value || Pattern.holds value then some ⟨String.ofList name, some value⟩ else none
  | _ => some ⟨text, none⟩

end FieldCondition

namespace Directive

/-! ### Reading -/

/-- What is being read, and where it began. -/
inductive Mode where
  | start
  /-- A level or a target. -/
  | word (first : Nat)
  | span (first : Nat)
  | field (first : Nat)
  /-- The last field has been read. -/
  | fields
  /-- The bracket after the span has been read. -/
  | bracket
  | level (first : Nat)
deriving DecidableEq

/-- What is being read, and the directive so far. -/
structure Reading where
  mode : Mode
  directive : Directive
deriving DecidableEq

/-- The directive of an empty text. -/
def everything : Directive := ⟨none, none, [], .upTo .trace⟩

/-- Whether a directive can begin with a character, apart from a bracket. -/
def canStart (c : Char) : Bool := ['-', ':', '_'].contains c || Text.Alphanumeric.holds c

/-- A part of a text, between places counted in bytes. -/
def cut (text : String) (first last : Nat) : Option String :=
  String.fromUTF8? (text.toUTF8.extract first last)

/-- Reads the character at a place. -/
def Reading.step (text : String) (r : Reading) (place : Nat) (c : Char) : Option Reading := do
  let d := r.directive
  match r.mode with
  | .start =>
    if c = '[' then return { r with mode := .span (place + 1) }
    else if canStart c then return { r with mode := .word place }
    else none
  | .word first =>
    if c = '=' then
      let target ← cut text first place
      return ⟨.level (place + 1), { d with target := some target }⟩
    else if c = '[' then
      let target ← cut text first place
      return ⟨.span (place + 1), { d with target := some target }⟩
    else return r
  | .span first =>
    if c = ']' then
      let name ← cut text first place
      return ⟨.bracket, { d with span := some name }⟩
    else if c = '\x7b' then
      let name ← cut text first place
      return ⟨.field (place + 1), { d with span := if name = "" then none else some name }⟩
    else return r
  | .field first =>
    if c = '\x7d' then
      let field ← cut text first place
      if field = "" then none
      else
        let condition ← FieldCondition.ofText? field
        return ⟨.fields, { d with fields := d.fields ++ [condition] }⟩
    else return r
  | .fields => if c = ']' then return { r with mode := .bracket } else none
  | .bracket => if c = '=' then return { r with mode := .level (place + 1) } else none
  | .level _ => return r

/-- Reads characters from a place on. -/
def Reading.along (text : String) : Reading → Nat → List Char → Option Reading
  | r, _, [] => some r
  | r, place, c :: rest => do
    let r ← r.step text place c
    r.along text (place + c.utf8Size) rest

/-- The directive when all characters have been read. -/
def Reading.finish (text : String) (r : Reading) : Option Directive := do
  let d := r.directive
  match r.mode with
  | .word first =>
    let word ← cut text first text.utf8ByteSize
    match Threshold.ofText? word with
    | some threshold => return { d with threshold }
    | none => return { d with target := some word }
  | .level first =>
    let level ← cut text first text.utf8ByteSize
    if level = "" then return d
    else return { d with threshold := ← Threshold.ofText? level }
  | .bracket => return d
  | _ => none

/-- The directive of a text. -/
def ofText? (text : String) : Option Directive := do
  let r ← Reading.along text ⟨.start, everything⟩ 0 (Text.Alphanumeric.trim text.toList)
  r.finish text

/-! ### Meaning -/

/-- Whether a directive says something about events that are in no span. -/
def concernsEvents (d : Directive) : Bool :=
  d.span.isNone && d.fields.all (·.value.isNone)

/-- Whether a directive concerns the events of a target with fields of the given
names. -/
def concerns (d : Directive) (target : String) (names : List String) : Bool :=
  d.concernsEvents &&
    (match d.target with
    | none => true
    | some start => start.toList.isPrefixOf target.toList) &&
    d.fields.all fun field => names.contains field.name

/-- How much a directive says about targets. -/
def specificity (d : Directive) : Nat :=
  match d.target with
  | none => 0
  | some start => start.utf8ByteSize + 1

/-- The names of the fields. -/
def fieldNames (d : Directive) : List String := d.fields.map (·.name)

/-- Whether a directive counts before another one where both concern an event: it says
more about targets; else it has more fields; else their names come later. -/
def outranks (d e : Directive) : Bool :=
  if d.specificity ≠ e.specificity then e.specificity < d.specificity
  else if d.fields.length ≠ e.fields.length then e.fields.length < d.fields.length
  else e.fieldNames < d.fieldNames

end Directive

end ContentNode.Log
