import ContentNode.Schema
import ContentNode.Toml.Excerpt
import ContentNode.Toml.Parser

/-!
# Reading shapes from TOML

A shape is read from the entries of a document.  Entries are taken in the order
in which they were made; the first one that does not fit is reported with its
place.
-/

namespace ContentNode.Toml

open Schema

/-- Why a document was refused. -/
inductive Refusal where
  /-- The text is no document. -/
  | malformed (fault : Fault)
  /-- What stands between two places has a form that no shape asks for. -/
  | misshapen (reason : String) (span : Span)
  /-- The value between two places does not fit. -/
  | unfit (error : DataError) (span : Span)

namespace Refusal

/-- The reason of a refusal. -/
def reason : Refusal → String
  | malformed fault => fault.message
  | misshapen reason _ => reason
  | unfit e _ => e.message Number.Format.plain

/-- What a refusal is about; where the text cannot be read it is one character. -/
def span : Refusal → Span
  | malformed fault => ⟨fault.place, fault.place - 1⟩
  | misshapen _ span | unfit _ span => span

/-- The text of a refusal of a document, with the line that it is about. -/
def message (refusal : Refusal) (text : List Char) : String :=
  Excerpt.render text refusal.span refusal.reason

/-- The text of a refusal of a document, in one line. -/
def headline (refusal : Refusal) (text : List Char) : String :=
  s!"{Excerpt.title (Location.of text refusal.span.first)}: {refusal.reason}"

end Refusal

namespace FromEntries

/-- What a message says was found. -/
def found : Value → Found
  | .text s => .text s
  | .integer i => .integer i
  | .double x => .double x
  | .bool b => .bool b
  | .array _ | .tables _ => .sequence
  | .moment | .table _ _ => .map

/-- Refuses a value that stands for something, with its own span or, where it was
not written out, the span of what it is in. -/
def unit (outer span : Span) : Value → Except Refusal Unit
  | .array [] | .table _ [] => .ok ()
  | .tables _ => .error (.misshapen "expected empty array" span)
  | .array _ => .error (.misshapen "expected empty table" span)
  | .table origin _ =>
    .error (.misshapen "expected empty table" (if origin.isWritten then span else outer))
  | v => .error (.misshapen s!"expected table, found {v.kind}" span)

/-- One of the allowed names, as a string or as the only key of a table whose
value stands for nothing. -/
def name (allowed : List String) (span : Span) : Value → Except Refusal String
  | .text given => (selectName allowed given).mapError (.unfit · span)
  | .table _ [] => .error (.misshapen "wanted exactly 1 element, found 0 elements" span)
  | .table _ [(key, inner, content)] => do
    let given ← (selectName allowed key.name).mapError (.unfit · key.span)
    unit span inner content
    return given
  | .table _ _ => .error (.misshapen "wanted exactly 1 element, more than 1 element" span)
  | _ => .error (.misshapen "wanted string or table" span)

/-- A scalar or a value chosen by its name. -/
def leaf (span : Span) : Leaf α → Value → Except Refusal α
  | .scalar s, v => (s.read (found v)).mapError (.unfit · span)
  | .choice c, v => do
    let given ← name c.names span v
    (c.select given).mapError (.unfit · span)

/-- A record. -/
def record (r : Record Leaf ρ) (entries : Entries) : Except Refusal ρ :=
  r.ofMembers (fun e => .unfit e ⟨0, 0⟩) (fun _ shape (span, v) => leaf span shape v)
    (entries.map fun (key, span, v) => (key.name, span, v))

end FromEntries

/-- The record of a document. -/
def read (r : Record Leaf ρ) (text : List Char) : Except Refusal ρ := do
  let entries ← (Parser.parse text).mapError .malformed
  FromEntries.record r entries

end ContentNode.Toml
