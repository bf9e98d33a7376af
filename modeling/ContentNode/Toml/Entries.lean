import ContentNode.Toml.Basic
import ContentNode.Toml.Printer

/-!
# Making the entries of a document

A document grows by values under keys and by tables under headers.  Nothing is
defined twice, and what is no table has no entries.
-/

namespace ContentNode.Toml

/-- Why something cannot be added to a document. -/
inductive Conflict where
  /-- There is something of this name, in a table that may be known by its path. -/
  | duplicate (key : String) (table : Option (List String))
  /-- What is at a path is no table. -/
  | notTable (path : List String) (kind : String)
deriving DecidableEq

/-- The text of a conflict. -/
def Conflict.message : Conflict → String
  | duplicate key none => s!"duplicate key `{key}`"
  | duplicate key (some []) => s!"duplicate key `{key}` in document root"
  | duplicate key (some table) =>
    let path := ".".intercalate table
    s!"duplicate key `{key}` in table `{path}`"
  | notTable path kind =>
    let path := ".".intercalate path
    s!"dotted key `{path}` attempted to extend non-table type ({kind})"

namespace Entries

/-- The entry of a name. -/
def entry? (name : String) (entries : Entries) : Option (Key × Span × Value) :=
  List.find? (fun entry => entry.1.name == name) entries

/-- The entries without that of a name. -/
def erase (name : String) (entries : Entries) : Entries :=
  List.filter (fun entry => entry.1.name != name) entries

/-- The entries with the value of a name replaced. -/
def replace (name : String) (value : Value) (entries : Entries) : Entries :=
  List.map (fun (key, span, old) =>
    if key.name == name then (key, span, value) else (key, span, old)) entries

/-- The entries with what is at a name reaching further. -/
def extend (name : String) (last : Place) (entries : Entries) : Entries :=
  List.map (fun (key, span, value) =>
    (key, if key.name == name then ⟨span.first, last⟩ else span, value)) entries

/-- Where a path leads from. -/
inductive Start where
  /-- From a table of the document, along a header. -/
  | header
  /-- From a table of the document, along a key with dots. -/
  | key
  /-- From a table between braces, along a key with dots. -/
  | braces
deriving DecidableEq

/-- How a table comes about that is missing on a path. -/
def Start.origin : Start → Origin
  | header => .implied
  | key | braces => .dotted

/-- Refuses a table that a path may not reach into: a key with dots does not reach
into a complete one. -/
def Start.enter (start : Start) (path : List String) (key : Key) (origin : Origin) :
    Except Conflict Unit :=
  match start, origin with
  | .braces, .inline | .braces, .header | .key, .header => .error (.duplicate key.name none)
  | .key, .inline | .header, .inline =>
    .error (.notTable (path ++ [key.name]) (Value.table .inline []).kind)
  | _, _ => .ok ()

/-- Changes the table at the end of a path by `change`, which is given how that
table came about.  Tables on the way arise where they are missing; `path` has been
gone already. -/
def descend (start : Start) (change : Origin → Entries → Except Conflict Entries)
    (path : List String) : List Key → Origin → Entries → Except Conflict Entries
  | [], origin, entries => change origin entries
  | key :: below, _, entries =>
    match entries.entry? key.name with
    | none => do
      let inner ← descend start change (path ++ [key.name]) below start.origin []
      return entries ++ [(key, key.span, .table start.origin inner)]
    | some (_, _, .table origin inner) => do
      start.enter path key origin
      let inner ← descend start change (path ++ [key.name]) below origin inner
      return entries.replace key.name (.table origin inner)
    | some (_, _, .tables items) =>
      match items.reverse with
      | [] => .error (.duplicate key.name none)
      | last :: earlier => do
        let last ← descend start change (path ++ [key.name]) below .header last
        return entries.replace key.name (.tables (earlier.reverse ++ [last]))
    | some (_, _, v) => .error (.notTable (path ++ [key.name]) v.kind)

/-- Adds a value under a key with dots, in a table that came about as `origin`
tells and may be known by its path. -/
def add (start : Start) (table : Option (List String)) (path : List Key) (key : Key)
    (span : Span) (value : Value) (origin : Origin) (entries : Entries) :
    Except Conflict Entries :=
  descend start (fun reached inner =>
    if ¬ path.isEmpty ∧ reached ≠ .dotted then .error (.duplicate key.name none)
    else if (inner.entry? key.name).isSome then .error (.duplicate key.name table)
    else .ok (inner ++ [(key, span, value)])) [] path origin entries

/-- The conflict of a header with what is there already. -/
def headerConflict (path : List Key) (key : Key) : Conflict :=
  .duplicate (String.ofList (Printer.key key.name.toList)) (some (path.map (·.name)))

/-- Opens a table under a header.  A table that was only implied so far becomes
the last one of its table. -/
def openTable (path : List Key) (key : Key) (span : Span) (entries : Entries) :
    Except Conflict Entries :=
  descend .header (fun _ inner =>
    match inner.entry? key.name with
    | none => .ok (inner ++ [(key, span, .table .header [])])
    | some (_, _, .table .implied below) =>
      .ok (inner.erase key.name ++ [(key, span, .table .header below)])
    | some _ => .error (headerConflict path key)) [] path .header entries

/-- Opens one more table under a header that many tables share. -/
def openItem (path : List Key) (key : Key) (span : Span) (entries : Entries) :
    Except Conflict Entries :=
  descend .header (fun _ inner =>
    match inner.entry? key.name with
    | none => .ok (inner ++ [(key, span, .tables [[]])])
    | some (_, _, .tables items) =>
      .ok ((inner.replace key.name (.tables (items ++ [[]]))).extend key.name span.last)
    | some _ => .error (headerConflict path key)) [] path .header entries

/-- Adds a value to the table that was opened last, by its whole path. -/
def addUnder (opened path : List Key) (key : Key) (span : Span) (value : Value)
    (entries : Entries) : Except Conflict Entries :=
  descend .header (fun origin inner =>
    inner.add .key (some (opened.map (·.name))) path key span value origin)
    [] opened .header entries

/-- The table that was opened last reaches as far as what was added to it. -/
def reachUnder (opened : List Key) (last : Place) (entries : Entries) : Entries :=
  match opened.reverse with
  | [] => entries
  | key :: above =>
    match descend .header (fun _ inner => .ok (inner.extend key.name last))
      [] above.reverse .header entries with
    | .ok entries => entries
    | .error _ => entries

end Entries

end ContentNode.Toml
