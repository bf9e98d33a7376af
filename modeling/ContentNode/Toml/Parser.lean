import ContentNode.Toml.Entries
import ContentNode.Toml.Scalar

/-!
# Reading TOML

A document is a sequence of lines: entries, headers and comments.  Keys may be
defined once only.  Arrays and inline tables nest up to 79 levels, and a key has
up to 79 parts.
-/

namespace ContentNode.Toml.Parser

open Scalar

/-- One more than the deepest nesting and the longest key. -/
def limit : Nat := 80

/-- What is refused because it is nested too deep. -/
def tooDeep (s : List Char) : Except Fault α := because "recursion limit exceeded" s.length

/-- Reads something that conflicts with nothing that was read before; a conflict is
reported at a place. -/
def withoutConflict (place : Place) : Except Conflict α → Except Fault α
  | .ok result => .ok result
  | .error conflict => because conflict.message place

/-! ### Keys -/

/-- One part of a key. -/
def simpleKey (s : List Char) : Except Fault (Key × List Char) := do
  let (name, rest) ← match s with
    | '"' :: rest => basic 0 "" rest
    | '\'' :: rest => literal "" rest
    | _ =>
      let name := s.takeWhile Printer.isBare
      if name.isEmpty then fault s else .ok (String.ofList name, s.dropWhile Printer.isBare)
  return (⟨name, s.length, rest.length⟩, rest)

/-- The parts of a key, separated by dots and blanks.  A dot without a part after it
does not belong to the key.  The fuel exceeds the number of characters. -/
def keyParts : Nat → Reader (List Key)
  | 0, s => fault s
  | fuel + 1, s => do
    let (key, s) ← simpleKey (skipBlank s)
    match skipBlank s with
    | '.' :: rest =>
      orElse (do
        let (keys, rest) ← keyParts fuel rest
        return (key :: keys, rest)) fun _ => .ok ([key], '.' :: rest)
    | rest => return ([key], rest)

/-- A key: the parts before the last one, and the last one. -/
def key (s : List Char) : Except Fault ((List Key × Key) × List Char) := do
  let (keys, rest) ← about "key" (keyParts (s.length + 1) s)
  if limit ≤ keys.length then tooDeep s
  else
    match keys.reverse with
    | [] => fault s
    | last :: path => return ((path.reverse, last), rest)

/-! ### Values -/

/-- Passes over blanks, line breaks and comments.  The fuel exceeds the number
of characters. -/
def skipLines : Nat → List Char → List Char
  | 0, s => s
  | fuel + 1, s =>
    match skipBlank s with
    | '#' :: rest => skipLines fuel (rest.dropWhile isCommentChar)
    | s =>
      match lineBreak? s with
      | some rest => skipLines fuel rest
      | none => s

/-- Passes over blanks, line breaks and comments. -/
def skipSpace (s : List Char) : List Char := skipLines (s.length + 1) s

/-- An array whose closing bracket is not where it should be. -/
def arrayUnclosed (s : List Char) : Except Fault α :=
  settled (expecting ["`]`"] (about "array" (fault s)))

/-- The items of an array up to its closing bracket.  The fuel exceeds the
number of characters. -/
def items (item : Reader Value) : Nat → Reader (List Value)
  | 0, s => fault s
  | fuel + 1, s =>
    match skipSpace s with
    | ']' :: rest => .ok ([], rest)
    | s => do
      let (v, s) ← orElse (item s) fun _ => arrayUnclosed s
      match skipSpace s with
      | ',' :: rest =>
        let (vs, rest) ← items item fuel rest
        return (v :: vs, rest)
      | ']' :: rest => return ([v], rest)
      | s => arrayUnclosed s

/-- What an entry adds to a table. -/
structure Addition where
  path : List Key
  key : Key
  span : Span
  value : Value

/-- A key, an equals sign and a value, after which `close` reads on. -/
def entry (item : Reader Value) (close : List Char → Except Fault (List Char))
    (s : List Char) : Except Fault (Addition × List Char) := do
  let ((path, last), s) ← key s
  settled do
    let s ← expecting ["`.`", "`=`"] (word ['='] s)
    let s := skipBlank s
    let (v, rest) ← item s
    return (⟨path, last, ⟨s.length, rest.length⟩, v⟩, ← close rest)

/-- The entries of an inline table, separated by commas, before its closing brace.  A
comma without an entry after it does not belong to them.  The fuel exceeds the number
of characters. -/
def inlineEntries (item : Reader Value) : Nat → Reader (List Addition)
  | 0, s => fault s
  | fuel + 1, s => do
    let (addition, s) ← entry item (fun s => .ok (skipBlank s)) s
    match s with
    | ',' :: rest =>
      orElse (do
        let (additions, rest) ← inlineEntries item fuel rest
        return (addition :: additions, rest)) fun _ => .ok ([addition], ',' :: rest)
    | s => return ([addition], s)

/-- The entries of a table between braces. -/
def entriesOf (additions : List Addition) : Except Conflict Entries :=
  additions.foldlM (fun entries (a : Addition) =>
    entries.add .braces none a.path a.key a.span a.value .inline) []

/-- The entries of an inline table up to its closing brace. -/
def inlineTable (item : Reader Value) (s : List Char) : Except Fault (Entries × List Char) :=
  settled do
    let (additions, rest) ←
      orElse (inlineEntries item (s.length + 1) s) fun _ => .ok ([], skipBlank s)
    let entries ← withoutConflict s.length (entriesOf additions)
    let rest ← expecting ["`\x7d`"] (about "inline table" (word ['\x7d'] rest))
    return (entries, rest)

/-- A value, in which arrays and inline tables may nest up to `levels` levels. -/
def value (levels : Nat) (s : List Char) : Except Fault (Value × List Char) :=
  match s with
  | '[' :: rest =>
    match levels with
    | 0 => settled (tooDeep s)
    | levels + 1 => do
      let (vs, rest) ← items (value levels) (rest.length + 1) rest
      return (.array vs, rest)
  | '\x7b' :: rest =>
    match levels with
    | 0 => settled (tooDeep s)
    | levels + 1 => do
      let (entries, rest) ← inlineTable (value levels) rest
      return (.table .inline entries, rest)
  | s => scalar s

/-! ### Lines -/

/-- The rest after a line break or at the end of the text. -/
def lineEnd : List Char → Except Fault (List Char)
  | [] => .ok []
  | s =>
    match lineBreak? s with
    | some rest => .ok rest
    | none => fault s

/-- The rest after the end of a line: blanks, a comment, and a line break unless
the text ends. -/
def endLine (s : List Char) : Except Fault (List Char) :=
  expecting ["newline", "`#`"] <| lineEnd <|
    match skipBlank s with
    | '#' :: rest => rest.dropWhile isCommentChar
    | s => s

/-- A document in the course of being read: its entries and the path of the
table that was opened last. -/
structure Draft where
  entries : Entries
  opened : List Key

/-- The path and the name of a header after its opening brackets, where it ends, and
the rest after its line. -/
def header (close s : List Char) :
    Except Fault (((List Key × Key) × Place) × List Char) := do
  let (name, s) ← key s
  let closing := String.ofList close
  let s ← expecting ["`.`", s!"`{closing}`"] (word close s)
  let rest ← endLine s
  return ((name, s.length), rest)

/-- A document with a table opened by `open_`, under a header whose opening brackets
are followed by `s`.  The header begins at a place. -/
def Draft.openBy (draft : Draft)
    (open_ : List Key → Key → Span → Entries → Except Conflict Entries)
    (place : Place) (close s : List Char) : Except Fault (Draft × List Char) := do
  let (((path, last), end_), rest) ← header close s
  let entries ← withoutConflict place (open_ path last ⟨place, end_⟩ draft.entries)
  return (⟨entries, path ++ [last]⟩, rest)

/-- A document with a table opened under a header. -/
def Draft.openHeader (draft : Draft) (s : List Char) : Except Fault (Draft × List Char) :=
  about "table header" <|
    match s with
    | '[' :: '[' :: rest => draft.openBy Entries.openItem s.length [']', ']'] rest
    | '[' :: c :: rest => draft.openBy Entries.openTable s.length [']'] (c :: rest)
    | _ => fault s

/-- A document with an entry added. -/
def Draft.addEntry (draft : Draft) (s : List Char) : Except Fault (Draft × List Char) := do
  let (a, rest) ← entry (Parser.value (limit - 1)) endLine s
  let entries ← withoutConflict s.length
    (draft.entries.addUnder draft.opened a.path a.key a.span a.value)
  return (⟨entries.reachUnder draft.opened a.span.last, draft.opened⟩, rest)

/-- The lines of a document.  The fuel exceeds the number of characters. -/
def lines : Nat → Draft → List Char → Except Fault Entries
  | 0, _, s => fault s
  | fuel + 1, draft, s =>
    match skipBlank s with
    | [] => .ok draft.entries
    | '#' :: rest => do lines fuel draft (← lineEnd (rest.dropWhile isCommentChar))
    | '[' :: rest => do
      let (draft, rest) ← draft.openHeader ('[' :: rest)
      lines fuel draft rest
    | '\r' :: rest => do lines fuel draft (← lineEnd ('\r' :: rest))
    | '\n' :: rest => lines fuel draft rest
    | s => do
      let (draft, rest) ← draft.addEntry s
      lines fuel draft rest

/-- The entries of a document.  A mark of the byte order at its front is passed
over. -/
def parse (s : List Char) : Except Fault Entries :=
  let s := match s with
    | '\ufeff' :: rest => rest
    | s => s
  lines (s.length + 1) ⟨[], []⟩ s

end ContentNode.Toml.Parser
