import ContentNode.Log.Pattern.CharacterSet

/-!
# Patterns

Whether a text is a regular expression: groups and sets are closed, what is
repeated is there, flags and escapes are known, and groups have different names.  Parts
are nested to a limited depth.  A closing brace never occurs in the text, so nothing
is repeated a given number of times.
-/

namespace ContentNode.Log.Pattern

/-- How deep parts may be nested. -/
def depthLimit : Nat := 250

/-- A piece of a pattern. -/
structure Piece where
  /-- How deep it is nested. -/
  depth : Nat
  /-- Whether it matches something, and so can be repeated. -/
  repeatable : Bool
deriving DecidableEq

/-- A pattern or a group in the course of being read. -/
structure Reading where
  mode : Mode
  /-- The names of groups so far. -/
  names : List String
  /-- How deep the alternatives before the last bar are nested, latest first. -/
  alternatives : List Nat
  /-- The pieces after it, latest first. -/
  pieces : List Piece
deriving DecidableEq

namespace Reading

/-- A pattern or a group of which nothing has been read. -/
def empty (mode : Mode) (names : List String) : Reading := ⟨mode, names, [], []⟩

/-- Adds a piece. -/
def add (r : Reading) (piece : Piece) : Reading := { r with pieces := piece :: r.pieces }

/-- How deep what has been read is nested. -/
def depth (r : Reading) : Nat :=
  beside (beside (r.pieces.map (·.depth)) :: r.alternatives)

/-- Begins another alternative. -/
def bar (r : Reading) : Reading :=
  { r with alternatives := beside (r.pieces.map (·.depth)) :: r.alternatives, pieces := [] }

/-- Repeats the last piece. -/
def repeated? (r : Reading) : Option Reading :=
  match r.pieces with
  | piece :: pieces =>
    if piece.repeatable then some { r with pieces := ⟨piece.depth + 1, true⟩ :: pieces } else none
  | [] => none

/-- Whether a text can be the name of a group. -/
def isName : List Char → Bool
  | [] => false
  | c :: rest =>
    (c = '_' || Text.Alphanumeric.isLetter c) &&
      rest.all fun c => ['_', '.', '[', ']'].contains c || Text.Alphanumeric.holds c

/-- Begins a group with a name, after the sign that opens the name. -/
def named? (r : Reading) (s : List Char) : Option (Reading × List Char) :=
  let name := s.takeWhile (· ≠ '>')
  match s.dropWhile (· ≠ '>') with
  | _ :: rest =>
    if isName name && !r.names.contains (String.ofList name) then
      some (empty r.mode (String.ofList name :: r.names), rest)
    else none
  | [] => none

/-- Reads what follows an opening parenthesis: a change of the mode, or the
beginning of a group, which is given apart. -/
def parenthesis (r : Reading) (s : List Char) :
    Option ((Reading ⊕ Reading) × List Char) :=
  match r.mode.skip s with
  | '?' :: 'P' :: '<' :: rest | '?' :: '<' :: rest => do
    let (group, rest) ← r.named? rest
    return (.inr group, rest)
  | '?' :: rest => do
    let (flags, rest) ← Mode.flags [] rest
    let mode := r.mode.after flags
    match rest with
    | ')' :: rest =>
      if flags.isEmpty then none
      else return (.inl ({ r with mode }.add ⟨0, false⟩), rest)
    | rest => return (.inr (empty mode r.names), rest.tail)
  | rest => some (.inr (empty r.mode r.names), rest)

/-- The rest after one character, or an escape. -/
def single (mode : Mode) : List Char → Option (List Char)
  | [] => none
  | '\\' :: rest =>
    match Escape.read mode rest with
    | some (.character c isByte, rest) => if mode.admits c isByte then some rest else none
    | some (_, rest) => some rest
    | none => none
  | '.' :: rest => if mode.unicode then some rest else none
  | '^' :: rest | '$' :: rest => some rest
  | c :: rest => if mode.admits c false then some rest else none

/-- Reads a pattern to its end, or a group up to its closing parenthesis.  The fuel
exceeds the number of characters. -/
def run (isGroup : Bool) : Nat → Reading → List Char → Option (Reading × List Char)
  | 0, _, _ => none
  | fuel + 1, r, s =>
    match r.mode.skip s with
    | [] => if isGroup then none else some (r, [])
    | '(' :: rest => do
      match ← r.parenthesis rest with
      | (.inl r, rest) => run isGroup fuel r rest
      | (.inr group, rest) =>
        let (group, rest) ← run true fuel group rest
        run isGroup fuel ({ r with names := group.names }.add ⟨group.depth + 1, true⟩) rest
    | ')' :: rest => if isGroup then some (r, rest) else none
    | '|' :: rest => run isGroup fuel r.bar rest
    | '[' :: rest => do
      let (depth, rest) ← CharacterSet.read r.mode rest
      run isGroup fuel (r.add ⟨depth + 1, true⟩) rest
    | '\x7b' :: _ => none
    | c :: rest => do
      if ['*', '+', '?'].contains c then
        let rest := if rest.head? = some '?' then rest.tail else rest
        run isGroup fuel (← r.repeated?) rest
      else
        run isGroup fuel (r.add ⟨0, true⟩) (← single r.mode (c :: rest))

end Reading

/-- Whether a text is a pattern. -/
def holds (text : String) : Bool :=
  let s := text.toList
  match Reading.run false (s.length + 1) (Reading.empty Mode.start []) s with
  | some (r, _) => r.depth ≤ depthLimit
  | none => false

example : ["a(b|[c\\x41])*?", "(?x) a # (\n+", "[]-^&&[^a-z]]", "(?-u)\\d\\b"].all holds = true := by
  decide +kernel

example : ["(", "*", "[z-a]", "(?ii)", "\\d", "(?<n>a)(?<n>b)"].any holds = false := by
  decide +kernel

end ContentNode.Log.Pattern
