import ContentNode.Log.Pattern.Escape

/-!
# Sets of characters in patterns

A set stands between brackets.  Its members are characters, ranges, sets with
names and other sets; operators stand between members.
-/

namespace ContentNode.Log.Pattern

/-- How deep parts are nested that stand side by side: several of them are one
level more than the deepest one. -/
def beside : List Nat → Nat
  | [] => 0
  | [depth] => depth
  | depths => depths.foldl max 0 + 1

namespace CharacterSet

/-- A set in the course of being read. -/
structure Draft where
  /-- How deep it is nested before the last operator, if there is one. -/
  left : Option Nat
  /-- How deep the members after that are nested, latest first. -/
  members : List Nat
deriving DecidableEq

namespace Draft

/-- A set of which nothing has been read. -/
def empty : Draft := ⟨none, []⟩

/-- A set with another member. -/
def add (draft : Draft) (depth : Nat) : Draft := { draft with members := depth :: draft.members }

/-- How deep a set is nested, apart from its brackets. -/
def depth (draft : Draft) : Nat :=
  match draft.left with
  | none => beside draft.members
  | some left => max left (beside draft.members) + 1

/-- A set after another operator. -/
def operate (draft : Draft) : Draft := ⟨some draft.depth, []⟩

end Draft

/-- The names of sets. -/
def names : List String :=
  ["alnum", "alpha", "ascii", "blank", "cntrl", "digit", "graph", "lower", "print", "punct",
    "space", "upper", "word", "xdigit"]

/-- Whether a set with a name is negated, and the rest after it.  The opening bracket
has been read. -/
def named? : List Char → Option (Bool × List Char)
  | ':' :: rest =>
    let (negated, rest) := match rest with
      | '^' :: rest => (true, rest)
      | rest => (false, rest)
    match rest.dropWhile (· ≠ ':') with
    | ':' :: ']' :: after =>
      if names.contains (String.ofList (rest.takeWhile (· ≠ ':'))) then some (negated, after)
      else none
    | _ => none
  | _ => none

/-- The rest after the opening bracket of a set.  A caret asks for all other
characters, which are not all ASCII. -/
def begin? (mode : Mode) (s : List Char) : Option (List Char) :=
  match mode.skip s with
  | '^' :: rest => if mode.unicode then some rest else none
  | s => some s

/-- A member that is not a set of its own: a character, or none for an escape that
stands for several. -/
def member (mode : Mode) : List Char → Option (Option Char × List Char)
  | [] => none
  | '\\' :: rest =>
    match Escape.read mode rest with
    | some (.character c isByte, rest) =>
      if mode.admits c isByte && mode.admitsMember c then some (some c, rest) else none
    | some (.kind, rest) => some (none, rest)
    | _ => none
  | c :: rest => if mode.admitsMember c then some (some c, rest) else none

/-- The rest after a member or a range. -/
def memberOrRange (mode : Mode) (s : List Char) : Option (List Char) := do
  let (first, rest) ← member mode s
  match mode.skip rest with
  | '-' :: after =>
    if [some ']', some '-'].contains (mode.next? after) then return '-' :: after
    else
      let (last, rest) ← member mode (mode.skip after)
      if (← first) ≤ (← last) then return rest else none
  | rest => return rest

/-- How deep a set is nested, and the rest after its closing bracket.  At its front
dashes stand for themselves, and so does a closing bracket.  The fuel exceeds the
number of characters. -/
def members (mode : Mode) : Nat → Bool → Draft → List Char → Option (Nat × List Char)
  | 0, _, _, _ => none
  | fuel + 1, atFront, draft, s =>
    match mode.skip s with
    | [] => none
    | '[' :: rest =>
      match named? rest with
      | some (negated, rest) =>
        if mode.admitsNamed negated then members mode fuel false (draft.add 0) rest else none
      | none => do
        let (depth, rest) ← members mode fuel true .empty (← begin? mode rest)
        members mode fuel false (draft.add (depth + 1)) rest
    | ']' :: rest =>
      if atFront && draft.members.isEmpty then
        if mode.admitsMember ']' then members mode fuel false (draft.add 0) rest else none
      else some (draft.depth, rest)
    | c :: rest =>
      if atFront && c = '-' then
        if mode.admitsMember '-' then members mode fuel true (draft.add 0) rest else none
      else if ['&', '-', '~'].contains c && rest.head? = some c then
        members mode fuel false draft.operate rest.tail
      else do
        members mode fuel false (draft.add 0) (← memberOrRange mode (c :: rest))

/-- How deep a set is nested, and the rest after it.  The opening bracket has been
read. -/
def read (mode : Mode) (s : List Char) : Option (Nat × List Char) := do
  members mode (s.length + 1) true .empty (← begin? mode s)

end CharacterSet

end ContentNode.Log.Pattern
