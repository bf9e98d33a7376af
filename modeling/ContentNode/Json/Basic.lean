import ContentNode.Number.Binary64

/-!
# JSON values

A JSON document as a tree.  In its canonical form the members of an object are
in the order of their keys, each key once, so that equal objects are equal
lists.  Keys compare by code points, which is also the order of their UTF-8
bytes.
-/

namespace ContentNode.Json

/-- A number: an integer of at most 64 bits, signed or unsigned, or a finite
double. -/
inductive Number where
  | integer (value : Int)
  | double (value : Binary64)
deriving DecidableEq

/-- A JSON value. -/
inductive Value where
  | null
  | bool (value : Bool)
  | number (value : Number)
  | string (value : String)
  | array (items : List Value)
  | object (members : List (String × Value))

namespace Value

/-- An integer as a value. -/
abbrev integer (i : Int) : Value := number (.integer i)

/-- The value of a key in a list of members. -/
def lookup (key : String) : List (String × Value) → Option Value
  | [] => none
  | (k, v) :: rest => if k = key then some v else lookup key rest

/-- The members with one key set, in the order of keys. -/
def insert (key : String) (value : Value) : List (String × Value) → List (String × Value)
  | [] => [(key, value)]
  | (k, v) :: rest =>
    if key = k then (key, value) :: rest
    else if key < k then (key, value) :: (k, v) :: rest
    else (k, v) :: insert key value rest

/-- The members of a list in the order of their keys, where a later member
replaces an earlier one of the same key. -/
def sortMembers (members : List (String × Value)) : List (String × Value) :=
  members.foldl (fun sorted member => insert member.1 member.2 sorted) []

mutual

/-- A value whose objects have their members in the order of keys, each key
once; a later member replaces an earlier one. -/
def canonical : Value → Value
  | array items => array (canonicalItems items)
  | object members => object (sortMembers (canonicalMembers members))
  | v => v

/-- Values, each with its members in order. -/
def canonicalItems : List Value → List Value
  | [] => []
  | v :: rest => canonical v :: canonicalItems rest

/-- Members whose values have their members in order. -/
def canonicalMembers : List (String × Value) → List (String × Value)
  | [] => []
  | (k, v) :: rest => (k, canonical v) :: canonicalMembers rest

end

/-- The object of a list of members, where a later member replaces an earlier
one of the same key. -/
def ofMembers (members : List (String × Value)) : Value := object (sortMembers members)

/-- A member of an object; nothing for other values. -/
def member? (v : Value) (key : String) : Option Value :=
  match v with
  | object members => lookup key members
  | _ => none

mutual

/-- Equality of values is decidable. -/
def decEq : (a b : Value) → Decidable (a = b)
  | null, null => isTrue rfl
  | null, bool _ | null, number _ | null, string _ | null, array _ | null, object _ =>
    isFalse nofun
  | bool a, bool b =>
    if h : a = b then isTrue (h ▸ rfl) else isFalse fun e => h (by injection e)
  | bool _, null | bool _, number _ | bool _, string _ | bool _, array _ | bool _, object _ =>
    isFalse nofun
  | number a, number b =>
    if h : a = b then isTrue (h ▸ rfl) else isFalse fun e => h (by injection e)
  | number _, null | number _, bool _ | number _, string _ | number _, array _
  | number _, object _ => isFalse nofun
  | string a, string b =>
    if h : a = b then isTrue (h ▸ rfl) else isFalse fun e => h (by injection e)
  | string _, null | string _, bool _ | string _, number _ | string _, array _
  | string _, object _ => isFalse nofun
  | array a, array b =>
    match decEqItems a b with
    | isTrue h => isTrue (h ▸ rfl)
    | isFalse h => isFalse fun e => h (by injection e)
  | array _, null | array _, bool _ | array _, number _ | array _, string _
  | array _, object _ => isFalse nofun
  | object a, object b =>
    match decEqMembers a b with
    | isTrue h => isTrue (h ▸ rfl)
    | isFalse h => isFalse fun e => h (by injection e)
  | object _, null | object _, bool _ | object _, number _ | object _, string _
  | object _, array _ => isFalse nofun

/-- Equality of lists of values is decidable. -/
def decEqItems : (a b : List Value) → Decidable (a = b)
  | [], [] => isTrue rfl
  | [], _ :: _ | _ :: _, [] => isFalse nofun
  | x :: xs, y :: ys =>
    match decEq x y, decEqItems xs ys with
    | isTrue h, isTrue t => isTrue (h ▸ t ▸ rfl)
    | isFalse h, _ => isFalse fun e => h (by injection e)
    | _, isFalse t => isFalse fun e => t (by injection e)

/-- Equality of lists of members is decidable. -/
def decEqMembers : (a b : List (String × Value)) → Decidable (a = b)
  | [], [] => isTrue rfl
  | [], _ :: _ | _ :: _, [] => isFalse nofun
  | (k, x) :: xs, (l, y) :: ys =>
    match (inferInstance : Decidable (k = l)), decEq x y, decEqMembers xs ys with
    | isTrue h, isTrue h', isTrue t => isTrue (h ▸ h' ▸ t ▸ rfl)
    | isFalse h, _, _ => isFalse fun e => h (by injection e with e; injection e)
    | _, isFalse h, _ => isFalse fun e => h (by injection e with e; injection e)
    | _, _, isFalse t => isFalse fun e => t (by injection e)

end

instance : DecidableEq Value := decEq

instance : Inhabited Value := ⟨null⟩

end Value

end ContentNode.Json
