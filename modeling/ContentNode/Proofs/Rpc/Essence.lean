import ContentNode.Proofs.Rpc.Notations

/-!
# Members that mean nothing

A request has four members, a call two and its parameters one.  Further members of
these objects are passed over.  What is left of a value without them is its essence,
and values of one essence are answered alike, whether they are carried out or refused.
-/

namespace ContentNode

namespace Json.Value

variable {names : List String} {key : String} {f : Value → Value}
  {members : List (String × Value)} {v : Value}

/-- A value with only the members of some names, if it is an object. -/
def restrict (names : List String) : Value → Value
  | object members => object (members.filter fun member => names.contains member.1)
  | v => v

/-- A value with the members of a name altered, if it is an object. -/
def alter (key : String) (f : Value → Value) : Value → Value
  | object members =>
    object (members.map fun member => if member.1 = key then (key, f member.2) else member)
  | v => v

theorem lookup_filter (known : key ∈ names) :
    lookup key (members.filter fun member => names.contains member.1) = lookup key members := by
  induction members with
  | nil => rfl
  | cons member rest ih =>
      obtain ⟨k, v⟩ := member
      by_cases kept : k ∈ names
      · rw [List.filter_cons_of_pos (by simpa using kept), lookup, lookup, ih]
      · have different : k ≠ key := by
          rintro rfl
          exact kept known
        rw [List.filter_cons_of_neg (by simpa using kept), lookup, if_neg different, ih]

/-- The members that are kept are what they were. -/
theorem member?_restrict (known : key ∈ names) : (v.restrict names).member? key = v.member? key := by
  cases v with
  | object members => exact lookup_filter known
  | null | bool _ | number _ | string _ | array _ => rfl

theorem lookup_alter {other : String} :
    lookup other (members.map fun member =>
        if member.1 = key then (key, f member.2) else member) =
      if other = key then (lookup other members).map f else lookup other members := by
  induction members with
  | nil => simp [lookup]
  | cons member rest ih =>
      obtain ⟨k, v⟩ := member
      rw [List.map_cons]
      by_cases altered : k = key
      · subst altered
        by_cases same : k = other
        · simp [lookup, same]
        · simp [lookup, same, Ne.symm same, ih]
      · by_cases same : k = other
        · simp [lookup, same, show other ≠ key from fun eq => altered (same.trans eq)]
        · simp only [if_neg altered, lookup, if_neg same, ih]

theorem member?_alter : (v.alter key f).member? key = (v.member? key).map f := by
  cases v with
  | object members => exact lookup_alter.trans (if_pos rfl)
  | null | bool _ | number _ | string _ | array _ => rfl

/-- Other members are not altered. -/
theorem member?_alter_of_ne {other : String} (different : other ≠ key) :
    (v.alter key f).member? other = v.member? other := by
  cases v with
  | object members => exact lookup_alter.trans (if_neg different)
  | null | bool _ | number _ | string _ | array _ => rfl

end Json.Value

namespace Rpc

open Json.Value

/-- What is left of a call without the members that mean nothing: its name and its
parameters, of which only the argument is left where the name is that of a call. -/
def Call.essence (params : Json.Value) : Json.Value :=
  match params.member? "method" with
  | some (.string "read") => (params.restrict ["method", "params"]).alter "params" (restrict ["id"])
  | some (.string "write") =>
    (params.restrict ["method", "params"]).alter "params" (restrict ["data"])
  | _ => params.restrict ["method", "params"]

/-- What is left of a request without the members that mean nothing. -/
def Request.essence (v : Json.Value) : Json.Value :=
  (v.restrict ["jsonrpc", "id", "method", "params"]).alter "params" Call.essence

variable {name field : String} {make : String → Call} {params arguments v v' : Json.Value}
  {f : Json.Value → Json.Value}

/-! ### Calls -/

namespace Call

/-- The parameters of a call are its argument. -/
theorem leafRecord_restrict :
    Json.FromValue.leafRecord .ofValue (parameters name field make) (arguments.restrict [field]) =
      Json.FromValue.leafRecord .ofValue (parameters name field make) arguments := by
  cases arguments with
  | object members =>
      apply Schema.Record.ofMembers_filter
      simp [parameters]
  | null | bool _ | number _ | string _ | array _ => rfl

theorem content_read : Json.FromValue.content shape "read" (arguments.restrict ["id"]) =
    Json.FromValue.content shape "read" arguments := leafRecord_restrict

theorem content_write : Json.FromValue.content shape "write" (arguments.restrict ["data"]) =
    Json.FromValue.content shape "write" arguments := leafRecord_restrict

/-- The call of an object, by its two members. -/
def ofMembers? (name content : Option Json.Value) : Except Schema.DataError Call :=
  match name with
  | none => .error (.missingField "method")
  | some tag => do
    let given ← Json.FromValue.name shape.tags tag
    match content with
    | none => .error (.missingField "params")
    | some arguments => Json.FromValue.content shape given arguments

/-- Of an object in the place of the parameters only the argument is read. -/
theorem ofMembers?_map {content : Option Json.Value}
    (same : ∀ arguments, Json.FromValue.content shape name (f arguments) =
      Json.FromValue.content shape name arguments) :
    ofMembers? (some (.string name)) (content.map f) =
      ofMembers? (some (.string name)) content := by
  cases content with
  | none => rfl
  | some arguments =>
      change (Schema.selectName _ name >>= fun given => _) =
        (Schema.selectName _ name >>= fun given => _)
      cases selected : Schema.selectName shape.tags name with
      | error e => rfl
      | ok given =>
          obtain rfl := eq_of_selectName selected
          exact same arguments

/-- A call is read alike when its parameters are altered in what is not read. -/
theorem tagged_alter {members : List (String × Json.Value)}
    (named : (object members).member? "method" = some (.string name))
    (same : ∀ arguments, Json.FromValue.content shape name (f arguments) =
      Json.FromValue.content shape name arguments) :
    Json.FromValue.tagged shape (((object members).restrict ["method", "params"]).alter "params" f) =
      Json.FromValue.tagged shape (object members) := by
  change ofMembers? ((((object members).restrict _).alter "params" f).member? "method")
    ((((object members).restrict _).alter "params" f).member? "params") =
      ofMembers? ((object members).member? "method") ((object members).member? "params")
  rw [member?_alter_of_ne (by decide), member?_alter, member?_restrict (by decide),
    member?_restrict (by decide), named]
  exact ofMembers?_map same

/-- A call is read from its essence. -/
theorem tagged_essence :
    Json.FromValue.tagged shape (essence params) = Json.FromValue.tagged shape params := by
  cases params with
  | null | bool _ | number _ | string _ | array _ => rfl
  | object members =>
      unfold essence
      split
      · next named => exact tagged_alter named fun _ => content_read
      · next named => exact tagged_alter named fun _ => content_write
      · have name : ((object members).restrict ["method", "params"]).member? "method" =
            (object members).member? "method" := member?_restrict (by decide)
        have content : ((object members).restrict ["method", "params"]).member? "params" =
            (object members).member? "params" := member?_restrict (by decide)
        exact congrArg₂ ofMembers? name content

end Call

/-! ### Requests -/

namespace Request

/-- The members of the envelope are left as they are. -/
theorem member?_essence {key : String} (known : key ∈ ["jsonrpc", "id", "method"]) :
    (essence v).member? key = v.member? key := by
  have other : key ≠ "params" := by
    rintro rfl
    exact absurd known (by decide)
  have kept : key ∈ ["jsonrpc", "id", "method", "params"] := List.mem_append_left ["params"] known
  rw [essence, member?_alter_of_ne other, member?_restrict kept]

theorem member?_params_essence :
    (essence v).member? "params" = (v.member? "params").map Call.essence := by
  rw [essence, member?_alter, member?_restrict (by decide)]

/-- The call of an envelope is read from its essence. -/
theorem checkCall_congr {members others : List (String × Json.Value)}
    (same : lookup "params" others = (lookup "params" members).map Call.essence) :
    checkCall others = checkCall members := by
  unfold checkCall
  rw [same]
  cases lookup "params" members with
  | none => rfl
  | some params =>
      dsimp only [Option.map]
      rw [Call.tagged_essence]

/-- The checks of an envelope look at its members only. -/
theorem ofValue_congr {members others : List (String × Json.Value)}
    (version : lookup "jsonrpc" others = lookup "jsonrpc" members)
    (id : lookup "id" others = lookup "id" members)
    (method : lookup "method" others = lookup "method" members)
    (call : checkCall others = checkCall members) :
    ofValue (.object others) = ofValue (.object members) := by
  have versions : checkVersion others = checkVersion members := by
    rw [checkVersion, checkVersion, version]
  have ids : checkId others = checkId members := by rw [checkId, checkId, id]
  have methods : checkMethod others = checkMethod members := by
    rw [checkMethod, checkMethod, method]
  simp only [ofValue, versions, ids, methods, call]

/-- A request is read, or refused, by its essence. -/
theorem ofValue_essence : ofValue (essence v) = ofValue v := by
  cases v with
  | null | bool _ | number _ | string _ | array _ => rfl
  | object members =>
      exact ofValue_congr (member?_essence (v := object members) (by decide))
        (member?_essence (v := object members) (by decide))
        (member?_essence (v := object members) (by decide))
        (checkCall_congr (member?_params_essence (v := object members)))

end Request

theorem echoOf_essence : echoOf (Request.essence v) = echoOf v := by
  unfold echoOf
  rw [Request.member?_essence (by decide)]

/-- A value is handled by its essence. -/
theorem dispatchValue_essence (config : EngineConfig) :
    dispatchValue config (Request.essence v) = dispatchValue config v := by
  unfold dispatchValue handleValue
  rw [Request.ofValue_essence, echoOf_essence]

/-- Values that differ only in members that mean nothing get the same response and leave
the same store behind, whatever the store is. -/
theorem run_dispatchValue_of_essence_eq (same : Request.essence v = Request.essence v')
    (config : EngineConfig) {σ : Type} (onStore : (op : StoreOperation) → σ → op.Answer × σ)
    (s : σ) :
    (dispatchValue config v).run onStore s = (dispatchValue config v').run onStore s := by
  rw [← dispatchValue_essence, same, dispatchValue_essence]

/-- A request to write, with one member that means nothing. -/
def plainWrite : Json.Value :=
  .object [("id", .integer 1), ("jsonrpc", .string "2.0"), ("method", .string "local"),
    ("params", .object [("method", .string "write"),
      ("params", .object [("data", .string "x"), ("mode", .null)])])]

/-- The same request with that member changed and further ones in the request, in the call and
in its parameters, where one has the name of the argument of another call. -/
def adornedWrite : Json.Value :=
  .object [("auth", .bool true), ("id", .integer 1), ("jsonrpc", .string "2.0"),
    ("method", .string "local"),
    ("params", .object [("data", .string "y"), ("method", .string "write"),
      ("params", .object [("data", .string "x"), ("id", .array []), ("mode", .integer 5)])]),
    ("result", .null)]

/-- A request for an unknown call, refused with and without a further member. -/
def unknownCall (more : List (String × Json.Value)) : Json.Value :=
  .object [("id", .string "a"), ("jsonrpc", .string "2.0"), ("method", .string "local"),
    ("params", .object (("method", .string "drop") :: more))]

/-- The adorned request writes the same text, and an unknown call is refused alike. -/
theorem run_dispatchValue_of_adorned :
    (Request.essence plainWrite = Request.essence adornedWrite ∧
      (dispatchValue .standard plainWrite).run (MemoryStore.perform 0) .empty =
        (dispatchValue .standard adornedWrite).run (MemoryStore.perform 0) .empty) ∧
    (Request.essence (unknownCall []) = Request.essence (unknownCall [("more", .null)]) ∧
      (dispatchValue .standard (unknownCall [])).run (MemoryStore.perform 0) .empty =
        (dispatchValue .standard (unknownCall [("more", .null)])).run (MemoryStore.perform 0)
          .empty) := by
  have writes : Request.essence plainWrite = Request.essence adornedWrite := by decide
  have refused : Request.essence (unknownCall []) =
      Request.essence (unknownCall [("more", .null)]) := by decide
  exact ⟨⟨writes, run_dispatchValue_of_essence_eq writes .standard _ _⟩,
    ⟨refused, run_dispatchValue_of_essence_eq refused .standard _ _⟩⟩

end Rpc

end ContentNode
