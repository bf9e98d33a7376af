import ContentNode.Proofs.CommandLine.Calls
import ContentNode.Proofs.Program.Transcripts
import ContentNode.Proofs.Store.File.Reopening
import Mathlib.Algebra.Ring.Nat

/-!
# Commands one after another

Every command opens the store anew, and all that it gives is told by the commands before: which
texts they were to write.
-/

namespace ContentNode.CommandLine

open FileSystem Log

/-! ### Jobs and their results -/

/-- What a command does with objects. -/
inductive Job where
  | write (data : String)
  | read (address : String)
  | stats

/-- The type of what a command gives. -/
abbrev Job.Result : Job → Type
  | write _ => String
  | read _ => String
  | stats => StoreStats

/-- How a command is carried out. -/
def Job.action (s : Surroundings) (config : Config) (store : FileStore) :
    (job : Job) → Action job.Result
  | write data => writePayload s config store data
  | read address => readPayload s config store address
  | stats => storeStats s store

/-- Carries out a command on the store that a configuration names. -/
def carryOut (config : Config) (order : Surroundings × Job) (world : World) :
    Except Failure order.2.Result × World :=
  (order.2.action order.1 config (storeOf none config)).run.run world

/-- Commands and what they gave. -/
abbrev Session := Transcript fun order : Surroundings × Job => Except Failure order.2.Result

/-! ### What the commands tell -/

variable {config : EngineConfig} {held : List (Address × String)} {data : String}
  {log : Session} {memory : MemoryStore} {now : Instant} {address : Address}

/-- What is held after a text was to be written: the text is added if it can be stored and its
address is new. -/
def added (config : EngineConfig) (held : List (Address × String)) (data : String) :
    List (Address × String) :=
  let address := config.codec.derive data.toUTF8
  if Engine.Acceptable config data.toUTF8 ∧ held.lookup address = none then
    held ++ [(address, data)]
  else held

/-- The texts that have been written and their addresses. -/
def kept (config : EngineConfig) (log : Session) : List (Address × String) :=
  log.foldl (fun held exchange => match exchange.1.2 with
    | .write data => added config held data
    | .read _ | .stats => held) []

/-- A command failed with a message that ends in a code. -/
def FailsWith {α : Type} (code : Int) (result : Except Failure α) : Prop :=
  ∃ failure opening, result = .error failure ∧ failure.message = opening ++ s!"(code {code})"

/-- A command failed because a call gave something else than a text. -/
def Unexpected {α : Type} (result : Except Failure α) : Prop :=
  ∃ v : Json.Value, result = .error ⟨s!"unexpected result {v.render}", []⟩

/-- A command gives what those before it ask for. -/
def Fits (config : EngineConfig) (before : Session) :
    ((order : Surroundings × Job) × Except Failure order.2.Result) → Prop
  | ⟨(_, .write data), result⟩ =>
    if Engine.Acceptable config data.toUTF8 then
      result = .ok (config.codec.derive data.toUTF8).encode
    else FailsWith (-32602) result
  | ⟨(_, .read text), result⟩ =>
    (∀ address, text = address.encode → match (kept config before).lookup address with
      | some data => result = .ok data
      | none => FailsWith (-32001) result) ∧
    ((∀ address : Address, text ≠ address.encode) → FailsWith (-32002) result)
  | ⟨(_, .stats), result⟩ =>
    result = .ok ⟨(kept config before).length,
      ((kept config before).map fun (_, data) => data.utf8ByteSize).sum⟩

/-- What is read is the text that is held under the address. -/
theorem eq_ok_of_fits {before : Session} {s : Surroundings} {result : Except Failure String}
    (fits : Fits config before ⟨(s, .read address.encode), result⟩)
    (found : (kept config before).lookup address = some data) : result = .ok data := by
  obtain ⟨told, -⟩ := fits
  have given := told address rfl
  rw [found] at given
  exact given

/-! ### Failures -/

theorem failsWith_refusal {α : Type} (e : EngineError) :
    FailsWith (Rpc.Error.kindOf e).code (.error (refusal e) : Except Failure α) := by
  refine ⟨_, (Rpc.Error.ofEngine e).message ++ " ", rfl, ?_⟩
  have spaced : " (code " = " " ++ "(code " := by decide
  change _ ++ " (code " ++ _ ++ ")" = _ ++ " " ++ ("(code " ++ _ ++ ")")
  rw [spaced]
  simp only [String.append_assoc]
  rfl

/-- The report of an error begins with a capital letter. -/
theorem not_unexpected_refusal {α : Type} (e : EngineError) :
    ¬ Unexpected (.error (refusal e) : Except Failure α) := by
  rintro ⟨v, same⟩
  have letters := congrArg (fun failure => failure.message.toList.head?) (Except.error.inj same)
  change _ = ("unexpected result " ++ _).toList.head? at letters
  rw [refusal, Rpc.Error.ofEngine_eq] at letters
  cases e <;> simp at letters

theorem not_unexpected_ok {α : Type} (value : α) : ¬ Unexpected (.ok value : Except Failure α) := by
  rintro ⟨v, same⟩
  cases same

/-! ### What is recalled -/

/-- A store in memory holds texts, each under its own address. -/
structure Recalls (config : EngineConfig) (held : List (Address × String))
    (memory : MemoryStore) : Prop where
  objects : memory.objects.map (fun object => (object.address, object.payload)) =
    held.map fun (address, data) => (address, data.toUTF8)
  named : ∀ address data, (address, data) ∈ held → config.codec.derive data.toUTF8 = address

namespace Recalls

theorem nil (config : EngineConfig) : Recalls config [] .empty := ⟨rfl, nofun⟩

theorem payload?_eq (recalls : Recalls config held memory) (address : Address) :
    memory.payload? address = (held.lookup address).map String.toUTF8 := by
  have found (objects : List StoredObject) :
      (objects.find? fun object => object.address == address).map (·.payload) =
        (objects.map fun object => (object.address, object.payload)).lookup address := by
    induction objects with
    | nil => rfl
    | cons first rest ih =>
        rw [List.map_cons, List.lookup_cons, List.find?_cons, Bool.beq_comm, ← ih]
        cases address == first.address <;> rfl
  have texts (held : List (Address × String)) :
      (held.map fun (address, data) => (address, data.toUTF8)).lookup address =
        (held.lookup address).map String.toUTF8 := by
    induction held with
    | nil => rfl
    | cons first rest ih =>
        rw [List.map_cons, List.lookup_cons, List.lookup_cons, ih]
        cases address == first.1 <;> rfl
  rw [MemoryStore.payload?, MemoryStore.get?, found, recalls.objects, texts]

theorem stats_eq (recalls : Recalls config held memory) : memory.stats =
    ⟨held.length, (held.map fun (_, data) => data.utf8ByteSize).sum⟩ := by
  have sizes : memory.objects.map StoredObject.size =
      held.map fun (_, data) => data.utf8ByteSize := by
    have pairs := congrArg (List.map fun pair => pair.2.size) recalls.objects
    rw [List.map_map, List.map_map] at pairs
    exact pairs
  have count := congrArg List.length sizes
  rw [List.length_map, List.length_map] at count
  rw [MemoryStore.stats, StoreStats.ofSizes, sizes, List.length_map, List.sum_eq_foldr]

theorem named_of_lookup (recalls : Recalls config held memory)
    (found : held.lookup address = some data) : config.codec.derive data.toUTF8 = address := by
  obtain ⟨before, behind, rfl, -⟩ := List.lookup_eq_some_iff.mp found
  exact recalls.named address data (List.mem_append_right _ List.mem_cons_self)

/-- A text that can be stored is added unless its address is taken. -/
theorem put (recalls : Recalls config held memory) (now : Instant)
    (acceptable : Engine.Acceptable config data.toUTF8) :
    Recalls config (added config held data)
      (memory.put now (config.codec.derive data.toUTF8) data.toUTF8).2 := by
  rw [added]
  cases taken : held.lookup (config.codec.derive data.toUTF8) with
  | some first =>
      rw [if_neg (by simp), MemoryStore.put_of_taken]
      · exact recalls
      · rw [MemoryStore.contains_eq_isSome, recalls.payload?_eq, taken]
        rfl
  | none =>
      rw [if_pos ⟨acceptable, rfl⟩, MemoryStore.put_of_free]
      · constructor
        · rw [List.map_append, List.map_append, recalls.objects]
          rfl
        · intro address text member
          rcases List.mem_append.mp member with before | last
          · exact recalls.named address text before
          · cases List.mem_singleton.mp last
            rfl
      · rw [MemoryStore.contains_eq_isSome, recalls.payload?_eq, taken]
        rfl

end Recalls

/-! ### One command -/

section Carried

variable {settings : Config} {s : Surroundings} {store : FileStore} {top : Location}
  {world : World}

theorem kept_append (exchange : (order : Surroundings × Job) × Except Failure order.2.Result) :
    kept config (log ++ [exchange]) = match exchange.1.2 with
      | .write data => added config (kept config log) data
      | .read _ | .stats => kept config log := by
  rw [kept, List.foldl_append]
  rfl

/-- A command gives what those before it ask for, and the store can be opened again. -/
def Carried (settings : Config) (store : FileStore) (top : Location) (log : Session)
    (s : Surroundings) (job : Job) (world : World) : Prop :=
  ∃ result after memory, Gives (job.action s settings store) world result after ∧
    Fits settings.engine log ⟨(s, job), result⟩ ∧ ¬ Unexpected result ∧
    Recalls settings.engine (kept settings.engine (log ++ [⟨(s, job), result⟩])) memory ∧
    store.Opens s.actor top memory after

variable (recalls : Recalls settings.engine (kept settings.engine log) memory)
  (opens : store.Opens s.actor top memory world.files)

include recalls opens

theorem carried_write (timely : Record.Timely s.now)
    (limit : settings.maxPayloadSize < UInt32.size - 16) (data : String) :
    Carried settings store top log s (.write data) world := by
  obtain ⟨sweep, opened, opening, hosts⟩ := opens s.now
  by_cases acceptable : Engine.Acceptable settings.engine data.toUTF8
  · have short : 16 + data.toUTF8.size < Record.sizeLimit := by
      have below : data.toUTF8.size ≤ settings.maxPayloadSize := acceptable.2
      have size : UInt32.size = 4294967296 := rfl
      rw [Record.sizeLimit]
      omega
    obtain ⟨receipt, after, ran, same, hosts⟩ := hosts.write timely acceptable short
    refine ⟨.ok receipt.address.encode, after, _, gives_writePayload opening ran, ?_,
      not_unexpected_ok _, ?_, hosts.opens⟩
    · rw [Fits, if_pos acceptable, same]
    · rw [kept_append]
      exact recalls.put s.now acceptable
  · obtain ⟨problem, found⟩ := Option.ne_none_iff_exists'.mp fun none =>
      acceptable (Engine.payloadProblem?_eq_none_iff.mp none)
    have ran : (Engine.write settings.engine data.toUTF8).run (store.perform s.actor s.now) opened =
        (.error (.invalidPayload problem.message), opened) := by
      rw [Engine.write, found]
      rfl
    refine ⟨_, opened, memory, gives_writePayload opening ran, ?_, not_unexpected_refusal _, ?_,
      hosts.opens⟩
    · rw [Fits, if_neg acceptable]
      exact failsWith_refusal _
    · rw [kept_append]
      dsimp only
      rw [added, if_neg fun both => acceptable both.1]
      exact recalls

theorem carried_read (text : String) : Carried settings store top log s (.read text) world := by
  obtain ⟨sweep, opened, opening, hosts⟩ := opens s.now
  -- Nothing is held that was not held before.
  have same {result : Except Failure String} : Recalls settings.engine
      (kept settings.engine (log ++ [⟨(s, .read text), result⟩])) memory := by
    rw [kept_append]
    exact recalls
  cases parsed : Address.parse text with
  | error reason =>
      have ran : (Engine.read settings.engine text).run (store.perform s.actor s.now) opened =
          (.error (.malformedAddress ⟨MalformedAddress.shorten text, reason⟩), opened) := by
        rw [Rpc.read_eq_of_malformed parsed]
        rfl
      refine ⟨_, opened, memory, gives_readPayload opening ran, ⟨fun address is => ?_, fun _ => ?_⟩,
        not_unexpected_refusal _, same, hosts.opens⟩
      · cases parsed.symm.trans (Address.parse_eq_ok_iff.mpr is)
      · exact failsWith_refusal _
  | ok address =>
      obtain rfl := Address.parse_eq_ok_iff.mp parsed
      have given := hosts.readAddress settings.engine s.now address
      rw [← Rpc.read_encode, recalls.payload?_eq] at given
      have only {other : Address} (is : address.encode = other.encode) : other = address :=
        (Address.encode_injective is).symm
      cases found : (kept settings.engine log).lookup address with
      | none =>
          rw [found] at given
          refine ⟨_, opened, memory, gives_readPayload opening given,
            ⟨fun other is => ?_, fun never => absurd rfl (never address)⟩,
            not_unexpected_refusal _, same, hosts.opens⟩
          rw [only is, found]
          exact failsWith_refusal _
      | some data =>
          rw [found, Option.map_some] at given
          dsimp only at given
          rw [if_pos (recalls.named_of_lookup found)] at given
          have gives := gives_readPayload opening given
          dsimp only at gives
          rw [Rpc.renderPayload_toUTF8] at gives
          refine ⟨.ok data, opened, memory, gives,
            ⟨fun other is => ?_, fun never => absurd rfl (never address)⟩,
            not_unexpected_ok _, same, hosts.opens⟩
          rw [only is, found]

theorem carried_stats : Carried settings store top log s .stats world := by
  obtain ⟨sweep, opened, opening, hosts⟩ := opens s.now
  have counted : store.perform s.actor s.now .stats opened = (.ok memory.stats, opened) :=
    hosts.reflects.stats
  rw [recalls.stats_eq] at counted
  refine ⟨_, opened, memory, gives_storeStats opening counted, rfl, not_unexpected_ok _, ?_,
    hosts.opens⟩
  rw [kept_append]
  exact recalls

end Carried

/-! ### All commands -/

variable {settings : Config} {root : String} {actor : Actor} {top : Location} {files : FileTree}

/-- The store that a configuration names holds what commands were to write. -/
def Persists (settings : Config) (actor : Actor) (top : Location) (log : Session)
    (world : World) : Prop :=
  ∃ memory, Recalls settings.engine (kept settings.engine log) memory ∧
    (storeOf none settings).Opens actor top memory world.files

/-- One command after another gives what those before it ask for. -/
theorem sustains_carryOut (actor : Actor) (top : Location)
    (limit : settings.maxPayloadSize < UInt32.size - 16) :
    Sustains (carryOut settings)
      (fun order => order.1.actor = actor ∧ Record.Timely order.1.now)
      (fun before exchange => Fits settings.engine before exchange ∧ ¬ Unexpected exchange.2)
      (Persists settings actor top) := by
  rintro log world ⟨s, job⟩ ⟨rfl, timely⟩ ⟨memory, recalls, opens⟩
  have carried : Carried settings (storeOf none settings) top log s job world := by
    cases job with
    | write data => exact carried_write recalls opens timely limit data
    | read text => exact carried_read recalls opens text
    | stats => exact carried_stats recalls opens
  obtain ⟨result, after, memory', gives, fits, expected, recalls, opens⟩ := carried
  obtain ⟨given, rfl⟩ := gives.eq
  obtain rfl : (carryOut settings (s, job) world).1 = result := given
  exact ⟨⟨fits, expected⟩, memory', recalls, opens⟩

/-- Whatever commands are carried out one after another, from a directory without objects on,
each gives what the texts that were written before it ask for. -/
theorem persists_converse (directory : settings.dataDir = some root)
    (limit : settings.maxPayloadSize < UInt32.size - 16)
    (objectless : (FileStore.mk root).Objectless actor top files) (events : List Event)
    {orders : List (Surroundings × Job)}
    (every : ∀ order ∈ orders, order.1.actor = actor ∧ Record.Timely order.1.now) :
    ∀ before exchange,
      Follows exchange before (converse (carryOut settings) orders ⟨files, events⟩).1 →
      Fits settings.engine before exchange ∧ ¬ Unexpected exchange.2 := by
  have store : storeOf none settings = ⟨root⟩ := by
    rw [storeOf, directory]
    rfl
  have start : Persists settings actor top [] ⟨files, events⟩ := by
    refine ⟨.empty, .nil settings.engine, ?_⟩
    rw [store]
    exact objectless.opens
  obtain ⟨fits, -⟩ := (sustains_carryOut actor top limit).converse start every
  exact fits

/-- The owner of all files gives commands at a moment. -/
def atMoment (now : Instant) : Surroundings := ⟨.owner, now, false, none, ⟨[]⟩⟩

/-- A configuration with a directory for objects. -/
def rooted : Config := { Config.standard with dataDir := some "s" }

/-- The address of a short text. -/
def letter : Address := rooted.engine.codec.derive "a".toUTF8

/-- The clock is set back after a text was written, the text is fetched, and something is asked
for that is no address. -/
def returning : List (Surroundings × Job) :=
  [(atMoment FileStore.staleAge, .write "a"), (atMoment 0, .read letter.encode),
    (atMoment 0, .read "0x12"), (atMoment 0, .stats), (atMoment 5, .write "")]

/-- What the commands give. -/
def returned : Session := (converse (carryOut rooted) returning ⟨FileStore.abandoned, []⟩).1

/-- After the text was written it is held under its address. -/
theorem lookup_kept_letter (written : Except Failure String) :
    (kept rooted.engine [⟨(atMoment FileStore.staleAge, .write "a"), written⟩]).lookup letter =
      some "a" := by
  have acceptable : Engine.Acceptable rooted.engine "a".toUTF8 := by decide
  change (added rooted.engine [] "a").lookup letter = some "a"
  rw [added, if_pos ⟨acceptable, rfl⟩]
  exact List.lookup_cons_self

/-- Every command fits, and what the second one reads is the text that the first one wrote. -/
theorem persists_of_abandoned :
    (∀ order ∈ returning, order.1.actor = .owner ∧ Record.Timely order.1.now) ∧
      (∀ before exchange, Follows exchange before returned →
        Fits rooted.engine before exchange ∧ ¬ Unexpected exchange.2) ∧
      ∃ written, Follows ⟨(atMoment 0, .read letter.encode), .ok "a"⟩
        [⟨(atMoment FileStore.staleAge, .write "a"), written⟩] returned := by
  have every : ∀ order ∈ returning, order.1.actor = .owner ∧ Record.Timely order.1.now := by
    simp only [returning, List.forall_mem_cons, atMoment, Record.Timely]
    decide
  have fits : ∀ before exchange, Follows exchange before returned →
      Fits rooted.engine before exchange ∧ ¬ Unexpected exchange.2 := by
    rw [returned]
    exact persists_converse rfl (by decide) FileStore.objectless_abandoned [] every
  have beginning : ∃ written given : Except Failure String,
      Follows ⟨(atMoment 0, .read letter.encode), given⟩
        [⟨(atMoment FileStore.staleAge, .write "a"), written⟩] returned := by
    rw [returned, returning]
    exact ⟨_, _, follows_second (carryOut rooted) _ _ _ _⟩
  obtain ⟨written, given, follows⟩ := beginning
  obtain rfl : given = .ok "a" :=
    eq_ok_of_fits (fits _ _ follows).1 (lookup_kept_letter written)
  exact ⟨every, fits, written, follows⟩

end ContentNode.CommandLine
