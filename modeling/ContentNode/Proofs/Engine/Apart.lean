import ContentNode.Proofs.Engine.Naming
import ContentNode.Proofs.Engine.OnMemory
import ContentNode.Proofs.Program.Transcripts

/-!
# Two nodes on one store

Nodes that name payloads by different functions can share a store.  As long as no address
is that of two payloads, every node reads what was written through itself; what was written
through the other one only is reported as a violation, and is never given out.
-/

namespace ContentNode.Engine

/-- What one of the nodes is asked for, and when. -/
structure Turn where
  now : Instant
  node : HashAlgorithm
  task : Task

/-- What comes of a turn. -/
abbrev Turn.Reply (turn : Turn) : Type := turn.task.Reply

/-- A node carries out its task on the store. -/
def takeTurn {σ : Type} (perform : Instant → (op : StoreOperation) → σ → op.Answer × σ)
    (nodes : HashAlgorithm → Naming) (turn : Turn) : σ → turn.Reply × σ :=
  ((nodes turn.node).program turn.task).run (perform turn.now)

/-- A payload was written through a node. -/
def WrittenThrough (log : Transcript Turn.Reply) (node : HashAlgorithm) (payload : ByteArray) :
    Prop :=
  ∃ now receipt, ⟨⟨now, node, .write payload⟩, .ok receipt⟩ ∈ log

/-- A payload of this address was written through a node. -/
def WrittenAt (nodes : HashAlgorithm → Naming) (log : Transcript Turn.Reply)
    (node : HashAlgorithm) (address : Address) : Prop :=
  ∃ payload, WrittenThrough log node payload ∧ (nodes node).derive payload = address

/-- No two payloads that were written have the same address, neither from one node nor from
both. -/
structure Apart (nodes : HashAlgorithm → Naming) (log : Transcript Turn.Reply) : Prop where
  own : ∀ node one two, WrittenThrough log node one → WrittenThrough log node two →
    (nodes node).derive one = (nodes node).derive two → one = two
  other : ∀ first second node node' one two, first ≠ second → WrittenThrough log node one →
    WrittenThrough log node' two → (nodes first).derive one ≠ (nodes second).derive two

/-- What a node reads is told by what was written before. -/
structure ReadsOwn (nodes : HashAlgorithm → Naming) (before : Transcript Turn.Reply)
    (node : HashAlgorithm) (address : Address) (reply : Except EngineError ByteArray) : Prop where
  ok_iff : ∀ payload, reply = .ok payload ↔
    WrittenThrough before node payload ∧ (nodes node).derive payload = address
  violation_iff : (∃ violation, reply = .error (.integrityViolation address violation)) ↔
    (∃ other, other ≠ node ∧ WrittenAt nodes before other address) ∧
      ¬ WrittenAt nodes before node address
  notFound_iff : reply = .error (.notFound address) ↔
    ∀ other, ¬ WrittenAt nodes before other address

variable {σ : Type} {perform : Instant → (op : StoreOperation) → σ → op.Answer × σ}
  {timely : Instant → Prop} {holds : σ → (Address → Option ByteArray) → Prop}
  {nodes : HashAlgorithm → Naming} {log more : Transcript Turn.Reply} {s : σ}
  {held : Address → Option ByteArray} {node other : HashAlgorithm} {payload : ByteArray}
  {address : Address} {now : Instant}

/-! ### What was written -/

theorem writtenThrough_append : WrittenThrough (log ++ more) node payload ↔
    WrittenThrough log node payload ∨ WrittenThrough more node payload := by
  simp only [WrittenThrough, List.mem_append, exists_or]

theorem Apart.of_append (apart : Apart nodes (log ++ more)) : Apart nodes log :=
  ⟨fun node one two first second => apart.own node one two
      (writtenThrough_append.mpr (.inl first)) (writtenThrough_append.mpr (.inl second)),
    fun first second node node' one two different left right =>
      apart.other first second node node' one two different (writtenThrough_append.mpr (.inl left))
        (writtenThrough_append.mpr (.inl right))⟩

/-- Nothing is written by reading. -/
theorem writtenThrough_read {reply : Except EngineError ByteArray} :
    WrittenThrough (log ++ [⟨⟨now, node, .read address⟩, reply⟩]) other payload ↔
      WrittenThrough log other payload := by
  rw [writtenThrough_append, or_iff_left]
  rintro ⟨_, _, member⟩
  simp at member

/-- Nothing is written by a failure. -/
theorem writtenThrough_error {e : EngineError} {asked : ByteArray} :
    WrittenThrough (log ++ [⟨⟨now, node, .write asked⟩, .error e⟩]) other payload ↔
      WrittenThrough log other payload := by
  rw [writtenThrough_append, or_iff_left]
  rintro ⟨_, _, member⟩
  simp only [List.mem_singleton, Sigma.mk.injEq, Turn.mk.injEq] at member
  obtain ⟨⟨-, -, same⟩, replies⟩ := member
  cases same
  cases replies

theorem writtenThrough_ok {receipt : Receipt} {asked : ByteArray} :
    WrittenThrough (log ++ [⟨⟨now, node, .write asked⟩, .ok receipt⟩]) other payload ↔
      WrittenThrough log other payload ∨ other = node ∧ payload = asked := by
  rw [writtenThrough_append]
  refine or_congr_right ⟨?_, ?_⟩
  · rintro ⟨_, _, member⟩
    simp only [List.mem_singleton, Sigma.mk.injEq, Turn.mk.injEq, Task.write.injEq] at member
    exact ⟨member.1.2.1, member.1.2.2⟩
  · rintro ⟨rfl, rfl⟩
    exact ⟨now, receipt, List.mem_singleton_self _⟩

/-! ### What is held -/

/-- A payload is held under an address exactly if it was written through the node that gave
it this address. -/
def Tells (nodes : HashAlgorithm → Naming) (log : Transcript Turn.Reply)
    (held : Address → Option ByteArray) : Prop :=
  ∀ address payload, held address = some payload ↔
    ∃ node, WrittenThrough log node payload ∧ (nodes node).derive payload = address

theorem tells_nil : Tells nodes [] fun _ => none :=
  fun _ _ => ⟨nofun, fun ⟨_, ⟨_, _, member⟩, _⟩ => nomatch member⟩

theorem Tells.congr (tells : Tells nodes log held)
    (same : ∀ node payload, WrittenThrough more node payload ↔ WrittenThrough log node payload) :
    Tells nodes more held := by
  intro address payload
  simp only [same, tells address payload]

/-- An address is taken exactly if something was written there through one of the nodes. -/
theorem Tells.eq_none_iff (tells : Tells nodes log held) :
    held address = none ↔ ∀ node, ¬ WrittenAt nodes log node address := by
  constructor
  · rintro free node ⟨payload, written, there⟩
    cases free.symm.trans ((tells address payload).mpr ⟨node, written, there⟩)
  · intro absent
    cases taken : held address with
    | none => rfl
    | some payload =>
        obtain ⟨node, written, there⟩ := (tells address payload).mp taken
        exact absurd ⟨payload, written, there⟩ (absent node)

/-- A payload that is written again is held already. -/
theorem Tells.present (tells : Tells nodes log held) {receipt : Receipt}
    (apart : Apart nodes (log ++ [⟨⟨now, node, .write payload⟩, .ok receipt⟩]))
    (taken : (held ((nodes node).derive payload)).isSome) :
    Tells nodes (log ++ [⟨⟨now, node, .write payload⟩, .ok receipt⟩]) held := by
  obtain ⟨first, found⟩ := Option.isSome_iff_exists.mp taken
  obtain ⟨earlier, written, there⟩ := (tells _ _).mp found
  have last : WrittenThrough (log ++ [⟨⟨now, node, .write payload⟩, .ok receipt⟩]) node payload :=
    writtenThrough_ok.mpr (.inr ⟨rfl, rfl⟩)
  obtain rfl : earlier = node := by
    by_contra different
    exact apart.other earlier node earlier node first payload different
      (writtenThrough_ok.mpr (.inl written)) last there
  obtain rfl : first = payload :=
    apart.own earlier first payload (writtenThrough_ok.mpr (.inl written)) last there
  refine tells.congr fun other asked => ?_
  rw [writtenThrough_ok, or_iff_left_iff_imp]
  rintro ⟨rfl, rfl⟩
  exact written

/-- A payload that is new is held under its address from then on. -/
theorem Tells.added (tells : Tells nodes log held) {receipt : Receipt}
    (free : held ((nodes node).derive payload) = none) :
    Tells nodes (log ++ [⟨⟨now, node, .write payload⟩, .ok receipt⟩])
      (Function.update held ((nodes node).derive payload) (some payload)) := by
  intro address asked
  by_cases here : address = (nodes node).derive payload
  · subst here
    rw [Function.update_self]
    constructor
    · intro same
      obtain rfl := Option.some.inj same
      exact ⟨node, writtenThrough_ok.mpr (.inr ⟨rfl, rfl⟩), rfl⟩
    · rintro ⟨other, written, there⟩
      rcases writtenThrough_ok.mp written with before | ⟨rfl, rfl⟩
      · cases free.symm.trans ((tells _ _).mpr ⟨other, before, there⟩)
      · rfl
  · rw [Function.update_of_ne here, tells address asked]
    constructor
    · rintro ⟨other, written, there⟩
      exact ⟨other, writtenThrough_ok.mpr (.inl written), there⟩
    · rintro ⟨other, written, there⟩
      rcases writtenThrough_ok.mp written with before | ⟨rfl, rfl⟩
      · exact ⟨other, before, there⟩
      · exact absurd there.symm here

/-! ### What is read -/

/-- What a node reads where a store holds what a map tells. -/
def reading (nodes : HashAlgorithm → Naming) (held : Address → Option ByteArray)
    (node : HashAlgorithm) (address : Address) : Except EngineError ByteArray :=
  match held address with
  | some payload =>
    if (nodes node).derive payload = address then .ok payload
    else .error (.integrityViolation address (.foreign ((nodes node).derive payload)))
  | none => .error (.notFound address)

/-- A payload that is held was written through the node that reads it, or through another one
and is foreign to the address. -/
theorem Tells.reads_own (tells : Tells nodes log held) (apart : Apart nodes log)
    (node : HashAlgorithm) (address : Address) :
    ReadsOwn nodes log node address (reading nodes held node address) := by
  unfold reading
  cases taken : held address with
  | none =>
      have nowhere := tells.eq_none_iff.mp taken
      refine ⟨fun payload => ⟨nofun, fun ⟨written, there⟩ => ?_⟩,
        ⟨nofun, fun ⟨⟨other, _, written⟩, _⟩ => ?_⟩, iff_of_true rfl nowhere⟩
      · exact absurd ⟨payload, written, there⟩ (nowhere node)
      · exact absurd written (nowhere other)
  | some kept =>
      obtain ⟨writer, written, there⟩ := (tells address kept).mp taken
      have somewhere : ¬ ∀ other, ¬ WrittenAt nodes log other address :=
        fun nowhere => nowhere writer ⟨kept, written, there⟩
      -- Whatever was written at this address is what is held.
      have only (other : HashAlgorithm) (payload : ByteArray)
          (wrote : WrittenThrough log other payload)
          (here : (nodes other).derive payload = address) : payload = kept :=
        Option.some.inj (((tells address payload).mpr ⟨other, wrote, here⟩).symm.trans taken)
      by_cases own : writer = node
      · subst own
        dsimp only
        rw [if_pos there]
        refine ⟨fun payload => ⟨fun same => ?_, fun ⟨wrote, here⟩ => ?_⟩,
          iff_of_false nofun fun ⟨_, absent⟩ => absent ⟨kept, written, there⟩,
          iff_of_false nofun somewhere⟩
        · obtain rfl := Except.ok.inj same
          exact ⟨written, there⟩
        · rw [only writer payload wrote here]
      · have foreign : (nodes node).derive kept ≠ address := fun same =>
          apart.other writer node writer writer kept kept own written written
            (there.trans same.symm)
        have absent : ¬ WrittenAt nodes log node address := by
          rintro ⟨payload, wrote, here⟩
          rw [only node payload wrote here] at here
          exact foreign here
        dsimp only
        rw [if_neg foreign]
        refine ⟨fun payload => ⟨nofun, fun ⟨wrote, here⟩ => ?_⟩,
          iff_of_true ⟨_, rfl⟩ ⟨⟨writer, own, kept, written, there⟩, absent⟩,
          iff_of_false nofun somewhere⟩
        exact absurd ⟨payload, wrote, here⟩ absent

/-- A payload that another node adds is seen where nothing was found, as a violation. -/
theorem reading_update {receipt : Receipt}
    {writer : HashAlgorithm}
    (apart : Apart nodes (log ++ [⟨⟨now, writer, .write payload⟩, .ok receipt⟩]))
    (free : held ((nodes writer).derive payload) = none) (different : node ≠ writer)
    (address : Address) :
    reading nodes (Function.update held ((nodes writer).derive payload) (some payload)) node
        address = reading nodes held node address ∨
      reading nodes held node address = .error (.notFound address) ∧
        ∃ violation, reading nodes
          (Function.update held ((nodes writer).derive payload) (some payload)) node address =
            .error (.integrityViolation address violation) := by
  by_cases here : address = (nodes writer).derive payload
  · subst here
    have added : WrittenThrough (log ++ [⟨⟨now, writer, .write payload⟩, .ok receipt⟩]) writer
        payload := writtenThrough_ok.mpr (.inr ⟨rfl, rfl⟩)
    have foreign : (nodes node).derive payload ≠ (nodes writer).derive payload :=
      apart.other node writer writer writer payload payload different added added
    refine .inr ⟨?_, .foreign ((nodes node).derive payload), ?_⟩
    · rw [reading, free]
    · rw [reading, Function.update_self]
      exact if_neg foreign
  · refine .inl ?_
    rw [reading, reading, Function.update_of_ne here]

/-! ### Runs -/

/-- In a run two nodes stay apart on their store. -/
structure StayApart (perform : Instant → (op : StoreOperation) → σ → op.Answer × σ)
    (timely : Instant → Prop) (nodes : HashAlgorithm → Naming) (log : Transcript Turn.Reply)
    (s : σ) : Prop where
  /-- Every node reads what was written through itself before. -/
  reads : ∀ before now node address reply,
    Follows ⟨⟨now, node, .read address⟩, reply⟩ before log →
      ReadsOwn nodes before node address reply
  /-- Writing through one node changes what the other one reads only where it found nothing. -/
  undisturbed : ∀ now writer payload earlier later node address, timely now → timely earlier →
    timely later → node ≠ writer →
    Apart nodes (log ++ [⟨⟨now, writer, .write payload⟩,
      (takeTurn perform nodes ⟨now, writer, .write payload⟩ s).1⟩]) →
    (takeTurn perform nodes ⟨later, node, .read address⟩
        (takeTurn perform nodes ⟨now, writer, .write payload⟩ s).2).1 =
      (takeTurn perform nodes ⟨earlier, node, .read address⟩ s).1 ∨
    (takeTurn perform nodes ⟨earlier, node, .read address⟩ s).1 = .error (.notFound address) ∧
      ∃ violation, (takeTurn perform nodes ⟨later, node, .read address⟩
          (takeTurn perform nodes ⟨now, writer, .write payload⟩ s).2).1 =
        .error (.integrityViolation address violation)
  /-- A payload that was written through both is held as two objects. -/
  twofold : ∀ payload, (∀ node, WrittenThrough log node payload) →
    (nodes .sha3).derive payload ≠ (nodes .blake3).derive payload ∧
    ∀ node now, timely now → ∃ createdAt,
      (perform now (.get ((nodes node).derive payload)) s).1 =
        .ok ⟨(nodes node).derive payload, payload, createdAt⟩

/-- If all payloads that were written have addresses of their own, the store holds them. -/
def Keeping (holds : σ → (Address → Option ByteArray) → Prop) (nodes : HashAlgorithm → Naming)
    (log : Transcript Turn.Reply) (s : σ) : Prop :=
  Apart nodes log → ∃ held, holds s held ∧ Tells nodes log held

/-- A read is told by what was written, if all payloads have addresses of their own. -/
def ReadsWell (nodes : HashAlgorithm → Naming) (before : Transcript Turn.Reply) :
    ((turn : Turn) × turn.Reply) → Prop
  | ⟨⟨_, node, .read address⟩, reply⟩ =>
    Apart nodes before → ReadsOwn nodes before node address reply
  | ⟨⟨_, _, .write _⟩, _⟩ => True

/-- One turn keeps what the store holds in step with what was written. -/
theorem sustains_takeTurn (keeps : KeepsFirst perform timely holds)
    (nodes : HashAlgorithm → Naming) :
    Sustains (takeTurn perform nodes) (fun turn => timely turn.now) (ReadsWell nodes)
      (Keeping holds nodes) := by
  rintro log s ⟨now, node, task⟩ moment keeping
  cases task with
  | read address =>
      refine ⟨fun apart => ?_, fun apart => ?_⟩
      · obtain ⟨held, holding, tells⟩ := keeping apart
        have told := ((nodes node).run_readAddress keeps moment holding address).1
        change ReadsOwn nodes log node address
          (((nodes node).readAddress address).run (perform now) s).1
        rw [told]
        exact tells.reads_own apart node address
      · obtain ⟨held, holding, tells⟩ := keeping apart.of_append
        exact ⟨held, ((nodes node).run_readAddress keeps moment holding address).2,
          tells.congr fun _ _ => writtenThrough_read⟩
  | write payload =>
      refine ⟨trivial, fun apart => ?_⟩
      obtain ⟨held, holding, tells⟩ := keeping apart.of_append
      have outcome := (nodes node).run_write keeps moment holding payload
      change ∃ held, holds (((nodes node).write payload).run (perform now) s).2 held ∧
        Tells nodes (log ++ [⟨⟨now, node, .write payload⟩,
          (((nodes node).write payload).run (perform now) s).1⟩]) held
      change Apart nodes (log ++ [⟨⟨now, node, .write payload⟩,
          (((nodes node).write payload).run (perform now) s).1⟩]) at apart
      rcases outcome with ⟨e, failed, same⟩ | ⟨receipt, went, ⟨taken, same⟩ | ⟨free, added⟩⟩
      · rw [failed]
        exact ⟨held, same, tells.congr fun _ _ => writtenThrough_error⟩
      · rw [went] at apart ⊢
        exact ⟨held, same, tells.present apart taken⟩
      · rw [went]
        exact ⟨_, added, tells.added free⟩

/-- Where every read was told by what was written, and the store holds what was written, the
nodes have stayed apart. -/
theorem Keeping.stayApart (keeps : KeepsFirst perform timely holds)
    (kept : Keeping holds nodes log s)
    (reads : ∀ before answer, Follows answer before log → ReadsWell nodes before answer)
    (apart : Apart nodes log) : StayApart perform timely nodes log s := by
  obtain ⟨held, holding, tells⟩ := kept apart
  constructor
  · intro before now node address reply follows
    have well : ReadsWell nodes before ⟨⟨now, node, .read address⟩, reply⟩ :=
      reads before _ follows
    obtain ⟨rest, whole⟩ := follows
    rw [← whole, List.append_assoc] at apart
    exact well apart.of_append
  · intro now writer payload earlier later node address moment before after different further
    have told := ((nodes node).run_readAddress keeps before holding address).1
    have outcome := (nodes writer).run_write keeps moment holding payload
    change Apart nodes (log ++ [⟨⟨now, writer, .write payload⟩,
      (((nodes writer).write payload).run (perform now) s).1⟩]) at further
    change (((nodes node).readAddress address).run (perform later)
          (((nodes writer).write payload).run (perform now) s).2).1 =
        (((nodes node).readAddress address).run (perform earlier) s).1 ∨
      (((nodes node).readAddress address).run (perform earlier) s).1 =
          .error (.notFound address) ∧
        ∃ violation, (((nodes node).readAddress address).run (perform later)
          (((nodes writer).write payload).run (perform now) s).2).1 =
            .error (.integrityViolation address violation)
    rw [told]
    rcases outcome with ⟨e, failed, same⟩ | ⟨receipt, went, ⟨taken, same⟩ | ⟨free, added⟩⟩
    · exact .inl ((nodes node).run_readAddress keeps after same address).1
    · exact .inl ((nodes node).run_readAddress keeps after same address).1
    · rw [went] at further
      rw [((nodes node).run_readAddress keeps after added address).1]
      exact reading_update further free different address
  · intro payload written
    refine ⟨apart.other .sha3 .blake3 .sha3 .blake3 payload payload (by decide) (written _)
      (written _), fun node now moment => ?_⟩
    have found := (keeps.get now ((nodes node).derive payload) _ held moment holding).1
    rwa [(tells _ payload).mpr ⟨node, written node, rfl⟩] at found

/-- A run on an empty store keeps what was written, and tells its reads by it. -/
theorem keeping_converse (keeps : KeepsFirst perform timely holds) (nodes : HashAlgorithm → Naming)
    (empty : holds s fun _ => none) {turns : List Turn}
    (moments : ∀ turn ∈ turns, timely turn.now) :
    (∀ before answer, Follows answer before (converse (takeTurn perform nodes) turns s).1 →
      ReadsWell nodes before answer) ∧
    Keeping holds nodes (converse (takeTurn perform nodes) turns s).1
      (converse (takeTurn perform nodes) turns s).2 := by
  have beginning : Keeping holds nodes [] s := fun _ => ⟨_, empty, tells_nil⟩
  obtain ⟨reads, kept⟩ := (sustains_takeTurn keeps nodes).converse beginning moments
  simp only [List.nil_append] at reads kept
  exact ⟨reads, kept⟩

/-- Whatever is asked of two nodes that name payloads differently and share a store that keeps
the first payload of an address, they stay apart if no two payloads get the same address. -/
theorem stayApart_converse (keeps : KeepsFirst perform timely holds)
    (empty : holds s fun _ => none) {turns : List Turn} (moments : ∀ turn ∈ turns, timely turn.now)
    (apart : Apart nodes (converse (takeTurn perform nodes) turns s).1) :
    StayApart perform timely nodes (converse (takeTurn perform nodes) turns s).1
      (converse (takeTurn perform nodes) turns s).2 := by
  obtain ⟨reads, kept⟩ := keeping_converse keeps nodes empty moments
  exact kept.stayApart keeps reads apart

/-! ### Writers and readers -/

variable {configs : HashAlgorithm → EngineConfig}

/-- The writer or the reader of a node carries out its task on the store. -/
def carryOut (perform : Instant → (op : StoreOperation) → σ → op.Answer × σ)
    (configs : HashAlgorithm → EngineConfig) (turn : Turn) : σ → turn.Reply × σ :=
  match turn with
  | ⟨now, node, .write payload⟩ => (Engine.write (configs node) payload).run (perform now)
  | ⟨now, node, .read address⟩ => (readAddress (configs node) address).run (perform now)

/-- With the codecs of their configurations, nodes take their turns as writers and readers do. -/
theorem takeTurn_ofConfig :
    takeTurn perform (fun node => .ofConfig (configs node)) = carryOut perform configs := by
  funext ⟨now, node, task⟩
  rw [takeTurn, Naming.program_ofConfig]
  cases task <;> rfl

/-- So the writers and readers of two configurations stay apart on one store, if no two payloads
that were written get the same address from their codecs. -/
theorem stayApart_carryOut (keeps : KeepsFirst perform timely holds)
    (empty : holds s fun _ => none) {turns : List Turn} (moments : ∀ turn ∈ turns, timely turn.now)
    (apart : Apart (fun node => .ofConfig (configs node))
      (converse (carryOut perform configs) turns s).1) :
    StayApart perform timely (fun node => .ofConfig (configs node))
      (converse (carryOut perform configs) turns s).1
      (converse (carryOut perform configs) turns s).2 := by
  rw [← takeTurn_ofConfig] at apart ⊢
  obtain ⟨reads, kept⟩ := keeping_converse keeps _ empty moments
  exact kept.stayApart keeps reads apart

/-! ### One payload through both nodes -/

/-- Nodes of both algorithms. -/
def standardNodes (algorithm : HashAlgorithm) : Naming :=
  .ofConfig ⟨algorithm, EngineConfig.standardMaxPayloadSize⟩

/-- A payload. -/
def shared : ByteArray := "shared".toUTF8

/-- The payload is written through both nodes, and its address for the one is read through the
other. -/
def sharedTurns : List Turn := [
  ⟨0, .sha3, .write shared⟩,
  ⟨0, .blake3, .read ((standardNodes .sha3).derive shared)⟩,
  ⟨0, .blake3, .write shared⟩]

theorem derive_shared_ne :
    (standardNodes .sha3).derive shared ≠ (standardNodes .blake3).derive shared := by
  decide +kernel

/-- Nodes of both algorithms stay apart on a store in memory. -/
theorem stayApart_of_shared :
    KeepsFirst MemoryStore.perform (fun _ => True) (fun store held => store.payload? = held) ∧
      MemoryStore.empty.payload? = (fun _ => none) ∧
      Apart standardNodes
        (converse (takeTurn MemoryStore.perform standardNodes) sharedTurns .empty).1 ∧
      (∀ node, WrittenThrough
        (converse (takeTurn MemoryStore.perform standardNodes) sharedTurns .empty).1 node shared) ∧
      StayApart MemoryStore.perform (fun _ => True) standardNodes
        (converse (takeTurn MemoryStore.perform standardNodes) sharedTurns .empty).1
        (converse (takeTurn MemoryStore.perform standardNodes) sharedTurns .empty).2 := by
  have only (node : HashAlgorithm) (payload : ByteArray) (written : WrittenThrough
      (converse (takeTurn MemoryStore.perform standardNodes) sharedTurns .empty).1 node payload) :
      payload = shared := by
    obtain ⟨now, receipt, member⟩ := written
    have asked := List.mem_map_of_mem (f := Sigma.fst) member
    rw [map_fst_converse] at asked
    simp only [sharedTurns, List.mem_cons, Turn.mk.injEq, Task.write.injEq, reduceCtorEq,
      and_false, List.not_mem_nil, or_false, false_or] at asked
    rcases asked with ⟨-, -, same⟩ | ⟨-, -, same⟩ <;> exact same
  have apart : Apart standardNodes
      (converse (takeTurn MemoryStore.perform standardNodes) sharedTurns .empty).1 := by
    constructor
    · intro node one two first second _
      rw [only node one first, only node two second]
    · intro first second node node' one two different left right
      rw [only node one left, only node' two right]
      rcases first with _ | _ <;> rcases second with _ | _
      · exact absurd rfl different
      · exact derive_shared_ne
      · exact derive_shared_ne.symm
      · exact absurd rfl different
  have written (node : HashAlgorithm) : WrittenThrough
      (converse (takeTurn MemoryStore.perform standardNodes) sharedTurns .empty).1 node shared := by
    have asked : (⟨0, node, .write shared⟩ : Turn) ∈ sharedTurns := by
      cases node <;> simp [sharedTurns]
    obtain ⟨store, answered⟩ :=
      exists_answer_of_mem (takeTurn MemoryStore.perform standardNodes) asked MemoryStore.empty
    have acceptable : Acceptable ⟨node, EngineConfig.standardMaxPayloadSize⟩ shared :=
      ⟨by decide, (by decide : shared.size ≤ EngineConfig.standardMaxPayloadSize)⟩
    obtain ⟨receipt, -, went⟩ :=
      run_write_of_none 0 store (payloadProblem?_eq_none_iff.mpr acceptable)
    have replied : (takeTurn MemoryStore.perform standardNodes ⟨0, node, .write shared⟩ store).1 =
        .ok receipt := by
      rw [takeTurn, standardNodes, Naming.program_ofConfig]
      exact congrArg Prod.fst went
    rw [replied] at answered
    exact ⟨0, receipt, answered⟩
  exact ⟨MemoryStore.keepsFirst, rfl, apart, written,
    stayApart_converse MemoryStore.keepsFirst rfl (fun _ _ => trivial) apart⟩

end ContentNode.Engine
