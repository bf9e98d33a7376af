import ContentNode.Proofs.Engine.OnMemory
import ContentNode.Proofs.Engine.Tasks
import ContentNode.Proofs.Program.Clients
import ContentNode.Proofs.Store.Events
import Mathlib.Data.List.Dedup

/-!
# Clients of one store in memory

Any number of clients write and read objects of one store in memory.  Its operations are
atomic, but a call to write is not: others may act between its question whether there is
an object and its request to store one.  Whatever the schedule is, every payload is stored
once, a payload that was written can be read from then on, and nothing that is read is
foreign to its address.
-/

namespace ContentNode.Engine

/-- The payload that a task stores. -/
def Task.stores? (config : EngineConfig) : Task → Option ByteArray
  | .write payload => if Acceptable config payload then some payload else none
  | .read _ => none

/-- The payloads that clients store, in the order of the clients and of their calls. -/
def payloads (config : EngineConfig) (tasks : List (List Task)) : List ByteArray :=
  tasks.flatten.filterMap (Task.stores? config)

/-- A store and what it was asked for. -/
abbrev Recorded := MemoryStore × List StoreEvent

/-- A store performs an operation, at any instant. -/
def Performs (op : StoreOperation) (w : Recorded) (answer : op.Answer) (u : Recorded) : Prop :=
  ∃ now, recorded (MemoryStore.perform now) op w = (answer, u)

/-- The clients of a store. -/
abbrev Clients := Crowd StoreOperation StoreOperation.Answer Task.Reply Recorded

/-- Clients that have not made any call, of a store without objects. -/
def Clients.start (tasks : List (List Task)) : Clients := Crowd.start (.empty, []) tasks

/-- Clients after so many steps. -/
abbrev Schedule (config : EngineConfig) (start : Clients) (length : Nat) (clients : Clients) :
    Prop :=
  Crowd.Schedule (Task.program config) Performs start length clients

variable {config : EngineConfig} {tasks : List (List Task)} {own : List Task} {w u : Recorded}
  {payload : ByteArray} {address : Address} {now : Instant} {op : StoreOperation}

theorem mem_payloads_iff :
    payload ∈ payloads config tasks ↔
      (∃ own ∈ tasks, Task.write payload ∈ own) ∧ Acceptable config payload := by
  rw [payloads, List.mem_filterMap]
  constructor
  · rintro ⟨task, member, stored⟩
    cases task with
    | write other =>
        obtain ⟨acceptable, rfl⟩ : Acceptable config other ∧ other = payload := by
          simpa [Task.stores?] using stored
        exact ⟨List.mem_flatten.mp member, acceptable⟩
    | read address => cases stored
  · rintro ⟨member, acceptable⟩
    exact ⟨.write payload, List.mem_flatten.mpr member, if_pos acceptable⟩

/-! ### The terms of the clients -/

/-- What is true of the store at any time: no address is held twice, what is held has been
written under its own address, and every object was stored by one request. -/
structure Tidy (config : EngineConfig) (tasks : List (List Task)) (w : Recorded) : Prop where
  distinct : w.1.Distinct
  own : ∀ address payload, w.1.payload? address = some payload →
    config.codec.derive payload = address ∧ payload ∈ payloads config tasks
  counted : created w.2 = w.1.size

/-- What clients do to the store: payloads are never replaced, and the store stays tidy. -/
structure Grows (config : EngineConfig) (tasks : List (List Task)) (w u : Recorded) : Prop where
  kept : ∀ address payload, w.1.payload? address = some payload →
    u.1.payload? address = some payload
  tidy : Tidy config tasks w → Tidy config tasks u

theorem Grows.refl (w : Recorded) : Grows config tasks w w := ⟨fun _ _ => id, id⟩

theorem Grows.trans {v : Recorded} (first : Grows config tasks w u)
    (second : Grows config tasks u v) : Grows config tasks w v :=
  ⟨fun address payload held => second.kept _ _ (first.kept address payload held),
    second.tidy ∘ first.tidy⟩

theorem Grows.isSome (grows : Grows config tasks w u) (held : (w.1.payload? address).isSome) :
    (u.1.payload? address).isSome := by
  obtain ⟨payload, held⟩ := Option.isSome_iff_exists.mp held
  exact Option.isSome_of_eq_some (grows.kept address payload held)

/-- Clients rely on what they all guarantee. -/
def terms (config : EngineConfig) (tasks : List (List Task)) :
    Terms StoreOperation StoreOperation.Answer Recorded Unit where
  performs := Performs
  rely _ := Grows config tasks
  guarantee _ w _ := Grows config tasks w
  rely_refl _ := Grows.refl
  rely_trans _ _ _ _ := Grows.trans

theorem tidy_start : Tidy config tasks (.empty, []) :=
  ⟨MemoryStore.distinct_empty, nofun, rfl⟩

/-- An operation that stores nothing leaves everything as it is. -/
theorem grows_of_same {event : StoreEvent} (silent : event.creates = false) :
    Grows config tasks w (w.1, w.2 ++ [event]) := by
  refine ⟨fun _ _ => id, fun tidy => ⟨tidy.distinct, tidy.own, ?_⟩⟩
  simp [created_append, silent, tidy.counted]

/-- Asking whether there is an object changes nothing. -/
theorem Performs.exists_ {present : Bool} (performed : Performs (.exists_ address) w present u) :
    present = (w.1.payload? address).isSome ∧ Grows config tasks w u ∧ u.1 = w.1 := by
  obtain ⟨now, ⟨⟩⟩ := performed
  exact ⟨MemoryStore.contains_eq_isSome _ _, grows_of_same rfl, rfl⟩

/-- A payload is stored under its address, once. -/
theorem Tidy.put (member : payload ∈ payloads config tasks) (tidy : Tidy config tasks w) :
    Tidy config tasks ((w.1.put now (config.codec.derive payload) payload).2,
      w.2 ++ [⟨.put (config.codec.derive payload) payload,
        .ok (w.1.put now (config.codec.derive payload) payload).1⟩]) := by
  cases taken : w.1.contains (config.codec.derive payload) with
  | true =>
      rw [MemoryStore.put_of_taken taken]
      exact (grows_of_same rfl).tidy tidy
  | false =>
      refine ⟨tidy.distinct.put, ?_, ?_⟩
      · intro address held found
        rw [MemoryStore.payload?_put, ← MemoryStore.contains_eq_isSome, taken,
          if_neg Bool.false_ne_true, Function.update_apply] at found
        split at found
        · next same =>
          obtain rfl := Option.some.inj found
          exact ⟨same.symm, member⟩
        · exact tidy.own address held found
      · rw [MemoryStore.put_of_free taken, created_append, tidy.counted]
        simp [MemoryStore.size, StoreEvent.creates]

theorem grows_put (member : payload ∈ payloads config tasks) :
    Grows config tasks w ((w.1.put now (config.codec.derive payload) payload).2,
      w.2 ++ [⟨.put (config.codec.derive payload) payload,
        .ok (w.1.put now (config.codec.derive payload) payload).1⟩]) :=
  ⟨fun _ _ => MemoryStore.payload?_put_of_held, Tidy.put member⟩

/-! ### What calls are answered -/

/-- A payload that was written has its address, and something is stored there. -/
def Written (config : EngineConfig) (payload : ByteArray) (reply : Except EngineError Receipt)
    (w : Recorded) : Prop :=
  Acceptable config payload →
    (∃ receipt, reply = .ok receipt ∧ receipt.address = config.codec.derive payload) ∧
      (w.1.payload? (config.codec.derive payload)).isSome

/-- What was read is stored. -/
def Held (address : Address) (reply : Except EngineError ByteArray) (w : Recorded) : Prop :=
  ∃ payload, reply = .ok payload ∧ w.1.payload? address = some payload

/-- What a call is answered at any time. -/
def Task.Post (config : EngineConfig) : (task : Task) → task.Reply → Recorded → Prop
  | .write payload, reply, w => Written config payload reply w
  | .read address, reply, w => reply = .error (.notFound address) ∨ Held address reply w

/-- A call to write meets its postcondition. -/
theorem meets_write (member : own ∈ tasks) (called : Task.write payload ∈ own) :
    (Engine.write config payload).Meets (terms config tasks)
      (fun _ => Written config payload) () w := by
  rw [Engine.write]
  cases problem : payloadProblem? config payload with
  | some problem =>
      intro u others acceptable
      rw [payloadProblem?_eq_none_iff.mpr acceptable] at problem
      cases problem
  | none =>
      have acceptable := payloadProblem?_eq_none_iff.mp problem
      have stored := mem_payloads_iff.mpr ⟨⟨own, member, called⟩, acceptable⟩
      intro v _ present u performed
      obtain ⟨known, grows, same⟩ := performed.exists_
      refine ⟨(), grows, ?_⟩
      cases (present : Bool) with
      | true =>
          rw [← same] at known
          exact fun x others _ => ⟨⟨_, rfl, rfl⟩, others.isSome known.symm⟩
      | false =>
          -- Others may have stored an object since; then the store leaves it alone.
          rintro y - _ _ ⟨now, ⟨⟩⟩
          exact ⟨(), grows_put stored, fun x others _ =>
            ⟨⟨_, rfl, rfl⟩, others.isSome MemoryStore.isSome_payload?_put⟩⟩

/-- A call to read finds what is stored. -/
theorem meets_readAddress (tidy : Tidy config tasks w) :
    (readAddress config address).Meets (terms config tasks) (fun _ reply u =>
      (reply = .error (.notFound address) ∧ w.1.payload? address = none) ∨ Held address reply u)
      () w := by
  rintro v others _ _ ⟨now, ⟨⟩⟩
  have tidy := others.tidy tidy
  cases found : v.1.get? address with
  | none =>
      simp only [MemoryStore.perform, found, verify]
      refine ⟨(), grows_of_same rfl, fun u further => .inl ⟨rfl, ?_⟩⟩
      rw [Option.eq_none_iff_forall_ne_some]
      intro payload held
      have later := others.kept address payload held
      rw [MemoryStore.payload?, found] at later
      cases later
  | some object =>
      have held : v.1.payload? address = some object.payload := by
        rw [MemoryStore.payload?, found]
        rfl
      have own := (tidy.own address _ held).1
      simp only [MemoryStore.perform, found, verify, own, if_true]
      exact ⟨(), grows_of_same rfl, fun u further =>
        .inr ⟨object.payload, rfl, further.kept _ _ held⟩⟩

/-! ### Schedules -/

theorem performs_total (op : StoreOperation) (w : Recorded) :
    ∃ answer u, Performs op w answer u := ⟨_, _, 0, rfl⟩

/-- A call asks the store at most twice. -/
theorem within_program (config : EngineConfig) (task : Task) : (task.program config).Within 2 := by
  cases task with
  | read address => exact .step fun _ => .done _
  | write payload =>
      rw [Task.program, Engine.write]
      cases payloadProblem? config payload with
      | some problem => exact .done _
      | none =>
          refine .step fun (present : Bool) => ?_
          cases present with
          | true => exact .done _
          | false =>
              refine .step fun answer => ?_
              cases (answer : Except StoreError PutOutcome) <;> exact .done _

/-- Clients can always be scheduled so that all their calls return. -/
theorem exists_schedule (config : EngineConfig) (tasks : List (List Task)) :
    ∃ length clients, Schedule config (.start tasks) length clients ∧ clients.Finished :=
  (Crowd.within_start _ tasks).exists_finished (within_program config) performs_total

/-- Every task meets its postcondition. -/
theorem meets_program {task : Task} (member : own ∈ tasks) (called : task ∈ own)
    (tidy : Tidy config tasks w) :
    (task.program config).Meets (terms config tasks) (fun _ => task.Post config) () w := by
  cases task with
  | write payload => exact meets_write member called
  | read address =>
      refine (meets_readAddress tidy).mono fun _ reply u met => ?_
      exact met.imp_left And.left

variable {clients later : Clients} {length further : Nat}

theorem terms_concord (w u : Recorded) (grows : (terms config tasks).guarantee () w () u) :
    (terms config tasks).rely () w u := grows

theorem sound_of_schedule (schedule : Schedule config (.start tasks) length clients) :
    Tidy config tasks clients.shared ∧
      clients.Sound (terms config tasks) fun _ _ task => task.Post config := by
  have begins (turn position : Nat) (own : List Task) (task : Task) (w : Recorded)
      (there : ((Clients.start tasks).clients.map Client.calls)[turn]? = some own)
      (called : task ∈ own) (grows : Grows config tasks (.empty, []) w) :
      (task.program config).Meets (terms config tasks) (fun _ => task.Post config) () w := by
    rw [Clients.start, Crowd.map_calls_start] at there
    exact meets_program (List.mem_of_getElem? there) called (grows.tidy tidy_start)
  obtain ⟨grows, sound⟩ := Crowd.Sound.schedule terms_concord begins (Crowd.sound_start _ _)
    schedule
  exact ⟨grows.tidy tidy_start, sound⟩

/-- Something was read, if it was this address. -/
def Task.Finds (address : Address) : (task : Task) → task.Reply → Recorded → Prop
  | .write _, _, _ => True
  | .read other, reply, w => other = address → Held address reply w

/-- From when something is stored under an address, it is read by every call that begins. -/
theorem held_of_schedule (schedule : Schedule config (.start tasks) length clients)
    (taken : (clients.shared.1.payload? address).isSome)
    (after : Schedule config clients further later) {turn position : Nat}
    {client : Client StoreOperation StoreOperation.Answer Task.Reply}
    {reply : Except EngineError ByteArray} (late : clients.NotBegun turn position)
    (there : later.clients[turn]? = some client)
    (returned : client.returned[position]? = some ⟨.read address, reply⟩) :
    Held address reply later.shared := by
  obtain ⟨tidy, sound⟩ := sound_of_schedule schedule
  have begins (turn position : Nat) (own : List Task) (task : Task) (w : Recorded)
      (there : (clients.clients.map Client.calls)[turn]? = some own) (called : task ∈ own)
      (grows : Grows config tasks clients.shared w) :
      (task.program config).Meets (terms config tasks)
        (fun _ reply u => task.Post config reply u ∧ task.Finds address reply u) () w := by
    rw [schedule.calls, Clients.start, Crowd.map_calls_start] at there
    have tidy := grows.tidy tidy
    cases task with
    | write payload =>
        exact (meets_write (List.mem_of_getElem? there) called).mono fun _ _ _ met => ⟨met, trivial⟩
    | read other =>
        refine (meets_readAddress tidy).mono fun _ reply u met => ⟨met.imp_left And.left, ?_⟩
        rintro rfl
        refine met.resolve_left fun absent => ?_
        have := grows.isSome taken
        simp [absent.2] at this
  have onCourse := (sound.since terms_concord begins after) turn client there
  exact (onCourse.returned position _ returned _ (Grows.refl _)).2 late rfl

/-- At the end, the addresses are those of the payloads that were to be stored. -/
theorem isSome_payload?_of_finished (schedule : Schedule config (.start tasks) length clients)
    (finished : clients.Finished) :
    (clients.shared.1.payload? address).isSome ↔
      address ∈ (payloads config tasks).map config.codec.derive := by
  obtain ⟨tidy, sound⟩ := sound_of_schedule schedule
  constructor
  · intro taken
    obtain ⟨payload, held⟩ := Option.isSome_iff_exists.mp taken
    obtain ⟨rfl, member⟩ := tidy.own address payload held
    exact List.mem_map_of_mem member
  · intro member
    obtain ⟨payload, stored, rfl⟩ := List.mem_map.mp member
    obtain ⟨⟨own, there, called⟩, acceptable⟩ := mem_payloads_iff.mp stored
    have calls : clients.clients.map Client.calls = tasks := by
      rw [schedule.calls, Clients.start, Crowd.map_calls_start]
    obtain ⟨reply, returned⟩ := finished.returned (calls ▸ there) called
    obtain ⟨turn, position, met⟩ := sound.post_of_returned returned
    exact (met acceptable).2

/-- At the end, every address has been stored once. -/
theorem created_of_finished (schedule : Schedule config (.start tasks) length clients)
    (finished : clients.Finished) :
    created clients.shared.2 =
      ((payloads config tasks).map config.codec.derive).dedup.length := by
  have tidy := (sound_of_schedule schedule).1
  have same : (clients.shared.1.objects.map (·.address)).Perm
      ((payloads config tasks).map config.codec.derive).dedup := by
    rw [List.perm_ext_iff_of_nodup tidy.distinct (List.nodup_dedup _)]
    intro address
    rw [MemoryStore.mem_addresses_iff, List.mem_dedup]
    exact isSome_payload?_of_finished schedule finished
  rw [tidy.counted, ← same.length_eq, List.length_map, MemoryStore.size]

/-- If no two payloads share an address, it is settled what is stored at the end. -/
theorem payload?_of_finished
    (apart : ∀ one ∈ payloads config tasks, ∀ two ∈ payloads config tasks,
      config.codec.derive one = config.codec.derive two → one = two)
    (schedule : Schedule config (.start tasks) length clients) (finished : clients.Finished) :
    clients.shared.1.payload? address = some payload ↔
      payload ∈ payloads config tasks ∧ config.codec.derive payload = address := by
  have tidy := (sound_of_schedule schedule).1
  constructor
  · intro held
    exact (tidy.own address payload held).symm
  · rintro ⟨member, rfl⟩
    have taken := (isSome_payload?_of_finished schedule finished).mpr (List.mem_map_of_mem member)
    obtain ⟨other, held⟩ := Option.isSome_iff_exists.mp taken
    obtain ⟨same, stored⟩ := tidy.own _ other held
    rwa [apart other stored payload member same] at held

/-- Whatever the schedule of the clients is, all their calls return after at most four steps
each, every payload that may be stored is stored under its address and once, whatever is
read is what was written, and once a payload was written its address can be read.  If no
two payloads share an address, the schedule makes no difference to what is stored. -/
theorem scheduled (schedule : Schedule config (.start tasks) length clients) :
    (length ≤ 4 * tasks.flatten.length ∧
      (¬ clients.Finished → ∃ later, Crowd.Step (Task.program config) Performs clients later) ∧
      (clients.Finished →
        clients.clients.map (fun client => client.returned.map Sigma.fst) = tasks)) ∧
    (∀ payload reply, clients.Returned (.write payload) reply → Acceptable config payload →
      ∃ receipt, reply = .ok receipt ∧ receipt.address = config.codec.derive payload) ∧
    created clients.shared.2 = clients.shared.1.size ∧
    (clients.Finished → created clients.shared.2 =
      ((payloads config tasks).map config.codec.derive).dedup.length) ∧
    (∀ object ∈ clients.shared.1.objects, config.codec.derive object.payload = object.address) ∧
    (∀ payload reply, clients.Returned (.write payload) reply → Acceptable config payload →
      ∀ further later, Schedule config clients further later →
      ∀ turn position client answer, clients.NotBegun turn position →
        later.clients[turn]? = some client →
        client.returned[position]? = some ⟨.read (config.codec.derive payload), answer⟩ →
        ∃ found, answer = .ok found ∧
          ((∀ other ∈ payloads config tasks,
            config.codec.derive other = config.codec.derive payload → other = payload) →
              found = payload)) ∧
    (∀ address reply, clients.Returned (.read address) reply →
      ∀ other violation, reply ≠ .error (.integrityViolation other violation)) ∧
    ((∀ one ∈ payloads config tasks, ∀ two ∈ payloads config tasks,
      config.codec.derive one = config.codec.derive two → one = two) →
      clients.Finished → ∀ length' other, Schedule config (.start tasks) length' other →
        other.Finished → other.shared.1.payload? = clients.shared.1.payload?) := by
  obtain ⟨tidy, sound⟩ := sound_of_schedule schedule
  have written {payload : ByteArray} {reply : Except EngineError Receipt}
      (returned : clients.Returned (.write payload) reply) :
      Written config payload reply clients.shared := by
    obtain ⟨turn, position, met⟩ := sound.post_of_returned returned
    exact met
  refine ⟨⟨?_, Crowd.exists_step _ performs_total, ?_⟩, ?_, tidy.counted,
    created_of_finished schedule, ?_, ?_, ?_, ?_⟩
  · exact (Crowd.within_start _ _).length_le (within_program config) schedule
  · intro finished
    rw [finished.calls, schedule.calls, Clients.start, Crowd.map_calls_start]
  · intro payload reply returned acceptable
    exact (written returned acceptable).1
  · intro object member
    refine (tidy.own object.address object.payload ?_).1
    rw [MemoryStore.payload?, MemoryStore.get?_of_mem tidy.distinct member]
    rfl
  · intro payload reply returned acceptable further later after turn position client answer late
      there found
    have taken := (written returned acceptable).2
    obtain ⟨read, same, held⟩ := held_of_schedule schedule taken after late there found
    obtain ⟨total, afterStart⟩ : ∃ total, Schedule config (.start tasks) total later :=
      ⟨_, schedule.trans after⟩
    obtain ⟨own, stored⟩ := (sound_of_schedule afterStart).1.own _ read held
    exact ⟨read, same, fun alone => alone read stored own⟩
  · intro address reply returned other violation
    obtain ⟨turn, position, rfl | ⟨payload, rfl, -⟩⟩ := sound.post_of_returned returned
    · simp
    · simp
  · intro apart finished length' other elsewhere ended
    funext address
    refine Option.ext fun payload => ?_
    rw [payload?_of_finished apart elsewhere ended, payload?_of_finished apart schedule finished]

/-- Two clients that store the same payload store one object. -/
theorem scheduled_of_two_writers :
    ∃ (clients : Clients) (payload : ByteArray) (length : Nat),
      Schedule .standard (.start [[.write payload], [.write payload]]) length clients ∧
        clients.Finished ∧ created clients.shared.2 = 1 := by
  have acceptable : Acceptable .standard ⟨#[97]⟩ := by decide
  obtain ⟨length, clients, schedule, finished⟩ :=
    exists_schedule .standard [[.write ⟨#[97]⟩], [.write ⟨#[97]⟩]]
  refine ⟨clients, ⟨#[97]⟩, length, schedule, finished, ?_⟩
  rw [(scheduled schedule).2.2.2.1 finished]
  simp [payloads, Task.stores?, acceptable]

end ContentNode.Engine
