import ContentNode.CommandLine.Local
import ContentNode.Proofs.Rpc.RequestText

/-!
# What commands do

What a command gives and which files it leaves is told by the calls that it makes on its
store; that events are logged meanwhile does not matter.
-/

namespace ContentNode.CommandLine

open FileSystem Log

variable {α β : Type} {s : Surroundings} {store : FileStore} {config : Config} {world : World}
  {files after : FileTree} {e : Failure}

/-! ### Logging -/

/-- Operations answer the same, and do the same to files, if events are logged. -/
theorem perform_of_observe (actor : Actor) (now : Instant) (store : FileStore)
    (op : StoreOperation) (files : FileTree) :
    ((Event.observe actor now store op files).1, (Event.observe actor now store op files).2.1) =
      store.perform actor now op files := by
  unfold Event.observe
  rcases performed : store.perform actor now op files with ⟨answer, after⟩
  cases op with
  | put address payload => rcases answer with e | ⟨⟨⟩⟩ <;> rfl
  | get address => rfl
  | exists_ address =>
      dsimp only
      cases files.exists_ actor (store.objectPath address) <;> rfl
  | stats => rfl

/-- So do programs. -/
theorem run_observe (s : Surroundings) (store : FileStore) (program : StoreProgram α)
    (world : World) :
    ∃ events, program.run (fun op world =>
        let (answer, files, events) := Event.observe s.actor s.now store op world.files
        (answer, ⟨files, world.events ++ events⟩)) world =
      ((program.run (store.perform s.actor s.now) world.files).1,
        ⟨(program.run (store.perform s.actor s.now) world.files).2, events⟩) := by
  induction program generalizing world with
  | done value => exact ⟨world.events, rfl⟩
  | step op next ih =>
      rw [Program.run_step, Program.run_step, ← perform_of_observe]
      exact ih _ _

/-! ### Actions -/

/-- An action gives a value or fails, and it leaves files. -/
def Gives (action : Action α) (world : World) (result : Except Failure α) (files : FileTree) :
    Prop :=
  ∃ events, action.run.run world = (result, ⟨files, events⟩)

namespace Gives

theorem bind {first : Action α} {next : α → Action β} {value : α} {result : Except Failure β}
    (given : Gives first world (.ok value) files)
    (further : ∀ events, Gives (next value) ⟨files, events⟩ result after) :
    Gives (first >>= next) world result after := by
  obtain ⟨events, ran⟩ := given
  obtain ⟨events', ran'⟩ := further events
  refine ⟨events', ?_⟩
  rw [ExceptT.run_bind, StateT.run_bind, ran]
  exact ran'

/-- After a failure nothing more is done. -/
theorem bind_error {first : Action α} {next : α → Action β}
    (given : Gives first world (.error e) files) :
    Gives (first >>= next) world (.error e) files := by
  obtain ⟨events, ran⟩ := given
  refine ⟨events, ?_⟩
  rw [ExceptT.run_bind, StateT.run_bind, ran]
  rfl

/-- A result is the only one. -/
theorem eq {action : Action α} {result : Except Failure α}
    (given : Gives action world result files) :
    (action.run.run world).1 = result ∧ (action.run.run world).2.files = files := by
  obtain ⟨events, ran⟩ := given
  rw [ran]
  exact ⟨rfl, rfl⟩

end Gives

theorem gives_tell (events : List Event) (world : World) :
    Gives (tell events) world (.ok ()) world.files := ⟨_, rfl⟩

theorem gives_onFiles (use : FileTree → α × FileTree) (world : World) :
    Gives (onFiles use) world (.ok (use world.files).1) (use world.files).2 := ⟨world.events, rfl⟩

theorem gives_orFail {ε : Type} (failure : ε → Failure) (outcome : Except ε α) (world : World) :
    Gives (orFail failure outcome) world (outcome.mapError failure) world.files := by
  cases outcome <;> exact ⟨world.events, rfl⟩

theorem gives_orFail_id (outcome : Except Failure α) (world : World) :
    Gives (orFail id outcome) world outcome world.files := by
  cases outcome <;> exact ⟨world.events, rfl⟩

/-- A program on a store never fails, but its value may tell of a failure. -/
theorem gives_runOn (s : Surroundings) (store : FileStore) (program : StoreProgram α)
    (world : World) :
    Gives (runOn s store program) world
      (.ok (program.run (store.perform s.actor s.now) world.files).1)
      (program.run (store.perform s.actor s.now) world.files).2 := by
  obtain ⟨events, ran⟩ := run_observe s store program world
  refine ⟨events, ?_⟩
  change (Except.ok (program.run _ world).1, (program.run _ world).2) = _
  rw [ran]

theorem gives_openStore {opening : Opening}
    (opened : Opening.ofStore s.actor s.now store world.files = (.ok opening, after)) :
    Gives (openStore s store) world (.ok ()) after := by
  have used := gives_onFiles (Opening.ofStore s.actor s.now store) world
  rw [opened] at used
  refine used.bind fun events => ?_
  refine (gives_orFail _ _ _).bind fun events => ?_
  exact gives_tell _ _

/-! ### Calls -/

/-- The failure that reports an error. -/
def refusal (e : EngineError) : Failure :=
  ⟨(Rpc.Error.ofEngine e).message ++ " (code " ++ toString (Rpc.Error.ofEngine e).code ++ ")", []⟩

/-- A call is carried out by the program that answers requests. -/
theorem gives_call {call : Rpc.Call} {outcome : Rpc.CallOutcome}
    (ran : (Rpc.perform config.engine call).run (store.perform s.actor s.now) world.files =
      (outcome, after)) :
    Gives (CommandLine.call s store config call) world
      (outcome.result.mapError fun e => ⟨s!"{e.message} (code {e.code})", []⟩) after := by
  have handled := gives_runOn s store
    (Rpc.handleValue config.engine (Rpc.Request.ofCall requestId call).toValue) world
  have accepted := Rpc.Request.ofValue_toValue (.string "cli") call
  simp only [Rpc.handleValue, requestId, accepted, Program.bind_eq, Program.pure_eq_done,
    Program.run_bind, Program.run_done] at handled
  have same : (Rpc.Request.ofCall (.string "cli") call).call = call := rfl
  rw [same, ran] at handled
  unfold CommandLine.call
  simp only [Rpc.handleValue, requestId, accepted, Program.bind_eq, Program.pure_eq_done]
  refine handled.bind fun events => (gives_tell _ _).bind fun events => ?_
  simp only [Rpc.Handling.response]
  cases outcome.result with
  | ok result => exact ⟨_, rfl⟩
  | error e => exact ⟨_, rfl⟩

/-! ### Commands -/

variable {opening : Opening}

/-- A text is written as its bytes, and the command gives the address. -/
theorem gives_writePayload {data : String} {outcome : Except EngineError Engine.Receipt}
    (opened : Opening.ofStore s.actor s.now store world.files = (.ok opening, files))
    (ran : (Engine.write config.engine data.toUTF8).run (store.perform s.actor s.now) files =
      (outcome, after)) :
    Gives (writePayload s config store data) world
      (match outcome with
        | .ok receipt => .ok receipt.address.encode
        | .error e => .error (refusal e)) after := by
  refine (gives_openStore opened).bind fun events => ?_
  have called : (Rpc.perform config.engine (.write data)).run (store.perform s.actor s.now)
      (World.mk files events).files = (.write outcome, after) := by
    rw [Rpc.run_perform_write, ran]
  have given := gives_call called
  cases outcome with
  | ok receipt => exact given.bind fun events => gives_orFail_id _ _
  | error e => exact given.bind_error

/-- The payload of what a text denotes is read.  It is printed as a text. -/
theorem gives_readPayload {address : String} {outcome : Except EngineError ByteArray}
    (opened : Opening.ofStore s.actor s.now store world.files = (.ok opening, files))
    (ran : (Engine.read config.engine address).run (store.perform s.actor s.now) files =
      (outcome, after)) :
    Gives (readPayload s config store address) world
      (match outcome with
        | .ok payload => payloadText (Rpc.renderPayload payload)
        | .error e => .error (refusal e)) after := by
  refine (gives_openStore opened).bind fun events => ?_
  have called : (Rpc.perform config.engine (.read address)).run (store.perform s.actor s.now)
      (World.mk files events).files = (.read outcome, after) := by
    rw [Rpc.run_perform_read, ran]
  have given := gives_call called
  cases outcome with
  | ok payload => exact given.bind fun events => gives_orFail_id _ _
  | error e => exact given.bind_error

/-- The totals are those of the store. -/
theorem gives_storeStats {outcome : Except StoreError StoreStats}
    (opened : Opening.ofStore s.actor s.now store world.files = (.ok opening, files))
    (counted : store.perform s.actor s.now .stats files = (outcome, after)) :
    Gives (storeStats s store) world (outcome.mapError .ofStore) after := by
  refine (gives_openStore opened).bind fun events => ?_
  have ran := gives_runOn s store (Program.perform .stats) ⟨files, events⟩
  rw [Program.perform, Program.run_step, counted] at ran
  exact ran.bind fun events => gives_orFail _ _ _

end ContentNode.CommandLine
