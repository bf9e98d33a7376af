import ContentNode.Proofs.Engine.OnMemory
import ContentNode.Proofs.Engine.Tasks
import ContentNode.Proofs.Program.Asks
import ContentNode.Proofs.Program.Transcripts
import ContentNode.Proofs.Store.Events
import ContentNode.Proofs.Store.File.OpenedAlike

/-!
# Damaged objects

A file that has the name of an object but does not hold it stays what it is, whoever writes,
reads or opens the store anew.  Its presence is enough for its payload to count as written, but
whoever reads it is told of the damage.  The other objects do not notice it, unless a symbolic
link that takes the place of one of them leads to the file.
-/

namespace ContentNode

open FileSystem

/-- An operation of a store is about one address. -/
def StoreOperation.Touches (address : Address) : StoreOperation → Prop
  | .put other _ | .get other | .exists_ other => other = address
  | .stats => False

namespace Engine.Task

/-- The address that a task is about. -/
def address (config : EngineConfig) : Task → Address
  | write payload => config.codec.derive payload
  | read address => address

/-- A task asks the store for nothing about other addresses. -/
theorem asks_program (config : EngineConfig) (task : Task) :
    (task.program config).Asks (StoreOperation.Touches (task.address config)) := by
  cases task with
  | write payload =>
      rw [program, Engine.write]
      cases payloadProblem? config payload with
      | some problem => exact .done _
      | none =>
          refine .step rfl fun present => ?_
          cases present with
          | true => exact .done _
          | false =>
              refine .step rfl fun answer => ?_
              cases answer <;> exact .done _
  | read address => exact .step rfl fun answer => .done _

end Engine.Task

namespace FileStore

variable {config : EngineConfig} {store : FileStore} {actor : Actor} {now : Instant}
  {hall place : Location} {tree twin : FileTree} {address other : Address} {bytes : ByteArray}
  {op : StoreOperation}

/-! ### Errands -/

/-- What someone wants from a store in files. -/
inductive Errand where
  /-- To carry out a task. -/
  | work (task : Engine.Task)
  /-- To open the store anew. -/
  | reopen

/-- What comes of an errand: the reply to a task and what the store was asked for, or the opened
store. -/
abbrev Errand.Reply : Errand → Type
  | work task => task.Reply × List StoreEvent
  | reopen => Except StoreError Opening

/-- Whether an errand is about an address. -/
def Errand.concerns (config : EngineConfig) (address : Address) : Errand → Bool
  | work task => task.address config = address
  | reopen => false

/-- Runs an errand at a moment. -/
def attend (config : EngineConfig) (store : FileStore) (actor : Actor) :
    (request : Instant × Errand) → FileTree → request.2.Reply × FileTree
  | (now, .work task), tree =>
    let (reply, after, asked) :=
      (task.program config).run (recorded (store.perform actor now)) (tree, [])
    ((reply, asked), after)
  | (now, .reopen), tree => Opening.ofStore actor now store tree

/-- The reply to a task does not depend on that it is recorded what the store is asked for. -/
theorem attend_task (config : EngineConfig) (store : FileStore) (actor : Actor) (now : Instant)
    (task : Engine.Task) (tree : FileTree) :
    ∃ asked, attend config store actor (now, .work task) tree =
      ((((task.program config).run (store.perform actor now) tree).1, asked),
        ((task.program config).run (store.perform actor now) tree).2) := by
  obtain ⟨asked, ran⟩ :=
    ContentNode.run_recorded (store.perform actor now) (task.program config) tree []
  refine ⟨asked, ?_⟩
  rw [attend, ran]

/-! ### What errands keep -/

theorem lasting_perform (touches : op.Touches other) (actor : Actor) (now : Instant)
    (tree : FileTree) : Lasting tree (store.perform actor now op tree).2 := by
  cases op with
  | put address payload => exact lasting_put store actor now address payload tree
  | get address =>
      rw [perform_get_snd]
      exact .refl tree
  | exists_ address =>
      rw [perform_exists_snd]
      exact .refl tree
  | stats => cases touches

/-- No errand changes a file that is not temporary. -/
theorem lasting_attend (distinct : tree.Distinct) (config : EngineConfig) (store : FileStore)
    (actor : Actor) (request : Instant × Errand) :
    Lasting tree (attend config store actor request tree).2 ∧
      (attend config store actor request tree).2.Distinct := by
  obtain ⟨now, errand⟩ := request
  cases errand with
  | reopen =>
      refine ⟨lasting_open store actor now distinct, ?_⟩
      rw [attend, Opening.ofStore]
      rcases ran : (store.open_ now).run.run (FileTree.perform actor now) tree with ⟨_ | _, after⟩
      all_goals exact distinct.run ran
  | work task =>
      obtain ⟨asked, done⟩ := attend_task config store actor now task tree
      rw [done]
      apply (task.asks_program config).keeps fun after => Lasting tree after ∧ after.Distinct
      · rintro op after touches ⟨lasting, apart⟩
        exact ⟨lasting.trans (lasting_perform touches actor now after),
          perform_distinct apart store actor now op⟩
      · exact ⟨.refl tree, distinct⟩

/-! ### The damaged object itself -/

/-- A payload with the address of a damaged object counts as written without being stored, and
whoever reads the object is told of the damage. -/
def Withheld (config : EngineConfig) (address : Address) :
    ((request : Instant × Errand) × request.2.Reply) → Prop
  | ⟨(_, .work (.write payload)), (reply, asked)⟩ =>
    Engine.Acceptable config payload → config.codec.derive payload = address →
      reply = .ok (.deduplicated address) ∧ asked = [⟨.exists_ address, true⟩]
  | ⟨(_, .work (.read other)), (reply, _)⟩ =>
    other = address → ∃ violation, reply = .error (.integrityViolation address violation)
  | ⟨(_, .reopen), _⟩ => True

theorem Spoiled.withheld (spoiled : Spoiled store actor config address place bytes tree)
    (request : Instant × Errand) :
    Withheld config address ⟨request, (attend config store actor request tree).1⟩ := by
  obtain ⟨legible, held⟩ := spoiled.file?_eq
  obtain ⟨now, errand⟩ := request
  cases errand with
  | reopen => trivial
  | work task =>
      cases task with
      | write payload =>
          intro acceptable derives
          have present : store.perform actor now (.exists_ address) tree = (true, tree) := by
            rw [perform_exists legible, held]
            rfl
          have ran : attend config store actor (now, .work (.write payload)) tree =
              ((.ok (.deduplicated address), [⟨.exists_ address, true⟩]), tree) := by
            rw [attend, Engine.Task.program, Engine.write,
              Engine.payloadProblem?_eq_none_iff.mpr acceptable]
            dsimp only
            rw [Engine.commit, derives, Program.run_step, recorded, present]
            rfl
          exact ⟨congrArg (fun outcome => outcome.1.1) ran,
            congrArg (fun outcome => outcome.1.2) ran⟩
      | read other =>
          obtain ⟨asked, ran⟩ := attend_task config store actor now (.read other) tree
          rw [ran, Engine.Task.program]
          rintro rfl
          rw [← readAddress, readAddress_eq config legible, held]
          exact judge_eq_violation_iff.mpr spoiled.unfit

/-! ### The other objects -/

namespace Neighbours

variable (neighbours : store.Neighbours actor hall address tree twin)

include neighbours

/-- Operations about another address are answered the same. -/
theorem perform (touches : op.Touches other) (apart : other ≠ address) (now : Instant) :
    Together store actor hall address (store.perform actor now op tree)
      (store.perform actor now op twin) := by
  cases op with
  | put address payload =>
      obtain rfl : address = other := touches
      exact neighbours.put apart now payload
  | get address =>
      obtain rfl : address = other := touches
      exact neighbours.get apart now
  | exists_ address =>
      obtain rfl : address = other := touches
      exact neighbours.exists_ apart now
  | stats => cases touches

/-- Operations about the address itself do not matter. -/
theorem perform_self (touches : op.Touches address) (now : Instant) :
    store.Neighbours actor hall address (store.perform actor now op tree).2 twin := by
  cases op with
  | put other payload =>
      obtain rfl : other = address := touches
      exact neighbours.put_self now payload
  | get other => rwa [perform_get_snd]
  | exists_ other => rwa [perform_exists_snd]
  | stats => cases touches

/-- Errands about other addresses have the same replies. -/
theorem attend {request : Instant × Errand} (apart : request.2.concerns config address = false) :
    Together store actor hall address (FileStore.attend config store actor request tree)
      (FileStore.attend config store actor request twin) := by
  obtain ⟨now, errand⟩ := request
  cases errand with
  | reopen => exact neighbours.opened now
  | work task =>
      have elsewhere : task.address config ≠ address := of_decide_eq_false apart
      have alike (op : StoreOperation) (s t : FileTree × List StoreEvent)
          (touches : op.Touches (task.address config))
          (related : store.Neighbours actor hall address s.1 t.1 ∧ t.2 = s.2) :
          (recorded (store.perform actor now) op t).1 = (recorded (store.perform actor now) op s).1 ∧
            store.Neighbours actor hall address (recorded (store.perform actor now) op s).2.1
              (recorded (store.perform actor now) op t).2.1 ∧
            (recorded (store.perform actor now) op t).2.2 =
              (recorded (store.perform actor now) op s).2.2 := by
        obtain ⟨kept, asked⟩ := related
        obtain ⟨answer, after⟩ := kept.perform touches elsewhere now
        refine ⟨answer, after, ?_⟩
        simp only [recorded, answer, asked]
      obtain ⟨reply, kept, asked⟩ := (task.asks_program config).run_eq
        (fun s t : FileTree × List StoreEvent =>
          store.Neighbours actor hall address s.1 t.1 ∧ t.2 = s.2) alike
        (⟨neighbours, rfl⟩ : store.Neighbours actor hall address (tree, []).1 (twin, []).1 ∧ _)
      exact ⟨Prod.ext reply asked, kept⟩

/-- Errands about the address itself do not matter. -/
theorem attend_self {request : Instant × Errand}
    (concerns : request.2.concerns config address = true) :
    store.Neighbours actor hall address (FileStore.attend config store actor request tree).2
      twin := by
  obtain ⟨now, errand⟩ := request
  cases errand with
  | reopen => cases concerns
  | work task =>
      obtain ⟨asked, done⟩ := attend_task config store actor now task tree
      have here : task.address config = address := of_decide_eq_true concerns
      have asks := task.asks_program config
      rw [here] at asks
      rw [done]
      exact asks.keeps (fun after => store.Neighbours actor hall address after twin)
        (fun op after touches kept => kept.perform_self touches now) neighbours

end Neighbours

/-- A tree with a damaged object and the same tree without its file. -/
theorem Spoiled.neighbours (spoiled : Spoiled store actor config address place bytes tree)
    (distinct : tree.Distinct)
    (straight : ∀ hall mode, tree.stat actor true store.objects = .ok (hall, .directory mode) →
      Straight hall tree) :
    ∃ hall, store.Neighbours actor hall address tree (tree.erase place) ∧
      place = spot hall address := by
  obtain ⟨⟨modified, mode, found, -⟩, -⟩ := spoiled
  rw [objectPath_eq] at found
  obtain ⟨fits, parent, leads, searchable, rfl, there⟩ := FileTree.stat_child_eq_ok found
  rw [directory_eq, FilePath.components_child] at leads
  obtain ⟨left, hall, above, last⟩ := leads.of_append (List.cons_ne_nil _ _)
  have room : store.objects.Fits 64 := by
    have wider := fits.of_child
    rw [(plain_fileName address).2, directory_eq] at wider
    have widest := wider.of_child
    rwa [(plain_directoryName address).2] at widest
  obtain ⟨top, standing⟩ := above.directory
  have nothing := straight hall top (FileTree.stat_of_leads room
    ((FilePath.ofText store.root).display_child_ne_empty plain_objectsName.1) above standing)
  cases last with
  | jump _ _ linked _ => exact absurd linked (nothing address _).1
  | @down _ _ _ _ _ inner reach _ below further =>
      cases further with
      | arrived _ =>
        have grounds : store.Grounds actor hall tree := ⟨distinct, ⟨room, above, reach⟩, nothing⟩
        have lasting : tree.Keeps (tree.erase (spot hall address)) := by
          apply FileTree.Keeps.changed (tree.changed_erase spot_ne_nil)
          intro old standing
          cases there.symm.trans standing
          rfl
        have unlinked (address : Address) (target : String) (place : Location)
            (kept : tree.get? place ≠ some (.link target)) :
            (tree.erase (spot hall address)).get? place ≠ some (.link target) := by
          rw [tree.get?_erase spot_ne_nil]
          split
          · nofun
          · exact kept
        refine ⟨hall, ⟨.of_erase tree _, grounds, ⟨distinct.erase _, grounds.reaches.keeps lasting,
          fun other target => ⟨?_, ?_⟩⟩, inner, below⟩, rfl⟩
        · exact unlinked address target _ (nothing other target).1
        · exact unlinked address target _ (nothing other target).2

/-- What becomes of a file that has the name of an object but does not hold it: it stays as it
is, its payload counts as written, and its readers are told of the damage.  If no object is a
symbolic link, all other errands have the same replies as they had without this file, whatever
is asked about the object in between. -/
theorem damage_contained (distinct : tree.Distinct)
    (spoiled : Spoiled store actor config address place bytes tree) :
    (∀ errands, Spoiled store actor config address place bytes
      (converse (attend config store actor) errands tree).2) ∧
    (∀ errands, ∀ exchange ∈ (converse (attend config store actor) errands tree).1,
      Withheld config address exchange) ∧
    ((∀ hall mode, tree.stat actor true store.objects = .ok (hall, .directory mode) →
        Straight hall tree) →
      ∀ errands others : List (Instant × Errand),
        errands.filter (fun request => !request.2.concerns config address) =
          others.filter (fun request => !request.2.concerns config address) →
        (converse (attend config store actor) errands tree).1.filter
            (fun exchange => !exchange.1.2.concerns config address) =
          (converse (attend config store actor) others (tree.erase place)).1.filter
            fun exchange => !exchange.1.2.concerns config address) := by
  have run (errands : List (Instant × Errand)) :
      (∀ exchange ∈ (converse (attend config store actor) errands tree).1,
        Withheld config address exchange) ∧
      (converse (attend config store actor) errands tree).2.Distinct ∧
      Spoiled store actor config address place bytes
        (converse (attend config store actor) errands tree).2 := by
    refine converse_keeps (fun after => after.Distinct ∧
      Spoiled store actor config address place bytes after) (fun request after kept => ?_)
      ⟨distinct, spoiled⟩ errands
    obtain ⟨lasting, distinct⟩ := lasting_attend kept.1 config store actor request
    exact ⟨kept.2.withheld request, distinct, kept.2.lasting lasting⟩
  refine ⟨fun errands => (run errands).2.2, fun errands => (run errands).1,
    fun straight errands others same => ?_⟩
  obtain ⟨hall, neighbours, rfl⟩ := spoiled.neighbours distinct straight
  have twice : store.Neighbours actor hall address (tree.erase (spot hall address))
      (tree.erase (spot hall address)) :=
    ⟨.refl _ _, neighbours.second, neighbours.second, neighbours.symm.parent⟩
  refine filter_converse_eq (fun request s t elsewhere kept => ?_)
    (fun request s t here kept => ?_) neighbours twice same
  · exact kept.attend (by simpa using elsewhere)
  · exact kept.attend_self (by simpa using here)

/-! ### A torn record and a link to it -/

theorem spoiled_of_torn (kept : torn.Keeps tree)
    (there : tree.get? (objectPlace [.text "s"] zeros) =
      some (.file ⟨#[67, 65, 83, 49]⟩ 0 Entry.fileMode)) :
    Spoiled ⟨"s"⟩ .owner .standard zeros (objectPlace [.text "s"] zeros) ⟨#[67, 65, 83, 49]⟩
      tree :=
  ⟨⟨0, Entry.fileMode, (torn_slot.keeps kept).stat_of_some there fun _ => nofun, rfl⟩,
    .inl ⟨.truncatedHeader 4, rfl⟩⟩

/-- The address whose bytes are all seventeen. -/
def ones : Address := ⟨Vector.replicate 32 0x11⟩

/-- A torn record is read in the middle of other errands and left out from them. -/
theorem damage_contained_in_torn :
    torn.Distinct ∧
    Spoiled ⟨"s"⟩ .owner .standard zeros (objectPlace [.text "s"] zeros) ⟨#[67, 65, 83, 49]⟩ torn ∧
    (∀ hall mode, torn.stat .owner true (FileStore.mk "s").objects = .ok (hall, .directory mode) →
      Straight hall torn) ∧
    (converse (attend .standard ⟨"s"⟩ .owner)
        [(0, .reopen), (1, .work (.read zeros)), (2, .work (.read ones))] torn).1.filter
          (fun exchange => !exchange.1.2.concerns .standard zeros) =
      (converse (attend .standard ⟨"s"⟩ .owner) [(0, .reopen), (2, .work (.read ones))]
        (torn.erase (objectPlace [.text "s"] zeros))).1.filter
          fun exchange => !exchange.1.2.concerns .standard zeros := by
  have distinct : torn.Distinct := (by decide : torn.places.Nodup)
  have spoiled := spoiled_of_torn (.refl torn) rfl
  have straight (hall : Location) : Straight hall torn := by
    have none (place : Location) (target : String) (below : place ≠ []) :
        torn.get? place ≠ some (.link target) := by
      intro linked
      have member := (distinct.mem_entries_iff below).mpr linked
      simp [torn] at member
    exact fun address target => ⟨none _ target (by simp), none _ target spot_ne_nil⟩
  refine ⟨distinct, spoiled, fun hall _ _ => straight hall, ?_⟩
  exact (damage_contained distinct spoiled).2.2 (fun hall _ _ => straight hall) _ _ rfl

/-- The tree with a torn record, and with a symbolic link to it in the place of another object. -/
def linked : FileTree :=
  ⟨torn.entries ++ [(directoryPlace [.text "s"] ones, .directory Entry.directoryMode),
    (objectPlace [.text "s"] ones, .link ("../00/" ++ String.ofList (zeros.hexDigits.drop 2)))], 0⟩

/-- Through the link the damage shows at the other address, where there would be nothing
without the torn record. -/
theorem damage_shows_through_link :
    linked.Distinct ∧
    Spoiled ⟨"s"⟩ .owner .standard zeros (objectPlace [.text "s"] zeros) ⟨#[67, 65, 83, 49]⟩ linked ∧
    ones ≠ zeros ∧
    (attend .standard ⟨"s"⟩ .owner (0, .work (.read ones)) linked).1.1 =
      .error (.integrityViolation ones (.corrupt "truncated header (4 bytes)")) ∧
    (attend .standard ⟨"s"⟩ .owner (0, .work (.read ones))
        (linked.erase (objectPlace [.text "s"] zeros))).1.1 = .error (.notFound ones) := by
  have kept : torn.Keeps linked := by
    intro place entry _ there
    by_cases top : place = []
    · subst top
      exact there
    · rw [FileTree.get?_of_ne_nil _ top] at there ⊢
      rw [linked, List.lookup_append, there]
      rfl
  refine ⟨(by decide : linked.places.Nodup), spoiled_of_torn kept rfl, by decide, ?_, ?_⟩
  · decide +kernel
  · decide +kernel

end FileStore

end ContentNode
