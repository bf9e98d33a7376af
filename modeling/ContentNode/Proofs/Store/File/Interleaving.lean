import ContentNode.Proofs.Store.File.Reopening
import ContentNode.Proofs.Store.File.Requests

/-!
# Any number of users

What holds of a store in files, whoever uses it at the same time, in whatever order
their operations come and wherever some of them stop.
-/

namespace ContentNode.FileStore

open FileSystem

variable {store : FileStore} {actor : Actor} {top : Location} {tree : FileTree}
  {address : Address} {payload record : ByteArray} {caller : Nat}

/-- Files and the requests of all who use them. -/
abbrev Users := Pool Operation Operation.Answer (fun asked : Request => asked.op.Answer) World

/-- Requests are made and their operations are performed, in any order. -/
abbrev Runs (store : FileStore) (actor : Actor) : Users → Users → Prop :=
  Pool.Steps (fun asked : Request => store.program asked.now asked.op) (Performs actor)

/-- A file is the complete record of a payload that a user was asked to store, and nobody
else gave the object its name. -/
def Authored (store : FileStore) (users : Users) (address : Address) (payload record : ByteArray) :
    Prop :=
  ∃ caller asked left, namers store address users.shared.history = [caller] ∧
    users.calls[caller]? = some ⟨asked, left⟩ ∧ asked.op = .put address payload ∧
      Record.encode asked.now payload = .ok record

/-- The files have the shape of a store, every object has its author, and no object of an
earlier moment is gone. -/
structure Coherent (store : FileStore) (actor : Actor) (top : Location) (since : World)
    (users : Users) : Prop where
  layout : store.Layout actor top users.shared.tree
  named : Named store top users.shared
  authored : ∀ address record, object? top users.shared.tree address = some record →
    ∃ payload, Authored store users address payload record
  keeps : Keeps top since users.shared

variable {since w : World} {calls : List (Call Operation Operation.Answer
  (fun asked : Request => asked.op.Answer))}

/-- A request that is made changes nothing. -/
theorem Coherent.begin (coherent : Coherent store actor top since ⟨w, calls⟩) (asked : Request)
    (left : FileProgram asked.op.Answer) :
    Coherent store actor top since ⟨w, calls ++ [⟨asked, left⟩]⟩ := by
  constructor
  · exact coherent.layout
  · exact coherent.named
  · intro address record held
    obtain ⟨payload, caller, author, rest, sole, there, request, encoded⟩ :=
      coherent.authored address record held
    have within := (List.getElem?_eq_some_iff.mp there).1
    have found : (calls ++ [⟨asked, left⟩])[caller]? = some ⟨author, rest⟩ :=
      (List.getElem?_append_left within).trans there
    exact ⟨payload, caller, author, rest, sole, found, request, encoded⟩
  · exact coherent.keeps

/-- An operation within the guarantee of its caller leaves every object with its author. -/
theorem Coherent.act {u : World} {asked : Request} {held kept : Option Location}
    {before after : FileProgram asked.op.Answer}
    (coherent : Coherent store actor top since ⟨w, calls⟩)
    (turn : calls[caller]? = some ⟨asked, before⟩)
    (guaranteed : Guarantees store actor top caller asked held w kept u) :
    Coherent store actor top since ⟨u, calls.set caller ⟨asked, after⟩⟩ := by
  have grown := guaranteed.evolves.grows coherent.layout
  have namedU := guaranteed.evolves.named coherent.layout coherent.named
  have within := (List.getElem?_eq_some_iff.mp turn).1
  constructor
  · exact grown.layout
  · exact namedU
  · intro address record held
    rcases guaranteed.names address with same | ⟨sole, payload, record', request, encoded, object⟩
    · rcases coherent.named address with ⟨-, nobody⟩ | ⟨earlier, author, present, sole⟩
      · rcases namedU address with ⟨absent, -⟩ | ⟨_, _, -, someone⟩
        · cases absent.symm.trans held
        · rw [same, nobody] at someone
          cases someone
      · cases (grown.objects _ _ present).symm.trans held
        obtain ⟨payload, caller', asked', left, sole', there, request, encoded⟩ :=
          coherent.authored address _ present
        have there' :
            ∃ left, (calls.set caller ⟨asked, after⟩)[caller']? = some ⟨asked', left⟩ := by
          by_cases own : caller' = caller
          · subst own
            cases turn.symm.trans there
            exact ⟨after, List.getElem?_set_self within⟩
          · exact ⟨left, (List.getElem?_set_ne (Ne.symm own)).trans there⟩
        obtain ⟨left', found⟩ := there'
        exact ⟨payload, caller', asked', left', same.trans sole', found, request, encoded⟩
    · cases object.symm.trans held
      exact ⟨payload, caller, asked, after, sole, List.getElem?_set_self within, request, encoded⟩
  · exact coherent.keeps.evolves coherent.layout guaranteed.evolves

/-! ### All answers are truthful -/

/-- All users act on their terms, and their answers are truthful about what was there since
the moment that belongs to each. -/
def Sound (store : FileStore) (actor : Actor) (top : Location) (since : Nat → World)
    (begun : World) : Users → Prop :=
  Pool.Sound (terms store actor top) none (Owns top) Apart
    (fun caller asked _ answer w => Tells store top (since caller) caller asked.op answer w)
    (Coherent store actor top begun)

variable {users later : Users} {moments : Nat → World} {begun : World}

theorem Sound.steps (sound : Sound store actor top moments begun users)
    (late : ∀ caller, users.calls.length ≤ caller → moments caller = begun)
    (runs : store.Runs actor users later) : Sound store actor top moments begun later := by
  apply Pool.Sound.steps (concord_terms store actor top) (fun _ _ => rfl) _ _ sound runs
  · intro s calls asked after coherent
    constructor
    · exact coherent.begin asked _
    · apply truthful_program coherent.layout coherent.named
      rw [late _ after]
      exact coherent.keeps
  · intro s t calls caller asked op next answer held kept turn guaranteed coherent
    exact coherent.act turn guaranteed

/-- A caller has not performed any operation yet. -/
def Waiting (store : FileStore) (users : Users) (caller : Nat) : Prop :=
  ∀ call, users.calls[caller]? = some call →
    call.left = store.program call.asked.now call.asked.op

theorem waiting_of_length_le (beyond : users.calls.length ≤ caller) :
    Waiting store users caller := by
  intro call there
  rw [List.getElem?_eq_none beyond] at there
  cases there

/-- Who begins from now on is told the truth about what is there now. -/
theorem Sound.restart (sound : Sound store actor top (fun _ => since) since users) :
    ∃ moments : Nat → World,
      (∀ caller, Waiting store users caller → moments caller = users.shared) ∧
        Sound store actor top moments users.shared users := by
  classical
  obtain ⟨coherent, held, apart, owns, rest, meets⟩ := sound
  -- Who waits has seen nothing yet, so its moment can be now; the others keep theirs.
  refine ⟨fun caller => if Waiting store users caller then users.shared else since, ?_, ?_⟩
  · intro caller waiting
    exact if_pos waiting
  · refine ⟨⟨coherent.layout, coherent.named, coherent.authored, fun _ _ held => held⟩, held,
      apart, owns, rest, ?_⟩
    intro caller call there
    have told := meets caller call there
    by_cases waiting : Waiting store users caller
    · simp only [if_pos waiting]
      rw [waiting call there] at told ⊢
      exact Truthful.later coherent.layout (fun _ _ held => held) told
    · simp only [if_neg waiting]
      exact told

/-- A request was answered. -/
def Answered (users : Users) (caller : Nat) (asked : Request) (answer : asked.op.Answer) : Prop :=
  users.calls[caller]? = some ⟨asked, .done answer⟩

/-- What an answer tells when it is given, and from then on. -/
theorem Sound.tells (sound : Sound store actor top moments begun users) {asked : Request}
    {answer : asked.op.Answer} (answered : Answered users caller asked answer) :
    Tells store top (moments caller) caller asked.op answer users.shared := by
  obtain ⟨-, held, -, -, -, meets⟩ := sound
  exact (meets caller _ answered).post_of_done

/-- A store without objects that nobody uses yet. -/
theorem sound_unused (layout : store.Layout actor top tree)
    (unused : ∀ address, object? top tree address = none) :
    Sound store actor top (fun _ => ⟨tree, []⟩) ⟨tree, []⟩ ⟨⟨tree, []⟩, []⟩ := by
  constructor
  · constructor
    · exact layout
    · exact fun address => .inl ⟨unused address, rfl⟩
    · intro address record held
      cases (unused address).symm.trans held
    · exact fun _ _ held => held
  · refine ⟨fun _ => none, ?_, ?_, fun _ _ => rfl, ?_⟩
    · exact fun _ _ _ => nofun
    · exact fun _ => nofun
    · intro caller call there
      simp at there

/-! ### What users are told -/

/-- The file of an object is the complete record of a payload that a user was asked to store. -/
def Stored (store : FileStore) (actor : Actor) (users : Users) (address : Address)
    (payload : ByteArray) : Prop :=
  ∃ record, store.file? actor address users.shared.tree = some record ∧
    Authored store users address payload record

theorem Coherent.stored (coherent : Coherent store actor top since users)
    (held : object? top users.shared.tree address = some record)
    (authored : Authored store users address payload record) :
    Stored store actor users address payload := by
  rw [← coherent.layout.file?_eq] at held
  exact ⟨record, held, authored⟩

/-- The file of an object is missing, or it is a complete record. -/
theorem Coherent.absent_or_stored (coherent : Coherent store actor top since users)
    (address : Address) :
    (store.file? actor address users.shared.tree = none ∧
        namers store address users.shared.history = []) ∨
      ∃ payload, Stored store actor users address payload := by
  rw [coherent.layout.file?_eq]
  rcases coherent.named address with absent | ⟨record, caller, present, sole⟩
  · exact .inl absent
  · obtain ⟨payload, authored⟩ := coherent.authored address record present
    exact .inr ⟨payload, coherent.stored present authored⟩

theorem Coherent.stored_of_present (coherent : Coherent store actor top since users)
    (present : object? top users.shared.tree address ≠ none) :
    ∃ payload, Stored store actor users address payload := by
  rcases coherent.absent_or_stored address with ⟨absent, -⟩ | stored
  · rw [coherent.layout.file?_eq] at absent
    exact absurd absent present
  · exact stored

/-- The record of an author is read back. -/
theorem Authored.decodeObject (authored : Authored store users address payload record) :
    ∃ createdAt, Record.decodeObject address record = .ok ⟨address, payload, createdAt⟩ := by
  obtain ⟨caller, asked, left, -, -, -, encoded⟩ := authored
  refine ⟨Instant.ofMilliseconds asked.now.milliseconds, ?_⟩
  rw [Record.decodeObject, Record.decode_of_encode asked.timely encoded]

theorem Authored.size (authored : Authored store users address payload record) :
    record.size - Record.overhead = payload.size := by
  obtain ⟨caller, asked, left, -, -, -, encoded⟩ := authored
  rw [Record.size_of_encode encoded, Nat.add_sub_cancel_left]

/-- Objects that are counted are counted with their payloads. -/
theorem Coherent.payloads_of_tally (coherent : Coherent store actor top since users)
    {found : List (Address × ByteArray)} {stats : StoreStats}
    (tally : Tally top users.shared.tree found stats) :
    ∃ objects : List (Address × ByteArray),
      stats = .ofSizes (objects.map fun pair => pair.2.size) ∧
        objects.map Prod.fst = found.map Prod.fst ∧
          ∀ address payload, (address, payload) ∈ objects →
            Stored store actor users address payload := by
  obtain ⟨present, -, rfl⟩ := tally
  induction found with
  | nil => exact ⟨[], rfl, rfl, nofun⟩
  | cons first rest ih =>
      obtain ⟨objects, counted, same, stored⟩ := ih fun address content member =>
        present address content (List.mem_cons_of_mem _ member)
      rcases first with ⟨address, record⟩
      have held := present address record List.mem_cons_self
      obtain ⟨payload, authored⟩ := coherent.authored address record held
      refine ⟨(address, payload) :: objects, ?_, ?_, ?_⟩
      · rw [List.map_cons, List.map_cons, StoreStats.ofSizes_cons, StoreStats.ofSizes_cons, counted,
          authored.size]
      · simp [same]
      · intro other bytes member
        rcases List.mem_cons.mp member with first | inside
        · cases first
          exact coherent.stored held authored
        · exact stored other bytes inside

variable {now : Instant} {timely : Record.Timely now}

/-- Once a put went well there is an object.  It got its name from the caller if it was
created. -/
theorem Sound.put_told (sound : Sound store actor top moments begun users) {outcome : PutOutcome}
    (answered : Answered users caller ⟨.put address payload, now, timely⟩ (.ok outcome)) :
    object? top users.shared.tree address ≠ none ∧
      (outcome = .created → namers store address users.shared.history = [caller]) := by
  have told := sound.tells answered
  cases outcome with
  | created => exact ⟨told.1, fun _ => told.2⟩
  | alreadyPresent => exact ⟨told, nofun⟩

/-- Where there is no object no put went well. -/
theorem Sound.unwritten (sound : Sound store actor top moments begun users)
    (absent : object? top users.shared.tree address = none) (writer : Nat) (payload : ByteArray)
    (now : Instant) (timely : Record.Timely now) (outcome : PutOutcome) :
    ¬ Answered users writer ⟨.put address payload, now, timely⟩ (.ok outcome) := by
  intro written
  exact (sound.put_told written).1 absent

/-- A get finds the payload that is stored, or nothing if there was nothing. -/
theorem Sound.get_told (sound : Sound store actor top moments begun users)
    {answer : Except StoreError StoredObject}
    (answered : Answered users caller ⟨.get address, now, timely⟩ answer) :
    (answer = .error (.notFound address) ∧ object? top (moments caller).tree address = none) ∨
      ∃ payload createdAt, Stored store actor users address payload ∧
        answer = .ok ⟨address, payload, createdAt⟩ := by
  rcases sound.tells answered with absent | ⟨record, held, rfl⟩
  · exact .inl absent
  · obtain ⟨payload, authored⟩ := sound.kept.authored address record held
    obtain ⟨createdAt, decoded⟩ := authored.decodeObject
    exact .inr ⟨payload, createdAt, sound.kept.stored held authored, decoded⟩

/-- Stored objects are counted, among them all that were there. -/
theorem Sound.stats_told (sound : Sound store actor top moments begun users)
    {answer : Except StoreError StoreStats}
    (answered : Answered users caller ⟨.stats, now, timely⟩ answer) :
    ∃ objects : List (Address × ByteArray),
      answer = .ok (.ofSizes (objects.map fun pair => pair.2.size)) ∧
        (objects.map Prod.fst).Nodup ∧
          (∀ address payload, (address, payload) ∈ objects →
            Stored store actor users address payload) ∧
          ∀ address, object? top (moments caller).tree address ≠ none →
            address ∈ objects.map Prod.fst := by
  obtain ⟨found, stats, rfl, tally, complete⟩ := sound.tells answered
  obtain ⟨objects, rfl, same, stored⟩ := sound.kept.payloads_of_tally tally
  refine ⟨objects, rfl, ?_, stored, ?_⟩
  · rw [same]
    exact tally.distinct
  · intro address present
    obtain ⟨record, held⟩ := Option.ne_none_iff_exists'.mp present
    rw [same]
    exact complete address record held

/-- Whoever uses a store in files, in whatever order the operations come and wherever some
users stop: every object is the complete record of one put, whose caller alone gave it its
name, and it never changes; a put that went well leaves an object; and what is fetched and
counted are the objects, none of those missing that were stored before. -/
theorem interleaved (layout : store.Layout actor top tree)
    (unused : ∀ address, object? top tree address = none) {users later : Users}
    (before : store.Runs actor ⟨⟨tree, []⟩, []⟩ users) (after : store.Runs actor users later) :
    (∀ address, store.Legible actor address later.shared.tree ∧
      ((store.file? actor address later.shared.tree = none ∧
          namers store address later.shared.history = []) ∨
        ∃ payload, Stored store actor later address payload)) ∧
    (∀ address record, store.file? actor address users.shared.tree = some record →
      store.file? actor address later.shared.tree = some record) ∧
    (∀ caller address payload now timely outcome,
      Answered later caller ⟨.put address payload, now, timely⟩ (.ok outcome) →
        (∃ present, Stored store actor later address present) ∧
          (outcome = .created → namers store address later.shared.history = [caller])) ∧
    (∀ caller other address payload payload' now now' timely timely',
      Answered later caller ⟨.put address payload, now, timely⟩ (.ok .created) →
        Answered later other ⟨.put address payload', now', timely'⟩ (.ok .created) →
          caller = other) ∧
    (∀ caller address now timely answer,
      Answered later caller ⟨.get address, now, timely⟩ answer →
        (answer = .error (.notFound address) ∧
          (Waiting store users caller → ∀ writer payload now timely outcome,
            ¬ Answered users writer ⟨.put address payload, now, timely⟩ (.ok outcome))) ∨
        ∃ payload createdAt, Stored store actor later address payload ∧
          answer = .ok ⟨address, payload, createdAt⟩) ∧
    (∀ caller address now timely present,
      Answered later caller ⟨.exists_ address, now, timely⟩ present →
        (present = false ∧
          (Waiting store users caller → ∀ writer payload now timely outcome,
            ¬ Answered users writer ⟨.put address payload, now, timely⟩ (.ok outcome))) ∨
        (present = true ∧ ∃ payload, Stored store actor later address payload)) ∧
    (∀ caller now timely answer, Answered later caller ⟨.stats, now, timely⟩ answer →
      ∃ objects : List (Address × ByteArray),
        answer = .ok (.ofSizes (objects.map fun pair => pair.2.size)) ∧
          (objects.map Prod.fst).Nodup ∧
            (∀ address payload, (address, payload) ∈ objects →
              Stored store actor later address payload) ∧
            (Waiting store users caller → ∀ address payload,
              Stored store actor users address payload → address ∈ objects.map Prod.fst)) := by
  have early := (sound_unused layout unused).steps (fun _ _ => rfl) before
  obtain ⟨moments, fresh, restarted⟩ := early.restart
  have unmade (caller : Nat) (beyond : users.calls.length ≤ caller) :
      moments caller = users.shared := fresh caller (waiting_of_length_le beyond)
  have late := restarted.steps unmade after
  have layoutU := early.kept.layout
  have layoutL := late.kept.layout
  refine ⟨?_, ?_, ?_, ?_, ?_, ?_, ?_⟩
  · intro address
    exact ⟨layoutL.legible address, late.kept.absent_or_stored address⟩
  · intro address record held
    rw [layoutU.file?_eq] at held
    rw [layoutL.file?_eq]
    exact late.kept.keeps address record held
  · intro caller address payload now timely outcome answered
    obtain ⟨present, created⟩ := late.put_told answered
    exact ⟨late.kept.stored_of_present present, created⟩
  · intro caller other address payload payload' now now' timely timely' first second
    have mine := (late.put_told first).2 rfl
    have yours := (late.put_told second).2 rfl
    exact (List.cons.inj (mine.symm.trans yours)).1
  · intro caller address now timely answer answered
    rcases late.get_told answered with ⟨missing, absent⟩ | stored
    · left
      constructor
      · exact missing
      · intro waiting
        rw [fresh caller waiting] at absent
        exact early.unwritten absent
    · exact .inr stored
  · intro caller address now timely present answered
    rcases late.tells answered with ⟨missing, absent⟩ | ⟨there, present⟩
    · left
      constructor
      · exact missing
      · intro waiting
        rw [fresh caller waiting] at absent
        exact early.unwritten absent
    · exact .inr ⟨there, late.kept.stored_of_present present⟩
  · intro caller now timely answer answered
    obtain ⟨objects, counted, distinct, stored, complete⟩ := late.stats_told answered
    refine ⟨objects, counted, distinct, stored, ?_⟩
    rintro waiting address payload ⟨record, held, -⟩
    apply complete
    rw [fresh caller waiting, ← layoutU.file?_eq, held]
    exact Option.some_ne_none record

/-! ### Requests that go on for a while -/

/-- An operation that is performed as a whole and recorded. -/
def World.perform (actor : Actor) (now : Instant) (caller : Nat) (op : Operation) (w : World) :
    op.Answer × World :=
  ((w.tree.perform actor now op).1, ⟨(w.tree.perform actor now op).2,
    w.history ++ [⟨caller, op, (w.tree.perform actor now op).1⟩]⟩)

/-- Recording what is done does not change what a program does. -/
theorem advance_recorded {α : Type} (actor : Actor) (now : Instant) (caller count : Nat)
    (program : FileProgram α) (w : World) :
    ∃ history, program.advance (World.perform actor now caller) count w =
      ((program.advance (FileTree.perform actor now) count w.tree).1,
        ⟨(program.advance (FileTree.perform actor now) count w.tree).2, history⟩) := by
  induction count generalizing program w with
  | zero => exact ⟨w.history, rfl⟩
  | succ count ih =>
      cases program with
      | done value => exact ⟨w.history, rfl⟩
      | step op next =>
          exact ih (next (w.tree.perform actor now op).1) (World.perform actor now caller op w).2

/-- As long as nobody interrupts it, a request goes on as if there were nobody else. -/
theorem runs_advance (store : FileStore) (actor : Actor) (count : Nat) (w : World)
    {asked : Request} {left : FileProgram asked.op.Answer}
    (turn : calls[caller]? = some ⟨asked, left⟩) :
    ∃ later, store.Runs actor ⟨w, calls⟩ later ∧
      later.shared.tree = (left.advance (FileTree.perform actor asked.now) count w.tree).2 ∧
      later.calls = calls.set caller
        ⟨asked, (left.advance (FileTree.perform actor asked.now) count w.tree).1⟩ := by
  obtain ⟨history, recorded⟩ := advance_recorded actor asked.now caller count left w
  have performing (op : Operation) (w : World) :
      Performs actor caller op w (World.perform actor asked.now caller op w).1
        (World.perform actor asked.now caller op w).2 := .whole w asked.now op
  have runs : store.Runs actor _ _ := Pool.Steps.advance (s := w) performing count turn
  rw [recorded] at runs
  exact ⟨_, runs, rfl, rfl⟩

/-- A request that nobody interrupts any more is answered. -/
theorem runs_answered (store : FileStore) (actor : Actor) (w : World) {asked : Request}
    {left : FileProgram asked.op.Answer} (turn : calls[caller]? = some ⟨asked, left⟩) :
    ∃ later, store.Runs actor ⟨w, calls⟩ later ∧
      later.shared.tree = (left.run (FileTree.perform actor asked.now) w.tree).2 ∧
      later.calls = calls.set caller
        ⟨asked, .done (left.run (FileTree.perform actor asked.now) w.tree).1⟩ := by
  obtain ⟨count, ended⟩ := left.exists_advance_eq (FileTree.perform actor asked.now) w.tree
  obtain ⟨later, runs, tree, answered⟩ := runs_advance store actor count w turn
  rw [ended] at tree answered
  exact ⟨later, runs, tree, answered⟩

/-- A request that begins goes on for a while. -/
theorem runs_begun (store : FileStore) (actor : Actor) (count : Nat) (users : Users)
    (asked : Request) :
    ∃ later, store.Runs actor users later ∧
      later.shared.tree = ((store.program asked.now asked.op).advance
        (FileTree.perform actor asked.now) count users.shared.tree).2 ∧
      later.calls = users.calls ++ [⟨asked, ((store.program asked.now asked.op).advance
        (FileTree.perform actor asked.now) count users.shared.tree).1⟩] := by
  rcases users with ⟨w, calls⟩
  have began : store.Runs actor ⟨w, calls⟩
      ⟨w, calls ++ [⟨asked, store.program asked.now asked.op⟩]⟩ :=
    .next .refl (.begin w calls asked)
  obtain ⟨later, runs, tree, left⟩ :=
    runs_advance store actor count w (List.getElem?_concat_length (l := calls))
  rw [List.set_append_right _ _ (Nat.le_refl _), Nat.sub_self, List.set_cons_zero] at left
  exact ⟨later, began.trans runs, tree, left⟩

/-- A request that nobody interrupts from the beginning is answered by the store. -/
theorem runs_alone (store : FileStore) (actor : Actor) (users : Users) (asked : Request) :
    ∃ later, store.Runs actor users later ∧
      later.shared.tree = (store.perform actor asked.now asked.op users.shared.tree).2 ∧
      later.calls = users.calls ++
        [⟨asked, .done (store.perform actor asked.now asked.op users.shared.tree).1⟩] := by
  obtain ⟨count, ended⟩ := (store.program asked.now asked.op).exists_advance_eq
    (FileTree.perform actor asked.now) users.shared.tree
  obtain ⟨later, runs, tree, answered⟩ := runs_begun store actor count users asked
  rw [ended] at tree answered
  exact ⟨later, runs, tree, answered⟩

/-! ### Two writers of one object -/

/-- The payload of a writer who takes a rest. -/
def slow : ByteArray := "slow".toUTF8

/-- The payload of a writer who does not. -/
def quick : ByteArray := "quick".toUTF8

/-- What the slow writer has left to do when its record is in a temporary file, and the files
then. -/
def rested : FileProgram (Except StoreError PutOutcome) × FileTree :=
  ((FileStore.mk "s").program 0 (.put zeros slow)).advance (FileTree.perform .owner 0) 4 abandoned

/-- The files after the quick writer has stored its payload in the meantime. -/
def raced : FileTree := ((FileStore.mk "s").perform .owner 0 (.put zeros quick) rested.2).2

/-- The files after the slow writer went on. -/
def settled : FileTree := (rested.1.run (FileTree.perform .owner 0) raced).2

/-- The slow writer is interrupted by the quick one, and both are answered. -/
theorem runs_race (timely : Record.Timely 0) :
    ∃ users : Users, (FileStore.mk "s").Runs .owner ⟨⟨abandoned, []⟩, []⟩ users ∧
      users.shared.tree = settled ∧
      users.calls = [⟨⟨.put zeros slow, 0, timely⟩, .done (.ok .alreadyPresent)⟩,
        ⟨⟨.put zeros quick, 0, timely⟩, .done (.ok .created)⟩] := by
  have created : ((FileStore.mk "s").perform .owner 0 (.put zeros quick) rested.2).1 =
      .ok .created := by decide +kernel
  have present : (rested.1.run (FileTree.perform .owner 0) raced).1 = .ok .alreadyPresent := by
    decide +kernel
  obtain ⟨resting, rests, tree, calls⟩ :=
    runs_begun ⟨"s"⟩ .owner 4 ⟨⟨abandoned, []⟩, []⟩ ⟨.put zeros slow, 0, timely⟩
  change resting.shared.tree = rested.2 at tree
  change resting.calls = [⟨⟨.put zeros slow, 0, timely⟩, rested.1⟩] at calls
  obtain ⟨⟨w, racing⟩, races, treeRaced, callsRaced⟩ :=
    runs_alone ⟨"s"⟩ .owner resting ⟨.put zeros quick, 0, timely⟩
  rw [tree] at treeRaced callsRaced
  rw [calls, created] at callsRaced
  change w.tree = raced at treeRaced
  change racing = _ at callsRaced
  have turn : racing[0]? = some ⟨⟨.put zeros slow, 0, timely⟩, rested.1⟩ := by
    rw [callsRaced]
    rfl
  obtain ⟨users, settles, treeSettled, callsSettled⟩ := runs_answered ⟨"s"⟩ .owner w turn
  rw [treeRaced] at treeSettled callsSettled
  rw [callsRaced, present] at callsSettled
  exact ⟨users, (rests.trans races).trans settles, treeSettled, callsSettled⟩

/-- Two users store payloads under one address.  The record of the first one is in a temporary
file already when the second one comes and creates the object.  The first one goes on and is told
that the object is there, and a third one fetches the payload of the second one. -/
theorem interleaved_of_race :
    ∃ (users later : Users) (timely : Record.Timely 0) (answer : Except StoreError StoredObject),
      (FileStore.mk "s").Layout .owner [.text "s"] abandoned ∧
        (∀ address, object? [.text "s"] abandoned address = none) ∧
        (FileStore.mk "s").Runs .owner ⟨⟨abandoned, []⟩, []⟩ users ∧
        (FileStore.mk "s").Runs .owner users later ∧
        Answered later 0 ⟨.put zeros slow, 0, timely⟩ (.ok .alreadyPresent) ∧
        Answered later 1 ⟨.put zeros quick, 0, timely⟩ (.ok .created) ∧
        Answered later 2 ⟨.get zeros, 0, timely⟩ answer ∧
        namers ⟨"s"⟩ zeros later.shared.history = [1] ∧
        ∃ createdAt, (FileStore.mk "s").Stored .owner later zeros quick ∧
          answer = .ok ⟨zeros, quick, createdAt⟩ := by
  have timely : Record.Timely 0 := ⟨by decide, by decide⟩
  have fetched : ((FileStore.mk "s").perform .owner 0 (.get zeros) settled).1.toOption.map
      StoredObject.payload = some quick := by decide +kernel
  obtain ⟨users, before, tree, written⟩ := runs_race timely
  obtain ⟨later, after, -, calls⟩ := runs_alone ⟨"s"⟩ .owner users ⟨.get zeros, 0, timely⟩
  rw [tree, written] at calls
  have first : Answered later 0 ⟨.put zeros slow, 0, timely⟩ (.ok .alreadyPresent) := by
    rw [Answered, calls]
    rfl
  have second : Answered later 1 ⟨.put zeros quick, 0, timely⟩ (.ok .created) := by
    rw [Answered, calls]
    rfl
  have third : Answered later 2 ⟨.get zeros, 0, timely⟩
      ((FileStore.mk "s").perform .owner 0 (.get zeros) settled).1 := by
    rw [Answered, calls]
    rfl
  obtain ⟨-, -, wrote, -, read, -⟩ :=
    interleaved layout_abandoned objectless_abandoned.free before after
  refine ⟨users, later, timely, _, layout_abandoned, objectless_abandoned.free, before, after,
    first, second, third, (wrote 1 zeros quick 0 timely .created second).2 rfl, ?_⟩
  rcases read 2 zeros 0 timely _ third with ⟨missing, -⟩ | ⟨payload, createdAt, stored, found⟩
  · rw [missing] at fetched
    cases fetched
  · rw [found] at fetched
    obtain rfl : payload = quick := Option.some.inj fetched
    exact ⟨createdAt, stored, found⟩

end ContentNode.FileStore
