import ContentNode.Proofs.Store.File.Acting
import ContentNode.Proofs.Store.File.Reading

/-!
# Requests among others

What the answer to a request tells about the objects of a store, if others use its
files at the same time.
-/

namespace ContentNode.FileStore

open FileSystem

variable {store : FileStore} {actor : Actor} {top place : Location} {address : Address}
  {caller number : Nat} {asked : Request} {held : Option Location} {now : Instant}
  {begun since w u : World} {content payload record bytes : ByteArray}

/-! ### Filling a temporary file -/

/-- A temporary file was filled, or something went wrong with it. -/
def Filled (store : FileStore) (actor : Actor) (top place : Location) (whole : ByteArray)
    (begun : World) (kept : Option Location) (outcome : Except StoreError Unit) (w : World) :
    Prop :=
  kept = some place ∧ Evolves store actor top begun w ∧
    ∃ content, Holds place content w ∧ (outcome = .ok () → content = whole)

/-- An outcome of filling a file that the user owns. -/
theorem meets_filled {outcome : Except StoreError Unit} {whole : ByteArray}
    (evolves : Evolves store actor top begun w) (holds : Holds place content w)
    (complete : outcome = .ok () → content = whole) :
    Program.Meets (store.terms actor top caller asked) (Filled store actor top place whole begun)
      (.done outcome) (some place) w := by
  intro t others
  exact ⟨rfl, evolves.trans others.evolves, content, others.holds holds, complete⟩

theorem Filled.earlier {whole : ByteArray} {kept : Option Location}
    {outcome : Except StoreError Unit} (evolves : Evolves store actor top begun w)
    (filled : Filled store actor top place whole w kept outcome u) :
    Filled store actor top place whole begun kept outcome u := by
  obtain ⟨owned, further, holds⟩ := filled
  exact ⟨owned, evolves.trans further, holds⟩

/-- A record is appended to a temporary file part by part. -/
theorem meets_appendAll (layout : store.Layout actor top w.tree) (fuel : Nat)
    (enough : bytes.size ≤ fuel) (holds : Holds (temporaryPlace top address number) content w) :
    Program.Meets (store.terms actor top caller asked)
      (Filled store actor top (temporaryPlace top address number) (content ++ bytes) w)
      (appendAll (store.temporaryPath address number) fuel bytes).run
      (some (temporaryPlace top address number)) w := by
  induction fuel generalizing content bytes w with
  | zero =>
      have nothing : bytes = ByteArray.empty :=
        ByteArray.size_eq_zero_iff.mp (Nat.le_zero.mp enough)
      subst nothing
      rw [run_appendAll_of_isEmpty _ _ rfl, ByteArray.append_empty]
      exact meets_filled (.refl w) holds fun _ => rfl
  | succ fuel ih =>
      cases nothing : bytes.isEmpty with
      | true =>
          have none : bytes = ByteArray.empty := by
            apply ByteArray.size_eq_zero_iff.mp
            simpa [ByteArray.isEmpty] using nothing
          subst none
          rw [run_appendAll_of_isEmpty _ _ rfl, ByteArray.append_empty]
          exact meets_filled (.refl w) holds fun _ => rfl
      | false =>
          rw [run_appendAll _ _ nothing]
          apply meets_append layout holds
          intro u taken evolves within more
          dsimp only
          by_cases stuck : taken = 0
          · rw [if_pos stuck]
            apply meets_filled evolves more
            intro done
            cases done
          · rw [if_neg stuck]
            have shorter : (bytes.extract taken bytes.size).size ≤ fuel := by
              rw [ByteArray.size_extract]
              omega
            have further := ih (evolves.grows layout).layout shorter more
            rw [ByteArray.append_assoc, ByteArray.extract_append_extract, Nat.zero_min,
              Nat.max_eq_right within, ByteArray.extract_zero_size] at further
            exact further.mono fun _ _ _ => Filled.earlier evolves

/-- A record is written to a temporary file. -/
theorem meets_fill (layout : store.Layout actor top w.tree)
    (holds : Holds (temporaryPlace top address number) ByteArray.empty w) :
    Program.Meets (store.terms actor top caller asked)
      (Filled store actor top (temporaryPlace top address number) record w)
      (fill (store.temporaryPath address number) record).run
      (some (temporaryPlace top address number)) w := by
  have appended : Program.Meets (store.terms actor top caller asked)
      (Filled store actor top (temporaryPlace top address number) (ByteArray.empty ++ record) w)
      (appendAll (store.temporaryPath address number) record.size record).run
      (some (temporaryPlace top address number)) w :=
    meets_appendAll layout record.size (Nat.le_refl _) holds
  rw [ByteArray.empty_append] at appended
  rw [run_fill]
  apply Program.Meets.bind
  apply appended.mono
  rintro kept outcome t ⟨rfl, evolves, content, mine, complete⟩
  rcases outcome with e | ⟨⟩
  · exact meets_filled evolves mine nofun
  · obtain rfl := complete rfl
    apply meets_sync mine
    intro u further stays
    exact meets_filled (evolves.trans further) stays fun _ => rfl

/-! ### Answers -/

/-- What an answer tells.  Who is told that an object was created gave it its name; what is
fetched is the record of the object; and an object that was there at an earlier moment,
`since`, is found and counted. -/
def Tells (store : FileStore) (top : Location) (since : World) (caller : Nat) :
    (op : StoreOperation) → op.Answer → World → Prop
  | .put _ _, .error _, _ => True
  | .put address _, .ok .alreadyPresent, w => object? top w.tree address ≠ none
  | .put address _, .ok .created, w =>
    object? top w.tree address ≠ none ∧ namers store address w.history = [caller]
  | .get address, answer, w =>
    (answer = .error (.notFound address) ∧ object? top since.tree address = none) ∨
      ∃ record, object? top w.tree address = some record ∧
        answer = Record.decodeObject address record
  | .exists_ address, present, w =>
    (present = false ∧ object? top since.tree address = none) ∨
      (present = true ∧ object? top w.tree address ≠ none)
  | .stats, answer, w =>
    ∃ found stats, answer = .ok stats ∧ Tally top w.tree found stats ∧
      ∀ address record, object? top since.tree address = some record →
        address ∈ found.map Prod.fst

/-- All objects of an earlier moment are still there. -/
def Keeps (top : Location) (since w : World) : Prop :=
  ∀ address record, object? top since.tree address = some record →
    object? top w.tree address = some record

theorem Keeps.evolves (keeps : Keeps top since w) (layout : store.Layout actor top w.tree)
    (evolves : Evolves store actor top w u) : Keeps top since u :=
  fun address record held => (evolves.grows layout).objects _ _ (keeps address record held)

theorem Keeps.absent (keeps : Keeps top since w) (absent : object? top w.tree address = none) :
    object? top since.tree address = none := by
  cases held : object? top since.tree address with
  | none => rfl
  | some record => cases absent.symm.trans (keeps address record held)

/-- An object stays where it is. -/
theorem Evolves.present (evolves : Evolves store actor top w u)
    (layout : store.Layout actor top w.tree) (held : object? top w.tree address = some record) :
    object? top u.tree address ≠ none := by
  rw [(evolves.grows layout).objects _ _ held]
  exact Option.some_ne_none record

/-- The programs of a request meet what their answers tell. -/
abbrev Truthful (store : FileStore) (actor : Actor) (top : Location) (since : World)
    (caller : Nat) (asked : Request) (op : StoreOperation) (program : FileProgram op.Answer)
    (held : Option Location) (w : World) : Prop :=
  Program.Meets (store.terms actor top caller asked)
    (fun _ answer u => Tells store top since caller op answer u) program held w

/-- A temporary file that is full becomes the object, or there is one. -/
theorem truthful_publish (layout : store.Layout actor top w.tree) (named : Named store top w)
    (request : asked.op = .put address payload)
    (encoded : Record.encode asked.now payload = .ok record)
    (holds : Holds (temporaryPlace top address number) record w) :
    Truthful store actor top since caller asked (.put address payload)
      (publish (store.temporaryPath address number) (store.objectPath address)
        (store.directory address)).run (some (temporaryPlace top address number)) w := by
  rw [run_publish]
  apply meets_link layout holds named request encoded
  · intro u bytes evolves mine present
    have layoutU := (evolves.grows layout).layout
    apply meets_discard layoutU mine
    intro v further t others
    exact (further.trans others.evolves).present layoutU present
  · intro u evolves mine present sole
    have layoutU := (evolves.grows layout).layout
    have namedU := evolves.named layout named
    obtain ⟨parent, there⟩ := layoutU.directory_of_holds mine
    apply meets_discard layoutU mine
    intro v further
    obtain ⟨parent, stands⟩ := (further.grows layoutU).directory layoutU there
    apply meets_syncDirectory (further.grows layoutU).layout stands
    intro x later t others
    have whole := further.trans (later.trans others.evolves)
    exact ⟨whole.present layoutU present, whole.namers_eq layoutU namedU sole⟩

/-- A record is written to a temporary file, which is published or discarded. -/
theorem truthful_deliver (layout : store.Layout actor top w.tree) (named : Named store top w)
    (request : asked.op = .put address payload)
    (encoded : Record.encode asked.now payload = .ok record)
    (holds : Holds (temporaryPlace top address number) ByteArray.empty w) :
    Truthful store actor top since caller asked (.put address payload)
      (store.deliver address (store.temporaryPath address number) record)
      (some (temporaryPlace top address number)) w := by
  apply Program.Meets.bind
  apply (meets_fill layout holds).mono
  rintro kept outcome t ⟨rfl, evolves, content, mine, complete⟩
  have layoutT := (evolves.grows layout).layout
  rcases outcome with e | ⟨⟩
  · apply meets_discard layoutT mine
    intro u further v others
    trivial
  · obtain rfl := complete rfl
    exact truthful_publish layoutT (evolves.named layout named) request encoded mine

theorem truthful_put (layout : store.Layout actor top w.tree) (named : Named store top w)
    (request : asked.op = .put address payload) :
    Truthful store actor top since caller asked (.put address payload)
      (store.put asked.now address payload).run none w := by
  rw [run_put]
  apply (observes_terms store actor top caller asked none).meets_look
  · trivial
  intro t u now before moved
  have layoutT := (before.evolves.grows layout).layout
  have layoutU := (moved.evolves.grows layoutT).layout
  have namedU := moved.evolves.named layoutT (before.evolves.named layout named)
  rw [layoutT.perform_exists_object]
  cases present : object? top t.tree address with
  | some bytes =>
      intro v others
      exact (moved.evolves.trans others.evolves).present layoutT present
  | none =>
      apply meets_makeDirectory layoutU
      rintro v further ⟨parent, there⟩
      have layoutV := (further.grows layoutU).layout
      have namedV := further.named layoutU namedU
      cases encoded : Record.encode asked.now payload with
      | error e =>
          intro x others
          trivial
      | ok record =>
          apply meets_createTemporary layoutV there
          · intro x e evolves y others
            trivial
          · intro x number evolves mine
            exact truthful_deliver (evolves.grows layoutV).layout (evolves.named layoutV namedV)
              request encoded mine

theorem truthful_get (layout : store.Layout actor top w.tree) (keeps : Keeps top since w) :
    Truthful store actor top since caller asked (.get address) (store.get address).run held w := by
  rw [run_get_eq]
  apply (observes_terms store actor top caller asked held).meets_look
  · trivial
  intro t u now before moved
  have layoutT := (before.evolves.grows layout).layout
  have keepsT := keeps.evolves layout before.evolves
  rw [layoutT.perform_read_object]
  cases present : object? top t.tree address with
  | none =>
      intro v others
      exact .inl ⟨rfl, keepsT.absent present⟩
  | some record =>
      intro v others
      have grown := (moved.evolves.trans others.evolves).grows layoutT
      exact .inr ⟨record, grown.objects _ _ present, rfl⟩

theorem truthful_exists (layout : store.Layout actor top w.tree) (keeps : Keeps top since w) :
    Truthful store actor top since caller asked (.exists_ address)
      (store.program now (.exists_ address)) held w := by
  rw [program_exists_eq]
  apply (observes_terms store actor top caller asked held).meets_look
  · trivial
  intro t u now before moved
  have layoutT := (before.evolves.grows layout).layout
  have keepsT := keeps.evolves layout before.evolves
  rw [layoutT.perform_exists_object]
  cases present : object? top t.tree address with
  | none =>
      intro v others
      exact .inl ⟨rfl, keepsT.absent present⟩
  | some record =>
      intro v others
      exact .inr ⟨rfl, (moved.evolves.trans others.evolves).present layoutT present⟩

theorem truthful_stats (layout : store.Layout actor top w.tree) (keeps : Keeps top since w) :
    Truthful store actor top since caller asked .stats store.stats.run held w := by
  apply ((observes_terms store actor top caller asked held).meets_stats layout).mono
  rintro _ outcome t ⟨rfl, moved, found, stats, rfl, tally, -, complete⟩
  exact ⟨found, stats, rfl, tally, fun address record held =>
    complete address record trivial (keeps address record held)⟩

/-- The answers to all requests are truthful. -/
theorem truthful_program (layout : store.Layout actor top w.tree) (named : Named store top w)
    (keeps : Keeps top since w) (caller : Nat) (asked : Request) :
    Truthful store actor top since caller asked asked.op (store.program asked.now asked.op) none
      w := by
  obtain ⟨op, now, timely⟩ := asked
  cases op with
  | put address payload => exact truthful_put layout named rfl
  | get address => exact truthful_get layout keeps
  | exists_ address => exact truthful_exists layout keeps
  | stats => exact truthful_stats layout keeps

/-- Before its first operation a request can as well be taken to begin later. -/
theorem Truthful.later (layout : store.Layout actor top w.tree) (keeps : Keeps top begun w)
    (truthful : Truthful store actor top since caller asked asked.op
      (store.program asked.now asked.op) held w) :
    Truthful store actor top begun caller asked asked.op (store.program asked.now asked.op) held
      w := by
  obtain ⟨op, now, timely⟩ := asked
  cases op with
  | put address payload =>
      apply Program.Meets.mono truthful
      intro _ outcome u told
      rcases outcome with e | outcome
      · trivial
      · cases outcome <;> exact told
  | get address => exact truthful_get layout keeps
  | exists_ address => exact truthful_exists layout keeps
  | stats => exact truthful_stats layout keeps

end ContentNode.FileStore
