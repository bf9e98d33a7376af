import ContentNode.Proofs.Program.Pool
import Mathlib.Algebra.BigOperators.Ring.List
import Mathlib.Algebra.Ring.Nat
import Mathlib.Data.List.Forall2

/-!
# Clients of a shared state

Any number of clients, each of which makes its calls one after another.  Every call runs
a program.  The operations of all programs are performed one at a time, in any order.
A call begins and returns at steps of its own, so it is part of a schedule what had
returned when a call began.
-/

namespace ContentNode

variable {Op : Type} {Answer : Op → Type} {κ : Type} {Result : κ → Type} {σ : Type}

/-- A client: the calls that have returned, the first one first, the call that it is
waiting for, and those that it is yet to make. -/
structure Client (Op : Type) (Answer : Op → Type) {κ : Type} (Result : κ → Type) where
  returned : List ((asked : κ) × Result asked)
  current : Option (Call Op Answer Result)
  waiting : List κ

namespace Client

/-- A client that has not made any call. -/
def fresh (waiting : List κ) : Client Op Answer Result := ⟨[], none, waiting⟩

/-- All calls of a client. -/
def calls (client : Client Op Answer Result) : List κ :=
  client.returned.map Sigma.fst ++ client.current.toList.map Call.asked ++ client.waiting

/-- The number of calls that have begun. -/
def begun (client : Client Op Answer Result) : Nat :=
  client.returned.length + client.current.toList.length

/-- All calls have returned. -/
def Finished (client : Client Op Answer Result) : Prop :=
  client.current = none ∧ client.waiting = []

/-- One step of a client. -/
inductive Step (program : (asked : κ) → Program Op Answer (Result asked))
    (performs : (op : Op) → σ → Answer op → σ → Prop) :
    Client Op Answer Result → σ → Client Op Answer Result → σ → Prop
  /-- The next call begins. -/
  | begin {returned : List ((asked : κ) × Result asked)} {asked : κ} {waiting : List κ} {s : σ} :
      Step program performs ⟨returned, none, asked :: waiting⟩ s
        ⟨returned, some ⟨asked, program asked⟩, waiting⟩ s
  /-- The next operation of the call is performed. -/
  | act {returned : List ((asked : κ) × Result asked)} {asked : κ} {waiting : List κ} {s t : σ}
      {op : Op} {next : Answer op → Program Op Answer (Result asked)} {answer : Answer op}
      (performed : performs op s answer t) :
      Step program performs ⟨returned, some ⟨asked, .step op next⟩, waiting⟩ s
        ⟨returned, some ⟨asked, next answer⟩, waiting⟩ t
  /-- The call returns. -/
  | finish {returned : List ((asked : κ) × Result asked)} {asked : κ} {waiting : List κ} {s : σ}
      {value : Result asked} :
      Step program performs ⟨returned, some ⟨asked, .done value⟩, waiting⟩ s
        ⟨returned ++ [⟨asked, value⟩], none, waiting⟩ s

variable {program : (asked : κ) → Program Op Answer (Result asked)}
  {performs : (op : Op) → σ → Answer op → σ → Prop} {client later : Client Op Answer Result}
  {s t : σ}

@[simp]
theorem calls_fresh (waiting : List κ) :
    (fresh waiting : Client Op Answer Result).calls = waiting := rfl

/-- A client keeps to its calls. -/
theorem Step.calls (step : Step program performs client s later t) :
    later.calls = client.calls := by
  cases step <;> simp [Client.calls]

/-- A client that is finished has made all its calls. -/
theorem Finished.calls (finished : client.Finished) :
    client.returned.map Sigma.fst = client.calls := by
  simp [Client.calls, finished.1, finished.2]

/-- A client that is not finished can go on. -/
theorem exists_step (program : (asked : κ) → Program Op Answer (Result asked)) (s : σ)
    (total : ∀ op s, ∃ answer t, performs op s answer t) (busy : ¬ client.Finished) :
    ∃ later t, Step program performs client s later t := by
  obtain ⟨returned, _ | ⟨asked, value | ⟨op, next⟩⟩, waiting⟩ := client
  · cases waiting with
    | nil => exact absurd ⟨rfl, rfl⟩ busy
    | cons asked waiting => exact ⟨_, s, .begin⟩
  · exact ⟨_, s, .finish⟩
  · obtain ⟨answer, t, performed⟩ := total op s
    exact ⟨_, t, .act performed⟩

end Client

/-! ### The length of schedules -/

/-- A program that performs at most so many operations, whatever their answers are. -/
inductive Program.Within {α : Type} : Nat → Program Op Answer α → Prop
  | done {bound : Nat} (value : α) : Within bound (.done value)
  | step {bound : Nat} {op : Op} {next : Answer op → Program Op Answer α}
      (further : ∀ answer, Within bound (next answer)) : Within (bound + 1) (.step op next)

/-- A client with at most so many steps left, if its programs perform at most `bound`
operations each. -/
inductive Client.Within (bound : Nat) : Nat → Client Op Answer Result → Prop
  | idle (returned : List ((asked : κ) × Result asked)) (waiting : List κ) :
      Within bound ((bound + 2) * waiting.length) ⟨returned, none, waiting⟩
  | busy {left : Nat} {call : Call Op Answer Result}
      (returned : List ((asked : κ) × Result asked)) (waiting : List κ)
      (within : call.left.Within left) :
      Within bound (left + 1 + (bound + 2) * waiting.length) ⟨returned, some call, waiting⟩

namespace Client

variable {program : (asked : κ) → Program Op Answer (Result asked)}
  {performs : (op : Op) → σ → Answer op → σ → Prop} {client later : Client Op Answer Result}
  {s t : σ} {bound left : Nat}

/-- With every step there are fewer left. -/
theorem Within.step (short : ∀ asked, (program asked).Within bound)
    (within : client.Within bound left) (step : Step program performs client s later t) :
    ∃ fewer < left, later.Within bound fewer := by
  cases step with
  | begin =>
      cases within
      refine ⟨_, ?_, .busy _ _ (short _)⟩
      rw [List.length_cons, Nat.mul_succ]
      omega
  | act =>
      cases within with
      | busy _ _ within =>
          cases within with
          | step further => exact ⟨_, by omega, .busy _ _ (further _)⟩
  | finish =>
      cases within
      exact ⟨_, by omega, .idle _ _⟩

end Client

/-! ### What calls are held to -/

/-- A client whose calls meet their postconditions: those that have returned from then
on, the current one as long as the others keep to the terms. -/
structure Client.Sound (terms : Terms Op Answer σ Unit)
    (post : Nat → (asked : κ) → Result asked → σ → Prop) (client : Client Op Answer Result)
    (s : σ) : Prop where
  returned : ∀ position entry, client.returned[position]? = some entry → ∀ t,
    terms.rely () s t → post position entry.1 entry.2 t
  current : ∀ call, client.current = some call →
    call.left.Meets terms (fun _ => post client.returned.length call.asked) () s

namespace Client

variable {program : (asked : κ) → Program Op Answer (Result asked)}
  {client later : Client Op Answer Result} {s t : σ} {terms : Terms Op Answer σ Unit}
  {post : Nat → (asked : κ) → Result asked → σ → Prop}

theorem sound_fresh (waiting : List κ) :
    (fresh waiting : Client Op Answer Result).Sound terms post s := ⟨nofun, nofun⟩

/-- What the others do does not matter. -/
theorem Sound.among (sound : client.Sound terms post s) (others : terms.rely () s t) :
    client.Sound terms post t := by
  constructor
  · intro position entry there u further
    exact sound.returned position entry there u (terms.rely_trans _ _ _ _ others further)
  · intro call there
    exact (sound.current call there).later others

/-- A step of a client is one that the others can rely on, and keeps it on course. -/
theorem Sound.step (concord : ∀ s t, terms.guarantee () s () t → terms.rely () s t)
    (begins : ∀ asked ∈ client.calls,
      (program asked).Meets terms (fun _ => post client.returned.length asked) () s)
    (sound : client.Sound terms post s)
    (step : Step program terms.performs client s later t) :
    terms.rely () s t ∧ later.Sound terms post t := by
  cases step with
  | begin =>
      refine ⟨terms.rely_refl _ _, sound.returned, ?_⟩
      rintro _ ⟨⟩
      exact begins _ (by simp [calls])
  | act performed =>
      obtain ⟨⟨⟩, guaranteed, further⟩ := (sound.current _ rfl).step_next performed
      have relied := concord _ _ guaranteed
      refine ⟨relied, (sound.among relied).returned, ?_⟩
      rintro _ ⟨⟩
      exact further
  | @finish returned =>
      refine ⟨terms.rely_refl _ _, ?_, nofun⟩
      intro position entry there u others
      rcases Nat.lt_trichotomy position returned.length with before | same | beyond
      · rw [List.getElem?_append_left before] at there
        exact sound.returned position entry there u others
      · subst same
        rw [List.getElem?_concat_length] at there
        obtain rfl := Option.some.inj there
        exact (sound.current _ rfl).later others |>.post_of_done
      · rw [List.getElem?_eq_none (by simp; omega)] at there
        cases there

end Client

/-! ### Crowds -/

/-- A shared state and its clients. -/
structure Crowd (Op : Type) (Answer : Op → Type) {κ : Type} (Result : κ → Type) (σ : Type) where
  shared : σ
  clients : List (Client Op Answer Result)

namespace Crowd

/-- Clients that have not made any call. -/
def start (s : σ) (calls : List (List κ)) : Crowd Op Answer Result σ := ⟨s, calls.map .fresh⟩

/-- A call has returned a value. -/
def Returned (crowd : Crowd Op Answer Result σ) (asked : κ) (value : Result asked) : Prop :=
  ∃ client ∈ crowd.clients, ⟨asked, value⟩ ∈ client.returned

/-- All calls have returned. -/
def Finished (crowd : Crowd Op Answer Result σ) : Prop :=
  ∀ client ∈ crowd.clients, client.Finished

/-- One step of a crowd: a step of one of the clients. -/
inductive Step (program : (asked : κ) → Program Op Answer (Result asked))
    (performs : (op : Op) → σ → Answer op → σ → Prop) :
    Crowd Op Answer Result σ → Crowd Op Answer Result σ → Prop
  | turn {s t : σ} {clients : List (Client Op Answer Result)} {turn : Nat}
      {client later : Client Op Answer Result} (there : clients[turn]? = some client)
      (step : Client.Step program performs client s later t) :
      Step program performs ⟨s, clients⟩ ⟨t, clients.set turn later⟩

/-- A schedule: so many steps, one after another. -/
inductive Schedule (program : (asked : κ) → Program Op Answer (Result asked))
    (performs : (op : Op) → σ → Answer op → σ → Prop) (start : Crowd Op Answer Result σ) :
    Nat → Crowd Op Answer Result σ → Prop
  | refl : Schedule program performs start 0 start
  | next {length : Nat} {crowd later : Crowd Op Answer Result σ}
      (before : Schedule program performs start length crowd)
      (step : Step program performs crowd later) :
      Schedule program performs start (length + 1) later

variable {program : (asked : κ) → Program Op Answer (Result asked)}
  {performs : (op : Op) → σ → Answer op → σ → Prop} {start crowd later : Crowd Op Answer Result σ}
  {length left bound : Nat}

@[simp]
theorem map_calls_start (s : σ) (calls : List (List κ)) :
    (Crowd.start s calls : Crowd Op Answer Result σ).clients.map Client.calls = calls := by
  simp [Crowd.start, Function.comp_def]

theorem Schedule.trans {first second : Nat}
    (before : Schedule program performs start first crowd)
    (after : Schedule program performs crowd second later) :
    Schedule program performs start (first + second) later := by
  induction after with
  | refl => exact before
  | next _ step ih => exact .next ih step

/-- The clients of a crowd keep to their calls. -/
theorem Step.calls (step : Step program performs crowd later) :
    later.clients.map Client.calls = crowd.clients.map Client.calls := by
  cases step with
  | turn there step =>
      obtain ⟨within, rfl⟩ := List.getElem?_eq_some_iff.mp there
      rw [List.map_set, step.calls, ← List.getElem_map Client.calls]
      exact List.set_getElem_self (by simpa using within)

theorem Schedule.calls (schedule : Schedule program performs start length crowd) :
    crowd.clients.map Client.calls = start.clients.map Client.calls := by
  induction schedule with
  | refl => rfl
  | next _ step ih => rw [step.calls, ih]

/-- Clients that are finished have made all their calls. -/
theorem Finished.calls (finished : crowd.Finished) :
    crowd.clients.map (fun client => client.returned.map Sigma.fst) =
      crowd.clients.map Client.calls :=
  List.map_congr_left fun client member => (finished client member).calls

/-- If a crowd is finished, every call has returned something. -/
theorem Finished.returned {own : List κ} {asked : κ} (finished : crowd.Finished)
    (member : own ∈ crowd.clients.map Client.calls) (called : asked ∈ own) :
    ∃ value, crowd.Returned asked value := by
  obtain ⟨client, there, rfl⟩ := List.mem_map.mp member
  rw [← (finished client there).calls] at called
  obtain ⟨⟨_, value⟩, entry, rfl⟩ := List.mem_map.mp called
  exact ⟨value, client, there, entry⟩

/-- A crowd that is not finished can go on. -/
theorem exists_step (program : (asked : κ) → Program Op Answer (Result asked))
    (total : ∀ op s, ∃ answer t, performs op s answer t) (busy : ¬ crowd.Finished) :
    ∃ later, Step program performs crowd later := by
  obtain ⟨s, clients⟩ := crowd
  simp only [Finished, not_forall] at busy
  obtain ⟨client, member, busy⟩ := busy
  obtain ⟨turn, there⟩ := List.mem_iff_getElem?.mp member
  obtain ⟨later, t, step⟩ := client.exists_step program s total busy
  exact ⟨_, .turn there step⟩

/-- A crowd with at most so many steps left. -/
def Within (bound left : Nat) (crowd : Crowd Op Answer Result σ) : Prop :=
  ∃ shares : List Nat, List.Forall₂ (Client.Within bound) shares crowd.clients ∧ shares.sum = left

/-- If one share can be made smaller, so can the sum. -/
theorem exists_shares {clients : List (Client Op Answer Result)} {shares : List Nat}
    {turn : Nat} {client later : Client Op Answer Result}
    (within : List.Forall₂ (Client.Within bound) shares clients)
    (there : clients[turn]? = some client)
    (fewer : ∀ share, client.Within bound share → ∃ less < share, later.Within bound less) :
    ∃ smaller : List Nat, List.Forall₂ (Client.Within bound) smaller (clients.set turn later) ∧
      smaller.sum < shares.sum := by
  induction within generalizing turn with
  | nil => cases there
  | @cons share first shares clients own others ih =>
      cases turn with
      | zero =>
          obtain rfl : first = client := by simpa using there
          obtain ⟨less, smaller, within⟩ := fewer share own
          refine ⟨less :: shares, .cons within others, ?_⟩
          simpa using smaller
      | succ turn =>
          have further : clients[turn]? = some client := by simpa using there
          obtain ⟨smaller, within, less⟩ := ih further
          refine ⟨share :: smaller, .cons own within, ?_⟩
          simpa using less

theorem Within.step (short : ∀ asked, (program asked).Within bound)
    (within : crowd.Within bound left) (step : Step program performs crowd later) :
    ∃ fewer < left, later.Within bound fewer := by
  obtain ⟨shares, each, rfl⟩ := within
  cases step with
  | turn there step =>
      obtain ⟨smaller, within, less⟩ :=
        exists_shares each there fun share own => own.step short step
      exact ⟨_, less, smaller, within, rfl⟩

/-- A schedule is no longer than the steps that were left at its beginning. -/
theorem Within.length_le (short : ∀ asked, (program asked).Within bound)
    (within : start.Within bound left) (schedule : Schedule program performs start length crowd) :
    length ≤ left := by
  suffices ∃ rest, length + rest ≤ left ∧ crowd.Within bound rest by
    obtain ⟨rest, enough, -⟩ := this
    omega
  induction schedule with
  | refl => exact ⟨left, by omega, within⟩
  | next _ step ih =>
      obtain ⟨rest, enough, within⟩ := ih
      obtain ⟨fewer, less, within⟩ := within.step short step
      exact ⟨fewer, by omega, within⟩

/-- There is always a schedule that lets all calls return. -/
theorem Within.exists_finished (short : ∀ asked, (program asked).Within bound)
    (total : ∀ op s, ∃ answer t, performs op s answer t) (within : crowd.Within bound left) :
    ∃ length later, Schedule program performs crowd length later ∧ later.Finished := by
  induction left using Nat.strong_induction_on generalizing crowd with
  | h left ih =>
      by_cases finished : crowd.Finished
      · exact ⟨0, crowd, .refl, finished⟩
      · obtain ⟨next, step⟩ := exists_step program total finished
        obtain ⟨fewer, less, within⟩ := within.step short step
        obtain ⟨length, later, schedule, finished⟩ := ih fewer less within
        exact ⟨_, later, (Schedule.next .refl step).trans schedule, finished⟩

/-- At the beginning all steps of all calls are left. -/
theorem within_start (s : σ) (calls : List (List κ)) :
    (Crowd.start s calls : Crowd Op Answer Result σ).Within bound
      ((bound + 2) * calls.flatten.length) := by
  refine ⟨calls.map fun own => (bound + 2) * own.length, ?_, ?_⟩
  · rw [Crowd.start, List.forall₂_map_left_iff, List.forall₂_map_right_iff, List.forall₂_same]
    exact fun own _ => .idle [] own
  · rw [List.length_flatten, List.sum_map_mul_left]

/-! ### What a crowd is held to -/

variable {terms : Terms Op Answer σ Unit}
  {post : Nat → Nat → (asked : κ) → Result asked → σ → Prop}

/-- A crowd in which all calls meet their postconditions. -/
def Sound (terms : Terms Op Answer σ Unit)
    (post : Nat → Nat → (asked : κ) → Result asked → σ → Prop)
    (crowd : Crowd Op Answer Result σ) : Prop :=
  ∀ (turn : Nat) (client : Client Op Answer Result), crowd.clients[turn]? = some client →
    client.Sound terms (post turn) crowd.shared

theorem sound_start (s : σ) (calls : List (List κ)) :
    (Crowd.start s calls : Crowd Op Answer Result σ).Sound terms post := by
  intro turn client there
  obtain ⟨own, -, rfl⟩ := List.mem_map.mp (List.mem_of_getElem? there)
  exact Client.sound_fresh own

/-- What has returned meets its postcondition. -/
theorem Sound.post_of_returned {asked : κ} {value : Result asked} (sound : crowd.Sound terms post)
    (returned : crowd.Returned asked value) :
    ∃ turn position, post turn position asked value crowd.shared := by
  obtain ⟨client, member, entry⟩ := returned
  obtain ⟨turn, there⟩ := List.mem_iff_getElem?.mp member
  obtain ⟨position, found⟩ := List.mem_iff_getElem?.mp entry
  exact ⟨turn, position, (sound turn client there).returned position _ found _
    (terms.rely_refl _ _)⟩

/-- A step of one client leaves all the others on course. -/
theorem Sound.step (concord : ∀ s t, terms.guarantee () s () t → terms.rely () s t)
    (begins : ∀ (turn position : Nat) (own : List κ) (asked : κ),
      (crowd.clients.map Client.calls)[turn]? = some own → asked ∈ own →
      (program asked).Meets terms (fun _ => post turn position asked) () crowd.shared)
    (sound : crowd.Sound terms post) (step : Step program terms.performs crowd later) :
    terms.rely () crowd.shared later.shared ∧ later.Sound terms post := by
  cases step with
  | @turn s t clients turn client after there step =>
      obtain ⟨relied, onCourse⟩ := (sound turn client there).step concord
        (fun asked => begins turn _ _ asked (by simp [there])) step
      refine ⟨relied, ?_⟩
      intro other found foundThere
      by_cases same : other = turn
      · subst same
        rw [List.getElem?_set_self (List.getElem?_eq_some_iff.mp there).1] at foundThere
        obtain rfl := Option.some.inj foundThere
        exact onCourse
      · rw [List.getElem?_set_ne (Ne.symm same)] at foundThere
        exact (sound other found foundThere).among relied

/-- All calls of a crowd stay on course, whatever the schedule. -/
theorem Sound.schedule (concord : ∀ s t, terms.guarantee () s () t → terms.rely () s t)
    (begins : ∀ (turn position : Nat) (own : List κ) (asked : κ) (s : σ),
      (start.clients.map Client.calls)[turn]? = some own → asked ∈ own →
      terms.rely () start.shared s →
      (program asked).Meets terms (fun _ => post turn position asked) () s)
    (sound : start.Sound terms post)
    (schedule : Schedule program terms.performs start length crowd) :
    terms.rely () start.shared crowd.shared ∧ crowd.Sound terms post := by
  induction schedule with
  | refl => exact ⟨terms.rely_refl _ _, sound⟩
  | next before step ih =>
      obtain ⟨relied, onCourse⟩ := ih
      obtain ⟨further, after⟩ := onCourse.step concord
        (fun turn position own asked there member =>
          begins turn position own asked _ (before.calls ▸ there) member relied) step
      exact ⟨terms.rely_trans _ _ _ _ relied further, after⟩

/-- The call at a position of a client has not begun. -/
def NotBegun (crowd : Crowd Op Answer Result σ) (turn position : Nat) : Prop :=
  ∀ client, crowd.clients[turn]? = some client → client.begun ≤ position

/-- Calls that begin after a crowd can be held to more than those that have begun. -/
theorem Sound.since {more : (asked : κ) → Result asked → σ → Prop}
    (concord : ∀ s t, terms.guarantee () s () t → terms.rely () s t)
    (begins : ∀ (turn position : Nat) (own : List κ) (asked : κ) (s : σ),
      (start.clients.map Client.calls)[turn]? = some own → asked ∈ own →
      terms.rely () start.shared s →
      (program asked).Meets terms
        (fun _ value t => post turn position asked value t ∧ more asked value t) () s)
    (sound : start.Sound terms post)
    (schedule : Schedule program terms.performs start length crowd) :
    crowd.Sound terms fun turn position asked value s =>
      post turn position asked value s ∧
        (start.NotBegun turn position → more asked value s) := by
  refine (Sound.schedule concord ?_ ?_ schedule).2
  · intro turn position own asked s there member relied
    exact (begins turn position own asked s there member relied).mono
      fun _ value t met => ⟨met.1, fun _ => met.2⟩
  · intro turn client there
    have own := sound turn client there
    constructor
    · intro position entry found t others
      have within := (List.getElem?_eq_some_iff.mp found).1
      refine ⟨own.returned position entry found t others, fun late => ?_⟩
      have := late client there
      simp only [Client.begun] at this
      omega
    · intro call current
      refine (own.current call current).mono fun _ value t met => ⟨met, fun late => ?_⟩
      have := late client there
      simp only [Client.begun, current, Option.toList_some, List.length_singleton] at this
      omega

end Crowd

end ContentNode
