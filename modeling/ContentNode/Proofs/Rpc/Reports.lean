import ContentNode.Proofs.Address.Refusals
import ContentNode.Proofs.Rpc.RequestText
import ContentNode.Proofs.Text.Writing
import ContentNode.Store.Memory

/-!
# What is reported of a text that is no address

A report has the fault of the whole text and shows the beginning of the text.  The beginning is
so short that the message with it stays small when every character is written as an escape.
-/

namespace ContentNode

variable {s shown : String} {reason : Address.ParseError}

/-! ### The text that a report shows -/

namespace MalformedAddress

/-- A text of at most eighty characters is shown as it is.  A longer one is cut between two
characters, and three dots stand for the rest. -/
inductive Shows (s : String) : String → Prop where
  | whole (few : s.length ≤ 80) : Shows s s
  | cut {front rest : String} (parts : s = front ++ rest) (kept : front.length = 80)
      (more : rest ≠ "") : Shows s (front ++ "...")

theorem shows_shorten (s : String) : Shows s (shorten s) := by
  have count : s.toList.length = s.length := String.length_toList
  by_cases few : s.toList.length ≤ shownLength
  · rw [shorten, if_pos few]
    exact .whole (by rwa [count] at few)
  · rw [shorten, if_neg few]
    have parts : s = String.ofList (s.toList.take 80) ++ String.ofList (s.toList.drop 80) := by
      rw [← String.ofList_append, List.take_append_drop, String.ofList_toList]
    refine .cut parts ?_ fun none => few ?_
    · rw [String.length_ofList, List.length_take]
      exact min_eq_left (Nat.le_of_not_le few)
    · simpa [shownLength] using none

theorem Shows.shorten_eq (shows : Shows s shown) : shorten s = shown := by
  have count : s.toList.length = s.length := String.length_toList
  cases shows with
  | whole few => exact if_pos (count.trans_le few)
  | @cut front rest parts kept more =>
      have some : rest.length ≠ 0 := fun none => more (String.length_eq_zero_iff.mp none)
      have long : ¬ s.toList.length ≤ shownLength := by
        rw [count, parts, String.length_append, kept]
        simp only [shownLength]
        omega
      have beginning : s.toList.take shownLength = front.toList := by
        rw [parts, String.toList_append]
        exact List.take_left' (String.length_toList.trans kept)
      rw [shorten, if_neg long, beginning, String.ofList_toList]

/-- What is shown is shown whole. -/
theorem Shows.again (shows : Shows s shown) : Shows shown shown := by
  cases shows with
  | whole few => exact .whole few
  | cut parts kept more => exact .cut rfl kept (by decide)

theorem Shows.length_le (shows : Shows s shown) : shown.length ≤ 83 := by
  cases shows with
  | whole few => omega
  | cut parts kept more =>
      rw [String.length_append, kept]
      decide

end MalformedAddress

/-! ### The sizes of messages -/

/-- A number of at most 64 bits takes at most twenty digits. -/
theorem utf8ByteSize_toString_le {n : Nat} (short : n < 2 ^ 64) :
    (toString n).utf8ByteSize ≤ 20 :=
  Text.utf8ByteSize_toDigits_le (by decide) (by decide) (by decide) (short.trans (by decide))

theorem Address.Refused.utf8ByteSize_message_le (refused : Address.Refused s reason)
    (short : s.utf8ByteSize < 2 ^ 64) : reason.message.utf8ByteSize ≤ 67 := by
  cases refused with
  | opening unmarked => decide
  | length marked size =>
      have digits := utf8ByteSize_toString_le short
      change ("invalid encoded length: expected 66, got " ++ _).utf8ByteSize ≤ 67
      rw [String.utf8ByteSize_append,
        show "invalid encoded length: expected 66, got ".utf8ByteSize = 41 from rfl]
      omega
  | @character before after c characters size digits foreign =>
      have whole : s = String.ofList ("0x".toList ++ before) ++ String.ofList (c :: after) := by
        rw [← String.ofList_append, ← characters, String.ofList_toList]
      have inside : (String.ofList ("0x".toList ++ before)).utf8ByteSize < 2 ^ 64 := by
        rw [whole, String.utf8ByteSize_append] at short
        omega
      have position := utf8ByteSize_toString_le inside
      have quoted := Text.Quoted.utf8ByteSize_char_le c
      change ("invalid hex character " ++ Text.Quoted.char c ++ " at position " ++
        _).utf8ByteSize ≤ 67
      rw [String.utf8ByteSize_append, String.utf8ByteSize_append, String.utf8ByteSize_append,
        show "invalid hex character ".utf8ByteSize = 22 from rfl,
        show " at position ".utf8ByteSize = 13 from rfl]
      omega

namespace Rpc

open MalformedAddress

/-- The message of a report has a bounded size, since at most eighty-three characters are quoted
in it. -/
theorem utf8ByteSize_ofEngine_le (refused : Address.Refused s reason)
    (short : s.utf8ByteSize < 2 ^ 64) (shows : Shows s shown) :
    (Error.ofEngine (.malformedAddress ⟨shown, reason⟩)).message.utf8ByteSize ≤ 1000 := by
  have fault := refused.utf8ByteSize_message_le short
  have quoted := Text.Quoted.utf8ByteSize_string_le shown
  have few := shows.length_le
  rw [Error.ofEngine_eq]
  change ("Malformed address " ++ Text.Quoted.string shown ++ ": " ++
    reason.message).utf8ByteSize ≤ 1000
  rw [String.utf8ByteSize_append, String.utf8ByteSize_append, String.utf8ByteSize_append,
    show "Malformed address ".utf8ByteSize = 18 from rfl, show ": ".utf8ByteSize = 2 from rfl]
  omega

/-- A codec accepts exactly the texts that denote addresses.  Of every other text it reports the
fault of the whole text and shows the beginning, which is not shortened a second time.  A request
to read such a text is answered with a message of at most a thousand bytes, without asking the
store. -/
theorem reports_exact_and_bounded (s : String) (short : s.utf8ByteSize < 2 ^ 64) :
    (∀ (codec : AddressCodec) (a : Address),
      codec.decode s = .ok a ↔ Address.parse s = .ok a) ∧
    (∀ (codec : AddressCodec) (report : MalformedAddress), codec.decode s = .error report ↔
      Address.parse s = .error report.reason ∧ Shows s report.input) ∧
    Shows s (shorten s) ∧ shorten (shorten s) = shorten s ∧
    ∀ {σ : Type} (onStore : (op : StoreOperation) → σ → op.Answer × σ) (state : σ)
      (config : EngineConfig) (body : ByteArray) (id : Json.Value),
      Envelops body id (.read s) → (∀ a, Address.parse s ≠ .ok a) →
      ∃ e : Error, (dispatch config body).run onStore state = (.failure id e, state) ∧
        e.kind = .malformedAddress ∧ e.message.utf8ByteSize ≤ 1000 := by
  have shows := shows_shorten s
  refine ⟨fun codec a => ?_, fun codec report => ?_, shows, shows.again.shorten_eq, ?_⟩
  · unfold AddressCodec.decode
    cases Address.parse s <;> simp
  · unfold AddressCodec.decode
    cases Address.parse s with
    | ok a => simp
    | error reason =>
        simp only [Except.error.injEq]
        constructor
        · rintro rfl
          exact ⟨rfl, shows⟩
        · rintro ⟨rfl, shown⟩
          rw [shown.shorten_eq]
  · intro σ onStore state config body id envelope foreign
    rcases Address.address_or_refused s with ⟨a, read⟩ | ⟨reason, refused⟩
    · exact absurd read (foreign a)
    · refine ⟨.ofEngine (.malformedAddress ⟨shorten s, reason⟩), ?_, rfl,
        utf8ByteSize_ofEngine_le refused short shows⟩
      rw [run_dispatch_of_envelops envelope, run_perform_read,
        read_eq_of_malformed (Address.parse_of_refused refused)]
      rfl

/-- Characters that are quoted by their code points, which have six digits. -/
def unprinted (count : Nat) : String := String.ofList (List.replicate count (Char.ofNat 0x10FFFF))

theorem length_unprinted (count : Nat) : (unprinted count).length = count := by
  rw [unprinted, String.length_ofList, List.length_replicate]

theorem shows_unprinted : Shows (unprinted 100) (unprinted 80 ++ "...") := by
  have parts : unprinted (80 + 20) = unprinted 80 ++ unprinted 20 := by
    simp only [unprinted, List.replicate_add, String.ofList_append]
  refine .cut parts (length_unprinted 80) fun none => ?_
  have count := length_unprinted 20
  rw [none] at count
  cases count

theorem parse_unprinted : Address.parse (unprinted 100) = .error .missingPrefix := by
  apply Address.parse_of_unmarked
  rw [unprinted, String.toList_ofList, String.toList_ofList]
  decide

theorem reports_exact_and_bounded_of_unprinted :
    (unprinted 100).utf8ByteSize < 2 ^ 64 ∧
    AddressCodec.decode ⟨.sha3⟩ (unprinted 100) =
      .error ⟨unprinted 80 ++ "...", .missingPrefix⟩ ∧
    shorten (unprinted 80 ++ "...") = unprinted 80 ++ "..." ∧
    ∃ e : Error,
      (dispatch .standard (Request.ofCall (.integer 1) (.read (unprinted 100))).render.toUTF8).run
          (MemoryStore.perform 0) .empty = (.failure (.integer 1) e, .empty) ∧
        e.kind = .malformedAddress ∧ e.message.utf8ByteSize ≤ 1000 := by
  have short : (unprinted 100).utf8ByteSize < 2 ^ 64 := by decide +kernel
  obtain ⟨_, reported, _, again, answered⟩ := reports_exact_and_bounded (unprinted 100) short
  rw [shows_unprinted.shorten_eq] at again
  refine ⟨short, (reported _ _).mpr ⟨parse_unprinted, shows_unprinted⟩, again,
    answered _ _ _ _ _ (envelops_render (.integer (by decide)) _) fun a read => ?_⟩
  cases parse_unprinted.symm.trans read

end Rpc

end ContentNode
