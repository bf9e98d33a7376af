import ContentNode.CommandLine.Local
import ContentNode.Proofs.Address.Refusals
import ContentNode.Proofs.Rpc.ResponseText
import ContentNode.Proofs.Text.Writing

/-!
# What payloads are shown as

A payload that is the encoding of a text is shown as this text and every other one as its
digits, marked as such.  Commands read both, and no two payloads are shown alike.
-/

namespace ContentNode.Rpc

open Bytes CommandLine

variable {payload other : ByteArray} {v : Json.Value} {printed printed' : String}

/-- What a payload is rendered as, and what commands print for it. -/
inductive Shown (payload : ByteArray) : Json.Value → String → Prop where
  | text {text : String} (encoded : text.toUTF8 = payload) : Shown payload (.string text) text
  /-- Bytes that encode no text are shown as digits that denote them. -/
  | digits {digits : String} (foreign : ∀ text : String, text.toUTF8 ≠ payload)
      (lower : ∀ c ∈ digits.toList, Address.LowerHex c)
      (denoted : Hex.decode? digits.toList = some payload.data.toList) :
      Shown payload (.object [("data", .string digits), ("encoding", .string "hex")])
        ("hex:" ++ digits)

theorem exists_shown (payload : ByteArray) :
    ∃ printed, Shown payload (renderPayload payload) printed := by
  unfold renderPayload
  cases read : String.fromUTF8? payload with
  | some text => exact ⟨text, .text (fromUTF8?_eq_some_iff.mp read)⟩
  | none =>
      refine ⟨"hex:" ++ Hex.ofByteArray payload, ?_⟩
      dsimp only
      rw [ofMembers_marked]
      refine .digits (fun text encoded => ?_) (fun c member => ?_) ?_
      · cases read.symm.trans (fromUTF8?_eq_some_iff.mpr encoded)
      · rw [Hex.toList_ofByteArray] at member
        exact Address.isDigit_iff.mp (Hex.isDigit_of_mem_encode member)
      · rw [Hex.toList_ofByteArray, Hex.decode?_encode]

/-- Only one payload is shown as a value. -/
theorem Shown.unique (shown : Shown payload v printed) (shown' : Shown other v printed') :
    payload = other := by
  cases shown with
  | text encoded =>
      cases shown' with
      | text encoded' => exact encoded.symm.trans encoded'
  | digits _ _ denoted =>
      cases shown' with
      | digits _ _ denoted' =>
          have same := Option.some.inj (denoted.symm.trans denoted')
          exact ByteArray.ext (Array.toList_inj.mp same)

/-- Commands print whatever a payload is rendered as. -/
theorem Shown.payloadText_eq (shown : Shown payload v printed) : payloadText v = .ok printed := by
  cases shown with
  | text => rfl
  | digits => rfl

/-- The text of a rendered payload determines the value. -/
theorem render_renderPayload_injective
    (same : (renderPayload payload).render = (renderPayload other).render) :
    renderPayload payload = renderPayload other := by
  have read (payload : ByteArray) :
      Json.Parser.parse (Json.bytes (renderPayload payload).render) =
        .ok (renderPayload payload) := by
    have rendered := rendered_renderPayload payload
    have readable : Json.Readable Json.Parser.maxLevels (renderPayload payload) :=
      rendered.readable
    rw [Json.parse_render readable, rendered.canonical]
  have reads := read payload
  rw [same, read other] at reads
  exact (Except.ok.inj reads).symm

/-- Every payload is shown as the text that it encodes, or else as marked digits that denote it,
and commands print it.  Different payloads are shown as different values with different texts,
so that no text is taken for bytes that are none. -/
theorem renderPayload_faithful :
    (∀ payload, ∃ printed, Shown payload (renderPayload payload) printed ∧
      payloadText (renderPayload payload) = .ok printed) ∧
    Function.Injective renderPayload ∧
    (Function.Injective fun payload => (renderPayload payload).render) ∧
    ∀ (text : String) (payload : ByteArray), (∀ own : String, own.toUTF8 ≠ payload) →
      renderPayload text.toUTF8 ≠ renderPayload payload ∧
        (renderPayload text.toUTF8).render ≠ (renderPayload payload).render := by
  have injective : Function.Injective renderPayload := by
    intro payload other same
    obtain ⟨printed, shown⟩ := exists_shown payload
    obtain ⟨printed', shown'⟩ := exists_shown other
    rw [same] at shown
    exact shown.unique shown'
  have injective' : Function.Injective fun payload => (renderPayload payload).render :=
    fun payload other same => injective (render_renderPayload_injective same)
  refine ⟨fun payload => ?_, injective, injective', fun text payload foreign => ?_⟩
  · obtain ⟨printed, shown⟩ := exists_shown payload
    exact ⟨printed, shown, shown.payloadText_eq⟩
  · exact ⟨fun same => foreign text (injective same), fun same => foreign text (injective' same)⟩

/-- A null character in two bytes is no text, and neither is half of a pair of surrogates. -/
example : payloadText (renderPayload ⟨#[0xC0, 0x80]⟩) = .ok "hex:c080" ∧
    payloadText (renderPayload ⟨#[0xED, 0xA0, 0x80]⟩) = .ok "hex:eda080" := by
  decide +kernel

end ContentNode.Rpc
