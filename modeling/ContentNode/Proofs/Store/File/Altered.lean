import ContentNode.Proofs.Digest.Crc32
import ContentNode.Proofs.Store.File.Reading
import ContentNode.Proofs.Store.Record.Frames

/-!
# Altered records

What is accepted as a record is the header of a body and that body, so a record that is cut
short, extended or changed within the header is refused.  A change within four consecutive
bytes of the body does not keep the check value.  Whoever reads an object from a file that
was altered in one of these ways is told so.
-/

namespace ContentNode

open Bytes FileSystem

namespace Record

/-- A record and what may have become of its bytes. -/
inductive Altered : ByteArray → ByteArray → Prop where
  /-- The end is missing. -/
  | cut {bytes rest : ByteArray} (missing : rest.size ≠ 0) : Altered (bytes ++ rest) bytes
  /-- More bytes follow. -/
  | extended {record more : ByteArray} (added : more.size ≠ 0) : Altered record (record ++ more)
  /-- One byte is another. -/
  | replaced {front back : ByteArray} {old new : UInt8} (changed : old ≠ new) :
      Altered (front ++ ofList [old] ++ back) (front ++ ofList [new] ++ back)
  /-- Some of up to four consecutive bytes of the body are others. -/
  | burst {front old new back : ByteArray} (inBody : headerSize ≤ front.size)
      (size : old.size = new.size) (few : old.size ≤ 4) (changed : old ≠ new) :
      Altered (front ++ old ++ back) (front ++ new ++ back)

variable {body bytes record front old new back : ByteArray} {result : Instant × ByteArray}

/-! ### What is accepted -/

/-- Whatever is accepted is the header of a body and that body. -/
theorem eq_header_append_of_decode (accepted : decode bytes = .ok result) :
    ∃ body, body.size < sizeLimit ∧ bytes = header body ++ body :=
  ⟨bodyOf bytes, (decode_eq_ok_iff.mp accepted).1.eq_header_append⟩

/-- A header tells the size and the check value of its body. -/
theorem size_and_checksum_of_header_eq {other : ByteArray} (short : body.size < sizeLimit)
    (also : other.size < sizeLimit) (same : header body = header other) :
    body.size = other.size ∧ Digest.Crc32.checksum body = Digest.Crc32.checksum other := by
  constructor
  · rw [← field_header_size short ByteArray.empty, same, field_header_size also]
  · rw [← UInt32.toNat_inj, ← field_header_checksum body ByteArray.empty, same,
      field_header_checksum]

/-! ### What is refused -/

/-- What is as long as a header, and what follows it, are told apart within framed bytes. -/
theorem parts_of_header_append {start rest more : ByteArray} (length : start.size = headerSize)
    (same : start ++ rest = header body ++ more) : start = header body ∧ rest = more :=
  (ByteArray.append_eq_append_iff_of_size_eq_left
    (length.trans (size_header body).symm)).mp same

/-- Bytes that are accepted are not the beginning of other ones. -/
theorem size_eq_zero_of_accepted {other rest : ByteArray} (short : body.size < sizeLimit)
    (also : other.size < sizeLimit)
    (longer : header body ++ body = header other ++ other ++ rest) : rest.size = 0 := by
  rw [ByteArray.append_assoc] at longer
  obtain ⟨same, rfl⟩ := parts_of_header_append (size_header body) longer
  have size := (size_and_checksum_of_header_eq short also same).1
  rw [ByteArray.size_append] at size
  omega

/-- Up to four bytes of a body are settled by the other bytes of the record. -/
theorem eq_of_accepted_in_body {other : ByteArray} (short : body.size < sizeLimit)
    (also : other.size < sizeLimit) (inBody : headerSize ≤ front.size) (size : old.size = new.size)
    (few : old.size ≤ 4) (intact : front ++ old ++ back = header body ++ body)
    (accepted : front ++ new ++ back = header other ++ other) : old = new := by
  rw [← ByteArray.extract_zero_size (b := front), ← extract_append_rest inBody] at intact accepted
  simp only [ByteArray.append_assoc] at intact accepted
  have length : (front.extract 0 headerSize).size = headerSize := by
    rw [ByteArray.size_extract]
    omega
  obtain ⟨first, rfl⟩ := parts_of_header_append length intact
  obtain ⟨second, rfl⟩ := parts_of_header_append length accepted
  have checks := (size_and_checksum_of_header_eq short also (first.symm.trans second)).2
  simp only [← ByteArray.append_assoc] at checks
  exact Digest.Crc32.eq_of_checksum_eq size few checks

/-- The bytes of a header are settled by the body. -/
theorem eq_of_accepted_in_header {other : ByteArray} (size : old.size = new.size)
    (inHeader : front.size + old.size ≤ headerSize)
    (intact : front ++ old ++ back = header body ++ body)
    (accepted : front ++ new ++ back = header other ++ other) : old = new := by
  have lengths := congrArg ByteArray.size intact
  simp only [ByteArray.size_append, size_header] at lengths
  have within : headerSize - (front.size + old.size) ≤ back.size := by omega
  rw [← ByteArray.extract_zero_size (b := back), ← extract_append_rest within,
    ← ByteArray.append_assoc] at intact accepted
  have length {middle : ByteArray} (same : old.size = middle.size) :
      (front ++ middle ++ back.extract 0 (headerSize - (front.size + old.size))).size =
        headerSize := by
    simp only [ByteArray.size_append, ByteArray.size_extract]
    omega
  obtain ⟨first, rfl⟩ := parts_of_header_append (length rfl) intact
  obtain ⟨second, rfl⟩ := parts_of_header_append (length size) accepted
  have same := first.trans second.symm
  rwa [ByteArray.append_left_inj, ByteArray.append_right_inj] at same

/-- One byte is settled by the other bytes of the record, wherever it stands. -/
theorem eq_of_accepted_byte {other : ByteArray} {b c : UInt8} (short : body.size < sizeLimit)
    (also : other.size < sizeLimit) (intact : front ++ ofList [b] ++ back = header body ++ body)
    (accepted : front ++ ofList [c] ++ back = header other ++ other) : b = c := by
  have same : ofList [b] = ofList [c] := by
    by_cases inBody : headerSize ≤ front.size
    · exact eq_of_accepted_in_body short also inBody rfl (by decide : 1 ≤ 4) intact accepted
    · refine eq_of_accepted_in_header rfl ?_ intact accepted
      rw [size_ofList, List.length_singleton]
      omega
  have bytes := congrArg (·.data.toList) same
  exact List.singleton_inj.mp bytes

/-- An altered record is refused. -/
theorem exists_damage_of_altered (short : body.size < sizeLimit)
    (altered : Altered (header body ++ body) bytes) : ∃ damage, decode bytes = .error damage := by
  cases outcome : decode bytes with
  | error damage => exact ⟨damage, rfl⟩
  | ok result =>
    -- Both byte strings are framed bodies, so what they share settles the rest.
    obtain ⟨other, also, accepted⟩ := eq_header_append_of_decode outcome
    generalize intact : header body ++ body = record at altered
    exfalso
    cases altered with
    | cut missing =>
      rw [accepted] at intact
      exact missing (size_eq_zero_of_accepted short also intact)
    | extended added =>
      rw [← intact] at accepted
      exact added (size_eq_zero_of_accepted also short accepted.symm)
    | replaced changed =>
      exact changed (eq_of_accepted_byte short also intact.symm accepted)
    | burst inBody size few changed =>
      exact changed (eq_of_accepted_in_body short also inBody size few intact.symm accepted)

end Record

namespace FileStore

/-- An object that is short enough has a record, which is read back if the moment is one that
a record can have.  No alteration of it is accepted, and whoever reads an object from a file
with an altered record is told that the record is damaged. -/
theorem alterations_noticed (createdAt : Instant) {payload : ByteArray}
    (short : payload.size ≤ 2 ^ 32 - 17) :
    ∃ record, Record.encode createdAt payload = .ok record ∧
      (Record.Timely createdAt → Record.decode record =
        .ok (Instant.ofMilliseconds createdAt.milliseconds, payload)) ∧
      ∀ bytes, Record.Altered record bytes → ∀ address,
        ∃ reason, Record.decodeObject address bytes = .error (.corrupt address reason) ∧
          ∀ (store : FileStore) (actor : Actor) (tree : FileTree),
            store.Legible actor address tree → store.file? actor address tree = some bytes →
              ∀ now config, (store.readAddress actor now config address tree).1 =
                .error (.integrityViolation address (.corrupt reason)) := by
  have fits : 16 + payload.size < Record.sizeLimit := by
    rw [Record.sizeLimit, UInt32.size]
    omega
  have encoded := Record.encode_eq_ok createdAt fits
  refine ⟨_, encoded, fun timely => Record.decode_of_encode timely encoded, ?_⟩
  intro bytes altered address
  rw [← Record.size_body createdAt] at fits
  obtain ⟨damage, refused⟩ := Record.exists_damage_of_altered fits altered
  refine ⟨damage.message, ?_, ?_⟩
  · rw [Record.decodeObject, refused]
  · intro store actor tree legible held now config
    rw [readAddress_eq config legible, held]
    simp only [judge, refused]

/-! ### A record struck in four bytes -/

/-- The record of one letter, a millisecond after the beginning of 1970. -/
def letterRecord : ByteArray :=
  ⟨#[67, 65, 83, 49, 17, 0, 0, 0, 115, 127, 135, 99, 1, 0, 0, 0, 0, 0, 0, 0, 1, 0, 0, 0, 0, 0, 0, 0,
    97]⟩

/-- The same with four bytes changed, in the moment and in the length. -/
def struckRecord : ByteArray :=
  ⟨#[67, 65, 83, 49, 17, 0, 0, 0, 115, 127, 135, 99, 1, 0, 0, 0, 0, 0, 7, 0, 0, 128, 0, 0, 0, 0, 0,
    0, 97]⟩

theorem altered_struckRecord : Record.Altered letterRecord struckRecord := by
  change Record.Altered
    (⟨#[67, 65, 83, 49, 17, 0, 0, 0, 115, 127, 135, 99, 1, 0, 0, 0, 0, 0]⟩ ++ ⟨#[0, 0, 1, 0]⟩ ++
      ⟨#[0, 0, 0, 0, 0, 0, 97]⟩)
    (⟨#[67, 65, 83, 49, 17, 0, 0, 0, 115, 127, 135, 99, 1, 0, 0, 0, 0, 0]⟩ ++ ⟨#[7, 0, 0, 128]⟩ ++
      ⟨#[0, 0, 0, 0, 0, 0, 97]⟩)
  exact .burst (by decide) rfl (by decide) (by decide)

/-- A tree with some bytes in the file of an object. -/
def filed (bytes : ByteArray) : FileTree :=
  torn.insert (objectPlace [.text "s"] zeros) (.file bytes 0 Entry.fileMode)

theorem filed_stat (bytes : ByteArray) :
    (filed bytes).stat .owner true ((FileStore.mk "s").objectPath zeros) =
      .ok (objectPlace [.text "s"] zeros, .file bytes 0 Entry.fileMode) := by
  have held : torn.get? (objectPlace [.text "s"] zeros) =
      some (.file ⟨#[67, 65, 83, 49]⟩ 0 Entry.fileMode) := rfl
  have kept : torn.Keeps (filed bytes) := by
    refine FileTree.Keeps.changed (FileTree.changed_insert torn (by simp [objectPlace]) _) ?_
    intro old standing
    cases held.symm.trans standing
    rfl
  exact (torn_slot.keeps kept).stat_of_some rfl fun _ => nofun

/-- Whoever reads the letter is told of the damage. -/
theorem alterations_noticed_in_letter :
    (⟨#[97]⟩ : ByteArray).size ≤ 2 ^ 32 - 17 ∧ Record.Timely 1000000 ∧
      Record.encode 1000000 ⟨#[97]⟩ = .ok letterRecord ∧
      Record.decode letterRecord = .ok (1000000, ⟨#[97]⟩) ∧
      Record.Altered letterRecord struckRecord ∧
      ∃ reason, ((FileStore.mk "s").readAddress .owner 0 .standard zeros (filed struckRecord)).1 =
        .error (.integrityViolation zeros (.corrupt reason)) := by
  have short : (⟨#[97]⟩ : ByteArray).size ≤ 2 ^ 32 - 17 := by decide
  have timely : Record.Timely 1000000 := ⟨by decide, by decide⟩
  have known : Record.encode 1000000 ⟨#[97]⟩ = .ok letterRecord := by decide +kernel
  obtain ⟨record, encoded, read, refused⟩ := alterations_noticed 1000000 short
  obtain rfl := Except.ok.inj (known.symm.trans encoded)
  have held := filed_stat struckRecord
  obtain ⟨reason, -, told⟩ := refused _ altered_struckRecord zeros
  exact ⟨short, timely, known, read timely, altered_struckRecord, reason,
    told ⟨"s"⟩ .owner _ (.inr ⟨_, _, _, _, held, rfl⟩) (file?_of_stat held) 0 .standard⟩

end FileStore

end ContentNode
