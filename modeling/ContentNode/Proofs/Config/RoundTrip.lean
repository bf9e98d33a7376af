import ContentNode.Config.Toml
import ContentNode.Proofs.Config.SocketAddress
import ContentNode.Proofs.Schema.Members
import ContentNode.Proofs.Toml.Lines
import ContentNode.Proofs.Toml.Ranges

/-!
# Configurations and their documents

A configuration that was read from a document can be written as one, and what was written is
read as the same configuration.
-/

namespace ContentNode.Config

open Schema Toml

variable {config : Config} {text : String} {entries : Entries}

/-! ### Numbers -/

/-- The numbers of a configuration can be written. -/
structure Writable (config : Config) : Prop where
  payload : config.maxPayloadSize ≤ Printer.maxInteger
  request : config.maxRequestBytes ≤ Printer.maxInteger
  timeout : config.requestTimeoutMs ≤ Printer.maxInteger

theorem writable_standard : Writable standard := ⟨by decide, by decide, by decide⟩

/-- A natural number that is read from an integer in range can be written. -/
theorem le_of_unsigned {typeName : String} {span : Span} {v : Value} {n : Nat}
    (inRange : v.InRange)
    (read : FromEntries.leaf span (.scalar (.unsigned typeName)) v = .ok n) :
    n ≤ Printer.maxInteger := by
  cases v with
  | integer i =>
    have bound : i ≤ (Printer.maxInteger : Nat) := inRange
    simp only [FromEntries.leaf, FromEntries.found, Scalar.read, Scalar.unsigned,
      Schema.Scalar.integer, Option.map_some] at read
    split at read
    next =>
      obtain rfl : i.toNat = n := Except.ok.inj read
      omega
    next => contradiction
  | text | double | bool | moment | array | table | tables => contradiction

/-- A configuration of a document can be written. -/
theorem writable_of_read {s : List Char} (read : Toml.read shape s = .ok config) :
    Writable config := by
  obtain ⟨entries, parsed, taken⟩ := bind_eq_ok_iff.mp read
  have inRange : Gives Entries.InRange ((Parser.parse s).mapError Refusal.malformed) :=
    (inRange_parse s).mapError _
  refine Record.holds_of_ofMembers writable_standard ?_ taken
  intro field known member inside value config readable writable
  obtain ⟨entry, held, rfl⟩ := List.mem_map.mp inside
  have small : entry.2.2.InRange := inRange entries parsed entry held
  simp only [shape, List.mem_cons, List.not_mem_nil, or_false] at known
  rcases known with rfl | rfl | rfl | rfl | rfl | rfl | rfl
  · exact ⟨writable.payload, writable.request, writable.timeout⟩
  · exact ⟨writable.payload, writable.request, writable.timeout⟩
  · exact ⟨writable.payload, writable.request, writable.timeout⟩
  · exact ⟨le_of_unsigned small readable, writable.request, writable.timeout⟩
  · exact ⟨writable.payload, le_of_unsigned small readable, writable.timeout⟩
  · exact ⟨writable.payload, writable.request, le_of_unsigned small readable⟩
  · exact ⟨writable.payload, writable.request, writable.timeout⟩

/-! ### Lines -/

/-- A line with a string. -/
def textLine (name value : String) : Line :=
  ⟨name, Printer.string value.toList, .text value⟩

/-- A line with a natural number. -/
def numberLine (name : String) (n : Nat) : Line := ⟨name, Nat.toDigits 10 n, .integer n⟩

/-- The lines of a configuration. -/
def lines (config : Config) : List Line :=
  [textLine "bind_addr" config.bindAddress.toText] ++
    (config.dataDir.map (textLine "data_dir")).toList ++
    [textLine "hash_algorithm" config.algorithm.name,
     numberLine "max_payload_size" config.maxPayloadSize,
     numberLine "max_request_bytes" config.maxRequestBytes,
     numberLine "request_timeout_ms" config.requestTimeoutMs,
     textLine "log_level" config.logLevel]

theorem natural?_of_le {n : Nat} (small : n ≤ Printer.maxInteger) :
    Printer.natural? n = some (Nat.toDigits 10 n) := if_pos small

/-- A configuration is written line by line. -/
theorem tomlChars?_eq (writable : Writable config) :
    config.tomlChars? = some (config.lines.flatMap Line.write) := by
  rw [tomlChars?, natural?_of_le writable.payload, natural?_of_le writable.request,
    natural?_of_le writable.timeout]
  cases dir : config.dataDir <;>
    simp [lines, dir, Line.write, textLine, numberLine, List.append_assoc]

theorem sound_textLine {name : String} (bare : Bare name) (value : String) :
    (textLine name value).Sound where
  bare := bare
  back := by
    have back := readsBack_string value.toList
    rwa [String.ofList_toList] at back

theorem sound_numberLine {name : String} (bare : Bare name) {n : Nat}
    (small : n ≤ Printer.maxInteger) : (numberLine name n).Sound where
  bare := bare
  back := readsBack_natural small

theorem bare_of_all {name : String} (nonempty : name.toList ≠ [])
    (all : name.toList.all Printer.isBare = true) : Bare name :=
  ⟨nonempty, List.all_eq_true.mp all⟩

theorem sound_lines (writable : Writable config) : ∀ line ∈ config.lines, line.Sound := by
  intro line member
  simp only [lines, List.mem_append, List.mem_cons, List.not_mem_nil, or_false,
    Option.mem_toList, Option.map_eq_some_iff] at member
  rcases member with (rfl | ⟨dir, -, rfl⟩) | rfl | rfl | rfl | rfl | rfl
  · exact sound_textLine (bare_of_all (by decide) (by decide)) _
  · exact sound_textLine (bare_of_all (by decide) (by decide)) _
  · exact sound_textLine (bare_of_all (by decide) (by decide)) _
  · exact sound_numberLine (bare_of_all (by decide) (by decide)) writable.payload
  · exact sound_numberLine (bare_of_all (by decide) (by decide)) writable.request
  · exact sound_numberLine (bare_of_all (by decide) (by decide)) writable.timeout
  · exact sound_textLine (bare_of_all (by decide) (by decide)) _

theorem nodup_lines (config : Config) : (config.lines.map Line.name).Nodup := by
  cases dir : config.dataDir <;> simp [lines, dir, textLine, numberLine]

/-! ### Settings -/

/-- Entries with some names and values make a configuration of a partial one, whatever their
places. -/
def Takes (partly : Record.Partial Config) (members : List (String × Value)) (config : Config) :
    Prop :=
  ∀ entries : Entries, contents entries = members → ∃ given,
    (entries.map fun (key, span, v) => (key.name, span, v)).foldlM
      (shape.takeMember (fun e => Refusal.unfit e ⟨0, 0⟩)
        fun _ shape (span, v) => FromEntries.leaf span shape v) partly = .ok ⟨config, given⟩

theorem takes_nil (partly : Record.Partial Config) : Takes partly [] partly.value := by
  intro entries same
  obtain rfl := List.map_eq_nil_iff.mp same
  exact ⟨partly.given, rfl⟩

/-- One more setting. -/
theorem Takes.cons {field : Field Leaf Config} {name : String} {v : Value} {value : field.type}
    {partly : Record.Partial Config} {members : List (String × Value)}
    (found : shape.field? name = some field) (fresh : field.name ∉ partly.given)
    (reads : ∀ span, FromEntries.leaf span field.shape v = .ok value)
    (rest : Takes ⟨field.set value partly.value, field.name :: partly.given⟩ members config) :
    Takes partly ((name, v) :: members) config := by
  intro entries same
  obtain ⟨⟨key, span, v'⟩, others, rfl, first, more⟩ := List.map_eq_cons_iff.mp same
  obtain ⟨rfl, rfl⟩ := Prod.mk.inj first
  dsimp only at found reads
  rw [List.map_cons, List.foldlM_cons, Record.takeMember_of_field found fresh]
  dsimp only
  rw [reads]
  exact rest others more

theorem reads_number {typeName : String} {n : Nat} (small : n ≤ Printer.maxInteger) (span : Span) :
    FromEntries.leaf span (.scalar (.unsigned typeName)) (.integer n) = .ok n := by
  have range : (0 : Int) ≤ n ∧ (n : Int) ≤ 0xFFFFFFFFFFFFFFFF := by
    rw [Printer.maxInteger] at small
    omega
  simp only [FromEntries.leaf, FromEntries.found, Scalar.read, Scalar.unsigned,
    Schema.Scalar.integer, Option.map_some, if_pos range]
  rfl

theorem reads_address (address : SocketAddress) (span : Span) :
    FromEntries.leaf span (.scalar (.parsed "socket address" SocketAddress.parse))
      (.text address.toText) = .ok address := by
  simp only [FromEntries.leaf, FromEntries.found, Scalar.read, Scalar.parsed,
    SocketAddress.parse_toText]
  rfl

theorem reads_algorithm (algorithm : HashAlgorithm) (span : Span) :
    FromEntries.leaf span HashAlgorithm.shape (.text algorithm.name) = .ok algorithm := by
  cases algorithm <;> rfl

/-- The settings of its lines make a configuration. -/
theorem takes_lines (writable : Writable config) :
    Takes ⟨standard, []⟩ (config.lines.map fun line => (line.name, line.value)) config := by
  obtain ⟨address, dir, algorithm, payload, request, timeout, level⟩ := config
  obtain ⟨smallPayload, smallRequest, smallTimeout⟩ := writable
  -- The lines after those of the address and the directory, of which the second may be missing.
  have later (given : List String) (known : given ⊆ ["data_dir", "bind_addr"]) :
      Takes ⟨{ standard with bindAddress := address, dataDir := dir }, given⟩
        [("hash_algorithm", .text algorithm.name), ("max_payload_size", .integer payload),
          ("max_request_bytes", .integer request), ("request_timeout_ms", .integer timeout),
          ("log_level", .text level)]
        ⟨address, dir, algorithm, payload, request, timeout, level⟩ := by
    have fresh {name : String} (foreign : name ∉ ["data_dir", "bind_addr"]) : name ∉ given :=
      fun member => foreign (known member)
    refine .cons rfl (by simp [fresh]) (reads_algorithm algorithm) ?_
    refine .cons rfl (by simp [fresh]) (reads_number smallPayload) ?_
    refine .cons rfl (by simp [fresh]) (reads_number smallRequest) ?_
    refine .cons rfl (by simp [fresh]) (reads_number smallTimeout) ?_
    exact .cons rfl (by simp [fresh]) (fun _ => rfl) (takes_nil _)
  cases dir with
  | none => exact .cons rfl (by simp) (reads_address address) (later ["bind_addr"] (by simp))
  | some dir =>
    refine .cons rfl (by simp) (reads_address address) ?_
    exact .cons rfl (by simp) (fun _ => rfl) (later ["data_dir", "bind_addr"] (by simp))

/-! ### Documents -/

/-- What was written from a configuration with small numbers is read as it. -/
theorem read_lines (writable : Writable config) :
    Toml.read shape (config.lines.flatMap Line.write) = .ok config := by
  obtain ⟨entries, parsed, same⟩ :=
    parse_lines config.lines (sound_lines writable) (nodup_lines config)
  obtain ⟨given, taken⟩ := takes_lines writable entries same
  have made : FromEntries.record shape entries = .ok config := by
    rw [FromEntries.record, Record.ofMembers, show shape.blank = standard from rfl, taken]
    rfl
  rw [Toml.read, parsed]
  exact made

/-- The document of a valid configuration is read as the same configuration. -/
theorem ofToml_lines (valid : config.problem? = none) (writable : Writable config) :
    ofToml (String.ofList (config.lines.flatMap Line.write)) = .ok config := by
  rw [ofToml, String.toList_ofList, read_lines writable]
  simp only [validate, valid]

/-- A configuration that a document gives is written as a document that gives it again,
whatever address, directory, algorithm, sizes and time it has. -/
theorem toToml_ofToml (accepted : ofToml text = .ok config) :
    ∃ written, config.toToml = .ok written ∧ ofToml written = .ok config := by
  unfold ofToml at accepted
  dsimp only at accepted
  split at accepted
  next found read =>
    unfold validate at accepted
    split at accepted
    · contradiction
    next valid =>
      obtain rfl := Except.ok.inj accepted
      have writable := writable_of_read read
      exact ⟨_, by rw [toToml, tomlChars?_eq writable], ofToml_lines valid writable⟩
  next => contradiction

/-- A document with settings that are not written as they stand: groups of the address are left
out, and the directory has quotes, a backslash, line breaks and a control character. -/
def unusualText : String :=
  "bind_addr = '[fe80:0:0:0:1:0:0:C0DE%4294967295]:443'\n" ++
  "data_dir = \"a\\\"\\\"\\\"'''\\u0007\\r\\n\\\\é\"\n" ++
  "max_payload_size = 0x7fff_ffff # bytes\n" ++
  "max_request_bytes = 9223372036854775807\n" ++
  "log_level = 'warn'"

/-- Its configuration. -/
def unusual : Config where
  bindAddress := .v6 ⟨#v[0xfe80, 0, 0, 0, 1, 0, 0, 0xc0de]⟩ 0xffffffff 443
  dataDir := some "a\"\"\"'''\x07\r\n\\é"
  algorithm := .sha3
  maxPayloadSize := 0x7fffffff
  maxRequestBytes := 0x7fffffffffffffff
  requestTimeoutMs := 30000
  logLevel := "warn"

theorem ofToml_unusualText : ofToml unusualText = .ok unusual := by
  have read : (ofToml unusualText).toOption = some unusual := by decide +kernel
  cases accepted : ofToml unusualText with
  | error e =>
    rw [accepted] at read
    contradiction
  | ok config =>
    rw [accepted] at read
    rw [Option.some.inj read]

theorem toToml_ofToml_unusual :
    ofToml unusualText = .ok unusual ∧
      ∃ written, unusual.toToml = .ok written ∧ ofToml written = .ok unusual :=
  ⟨ofToml_unusualText, toToml_ofToml ofToml_unusualText⟩

end ContentNode.Config
