import ContentNode.Address.Basic
import ContentNode.Digest.Blake3
import ContentNode.Digest.Sha3
import ContentNode.Text.Structure

/-!
# Deriving and reading addresses

A codec names payloads with one of the supported hash functions and reads the
addresses that clients give.  A refused text is kept for the report, cut to its
first eighty characters.
-/

namespace ContentNode

/-- The hash functions that can name objects. -/
inductive HashAlgorithm where
  | sha3
  | blake3
deriving DecidableEq

namespace HashAlgorithm

/-- The algorithm used where none is named. -/
def standard : HashAlgorithm := sha3

/-- The name of an algorithm in configurations and reports. -/
def name : HashAlgorithm → String
  | sha3 => "sha3-256"
  | blake3 => "blake3"

/-- The name of an algorithm in structured dumps. -/
def debug : HashAlgorithm → String
  | sha3 => "Sha3_256"
  | blake3 => "Blake3"

/-- Every algorithm. -/
def all : List HashAlgorithm := [sha3, blake3]

/-- The algorithm of a name. -/
def ofName? (name : String) : Option HashAlgorithm :=
  all.find? fun algorithm => algorithm.name == name

theorem ofName?_name (algorithm : HashAlgorithm) : ofName? algorithm.name = some algorithm := by
  cases algorithm <;> decide

/-- The digest of a message. -/
def digest : HashAlgorithm → ByteArray → Digest
  | sha3 => Digest.Sha3.digest
  | blake3 => Digest.Blake3.digest

end HashAlgorithm

/-- A refused address text. -/
structure MalformedAddress where
  /-- The beginning of the text. -/
  input : String
  reason : Address.ParseError
deriving DecidableEq

namespace MalformedAddress

/-- The number of characters of a refused text that a report keeps. -/
def shownLength : Nat := 80

/-- A text with all but its first eighty characters replaced by three dots. -/
def shorten (s : String) : String :=
  let cs := s.toList
  if cs.length ≤ shownLength then s else String.ofList (cs.take shownLength) ++ "..."

/-- The text of a report. -/
def message (m : MalformedAddress) : String :=
  s!"malformed address {Text.Quoted.string m.input}: {m.reason.message}"

end MalformedAddress

/-- Names payloads and reads addresses. -/
structure AddressCodec where
  algorithm : HashAlgorithm
deriving DecidableEq

namespace AddressCodec

/-- The address of a payload. -/
def derive (codec : AddressCodec) (payload : ByteArray) : Address :=
  ⟨codec.algorithm.digest payload⟩

/-- Whether an address is the one of a payload. -/
def verify (codec : AddressCodec) (payload : ByteArray) (address : Address) : Bool :=
  codec.derive payload == address

/-- The address that a text denotes, or a report on the text. -/
def decode (_codec : AddressCodec) (s : String) : Except MalformedAddress Address :=
  match Address.parse s with
  | .ok a => .ok a
  | .error reason => .error ⟨MalformedAddress.shorten s, reason⟩

/-- A codec as a structure with its algorithm. -/
def debug (codec : AddressCodec) : String :=
  Text.dump "AddressCodec" [("algorithm", codec.algorithm.debug)]

end AddressCodec

end ContentNode
