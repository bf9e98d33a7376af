import ContentNode.Bytes.Hex
import ContentNode.Digest.Basic
import ContentNode.Text.Quoted

/-!
# Content addresses

An object is named by the digest of its payload.  The text of an address is
`0x` followed by the sixty-four lowercase hexadecimal digits of the digest, and
no other text is an address.
-/

namespace ContentNode

/-- The name of an object: a digest. -/
structure Address where
  bytes : Digest
deriving DecidableEq

namespace Address

/-- Why a text is not an address. -/
inductive ParseError where
  | missingPrefix
  /-- The text has this many bytes. -/
  | invalidLength (found : Nat)
  /-- This character stands at this byte offset in the text. -/
  | invalidCharacter (found : Char) (position : Nat)
deriving DecidableEq

/-- The mark that opens every address. -/
def opening : String := "0x"

/-- The number of bytes in the text of an address. -/
def encodedLength : Nat := opening.utf8ByteSize + 2 * Digest.size

/-- The text of a refusal. -/
def ParseError.message : ParseError → String
  | missingPrefix => s!"missing `{opening}` prefix"
  | invalidLength found => s!"invalid encoded length: expected {encodedLength}, got {found}"
  | invalidCharacter found position =>
    s!"invalid hex character {Text.Quoted.char found} at position {position}"

/-- The digits of an address, without the mark that opens it. -/
def hexDigits (a : Address) : List Char := Bytes.Hex.encode a.bytes.toList

/-- The digits of an address as text. -/
def hex (a : Address) : String := String.ofList a.hexDigits

/-- The text of an address. -/
def encode (a : Address) : String := opening ++ a.hex

/-- The first eight digits, enough to recognize an object in a message. -/
def short (a : Address) : String := String.ofList (a.hexDigits.take 8)

/-- An address as a structure with its abbreviated digits. -/
def debug (a : Address) : String := s!"ContentAddress(0x{a.short})"

/-- The first character that is no lowercase hexadecimal digit, with its byte
offset, where the first character of the list has offset `position`. -/
def firstNonDigit? (position : Nat) : List Char → Option (Char × Nat)
  | [] => none
  | c :: rest =>
    if Bytes.Hex.isDigit c then firstNonDigit? (position + c.utf8Size) rest
    else some (c, position)

/-- The address whose digits are given, if there are as many as a digest has. -/
def ofHexDigits? (digits : List Char) : Option Address := do
  let bytes ← Bytes.Hex.decode? digits
  if h : bytes.length = 32 then some ⟨⟨bytes.toArray, by simpa using h⟩⟩ else none

/-- The address that a text denotes.  The mark that opens it is checked first,
then the length in bytes, then every digit. -/
def parse (s : String) : Except ParseError Address :=
  match s.toList with
  | '0' :: 'x' :: digits =>
    if s.utf8ByteSize ≠ encodedLength then .error (.invalidLength s.utf8ByteSize)
    else match firstNonDigit? opening.utf8ByteSize digits with
      | some (c, position) => .error (.invalidCharacter c position)
      | none =>
        match ofHexDigits? digits with
        | some a => .ok a
        | none => .error (.invalidLength s.utf8ByteSize)
  | _ => .error .missingPrefix

/-- Whether every byte of an address is zero. -/
def isZero (a : Address) : Bool := a.bytes.toList.all (· == 0)

/-- Addresses compare byte by byte. -/
def compare (a b : Address) : Ordering :=
  List.compareLex Ord.compare a.bytes.toList b.bytes.toList

/-- Addresses inserted into a sorted list without repetition. -/
def insertSorted (a : Address) : List Address → List Address
  | [] => [a]
  | b :: rest =>
    match compare a b with
    | .lt => a :: b :: rest
    | .eq => b :: rest
    | .gt => b :: insertSorted a rest

/-- The addresses of a list in order, each once. -/
def sorted (addresses : List Address) : List Address :=
  addresses.foldl (fun sorted a => insertSorted a sorted) []

end Address

end ContentNode
