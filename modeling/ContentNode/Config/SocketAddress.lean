/-!
# Socket addresses

A network address with a port, as text.  The groups of a version 6 address are
written in hexadecimal, and the longest run of two or more zero groups, the
first of equally long ones, is left out.  Reading also accepts leading zeros in
groups and ports, other choices of the groups left out, and a version 4 address
for the last two groups.
-/

namespace ContentNode

/-- A version 4 network address. -/
structure Ipv4 where
  a : UInt8
  b : UInt8
  c : UInt8
  d : UInt8
deriving DecidableEq

/-- A version 6 network address. -/
structure Ipv6 where
  groups : Vector UInt16 8
deriving DecidableEq

/-- A network address with a port. -/
inductive SocketAddress where
  | v4 (ip : Ipv4) (port : UInt16)
  | v6 (ip : Ipv6) (scope : UInt32) (port : UInt16)
deriving DecidableEq

namespace SocketAddress

/-! ### Writing -/

/-- A number in decimal digits. -/
def decimal (n : Nat) : List Char := Nat.toDigits 10 n

/-- A group in hexadecimal digits. -/
def group (g : UInt16) : List Char := Nat.toDigits 16 g.toNat

/-- A version 4 address. -/
def writeIpv4 (ip : Ipv4) : List Char :=
  decimal ip.a.toNat ++ '.' :: decimal ip.b.toNat ++ '.' :: decimal ip.c.toNat ++
    '.' :: decimal ip.d.toNat

/-- Groups separated by colons. -/
def writeGroups : List UInt16 → List Char
  | [] => []
  | [g] => group g
  | g :: rest => group g ++ ':' :: writeGroups rest

/-- The length of the run of zeros at the front of a list. -/
def leadingZeros (gs : List UInt16) : Nat := (gs.takeWhile (· == 0)).length

/-- The longest run of zeros in a list, the first of equally long ones, by its
position and its length. -/
def longestZeros : List UInt16 → Nat × Nat
  | [] => (0, 0)
  | g :: rest =>
    let here := leadingZeros (g :: rest)
    let (start, length) := longestZeros rest
    if length ≤ here then (0, here) else (start + 1, length)

/-- The groups of a version 6 address. -/
def writeIpv6Groups (gs : List UInt16) : List Char :=
  let (start, length) := longestZeros gs
  if 1 < length then
    writeGroups (gs.take start) ++ [':', ':'] ++ writeGroups (gs.drop (start + length))
  else writeGroups gs

/-- A version 6 address.  One that stands for a version 4 address is written
with that. -/
def writeIpv6 (ip : Ipv6) : List Char :=
  match ip.groups.toList with
  | [0, 0, 0, 0, 0, 0xffff, high, low] =>
    [':', ':', 'f', 'f', 'f', 'f', ':'] ++
      writeIpv4 ⟨(high >>> 8).toUInt8, high.toUInt8, (low >>> 8).toUInt8, low.toUInt8⟩
  | gs => writeIpv6Groups gs

/-- The characters of an address. -/
def write : SocketAddress → List Char
  | v4 ip port => writeIpv4 ip ++ ':' :: decimal port.toNat
  | v6 ip scope port =>
    '[' :: writeIpv6 ip ++ (if scope = 0 then [] else '%' :: decimal scope.toNat) ++
      ']' :: ':' :: decimal port.toNat

/-- The text of an address. -/
def toText (address : SocketAddress) : String := String.ofList address.write

/-! ### Reading -/

/-- The value of a digit of either case. -/
def digit? (radix : Nat) (c : Char) : Option Nat :=
  let value? : Option Nat :=
    if '0' ≤ c ∧ c ≤ '9' then some (c.toNat - 48)
    else if 'a' ≤ c ∧ c ≤ 'f' then some (c.toNat - 87)
    else if 'A' ≤ c ∧ c ≤ 'F' then some (c.toNat - 55)
    else none
  value?.filter (· < radix)

/-- The value of digits, most significant first. -/
def digitsValue (radix : Nat) (digits : List Char) : Nat :=
  digits.foldl (fun n c => n * radix + (digit? radix c).getD 0) 0

/-- A number of at least one digit.  `accept` tells whether it may have these
digits and this value. -/
def number (radix : Nat) (accept : List Char → Nat → Bool) (s : List Char) :
    Option (Nat × List Char) :=
  let digits := s.takeWhile fun c => (digit? radix c).isSome
  let value := digitsValue radix digits
  if digits ≠ [] ∧ accept digits value then some (value, s.dropWhile fun c => (digit? radix c).isSome)
  else none

/-- A number up to 255 of at most three digits, without leading zeros. -/
def octet (s : List Char) : Option (UInt8 × List Char) :=
  (number 10 (fun digits value =>
    digits.length ≤ 3 && (digits.length == 1 || digits.head? != some '0') && value < UInt8.size) s).map
    fun (n, rest) => (UInt8.ofNat n, rest)

/-- A hexadecimal number of at most four digits. -/
def readGroup (s : List Char) : Option (UInt16 × List Char) :=
  (number 16 (fun digits _ => digits.length ≤ 4) s).map fun (n, rest) => (UInt16.ofNat n, rest)

/-- The rest after a character. -/
def expect (c : Char) : List Char → Option (List Char)
  | [] => none
  | d :: rest => if c = d then some rest else none

/-- A version 4 address. -/
def readIpv4 (s : List Char) : Option (Ipv4 × List Char) := do
  let (a, s) ← octet s
  let (b, s) ← octet (← expect '.' s)
  let (c, s) ← octet (← expect '.' s)
  let (d, s) ← octet (← expect '.' s)
  return (⟨a, b, c, d⟩, s)

/-- The two groups of a version 4 address. -/
def groupsOf (ip : Ipv4) : List UInt16 :=
  [ip.a.toUInt16 * 256 + ip.b.toUInt16, ip.c.toUInt16 * 256 + ip.d.toUInt16]

/-- The rest at the next group, after a colon unless it is the first. -/
def separator (first : Bool) (s : List Char) : Option (List Char) :=
  if first then some s else expect ':' s

/-- At most `limit` groups separated by colons, whether a version 4 address
ended them, and the rest. -/
def readGroups : Nat → Bool → List Char → List UInt16 × Bool × List Char
  | 0, _, s => ([], false, s)
  | limit + 1, first, s =>
    match separator first s with
    | none => ([], false, s)
    | some inner =>
      match if limit = 0 then none else readIpv4 inner with
      | some (ip, rest) => (groupsOf ip, true, rest)
      | none =>
        match readGroup inner with
        | none => ([], false, s)
        | some (g, rest) =>
          let (gs, endsInIpv4, rest) := readGroups limit false rest
          (g :: gs, endsInIpv4, rest)

/-- The address of eight groups. -/
def ofGroups? (gs : List UInt16) : Option Ipv6 :=
  if h : gs.length = 8 then some ⟨⟨gs.toArray, by simpa using h⟩⟩ else none

/-- A version 6 address. -/
def readIpv6 (s : List Char) : Option (Ipv6 × List Char) := do
  let (head, endsInIpv4, s) := readGroups 8 true s
  if head.length = 8 then return (← ofGroups? head, s)
  else if endsInIpv4 then none
  else
    let s ← expect ':' s
    let s ← expect ':' s
    let (tail, _, s) := readGroups (7 - head.length) true s
    let zeros := List.replicate (8 - head.length - tail.length) 0
    return (← ofGroups? (head ++ zeros ++ tail), s)

/-- A colon and a port. -/
def readPort (s : List Char) : Option (UInt16 × List Char) := do
  let (n, s) ← number 10 (fun _ value => value < UInt16.size) (← expect ':' s)
  return (UInt16.ofNat n, s)

/-- A percent sign and a scope, which is zero if there is none. -/
def readScope (s : List Char) : UInt32 × List Char :=
  let scope? := do number 10 (fun _ value => value < UInt32.size) (← expect '%' s)
  match scope? with
  | some (n, s) => (UInt32.ofNat n, s)
  | none => (0, s)

/-- A version 4 address with a port. -/
def readV4 (s : List Char) : Option (SocketAddress × List Char) := do
  let (ip, s) ← readIpv4 s
  let (port, s) ← readPort s
  return (.v4 ip port, s)

/-- A version 6 address with a port. -/
def readV6 (s : List Char) : Option (SocketAddress × List Char) := do
  let (ip, s) ← readIpv6 (← expect '[' s)
  let (scope, s) := readScope s
  let (port, s) ← readPort (← expect ']' s)
  return (.v6 ip scope port, s)

/-- The address of a text. -/
def ofText? (text : String) : Option SocketAddress :=
  match readV4 text.toList <|> readV6 text.toList with
  | some (address, []) => some address
  | _ => none

/-- The refusal of a text that is no address. -/
def refusal : String := "invalid socket address syntax"

/-- The address of a text, or a refusal. -/
def parse (text : String) : Except String SocketAddress :=
  match ofText? text with
  | some address => .ok address
  | none => .error refusal

end SocketAddress

end ContentNode
