import ContentNode.Digest.Basic

/-!
# BLAKE3

The unkeyed BLAKE3 hash with an output of thirty-two bytes.  The input is cut
into chunks of 1024 bytes and each chunk into blocks of 64 bytes.  Neighbouring
chunks are joined in pairs, then neighbouring pairs, and so on, where a node
without a neighbour moves up unchanged; the last node is the root.
-/

namespace ContentNode.Digest.Blake3

/-- Eight words: the chaining value between blocks and nodes. -/
abbrev Chaining := Vector UInt32 8

/-- Sixteen words: a message block, or the state of the compression. -/
abbrev Block := Vector UInt32 16

/-- The chaining value before the first block of a chunk. -/
def initial : Chaining :=
  #v[0x6A09E667, 0xBB67AE85, 0x3C6EF372, 0xA54FF53A,
     0x510E527F, 0x9B05688C, 0x1F83D9AB, 0x5BE0CD19]

/-- The marks that tell apart the uses of the compression. -/
def chunkStart : UInt32 := 1
/-- The mark of a chunk's last block. -/
def chunkEnd : UInt32 := 2
/-- The mark of a node that joins two others. -/
def parent : UInt32 := 4
/-- The mark of the last compression. -/
def root : UInt32 := 8

/-- A word rotated towards its low end by a count from 1 to 31. -/
@[inline]
def rotate (word : UInt32) (count : UInt32) : UInt32 :=
  (word >>> count) ||| (word <<< (32 - count))

/-- The quarter round on the state words `a`, `b`, `c` and `d`, which takes in
two message words. -/
@[inline]
def mix (s : Block) (a b c d : Fin 16) (x y : UInt32) : Block :=
  let wa := s[a] + s[b] + x
  let wd := rotate (s[d] ^^^ wa) 16
  let wc := s[c] + wd
  let wb := rotate (s[b] ^^^ wc) 12
  let wa := wa + wb + y
  let wd := rotate (wd ^^^ wa) 8
  let wc := wc + wd
  let wb := rotate (wb ^^^ wc) 7
  (((s.set a wa).set b wb).set c wc).set d wd

/-- A full round: the columns, then the diagonals. -/
def round (s m : Block) : Block :=
  let s := mix s 0 4 8 12 m[0] m[1]
  let s := mix s 1 5 9 13 m[2] m[3]
  let s := mix s 2 6 10 14 m[4] m[5]
  let s := mix s 3 7 11 15 m[6] m[7]
  let s := mix s 0 5 10 15 m[8] m[9]
  let s := mix s 1 6 11 12 m[10] m[11]
  let s := mix s 2 7 8 13 m[12] m[13]
  mix s 3 4 9 14 m[14] m[15]

/-- The order in which the next round takes the message words. -/
def permute (m : Block) : Block :=
  #v[m[2], m[6], m[3], m[10], m[7], m[0], m[4], m[13],
     m[1], m[11], m[12], m[5], m[9], m[14], m[15], m[8]]

/-- The state after `rounds` rounds. -/
def rounds : Nat → Block → Block → Block
  | 0, s, _ => s
  | n + 1, s, m => rounds n (round s m) (permute m)

/-- A compression that has not been run yet, so that it can still be marked as
the root. -/
structure Node where
  chaining : Chaining
  block : Block
  /-- The index of the chunk, or zero for a node that joins two others. -/
  counter : UInt64
  /-- The number of message bytes in the block. -/
  length : UInt32
  marks : UInt32

/-- The eight output words of a node under additional marks. -/
def Node.compress (node : Node) (marks : UInt32) : Chaining :=
  let h := node.chaining
  let s : Block :=
    #v[h[0], h[1], h[2], h[3], h[4], h[5], h[6], h[7],
       initial[0], initial[1], initial[2], initial[3],
       node.counter.toUInt32, (node.counter >>> 32).toUInt32,
       node.length, node.marks ||| marks]
  let s := rounds 7 s node.block
  Vector.ofFn fun i : Fin 8 => s[i.val] ^^^ s[i.val + 8]

/-- The message words of the 64 bytes from `start` on, with zeros past the end. -/
def blockAt (message : ByteArray) (start : Nat) : Block :=
  let byte (i : Nat) (place : UInt32) : UInt32 :=
    (if h : i < message.size then message[i] else 0).toUInt32 <<< place
  Vector.ofFn fun i : Fin 16 =>
    let at_ := start + 4 * i.val
    byte at_ 0 ||| byte (at_ + 1) 8 ||| byte (at_ + 2) 16 ||| byte (at_ + 3) 24

/-- The last node of chunk `index`, which holds `length` bytes. -/
def chunk (message : ByteArray) (index length : Nat) : Node :=
  let start := 1024 * index
  let last := (length - 1) / 64
  let firstMark (k : Nat) : UInt32 := if k = 0 then chunkStart else 0
  let node (chaining : Chaining) (k : Nat) : Node :=
    { chaining
      block := blockAt message (start + 64 * k)
      counter := UInt64.ofNat index
      length := UInt32.ofNat (min 64 (length - 64 * k))
      marks := firstMark k }
  let chaining := (List.range last).foldl (fun h k => (node h k).compress 0) initial
  { node chaining last with marks := firstMark last ||| chunkEnd }

/-- The node that joins two others. -/
def Node.join (left right : Node) : Node where
  chaining := initial
  block := left.compress 0 ++ right.compress 0
  counter := 0
  length := 64
  marks := parent

/-- One level up: neighbours joined in pairs. -/
def joinPairs : List Node → List Node
  | left :: right :: rest => left.join right :: joinPairs rest
  | nodes => nodes

/-- The root above a node and its right neighbours, `levels` levels up. -/
def rootOf : Nat → Node → List Node → Node
  | 0, node, _ => node
  | _, node, [] => node
  | levels + 1, node, right :: rest => rootOf levels (node.join right) (joinPairs rest)

/-- The BLAKE3 digest of a message. -/
def digest (message : ByteArray) : Digest :=
  let last := (message.size - 1) / 1024
  let chunks := (List.range last).map fun index => chunk message (index + 1)
    (min 1024 (message.size - 1024 * (index + 1)))
  let top := rootOf last (chunk message 0 (min 1024 message.size)) chunks
  let words := top.compress root
  Vector.ofFn fun i : Fin 32 =>
    (words.get ⟨i.val / 4, by omega⟩ >>> UInt32.ofNat (8 * (i.val % 4))).toUInt8

end ContentNode.Digest.Blake3
