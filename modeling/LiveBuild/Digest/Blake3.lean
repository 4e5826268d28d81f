/-!
# BLAKE3

Bytes are cut into chunks of 1024, chunks into blocks of 64. Every block is mixed into a chaining
value; the values of two subtrees are mixed as the one block of their parent, where the left subtree
holds the largest power of two of chunks that leaves something to the right.
-/

namespace LiveBuild.Blake3

abbrev Words := Vector UInt32 8
abbrev Block := Vector UInt32 16

def iv : Words :=
  #v[0x6A09E667, 0xBB67AE85, 0x3C6EF372, 0xA54FF53A, 0x510E527F, 0x9B05688C, 0x1F83D9AB, 0x5BE0CD19]

def chunkStart : UInt32 := 1
def chunkEnd : UInt32 := 2
def parent : UInt32 := 4
def root : UInt32 := 8

def rotateRight (x : UInt32) (n : UInt32) : UInt32 := (x >>> n) ||| (x <<< (32 - n))

def quarter (s : Block) (a b c d : Fin 16) (x y : UInt32) : Block :=
  let s := s.set a (s[a] + s[b] + x)
  let s := s.set d (rotateRight (s[d] ^^^ s[a]) 16)
  let s := s.set c (s[c] + s[d])
  let s := s.set b (rotateRight (s[b] ^^^ s[c]) 12)
  let s := s.set a (s[a] + s[b] + y)
  let s := s.set d (rotateRight (s[d] ^^^ s[a]) 8)
  let s := s.set c (s[c] + s[d])
  s.set b (rotateRight (s[b] ^^^ s[c]) 7)

def round (s m : Block) : Block :=
  let s := quarter s 0 4 8 12 m[0] m[1]
  let s := quarter s 1 5 9 13 m[2] m[3]
  let s := quarter s 2 6 10 14 m[4] m[5]
  let s := quarter s 3 7 11 15 m[6] m[7]
  let s := quarter s 0 5 10 15 m[8] m[9]
  let s := quarter s 1 6 11 12 m[10] m[11]
  let s := quarter s 2 7 8 13 m[12] m[13]
  quarter s 3 4 9 14 m[14] m[15]

def permute (m : Block) : Block :=
  #v[m[2], m[6], m[3], m[10], m[7], m[0], m[4], m[13],
    m[1], m[11], m[12], m[5], m[9], m[14], m[15], m[8]]

/-- Everything that is mixed into the value of one node of the tree. -/
structure Node where
  chaining : Words
  block : Block
  counter : Nat
  length : Nat
  flags : UInt32

def rounds : Nat → Block → Block → Block
  | 0, s, _ => s
  | n + 1, s, m => rounds n (round s m) (permute m)

def Node.compress (node : Node) (extra : UInt32) : Words :=
  let h := node.chaining
  let s : Block :=
    #v[h[0], h[1], h[2], h[3], h[4], h[5], h[6], h[7], iv[0], iv[1], iv[2], iv[3],
      node.counter.toUInt32, (node.counter / UInt32.size).toUInt32, node.length.toUInt32,
      node.flags ||| extra]
  let s := rounds 7 s node.block
  #v[s[0] ^^^ s[8], s[1] ^^^ s[9], s[2] ^^^ s[10], s[3] ^^^ s[11], s[4] ^^^ s[12], s[5] ^^^ s[13],
    s[6] ^^^ s[14], s[7] ^^^ s[15]]

/-- The word that begins at a byte, the low byte first; bytes past the end are zero. -/
def wordAt (bytes : List UInt8) (i : Nat) : UInt32 :=
  let byte (k : Nat) : UInt32 := (bytes[4 * i + k]?.getD 0).toUInt32
  byte 0 ||| (byte 1 <<< 8) ||| (byte 2 <<< 16) ||| (byte 3 <<< 24)

def blockOf (bytes : List UInt8) : Block := Vector.ofFn fun i => wordAt bytes i

/-- The last node of a chunk, from the chaining value of the blocks before. -/
def chunkNode (counter : Nat) (chaining : Words) (start : UInt32) (bytes : List UInt8) : Node :=
  let block := blockOf (bytes.take 64)
  if 64 < bytes.length then
    chunkNode counter (Node.compress ⟨chaining, block, counter, 64, start⟩ 0) 0 (bytes.drop 64)
  else
    ⟨chaining, block, counter, bytes.length, start ||| chunkEnd⟩
termination_by bytes.length
decreasing_by simp; omega

/-- How many of `n` bytes the left subtree holds. -/
def leftLength (n : Nat) : Nat := 1024 * Nat.pow 2 (Nat.log2 ((n - 1) / 1024))

theorem leftLength_bounds {n : Nat} (h : 1024 < n) : 0 < leftLength n ∧ leftLength n < n := by
  have hpos : (n - 1) / 1024 ≠ 0 := by omega
  have hle : Nat.pow 2 (Nat.log2 ((n - 1) / 1024)) ≤ (n - 1) / 1024 := Nat.log2_self_le hpos
  have htwo : 0 < Nat.pow 2 (Nat.log2 ((n - 1) / 1024)) := Nat.two_pow_pos _
  unfold leftLength
  omega

def joinWords (left right : Words) : Block := left ++ right

/-- The top node over some bytes whose first chunk has the given number. -/
def treeNode (counter : Nat) (bytes : List UInt8) : Node :=
  if h : 1024 < bytes.length then
    let size := leftLength bytes.length
    have := leftLength_bounds h
    let left := treeNode counter (bytes.take size)
    let right := treeNode (counter + size / 1024) (bytes.drop size)
    ⟨iv, joinWords (left.compress 0) (right.compress 0), 0, 64, parent⟩
  else
    chunkNode counter iv chunkStart bytes
termination_by bytes.length
decreasing_by all_goals simp only [List.length_take, List.length_drop]; omega

def byteDigits (b : UInt8) : List Char :=
  [Nat.digitChar (b.toNat / 16), Nat.digitChar (b.toNat % 16)]

def wordDigits (w : UInt32) : List Char :=
  [w, w >>> 8, w >>> 16, w >>> 24].flatMap fun part => byteDigits part.toUInt8

def hex (bytes : List UInt8) : String :=
  String.ofList (((treeNode 0 bytes).compress root).toList.flatMap wordDigits)

end LiveBuild.Blake3
