namespace QueryPack.Digest

/-!
# The BLAKE3 hash function

BLAKE3 without a key, with its default output of 32 bytes. The input is cut
into chunks of 1024 bytes and these into blocks of 64 bytes; a binary tree over
the chunks is reduced to one node, and that node gives the hash.
-/

/-- Eight words: a chaining value. -/
abbrev ChainingValue := Vector UInt32 8

/-- Sixteen words: a block of input or the state of a compression. -/
abbrev Block := Vector UInt32 16

/-- The starting chaining value. -/
def initialValue : ChainingValue :=
  #v[0x6A09E667, 0xBB67AE85, 0x3C6EF372, 0xA54FF53A,
     0x510E527F, 0x9B05688C, 0x1F83D9AB, 0x5BE0CD19]

def chunkStart : UInt32 := 1

def chunkEnd : UInt32 := 2

/-- Set on a node that joins two others. -/
def joint : UInt32 := 4

/-- Set on the node that gives the hash. -/
def root : UInt32 := 8

def rotateRight (word amount : UInt32) : UInt32 :=
  (word >>> amount) ||| (word <<< (32 - amount))

def mix (state : Block) (a b c d : Fin 16) (first second : UInt32) : Block :=
  let state := state.set a (state[a] + state[b] + first)
  let state := state.set d (rotateRight (state[d] ^^^ state[a]) 16)
  let state := state.set c (state[c] + state[d])
  let state := state.set b (rotateRight (state[b] ^^^ state[c]) 12)
  let state := state.set a (state[a] + state[b] + second)
  let state := state.set d (rotateRight (state[d] ^^^ state[a]) 8)
  let state := state.set c (state[c] + state[d])
  state.set b (rotateRight (state[b] ^^^ state[c]) 7)

/-- Mix the columns of the state, then its diagonals. -/
def mixAll (state block : Block) : Block :=
  let state := mix state 0 4 8 12 block[0] block[1]
  let state := mix state 1 5 9 13 block[2] block[3]
  let state := mix state 2 6 10 14 block[4] block[5]
  let state := mix state 3 7 11 15 block[6] block[7]
  let state := mix state 0 5 10 15 block[8] block[9]
  let state := mix state 1 6 11 12 block[10] block[11]
  let state := mix state 2 7 8 13 block[12] block[13]
  mix state 3 4 9 14 block[14] block[15]

/-- The order in which the next round takes the words of the block. -/
def permute (block : Block) : Block :=
  #v[block[2], block[6], block[3], block[10], block[7], block[0], block[4], block[13],
     block[1], block[11], block[12], block[5], block[9], block[14], block[15], block[8]]

def mixRounds : Nat → Block → Block → Block
  | 0, state, _ => state
  | rounds + 1, state, block => mixRounds rounds (mixAll state block) (permute block)

/-- The input of one compression. -/
structure Node where
  chaining : ChainingValue
  block : Block
  counter : UInt64
  blockBytes : UInt32
  flags : UInt32

namespace Node

def compress (node : Node) : ChainingValue :=
  let chaining := node.chaining
  let state : Block :=
    #v[chaining[0], chaining[1], chaining[2], chaining[3],
       chaining[4], chaining[5], chaining[6], chaining[7],
       initialValue[0], initialValue[1], initialValue[2], initialValue[3],
       node.counter.toUInt32, (node.counter >>> 32).toUInt32,
       node.blockBytes, node.flags]
  let mixed := mixRounds 7 state node.block
  #v[mixed[0] ^^^ mixed[8], mixed[1] ^^^ mixed[9], mixed[2] ^^^ mixed[10],
     mixed[3] ^^^ mixed[11], mixed[4] ^^^ mixed[12], mixed[5] ^^^ mixed[13],
     mixed[6] ^^^ mixed[14], mixed[7] ^^^ mixed[15]]

/-- The node that joins the values of two subtrees. -/
def join (left right : ChainingValue) : Node where
  chaining := initialValue
  block := left ++ right
  counter := 0
  blockBytes := 64
  flags := joint

/-- The compression of the last node of a tree. -/
def finish (node : Node) : ChainingValue :=
  compress { node with counter := 0, flags := node.flags ||| root }

end Node

/-- Cut a list into pieces of a positive size; only the last may be shorter. -/
def pieces (size : Nat) (sizePositive : 0 < size) (bytes : List UInt8) :
    List (List UInt8) :=
  match _rest : bytes.drop size with
  | [] => [bytes]
  | _ :: _ => bytes.take size :: pieces size sizePositive (bytes.drop size)
  termination_by bytes.length
  decreasing_by
    have isLonger : 0 < (bytes.drop size).length := by simp [_rest]
    simp only [List.length_drop] at isLonger ⊢
    omega

/-- The word with the given bytes, lowest first. -/
def wordOfBytes (bytes : List UInt8) : UInt32 :=
  bytes.foldr (fun byte word => byte.toUInt32 ||| (word <<< 8)) 0

/-- The words of a block of up to 64 bytes; missing bytes are zero. -/
def blockOfBytes (bytes : List UInt8) : Block :=
  Vector.ofFn fun index => wordOfBytes ((bytes.drop (4 * index.val)).take 4)

/-- The node at the end of a chunk, from its blocks. -/
def chunkNode (counter : UInt64) : ChainingValue → UInt32 → List (List UInt8) → Node
  | chaining, flags, [] =>
      ⟨chaining, blockOfBytes [], counter, 0, flags ||| chunkEnd⟩
  | chaining, flags, [last] =>
      ⟨chaining, blockOfBytes last, counter, last.length.toUInt32, flags ||| chunkEnd⟩
  | chaining, flags, bytes :: rest =>
      chunkNode counter
        (Node.compress ⟨chaining, blockOfBytes bytes, counter, 64, flags⟩) 0 rest

/-- The number of chunks in the left part of a tree: the largest power of two below. -/
def leftChunks (chunks : Nat) : Nat :=
  Nat.pow 2 (chunks - 1).log2

theorem leftChunks_lt {chunks : Nat} (several : 2 ≤ chunks) :
    leftChunks chunks < chunks := by
  have bound : Nat.pow 2 (chunks - 1).log2 ≤ chunks - 1 :=
    Nat.log2_self_le (by omega)
  unfold leftChunks
  omega

theorem leftChunks_pos (chunks : Nat) : 0 < leftChunks chunks :=
  Nat.pow_pos (by decide)

/-- The node at the top of the tree over chunks, numbered from `counter`. -/
def treeNode (counter : Nat) (chunks : List (List UInt8)) : Node :=
  if _several : 2 ≤ chunks.length then
    Node.join
      (treeNode counter (chunks.take (leftChunks chunks.length))).compress
      (treeNode (counter + leftChunks chunks.length)
        (chunks.drop (leftChunks chunks.length))).compress
  else
    chunkNode counter.toUInt64 initialValue chunkStart
      (pieces 64 (by decide) chunks.flatten)
  termination_by chunks.length
  decreasing_by
  · have := leftChunks_lt _several
    simp only [List.length_take]
    omega
  · have := leftChunks_pos chunks.length
    simp only [List.length_drop]
    omega

def bytesOfWord (word : UInt32) : List UInt8 :=
  [word.toUInt8, (word >>> 8).toUInt8, (word >>> 16).toUInt8, (word >>> 24).toUInt8]

def hash (bytes : List UInt8) : List UInt8 :=
  (treeNode 0 (pieces 1024 (by decide) bytes)).finish.toList.flatMap bytesOfWord

end QueryPack.Digest
