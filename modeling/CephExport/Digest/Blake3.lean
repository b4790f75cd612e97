/-!
The BLAKE3 hash of a text: 1024-byte chunks of 64-byte blocks are compressed in turn, the chunks
are joined in a binary tree, and the root gives 32 bytes, written as 64 hexadecimal digits.
-/

set_option autoImplicit false
set_option relaxedAutoImplicit false

namespace CephExport.Digest.Blake3

def initial : Array UInt32 :=
  #[0x6A09E667, 0xBB67AE85, 0x3C6EF372, 0xA54FF53A, 0x510E527F, 0x9B05688C, 0x1F83D9AB, 0x5BE0CD19]

/-- The order in which each round takes the words of the message of the one before. -/
def permutation : List Nat := [2, 6, 3, 10, 7, 0, 4, 13, 1, 11, 12, 5, 9, 14, 15, 8]

def chunkStart : UInt32 := 1

def chunkEnd : UInt32 := 2

/-- Marks a node that joins two others. -/
def parentNode : UInt32 := 4

/-- Marks the root of the tree. -/
def rootNode : UInt32 := 8

def rotateRight (word count : UInt32) : UInt32 := (word >>> count) ||| (word <<< (32 - count))

private def word (words : Array UInt32) (i : Nat) : UInt32 := words.getD i 0

def mix (state : Array UInt32) (a b c d : Nat) (x y : UInt32) : Array UInt32 :=
  let va := word state a + word state b + x
  let vd := rotateRight (word state d ^^^ va) 16
  let vc := word state c + vd
  let vb := rotateRight (word state b ^^^ vc) 12
  let va := va + vb + y
  let vd := rotateRight (vd ^^^ va) 8
  let vc := vc + vd
  let vb := rotateRight (vb ^^^ vc) 7
  (((state.setIfInBounds a va).setIfInBounds b vb).setIfInBounds c vc).setIfInBounds d vd

/-- One round: the columns of the state and then its diagonals. -/
def round (state message : Array UInt32) : Array UInt32 :=
  let m := word message
  let state := mix state 0 4 8 12 (m 0) (m 1)
  let state := mix state 1 5 9 13 (m 2) (m 3)
  let state := mix state 2 6 10 14 (m 4) (m 5)
  let state := mix state 3 7 11 15 (m 6) (m 7)
  let state := mix state 0 5 10 15 (m 8) (m 9)
  let state := mix state 1 6 11 12 (m 10) (m 11)
  let state := mix state 2 7 8 13 (m 12) (m 13)
  mix state 3 4 9 14 (m 14) (m 15)

/-- So many rounds, the message being permuted between them. -/
def rounds : Nat → Array UInt32 → Array UInt32 → Array UInt32
  | 0, state, _ => state
  | n + 1, state, message =>
    rounds n (round state message) (permutation.map (word message)).toArray

/-- Compress a block into a chaining value. -/
def compress (chaining message : Array UInt32) (counter : Nat) (length flags : UInt32) :
    Array UInt32 :=
  let state := (chaining.toList.take 8 ++ initial.toList.take 4 ++
    [UInt32.ofNat (counter % 0x100000000), UInt32.ofNat (counter / 0x100000000), length,
      flags]).toArray
  let state := rounds 7 state message
  ((List.range 8).map fun i => word state i ^^^ word state (i + 8)).toArray

/-- The word that four bytes make, the lowest first. -/
def wordOfBytes (bytes : List UInt8) : UInt32 :=
  bytes.foldr (fun byte value => value <<< 8 ||| byte.toUInt32) 0

/-- The sixteen words of a block, filled up with zeros. -/
def blockWords (block : List UInt8) : Array UInt32 :=
  ((List.range 16).map fun i => wordOfBytes ((block.drop (4 * i)).take 4)).toArray

/-- What is left to compress once it is known whether a node is the root. -/
structure Node where
  chaining : Array UInt32
  message : Array UInt32
  counter : Nat
  length : UInt32
  flags : UInt32

namespace Node

def value (node : Node) : Array UInt32 :=
  compress node.chaining node.message node.counter node.length node.flags

/-- The first eight words of the output of the root. -/
def rootValue (node : Node) : Array UInt32 :=
  compress node.chaining node.message 0 node.length (node.flags ||| rootNode)

def join (left right : Node) : Node :=
  ⟨initial, (left.value.toList ++ right.value.toList).toArray, 0, 64, parentNode⟩

end Node

def chunkBlocks (chaining : Array UInt32) (counter : Nat) (flags : UInt32) (blocks : Nat)
    (bytes : List UInt8) : Node :=
  match blocks with
  | 0 => ⟨chaining, blockWords bytes, counter, UInt32.ofNat bytes.length, flags ||| chunkEnd⟩
  | blocks + 1 =>
    if bytes.length ≤ 64 then
      ⟨chaining, blockWords bytes, counter, UInt32.ofNat bytes.length, flags ||| chunkEnd⟩
    else
      chunkBlocks (compress chaining (blockWords (bytes.take 64)) counter 64 flags) counter 0 blocks
        (bytes.drop 64)

def chunk (counter : Nat) (bytes : List UInt8) : Node :=
  chunkBlocks initial counter chunkStart 15 bytes

/-- The tree over the chunks of `bytes`, whose first has the number `counter`: the left part takes
the largest power of two of chunks that leaves some. `height` bounds the depth of the tree. -/
def tree (height counter : Nat) (bytes : List UInt8) : Node :=
  match height with
  | 0 => chunk counter bytes
  | height + 1 =>
    if bytes.length ≤ 1024 then chunk counter bytes
    else
      let left := 1 <<< ((bytes.length - 1) / 1024).log2
      .join (tree height counter (bytes.take (left * 1024)))
        (tree height (counter + left) (bytes.drop (left * 1024)))

def byteDigits (byte : Nat) : List Char := [Nat.digitChar (byte / 16), Nat.digitChar (byte % 16)]

/-- The digits of the four bytes of a word, the lowest first. -/
def wordDigits (w : UInt32) : List Char :=
  let n := w.toNat
  byteDigits (n % 256) ++ byteDigits (n / 256 % 256) ++ byteDigits (n / 65536 % 256) ++
    byteDigits (n / 16777216 % 256)

def hexOfBytes (bytes : List UInt8) : String :=
  String.ofList ((tree bytes.length 0 bytes).rootValue.toList.flatMap wordDigits)

def hex (text : String) : String := hexOfBytes text.toUTF8.toList

end CephExport.Digest.Blake3

namespace CephExport

/-- The first digits of the hash of a text, at most all of them. -/
def shortHash (text : String) (length : Nat) : String :=
  String.ofList ((Digest.Blake3.hex text).toList.take length)

end CephExport
