import Countersign.Crypto.Square

/-!
# BLAKE3

Hashing and key derivation with an output of 32 bytes.  Chunks of 1024 bytes are the leaves of a
binary tree whose left branches are complete; only the root is finished with the root flag.
-/

namespace Countersign.Crypto.Blake3

abbrev Words (n : Nat) := Vector UInt32 n

def initial : Words 8 :=
  #v[0x6a09e667, 0xbb67ae85, 0x3c6ef372, 0xa54ff53a, 0x510e527f, 0x9b05688c, 0x1f83d9ab, 0x5be0cd19]

def chunkStart : UInt32 := 1

def chunkEnd : UInt32 := 2

def parent : UInt32 := 4

def root : UInt32 := 8

def deriveContext : UInt32 := 32

def deriveMaterial : UInt32 := 64

def rotateRight (x : UInt32) (n : UInt32) : UInt32 := x >>> n ||| x <<< (32 - n)

def quarter (m : Square) : Square.Quarter := fun step s a b c d =>
  let s := s.put a (s.get a + s.get b + m.get ⟨2 * step, by omega⟩)
  let s := s.put d (rotateRight (s.get d ^^^ s.get a) 16)
  let s := s.put c (s.get c + s.get d)
  let s := s.put b (rotateRight (s.get b ^^^ s.get c) 12)
  let s := s.put a (s.get a + s.get b + m.get ⟨2 * step + 1, by omega⟩)
  let s := s.put d (rotateRight (s.get d ^^^ s.get a) 8)
  let s := s.put c (s.get c + s.get d)
  s.put b (rotateRight (s.get b ^^^ s.get c) 7)

def permute (m : Square) : Square :=
  #v[m[2], m[6], m[3], m[10], m[7], m[0], m[4], m[13],
    m[1], m[11], m[12], m[5], m[9], m[14], m[15], m[8]]

def rounds : Nat → (s m : Square) → Square
  | 0, s, _ => s
  | n + 1, s, m => rounds n (s.mix (quarter m)) (permute m)

/-- One use of the compression function, kept until it is known whether it is the root. -/
structure Node where
  chaining : Words 8
  block : Square
  counter : Nat
  length : Nat
  flags : UInt32

/-- The first half of the compressed state, which is all that an output of 32 bytes needs. -/
def Node.compress (n : Node) (extra : UInt32) : Words 8 :=
  let start : Square := #v[n.chaining[0], n.chaining[1], n.chaining[2], n.chaining[3],
    n.chaining[4], n.chaining[5], n.chaining[6], n.chaining[7],
    initial[0], initial[1], initial[2], initial[3],
    UInt32.ofNat n.counter, UInt32.ofNat (n.counter / 0x100000000), UInt32.ofNat n.length,
    n.flags ||| extra]
  let s := rounds 7 start n.block
  #v[s[0] ^^^ s[8], s[1] ^^^ s[9], s[2] ^^^ s[10], s[3] ^^^ s[11],
    s[4] ^^^ s[12], s[5] ^^^ s[13], s[6] ^^^ s[14], s[7] ^^^ s[15]]

def blockWords (b : Bytes) : Square := Vector.ofFn fun i => wordAt b i

def keyWords (k : Block 32) : Words 8 := Vector.ofFn fun i => wordAt k.val i

/-- The last compression of a chunk, whose blocks still to come are `blocks`. -/
def chunkFrom (counter : Nat) (flags : UInt32) : Words 8 → (start : UInt32) → List Bytes → Node
  | chaining, start, [] => ⟨chaining, blockWords [], counter, 0, flags ||| start ||| chunkEnd⟩
  | chaining, start, [b] =>
      ⟨chaining, blockWords b, counter, b.length, flags ||| start ||| chunkEnd⟩
  | chaining, start, b :: rest =>
      let node : Node := ⟨chaining, blockWords b, counter, b.length, flags ||| start⟩
      chunkFrom counter flags (node.compress 0) 0 rest

def chunk (key : Words 8) (flags : UInt32) (counter : Nat) (b : Bytes) : Node :=
  chunkFrom counter flags key chunkStart (pieces 64 b)

def join (key : Words 8) (flags : UInt32) (left right : Node) : Node :=
  let l := left.compress 0
  let r := right.compress 0
  ⟨key, (l ++ r).cast rfl, 0, 64, flags ||| parent⟩

def leftCount (n : Nat) : Nat := Nat.pow 2 (Nat.log2 (n - 1))

theorem leftCount_pos (n : Nat) : 0 < leftCount n := Nat.two_pow_pos _

theorem leftCount_lt {n : Nat} (h : 2 ≤ n) : leftCount n < n := by
  have power : leftCount n ≤ n - 1 := Nat.log2_self_le (by omega)
  omega

def tree (key : Words 8) (flags : UInt32) (counter : Nat) (chunks : List Bytes) : Node :=
  if _h : 2 ≤ chunks.length then
    let count := leftCount chunks.length
    join key flags (tree key flags counter (chunks.take count))
      (tree key flags (counter + count) (chunks.drop count))
  else chunk key flags counter (chunks.headD [])
termination_by chunks.length
decreasing_by
  · have := leftCount_lt _h
    simp
    omega
  · have := leftCount_pos chunks.length
    simp
    omega

def digest (key : Words 8) (flags : UInt32) (input : Bytes) : Block 32 :=
  let out := (tree key flags 0 (pieces 1024 input)).compress root
  ⟨wordBytes out.toList, by rw [length_wordBytes, Vector.length_toList]⟩

def hash (input : Bytes) : Block 32 := digest initial 0 input

def deriveKey (context : String) (material : Bytes) : Block 32 :=
  digest (keyWords (digest initial deriveContext (utf8 context))) deriveMaterial material

end Countersign.Crypto.Blake3
