import IssuanceClient.Bytes
import IssuanceClient.Bytes.LittleEndian

/-!
The SHA-2 hash family over words of `w` bits.  The two members in use, SHA-256 and SHA-512, differ
only in the word width, the rotation amounts and the number of rounds; the shorter one's constants
are the upper halves of the longer one's, so one table serves both.
-/

namespace IssuanceClient

namespace Sha2

/-- The constants of one member of the family. -/
structure Variant (w : Nat) where
  /-- One constant a round. -/
  rounds : List (BitVec w)
  /-- The eight words a hash starts from. -/
  start : List (BitVec w)
  /-- Rotations of the first and of the fifth working word. -/
  bigRotations : (Nat × Nat × Nat) × (Nat × Nat × Nat)
  /-- Two rotations and a shift of the words fifteen and two places back in the schedule. -/
  smallRotations : (Nat × Nat × Nat) × (Nat × Nat × Nat)

variable {w : Nat}

/-- The exclusive or of three rotations of a word. -/
def rotations (amounts : Nat × Nat × Nat) (x : BitVec w) : BitVec w :=
  x.rotateRight amounts.1 ^^^ x.rotateRight amounts.2.1 ^^^ x.rotateRight amounts.2.2

/-- The exclusive or of two rotations and a shift of a word. -/
def rotationsAndShift (amounts : Nat × Nat × Nat) (x : BitVec w) : BitVec w :=
  x.rotateRight amounts.1 ^^^ x.rotateRight amounts.2.1 ^^^ (x >>> amounts.2.2)

/-- Bits of `g` where `e` has a zero, of `f` where it has a one. -/
def choose (e f g : BitVec w) : BitVec w := (e &&& f) ^^^ (~~~e &&& g)

/-- The bit that at least two of three words have. -/
def majority (a b c : BitVec w) : BitVec w := (a &&& b) ^^^ (a &&& c) ^^^ (b &&& c)

/-- The eight working words of a round. -/
structure Working (w : Nat) where
  a : BitVec w
  b : BitVec w
  c : BitVec w
  d : BitVec w
  e : BitVec w
  f : BitVec w
  g : BitVec w
  h : BitVec w

/-- The working words in order. -/
def Working.words (s : Working w) : List (BitVec w) := [s.a, s.b, s.c, s.d, s.e, s.f, s.g, s.h]

/-- The first eight words of a list, with zero for each that is missing. -/
def Working.ofWords (words : List (BitVec w)) : Working w :=
  let word (i : Nat) := words.getD i 0
  ⟨word 0, word 1, word 2, word 3, word 4, word 5, word 6, word 7⟩

/-- One round, with its constant and its word of the schedule. -/
def round (v : Variant w) (s : Working w) (constant word : BitVec w) : Working w :=
  let t1 := s.h + rotations v.bigRotations.2 s.e + choose s.e s.f s.g + constant + word
  let t2 := rotations v.bigRotations.1 s.a + majority s.a s.b s.c
  ⟨t1 + t2, s.a, s.b, s.c, s.d + t1, s.e, s.f, s.g⟩

/-- `count` more words of the schedule, put before the newest of those computed so far. -/
def extend (v : Variant w) : (count : Nat) → List (BitVec w) → List (BitVec w)
  | 0, newestFirst => newestFirst
  | count + 1, newestFirst =>
      let back (i : Nat) := newestFirst.getD (i - 1) 0
      let next := rotationsAndShift v.smallRotations.2 (back 2) + back 7 +
        rotationsAndShift v.smallRotations.1 (back 15) + back 16
      extend v count (next :: newestFirst)

/-- The schedule of a block of sixteen words: one word a round. -/
def schedule (v : Variant w) (block : List (BitVec w)) : List (BitVec w) :=
  (extend v (v.rounds.length - 16) block.reverse).reverse

/-- The words of a hash after one more block. -/
def compress (v : Variant w) (words block : List (BitVec w)) : List (BitVec w) :=
  let rounds := v.rounds.zip (schedule v block)
  let last := rounds.foldl (fun s r => round v s r.1 r.2) (Working.ofWords words)
  (Working.ofWords words).words.zipWith (· + ·) last.words

/-- The first `count` groups of `size` elements of a list. -/
def groups {α : Type} (size : Nat) : (count : Nat) → List α → List (List α)
  | 0, _ => []
  | count + 1, items => items.take size :: groups size count (items.drop size)

/-- The message followed by a one bit, zeros and its length in bits, to a whole number of blocks.
A block has sixteen words and the length fills the last two. -/
def padded (w : Nat) (message : List UInt8) : List UInt8 :=
  let block := 2 * w
  let lengthBytes := w / 4
  let zeros := (block - (message.length + 1 + lengthBytes) % block) % block
  message ++ 0x80 :: List.replicate zeros 0 ++
    (LittleEndian.encode lengthBytes (8 * message.length)).reverse

/-- A word from its bytes, highest first. -/
def wordOfBytes (w : Nat) (bytes : List UInt8) : BitVec w :=
  BitVec.ofNat w (LittleEndian.decode bytes.reverse)

/-- The bytes of a word, highest first. -/
def wordBytes (x : BitVec w) : List UInt8 := (LittleEndian.encode (w / 8) x.toNat).reverse

/-- The eight words of a message's hash. -/
def hashWords (v : Variant w) (message : List UInt8) : List (BitVec w) :=
  let bytes := padded w message
  let words := (groups (w / 8) (bytes.length / (w / 8)) bytes).map (wordOfBytes w)
  (groups 16 (words.length / 16) words).foldl (compress v) (Working.ofWords v.start).words

/-- The hash of a message as eight words of bytes. -/
def digest (v : Variant w) (message : List UInt8) : List UInt8 :=
  (Working.ofWords (hashWords v message)).words.flatMap wordBytes

theorem length_digest (v : Variant w) (message : List UInt8) :
    (digest v message).length = 8 * (w / 8) := by
  simp only [digest, Working.words, List.flatMap_cons, List.flatMap_nil, List.length_append,
    wordBytes, List.length_reverse, LittleEndian.length_encode, List.length_nil]
  omega

/-- The first 64 bits of the fractional parts of the cube roots of the first eighty primes. -/
def cubeRoots : List (BitVec 64) :=
  [0x428a2f98d728ae22, 0x7137449123ef65cd, 0xb5c0fbcfec4d3b2f, 0xe9b5dba58189dbbc,
   0x3956c25bf348b538, 0x59f111f1b605d019, 0x923f82a4af194f9b, 0xab1c5ed5da6d8118,
   0xd807aa98a3030242, 0x12835b0145706fbe, 0x243185be4ee4b28c, 0x550c7dc3d5ffb4e2,
   0x72be5d74f27b896f, 0x80deb1fe3b1696b1, 0x9bdc06a725c71235, 0xc19bf174cf692694,
   0xe49b69c19ef14ad2, 0xefbe4786384f25e3, 0x0fc19dc68b8cd5b5, 0x240ca1cc77ac9c65,
   0x2de92c6f592b0275, 0x4a7484aa6ea6e483, 0x5cb0a9dcbd41fbd4, 0x76f988da831153b5,
   0x983e5152ee66dfab, 0xa831c66d2db43210, 0xb00327c898fb213f, 0xbf597fc7beef0ee4,
   0xc6e00bf33da88fc2, 0xd5a79147930aa725, 0x06ca6351e003826f, 0x142929670a0e6e70,
   0x27b70a8546d22ffc, 0x2e1b21385c26c926, 0x4d2c6dfc5ac42aed, 0x53380d139d95b3df,
   0x650a73548baf63de, 0x766a0abb3c77b2a8, 0x81c2c92e47edaee6, 0x92722c851482353b,
   0xa2bfe8a14cf10364, 0xa81a664bbc423001, 0xc24b8b70d0f89791, 0xc76c51a30654be30,
   0xd192e819d6ef5218, 0xd69906245565a910, 0xf40e35855771202a, 0x106aa07032bbd1b8,
   0x19a4c116b8d2d0c8, 0x1e376c085141ab53, 0x2748774cdf8eeb99, 0x34b0bcb5e19b48a8,
   0x391c0cb3c5c95a63, 0x4ed8aa4ae3418acb, 0x5b9cca4f7763e373, 0x682e6ff3d6b2b8a3,
   0x748f82ee5defb2fc, 0x78a5636f43172f60, 0x84c87814a1f0ab72, 0x8cc702081a6439ec,
   0x90befffa23631e28, 0xa4506cebde82bde9, 0xbef9a3f7b2c67915, 0xc67178f2e372532b,
   0xca273eceea26619c, 0xd186b8c721c0c207, 0xeada7dd6cde0eb1e, 0xf57d4f7fee6ed178,
   0x06f067aa72176fba, 0x0a637dc5a2c898a6, 0x113f9804bef90dae, 0x1b710b35131c471b,
   0x28db77f523047d84, 0x32caab7b40c72493, 0x3c9ebe0a15c9bebc, 0x431d67c49c100d4c,
   0x4cc5d4becb3e42b6, 0x597f299cfc657e2a, 0x5fcb6fab3ad6faec, 0x6c44198c4a475817]

/-- The first 64 bits of the fractional parts of the square roots of the first eight primes. -/
def squareRoots : List (BitVec 64) :=
  [0x6a09e667f3bcc908, 0xbb67ae8584caa73b, 0x3c6ef372fe94f82b, 0xa54ff53a5f1d36f1,
   0x510e527fade682d1, 0x9b05688c2b3e6c1f, 0x1f83d9abfb41bd6b, 0x5be0cd19137e2179]

/-- The constants of SHA-512. -/
def variant512 : Variant 64 where
  rounds := cubeRoots
  start := squareRoots
  bigRotations := ((28, 34, 39), (14, 18, 41))
  smallRotations := ((1, 8, 7), (19, 61, 6))

/-- The upper half of a word. -/
def upperHalf (x : BitVec 64) : BitVec 32 := BitVec.setWidth 32 (x >>> 32)

/-- The constants of SHA-256: 64 rounds, and the upper half of every word. -/
def variant256 : Variant 32 where
  rounds := (cubeRoots.take 64).map upperHalf
  start := squareRoots.map upperHalf
  bigRotations := ((2, 13, 22), (6, 11, 25))
  smallRotations := ((7, 18, 3), (17, 19, 10))

end Sha2

/-- The SHA-256 digest of a message. -/
def sha256 (message : List UInt8) : Bytes 32 :=
  ⟨Sha2.digest Sha2.variant256 message, Sha2.length_digest _ _⟩

/-- The SHA-512 digest of a message. -/
def sha512 (message : List UInt8) : Bytes 64 :=
  ⟨Sha2.digest Sha2.variant512 message, Sha2.length_digest _ _⟩

end IssuanceClient
