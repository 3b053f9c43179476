/-
The MD5 message digest.

A message is padded to whole blocks of 64 bytes, each block is mixed into a state of four words in
64 rounds, and the digest is the final state in little-endian byte order.
-/

namespace ForeignGlue.Symbol

/-- The four words that the rounds mix. -/
structure DigestState where
  a : UInt32
  b : UInt32
  c : UInt32
  d : UInt32
  deriving DecidableEq, Repr

namespace DigestState

/-- The state before the first block. -/
def start : DigestState :=
  ⟨0x67452301, 0xefcdab89, 0x98badcfe, 0x10325476⟩

end DigestState

/-- The added constant of each round. -/
def roundConstants : List UInt32 :=
  [0xd76aa478, 0xe8c7b756, 0x242070db, 0xc1bdceee, 0xf57c0faf, 0x4787c62a, 0xa8304613, 0xfd469501,
   0x698098d8, 0x8b44f7af, 0xffff5bb1, 0x895cd7be, 0x6b901122, 0xfd987193, 0xa679438e, 0x49b40821,
   0xf61e2562, 0xc040b340, 0x265e5a51, 0xe9b6c7aa, 0xd62f105d, 0x02441453, 0xd8a1e681, 0xe7d3fbc8,
   0x21e1cde6, 0xc33707d6, 0xf4d50d87, 0x455a14ed, 0xa9e3e905, 0xfcefa3f8, 0x676f02d9, 0x8d2a4c8a,
   0xfffa3942, 0x8771f681, 0x6d9d6122, 0xfde5380c, 0xa4beea44, 0x4bdecfa9, 0xf6bb4b60, 0xbebfbc70,
   0x289b7ec6, 0xeaa127fa, 0xd4ef3085, 0x04881d05, 0xd9d4d039, 0xe6db99e5, 0x1fa27cf8, 0xc4ac5665,
   0xf4292244, 0x432aff97, 0xab9423a7, 0xfc93a039, 0x655b59c3, 0x8f0ccc92, 0xffeff47d, 0x85845dd1,
   0x6fa87e4f, 0xfe2ce6e0, 0xa3014314, 0x4e0811a1, 0xf7537e82, 0xbd3af235, 0x2ad7d2bb, 0xeb86d391]

/-- The left rotation of each round, in bits. -/
def roundShifts : List UInt32 :=
  [7, 12, 17, 22, 7, 12, 17, 22, 7, 12, 17, 22, 7, 12, 17, 22,
   5, 9, 14, 20, 5, 9, 14, 20, 5, 9, 14, 20, 5, 9, 14, 20,
   4, 11, 16, 23, 4, 11, 16, 23, 4, 11, 16, 23, 4, 11, 16, 23,
   6, 10, 15, 21, 6, 10, 15, 21, 6, 10, 15, 21, 6, 10, 15, 21]

/-- The word with its bits rotated to the left. -/
def rotateLeft (word bits : UInt32) : UInt32 :=
  (word <<< bits) ||| (word >>> (32 - bits))

/-- What a round makes of the last three words of the state. -/
def mixture (round : Nat) (state : DigestState) : UInt32 :=
  if round < 16 then (state.b &&& state.c) ||| (~~~state.b &&& state.d)
  else if round < 32 then (state.d &&& state.b) ||| (~~~state.d &&& state.c)
  else if round < 48 then state.b ^^^ state.c ^^^ state.d
  else state.c ^^^ (state.b ||| ~~~state.d)

/-- Which word of the block a round adds. -/
def wordIndex (round : Nat) : Nat :=
  if round < 16 then round
  else if round < 32 then (5 * round + 1) % 16
  else if round < 48 then (3 * round + 5) % 16
  else (7 * round) % 16

/-- One round on a block of sixteen words. -/
def digestRound (block : List UInt32) (state : DigestState) (round : Nat) : DigestState :=
  let added := state.a + mixture round state + roundConstants.getD round 0 +
    block.getD (wordIndex round) 0
  ⟨state.d, state.b + rotateLeft added (roundShifts.getD round 0), state.b, state.c⟩

/-- One block mixed into the state. -/
def digestBlock (state : DigestState) (block : List UInt32) : DigestState :=
  let mixed := (List.range 64).foldl (digestRound block) state
  ⟨state.a + mixed.a, state.b + mixed.b, state.c + mixed.c, state.d + mixed.d⟩

/-- The lowest `count` bytes of a number, lowest first. -/
def littleEndian : Nat → Nat → List UInt8
  | 0, _ => []
  | count + 1, n => UInt8.ofNat (n % 256) :: littleEndian count (n / 256)

/-- The number whose bytes, lowest first, are given. -/
def ofLittleEndian (bytes : List UInt8) : Nat :=
  bytes.foldr (fun byte value => byte.toNat + 256 * value) 0

/-- The first `count` pieces of `size` elements each. -/
def pieces {α : Type} (size : Nat) : Nat → List α → List (List α)
  | 0, _ => []
  | count + 1, xs => xs.take size :: pieces size count (xs.drop size)

/-- The message, a bit that ends it, zeros up to a whole block, and its length in bits. -/
def padded (message : List UInt8) : List UInt8 :=
  message ++ 0x80 :: List.replicate ((119 - message.length % 64) % 64) 0 ++
    littleEndian 8 (8 * message.length)

/-- The words of a message in blocks of sixteen. -/
def blocks (message : List UInt8) : List (List UInt32) :=
  let bytes := padded message
  (pieces 64 (bytes.length / 64) bytes).map fun block =>
    (pieces 4 16 block).map fun word => UInt32.ofNat (ofLittleEndian word)

/-- The sixteen bytes of a final state. -/
def DigestState.bytes (state : DigestState) : List UInt8 :=
  [state.a, state.b, state.c, state.d].flatMap fun word => littleEndian 4 word.toNat

/-- The digest of a message. -/
def digest (message : List UInt8) : List UInt8 :=
  ((blocks message).foldl digestBlock .start).bytes

theorem length_littleEndian (count n : Nat) : (littleEndian count n).length = count := by
  induction count generalizing n with
  | zero => rfl
  | succ count ih => rw [littleEndian, List.length_cons, ih]

/-- **A digest has sixteen bytes.** -/
theorem length_digest (message : List UInt8) : (digest message).length = 16 := by
  simp [digest, DigestState.bytes, length_littleEndian]

end ForeignGlue.Symbol
