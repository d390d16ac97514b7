/-
This file computes the SHA-256 digest of octets. The chaining state has eight words in its type, so
every digest has 32 octets.
-/

namespace EndSession.Digest.Sha256

/-- The chaining state. -/
abbrev State := Vector UInt32 8

/-- The state in front of the first block. -/
def initial : State :=
  #v[0x6a09e667, 0xbb67ae85, 0x3c6ef372, 0xa54ff53a, 0x510e527f, 0x9b05688c, 0x1f83d9ab, 0x5be0cd19]

/-- The constant of each round. -/
def roundConstants : List UInt32 :=
  [0x428a2f98, 0x71374491, 0xb5c0fbcf, 0xe9b5dba5, 0x3956c25b, 0x59f111f1, 0x923f82a4, 0xab1c5ed5,
   0xd807aa98, 0x12835b01, 0x243185be, 0x550c7dc3, 0x72be5d74, 0x80deb1fe, 0x9bdc06a7, 0xc19bf174,
   0xe49b69c1, 0xefbe4786, 0x0fc19dc6, 0x240ca1cc, 0x2de92c6f, 0x4a7484aa, 0x5cb0a9dc, 0x76f988da,
   0x983e5152, 0xa831c66d, 0xb00327c8, 0xbf597fc7, 0xc6e00bf3, 0xd5a79147, 0x06ca6351, 0x14292967,
   0x27b70a85, 0x2e1b2138, 0x4d2c6dfc, 0x53380d13, 0x650a7354, 0x766a0abb, 0x81c2c92e, 0x92722c85,
   0xa2bfe8a1, 0xa81a664b, 0xc24b8b70, 0xc76c51a3, 0xd192e819, 0xd6990624, 0xf40e3585, 0x106aa070,
   0x19a4c116, 0x1e376c08, 0x2748774c, 0x34b0bcb5, 0x391c0cb3, 0x4ed8aa4a, 0x5b9cca4f, 0x682e6ff3,
   0x748f82ee, 0x78a5636f, 0x84c87814, 0x8cc70208, 0x90befffa, 0xa4506ceb, 0xbef9a3f7, 0xc67178f2]

/-- The word with its bits moved around to the right. -/
def rotateRight (word amount : UInt32) : UInt32 :=
  (word >>> amount) ||| (word <<< (32 - amount))

/-- The word that follows sixteen or more schedule words, which are listed latest first. -/
def nextWord (words : List UInt32) : UInt32 :=
  let early := words.getD 14 0
  let late := words.getD 1 0
  let earlyMix := rotateRight early 7 ^^^ rotateRight early 18 ^^^ (early >>> 3)
  let lateMix := rotateRight late 17 ^^^ rotateRight late 19 ^^^ (late >>> 10)
  lateMix + words.getD 6 0 + earlyMix + words.getD 15 0

/-- The schedule words, latest first, with more of them computed. -/
def extend : Nat → List UInt32 → List UInt32
  | 0, words => words
  | count + 1, words => extend count (nextWord words :: words)

/-- The sixty-four schedule words of a block of sixteen. -/
def schedule (block : List UInt32) : List UInt32 :=
  (extend 48 block.reverse).reverse

/-- One round mixes a constant and a schedule word into the state. -/
def round (state : State) (constant word : UInt32) : State :=
  let (a, b, c, d) := (state[0], state[1], state[2], state[3])
  let (e, f, g, h) := (state[4], state[5], state[6], state[7])
  let choice := (e &&& f) ^^^ ((~~~e) &&& g)
  let majority := (a &&& b) ^^^ (a &&& c) ^^^ (b &&& c)
  let first := h + (rotateRight e 6 ^^^ rotateRight e 11 ^^^ rotateRight e 25) + choice + constant + word
  let second := (rotateRight a 2 ^^^ rotateRight a 13 ^^^ rotateRight a 22) + majority
  #v[first + second, a, b, c, d + first, e, f, g]

/-- The state after a block. -/
def compress (state : State) (block : List UInt32) : State :=
  let mixed := (roundConstants.zip (schedule block)).foldl
    (fun current pair => round current pair.1 pair.2) state
  Vector.zipWith (· + ·) state mixed

/-- The state after all whole blocks of the words. -/
def absorb (state : State) (words : List UInt32) : State :=
  if 16 ≤ words.length then absorb (compress state (words.take 16)) (words.drop 16) else state
termination_by words.length
decreasing_by
  simp only [List.length_drop]
  omega

/-- The octets of a length, most significant first. -/
def lengthOctets (bits : Nat) : List UInt8 :=
  (List.range 8).map fun index => UInt8.ofNat (bits / Nat.pow 256 (7 - index) % 256)

/-- The message behind which its end is marked and its length in bits fills the last block. -/
def pad (message : List UInt8) : List UInt8 :=
  message ++ 0x80 :: List.replicate ((119 - message.length % 64) % 64) 0 ++
    lengthOctets (8 * message.length)

/-- Four octets make a word, most significant first. -/
def words : List UInt8 → List UInt32
  | a :: b :: c :: d :: rest =>
    (a.toUInt32 <<< 24 ||| b.toUInt32 <<< 16 ||| c.toUInt32 <<< 8 ||| d.toUInt32) :: words rest
  | _ => []

/-- The octets of a word, most significant first. -/
def wordOctets (word : UInt32) : List UInt8 :=
  [(word >>> 24).toUInt8, (word >>> 16).toUInt8, (word >>> 8).toUInt8, word.toUInt8]

/-- The digest of a message. -/
def digest (message : List UInt8) : List UInt8 :=
  (absorb initial (words (pad message))).toList.flatMap wordOctets

/-- Words of four octets have four times as many octets. -/
theorem length_flatMap_wordOctets (list : List UInt32) :
    (list.flatMap wordOctets).length = 4 * list.length := by
  induction list with
  | nil => rfl
  | cons word list inductionHypothesis =>
      simp [List.flatMap_cons, wordOctets] at inductionHypothesis ⊢
      omega

/-- Every digest has 32 octets. -/
theorem length_digest (message : List UInt8) : (digest message).length = 32 := by
  rw [digest, length_flatMap_wordOctets, Vector.length_toList]

-- The published digests of the empty message, of one block and of two blocks.
example : digest [] =
      [0xe3, 0xb0, 0xc4, 0x42, 0x98, 0xfc, 0x1c, 0x14, 0x9a, 0xfb, 0xf4, 0xc8,
       0x99, 0x6f, 0xb9, 0x24, 0x27, 0xae, 0x41, 0xe4, 0x64, 0x9b, 0x93, 0x4c,
       0xa4, 0x95, 0x99, 0x1b, 0x78, 0x52, 0xb8, 0x55] := by
  decide +kernel

example : digest ("abc".toList.map Char.toUInt8) =
      [0xba, 0x78, 0x16, 0xbf, 0x8f, 0x01, 0xcf, 0xea, 0x41, 0x41, 0x40, 0xde,
       0x5d, 0xae, 0x22, 0x23, 0xb0, 0x03, 0x61, 0xa3, 0x96, 0x17, 0x7a, 0x9c,
       0xb4, 0x10, 0xff, 0x61, 0xf2, 0x00, 0x15, 0xad] := by
  decide +kernel

example :
    digest ("abcdbcdecdefdefgefghfghighijhijkijkljklmklmnlmnomnopnopq".toList.map Char.toUInt8) =
      [0x24, 0x8d, 0x6a, 0x61, 0xd2, 0x06, 0x38, 0xb8, 0xe5, 0xc0, 0x26, 0x93,
       0x0c, 0x3e, 0x60, 0x39, 0xa3, 0x3c, 0xe4, 0x59, 0x64, 0xff, 0x21, 0x67,
       0xf6, 0xec, 0xed, 0xd4, 0x19, 0xdb, 0x06, 0xc1] := by
  decide +kernel

end EndSession.Digest.Sha256
