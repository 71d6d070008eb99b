import SchemaMigrate.Text.Encoding

/-!
SHA-256 of a byte sequence. The message is padded to whole blocks of sixty-four bytes, each block is
spread over sixty-four words, and the words drive the rounds of the compression function.
-/

namespace SchemaMigrate.Sha256

/-- The chaining value, also the working variables of a round. -/
structure State where
  a : UInt32
  b : UInt32
  c : UInt32
  d : UInt32
  e : UInt32
  f : UInt32
  g : UInt32
  h : UInt32
deriving Repr, DecidableEq

/-- The fractional parts of the square roots of the first eight primes. -/
def initial : State where
  a := 0x6a09e667
  b := 0xbb67ae85
  c := 0x3c6ef372
  d := 0xa54ff53a
  e := 0x510e527f
  f := 0x9b05688c
  g := 0x1f83d9ab
  h := 0x5be0cd19

/-- The fractional parts of the cube roots of the first sixty-four primes, one for each round. -/
def roundConstants : List UInt32 :=
  [0x428a2f98, 0x71374491, 0xb5c0fbcf, 0xe9b5dba5, 0x3956c25b, 0x59f111f1, 0x923f82a4, 0xab1c5ed5,
   0xd807aa98, 0x12835b01, 0x243185be, 0x550c7dc3, 0x72be5d74, 0x80deb1fe, 0x9bdc06a7, 0xc19bf174,
   0xe49b69c1, 0xefbe4786, 0x0fc19dc6, 0x240ca1cc, 0x2de92c6f, 0x4a7484aa, 0x5cb0a9dc, 0x76f988da,
   0x983e5152, 0xa831c66d, 0xb00327c8, 0xbf597fc7, 0xc6e00bf3, 0xd5a79147, 0x06ca6351, 0x14292967,
   0x27b70a85, 0x2e1b2138, 0x4d2c6dfc, 0x53380d13, 0x650a7354, 0x766a0abb, 0x81c2c92e, 0x92722c85,
   0xa2bfe8a1, 0xa81a664b, 0xc24b8b70, 0xc76c51a3, 0xd192e819, 0xd6990624, 0xf40e3585, 0x106aa070,
   0x19a4c116, 0x1e376c08, 0x2748774c, 0x34b0bcb5, 0x391c0cb3, 0x4ed8aa4a, 0x5b9cca4f, 0x682e6ff3,
   0x748f82ee, 0x78a5636f, 0x84c87814, 0x8cc70208, 0x90befffa, 0xa4506ceb, 0xbef9a3f7, 0xc67178f2]

def rotateRight (word : UInt32) (count : UInt32) : UInt32 :=
  (word >>> count) ||| (word <<< (32 - count))

/-- Zeros between the closing bit and the length: as few as complete a block. -/
def paddingZeros (size : Nat) : Nat := (119 - size % 64) % 64

/-- The message, a closing bit, zeros, and the length in bits as eight bytes. -/
def pad (message : List UInt8) : List UInt8 :=
  let bits := 8 * message.length
  message ++ 0x80 :: List.replicate (paddingZeros message.length) 0
    ++ (List.range 8).map fun i => UInt8.ofNat (bits / Nat.pow 256 (7 - i))

/-- Four bytes to a word, the highest first. -/
def words : List UInt8 → List UInt32
  | a :: b :: c :: d :: rest =>
      ((a.toUInt32 <<< 24) ||| (b.toUInt32 <<< 16) ||| (c.toUInt32 <<< 8) ||| d.toUInt32) :: words rest
  | _ => []

/-- The word that follows sixteen or more words, of which the latest comes first. -/
def nextWord (latest : List UInt32) : UInt32 :=
  let back (i : Nat) := latest.getD i 0
  let s0 := rotateRight (back 14) 7 ^^^ rotateRight (back 14) 18 ^^^ (back 14 >>> 3)
  let s1 := rotateRight (back 1) 17 ^^^ rotateRight (back 1) 19 ^^^ (back 1 >>> 10)
  back 15 + s0 + back 6 + s1

/-- Puts `count` more words in front of the latest ones. -/
def extend : Nat → List UInt32 → List UInt32
  | 0, latest => latest
  | count + 1, latest => extend count (nextWord latest :: latest)

/-- The sixty-four words of a block of sixteen. -/
def schedule (block : List UInt32) : List UInt32 := (extend 48 block.reverse).reverse

def round (s : State) (constant word : UInt32) : State :=
  let sum1 := rotateRight s.e 6 ^^^ rotateRight s.e 11 ^^^ rotateRight s.e 25
  let choice := (s.e &&& s.f) ^^^ (~~~s.e &&& s.g)
  let first := s.h + sum1 + choice + constant + word
  let sum0 := rotateRight s.a 2 ^^^ rotateRight s.a 13 ^^^ rotateRight s.a 22
  let majority := (s.a &&& s.b) ^^^ (s.a &&& s.c) ^^^ (s.b &&& s.c)
  { a := first + sum0 + majority, b := s.a, c := s.b, d := s.c
    e := s.d + first, f := s.e, g := s.f, h := s.g }

def State.add (s t : State) : State where
  a := s.a + t.a
  b := s.b + t.b
  c := s.c + t.c
  d := s.d + t.d
  e := s.e + t.e
  f := s.f + t.f
  g := s.g + t.g
  h := s.h + t.h

/-- One block's worth of rounds, added to the value they started from. -/
def compress (s : State) (block : List UInt32) : State :=
  s.add ((roundConstants.zip (schedule block)).foldl (fun t (k, w) => round t k w) s)

/-- Compresses block after block of sixteen words. -/
def absorb (s : State) (message : List UInt32) : State :=
  if message.length < 16 then s
  else absorb (compress s (message.take 16)) (message.drop 16)
termination_by message.length
decreasing_by simp only [List.length_drop]; omega

def State.words (s : State) : List UInt32 := [s.a, s.b, s.c, s.d, s.e, s.f, s.g, s.h]

def hash (message : List UInt8) : List UInt32 := (absorb initial (Sha256.words (pad message))).words

/-- The digest as sixty-four lowercase hexadecimal digits. -/
def hexDigest (message : List UInt8) : List Char :=
  (hash message).flatMap fun word => Text.hexDigits 8 word.toNat

/-- The padded message is a whole number of blocks. -/
theorem length_pad_mod (message : List UInt8) : (pad message).length % 64 = 0 := by
  simp only [pad, List.length_append, List.length_cons, List.length_replicate, List.length_map,
    List.length_range, paddingZeros]
  omega

theorem length_hash (message : List UInt8) : (hash message).length = 8 := rfl

/-- A digest has sixty-four digits, whatever the message. -/
theorem length_hexDigest (message : List UInt8) : (hexDigest message).length = 64 := by
  simp [hexDigest, hash, State.words]

end SchemaMigrate.Sha256
