import RollupBridge.Bytes.Fixed

namespace RollupBridge.Sha256

/-- The eight working variables. -/
structure State where
  a : UInt32
  b : UInt32
  c : UInt32
  d : UInt32
  e : UInt32
  f : UInt32
  g : UInt32
  h : UInt32

/-- The initial hash value. -/
def State.start : State :=
  ⟨0x6a09e667, 0xbb67ae85, 0x3c6ef372, 0xa54ff53a, 0x510e527f, 0x9b05688c, 0x1f83d9ab, 0x5be0cd19⟩

/-- The round constants. -/
def roundConstants : List UInt32 :=
  [0x428a2f98, 0x71374491, 0xb5c0fbcf, 0xe9b5dba5, 0x3956c25b, 0x59f111f1, 0x923f82a4, 0xab1c5ed5,
    0xd807aa98, 0x12835b01, 0x243185be, 0x550c7dc3, 0x72be5d74, 0x80deb1fe, 0x9bdc06a7, 0xc19bf174,
    0xe49b69c1, 0xefbe4786, 0x0fc19dc6, 0x240ca1cc, 0x2de92c6f, 0x4a7484aa, 0x5cb0a9dc, 0x76f988da,
    0x983e5152, 0xa831c66d, 0xb00327c8, 0xbf597fc7, 0xc6e00bf3, 0xd5a79147, 0x06ca6351, 0x14292967,
    0x27b70a85, 0x2e1b2138, 0x4d2c6dfc, 0x53380d13, 0x650a7354, 0x766a0abb, 0x81c2c92e, 0x92722c85,
    0xa2bfe8a1, 0xa81a664b, 0xc24b8b70, 0xc76c51a3, 0xd192e819, 0xd6990624, 0xf40e3585, 0x106aa070,
    0x19a4c116, 0x1e376c08, 0x2748774c, 0x34b0bcb5, 0x391c0cb3, 0x4ed8aa4a, 0x5b9cca4f, 0x682e6ff3,
    0x748f82ee, 0x78a5636f, 0x84c87814, 0x8cc70208, 0x90befffa, 0xa4506ceb, 0xbef9a3f7, 0xc67178f2]

def rotate (x : UInt32) (amount : UInt32) : UInt32 := (x >>> amount) ||| (x <<< (32 - amount))

/-- The big-endian 32-bit words of a byte string. -/
def words : Bytes → List UInt32
  | a :: b :: c :: d :: rest =>
    ((a.toUInt32 <<< 24) ||| (b.toUInt32 <<< 16) ||| (c.toUInt32 <<< 8) ||| d.toUInt32) :: words rest
  | _ => []

/-- The four bytes of a word, big-endian. -/
def wordBytes (w : UInt32) : Bytes :=
  [(w >>> 24).toUInt8, (w >>> 16).toUInt8, (w >>> 8).toUInt8, w.toUInt8]

/-- Appends `count` scheduled words, each made of four earlier ones. -/
def extend : (count : Nat) → Array UInt32 → Array UInt32
  | 0, w => w
  | count + 1, w =>
    let t := w.size
    let w15 := w.getD (t - 15) 0
    let w2 := w.getD (t - 2) 0
    let s0 := rotate w15 7 ^^^ rotate w15 18 ^^^ (w15 >>> 3)
    let s1 := rotate w2 17 ^^^ rotate w2 19 ^^^ (w2 >>> 10)
    extend count (w.push (w.getD (t - 16) 0 + s0 + w.getD (t - 7) 0 + s1))

/-- One round with a round constant and a scheduled word. -/
def round (s : State) (constant word : UInt32) : State :=
  let s1 := rotate s.e 6 ^^^ rotate s.e 11 ^^^ rotate s.e 25
  let choice := (s.e &&& s.f) ^^^ ((~~~ s.e) &&& s.g)
  let t1 := s.h + s1 + choice + constant + word
  let s0 := rotate s.a 2 ^^^ rotate s.a 13 ^^^ rotate s.a 22
  let majority := (s.a &&& s.b) ^^^ (s.a &&& s.c) ^^^ (s.b &&& s.c)
  ⟨t1 + s0 + majority, s.a, s.b, s.c, s.d + t1, s.e, s.f, s.g⟩

/-- Absorbs one 64-byte block. -/
def compress (s : State) (block : Bytes) : State :=
  let schedule := (extend 48 (words block).toArray).toList
  let t := (roundConstants.zip schedule).foldl (fun s (constant, word) => round s constant word) s
  ⟨s.a + t.a, s.b + t.b, s.c + t.c, s.d + t.d, s.e + t.e, s.f + t.f, s.g + t.g, s.h + t.h⟩

/-- Absorbs the first `blocks` blocks of a padded message. -/
def absorb : (blocks : Nat) → State → Bytes → State
  | 0, s, _ => s
  | blocks + 1, s, message => absorb blocks (compress s (message.take 64)) (message.drop 64)

/-- A one bit, zeros up to eight bytes short of a block boundary, and the length in bits. -/
def padding (length : Nat) : Bytes :=
  0x80 :: Bytes.zeros ((119 - length % 64) % 64) ++ Bytes.ofNat 8 (8 * length)

/-- The final value as 32 bytes. -/
def State.toWord (s : State) : Word :=
  ⟨wordBytes s.a ++ wordBytes s.b ++ wordBytes s.c ++ wordBytes s.d ++
    wordBytes s.e ++ wordBytes s.f ++ wordBytes s.g ++ wordBytes s.h, rfl⟩

end RollupBridge.Sha256

namespace RollupBridge

/-- The hash SHA-256 of FIPS 180-4. -/
def sha256 (message : Bytes) : Word :=
  let padded := message ++ Sha256.padding message.length
  (Sha256.absorb (padded.length / 64) Sha256.State.start padded).toWord

end RollupBridge
