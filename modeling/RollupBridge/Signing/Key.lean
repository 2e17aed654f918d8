import RollupBridge.Bytes.Hex
import RollupBridge.Hash.Keccak
import RollupBridge.Hash.Sha256
import RollupBridge.Signing.Curve

namespace RollupBridge

/-- A private key: a number of the group that is not zero. -/
structure PrivateKey where
  scalar : Nat
  pos : 0 < scalar
  lt_order : scalar < Curve.order
deriving DecidableEq

/-- A signature, and whether the point it came from has an odd ordinate. -/
structure Signature where
  r : Nat
  s : Nat
  isOdd : Bool
deriving DecidableEq

/-- The keyed hash of a message under a key of at most 64 bytes. -/
def hmacSha256 (key message : Bytes) : Bytes :=
  let padded := key ++ Bytes.zeros (64 - key.length)
  let inner := sha256 (padded.map (· ^^^ 0x36) ++ message)
  (sha256 (padded.map (· ^^^ 0x5c) ++ inner.bytes)).bytes

namespace PrivateKey

/-- The key of 64 hexadecimal digits. -/
def parse? (text : List Char) : Option PrivateKey := do
  let word : Word ← Hex.readFixed? text
  if h : 0 < word.toNat ∧ word.toNat < Curve.order then some ⟨word.toNat, h.1, h.2⟩ else none

/-- The address of the account: the tail of the hash of the public point. -/
def address (key : PrivateKey) : Address :=
  let (x, y) := (Curve.Point.generator.multiply key.scalar).affine
  Word.lowAddress (keccak256 (Bytes.ofNat 32 x ++ Bytes.ofNat 32 y))

/-- The signature with a secret number, unless one of its parts is zero. Of the two values that `s`
may have, the lower is used. -/
def signWith? (key : PrivateKey) (digest secret : Nat) : Option Signature :=
  let (x, y) := (Curve.Point.generator.multiply secret).affine
  let r := x % Curve.order
  let s := Curve.inverse Curve.order secret * ((digest + r * key.scalar) % Curve.order) % Curve.order
  if r = 0 ∨ s = 0 then none
  else if Curve.order / 2 < s then some ⟨r, Curve.order - s, y % 2 = 0⟩
  else some ⟨r, s, y % 2 = 1⟩

/-- Draws secret numbers from a keyed hash until one gives a signature. They come from the key and
the digest, so that equal inputs give equal signatures. -/
def drawSignature (key : PrivateKey) (digest : Nat) : (fuel : Nat) → (k v : Bytes) → Option Signature
  | 0, _, _ => none
  | fuel + 1, k, v =>
    let v := hmacSha256 k v
    let secret := v.toNat
    let drawn := if 0 < secret ∧ secret < Curve.order then key.signWith? digest secret else none
    match drawn with
    | some signature => some signature
    | none =>
      let k := hmacSha256 k (v ++ [0])
      drawSignature key digest fuel k (hmacSha256 k v)

/-- How many secret numbers are drawn. One in about `2 ^ 128` is unfit. -/
def draws : Nat := 64

def sign? (key : PrivateKey) (digest : Word) : Option Signature :=
  let reduced := digest.toNat % Curve.order
  let seed := Bytes.ofNat 32 key.scalar ++ Bytes.ofNat 32 reduced
  let v := List.replicate 32 (1 : UInt8)
  let k := hmacSha256 (Bytes.zeros 32) (v ++ 0 :: seed)
  let v := hmacSha256 k v
  let k := hmacSha256 k (v ++ 1 :: seed)
  let v := hmacSha256 k v
  key.drawSignature reduced draws k v

end PrivateKey

end RollupBridge
