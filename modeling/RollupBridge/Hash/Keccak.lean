import RollupBridge.Bytes.Fixed

namespace RollupBridge.Keccak

/-- Five lanes with one `y` coordinate, by `x`. -/
structure Plane where
  x0 : UInt64
  x1 : UInt64
  x2 : UInt64
  x3 : UInt64
  x4 : UInt64

/-- The 25 lanes, by `y`. -/
structure State where
  y0 : Plane
  y1 : Plane
  y2 : Plane
  y3 : Plane
  y4 : Plane

namespace Plane

/-- All lanes zero. -/
def zero : Plane := ⟨0, 0, 0, 0, 0⟩

/-- Lanes of two planes, added bit by bit. -/
def xor (p q : Plane) : Plane :=
  ⟨p.x0 ^^^ q.x0, p.x1 ^^^ q.x1, p.x2 ^^^ q.x2, p.x3 ^^^ q.x3, p.x4 ^^^ q.x4⟩

/-- The step χ: each lane takes the next one's complement times the one after. -/
def chi (p : Plane) : Plane :=
  ⟨p.x0 ^^^ ((~~~ p.x1) &&& p.x2), p.x1 ^^^ ((~~~ p.x2) &&& p.x3), p.x2 ^^^ ((~~~ p.x3) &&& p.x4),
    p.x3 ^^^ ((~~~ p.x4) &&& p.x0), p.x4 ^^^ ((~~~ p.x0) &&& p.x1)⟩

end Plane

/-- Rotation of a lane to the left. -/
def rotate (lane amount : UInt64) : UInt64 := (lane <<< amount) ||| (lane >>> (64 - amount))

namespace State

/-- All lanes zero. -/
def zero : State := ⟨Plane.zero, Plane.zero, Plane.zero, Plane.zero, Plane.zero⟩

/-- The step θ: each lane takes the parities of two neighbouring columns. -/
def theta (s : State) : State :=
  let c := (((s.y0.xor s.y1).xor s.y2).xor s.y3).xor s.y4
  let d : Plane :=
    ⟨c.x4 ^^^ rotate c.x1 1, c.x0 ^^^ rotate c.x2 1, c.x1 ^^^ rotate c.x3 1,
      c.x2 ^^^ rotate c.x4 1, c.x3 ^^^ rotate c.x0 1⟩
  ⟨s.y0.xor d, s.y1.xor d, s.y2.xor d, s.y3.xor d, s.y4.xor d⟩

/-- The steps ρ and π: each lane is rotated by its offset and moved to its new place. -/
def rhoPi (s : State) : State :=
  ⟨⟨s.y0.x0, rotate s.y1.x1 44, rotate s.y2.x2 43, rotate s.y3.x3 21, rotate s.y4.x4 14⟩,
    ⟨rotate s.y0.x3 28, rotate s.y1.x4 20, rotate s.y2.x0 3, rotate s.y3.x1 45, rotate s.y4.x2 61⟩,
    ⟨rotate s.y0.x1 1, rotate s.y1.x2 6, rotate s.y2.x3 25, rotate s.y3.x4 8, rotate s.y4.x0 18⟩,
    ⟨rotate s.y0.x4 27, rotate s.y1.x0 36, rotate s.y2.x1 10, rotate s.y3.x2 15, rotate s.y4.x3 56⟩,
    ⟨rotate s.y0.x2 62, rotate s.y1.x3 55, rotate s.y2.x4 39, rotate s.y3.x0 41, rotate s.y4.x1 2⟩⟩

/-- One round: θ, ρ, π, χ, and the round constant into the first lane. -/
def round (s : State) (constant : UInt64) : State :=
  let t := s.theta.rhoPi
  let first := t.y0.chi
  ⟨{ first with x0 := first.x0 ^^^ constant }, t.y1.chi, t.y2.chi, t.y3.chi, t.y4.chi⟩

end State

/-- The round constants. -/
def roundConstants : List UInt64 :=
  [0x0000000000000001, 0x0000000000008082, 0x800000000000808a, 0x8000000080008000,
    0x000000000000808b, 0x0000000080000001, 0x8000000080008081, 0x8000000000008009,
    0x000000000000008a, 0x0000000000000088, 0x0000000080008009, 0x000000008000000a,
    0x000000008000808b, 0x800000000000008b, 0x8000000000008089, 0x8000000000008003,
    0x8000000000008002, 0x8000000000000080, 0x000000000000800a, 0x800000008000000a,
    0x8000000080008081, 0x8000000000008080, 0x0000000080000001, 0x8000000080008008]

/-- The permutation Keccak-f[1600]. -/
def permute (s : State) : State := roundConstants.foldl State.round s

/-- The lane of eight bytes, least significant first. -/
def lane : Bytes → UInt64
  | [] => 0
  | byte :: rest => byte.toUInt64 ||| (lane rest <<< 8)

/-- The eight bytes of a lane, least significant first. -/
def laneBytes (l : UInt64) : Bytes :=
  [l.toUInt8, (l >>> 8).toUInt8, (l >>> 16).toUInt8, (l >>> 24).toUInt8,
    (l >>> 32).toUInt8, (l >>> 40).toUInt8, (l >>> 48).toUInt8, (l >>> 56).toUInt8]

def plane (bytes : Bytes) : Plane :=
  let b1 := bytes.drop 8
  let b2 := b1.drop 8
  let b3 := b2.drop 8
  let b4 := b3.drop 8
  ⟨lane (bytes.take 8), lane (b1.take 8), lane (b2.take 8), lane (b3.take 8), lane (b4.take 8)⟩

/-- Adds a block of 136 bytes to the state and permutes. -/
def absorbBlock (s : State) (block : Bytes) : State :=
  permute
    ⟨s.y0.xor (plane block), s.y1.xor (plane (block.drop 40)), s.y2.xor (plane (block.drop 80)),
      s.y3.xor (plane (block.drop 120)), s.y4⟩

/-- Absorbs the first `blocks` blocks of a padded message. -/
def absorb : (blocks : Nat) → State → Bytes → State
  | 0, s, _ => s
  | blocks + 1, s, message => absorb blocks (absorbBlock s (message.take 136)) (message.drop 136)

/-- Padding to a multiple of 136 bytes: a first and a last one bit with zeros between. -/
def padding (length : Nat) : Bytes :=
  let missing := 136 - length % 136
  if missing = 1 then [0x81] else 0x01 :: Bytes.zeros (missing - 2) ++ [0x80]

end RollupBridge.Keccak

namespace RollupBridge

/-- The hash Keccak-256: the sponge over Keccak-f[1600] with a rate of 136 bytes. -/
def keccak256 (message : Bytes) : Word :=
  let padded := message ++ Keccak.padding message.length
  let s := Keccak.absorb (padded.length / 136) Keccak.State.zero padded
  ⟨Keccak.laneBytes s.y0.x0 ++ Keccak.laneBytes s.y0.x1 ++ Keccak.laneBytes s.y0.x2 ++
    Keccak.laneBytes s.y0.x3, rfl⟩

end RollupBridge
