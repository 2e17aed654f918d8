namespace RollupBridge.Curve

/-- The size of the field, over which the curve is `y ^ 2 = x ^ 3 + 7`. -/
def prime : Nat := 0xfffffffffffffffffffffffffffffffffffffffffffffffffffffffefffffc2f

/-- The number of points in the group. -/
def order : Nat := 0xfffffffffffffffffffffffffffffffebaaedce6af48a03bbfd25e8cd0364141

/-- `base ^ exponent` modulo `modulus`, by repeated squaring. -/
def powMod (modulus base exponent : Nat) : Nat :=
  if exponent = 0 then 1 % modulus
  else
    let root := powMod modulus (base * base % modulus) (exponent / 2)
    if exponent % 2 = 1 then root * base % modulus else root

/-- The inverse of a number modulo a prime, by Fermat's little theorem. -/
def inverse (modulus value : Nat) : Nat := powMod modulus (value % modulus) (modulus - 2)

/-- The difference of two numbers below `prime`. -/
def sub (a b : Nat) : Nat := (a + prime - b) % prime

/-- A point in Jacobian coordinates, each below `prime`, so that adding needs no division:
`(x, y, z)` stands for `(x / z ^ 2, y / z ^ 3)`, and `z = 0` for the neutral point. -/
structure Point where
  x : Nat
  y : Nat
  z : Nat
deriving DecidableEq

namespace Point

/-- The neutral point. -/
def neutral : Point := ⟨1, 1, 0⟩

/-- The point that generates the group. -/
def generator : Point where
  x := 0x79be667ef9dcbbac55a06295ce870b07029bfcdb2dce28d959f2815b16f81798
  y := 0x483ada7726a3c4655da4fbfc0e1108a8fd17b448a68554199c47d08ffb10d4b8
  z := 1

/-- The sum of a point and itself. -/
def double (p : Point) : Point :=
  let ySquare := p.y * p.y % prime
  let s := 4 * p.x * ySquare % prime
  let m := 3 * p.x * p.x % prime
  let x := sub (m * m % prime) (2 * s % prime)
  let y := sub (m * sub s x % prime) (8 * ySquare * ySquare % prime)
  ⟨x, y, 2 * p.y * p.z % prime⟩

def add (p q : Point) : Point :=
  if p.z = 0 then q
  else if q.z = 0 then p
  else
    let pz := p.z * p.z % prime
    let qz := q.z * q.z % prime
    let u := p.x * qz % prime
    let h := sub (q.x * pz % prime) u
    let s := p.y * (qz * q.z % prime) % prime
    let r := sub (q.y * (pz * p.z % prime) % prime) s
    if h = 0 then if r = 0 then p.double else neutral
    else
      let hSquare := h * h % prime
      let hCube := hSquare * h % prime
      let v := u * hSquare % prime
      let x := sub (sub (r * r % prime) hCube) (2 * v % prime)
      let y := sub (r * sub v x % prime) (s * hCube % prime)
      ⟨x, y, p.z * q.z % prime * h % prime⟩

/-- A multiple of a point, by doubling. -/
def multiply (factor : Nat) (p : Point) : Point :=
  if factor = 0 then neutral
  else
    let even := multiply (factor / 2) p.double
    if factor % 2 = 1 then even.add p else even

/-- The plain coordinates of a point; the neutral point gets zeros. -/
def affine (p : Point) : Nat × Nat :=
  let inv := inverse prime p.z
  let invSquare := inv * inv % prime
  (p.x * invSquare % prime, p.y * (invSquare * inv % prime) % prime)

end Point

end RollupBridge.Curve
