import RollupBridge.Bytes.Fixed

namespace RollupBridge

/-- An unsigned integer of `bits` bits. -/
abbrev Uint (bits : Nat) := BitVec bits

namespace Uint

variable {bits : Nat}

/-- How many values a width has. -/
def size (bits : Nat) : Nat := Nat.pow 2 bits

/-- The largest value of the width. -/
def max (bits : Nat) : Uint bits := BitVec.ofNat bits (size bits - 1)

/-- The value, if it fits the width. -/
def ofNat? (bits value : Nat) : Option (Uint bits) :=
  if value < size bits then some (BitVec.ofNat bits value) else none

/-- The value, or the largest of the width if it does not fit. -/
def saturate (bits value : Nat) : Uint bits := BitVec.ofNat bits (min value (size bits - 1))

/-- The sum, capped at the largest value. -/
def saturatingAdd (x y : Uint bits) : Uint bits := saturate bits (x.toNat + y.toNat)

/-- The product, capped at the largest value. -/
def saturatingMul (x y : Uint bits) : Uint bits := saturate bits (x.toNat * y.toNat)

/-- The value in a word, big-endian. -/
def toWord (x : Uint bits) : Word := FixedBytes.ofNat x.toNat

/-- The low bits of the number in a word. -/
def ofWord (word : Word) : Uint bits := BitVec.ofNat bits word.toNat

end Uint

end RollupBridge
