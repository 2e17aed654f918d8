import RollupBridge.Bytes.Basic

namespace RollupBridge

/-- A byte string of exactly `width` bytes. -/
structure FixedBytes (width : Nat) where
  bytes : Bytes
  length_eq : bytes.length = width
deriving DecidableEq

/-- An account or contract address. -/
abbrev Address := FixedBytes 20

/-- A 32-byte word: a hash, a salt, a tree node or a slot of an encoded call. -/
abbrev Word := FixedBytes 32

abbrev Selector := FixedBytes 4

namespace FixedBytes

variable {width : Nat}

theorem ext_bytes {x y : FixedBytes width} (h : x.bytes = y.bytes) : x = y := by
  cases x
  cases y
  cases h
  rfl

/-- The `width` low bytes of a number. -/
def ofNat (value : Nat) : FixedBytes width := ⟨Bytes.ofNat width value, Bytes.length_ofNat width value⟩

def toNat (x : FixedBytes width) : Nat := x.bytes.toNat

/-- All bytes zero. -/
def zero : FixedBytes width := ⟨Bytes.zeros width, Bytes.length_zeros width⟩

instance : Inhabited (FixedBytes width) := ⟨zero⟩

/-- True when every byte is zero. -/
def isZero (x : FixedBytes width) : Bool := x.bytes.all (· == 0)

/-- A byte string of the right length, as a value of the fixed width. -/
def ofBytes? (bytes : Bytes) : Option (FixedBytes width) :=
  if h : bytes.length = width then some ⟨bytes, h⟩ else none

/-- The `width` bytes from `start` on; bytes past the end of the string are zero. -/
def slice (bytes : Bytes) (start : Nat) : FixedBytes width :=
  let window := (bytes.drop start).take width
  ⟨window ++ Bytes.zeros (width - window.length), by
    simp only [window, List.length_append, List.length_take, List.length_drop, Bytes.length_zeros]
    omega⟩

@[simp]
theorem length_bytes (x : FixedBytes width) : x.bytes.length = width := x.length_eq

end FixedBytes

namespace Word

/-- An address in a word: twelve zero bytes, then the address. -/
def ofAddress (address : Address) : Word :=
  ⟨Bytes.zeros 12 ++ address.bytes, by simp⟩

/-- The address in the low twenty bytes. What stands above them is ignored. -/
def lowAddress (word : Word) : Address :=
  ⟨word.bytes.drop 12, by simp⟩

end Word

end RollupBridge
