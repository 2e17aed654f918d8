namespace RollupBridge

abbrev Bytes := List UInt8

namespace Bytes

/-- The number a byte string spells, most significant byte first. -/
def toNat (bytes : Bytes) : Nat :=
  bytes.foldl (fun value byte => value * 256 + byte.toNat) 0

/-- The `width` low bytes of `value`, most significant first. -/
def ofNat : (width value : Nat) → Bytes
  | 0, _ => []
  | width + 1, value => UInt8.ofNat (value / Nat.pow 256 width) :: ofNat width value

/-- The shortest spelling of `value`: no leading zero byte, and nothing at all for zero. -/
def ofNatMinimal (value : Nat) : Bytes :=
  if value = 0 then [] else ofNatMinimal (value / 256) ++ [UInt8.ofNat value]

/-- `count` zero bytes. -/
def zeros (count : Nat) : Bytes := List.replicate count 0

@[simp]
theorem length_ofNat (width value : Nat) : (ofNat width value).length = width := by
  induction width with
  | zero => rfl
  | succ width ih => simp [ofNat, ih]

@[simp]
theorem length_zeros (count : Nat) : (zeros count).length = count := by
  simp [zeros]

end Bytes

end RollupBridge
