import RollupBridge.Bytes.Hex

namespace RollupBridge.Hex

variable {width : Nat}

/-- A digit has the value it was written for. -/
theorem value?_digit {value : Nat} (hvalue : value < 16) : value? (digit value) = some value := by
  have hdigits : ∀ value : Fin 16, value? (digit value) = some value.val := by decide
  exact hdigits ⟨value, hvalue⟩

theorem readPairs_digits (bytes seen : Bytes) :
    readPairs (digits bytes) seen = some (seen.reverse ++ bytes) := by
  induction bytes generalizing seen with
  | nil => rw [List.append_nil]; rfl
  | cons byte bytes ih =>
    have hhigh : byte.toNat / 16 < 16 := Nat.div_lt_of_lt_mul byte.toNat_lt
    have hlow : byte.toNat % 16 < 16 := Nat.mod_lt _ (by decide)
    have hbyte : UInt8.ofNat (16 * (byte.toNat / 16) + byte.toNat % 16) = byte := by
      rw [Nat.div_add_mod, UInt8.ofNat_toNat]
    change readPairs (digit (byte.toNat / 16) :: digit (byte.toNat % 16) :: digits bytes) seen = _
    simp only [readPairs, value?_digit hhigh, value?_digit hlow, hbyte]
    rw [ih, List.reverse_cons, List.append_assoc, List.singleton_append]

/-- A byte string is read back from its text. -/
theorem read?_chars (bytes : Bytes) : read? (chars bytes) = some bytes :=
  readPairs_digits bytes []

theorem readFixed?_chars (x : FixedBytes width) : readFixed? (chars x.bytes) = some x := by
  rw [readFixed?, read?_chars]
  exact dif_pos x.length_eq

end RollupBridge.Hex
