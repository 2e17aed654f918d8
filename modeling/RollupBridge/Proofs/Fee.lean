import RollupBridge.PriorityTransaction

namespace RollupBridge

namespace Uint

variable {bits : Nat}

theorem toNat_saturate (value : Nat) : (saturate bits value).toNat = min value (size bits - 1) := by
  have hpos : 0 < size bits := Nat.two_pow_pos bits
  have hfits : min value (size bits - 1) < 2 ^ bits := by
    change min value (size bits - 1) < size bits
    omega
  rw [saturate, BitVec.toNat_ofNat, Nat.mod_eq_of_lt hfits]

theorem toNat_max : (max bits).toNat = size bits - 1 := by
  have hpos : 0 < size bits := Nat.two_pow_pos bits
  exact (BitVec.toNat_ofNat ..).trans (Nat.mod_eq_of_lt (Nat.sub_lt hpos Nat.one_pos))

/-- A sum is exact as long as it fits. -/
theorem toNat_saturatingAdd (x y : Uint bits) :
    (saturatingAdd x y).toNat = min (x.toNat + y.toNat) (size bits - 1) :=
  toNat_saturate _

/-- A product is exact as long as it fits. -/
theorem toNat_saturatingMul (x y : Uint bits) :
    (saturatingMul x y).toNat = min (x.toNat * y.toNat) (size bits - 1) :=
  toNat_saturate _

theorem saturatingAdd_zero (x : Uint bits) : saturatingAdd x 0 = x := by
  have hfits : x.toNat < size bits := x.isLt
  refine BitVec.eq_of_toNat_eq ?_
  rw [toNat_saturatingAdd]
  have hzero : (0 : Uint bits).toNat = 0 := by simp
  omega

end Uint

namespace PriorityTransaction

variable {tx : PriorityTransaction} {cost : Uint 256}

theorem ensureCovers_eq_ok_iff_saturatingAdd_le :
    tx.ensureCovers cost = .ok () ↔ Uint.saturatingAdd cost tx.l2Value ≤ tx.requiredValue := by
  rw [ensureCovers, ← BitVec.not_lt]
  split <;> simp [*]

theorem ensureCovers_eq_error_iff_lt_saturatingAdd {error : GasParamsError} :
    tx.ensureCovers cost = .error error ↔
      tx.requiredValue < Uint.saturatingAdd cost tx.l2Value ∧
        error = .insufficientValue (Uint.saturatingAdd cost tx.l2Value) tx.requiredValue := by
  rw [ensureCovers]
  split
  · rename_i hless
    simp [hless, eq_comm]
  · rename_i hcovers
    simp [hcovers]

/-- Without a value on L2 the value is checked against the cost itself. -/
theorem ensureCovers_eq_ok_iff (hvalue : tx.l2Value = 0) :
    tx.ensureCovers cost = .ok () ↔ cost ≤ tx.requiredValue := by
  rw [ensureCovers_eq_ok_iff_saturatingAdd_le, hvalue, Uint.saturatingAdd_zero]

theorem ensureCovers_eq_error_iff {error : GasParamsError} (hvalue : tx.l2Value = 0) :
    tx.ensureCovers cost = .error error ↔
      tx.requiredValue < cost ∧ error = .insufficientValue cost tx.requiredValue := by
  rw [ensureCovers_eq_error_iff_lt_saturatingAdd, hvalue, Uint.saturatingAdd_zero]

/-- A value covers a capped sum if it covers the exact one, and the largest value covers any. -/
theorem ensureCovers_eq_ok_iff_add_le_or_max :
    tx.ensureCovers cost = .ok () ↔
      cost.toNat + tx.l2Value.toNat ≤ tx.requiredValue.toNat ∨ tx.requiredValue = Uint.max 256 := by
  have hfits : tx.requiredValue.toNat < Uint.size 256 := tx.requiredValue.isLt
  rw [ensureCovers_eq_ok_iff_saturatingAdd_le, BitVec.le_def, Uint.toNat_saturatingAdd,
    ← BitVec.toNat_inj, Uint.toNat_max]
  omega

/-- The check decides whether the value covers the exact sum of the cost and the value on L2, unless the
largest value is offered for a sum that no value covers. That alone is let through although it falls
short, and whatever else falls short is refused as insufficient. -/
theorem ensureCovers_exact_iff (tx : PriorityTransaction) (cost : Uint 256) :
    ((tx.ensureCovers cost = .ok () ↔
        cost.toNat + tx.l2Value.toNat ≤ tx.requiredValue.toNat) ↔
      ¬(tx.requiredValue = Uint.max 256 ∧ Uint.size 256 ≤ cost.toNat + tx.l2Value.toNat)) ∧
    (tx.requiredValue = Uint.max 256 → tx.ensureCovers cost = .ok ()) ∧
    ∀ error, tx.ensureCovers cost = .error error ↔
      tx.requiredValue.toNat < cost.toNat + tx.l2Value.toNat ∧ tx.requiredValue ≠ Uint.max 256 ∧
        error = .insufficientValue (Uint.saturatingAdd cost tx.l2Value) tx.requiredValue := by
  have hmax : (Uint.max 256).toNat = Uint.size 256 - 1 := Uint.toNat_max
  have hpos : 0 < Uint.size 256 := Nat.two_pow_pos 256
  refine ⟨?_, fun hlargest => ensureCovers_eq_ok_iff_add_le_or_max.mpr (Or.inr hlargest), fun error => ?_⟩
  · rw [ensureCovers_eq_ok_iff_add_le_or_max, ← BitVec.toNat_inj, hmax]
    omega
  · rw [ensureCovers_eq_error_iff_lt_saturatingAdd, ← BitVec.not_le,
      ← ensureCovers_eq_ok_iff_saturatingAdd_le, ensureCovers_eq_ok_iff_add_le_or_max, not_or,
      Nat.not_le, and_assoc]

/-- A request that sends one more to L2 than the largest value pays for at the largest cost. -/
def overdrawn : PriorityTransaction :=
  { create FixedBytes.zero 1 800 with l2Value := 1, requiredValue := Uint.max 256 }

/-- A request is let through that falls short by one. -/
theorem ensureCovers_accepts_overdrawn :
    ¬∀ (tx : PriorityTransaction) (cost : Uint 256),
      tx.ensureCovers cost = .ok () ↔ cost.toNat + tx.l2Value.toNat ≤ tx.requiredValue.toNat := by
  intro hclaim
  have hcovers : overdrawn.ensureCovers (Uint.max 256) = .ok () :=
    ensureCovers_eq_ok_iff_add_le_or_max.mpr (Or.inr rfl)
  have hsum := (hclaim overdrawn (Uint.max 256)).mp hcovers
  exact absurd hsum (by decide)

end PriorityTransaction

end RollupBridge
