import Mathlib.Algebra.Group.Nat.Defs
import Mathlib.Order.Bounds.Basic
import RollupBridge.Fee

namespace RollupBridge

variable {params other : GasParams} {price cost otherCost : Uint 256}

theorem GasParams.validate_eq_ok_iff_range :
    params.validate = .ok () ↔
      (1 ≤ params.l2GasLimit.toNat ∧ params.l2GasLimit.toNat ≤ 72000000) ∧
        1 ≤ params.gasPerPubdata.toNat := by
  have hmax : maxL2GasLimit.toNat = 72000000 := by decide
  have hzero {x : Uint 64} : x = 0 ↔ x.toNat = 0 := BitVec.toNat_inj.symm
  rw [validate]
  split
  case isTrue hlimit => simp [hlimit]
  case isFalse hlimit =>
    split
    case isTrue hpubdata => simp [hpubdata]
    case isFalse hpubdata =>
      rw [hzero] at hlimit hpubdata
      split
      case isTrue hlarge =>
        rw [BitVec.lt_def, hmax] at hlarge
        simp only [reduceCtorEq, false_iff]
        omega
      case isFalse hlarge =>
        rw [BitVec.lt_def, hmax] at hlarge
        simp only [true_iff]
        omega

namespace LocalFeeModel

/-- The prices that are no lower than the fair price and pay for the pubdata a unit of L2 gas may
publish, if a byte of it takes 17 L1 gas. -/
def payingPrices (params : GasParams) : Set Nat :=
  {price | 500000000 ≤ price ∧ 17 * params.gasPrice.toNat ≤ price * params.gasPerPubdata.toNat}

/-- No operation on the way from valid parameters to their price and cost wraps. -/
structure Exact (params : GasParams) (price : Uint 256) : Prop where
  pubdata : (pubdataPrice params).toNat = 17 * params.gasPrice.toNat
  raised : (pubdataPrice params + params.gasPerPubdata.setWidth 256).toNat =
    (pubdataPrice params).toNat + params.gasPerPubdata.toNat
  lowered : (pubdataPrice params + params.gasPerPubdata.setWidth 256 - 1).toNat + 1 =
    (pubdataPrice params + params.gasPerPubdata.setWidth 256).toNat
  divisor : (params.gasPerPubdata.setWidth 256).toNat ≠ 0
  cost : (price * params.l2GasLimit.setWidth 256).toNat = price.toNat * params.l2GasLimit.toNat

theorem toNat_pubdataPrice (params : GasParams) :
    (pubdataPrice params).toNat = 17 * params.gasPrice.toNat := by
  have hseventeen : (BitVec.ofNat 256 l1GasPerPubdataByte).toNat = 17 := by decide
  have hprice : (params.gasPrice.setWidth 256).toNat = params.gasPrice.toNat :=
    BitVec.toNat_setWidth_of_le (by decide)
  have hlt : params.gasPrice.toNat < 2 ^ 128 := params.gasPrice.isLt
  rw [pubdataPrice, BitVec.toNat_mul_of_lt, hseventeen, hprice]
  rw [hseventeen, hprice]
  omega

theorem toNat_raised (params : GasParams) :
    (pubdataPrice params + params.gasPerPubdata.setWidth 256).toNat =
      17 * params.gasPrice.toNat + params.gasPerPubdata.toNat := by
  have hpubdata : (params.gasPerPubdata.setWidth 256).toNat = params.gasPerPubdata.toNat :=
    BitVec.toNat_setWidth_of_le (by decide)
  have hpriceLt : params.gasPrice.toNat < 2 ^ 128 := params.gasPrice.isLt
  have hpubdataLt : params.gasPerPubdata.toNat < 2 ^ 64 := params.gasPerPubdata.isLt
  rw [BitVec.toNat_add_of_lt, toNat_pubdataPrice, hpubdata]
  rw [toNat_pubdataPrice, hpubdata]
  omega

theorem toNat_lowered (hpubdata : 1 ≤ params.gasPerPubdata.toNat) :
    (pubdataPrice params + params.gasPerPubdata.setWidth 256 - 1).toNat =
      17 * params.gasPrice.toNat + params.gasPerPubdata.toNat - 1 := by
  have hone : (1 : Uint 256).toNat = 1 := by decide
  rw [BitVec.toNat_sub_of_le, toNat_raised, hone]
  rw [BitVec.le_def, toNat_raised, hone]
  omega

/-- The division rounds up. -/
theorem pubdataGasPrice_le_iff (hpubdata : 1 ≤ params.gasPerPubdata.toNat) {bound : Nat} :
    (pubdataGasPrice params).toNat ≤ bound ↔
      17 * params.gasPrice.toNat ≤ bound * params.gasPerPubdata.toNat := by
  rw [pubdataGasPrice, BitVec.toNat_udiv, toNat_lowered hpubdata,
    BitVec.toNat_setWidth_of_le (by decide), Nat.div_le_iff_le_mul_add_pred hpubdata, Nat.mul_comm bound]
  omega

theorem pubdataGasPrice_le (hpubdata : 1 ≤ params.gasPerPubdata.toNat) :
    (pubdataGasPrice params).toNat ≤ 17 * params.gasPrice.toNat :=
  (pubdataGasPrice_le_iff hpubdata).mpr (Nat.le_mul_of_pos_right _ hpubdata)

/-- The price of valid parameters is the larger of the fair price and the one that pays for the pubdata. -/
theorem toNat_l2GasPrice (hvalid : params.validate = .ok ()) (hprice : l2GasPrice params = .ok price) :
    price.toNat = max 500000000 (pubdataGasPrice params).toNat := by
  have hfair : (BitVec.ofNat 256 fairL2GasPrice).toNat = 500000000 := by decide
  rw [l2GasPrice, hvalid] at hprice
  obtain rfl := Except.ok.inj hprice
  simp only [BitVec.lt_def, hfair]
  split <;> omega

/-- It is the least price that is fair and pays for the pubdata. -/
theorem isLeast_l2GasPrice (hvalid : params.validate = .ok ()) (hprice : l2GasPrice params = .ok price) :
    IsLeast (payingPrices params) price.toNat := by
  have hpubdata := (GasParams.validate_eq_ok_iff_range.mp hvalid).2
  have hpays (bound : Nat) : bound ∈ payingPrices params ↔ price.toNat ≤ bound := by
    rw [toNat_l2GasPrice hvalid hprice, Nat.max_le, pubdataGasPrice_le_iff hpubdata]
    rfl
  exact ⟨(hpays _).mpr (Nat.le_refl _), fun bound hbound => (hpays bound).mp hbound⟩

/-- The price of any valid parameters has at most 133 bits. -/
theorem toNat_l2GasPrice_lt (hvalid : params.validate = .ok ()) (hprice : l2GasPrice params = .ok price) :
    price.toNat < 2 ^ 133 := by
  have hpubdata := pubdataGasPrice_le (GasParams.validate_eq_ok_iff_range.mp hvalid).2
  have hlt : params.gasPrice.toNat < 2 ^ 128 := params.gasPrice.isLt
  rw [toNat_l2GasPrice hvalid hprice]
  omega

theorem exact_of_valid (hvalid : params.validate = .ok ()) (hprice : l2GasPrice params = .ok price) :
    Exact params price := by
  obtain ⟨⟨_, hlimit⟩, hpubdata⟩ := GasParams.validate_eq_ok_iff_range.mp hvalid
  have hlimitWidth : (params.l2GasLimit.setWidth 256).toNat = params.l2GasLimit.toNat :=
    BitVec.toNat_setWidth_of_le (by decide)
  have hpriceLt := toNat_l2GasPrice_lt hvalid hprice
  have hcostLt : price.toNat * params.l2GasLimit.toNat < 2 ^ 256 :=
    calc price.toNat * params.l2GasLimit.toNat ≤ 2 ^ 133 * 72000000 :=
          Nat.mul_le_mul (Nat.le_of_lt hpriceLt) hlimit
      _ < 2 ^ 256 := by decide
  constructor
  · exact toNat_pubdataPrice params
  · rw [toNat_raised, toNat_pubdataPrice]
  · rw [toNat_lowered hpubdata, toNat_raised]
    omega
  · rw [BitVec.toNat_setWidth_of_le (by decide)]
    omega
  · rw [BitVec.toNat_mul_of_lt, hlimitWidth]
    rwa [hlimitWidth]

/-- Valid parameters have a price and a cost. -/
theorem exists_baseCost (hvalid : params.validate = .ok ()) :
    ∃ price cost, l2GasPrice params = .ok price ∧ baseCost params = .ok cost ∧
      cost.toNat = price.toNat * params.l2GasLimit.toNat := by
  obtain ⟨price, hprice⟩ : ∃ price, l2GasPrice params = .ok price := by
    rw [l2GasPrice, hvalid]
    exact ⟨_, rfl⟩
  refine ⟨price, _, hprice, ?_, (exact_of_valid hvalid hprice).cost⟩
  rw [baseCost, hprice]
  rfl

/-- What pays at a higher gas price, or for less gas per byte of pubdata, pays at the lower one too. -/
theorem payingPrices_subset (hgasPrice : params.gasPrice ≤ other.gasPrice)
    (hpubdata : other.gasPerPubdata ≤ params.gasPerPubdata) :
    payingPrices other ⊆ payingPrices params := by
  rintro bound ⟨hfair, hpays⟩
  refine ⟨hfair, ?_⟩
  calc 17 * params.gasPrice.toNat ≤ 17 * other.gasPrice.toNat := Nat.mul_le_mul_left 17 hgasPrice
    _ ≤ bound * other.gasPerPubdata.toNat := hpays
    _ ≤ bound * params.gasPerPubdata.toNat := Nat.mul_le_mul_left bound hpubdata

/-- The cost does not fall with the gas price, does not grow with the gas per byte of pubdata, and grows
with the gas limit. -/
theorem baseCost_mono (hvalid : params.validate = .ok ()) (hother : other.validate = .ok ())
    (hcost : baseCost params = .ok cost) (hotherCost : baseCost other = .ok otherCost)
    (hgasPrice : params.gasPrice ≤ other.gasPrice)
    (hpubdata : other.gasPerPubdata ≤ params.gasPerPubdata) :
    (params.l2GasLimit ≤ other.l2GasLimit → cost ≤ otherCost) ∧
      (params.l2GasLimit < other.l2GasLimit → cost < otherCost) := by
  obtain ⟨price, _, hprice, hcost', hvalue⟩ := exists_baseCost hvalid
  obtain ⟨otherPrice, _, hotherPrice, hotherCost', hotherValue⟩ := exists_baseCost hother
  obtain rfl := Except.ok.inj (hcost.symm.trans hcost')
  obtain rfl := Except.ok.inj (hotherCost.symm.trans hotherCost')
  have hleast := isLeast_l2GasPrice hvalid hprice
  have hprices : price.toNat ≤ otherPrice.toNat :=
    hleast.2 (payingPrices_subset hgasPrice hpubdata (isLeast_l2GasPrice hother hotherPrice).1)
  have hpositive : 0 < price.toNat := Nat.lt_of_lt_of_le (by decide) hleast.1.1
  rw [BitVec.le_def, BitVec.le_def, BitVec.lt_def, BitVec.lt_def, hvalue, hotherValue]
  refine ⟨Nat.mul_le_mul hprices, fun hlimit => ?_⟩
  calc price.toNat * params.l2GasLimit.toNat < price.toNat * other.l2GasLimit.toNat :=
        Nat.mul_lt_mul_of_pos_left hlimit hpositive
    _ ≤ otherPrice.toNat * other.l2GasLimit.toNat := Nat.mul_le_mul_right _ hprices

/-- Parameters are valid in a range of gas limits and with any gas price. Then the price of L2 gas is the
least that is fair and pays for the pubdata, the cost is that price times the gas limit, nothing on the way
wraps, and the cost goes with the gas price and the gas limit and against the gas per byte of pubdata. -/
theorem baseCost_of_valid (params : GasParams) :
    (params.validate = .ok () ↔
      (1 ≤ params.l2GasLimit.toNat ∧ params.l2GasLimit.toNat ≤ 72000000) ∧
        1 ≤ params.gasPerPubdata.toNat) ∧
    (params.validate = .ok () → ∃ price cost, l2GasPrice params = .ok price ∧
      baseCost params = .ok cost ∧ IsLeast (payingPrices params) price.toNat ∧
      cost.toNat = price.toNat * params.l2GasLimit.toNat ∧ Exact params price ∧
      ∀ other otherCost, other.validate = .ok () → baseCost other = .ok otherCost →
        params.gasPrice ≤ other.gasPrice → other.gasPerPubdata ≤ params.gasPerPubdata →
        (params.l2GasLimit ≤ other.l2GasLimit → cost ≤ otherCost) ∧
          (params.l2GasLimit < other.l2GasLimit → cost < otherCost)) := by
  refine ⟨GasParams.validate_eq_ok_iff_range, fun hvalid => ?_⟩
  obtain ⟨price, cost, hprice, hcost, hvalue⟩ := exists_baseCost hvalid
  refine ⟨price, cost, hprice, hcost, isLeast_l2GasPrice hvalid hprice, hvalue,
    exact_of_valid hvalid hprice, ?_⟩
  intro other otherCost hother hotherCost hgasPrice hpubdata
  exact baseCost_mono hvalid hother hcost hotherCost hgasPrice hpubdata

/-- The parameters with the highest price of L2 gas, at the highest limit. -/
def dearest : GasParams := ⟨Uint.max 128, 72000000, 1⟩

/-- The highest price is seventeen times the highest gas price, far from where words end. -/
theorem baseCost_of_valid_of_dearest :
    dearest.validate = .ok () ∧ ∃ price cost, l2GasPrice dearest = .ok price ∧
      baseCost dearest = .ok cost ∧ price.toNat = 17 * (2 ^ 128 - 1) ∧
      cost.toNat = 17 * (2 ^ 128 - 1) * 72000000 := by
  have hvalid : dearest.validate = .ok () := by rfl
  obtain ⟨price, cost, hprice, hcost, _, hvalue, _⟩ := (baseCost_of_valid dearest).2 hvalid
  have hdearest : price.toNat = 17 * (2 ^ 128 - 1) := by
    rw [toNat_l2GasPrice hvalid hprice]
    decide
  exact ⟨hvalid, price, cost, hprice, hcost, hdearest, by rw [hvalue, hdearest]; rfl⟩

end LocalFeeModel

end RollupBridge
