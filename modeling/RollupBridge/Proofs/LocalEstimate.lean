import Mathlib.Algebra.Order.Floor.Semiring
import Mathlib.Data.Rat.Floor
import RollupBridge.Cli.Run
import RollupBridge.Proofs.LocalFee
import RollupBridge.Proofs.Margin

namespace RollupBridge

namespace LocalFeeModel

variable {params other : GasParams} {margin otherMargin : SafetyMargin} {fee otherFee : FeeEstimate}

/-- What an estimate says: the cost of the local model, and the exact value with the margin put on. -/
structure Quoted (params : GasParams) (margin : SafetyMargin) (fee : FeeEstimate) : Prop where
  margin_eq : fee.margin = margin
  baseCost_eq : fee.baseCost.toNat =
    max 500000000 ⌈(17 * params.gasPrice.toNat : ℚ) / params.gasPerPubdata.toNat⌉₊ *
      params.l2GasLimit.toNat
  unsaturated : fee.baseCost.toNat * margin.numerator.toNat < Uint.size 256
  value_eq : fee.value.toNat =
    fee.baseCost.toNat * margin.numerator.toNat / margin.denominator.toNat
  covers : fee.baseCost ≤ fee.value

/-- Division of words rounds up as that of rationals does. -/
theorem toNat_pubdataGasPrice (hpubdata : 1 ≤ params.gasPerPubdata.toNat) :
    (pubdataGasPrice params).toNat =
      ⌈(17 * params.gasPrice.toNat : ℚ) / params.gasPerPubdata.toNat⌉₊ := by
  refine eq_of_forall_ge_iff fun bound => ?_
  have hpos : (0 : ℚ) < params.gasPerPubdata.toNat := by exact_mod_cast hpubdata
  rw [pubdataGasPrice_le_iff hpubdata, Nat.ceil_le, div_le_iff₀ hpos]
  norm_cast

/-- The largest cost leaves more than 64 bits of a word. -/
theorem baseCost_mul_lt (hvalid : params.validate = .ok ()) {cost : Uint 256}
    (hcost : baseCost params = .ok cost) (n : Uint 64) : cost.toNat * n.toNat < Uint.size 256 := by
  obtain ⟨price, _, hprice, hcost', hvalue⟩ := exists_baseCost hvalid
  obtain rfl := Except.ok.inj (hcost.symm.trans hcost')
  have hlimit := (GasParams.validate_eq_ok_iff_range.mp hvalid).1.2
  have hpriceLt := toNat_l2GasPrice_lt hvalid hprice
  calc cost.toNat * n.toNat = price.toNat * params.l2GasLimit.toNat * n.toNat := by rw [hvalue]
    _ ≤ 2 ^ 133 * 72000000 * 2 ^ 64 :=
      Nat.mul_le_mul (Nat.mul_le_mul (Nat.le_of_lt hpriceLt) hlimit) (Nat.le_of_lt n.isLt)
    _ < Uint.size 256 := by decide

theorem estimate_of_error {error : GasParamsError} (hinvalid : params.validate = .error error)
    (margin : SafetyMargin) : estimate params margin = .error error := by
  rw [estimate, baseCost, l2GasPrice, hinvalid]
  rfl

/-- What is estimated is the cost of valid parameters. -/
theorem estimate_eq_ok_iff :
    estimate params margin = .ok fee ↔
      params.validate = .ok () ∧ ∃ cost, baseCost params = .ok cost ∧ fee = .ofCost margin cost := by
  cases hvalidate : params.validate with
  | error error => simp [estimate_of_error hvalidate]
  | ok u =>
    obtain ⟨_, cost, _, hcost, _⟩ := exists_baseCost hvalidate
    rw [estimate, hcost]
    constructor
    · intro hfee
      obtain rfl := Except.ok.inj hfee
      exact ⟨rfl, cost, rfl, rfl⟩
    · rintro ⟨_, _, hsame, rfl⟩
      obtain rfl := Except.ok.inj hsame
      rfl

theorem quoted_of_estimate (hfee : estimate params margin = .ok fee) : Quoted params margin fee := by
  obtain ⟨hvalid, cost, hcost, rfl⟩ := estimate_eq_ok_iff.mp hfee
  obtain ⟨price, _, hprice, hcost', hvalue⟩ := exists_baseCost hvalid
  obtain rfl := Except.ok.inj (hcost.symm.trans hcost')
  have hpubdata := (GasParams.validate_eq_ok_iff_range.mp hvalid).2
  have hfits := baseCost_mul_lt hvalid hcost
  constructor
  · rfl
  · change cost.toNat = _
    rw [hvalue, toNat_l2GasPrice hvalid hprice, toNat_pubdataGasPrice hpubdata]
  · exact hfits _
  · have hproduct := hfits margin.numerator
    change (margin.apply cost).toNat = cost.toNat * _ / _
    rw [SafetyMargin.toNat_apply, Nat.min_eq_left (by omega)]
  · exact SafetyMargin.le_apply_iff.mpr (hfits _)

/-- The value goes with the gas price, the gas limit and the margin, and against the gas per byte of
pubdata. -/
theorem value_mono (hfee : estimate params margin = .ok fee)
    (hotherFee : estimate other otherMargin = .ok otherFee)
    (hgasPrice : params.gasPrice ≤ other.gasPrice) (hlimit : params.l2GasLimit ≤ other.l2GasLimit)
    (hpubdata : other.gasPerPubdata ≤ params.gasPerPubdata)
    (hnumerator : margin.numerator ≤ otherMargin.numerator)
    (hdenominator : otherMargin.denominator ≤ margin.denominator) : fee.value ≤ otherFee.value := by
  have hquoted := quoted_of_estimate hfee
  have hotherQuoted := quoted_of_estimate hotherFee
  obtain ⟨hvalid, cost, hcost, rfl⟩ := estimate_eq_ok_iff.mp hfee
  obtain ⟨hother, otherCost, hotherCost, rfl⟩ := estimate_eq_ok_iff.mp hotherFee
  have hcosts : cost ≤ otherCost :=
    (baseCost_mono hvalid hother hcost hotherCost hgasPrice hpubdata).1 hlimit
  rw [BitVec.le_def, hquoted.value_eq, hotherQuoted.value_eq]
  exact Nat.div_le_div (Nat.mul_le_mul hcosts hnumerator) hdenominator
    (Nat.ne_of_gt otherMargin.denominator_pos)

end LocalFeeModel

/-- The oracle asks nobody for an estimate of the local model. -/
theorem FeeOracle.estimate_localModel (params : GasParams) (margin : SafetyMargin) :
    FeeOracle.localModel.estimate params margin =
      Action.ofResult .gasParams (LocalFeeModel.estimate params margin) := by
  have hask : FeeOracle.localModel.estimate params margin =
      (Action.ofResult .gasParams params.validate >>= fun _ =>
        Action.ofResult .gasParams (LocalFeeModel.baseCost params) >>= fun cost =>
          pure (.ofCost margin cost)) := estimate_eq_ask _ _ _
  rw [hask]
  cases hvalidate : params.validate with
  | error error =>
    rw [LocalFeeModel.estimate_of_error hvalidate]
    rfl
  | ok u =>
    rw [LocalFeeModel.estimate]
    cases LocalFeeModel.baseCost params <;> rfl

/-- Without a node the command estimates by the local model, at the gas price that it is given. -/
theorem Cli.EstimateOptions.estimate_offline {m : Type → Type} [Monad m] [LawfulMonad m] {α : Type}
    {options : EstimateOptions} {gasPrice : Uint 128} (host : Host m α)
    (hoffline : options.isOffline = true) (hgasPrice : options.gasPrice = some gasPrice) :
    options.estimate host =
      Step.ofResult .gasParams (LocalFeeModel.estimate (options.params gasPrice) options.margin) := by
  rw [estimate, if_pos hoffline, hgasPrice]
  exact pure_bind gasPrice _

open Cli in
/-- An estimate of the local model, asked for directly, through the oracle or on the command line without
a node, is the error of the parameters or the exact cost and value. Nothing saturates, whatever the
parameters and the margin, so the value covers the cost, and it goes with the gas price and the margin. -/
theorem LocalFeeModel.estimate_exact (params : GasParams) (margin : SafetyMargin) :
    ((∃ error, params.validate = .error error ∧ estimate params margin = .error error) ∨
      params.validate = .ok () ∧ ∃ fee, estimate params margin = .ok fee ∧ Quoted params margin fee ∧
        ∀ other otherMargin otherFee, estimate other otherMargin = .ok otherFee →
          params.gasPrice ≤ other.gasPrice → params.l2GasLimit ≤ other.l2GasLimit →
          other.gasPerPubdata ≤ params.gasPerPubdata → margin.numerator ≤ otherMargin.numerator →
          otherMargin.denominator ≤ margin.denominator → fee.value ≤ otherFee.value) ∧
    FeeOracle.localModel.estimate params margin =
      Action.ofResult .gasParams (estimate params margin) ∧
    ∀ (m : Type → Type) [Monad m] [LawfulMonad m] (α : Type) (host : Host m α)
      (options : EstimateOptions) gasPrice, options.isOffline = true →
      options.gasPrice = some gasPrice → options.params gasPrice = params → options.margin = margin →
      options.estimate host = Step.ofResult .gasParams (estimate params margin) := by
  refine ⟨?_, FeeOracle.estimate_localModel params margin, ?_⟩
  · cases hvalidate : params.validate with
    | error error => exact Or.inl ⟨error, rfl, estimate_of_error hvalidate margin⟩
    | ok u =>
      obtain ⟨_, cost, _, hcost, _⟩ := exists_baseCost hvalidate
      have hfee : estimate params margin = .ok (.ofCost margin cost) :=
        estimate_eq_ok_iff.mpr ⟨hvalidate, cost, hcost, rfl⟩
      refine Or.inr ⟨rfl, _, hfee, quoted_of_estimate hfee, ?_⟩
      intro other otherMargin otherFee hotherFee
      exact value_mono hfee hotherFee
  · rintro m _ _ α host options gasPrice hoffline hgasPrice rfl rfl
    exact EstimateOptions.estimate_offline host hoffline hgasPrice

/-- The largest cost there is, with the largest margin on it. -/
theorem LocalFeeModel.estimate_exact_of_dearest :
    ∃ fee, estimate dearest ⟨Uint.max 64, 1, by decide, by decide⟩ = .ok fee ∧
      fee.baseCost.toNat = 17 * (2 ^ 128 - 1) * 72000000 ∧
      fee.value.toNat = 17 * (2 ^ 128 - 1) * 72000000 * (2 ^ 64 - 1) ∧ fee.baseCost ≤ fee.value := by
  obtain ⟨⟨_, hinvalid, _⟩ | ⟨_, fee, hfee, hquoted, _⟩, _⟩ :=
    estimate_exact dearest ⟨Uint.max 64, 1, by decide, by decide⟩
  · cases hinvalid
  · have hcovers := hquoted.covers
    cases hfee
    exact ⟨_, rfl, by decide, by decide, hcovers⟩

end RollupBridge
