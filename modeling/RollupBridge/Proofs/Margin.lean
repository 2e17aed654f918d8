import RollupBridge.Proofs.L1.Quote

namespace RollupBridge

namespace SafetyMargin

variable {margin : SafetyMargin} {cost : Uint 256} {n d : Uint 64}

/-- A ratio makes the margin of its two numbers, or none. -/
theorem ofRatio_eq_ok_iff :
    ofRatio n d = .ok margin ↔ margin.numerator = n ∧ margin.denominator = d := by
  rw [ofRatio]
  constructor
  · intro hratio
    split at hratio
    · cases hratio
      exact ⟨rfl, rfl⟩
    · cases hratio
  · rintro ⟨rfl, rfl⟩
    rw [dif_pos ⟨margin.denominator_ne_zero, margin.denominator_le_numerator⟩]

theorem denominator_pos (margin : SafetyMargin) : 0 < margin.denominator.toNat :=
  Nat.pos_of_ne_zero fun hzero => margin.denominator_ne_zero (BitVec.eq_of_toNat_eq hzero)

/-- The product is capped before it is divided. -/
theorem toNat_apply (margin : SafetyMargin) (cost : Uint 256) :
    (margin.apply cost).toNat =
      min (cost.toNat * margin.numerator.toNat) (Uint.size 256 - 1) / margin.denominator.toNat := by
  rw [apply, BitVec.toNat_udiv, Uint.toNat_saturatingMul,
    BitVec.toNat_setWidth_of_le (by decide), BitVec.toNat_setWidth_of_le (by decide)]

/-- The value is not below the cost exactly if the cost times the denominator fits. -/
theorem le_apply_iff :
    cost ≤ margin.apply cost ↔ cost.toNat * margin.denominator.toNat < Uint.size 256 := by
  have hproduct : cost.toNat * margin.denominator.toNat ≤ cost.toNat * margin.numerator.toNat :=
    Nat.mul_le_mul_left _ margin.denominator_le_numerator
  have hsize : 0 < Uint.size 256 := Nat.two_pow_pos 256
  rw [BitVec.le_def, toNat_apply, Nat.le_div_iff_mul_le margin.denominator_pos, Nat.le_min]
  omega

/-- The value is the exact quotient, capped, exactly if there is nothing to divide by or the quotient
is no larger than that of the largest product. -/
theorem toNat_apply_eq_min_iff :
    (margin.apply cost).toNat =
        min (cost.toNat * margin.numerator.toNat / margin.denominator.toNat) (Uint.size 256 - 1) ↔
      margin.denominator = 1 ∨
        cost.toNat * margin.numerator.toNat / margin.denominator.toNat ≤
          (Uint.size 256 - 1) / margin.denominator.toNat := by
  have hcap : (Uint.size 256 - 1) / margin.denominator.toNat ≤ Uint.size 256 - 1 := Nat.div_le_self _ _
  have hone : (Uint.size 256 - 1) / margin.denominator.toNat = Uint.size 256 - 1 ↔
      margin.denominator = 1 := by
    rw [Nat.div_eq_self, ← BitVec.toNat_inj]
    exact or_iff_right (by decide)
  rw [toNat_apply, ← hone]
  rcases Nat.le_total (cost.toNat * margin.numerator.toNat) (Uint.size 256 - 1) with hfits | hlarge
  · have hquotient := Nat.div_le_div_right (c := margin.denominator.toNat) hfits
    rw [Nat.min_eq_left hfits]
    omega
  · have hquotient := Nat.div_le_div_right (c := margin.denominator.toNat) hlarge
    rw [Nat.min_eq_right hlarge]
    omega

end SafetyMargin

namespace FeeEstimate

variable {oracle : GasParams → Action (Uint 256)} {params : GasParams} {margin : SafetyMargin} {t : Trace}
  {fee : FeeEstimate}

/-- An estimate from whoever is asked for the base cost, once the parameters are found valid. -/
def ask (oracle : GasParams → Action (Uint 256)) (params : GasParams) (margin : SafetyMargin) :
    Action FeeEstimate := do
  Action.ofResult .gasParams params.validate
  return .ofCost margin (← oracle params)

theorem runs_ask_ok_iff :
    (ask oracle params margin).Runs t (.ok fee) ↔
      params.validate = .ok () ∧ ∃ cost, (oracle params).Runs t (.ok cost) ∧ fee = .ofCost margin cost := by
  rw [ask, Action.runs_ofResult_bind_ok_iff]
  constructor
  · rintro ⟨_, hvalid, hquote⟩
    exact ⟨hvalid, Action.runs_bind_pure_ok_iff.mp hquote⟩
  · rintro ⟨hvalid, hquote⟩
    exact ⟨(), hvalid, Action.runs_bind_pure_ok_iff.mpr hquote⟩

end FeeEstimate

namespace FeeOracle

/-- What an oracle of the bridge does when it is asked. -/
def quote : FeeOracle → GasParams → Action (Uint 256)
  | .localModel, params => Action.ofResult .gasParams (LocalFeeModel.baseCost params)
  | .mailbox address, params => Mailbox.readBaseCost address params

theorem estimate_eq_ask (oracle : FeeOracle) (params : GasParams) (margin : SafetyMargin) :
    oracle.estimate params margin = FeeEstimate.ask oracle.quote params margin := by
  unfold estimate baseCost FeeEstimate.ask
  cases params.validate <;> cases oracle <;> rfl

/-- The mailbox can answer any cost. -/
theorem exists_runs_estimate (mailbox : Address) {params : GasParams} (hvalid : params.validate = .ok ())
    (margin : SafetyMargin) (cost : Uint 256) :
    ∃ t, ((FeeOracle.mailbox mailbox).estimate params margin).Runs t (.ok (.ofCost margin cost)) := by
  have houtput : Mailbox.l2TransactionBaseCost.decodeOutput cost.toWord.bytes = some cost := by
    have hslot := Abi.slotAt_zero cost.toWord []
    rw [List.append_nil] at hslot
    rw [View.decodeOutput, hslot]
    exact congrArg some (Uint.ofWord_toWord cost (Nat.le_refl 256))
  exact ⟨_, runs_estimate_ok_iff.mpr
    ⟨cost, runs_baseCost_ok_iff.mpr ⟨hvalid, _, rfl, houtput⟩, rfl⟩⟩

end FeeOracle

namespace SafetyMargin

/-- The value is the exact quotient, or the largest value where that does not fit, only as far as the
product fits, and it covers the cost exactly if the cost times the denominator fits. So it is with the
estimates from any oracle, of which those that the bridge has are two. -/
theorem apply_covers_iff {n d : Uint 64} {margin : SafetyMargin} (hmargin : ofRatio n d = .ok margin) :
    (0 < d.toNat ∧ d.toNat ≤ n.toNat) ∧
      (∀ cost : Uint 256,
        (margin.apply cost).toNat = min (cost.toNat * n.toNat) (Uint.size 256 - 1) / d.toNat ∧
        (cost ≤ margin.apply cost ↔ cost.toNat * d.toNat < Uint.size 256) ∧
        ((margin.apply cost).toNat = min (cost.toNat * n.toNat / d.toNat) (Uint.size 256 - 1) ↔
          d = 1 ∨ cost.toNat * n.toNat / d.toNat ≤ (Uint.size 256 - 1) / d.toNat)) ∧
      (∀ oracle params t fee, (FeeEstimate.ask oracle params margin).Runs t (.ok fee) →
        (oracle params).Runs t (.ok fee.baseCost) ∧ fee.value = margin.apply fee.baseCost ∧
        (fee.baseCost ≤ fee.value ↔ fee.baseCost.toNat * d.toNat < Uint.size 256)) ∧
      ∀ (oracle : FeeOracle) params,
        oracle.estimate params margin = FeeEstimate.ask oracle.quote params margin := by
  obtain ⟨rfl, rfl⟩ := ofRatio_eq_ok_iff.mp hmargin
  refine ⟨⟨margin.denominator_pos, margin.denominator_le_numerator⟩,
    fun cost => ⟨margin.toNat_apply cost, le_apply_iff, toNat_apply_eq_min_iff⟩, ?_,
    fun oracle params => oracle.estimate_eq_ask params margin⟩
  intro oracle params t fee hrun
  obtain ⟨_, cost, hcost, rfl⟩ := FeeEstimate.runs_ask_ok_iff.mp hrun
  exact ⟨hcost, rfl, le_apply_iff⟩

/-- The least cost that a margin of one and a half does not cover. -/
def halfway : Uint 256 := BitVec.ofNat 256 (Uint.size 255)

/-- The cost in front of it is still covered, and an estimate of it falls short. -/
theorem apply_covers_iff_of_halfway :
    ∃ margin, ofRatio 3 2 = .ok margin ∧ halfway - 1 ≤ margin.apply (halfway - 1) ∧
      ∃ t fee, ((FeeOracle.mailbox FixedBytes.zero).estimate ⟨1, 72000000, 800⟩ margin).Runs t (.ok fee) ∧
        fee.baseCost = halfway ∧ ¬fee.baseCost ≤ fee.value := by
  obtain ⟨margin, hratio⟩ : ∃ margin, ofRatio 3 2 = .ok margin := ⟨_, rfl⟩
  obtain ⟨_, happly, hask, hestimate⟩ := apply_covers_iff hratio
  obtain ⟨t, hrun⟩ := FeeOracle.exists_runs_estimate FixedBytes.zero
    (by rfl : GasParams.validate ⟨1, 72000000, 800⟩ = .ok ()) margin halfway
  have hshort : ¬halfway.toNat * (2 : Uint 64).toNat < Uint.size 256 := by decide
  refine ⟨margin, hratio, (happly _).2.1.mpr (by decide), t, _, hrun, rfl, ?_⟩
  rw [hestimate] at hrun
  rw [(hask _ _ _ _ hrun).2.2]
  exact hshort

/-- A margin is put on a cost, and what comes out is below the cost. -/
theorem apply_below_cost :
    ¬∀ (n d : Uint 64) (margin : SafetyMargin), ofRatio n d = .ok margin →
      ∀ cost : Uint 256, cost ≤ margin.apply cost := by
  intro hclaim
  obtain ⟨margin, hratio⟩ : ∃ margin, ofRatio 3 2 = .ok margin := ⟨_, rfl⟩
  have hcovers := le_apply_iff.mp (hclaim 3 2 margin hratio halfway)
  rw [(ofRatio_eq_ok_iff.mp hratio).2] at hcovers
  exact absurd hcovers (by decide)

end SafetyMargin

end RollupBridge
