import RollupBridge.Proofs.Bootstrap.Contents

namespace RollupBridge

/-- An L1 that quotes half of all values for a deployment. -/
def Simulation.halfway : Simulation :=
  { Simulation.plain [] with l1.costs := [(10000000, BitVec.ofNat 256 (Uint.size 255))] }

namespace Bootstrap

variable {b : Bootstrap} {codes : BridgeBytecodes} {t : Trace} {plan : BootstrapPlan}

theorem Planned.toNat_deploymentValue (hplanned : b.Planned codes t plan) :
    plan.deploymentValue.toNat =
      min (plan.deploymentFee.toNat + plan.deploymentFee.toNat) (Uint.size 256 - 1) := by
  have htwo : (2 : Uint 256).toNat = 2 := by decide
  rw [hplanned.deploymentValue, Uint.toNat_saturatingMul, htwo, Nat.mul_two]

/-- Twice a fee fits exactly if the fee is below half of all values. -/
theorem Planned.deploymentValue_eq_iff (hplanned : b.Planned codes t plan) :
    plan.deploymentValue.toNat = plan.deploymentFee.toNat + plan.deploymentFee.toNat ↔
      plan.deploymentFee.toNat < Uint.size 255 := by
  have hsize : Uint.size 256 = 2 * Uint.size 255 := by decide
  have hpos : 0 < Uint.size 255 := Nat.two_pow_pos 255
  rw [hplanned.toNat_deploymentValue]
  omega

theorem Planned.deploymentValue_eq_max (hplanned : b.Planned codes t plan)
    (hlarge : Uint.size 255 ≤ plan.deploymentFee.toNat) : plan.deploymentValue = Uint.max 256 := by
  have hsize : Uint.size 256 = 2 * Uint.size 255 := by decide
  have hmax : (Uint.max 256).toNat = Uint.size 256 - 1 := by decide
  refine BitVec.eq_of_toNat_eq ?_
  rw [hplanned.toNat_deploymentValue, hmax]
  omega

/-- The value of a deployment that is planned is the sum of the two fees in its calldata exactly if the
fee that was quoted is below half of all values. Above, it is the largest value, and the plan is made
all the same. -/
theorem deploymentValue_eq_fees_iff (hrun : (b.plan codes).Runs t (.ok plan)) :
    L1Bridge.deployCounterpart.decodeCall plan.deploymentCalldata =
        some ([codes.implementation, codes.proxy, codes.tokenProxy], plan.addresses.tokenBeacon,
          plan.governor, plan.deploymentFee, plan.deploymentFee, ()) ∧
      (∃ output output',
        t.filter (·.request.calls Mailbox.l2TransactionBaseCost.toFunction) =
          [b.quote (b.publicationParams plan.gasPrice) output,
            b.quote (b.deploymentParams plan.gasPrice) output'] ∧
        Mailbox.l2TransactionBaseCost.decodeOutput output' = some plan.deploymentFee) ∧
      (plan.deploymentValue.toNat = plan.deploymentFee.toNat + plan.deploymentFee.toNat ↔
        plan.deploymentFee.toNat < Uint.size 255) ∧
      (Uint.size 255 ≤ plan.deploymentFee.toNat → plan.deploymentValue = Uint.max 256) := by
  have hplanned := planned_of_runs hrun
  obtain ⟨output, output', hquotes, _, hfee⟩ := hplanned.quotes
  exact ⟨hplanned.deployment_call, ⟨output, output', hquotes, hfee⟩, hplanned.deploymentValue_eq_iff,
    hplanned.deploymentValue_eq_max⟩

/-- The plain bootstrap is planned at whatever fee the L1 in memory quotes. -/
theorem exists_plan_of_recorded {l1 : Simulation} {fee : Uint 256}
    (hfee : ((plain.plan .plain).run.record Simulation.answer l1).2.1.map (·.deploymentFee) =
      .ok fee) :
    ∃ t plan, (plain.plan .plain).Runs t (.ok plan) ∧ plan.deploymentFee = fee := by
  have hrun := (plain.plan .plain).run.runs_record Simulation.answer l1
  cases hresult : ((plain.plan .plain).run.record Simulation.answer l1).2.1 with
  | error error =>
    rw [hresult] at hfee
    cases hfee
  | ok plan =>
    rw [hresult] at hrun hfee
    exact ⟨_, plan, hrun, Except.ok.inj hfee⟩

/-- At an ordinary quote the value is the sum. -/
theorem deploymentValue_eq_fees_iff_of_plain :
    ∃ t plan, (plain.plan .plain).Runs t (.ok plan) ∧
      plan.deploymentValue.toNat = plan.deploymentFee.toNat + plan.deploymentFee.toNat := by
  have hfee : ((plain.plan .plain).run.record Simulation.answer (.plain [])).2.1.map
      (·.deploymentFee) = .ok 5000000000000000 := by rfl
  obtain ⟨t, plan, hrun, hplan⟩ := exists_plan_of_recorded hfee
  refine ⟨t, plan, hrun, (deploymentValue_eq_fees_iff hrun).2.2.1.mpr ?_⟩
  rw [hplan]
  decide

/-- A plan is made whose value is one short of the fees that its call names. -/
theorem deploymentValue_below_fees :
    ¬∀ (b : Bootstrap) codes t plan, (b.plan codes).Runs t (.ok plan) →
      ∃ factoryDeps tokenBeacon governor implementationFee proxyFee,
        L1Bridge.deployCounterpart.decodeCall plan.deploymentCalldata =
          some (factoryDeps, tokenBeacon, governor, implementationFee, proxyFee, ()) ∧
        plan.deploymentValue.toNat = implementationFee.toNat + proxyFee.toNat := by
  intro hclaim
  have hfee : ((plain.plan .plain).run.record Simulation.answer .halfway).2.1.map
      (·.deploymentFee) = .ok (BitVec.ofNat 256 (Uint.size 255)) := by rfl
  obtain ⟨t, plan, hrun, hplan⟩ := exists_plan_of_recorded hfee
  have hplanned := planned_of_runs hrun
  obtain ⟨_, _, _, _, _, hcall, hvalue⟩ := hclaim plain .plain t plan hrun
  cases hcall.symm.trans hplanned.deployment_call
  have hless := hplanned.deploymentValue_eq_iff.mp hvalue
  rw [hplan] at hless
  exact absurd hless (by decide)

end Bootstrap

end RollupBridge
