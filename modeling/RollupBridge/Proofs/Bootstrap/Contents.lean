import RollupBridge.Proofs.Abi.Call
import RollupBridge.Proofs.Bootstrap.Broadcast
import RollupBridge.Proofs.Bootstrap.Quotes

namespace RollupBridge.Bootstrap

/-- What the two transactions of a bootstrap say, and what it follows from: the plan, the cost that was
quoted for the publication and the fee that was quoted for a deployment. -/
structure Contents (b : Bootstrap) (codes : BridgeBytecodes) (t : Trace) (plan : BootstrapPlan)
    (publication deployment : L1Transaction) (cost fee : Uint 256) : Prop where
  chainId_eq : publication.chainId = b.bridge.chainId ∧ deployment.chainId = b.bridge.chainId
  gasPrice_eq : publication.gasPrice = deployment.gasPrice
  publication_value : publication.value = 0
  publication_call : Mailbox.requestL2Transaction.decodeCall publication.input =
    some (FixedBytes.zero, 0, b.config.publicationGasLimit.setWidth 256,
      b.config.gasPerPubdata.setWidth 256, [], [codes.tokenBeacon, codes.standardToken], b.account,
      b.config.margin.apply cost, ())
  deployment_call : L1Bridge.deployCounterpart.decodeCall deployment.input =
    some ([codes.implementation, codes.proxy, codes.tokenProxy], plan.addresses.tokenBeacon,
      plan.governor, fee, fee, ())
  /-- No other quotes are asked for, and both at the gas price of the transactions. -/
  quotes : ∃ output output',
    t.filter (·.request.calls Mailbox.l2TransactionBaseCost.toFunction) =
      [b.quote (b.publicationParams publication.gasPrice) output,
        b.quote (b.deploymentParams publication.gasPrice) output'] ∧
    Mailbox.l2TransactionBaseCost.decodeOutput output = some cost ∧
    Mailbox.l2TransactionBaseCost.decodeOutput output' = some fee
  addresses : plan.addresses =
    BridgeL2Addresses.compute b.addressHash b.bridge.l1Bridge plan.governor plan.hashes
  /-- The hashes behind the addresses are those of the bytecodes that the two calls publish. -/
  publication_hashes : [codes.tokenBeacon, codes.standardToken].mapM b.hasher.hash =
    .ok [plan.hashes.tokenBeacon, plan.hashes.standardToken]
  deployment_hashes : [codes.implementation, codes.proxy, codes.tokenProxy].mapM b.hasher.hash =
    .ok [plan.hashes.implementation, plan.hashes.proxy, plan.hashes.tokenProxy]

variable {b : Bootstrap} {codes : BridgeBytecodes} {t : Trace} {s s' : InitState}
  {result : Except BridgeError BootstrapOutcome}

theorem Planned.publication_call {plan : BootstrapPlan} (hplanned : b.Planned codes t plan) :
    Mailbox.requestL2Transaction.decodeCall plan.publication.encode =
      some (FixedBytes.zero, 0, b.config.publicationGasLimit.setWidth 256,
        b.config.gasPerPubdata.setWidth 256, [], [codes.tokenBeacon, codes.standardToken], b.account,
        b.config.margin.apply plan.publicationFee.baseCost, ()) := by
  have hdeps := BridgeBytecodes.carriable_publicationDeps hplanned.hashes
  have hcalldata : (b.publicationRequest codes plan.publicationFee.value).calldata.length <
      Uint.size 64 := Nat.two_pow_pos 64
  rw [hplanned.publication, PriorityTransaction.decodeCall_encode hcalldata hdeps,
    hplanned.publicationFee]
  rfl

theorem Planned.deployment_call {plan : BootstrapPlan} (hplanned : b.Planned codes t plan) :
    L1Bridge.deployCounterpart.decodeCall plan.deploymentCalldata =
      some ([codes.implementation, codes.proxy, codes.tokenProxy], plan.addresses.tokenBeacon,
        plan.governor, plan.deploymentFee, plan.deploymentFee, ()) := by
  have hdeps := BridgeBytecodes.carriable_deploymentDeps hplanned.hashes
  rw [hplanned.deploymentCalldata]
  exact decodeCall_deployCounterpartCalldata hdeps _ _ _ _

/-- What was prepared and signed says what the plan says. -/
theorem Prepared.contents {prepared : PreparedBootstrap} {nonce gasLimit : Uint 64} {rest : Trace}
    (hprepared : b.Prepared codes t prepared nonce gasLimit)
    (hrest : ∀ x ∈ rest, ¬IsPreparatory x.request) :
    b.Contents codes (t ++ rest) prepared.plan prepared.publication prepared.deployment
      prepared.plan.publicationFee.baseCost prepared.plan.deploymentFee := by
  obtain ⟨planning, reading, _, hplan, _⟩ := hprepared.reads
  have hplanned := planned_of_runs hplan
  obtain ⟨himplementation, hproxy, htokenProxy, hstandardToken, htokenBeacon⟩ :=
    BridgeBytecodes.hashes_eq_ok_iff.mp hplanned.hashes
  have hpublication := hprepared.publication
  have hdeployment := hprepared.deployment
  exact {
    chainId_eq := by
      rw [hpublication, hdeployment]
      exact ⟨rfl, rfl⟩
    gasPrice_eq := by
      rw [hpublication, hdeployment]
      rfl
    publication_value := by
      rw [hpublication]
      rfl
    publication_call := by
      rw [hpublication]
      exact hplanned.publication_call
    deployment_call := by
      rw [hdeployment]
      exact hplanned.deployment_call
    quotes := by
      rw [hpublication]
      exact hprepared.quotes rest hrest
    addresses := hplanned.addresses
    publication_hashes := by
      simp [List.mapM_cons, htokenBeacon, hstandardToken, bind, Except.bind, pure, Except.pure]
    deployment_hashes := by
      simp [List.mapM_cons, himplementation, hproxy, htokenProxy, bind, Except.bind, pure,
        Except.pure] }

/-- Whoever sends the transactions of a bootstrap has signed what the plan says. The publication asks the
mailbox for the token bytecodes and offers the quoted cost with the margin put on. The deployment hands
the L1 bridge the other bytecodes, with the quoted fee for each contract. The addresses are derived from
the hashes of exactly these bytecodes. -/
theorem sent_as_planned (hrun : (b.deploy codes).Runs s t result s')
    (hsent : ∃ x ∈ t, x.request.isSend = true) :
    ∃ plan nonce publication deployment signedPublication signedDeployment cost fee,
      b.Plans codes t plan ∧
      b.Broadcast t nonce publication deployment signedPublication signedDeployment ∧
      b.Contents codes t plan publication deployment cost fee := by
  rcases (course_of_runs hrun).broadcast_prepared with hunsent | hbroadcast
  · obtain ⟨x, hx, hsend⟩ := hsent
    cases (hunsent x hx).symm.trans hsend
  obtain ⟨reads, rest, prepared, nonce, _, _, rfl, hprepare, hrest, hbroadcast⟩ := hbroadcast
  obtain ⟨_, _, hprepared⟩ := prepared_of_runs hprepare
  exact ⟨prepared.plan, nonce, prepared.publication, prepared.deployment, _, _, _, _,
    hprepared.plans rest, hbroadcast, hprepared.contents hrest⟩

/-- Both transactions are sent, and both are accepted. -/
theorem sent_as_planned_of_accepted :
    let run := (plain.deploy .plain).recorded .unpublished (.plain [])
    (plain.deploy .plain).Runs .unpublished run.1 run.2.1 run.2.2 ∧
      (∃ x ∈ run.1, x.request.isSend = true) ∧
      ∃ plan publication deployment cost fee,
        plain.Contents .plain run.1 plan publication deployment cost fee := by
  intro run
  have hrun : (plain.deploy .plain).Runs .unpublished run.1 run.2.1 run.2.2 :=
    StateAction.runs_recorded ..
  have hsent : run.1.any (·.request.isSend) = true := by decide +kernel
  rw [List.any_eq_true] at hsent
  obtain ⟨plan, _, publication, deployment, _, _, cost, fee, _, _, hcontents⟩ :=
    sent_as_planned hrun hsent
  exact ⟨hrun, hsent, plan, publication, deployment, cost, fee, hcontents⟩

end RollupBridge.Bootstrap
