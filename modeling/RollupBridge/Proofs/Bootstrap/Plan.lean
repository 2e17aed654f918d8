import RollupBridge.Bootstrap.Plan
import RollupBridge.Proofs.L1.Quote
import RollupBridge.Proofs.L1.Raises
import RollupBridge.Proofs.L1.Request

namespace RollupBridge

namespace Bootstrap

variable {b : Bootstrap} {codes : BridgeBytecodes} {t : Trace}

/-- Reads that a bootstrap makes before it signs: all but that of the counterpart. -/
def IsPreparatory (request : Request) : Prop :=
  request.isRead = true ∧ request.calls L1Bridge.l2Bridge.toFunction = false

/-- Reads that make a plan: neither the chain ID nor a nonce is among them. -/
def IsPlanning (request : Request) : Prop :=
  IsPreparatory request ∧ request ≠ .chainId ∧ ∀ account, request ≠ .pendingNonce account

/-- A quote of the mailbox for the given parameters. -/
def quote (b : Bootstrap) (params : GasParams) (output : Bytes) : Exchange :=
  ⟨.main, .call b.config.mailbox (Mailbox.l2TransactionBaseCost.call
    (params.gasPrice.setWidth 256, params.l2GasLimit.setWidth 256,
      params.gasPerPubdata.setWidth 256, ())), .ok output⟩

/-- How a plan was made: what was read from L1, what was checked, and what follows from both. -/
structure Planned (b : Bootstrap) (codes : BridgeBytecodes) (t : Trace) (plan : BootstrapPlan) :
    Prop where
  hashes : codes.hashes b.hasher = .ok plan.hashes
  addresses : plan.addresses =
    BridgeL2Addresses.compute b.addressHash b.bridge.l1Bridge plan.governor plan.hashes
  publicationParams : (b.publicationParams plan.gasPrice).validate = .ok ()
  publicationFee : plan.publicationFee = .ofCost b.config.margin plan.publicationFee.baseCost
  publication : plan.publication = b.publicationRequest codes plan.publicationFee.value
  covers : plan.publication.ensureCovers plan.publicationFee.baseCost = .ok ()
  deploymentParams : (b.deploymentParams plan.gasPrice).validate = .ok ()
  deploymentCalldata : plan.deploymentCalldata = deployCounterpartCalldata codes.deploymentDeps
    plan.addresses.tokenBeacon plan.governor plan.deploymentFee plan.deploymentFee
  deploymentValue : plan.deploymentValue = Uint.saturatingMul plan.deploymentFee 2
  reads : ∃ governing pricing output output',
    t = governing ++ (pricing ++ [b.quote (b.publicationParams plan.gasPrice) output,
      b.quote (b.deploymentParams plan.gasPrice) output']) ∧
    (Action.orRead b.config.governor (Mailbox.readGovernor b.config.mailbox)).Runs governing
      (.ok plan.governor) ∧
    (Action.orRead b.config.gasPrice (Action.ask .gasPrice)).Runs pricing (.ok plan.gasPrice) ∧
    Mailbox.l2TransactionBaseCost.decodeOutput output = some plan.publicationFee.baseCost ∧
    Mailbox.l2TransactionBaseCost.decodeOutput output' = some plan.deploymentFee

theorem asks_readGovernor (mailbox : Address) : (Mailbox.readGovernor mailbox).Asks IsPlanning :=
  View.asks_read ⟨⟨rfl, (Request.calls_call _ _ _ _).trans (by decide)⟩, by simp, by simp⟩

theorem asks_quote (params : GasParams) : (b.oracle.baseCost params).Asks IsPlanning :=
  FeeOracle.asks_baseCost fun _ =>
    ⟨⟨rfl, (Request.calls_call _ _ _ _).trans (by decide)⟩, by simp, by simp⟩

/-- Planning neither signs nor sends. -/
theorem asks_plan : (b.plan codes).Asks IsPlanning := by
  refine (Action.asks_ofResult _ _).bind fun hashes => ?_
  refine (Action.Asks.orRead (asks_readGovernor _)).bind fun governor => ?_
  refine (Action.Asks.orRead
    (Action.asks_ask .gasPrice ⟨⟨rfl, rfl⟩, by simp, by simp⟩ (by simp))).bind fun gasPrice => ?_
  refine ((asks_quote _).bind fun _ => Action.asks_pure _).bind fun publicationFee => ?_
  refine (Action.asks_ofResult _ _).bind fun _ => ?_
  exact (asks_quote _).bind fun deploymentFee => Action.asks_pure _

/-- No error of a plan is about the state of the bridge. -/
theorem raises_plan : (b.plan codes).Raises fun error => ∀ reason, error ≠ .initState reason := by
  have hquote (params : GasParams) :
      (b.oracle.baseCost params).Raises fun error => ∀ reason, error ≠ .initState reason :=
    FeeOracle.raises_baseCost (by simp) (by simp) (by simp)
  have hgovernor : (Mailbox.readGovernor b.config.mailbox).Raises fun error =>
      ∀ reason, error ≠ .initState reason :=
    View.raises_read (by simp) (by simp)
  refine (Action.raises_ofResult (by simp)).bind fun hashes => ?_
  refine (Action.Raises.orRead hgovernor).bind fun governor => ?_
  refine Action.Raises.bind (.orRead (Action.raises_ask (by simp))) fun gasPrice => ?_
  refine ((hquote _).bind fun _ => Action.raises_pure _).bind fun publicationFee => ?_
  refine (Action.raises_ofResult (by simp)).bind fun _ => ?_
  exact (hquote _).bind fun deploymentFee => Action.raises_pure _

/-- A plan that is made records what was read. -/
theorem planned_of_runs {plan : BootstrapPlan} (hrun : (b.plan codes).Runs t (.ok plan)) :
    b.Planned codes t plan := by
  unfold Bootstrap.plan at hrun
  rw [Action.runs_bind_ok_iff] at hrun
  obtain ⟨_, _, hashes, rfl, hhashes, hrun⟩ := hrun
  rw [Action.runs_ofResult_ok_iff] at hhashes
  obtain ⟨rfl, hhashes⟩ := hhashes
  rw [Action.runs_bind_ok_iff] at hrun
  obtain ⟨governing, _, governor, rfl, hgoverning, hrun⟩ := hrun
  rw [Action.runs_bind_ok_iff] at hrun
  obtain ⟨pricing, _, gasPrice, rfl, hpricing, hrun⟩ := hrun
  rw [Action.runs_bind_ok_iff] at hrun
  obtain ⟨_, _, publicationFee, rfl, hestimate, hrun⟩ := hrun
  obtain ⟨cost, hcost, rfl⟩ := FeeOracle.runs_estimate_ok_iff.mp hestimate
  rw [oracle, FeeOracle.runs_baseCost_ok_iff] at hcost
  obtain ⟨hpublicationParams, output, rfl, houtput⟩ := hcost
  rw [Action.runs_bind_ok_iff] at hrun
  obtain ⟨_, _, _, rfl, hcovers, hrun⟩ := hrun
  rw [Action.runs_ofResult_ok_iff] at hcovers
  obtain ⟨rfl, hcovers⟩ := hcovers
  rw [Action.runs_bind_ok_iff] at hrun
  obtain ⟨_, _, deploymentFee, rfl, hcost', hrun⟩ := hrun
  rw [oracle, FeeOracle.runs_baseCost_ok_iff] at hcost'
  obtain ⟨hdeploymentParams, output', rfl, houtput'⟩ := hcost'
  rw [Action.runs_pure_iff] at hrun
  obtain ⟨rfl, hplan⟩ := hrun
  cases hplan
  exact {
    hashes := hhashes
    addresses := rfl
    publicationParams := hpublicationParams
    publicationFee := rfl
    publication := rfl
    covers := hcovers
    deploymentParams := hdeploymentParams
    deploymentCalldata := rfl
    deploymentValue := rfl
    reads := ⟨governing, pricing, output, output', by simp [quote], hgoverning, hpricing, houtput, houtput'⟩ }

end Bootstrap

end RollupBridge
