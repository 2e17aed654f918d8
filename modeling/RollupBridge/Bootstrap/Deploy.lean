import RollupBridge.Bootstrap.Plan

namespace RollupBridge

/-- A procedure that can fail and keeps the state of a bridge, also when it fails. -/
abbrev StateAction := ExceptT BridgeError (StateT InitState Program)

namespace StateAction

/-- A procedure that does not touch the state. -/
def lift {α : Type} (action : Action α) : StateAction α := ExceptT.mk (StateT.lift action.run)

/-- The step to the next state. -/
def advance (target : InitState) : StateAction Unit := do
  match (← getThe InitState).advance target with
  | .ok state => set state
  | .error error => throw (.initState error)

end StateAction

/-- The two transactions of a bootstrap, ready to be signed. -/
structure PreparedBootstrap where
  plan : BootstrapPlan
  publication : L1Transaction
  deployment : L1Transaction
deriving DecidableEq

structure SignedBootstrap where
  plan : BootstrapPlan
  publication : SignedTransaction
  deployment : SignedTransaction
deriving DecidableEq

structure BootstrapOutcome where
  addresses : BridgeL2Addresses
  publication : TransactionOutcome
  deployment : TransactionOutcome
deriving DecidableEq

namespace Bootstrap

/-- The nonce after another, unless that was the last. -/
def nextNonce (nonce : Uint 64) : Except ConfigError (Uint 64) :=
  if nonce = Uint.max 64 then .error (.outOfRange "nonce" "below u64::MAX" nonce) else .ok (nonce + 1)

/-- The transaction that publishes the bytecodes. The mailbox takes the fee as the amount of the
request, not as the value of the call. -/
def publicationTx (b : Bootstrap) (plan : BootstrapPlan) (nonce chainId : Uint 64) :
    L1Transaction where
  target := b.config.mailbox
  value := 0
  input := plan.publication.encode
  nonce := nonce
  gasLimit := b.config.publicationL1GasLimit
  gasPrice := plan.gasPrice
  chainId := chainId

def deploymentTx (b : Bootstrap) (plan : BootstrapPlan) (nonce chainId gasLimit : Uint 64) :
    L1Transaction where
  target := b.bridge.l1Bridge
  value := plan.deploymentValue
  input := plan.deploymentCalldata
  nonce := nonce
  gasLimit := gasLimit
  gasPrice := plan.gasPrice
  chainId := chainId

/-- Reads what is missing, plans, and prepares both transactions. Nothing is signed. -/
def prepare (b : Bootstrap) (codes : BridgeBytecodes) : Action PreparedBootstrap := do
  let chainId ← Action.ask .chainId
  if chainId ≠ b.bridge.chainId then throw (.chainIdMismatch b.bridge.chainId chainId)
  let plan ← b.plan codes
  let nonce ← Action.orRead b.config.nonce (Action.ask (.pendingNonce b.account))
  let deploymentNonce ← Action.ofResult .config (nextNonce nonce)
  let gasLimit ← Action.ask
    (.estimateGas b.account (b.deploymentTx plan deploymentNonce chainId 0))
  return ⟨plan, b.publicationTx plan nonce chainId,
    b.deploymentTx plan deploymentNonce chainId gasLimit⟩

/-- Prepares and signs both transactions. Nothing is sent. -/
def sign (b : Bootstrap) (codes : BridgeBytecodes) : Action SignedBootstrap := do
  let prepared ← b.prepare codes
  let publication ← Action.ask (.sign prepared.publication)
  let deployment ← Action.ask (.sign prepared.deployment)
  return ⟨prepared.plan, publication, deployment⟩

/-- Submits both transactions at once and returns what became of each. -/
def submit (b : Bootstrap) (signed : SignedBootstrap) :
    Action (Submission.Result × Submission.Result) :=
  ExceptT.mk (.submitBoth ⟨signed.publication, b.config.confirmations⟩
    ⟨signed.deployment, b.config.confirmations⟩ fun publication deployment =>
      .done (.ok (publication, deployment)))

/-- Records what became of the two submissions. The publication is judged and recorded before the
deployment is looked at. -/
def settle (b : Bootstrap) (plan : BootstrapPlan) (publication deployment : Submission.Result) :
    StateAction BootstrapOutcome := do
  let publication ← StateAction.lift (Action.ofResult .rpc publication)
  StateAction.lift (Action.ofResult id (publication.requireSuccess .publication))
  StateAction.advance .bytecodesPublished
  let deployment ← StateAction.lift (Action.ofResult .rpc deployment)
  StateAction.lift (Action.ofResult id (deployment.requireSuccess .deployment))
  let counterpart ← StateAction.lift (L1Bridge.readCounterpart b.bridge.l1Bridge)
  if counterpart ≠ plan.addresses.proxy then
    throw (.counterpartMismatch plan.addresses.proxy counterpart)
  StateAction.advance .initialized
  return ⟨plan.addresses, publication, deployment⟩

/-- Publishes the bytecodes and deploys the counterpart of an unpublished bridge. Both transactions
are signed with consecutive nonces before either is sent. -/
def deploy (b : Bootstrap) (codes : BridgeBytecodes) : StateAction BootstrapOutcome := do
  let state ← getThe InitState
  if state ≠ .unpublished then throw (.initState ⟨state, .bytecodesPublished⟩)
  let signed ← StateAction.lift (b.sign codes)
  let (publication, deployment) ← StateAction.lift (b.submit signed)
  b.settle signed.plan publication deployment

/-- Records that governance has taken over the bridge. -/
def markGoverned : StateAction Unit := StateAction.advance .governanceConfigured

end Bootstrap

end RollupBridge
