import RollupBridge.FeeEstimate
import RollupBridge.Json.Writer

namespace RollupBridge

/-- A call of the mailbox for governance to make. The amount is the base cost at the gas price, so
the call must not be made at a higher one. -/
structure GovernanceCall where
  target : Address
  data : Bytes
  value : Uint 256
  amount : Uint 256
  gasPrice : Uint 128
deriving DecidableEq

/-- The JSON form of a call for governance: quantities for the value and the amount, a plain number
for the gas price. -/
def GovernanceCall.toJson (call : GovernanceCall) : Json := Json.record
  [("to", Json.ofBytes call.target.bytes), ("data", Json.ofBytes call.data),
    ("value", Json.quantity call.value.toNat), ("amount", Json.quantity call.amount.toNat),
    ("gasPrice", Json.ofNat call.gasPrice.toNat)]

namespace WethConfig

/-- The gas price that is configured or else that of the node. -/
def currentGasPrice (config : WethConfig) : Action (Uint 128) :=
  Action.orRead config.gasPrice (Action.ask .gasPrice)

/-- The call for governance. It pays the base cost and asks for no refund. -/
def governanceCall (config : WethConfig) : Action GovernanceCall := do
  let gasPrice ← config.currentGasPrice
  let request := config.upgrade.priorityTransaction
  let cost ← (FeeOracle.mailbox config.mailbox).baseCost (request.gasParams gasPrice)
  let request := { request with requiredValue := cost }
  return ⟨config.mailbox, request.encode, 0, cost, gasPrice⟩

/-- The signed transaction that makes the upgrade, refunded to the signing account. -/
def sign (config : WethConfig) (account : Address) : Action SignedTransaction := do
  let chainId ← Action.ask .chainId
  let gasPrice ← config.currentGasPrice
  let request := { config.upgrade.priorityTransaction with refundRecipient := account }
  let fee ← (FeeOracle.mailbox config.mailbox).estimate (request.gasParams gasPrice) config.margin
  let request := { request with requiredValue := fee.value }
  Action.ofResult .gasParams (request.ensureCovers fee.baseCost)
  let nonce ← Action.orRead config.nonce (Action.ask (.pendingNonce account))
  let tx : L1Transaction := {
    target := config.mailbox, value := 0, input := request.encode, nonce, gasLimit := 0, gasPrice, chainId }
  let gasLimit ← Action.ask (.estimateGas account tx)
  Action.ask (.sign { tx with gasLimit })

/-- Signs and sends the upgrade and waits for it. -/
def submit (config : WethConfig) (account : Address) : Action TransactionOutcome := do
  let signed ← config.sign account
  let hash ← Action.ask (.send signed)
  let outcome ← Action.ask (.wait hash config.confirmations)
  Action.ofResult id (outcome.requireSuccess .wethUpgrade)
  return outcome

end WethConfig

end RollupBridge
