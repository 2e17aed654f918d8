import RollupBridge.Counterpart
import RollupBridge.FeeEstimate

namespace RollupBridge

/-- A bridge whose counterpart is to be deployed: its configuration, the account that signs, and how
bytecode and addresses are hashed. -/
structure Bootstrap where
  bridge : BridgeConfig
  config : BootstrapConfig
  account : Address
  hasher : BytecodeHasher
  addressHash : Bytes → Word

/-- The addresses, fees and calldata of a bootstrap, computed before anything is signed. -/
structure BootstrapPlan where
  governor : Address
  gasPrice : Uint 128
  hashes : BridgeContractHashes
  addresses : BridgeL2Addresses
  publication : PriorityTransaction
  publicationFee : FeeEstimate
  deploymentFee : Uint 256
  deploymentCalldata : Bytes
  deploymentValue : Uint 256
deriving DecidableEq

namespace Bootstrap

def create (bridge : BridgeConfig) (config : BootstrapConfig) (account : Address) :
    Except ConfigError Bootstrap := do
  bridge.validate
  config.validate
  return ⟨bridge, config, account, .standard, keccak256⟩

def oracle (b : Bootstrap) : FeeOracle := .mailbox b.config.mailbox

def publicationParams (b : Bootstrap) (gasPrice : Uint 128) : GasParams :=
  ⟨gasPrice, b.config.publicationGasLimit, b.config.gasPerPubdata⟩

def deploymentParams (b : Bootstrap) (gasPrice : Uint 128) : GasParams :=
  ⟨gasPrice, b.config.deploymentGasLimit, b.config.gasPerPubdata⟩

/-- The request that publishes the token bytecodes, refunded to the signing account. -/
def publicationRequest (b : Bootstrap) (codes : BridgeBytecodes) (value : Uint 256) :
    PriorityTransaction :=
  { PriorityTransaction.publishBytecodes codes.publicationDeps b.config.publicationGasLimit
      b.config.gasPerPubdata with
    refundRecipient := b.account
    requiredValue := value }

/-- The plan for some bytecodes. Governor and gas price are read unless they are configured. The
deployment pays one fee for each of its two contracts; the sum saturates. -/
def plan (b : Bootstrap) (codes : BridgeBytecodes) : Action BootstrapPlan := do
  let hashes ← Action.ofResult .bytecode (codes.hashes b.hasher)
  let governor ← Action.orRead b.config.governor (Mailbox.readGovernor b.config.mailbox)
  let gasPrice ← Action.orRead b.config.gasPrice (Action.ask .gasPrice)
  let addresses := BridgeL2Addresses.compute b.addressHash b.bridge.l1Bridge governor hashes
  let publicationFee ← b.oracle.estimate (b.publicationParams gasPrice) b.config.margin
  let publication := b.publicationRequest codes publicationFee.value
  Action.ofResult .gasParams (publication.ensureCovers publicationFee.baseCost)
  let deploymentFee ← b.oracle.baseCost (b.deploymentParams gasPrice)
  return {
    governor, gasPrice, hashes, addresses, publication, publicationFee, deploymentFee
    deploymentCalldata := deployCounterpartCalldata codes.deploymentDeps addresses.tokenBeacon governor
      deploymentFee deploymentFee
    deploymentValue := Uint.saturatingMul deploymentFee 2 }

end Bootstrap

end RollupBridge
