import RollupBridge.Fee
import RollupBridge.Url.Reader
import RollupBridge.Weth
import RollupBridge.Withdrawal.Layout

namespace RollupBridge

/-- Why a configuration is refused. Each check reports the first fault it finds, field by field. -/
inductive ConfigError
  | invalidUrl (field reason : String)
  | outOfRange (field constraint : String) (value : Uint 64)
  | zeroAddress (field : String)
deriving DecidableEq

namespace ConfigError

def message : ConfigError → String
  | .invalidUrl field reason => "invalid " ++ field ++ " URL: " ++ reason
  | .outOfRange field constraint value =>
    field ++ " must be " ++ constraint ++ ", got " ++ Decimal.write value.toNat
  | .zeroAddress field => field ++ " must be a non-zero address"

end ConfigError

/-- Refuses a URL without a host. -/
def Url.requireHost (url : Url) (field : String) : Except ConfigError Unit :=
  if url.host?.isNone then .error (.invalidUrl field "missing host") else .ok ()

/-- Refuses the zero address. -/
def Address.requireNonZero (address : Address) (field : String) : Except ConfigError Unit :=
  if address.isZero then .error (.zeroAddress field) else .ok ()

/-- Refuses zero. -/
def requirePositive (value : Uint 64) (field : String) : Except ConfigError Unit :=
  if value = 0 then .error (.outOfRange field "greater than 0" value) else .ok ()

/-- Where a bridge lives and how to reach it. The counterpart is zero until it is deployed. -/
structure BridgeConfig where
  endpoint : Url
  l1Bridge : Address
  l2Counterpart : Address
  chainId : Uint 64
deriving DecidableEq

namespace BridgeConfig

def validate (config : BridgeConfig) : Except ConfigError Unit := do
  config.endpoint.requireHost "rpc-endpoint"
  config.l1Bridge.requireNonZero "bridge-l1-address"
  requirePositive config.chainId "chain-id"

/-- The counterpart, once it is deployed. -/
def requireCounterpart (config : BridgeConfig) : Except ConfigError Address := do
  config.l2Counterpart.requireNonZero "bridge-l2-counterpart-address"
  return config.l2Counterpart

end BridgeConfig

/-- How a bridge's counterpart is deployed. What is absent is read from L1. -/
structure BootstrapConfig where
  mailbox : Address
  governor : Option Address := none
  publicationGasLimit : Uint 64 := GasParams.maxL2GasLimit
  deploymentGasLimit : Uint 64 := GasParams.deploymentGasLimit
  gasPerPubdata : Uint 64 := GasParams.requiredGasPerPubdata
  publicationL1GasLimit : Uint 64 := 2100000
  confirmations : Uint 64 := 2
  margin : SafetyMargin := .double
  gasPrice : Option (Uint 128) := none
  nonce : Option (Uint 64) := none
deriving DecidableEq

namespace BootstrapConfig

/-- The least number of blocks, its own included, that a transaction must be buried under. -/
def minConfirmations : Uint 64 := 2

/-- Checks the mailbox, the confirmations and the gas limits. -/
def validate (config : BootstrapConfig) : Except ConfigError Unit := do
  config.mailbox.requireNonZero "mailbox-address"
  if config.confirmations < minConfirmations then
    .error (.outOfRange "confirmations" "at least 2" config.confirmations)
  requirePositive config.publicationGasLimit "priority-tx-max-gas-limit"
  requirePositive config.deploymentGasLimit "deploy-counterpart-gas-limit"
  requirePositive config.publicationL1GasLimit "publish-l1-gas-limit"

end BootstrapConfig

/-- How the L2 WETH token is upgraded. What is absent is read from L1. -/
structure WethConfig where
  mailbox : Address
  upgrade : WethUpgrade
  margin : SafetyMargin := .double
  confirmations : Uint 64 := 1
  gasPrice : Option (Uint 128) := none
  nonce : Option (Uint 64) := none
deriving DecidableEq

namespace WethConfig

def validate (config : WethConfig) : Except ConfigError Unit := do
  config.mailbox.requireNonZero "mailbox-address"
  config.upgrade.tokenProxy.requireNonZero "l2-weth-token-proxy"
  config.upgrade.tokenImplementation.requireNonZero "l2-weth-token-impl"
  config.upgrade.l2WethBridge.requireNonZero "l2-weth-bridge"
  config.upgrade.l1WethToken.requireNonZero "l1-weth-token"
  requirePositive config.confirmations "confirmations"

end WethConfig

/-- How withdrawals are checked. Inclusion is checked against the batch roots of the mailbox, if
there is one. -/
structure FinalizerConfig where
  layout : MessageLayout := .standard
  mailbox : Option Address := none
deriving DecidableEq

/-- How often a read is repeated and after which delays, in nanoseconds. -/
structure RetryPolicy where
  maxAttempts : Uint 32 := 5
  initialDelay : Nat := 100000000
  maxDelay : Nat := 10000000000
deriving DecidableEq

namespace RetryPolicy

def retries (policy : RetryPolicy) : Nat := policy.maxAttempts.toNat

/-- The delay before a repetition: doubled each time up to the largest. -/
def delay (policy : RetryPolicy) (repetition : Nat) : Nat :=
  if repetition = 0 then policy.initialDelay
  else min policy.maxDelay (policy.initialDelay * Nat.pow 2 repetition)

end RetryPolicy

end RollupBridge
