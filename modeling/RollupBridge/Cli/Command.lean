import RollupBridge.Cli.Line
import RollupBridge.Cli.Logging
import RollupBridge.Config
import RollupBridge.Node.Client

namespace RollupBridge.Cli

/-- How the L1 node of a bridge is reached and where the bridge lives. -/
structure BridgeOptions where
  endpoint : Option Url
  l1Bridge : Address
  l2Counterpart : Address
  chainId : Option (Uint 64)
  maxRetries : Uint 32
  initialDelay : Nat
  maxDelay : Nat
deriving DecidableEq

/-- What a deployment's address is derived from. The deployer may be an L1 contract. -/
structure DeriveOptions where
  deployer : Address
  bytecodeHash : Word
  constructorInput : Bytes
  salt : Option Word
  isAliased : Bool
deriving DecidableEq

/-- A bytecode file, and the most words it may have. -/
structure HashOptions where
  path : String
  maxWords : Option (Uint 16)
deriving DecidableEq

/-- What the cost of a request is estimated for. -/
structure EstimateOptions where
  endpoint : Option Url
  mailbox : Option Address
  gasPrice : Option (Uint 128)
  l2GasLimit : Uint 64
  gasPerPubdata : Uint 64
  margin : SafetyMargin
  isOffline : Bool
deriving DecidableEq

structure BootstrapOptions where
  bridge : BridgeOptions
  privateKey : String
  artifacts : String
  mailbox : Address
  governor : Option Address
  gasPrice : Option (Uint 128)
  nonce : Option (Uint 64)
  margin : SafetyMargin
  confirmations : Uint 64
  receiptTimeout : Nat
deriving DecidableEq

structure FinalizeOptions where
  bridge : BridgeOptions
  proof : String
  layout : MessageLayout
  mailbox : Option Address
  isOffline : Bool
deriving DecidableEq

/-- How the L2 WETH token is upgraded. With a private key the upgrade is submitted. -/
structure WethOptions where
  endpoint : Url
  mailbox : Address
  l2WethBridge : Address
  tokenProxy : Address
  tokenImplementation : Address
  l1WethToken : Address
  privateKey : Option String
  gasPrice : Option (Uint 128)
  nonce : Option (Uint 64)
  receiptTimeout : Nat
deriving DecidableEq

inductive Command
  | deriveAddress (options : DeriveOptions)
  | hashBytecode (options : HashOptions)
  | estimateCost (options : EstimateOptions)
  | initBridges (options : BootstrapOptions)
  | finalizeWithdrawal (options : FinalizeOptions)
  | initWethToken (options : WethOptions)
deriving DecidableEq

/-- The variable that holds the URL of the L1 node. -/
def endpointVariable : String := "BRIDGE_RPC_ENDPOINT"

/-- The variable that holds the address of the mailbox. -/
def mailboxVariable : String := "BRIDGE_MAILBOX_ADDRESS"

def keyVariable : String := "BRIDGE_PRIVATE_KEY"

def layouts : List (String × MessageLayout) := [("padded", .standard), ("eth", .ethWithdrawal)]

namespace BridgeOptions

def args : Args BridgeOptions :=
  let policy : RetryPolicy := {}
  BridgeOptions.mk
    <$> Args.optional "rpc-endpoint" Reader.url (some endpointVariable)
    <*> Args.required "bridge-l1-address" Reader.fixed (some "BRIDGE_L1_ADDRESS")
    <*> Args.withDefault "bridge-l2-counterpart-address" Reader.fixed FixedBytes.zero
      (some "BRIDGE_L2_COUNTERPART_ADDRESS")
    <*> Args.optional "chain-id" Reader.uint (some "BRIDGE_CHAIN_ID")
    <*> Args.withDefault "rpc-max-retries" Reader.signedUint policy.maxAttempts
      (some "BRIDGE_RPC_MAX_RETRIES")
    <*> Args.withDefault "rpc-retry-initial-delay" Reader.duration policy.initialDelay
      (some "BRIDGE_RPC_RETRY_INITIAL_DELAY")
    <*> Args.withDefault "rpc-retry-max-delay" Reader.duration policy.maxDelay
      (some "BRIDGE_RPC_RETRY_MAX_DELAY")

def policy (options : BridgeOptions) : RetryPolicy :=
  ⟨options.maxRetries, options.initialDelay, options.maxDelay⟩

end BridgeOptions

/-- The arguments of `derive-address`. -/
def DeriveOptions.args : Args DeriveOptions :=
  DeriveOptions.mk
    <$> Args.required "deployer" Reader.fixed
    <*> Args.required "bytecode-hash" Reader.fixed
    <*> Args.withDefault "constructor-input" Reader.bytes []
    <*> Args.optional "salt" Reader.fixed
    <*> Args.flag "alias"

/-- The arguments of `hash-bytecode`. -/
def HashOptions.args : Args HashOptions :=
  HashOptions.mk <$> Args.operand "path" Reader.path <*> Args.optional "max-words" Reader.signedUint

/-- The arguments of `estimate-cost`. -/
def EstimateOptions.args : Args EstimateOptions :=
  EstimateOptions.mk
    <$> Args.optional "rpc-endpoint" Reader.url (some endpointVariable)
    <*> Args.optional "mailbox-address" Reader.fixed (some mailboxVariable)
    <*> Args.optional "gas-price" Reader.gasPrice
    <*> Args.withDefault "l2-gas-limit" Reader.uint GasParams.deploymentGasLimit
    <*> Args.withDefault "gas-per-pubdata" Reader.uint GasParams.requiredGasPerPubdata
    <*> Args.withDefault "margin" Reader.margin .double
    <*> Args.flag "offline"

/-- The arguments of `init-bridges`. -/
def BootstrapOptions.args : Args BootstrapOptions :=
  BootstrapOptions.mk
    <$> BridgeOptions.args
    <*> Args.required "private-key" Reader.text (some keyVariable)
    <*> Args.required "artifacts-dir" Reader.path (some "BRIDGE_ARTIFACTS_DIR")
    <*> Args.required "mailbox-address" Reader.fixed (some mailboxVariable)
    <*> Args.optional "governor" Reader.fixed
    <*> Args.optional "gas-price" Reader.gasPrice
    <*> Args.optional "nonce" Reader.uint
    <*> Args.withDefault "margin" Reader.margin .double
    <*> Args.withDefault "confirmations" Reader.uint BootstrapConfig.minConfirmations
    <*> Args.withDefault "receipt-timeout" Reader.duration RollupBridge.NodeClient.standardReceiptTimeout

/-- The arguments of `finalize-withdrawal`. -/
def FinalizeOptions.args : Args FinalizeOptions :=
  FinalizeOptions.mk
    <$> BridgeOptions.args
    <*> Args.required "proof" Reader.path
    <*> Args.withDefault "layout" (Reader.choice layouts) .standard
    <*> Args.optional "mailbox-address" Reader.fixed (some mailboxVariable)
    <*> Args.flag "offline"

/-- The arguments of `init-l2-weth-token`. -/
def WethOptions.args : Args WethOptions :=
  WethOptions.mk
    <$> Args.required "rpc-endpoint" Reader.url (some endpointVariable)
    <*> Args.required "mailbox-address" Reader.fixed (some mailboxVariable)
    <*> Args.required "l2-weth-bridge" Reader.fixed (some "CONTRACTS_L2_WETH_BRIDGE_ADDR")
    <*> Args.required "l2-weth-token-proxy" Reader.fixed (some "CONTRACTS_L2_WETH_TOKEN_PROXY_ADDR")
    <*> Args.required "l2-weth-token-impl" Reader.fixed (some "CONTRACTS_L2_WETH_TOKEN_IMPL_ADDR")
    <*> Args.required "l1-weth-token" Reader.fixed (some "CONTRACTS_L1_WETH_TOKEN_ADDR")
    <*> Args.optional "private-key" Reader.text (some keyVariable)
    <*> Args.optional "gas-price" Reader.gasPrice
    <*> Args.optional "nonce" Reader.uint
    <*> Args.withDefault "receipt-timeout" Reader.duration RollupBridge.NodeClient.standardReceiptTimeout

def commands : List (String × Args Command) :=
  [("derive-address", .deriveAddress <$> DeriveOptions.args),
    ("hash-bytecode", .hashBytecode <$> HashOptions.args),
    ("estimate-cost", .estimateCost <$> EstimateOptions.args),
    ("init-bridges", .initBridges <$> BootstrapOptions.args),
    ("finalize-withdrawal", .finalizeWithdrawal <$> FinalizeOptions.args),
    ("init-l2-weth-token", .initWethToken <$> WethOptions.args)]

def environmentNames : List String :=
  (LogOptions.args.slots ++ commands.flatMap fun (_, args) => args.slots).filterMap Slot.env

/-- A command line: the command, and what is logged. -/
def readCommandLine (env : String → Option String) (arguments : List String) :
    Except Stop (Command × LogOptions) :=
  readLine LogOptions.args commands env arguments

end RollupBridge.Cli
