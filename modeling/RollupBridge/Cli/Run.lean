import RollupBridge.Artifact.Search
import RollupBridge.Bootstrap.Deploy
import RollupBridge.Cli.Command
import RollupBridge.Json.Shape
import RollupBridge.Signing.Legacy
import RollupBridge.WethUpgrade
import RollupBridge.Withdrawal.Service

namespace RollupBridge.Cli

/-- Where a command runs: how it reads a file, searches a directory, posts to a node and lets time
pass. -/
structure Host (m : Type → Type) (α : Type) where
  read : String → m (Except String Bytes)
  search : String → m (Except String (FileTree α))
  post : Url → NodeCall → m NodeReply
  pause : Nat → m Unit

inductive RunError
  /-- An option is missing that this use of the command needs. -/
  | missingOption (text : String)
  | unreadable (path : String)
  | notHexadecimal (path : String)
  | malformedProof
  | malformedKey
  | bridge (error : BridgeError)
deriving DecidableEq

/-- The text of an error, without what caused it. -/
def RunError.message : RunError → String
  | .missingOption text => text
  | .unreadable path => "failed to read " ++ path
  | .notHexadecimal path => path ++ " is not valid hex"
  | .malformedProof => "invalid withdrawal proof"
  | .malformedKey => "invalid private key"
  | .bridge error => error.message

/-- The wei of an ether. -/
def etherWei : Nat := 1000000000000000000

/-- An amount of wei in ether, with all decimals. -/
def etherText (wei : Nat) : String :=
  let decimals := Decimal.digits (wei % etherWei)
  Decimal.write (wei / etherWei) ++ "." ++
    String.ofList (List.replicate (18 - decimals.length) '0' ++ decimals)

/-- Lines with their ends. -/
def printed (lines : List String) : String := String.join (lines.map fun line => line ++ "\n")

abbrev Step (m : Type → Type) := ExceptT RunError m

namespace Step

variable {m : Type → Type} [Monad m] {α ε : Type}

/-- A result that was computed without the host. -/
def ofResult (wrap : ε → BridgeError) (result : Except ε α) : Step m α :=
  ExceptT.mk (pure (result.mapError fun error => .bridge (wrap error)))

/-- A value that must be there. -/
def ofOption (error : RunError) : Option α → Step m α
  | some value => pure value
  | none => throw error

/-- A procedure with the answers of a node. Signatures are made by `sign`. -/
def ofAction (client : NodeClient m) (sign : L1Transaction → Except RpcError SignedTransaction)
    (action : Action α) : Step m α :=
  ExceptT.mk do return (← action.run.run (client.answer sign)).mapError .bridge

end Step

/-- The signer of procedures that sign nothing. -/
def noSigner (_ : L1Transaction) : Except RpcError SignedTransaction :=
  .error (.signing "no private key")

namespace BridgeOptions

/-- The checked configuration of a bridge, which needs the endpoint and the chain. -/
def config (options : BridgeOptions) : Except RunError BridgeConfig := do
  match options.endpoint, options.chainId with
  | none, _ => .error (.missingOption "--rpc-endpoint is required")
  | _, none => .error (.missingOption "--chain-id is required")
  | some endpoint, some chainId =>
    let config : BridgeConfig := ⟨endpoint, options.l1Bridge, options.l2Counterpart, chainId⟩
    config.validate.mapError fun error => .bridge (.config error)
    return config

end BridgeOptions

namespace BootstrapOptions

def config (options : BootstrapOptions) : BootstrapConfig where
  mailbox := options.mailbox
  governor := options.governor
  confirmations := options.confirmations
  margin := options.margin
  gasPrice := options.gasPrice
  nonce := options.nonce

end BootstrapOptions

namespace WethOptions

def config (options : WethOptions) : WethConfig where
  mailbox := options.mailbox
  upgrade := ⟨options.tokenProxy, options.tokenImplementation, options.l2WethBridge, options.l1WethToken⟩
  gasPrice := options.gasPrice
  nonce := options.nonce

end WethOptions

namespace Host

variable {m : Type → Type} [Monad m] {α : Type}

def client (host : Host m α) (endpoint : Url) (policy : RetryPolicy) (receiptTimeout : Nat) :
    NodeClient m :=
  ⟨host.post endpoint, host.pause, policy, receiptTimeout, NodeClient.standardPollInterval⟩

def readText (host : Host m α) (path : String) : Step m (List Char) := do
  match ← ExceptT.lift (host.read path) with
  | .error _ => throw (.unreadable path)
  | .ok content => Step.ofOption (.unreadable path) (Text.ofUtf8? content)

def readArtifacts (host : Host m α) (directory : String) : Step m BridgeBytecodes := do
  match ← ExceptT.lift (host.search directory) with
  | .error cause => throw (.bridge (.artifact (.unwalkable directory cause)))
  | .ok tree =>
    let codes ← ExceptT.lift (Artifact.readBridge (fun path _ => host.read path) directory tree)
    Step.ofResult .artifact codes

end Host

/-- The address that `derive-address` prints. -/
def DeriveOptions.address (options : DeriveOptions) : Except InputError Address := do
  let hash ← BytecodeHash.ofBytes options.bytecodeHash.bytes
  let deployer := if options.isAliased then options.deployer.applyAlias .contract else options.deployer
  return Deployment.address keccak256
    ⟨deployer, hash, options.constructorInput, options.salt.getD FixedBytes.zero⟩

namespace HashOptions

variable {m : Type → Type} [Monad m] {α : Type}

/-- The hash that `hash-bytecode` prints. Blanks around the digits in the file are ignored. -/
def hash (options : HashOptions) (host : Host m α) : Step m BytecodeHash := do
  let hasher : BytecodeHasher := match options.maxWords with
    | some maxWords => { BytecodeHasher.standard with maxWords }
    | none => .standard
  let text ← host.readText options.path
  let code ← Step.ofOption (.notHexadecimal options.path) (Hex.read? (Text.trim text))
  Step.ofResult .bytecode (hasher.hash code)

end HashOptions

namespace EstimateOptions

variable {m : Type → Type} [Monad m] {α : Type}

/-- The parameters of the request at a gas price. -/
def params (options : EstimateOptions) (gasPrice : Uint 128) : GasParams :=
  ⟨gasPrice, options.l2GasLimit, options.gasPerPubdata⟩

/-- The estimate by the mailbox. The gas price is read unless it is given. -/
def quote (options : EstimateOptions) (mailbox : Address) : Action FeeEstimate := do
  let gasPrice ← match options.gasPrice with
    | some gasPrice => pure gasPrice
    | none => Action.ask .gasPrice
  (FeeOracle.mailbox mailbox).estimate (options.params gasPrice) options.margin

/-- The estimate that `estimate-cost` prints. -/
def estimate (options : EstimateOptions) (host : Host m α) : Step m FeeEstimate := do
  if options.isOffline then
    let gasPrice ← Step.ofOption (.missingOption "--gas-price is required with --offline")
      options.gasPrice
    Step.ofResult .gasParams (LocalFeeModel.estimate (options.params gasPrice) options.margin)
  else
    let endpoint ← Step.ofOption
      (.missingOption "--rpc-endpoint is required unless --offline is set") options.endpoint
    let mailbox ← Step.ofOption
      (.missingOption "--mailbox-address is required unless --offline is set") options.mailbox
    let client := host.client endpoint {} NodeClient.standardReceiptTimeout
    Step.ofAction client noSigner (options.quote mailbox)

/-- A line of the output of `estimate-cost`. -/
def line (label : String) (wei : Uint 256) : String :=
  label ++ ": " ++ Decimal.write wei.toNat ++ " wei (" ++ etherText wei.toNat ++ " ETH)"

/-- The output of `estimate-cost`. -/
def output (estimate : FeeEstimate) : List String :=
  [line "base cost" estimate.baseCost,
    line ("value (" ++ estimate.margin.display ++ " margin)") estimate.value]

end EstimateOptions

namespace BootstrapOptions

variable {m : Type → Type} [Monad m] {α : Type}

/-- Deploys the counterpart, and returns the outcome and the state that is reached. -/
def deploy (options : BootstrapOptions) (host : Host m α) :
    Step m (BootstrapOutcome × InitState) := do
  let bridge ← ExceptT.mk (pure options.bridge.config)
  let key ← Step.ofOption .malformedKey (PrivateKey.parse? options.privateKey.toList)
  let codes ← host.readArtifacts options.artifacts
  let client := host.client bridge.endpoint options.bridge.policy options.receiptTimeout
  let bootstrap ← Step.ofResult .config (Bootstrap.create bridge options.config key.address)
  let program := (bootstrap.deploy codes).run.run .unpublished
  let (result, state) ← ExceptT.lift (program.run (client.answer key.signTransaction))
  return (← Step.ofResult id result, state)

/-- The output of `init-bridges`. -/
def output (outcome : BootstrapOutcome) (state : InitState) : List String :=
  ["state: " ++ state.name,
    "publish tx: " ++ Hex.write outcome.publication.hash.bytes,
    "initialize tx: " ++ Hex.write outcome.deployment.hash.bytes,
    "L2 bridge implementation: " ++ outcome.addresses.implementation.checksum,
    "L2 bridge: " ++ outcome.addresses.proxy.checksum,
    "L2 standard token: " ++ outcome.addresses.standardToken.checksum,
    "L2 token beacon: " ++ outcome.addresses.tokenBeacon.checksum]

end BootstrapOptions

namespace FinalizeOptions

variable {m : Type → Type} [Monad m] {α : Type}

/-- The call for a proof, checked without a node. -/
def checkOffline (options : FinalizeOptions) (proof : WithdrawalProof) :
    Except RunError ContractCall :=
  let counterpart := options.bridge.l2Counterpart
  if counterpart = FixedBytes.zero then
    .error (.missingOption "--bridge-l2-counterpart-address is required")
  else
    let finalizer : WithdrawalFinalizer := ⟨options.bridge.l1Bridge, counterpart, options.layout⟩
    (finalizer.validate proof).mapError fun error => .bridge (.withdrawal error)

/-- The call for a proof, checked against the state of L1. -/
def checkOnline (options : FinalizeOptions) (host : Host m α) (proof : WithdrawalProof) :
    Step m ContractCall := do
  let bridge ← ExceptT.mk (pure options.bridge.config)
  let client := host.client bridge.endpoint options.bridge.policy NodeClient.standardReceiptTimeout
  let service ← Step.ofResult .config
    (WithdrawalService.create bridge ⟨options.layout, options.mailbox⟩)
  Step.ofAction client noSigner (service.prepare proof)

/-- The call that `finalize-withdrawal` prints. -/
def call (options : FinalizeOptions) (host : Host m α) : Step m ContractCall := do
  let text ← host.readText options.proof
  let proof ← Step.ofOption .malformedProof (JsonForm.parse? (String.ofList text))
  if options.isOffline then ExceptT.mk (pure (options.checkOffline proof))
  else options.checkOnline host proof

/-- The output of `finalize-withdrawal`. -/
def output (call : ContractCall) : List String :=
  ["to: " ++ call.target.checksum, "calldata: " ++ Hex.write call.calldata]

end FinalizeOptions

namespace WethOptions

variable {m : Type → Type} [Monad m] {α : Type}

/-- The key to sign with, if one is given. -/
def key? (options : WethOptions) : Except RunError (Option PrivateKey) :=
  match options.privateKey with
  | none => .ok none
  | some text =>
    match PrivateKey.parse? text.toList with
    | some key => .ok (some key)
    | none => .error .malformedKey

/-- Makes the upgrade, or prints the call for governance if there is no key, and returns the output
of `init-l2-weth-token`. -/
def upgrade (options : WethOptions) (host : Host m α) : Step m (List String) := do
  Step.ofResult .config (options.endpoint.requireHost "rpc-endpoint")
  let key ← ExceptT.mk (pure options.key?)
  let client := host.client options.endpoint {} options.receiptTimeout
  Step.ofResult .config options.config.validate
  match key with
  | none =>
    let call ← Step.ofAction client noSigner options.config.governanceCall
    return [call.toJson.indented]
  | some key =>
    let outcome ← Step.ofAction client key.signTransaction (options.config.submit key.address)
    return ["tx: " ++ Hex.write outcome.hash.bytes,
      "gas used: " ++ Decimal.write outcome.gasUsed.toNat]

end WethOptions

namespace Command

variable {m : Type → Type} [Monad m] {α : Type}

/-- Runs a command and returns the lines that it prints. -/
def run (command : Command) (host : Host m α) : Step m (List String) := do
  match command with
  | .deriveAddress options => return [(← Step.ofResult .input options.address).checksum]
  | .hashBytecode options => return [(← options.hash host).display]
  | .estimateCost options => return EstimateOptions.output (← options.estimate host)
  | .initBridges options =>
    let (outcome, state) ← options.deploy host
    return BootstrapOptions.output outcome state
  | .finalizeWithdrawal options => return FinalizeOptions.output (← options.call host)
  | .initWethToken options => options.upgrade host

end Command

/-- What a run of the program leaves behind: its exit code, what it prints, and the text of its
error. -/
structure Outcome where
  exitCode : Nat
  output : String
  error : Option String
deriving DecidableEq

def versionLine : String := "era-bridge 0.1.0"

def helpLines : List String :=
  ["Usage: era-bridge [OPTIONS] <COMMAND>", "", "Commands:"] ++
    commands.map fun (name, _) => "  " ++ name

def runProgram {m : Type → Type} [Monad m] {α : Type} (host : Host m α) (env : String → Option String)
    (arguments : List String) : m Outcome := do
  match readCommandLine env arguments with
  | .error stop =>
    let lines := match stop with
      | .help => helpLines
      | .version => [versionLine]
      | _ => []
    return ⟨stop.exitCode, printed lines, stop.message⟩
  | .ok (command, _) =>
    match ← (command.run host).run with
    | .ok lines => return ⟨0, printed lines, none⟩
    | .error error => return ⟨1, "", some error.message⟩

end RollupBridge.Cli
