import RollupBridge.Artifact.Error
import RollupBridge.Config
import RollupBridge.Bytecode
import RollupBridge.InitState
import RollupBridge.L1.Error
import RollupBridge.Withdrawal.Error

namespace RollupBridge

inductive Stage
  | publication
  | deployment
  | wethUpgrade
deriving DecidableEq

def Stage.name : Stage → String
  | .publication => "publish bytecodes"
  | .deployment => "initialize bridge"
  | .wethUpgrade => "initialize L2 WETH token"

inductive BridgeError
  | rpc (error : RpcError)
  | config (error : ConfigError)
  | artifact (error : ArtifactError)
  | bytecode (error : BytecodeError)
  | input (error : InputError)
  | gasParams (error : GasParamsError)
  | withdrawal (error : WithdrawalError)
  | initState (error : InvalidTransition)
  | contract (text : String)
  | chainIdMismatch (expected actual : Uint 64)
  | transactionReverted (stage : Stage) (hash : Word)
  | counterpartMismatch (expected actual : Address)
  | alreadyFinalized (batch index : Uint 64)
  | batchNotExecuted (batch : Uint 64)
deriving DecidableEq

namespace BridgeError

def message : BridgeError → String
  | .rpc error => error.message
  | .config error => error.message
  | .artifact error => error.message
  | .bytecode error => error.message
  | .input error => error.message
  | .gasParams error => error.message
  | .withdrawal error => error.message
  | .initState error => error.message
  | .contract text => "contract error: " ++ text
  | .chainIdMismatch expected actual =>
    "chain id mismatch: configured " ++ Decimal.write expected.toNat ++ ", node reports " ++
      Decimal.write actual.toNat
  | .transactionReverted stage hash =>
    stage.name ++ " transaction " ++ Hex.write hash.bytes ++ " reverted"
  | .counterpartMismatch expected actual =>
    "L1 bridge reports counterpart " ++ actual.checksum ++ ", expected " ++ expected.checksum
  | .alreadyFinalized batch index =>
    "withdrawal " ++ Decimal.write index.toNat ++ " of batch " ++ Decimal.write batch.toNat ++
      " is already finalized"
  | .batchNotExecuted batch => "batch " ++ Decimal.write batch.toNat ++ " is not executed on L1"

/-- True when the operation may succeed later. -/
def isRetryable : BridgeError → Bool
  | .rpc error => error.isRetryable
  | .batchNotExecuted _ => true
  | _ => false

end BridgeError

end RollupBridge
