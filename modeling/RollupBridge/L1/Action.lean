import RollupBridge.Contract
import RollupBridge.Error
import RollupBridge.L1.Program

namespace RollupBridge

/-- A procedure that ends in a value or an error. -/
abbrev Action := ExceptT BridgeError Program

namespace Action

def ask (r : Request) : Action r.Payload :=
  ExceptT.mk (.ask r fun answer => .done (answer.mapError .rpc))

def ofResult {ε α : Type} (wrap : ε → BridgeError) (result : Except ε α) : Action α :=
  ExceptT.mk (.done (result.mapError wrap))

/-- A configured value, or else what a procedure reads. -/
def orRead {α : Type} (configured : Option α) (read : Action α) : Action α :=
  match configured with
  | some value => pure value
  | none => read

end Action

/-- Refuses the outcome of a transaction that was reverted. -/
def TransactionOutcome.requireSuccess (outcome : TransactionOutcome) (stage : Stage) :
    Except BridgeError Unit :=
  if outcome.success then .ok () else .error (.transactionReverted stage outcome.hash)

def View.read (view : View) (contract : Address) (args : Abi.Args view.params) :
    Action view.returns.Value := do
  match view.decodeOutput (← Action.ask (.call contract (view.call args))) with
  | some value => return value
  | none =>
    throw (.contract ("failed to decode " ++ view.signature ++
      " output: ABI decoding failed: buffer overrun while deserializing"))

namespace Mailbox

/-- The least value that a request with the given parameters must carry. -/
def readBaseCost (mailbox : Address) (params : GasParams) : Action (Uint 256) :=
  l2TransactionBaseCost.read mailbox
    (params.gasPrice.setWidth 256, params.l2GasLimit.setWidth 256, params.gasPerPubdata.setWidth 256,
      ())

def readGovernor (mailbox : Address) : Action Address := getGovernor.read mailbox ()

/-- The logs root of a batch, zero until the batch is executed. -/
def readLogsRoot (mailbox : Address) (batch : Uint 64) : Action Word :=
  l2LogsRootHash.read mailbox (batch.setWidth 256, ())

end Mailbox

namespace L1Bridge

/-- The counterpart on L2, zero until it is deployed. -/
def readCounterpart (bridge : Address) : Action Address := l2Bridge.read bridge ()

/-- Whether the withdrawal at an index of a batch has been finalized. -/
def readFinalized (bridge : Address) (batch index : Uint 64) : Action Bool :=
  isWithdrawalFinalized.read bridge (batch.setWidth 256, index.setWidth 256, ())

end L1Bridge

end RollupBridge
