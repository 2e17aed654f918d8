import RollupBridge.Contract
import RollupBridge.Fee

namespace RollupBridge

/-- A request for a transaction on L2. -/
structure PriorityTransaction where
  target : Address
  l2Value : Uint 256
  calldata : Bytes
  l2GasLimit : Uint 64
  gasPerPubdata : Uint 64
  factoryDeps : List Bytes
  refundRecipient : Address
  requiredValue : Uint 256
deriving DecidableEq

namespace PriorityTransaction

def create (target : Address) (l2GasLimit gasPerPubdata : Uint 64) : PriorityTransaction where
  target := target
  l2Value := 0
  calldata := []
  l2GasLimit := l2GasLimit
  gasPerPubdata := gasPerPubdata
  factoryDeps := []
  refundRecipient := FixedBytes.zero
  requiredValue := 0

/-- A request that only publishes bytecodes. Its target is the zero address. -/
def publishBytecodes (factoryDeps : List Bytes) (l2GasLimit gasPerPubdata : Uint 64) :
    PriorityTransaction :=
  { create FixedBytes.zero l2GasLimit gasPerPubdata with factoryDeps }

/-- What the cost of the request depends on at an L1 gas price. -/
def gasParams (tx : PriorityTransaction) (gasPrice : Uint 128) : GasParams :=
  ⟨gasPrice, tx.l2GasLimit, tx.gasPerPubdata⟩

/-- Refuses a request whose value is below the base cost and the L2 value together. The sum
saturates. -/
def ensureCovers (tx : PriorityTransaction) (baseCost : Uint 256) : Except GasParamsError Unit :=
  let required := Uint.saturatingAdd baseCost tx.l2Value
  if tx.requiredValue < required then .error (.insufficientValue required tx.requiredValue) else .ok ()

/-- The call of the mailbox that makes the request. -/
def encode (tx : PriorityTransaction) : Bytes :=
  Mailbox.requestL2Transaction.call
    (tx.target, tx.l2Value, tx.l2GasLimit.setWidth 256, tx.gasPerPubdata.setWidth 256, tx.calldata,
      tx.factoryDeps, tx.refundRecipient, tx.requiredValue, ())

end PriorityTransaction

end RollupBridge
