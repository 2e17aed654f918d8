import RollupBridge.Merkle
import RollupBridge.Withdrawal.Message

namespace RollupBridge

/-- A withdrawal message and its place in a batch. -/
structure WithdrawalProof where
  l1BatchNumber : Uint 64
  l2MessageIndex : Uint 64
  l2TxNumberInBlock : Uint 16
  message : Bytes
  merkleProof : List Word
deriving DecidableEq

structure ContractCall where
  target : Address
  calldata : Bytes
deriving DecidableEq

namespace WithdrawalFinalizer

def finalizeCall (f : WithdrawalFinalizer) (proof : WithdrawalProof) : ContractCall where
  target := f.l1Bridge
  calldata := L1Bridge.finalizeWithdrawal.call
    (proof.l1BatchNumber.setWidth 256, proof.l2MessageIndex.setWidth 256, proof.l2TxNumberInBlock,
      proof.message, proof.merkleProof, ())

/-- The call for a proof whose message is from the counterpart and that has a path. The path itself
is not checked. -/
def validate (f : WithdrawalFinalizer) (proof : WithdrawalProof) :
    Except WithdrawalError ContractCall := do
  let _ ← f.parseMessage proof.message
  if proof.merkleProof.isEmpty then .error .missingProof
  return f.finalizeCall proof

/-- The leaf of the log that carries a proof's message. -/
def proofLeaf (H : Bytes → Word) (f : WithdrawalFinalizer) (proof : WithdrawalProof) : Word :=
  Merkle.leaf H proof.l2TxNumberInBlock (f.layout.logSender f.l2Counterpart) proof.message

/-- Checks that a proof leads to the root of its batch. -/
def verifyInclusion (H : Bytes → Word) (f : WithdrawalFinalizer) (proof : WithdrawalProof)
    (batchRoot : Word) : Except WithdrawalError Unit := do
  let computed ← Merkle.calculateRoot H proof.merkleProof proof.l2MessageIndex (f.proofLeaf H proof)
  if computed ≠ batchRoot then .error (.inclusionMismatch batchRoot computed)

end WithdrawalFinalizer

end RollupBridge
