import RollupBridge.L1.Action
import RollupBridge.Withdrawal.Finalizer

namespace RollupBridge

/-- A bridge pair whose withdrawals are checked, and the mailbox that holds the batch roots, if
inclusion is to be checked. -/
structure WithdrawalService where
  finalizer : WithdrawalFinalizer
  mailbox : Option Address
  hash : Bytes → Word

namespace WithdrawalService

def create (bridge : BridgeConfig) (config : FinalizerConfig) :
    Except ConfigError WithdrawalService := do
  bridge.validate
  let counterpart ← bridge.requireCounterpart
  return ⟨⟨bridge.l1Bridge, counterpart, config.layout⟩, config.mailbox, keccak256⟩

/-- Checks inclusion against the root that a mailbox holds for the batch. -/
def checkInclusion (s : WithdrawalService) (proof : WithdrawalProof) (mailbox : Address) :
    Action Unit := do
  let root ← Mailbox.readLogsRoot mailbox proof.l1BatchNumber
  if root = FixedBytes.zero then throw (.batchNotExecuted proof.l1BatchNumber)
  Action.ofResult .withdrawal (s.finalizer.verifyInclusion s.hash proof root)

/-- The call that pays a withdrawal out, once its proof is valid, unused and, if asked for, included
in its batch. Nothing is sent. -/
def prepare (s : WithdrawalService) (proof : WithdrawalProof) : Action ContractCall := do
  let call ← Action.ofResult .withdrawal (s.finalizer.validate proof)
  if ← L1Bridge.readFinalized s.finalizer.l1Bridge proof.l1BatchNumber proof.l2MessageIndex then
    throw (.alreadyFinalized proof.l1BatchNumber proof.l2MessageIndex)
  match s.mailbox with
  | some mailbox => s.checkInclusion proof mailbox
  | none => pure ()
  return call

end WithdrawalService

end RollupBridge
