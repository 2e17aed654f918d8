import RollupBridge.Withdrawal.Error
import RollupBridge.Withdrawal.Layout

namespace RollupBridge

/-- A bridge on L1, its counterpart on L2, and the layout of the messages between them. -/
structure WithdrawalFinalizer where
  l1Bridge : Address
  l2Counterpart : Address
  layout : MessageLayout
deriving DecidableEq

/-- What a withdrawal message says. The receiver is only named by ETH withdrawals. -/
structure WithdrawalMessage where
  l2Sender : Address
  l1Receiver : Option Address
  payload : Bytes
deriving DecidableEq

namespace WithdrawalMessage

/-- The amount of an ETH withdrawal, the first word of its payload. -/
def ethAmount (message : WithdrawalMessage) : Option (Uint 256) :=
  if message.l1Receiver.isSome ∧ 32 ≤ message.payload.length then
    some (BitVec.ofNat 256 (Bytes.toNat (message.payload.take 32)))
  else none

/-- The text of a message in a layout. In ETH withdrawals the sender stands inside the payload. -/
def encode (layout : MessageLayout) (message : WithdrawalMessage) : Bytes :=
  match layout with
  | .padded selector _ => selector.bytes ++ Bytes.zeros 12 ++ message.l2Sender.bytes ++ message.payload
  | .ethWithdrawal =>
    layout.selector.bytes ++ (message.l1Receiver.getD FixedBytes.zero).bytes ++
      message.payload.take 32 ++ message.l2Sender.bytes ++ message.payload.drop 32

end WithdrawalMessage

namespace WithdrawalFinalizer

/-- What follows the selector, read by the layout. The receiver is checked here, the sender is not. -/
def readBody (f : WithdrawalFinalizer) (message : Bytes) : Except WithdrawalError WithdrawalMessage :=
  match f.layout with
  | .padded _ _ =>
    if ((message.drop 4).take 12).any (· != 0) then .error .senderPadding
    else .ok ⟨FixedBytes.slice message 16, none, message.drop 36⟩
  | .ethWithdrawal =>
    let receiver : Address := FixedBytes.slice message 4
    if receiver ≠ f.l1Bridge then .error (.unauthorizedReceiver f.l1Bridge receiver)
    else
      let payload := (message.drop 24).take 32 ++ (message.drop 76).take 20
      .ok ⟨FixedBytes.slice message 56, some receiver, payload⟩

def parseMessage (f : WithdrawalFinalizer) (message : Bytes) :
    Except WithdrawalError WithdrawalMessage := do
  if message.length ≠ f.layout.messageLength then
    .error (.wrongLength f.layout.messageLength message.length)
  if message.take 4 ≠ f.layout.selector.bytes then
    .error (.wrongSelector f.layout.selector.bytes (message.take 4))
  let parsed ← f.readBody message
  if parsed.l2Sender ≠ f.l2Counterpart then
    .error (.unauthorizedSender f.l2Counterpart parsed.l2Sender)
  return parsed

end WithdrawalFinalizer

end RollupBridge
