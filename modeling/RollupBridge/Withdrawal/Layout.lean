import RollupBridge.Contract

namespace RollupBridge

/-- The shape of a withdrawal message. -/
inductive MessageLayout
  /-- Selector, sender in a word of its own, payload. -/
  | padded (selector : Selector) (payloadLength : Nat)
  /-- Selector, receiver, amount, sender and recipient without gaps. -/
  | ethWithdrawal
deriving DecidableEq

namespace MessageLayout

/-- The bytes of a token withdrawal behind the sender. -/
def tokenPayloadLength : Nat := 96

/-- The bytes of an ETH withdrawal. -/
def ethMessageLength : Nat := 96

/-- The L2 contract that logs ETH withdrawals. -/
def ethToken : Address := FixedBytes.ofNat 0x800a

def standard : MessageLayout := .padded L1Bridge.finalizeWithdrawal.selector tokenPayloadLength

/-- The length of every message of a layout. -/
def messageLength : MessageLayout → Nat
  | .padded _ payloadLength => 4 + 32 + payloadLength
  | .ethWithdrawal => ethMessageLength

/-- The selector that starts every message of a layout. -/
def selector : MessageLayout → Selector
  | .padded selector _ => selector
  | .ethWithdrawal => Mailbox.finalizeEthWithdrawal.selector

/-- The sender of the log that carries the message. -/
def logSender (layout : MessageLayout) (counterpart : Address) : Address :=
  match layout with
  | .padded _ _ => counterpart
  | .ethWithdrawal => ethToken

end MessageLayout

end RollupBridge
