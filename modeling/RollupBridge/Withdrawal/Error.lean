import RollupBridge.Address
import RollupBridge.Uint

namespace RollupBridge

inductive WithdrawalError
  | wrongLength (expected actual : Nat)
  | senderPadding
  | wrongSelector (expected actual : Bytes)
  | unauthorizedReceiver (expected actual : Address)
  | unauthorizedSender (expected actual : Address)
  | missingProof
  | proofTooLong (length : Nat)
  | messageIndexOutOfRange (index : Uint 64) (depth : Nat)
  | inclusionMismatch (expected computed : Word)
deriving DecidableEq

namespace WithdrawalError

def message : WithdrawalError → String
  | .wrongLength expected actual =>
    s!"malformed withdrawal message: expected {expected} bytes, got {actual}"
  | .senderPadding => "malformed withdrawal message: non-zero padding in the sender word"
  | .wrongSelector expected actual =>
    "wrong selector: expected " ++ Hex.write expected ++ ", got " ++ Hex.write actual
  | .unauthorizedReceiver expected actual =>
    "unauthorized receiver: expected " ++ expected.checksum ++ ", got " ++ actual.checksum
  | .unauthorizedSender expected actual =>
    "unauthorized sender: expected " ++ expected.checksum ++ ", got " ++ actual.checksum
  | .missingProof => "missing merkle proof"
  | .proofTooLong length => s!"merkle proof of length {length} is too long"
  | .messageIndexOutOfRange index depth =>
    "message index " ++ toString index.toNat ++ s!" out of range for a proof of depth {depth}"
  | .inclusionMismatch expected computed =>
    "inclusion mismatch: batch root " ++ Hex.write expected.bytes ++ ", computed " ++
      Hex.write computed.bytes

end WithdrawalError

end RollupBridge
