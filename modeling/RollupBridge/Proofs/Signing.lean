import RollupBridge.Proofs.Rlp
import RollupBridge.Signing.Legacy

namespace RollupBridge

namespace PrivateKey

variable {key : PrivateKey} {signature : Signature}

end PrivateKey

open Rlp (Item decode?)

namespace L1Transaction

variable {tx other : L1Transaction} {a b c : Nat}

/-- The list of the six fields and three more numbers. -/
def parts (tx : L1Transaction) (a b c : Nat) : List Item :=
  tx.fields ++ [.number a, .number b, .number c]

end L1Transaction

namespace PrivateKey

variable {key : PrivateKey} {tx : L1Transaction} {signed : SignedTransaction}

end PrivateKey

end RollupBridge
