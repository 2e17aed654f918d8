import RollupBridge.L1.Error
import RollupBridge.L1.Transaction
import RollupBridge.Rlp
import RollupBridge.Signing.Key

namespace RollupBridge

namespace L1Transaction

/-- The six fields that precede chain and signature. -/
def fields (tx : L1Transaction) : List Rlp.Item :=
  [.number tx.nonce.toNat, .number tx.gasPrice.toNat, .number tx.gasLimit.toNat, .bytes tx.target.bytes,
    .number tx.value.toNat, .bytes tx.input]

/-- The text whose hash is signed. It names the chain, so that a transaction is valid on one chain
only. -/
def signingText (tx : L1Transaction) : Bytes :=
  Rlp.encode (.list (tx.fields ++ [.number tx.chainId.toNat, .number 0, .number 0]))

/-- The number that names the chain and the parity of the signature. -/
def chainMark (tx : L1Transaction) (signature : Signature) : Nat :=
  2 * tx.chainId.toNat + 35 + signature.isOdd.toNat

def signedText (tx : L1Transaction) (signature : Signature) : Bytes :=
  Rlp.encode (.list (tx.fields ++
    [.number (tx.chainMark signature), .number signature.r, .number signature.s]))

/-- The transaction as it is sent with a signature. -/
def signedWith (tx : L1Transaction) (signature : Signature) : SignedTransaction :=
  let raw := tx.signedText signature
  ⟨keccak256 raw, tx.nonce, raw⟩

end L1Transaction

def PrivateKey.signTransaction (key : PrivateKey) (tx : L1Transaction) :
    Except RpcError SignedTransaction :=
  (key.sign? (keccak256 tx.signingText)).elim (.error (.signing "no signature found")) fun signature =>
    .ok (tx.signedWith signature)

end RollupBridge
