import RollupBridge.Uint

namespace RollupBridge

/-- A transaction as it is signed. -/
structure L1Transaction where
  target : Address
  value : Uint 256
  input : Bytes
  nonce : Uint 64
  gasLimit : Uint 64
  gasPrice : Uint 128
  chainId : Uint 64
deriving DecidableEq

/-- A transaction as it is sent. -/
structure SignedTransaction where
  hash : Word
  nonce : Uint 64
  raw : Bytes
deriving DecidableEq

/-- What became of a transaction once it has enough confirmations. -/
structure TransactionOutcome where
  hash : Word
  block : Option (Uint 64)
  success : Bool
  gasUsed : Uint 64
deriving DecidableEq

end RollupBridge
