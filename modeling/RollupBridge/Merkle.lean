import RollupBridge.Withdrawal.Error

namespace RollupBridge.Merkle

/-- The system contract that sends messages to L1. -/
def messenger : Address := FixedBytes.ofNat 0x8008

/-- The shard of every log. -/
def shardId : UInt8 := 0

/-- A path must be shorter than this. -/
def maxPathLength : Nat := 256

/-- The bytes of a log. -/
def logLength : Nat := 88

/-- The log of a message: shard, service flag, transaction number, messenger, sender and the hash of
the message. -/
def log (H : Bytes → Word) (txNumber : Uint 16) (sender : Address) (message : Bytes) : Bytes :=
  shardId :: 1 :: Bytes.ofNat 2 txNumber.toNat ++ messenger.bytes ++ (Word.ofAddress sender).bytes ++
    (H message).bytes

/-- The leaf of a log. It hashes 88 bytes and an inner node 64, so neither can pass for the other
without a collision. -/
def leaf (H : Bytes → Word) (txNumber : Uint 16) (sender : Address) (message : Bytes) : Word :=
  H (log H txNumber sender message)

/-- The node above two nodes. -/
def join (H : Bytes → Word) (left right : Word) : Word := H (left.bytes ++ right.bytes)

/-- Climbs from a node along the siblings of a path. The bits of `index`, lowest first, say on which
side each sibling stands. -/
def climb (H : Bytes → Word) : (path : List Word) → (index : Nat) → Word → Word
  | [], _, node => node
  | sibling :: path, index, node =>
    climb H path (index / 2) (if index % 2 = 0 then join H node sibling else join H sibling node)

/-- The root a path leads to, for an index that a tree of the path's depth has. -/
def calculateRoot (H : Bytes → Word) (path : List Word) (index : Uint 64) (leaf : Word) :
    Except WithdrawalError Word :=
  if path.isEmpty then .error .missingProof
  else if maxPathLength ≤ path.length then .error (.proofTooLong path.length)
  else if Nat.pow 2 path.length ≤ index.toNat then .error (.messageIndexOutOfRange index path.length)
  else .ok (climb H path index.toNat leaf)

end RollupBridge.Merkle
