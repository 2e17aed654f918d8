import RollupBridge.Address
import RollupBridge.Bytecode

namespace RollupBridge

/-- A `CREATE2` deployment. The deployer is the address on L2, alias included. -/
structure Deployment where
  deployer : Address
  bytecodeHash : BytecodeHash
  constructorInput : Bytes
  salt : Word
deriving DecidableEq

namespace Deployment

/-- The word that marks the preimage of a deployment. -/
def mark : Word := FixedBytes.ofNat 0x2020dba91b30cc0006188af794c2fb30dd8520db7e2c088b7fc7c103c00ca494

/-- A deployment with a zero salt. -/
def create (deployer : Address) (bytecodeHash : BytecodeHash) (constructorInput : Bytes) : Deployment :=
  ⟨deployer, bytecodeHash, constructorInput, FixedBytes.zero⟩

/-- The five words that are hashed. -/
def preimage (H : Bytes → Word) (d : Deployment) : Bytes :=
  mark.bytes ++ (Word.ofAddress d.deployer).bytes ++ d.salt.bytes ++ d.bytecodeHash.word.bytes ++
    (H d.constructorInput).bytes

/-- The address of a deployment: the tail of the hash of its preimage. -/
def address (H : Bytes → Word) (d : Deployment) : Address := Word.lowAddress (H (d.preimage H))

end Deployment

end RollupBridge
