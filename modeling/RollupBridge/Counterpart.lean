import RollupBridge.Contract
import RollupBridge.Deployment

namespace RollupBridge

/-- The bytecodes of the contracts that make up the counterpart on L2. -/
structure BridgeBytecodes where
  implementation : Bytes
  proxy : Bytes
  tokenProxy : Bytes
  standardToken : Bytes
  tokenBeacon : Bytes
deriving DecidableEq

structure BridgeContractHashes where
  implementation : BytecodeHash
  proxy : BytecodeHash
  tokenProxy : BytecodeHash
  standardToken : BytecodeHash
  tokenBeacon : BytecodeHash
deriving DecidableEq

/-- Where the contracts live on L2. -/
structure BridgeL2Addresses where
  implementation : Address
  proxy : Address
  standardToken : Address
  tokenBeacon : Address
deriving DecidableEq

namespace BridgeBytecodes

/-- The hashes of all bytecodes, or the first error in the order of the fields. -/
def hashes (codes : BridgeBytecodes) (hasher : BytecodeHasher) :
    Except BytecodeError BridgeContractHashes := do
  let implementation ← hasher.hash codes.implementation
  let proxy ← hasher.hash codes.proxy
  let tokenProxy ← hasher.hash codes.tokenProxy
  let standardToken ← hasher.hash codes.standardToken
  let tokenBeacon ← hasher.hash codes.tokenBeacon
  return ⟨implementation, proxy, tokenProxy, standardToken, tokenBeacon⟩

def publicationDeps (codes : BridgeBytecodes) : List Bytes := [codes.tokenBeacon, codes.standardToken]

def deploymentDeps (codes : BridgeBytecodes) : List Bytes :=
  [codes.implementation, codes.proxy, codes.tokenProxy]

end BridgeBytecodes

/-- The call that sets up the L2 bridge behind its proxy. -/
def setUpCalldata (l1Bridge : Address) (tokenProxyHash : BytecodeHash) (governor : Address) : Bytes :=
  L2Bridge.setUp.call (l1Bridge, tokenProxyHash.word, governor, ())

/-- The constructor arguments of the proxy: implementation, admin and first call. -/
def proxyConstructorInput (implementation admin : Address) (firstCall : Bytes) : Bytes :=
  Abi.encode [.address, .address, .bytes] (implementation, admin, firstCall, ())

/-- The call of the L1 bridge that deploys the counterpart, with a fee for each deployment. -/
def deployCounterpartCalldata (factoryDeps : List Bytes) (tokenBeacon governor : Address)
    (implementationFee proxyFee : Uint 256) : Bytes :=
  L1Bridge.deployCounterpart.call
    (factoryDeps, tokenBeacon, governor, implementationFee, proxyFee, ())

namespace BridgeL2Addresses

/-- The addresses the L1 bridge deploys its counterpart to. The bridge deploys under its alias, and
the proxy deploys the token contracts. -/
def compute (H : Bytes → Word) (l1Bridge governor : Address) (hashes : BridgeContractHashes) :
    BridgeL2Addresses :=
  let deployer := l1Bridge.applyAlias .contract
  let implementation := (Deployment.create deployer hashes.implementation []).address H
  let proxyInput := proxyConstructorInput implementation governor
    (setUpCalldata l1Bridge hashes.tokenProxy governor)
  let proxy := (Deployment.create deployer hashes.proxy proxyInput).address H
  let standardToken := (Deployment.create proxy hashes.standardToken []).address H
  let beaconInput := Abi.encode [.address] (standardToken, ())
  let tokenBeacon := (Deployment.create proxy hashes.tokenBeacon beaconInput).address H
  ⟨implementation, proxy, standardToken, tokenBeacon⟩

end BridgeL2Addresses

end RollupBridge
