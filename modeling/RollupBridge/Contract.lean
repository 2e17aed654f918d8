import RollupBridge.Abi.Decode

namespace RollupBridge

open Abi

/-- A function that is only read, with the type of the one value it returns. -/
structure View extends Function where
  returns : Ty

namespace View

/-- The value in the output of a view. Output behind the first word is ignored. -/
def decodeOutput (view : View) (output : Bytes) : Option view.returns.Value := do
  view.returns.ofWord (← slotAt output 0)

end View

namespace Mailbox

/-- Requests a transaction on L2 and pays for it. The first four slots are the request: target,
value, gas limit and gas per byte of pubdata. -/
def requestL2Transaction : Function where
  signature :=
    "requestL2Transaction((address,uint256,uint256,uint256),bytes,bytes[],address,uint256)"
  selector := FixedBytes.ofNat 0x673459ad
  params :=
    [.address, .uint 256, .uint 256, .uint 256, .bytes, .array .bytes, .address, .uint 256]

/-- The least value a request must carry. -/
def l2TransactionBaseCost : View where
  signature := "l2TransactionBaseCost(uint256,uint256,uint256)"
  selector := FixedBytes.ofNat 0xb473318e
  params := [.uint 256, .uint 256, .uint 256]
  returns := .uint 256

def getGovernor : View where
  signature := "getGovernor()"
  selector := FixedBytes.ofNat 0x4fc07d75
  params := []
  returns := .address

/-- The root of the log tree of an executed batch. -/
def l2LogsRootHash : View where
  signature := "l2LogsRootHash(uint256)"
  selector := FixedBytes.ofNat 0x9cd939e4
  params := [.uint 256]
  returns := .bytes32

/-- Finalizes an ETH withdrawal. Its selector starts the messages of such withdrawals. -/
def finalizeEthWithdrawal : Function where
  signature := "finalizeEthWithdrawal(uint256,uint256,uint256,uint16,bytes,bytes32[])"
  selector := FixedBytes.ofNat 0x0fdef251
  params := [.uint 256, .uint 256, .uint 256, .uint 16, .bytes, .array .bytes32]

end Mailbox

namespace L1Bridge

/-- Deploys the counterpart on L2 and sets it up. -/
def deployCounterpart : Function where
  signature := "initialize(bytes[],address,address,uint256,uint256)"
  selector := FixedBytes.ofNat 0xa0473785
  params := [.array .bytes, .address, .address, .uint 256, .uint 256]

/-- The counterpart on L2, zero before it is deployed. -/
def l2Bridge : View where
  signature := "l2Bridge()"
  selector := FixedBytes.ofNat 0xae1f6aaf
  params := []
  returns := .address

def isWithdrawalFinalized : View where
  signature := "isWithdrawalFinalized(uint256,uint256)"
  selector := FixedBytes.ofNat 0x4bed8212
  params := [.uint 256, .uint 256]
  returns := .bool

def finalizeWithdrawal : Function where
  signature := "finalizeWithdrawal(uint256,uint256,uint16,bytes,bytes32[])"
  selector := FixedBytes.ofNat 0x11a2ccc1
  params := [.uint 256, .uint 256, .uint 16, .bytes, .array .bytes32]

end L1Bridge

namespace L2Bridge

/-- Sets up the L2 bridge behind its proxy. -/
def setUp : Function where
  signature := "initialize(address,bytes32,address)"
  selector := FixedBytes.ofNat 0xd26b3e6e
  params := [.address, .bytes32, .address]

end L2Bridge

namespace L2Weth

/-- Binds the token to its L2 bridge and its L1 token. -/
def bindToken : Function where
  signature := "initializeV2(address,address)"
  selector := FixedBytes.ofNat 0x0840ba72
  params := [.address, .address]

end L2Weth

namespace UpgradeableProxy

def upgradeToAndCall : Function where
  signature := "upgradeToAndCall(address,bytes)"
  selector := FixedBytes.ofNat 0x4f1ef286
  params := [.address, .bytes]

end UpgradeableProxy

end RollupBridge
