import RollupBridge.PriorityTransaction

namespace RollupBridge

/-- The upgrade of the wrapped ETH token on L2. -/
structure WethUpgrade where
  tokenProxy : Address
  tokenImplementation : Address
  l2WethBridge : Address
  l1WethToken : Address
deriving DecidableEq

namespace WethUpgrade

/-- The call of the token proxy: switch the implementation, then bind the token. -/
def l2Calldata (upgrade : WethUpgrade) : Bytes :=
  UpgradeableProxy.upgradeToAndCall.call
    (upgrade.tokenImplementation,
      L2Weth.bindToken.call (upgrade.l2WethBridge, upgrade.l1WethToken, ()), ())

def priorityTransaction (upgrade : WethUpgrade) : PriorityTransaction :=
  { PriorityTransaction.create upgrade.tokenProxy GasParams.deploymentGasLimit
      GasParams.requiredGasPerPubdata with
    calldata := upgrade.l2Calldata }

end WethUpgrade

end RollupBridge
