import RollupBridge.L1.Action

namespace RollupBridge

/-- Who is asked for the base cost of a request: the local fee model or the mailbox. -/
inductive FeeOracle
  | localModel
  | mailbox (address : Address)
deriving DecidableEq

/-- A base cost and the value to attach with the margin put on. -/
structure FeeEstimate where
  baseCost : Uint 256
  margin : SafetyMargin
  value : Uint 256
deriving DecidableEq

/-- The estimate for a base cost with a margin put on. -/
def FeeEstimate.ofCost (margin : SafetyMargin) (cost : Uint 256) : FeeEstimate :=
  ⟨cost, margin, margin.apply cost⟩

/-- The estimate of the local fee model, for which nobody has to be asked. -/
def LocalFeeModel.estimate (params : GasParams) (margin : SafetyMargin) :
    Except GasParamsError FeeEstimate := do
  return .ofCost margin (← baseCost params)

namespace FeeOracle

/-- The base cost of a request. Parameters that no request can be made with are refused before the
oracle is asked. -/
def baseCost (oracle : FeeOracle) (params : GasParams) : Action (Uint 256) := do
  Action.ofResult .gasParams params.validate
  match oracle with
  | .localModel => Action.ofResult .gasParams (LocalFeeModel.baseCost params)
  | .mailbox address => Mailbox.readBaseCost address params

/-- The base cost of a request and the value to attach. -/
def estimate (oracle : FeeOracle) (params : GasParams) (margin : SafetyMargin) :
    Action FeeEstimate := do
  return .ofCost margin (← oracle.baseCost params)

end FeeOracle

end RollupBridge
