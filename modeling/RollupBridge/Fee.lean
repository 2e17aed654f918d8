import RollupBridge.Uint

namespace RollupBridge

/-- Why gas parameters, a margin or a value are refused. -/
inductive GasParamsError
  | zeroL2GasLimit
  | zeroGasPerPubdata
  | l2GasLimitTooHigh (limit max : Uint 64)
  | invalidMargin (numerator denominator : Uint 64)
  | insufficientValue (required provided : Uint 256)
deriving DecidableEq

def GasParamsError.message : GasParamsError → String
  | .zeroL2GasLimit => "invalid gas params: l2 gas limit must be non-zero"
  | .zeroGasPerPubdata => "invalid gas params: gas per pubdata byte must be non-zero"
  | .l2GasLimitTooHigh limit max =>
    "invalid gas params: l2 gas limit " ++ toString limit.toNat ++ " exceeds the maximum of " ++
      toString max.toNat
  | .invalidMargin numerator denominator =>
    "invalid gas params: safety margin " ++ toString numerator.toNat ++ "/" ++
      toString denominator.toNat ++ " must be at least 1"
  | .insufficientValue required provided =>
    "invalid gas params: value " ++ toString provided.toNat ++ " does not cover the required " ++
      toString required.toNat

structure GasParams where
  gasPrice : Uint 128
  l2GasLimit : Uint 64
  gasPerPubdata : Uint 64
deriving DecidableEq

namespace GasParams

/-- The largest L2 gas limit of a request. -/
def maxL2GasLimit : Uint 64 := 72000000

/-- The L2 gas that the deployment of one contract may use. -/
def deploymentGasLimit : Uint 64 := 10000000

/-- The L2 gas per byte of pubdata that the rollup requires. -/
def requiredGasPerPubdata : Uint 64 := 800

/-- Refuses parameters that no request can be made with. -/
def validate (params : GasParams) : Except GasParamsError Unit :=
  if params.l2GasLimit = 0 then .error .zeroL2GasLimit
  else if params.gasPerPubdata = 0 then .error .zeroGasPerPubdata
  else if maxL2GasLimit < params.l2GasLimit then
    .error (.l2GasLimitTooHigh params.l2GasLimit maxL2GasLimit)
  else .ok ()

end GasParams

namespace LocalFeeModel

/-- The lowest L2 gas price. -/
def fairL2GasPrice : Nat := 500000000

/-- The L1 gas that one byte of pubdata takes. -/
def l1GasPerPubdataByte : Nat := 17

/-- What a byte of pubdata costs on L1. -/
def pubdataPrice (params : GasParams) : Uint 256 :=
  BitVec.ofNat 256 l1GasPerPubdataByte * params.gasPrice.setWidth 256

/-- The least price that pays for the pubdata a unit of L2 gas may publish, by division rounded up. -/
def pubdataGasPrice (params : GasParams) : Uint 256 :=
  let perPubdata := params.gasPerPubdata.setWidth 256
  (pubdataPrice params + perPubdata - 1) / perPubdata

/-- The least price that pays for the pubdata a unit of L2 gas may publish, and at least the fair
price. -/
def l2GasPrice (params : GasParams) : Except GasParamsError (Uint 256) := do
  params.validate
  let price := pubdataGasPrice params
  let fairPrice := BitVec.ofNat 256 fairL2GasPrice
  return if price < fairPrice then fairPrice else price

def baseCost (params : GasParams) : Except GasParamsError (Uint 256) := do
  return (← l2GasPrice params) * params.l2GasLimit.setWidth 256

end LocalFeeModel

/-- A factor of at least one, put on a quoted cost. -/
structure SafetyMargin where
  numerator : Uint 64
  denominator : Uint 64
  denominator_ne_zero : denominator ≠ 0
  denominator_le_numerator : denominator ≤ numerator
deriving DecidableEq

namespace SafetyMargin

def none : SafetyMargin := ⟨1, 1, by decide, by decide⟩

def double : SafetyMargin := ⟨2, 1, by decide, by decide⟩

/-- The margin of a ratio, which must be at least one. -/
def ofRatio (numerator denominator : Uint 64) : Except GasParamsError SafetyMargin :=
  if h : denominator ≠ 0 ∧ denominator ≤ numerator then
    .ok ⟨numerator, denominator, h.1, h.2⟩
  else .error (.invalidMargin numerator denominator)

/-- The cost with the margin put on. The product saturates before it is divided. -/
def apply (margin : SafetyMargin) (cost : Uint 256) : Uint 256 :=
  Uint.saturatingMul cost (margin.numerator.setWidth 256) / margin.denominator.setWidth 256

/-- The text of a margin: `2x`, or `3/2x` where the denominator is not one. -/
def display (margin : SafetyMargin) : String :=
  if margin.denominator = 1 then toString margin.numerator.toNat ++ "x"
  else toString margin.numerator.toNat ++ "/" ++ toString margin.denominator.toNat ++ "x"

end SafetyMargin

end RollupBridge
