namespace RollupBridge

/-- Why a request to the node or the signer failed. -/
inductive RpcError
  | transport (text : String)
  | invalidResponse (text : String)
  | timeout (text : String)
  | connection (text : String)
  | signing (text : String)
  | rejected (text : String)
deriving DecidableEq

namespace RpcError

def message : RpcError → String
  | .transport text => "Transport error: " ++ text
  | .invalidResponse text => "Invalid response: " ++ text
  | .timeout text => "Request timeout: " ++ text
  | .connection text => "Connection error: " ++ text
  | .signing text => "Signing error: " ++ text
  | .rejected text => "Transaction rejected: " ++ text

def isRetryable : RpcError → Bool
  | .transport _ => true
  | .timeout _ => true
  | .connection _ => true
  | .invalidResponse _ => false
  | .signing _ => false
  | .rejected _ => false

end RpcError

end RollupBridge
