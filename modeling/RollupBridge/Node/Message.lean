import RollupBridge.Json.Reader
import RollupBridge.Json.Writer
import RollupBridge.L1.Program
import RollupBridge.Text.Utf8

namespace RollupBridge

structure NodeCall where
  method : String
  params : Option (List Json)

/-- The answer to a post: none for a reason, or an HTTP status and a body. -/
inductive NodeReply
  | unreachable (reason : String)
  | response (status : Nat) (body : Bytes)
deriving DecidableEq

inductive NodeFault
  | unreachable (reason : String)
  | status (code : Nat) (body : String)
  | refused (text : String)
  | undecodable (text : String)
  | null
deriving DecidableEq

namespace NodeFault

def message : NodeFault → String
  | .unreachable reason => reason
  | .status code body =>
    "HTTP error " ++ Decimal.write code ++ " with " ++
      (if body.isEmpty then "empty body" else "body: " ++ body)
  | .refused text => "server returned an error response: " ++ text
  | .undecodable text => "deserialization error: " ++ text
  | .null => "server returned a null response when a non-null response was expected"

/-- The fault of a request that only reads. What does not decode will not decode later either; an
error that the node reports may pass. -/
def asReadError (fault : NodeFault) : RpcError :=
  match fault with
  | .unreachable _ => .transport fault.message
  | .status _ _ => .connection fault.message
  | .refused _ => .transport fault.message
  | .undecodable _ => .invalidResponse fault.message
  | .null => .invalidResponse fault.message

/-- The fault of a submission. A node that answers with an error, or with a status below 500, has
refused the transaction. -/
def asSendError (fault : NodeFault) : RpcError :=
  match fault with
  | .refused _ => .rejected fault.message
  | .status code _ => if code < 500 then .rejected fault.message else fault.asReadError
  | _ => fault.asReadError

end NodeFault

namespace NodeCall

def text (call : NodeCall) : String :=
  (Json.record ([("method", Json.text call.method)] ++
    (call.params.map fun params => ("params", Json.array params)).toList ++
    [("id", Json.ofNat 0), ("jsonrpc", Json.text "2.0")])).compact

def transactionFields (target : Address) (input : Bytes) : List (String × Json) :=
  [("to", Json.ofBytes target.bytes), ("input", Json.ofBytes input)]

def chainId : NodeCall := ⟨"eth_chainId", none⟩

def gasPrice : NodeCall := ⟨"eth_gasPrice", none⟩

/-- Asks for the next nonce of an account, pending transactions counted. -/
def pendingNonce (account : Address) : NodeCall :=
  ⟨"eth_getTransactionCount", some [Json.ofBytes account.bytes, Json.text "pending"]⟩

def call (target : Address) (data : Bytes) : NodeCall :=
  ⟨"eth_call", some [Json.record (transactionFields target data), Json.text "pending"]⟩

def estimateGas (sender : Address) (tx : L1Transaction) : NodeCall :=
  let fields := ("from", Json.ofBytes sender.bytes) :: transactionFields tx.target tx.input ++
    [("gasPrice", Json.quantity tx.gasPrice.toNat), ("value", Json.quantity tx.value.toNat),
      ("nonce", Json.quantity tx.nonce.toNat)]
  ⟨"eth_estimateGas", some [Json.record fields, Json.text "pending"]⟩

def send (tx : SignedTransaction) : NodeCall :=
  ⟨"eth_sendRawTransaction", some [Json.ofBytes tx.raw]⟩

def receipt (hash : Word) : NodeCall :=
  ⟨"eth_getTransactionReceipt", some [Json.ofBytes hash.bytes]⟩

def blockNumber : NodeCall := ⟨"eth_blockNumber", none⟩

end NodeCall

/-- An error that the node reports. -/
structure NodeError where
  code : Int
  message : String
  data : Option Json

namespace NodeError

/-- The text of a member that may be left out. -/
def textOf? : Option Json → Option String
  | none => some ""
  | some (.string text) => text
  | some _ => none

/-- An error is an object with an integer for its code. -/
def ofJson? : Json → Option NodeError
  | .object members => do
    let members ← Json.members? members
    let code ← (← ← Json.optional? "code" members).int? 64
    let message ← textOf? (← Json.optional? "message" members)
    return ⟨code, message, ← Json.optional? "data" members⟩
  | _ => none

def text (error : NodeError) : String :=
  let sign := if error.code < 0 then "-" else ""
  let data := match error.data with
    | some data => ", data: " ++ data.compact
    | none => ""
  "error code " ++ sign ++ Decimal.write error.code.natAbs ++ ": " ++ error.message ++ data

end NodeError

namespace NodeReply

/-- True of what may stand for the number of a call in its answer. -/
def isId : Option Json → Bool
  | none => true
  | some .null => true
  | some (.string text) => text.isSome
  | some value => (value.uint? 64).isSome

/-- What an answer says: it holds either a result or an error of the node. -/
def said? : Json → Option (Except NodeError Json)
  | .object members => do
    let members ← Json.members? members
    guard (isId (← Json.optional? "id" members))
    match ← Json.optional? "result" members, ← Json.optional? "error" members with
    | some result, none => return .ok result
    | none, some error => return .error (← NodeError.ofJson? error)
    | _, _ => none
  | _ => none

/-- The result in the body of an answer. -/
def resultOfBody (body : Bytes) : Except NodeFault Json :=
  match Text.ofUtf8? body with
  | none => .error (.undecodable "invalid text")
  | some text =>
    match (Json.read? text).bind said? with
    | some (.ok result) => .ok result
    | some (.error error) => .error (.refused error.text)
    | none => .error (.undecodable (String.ofList text))

def result : NodeReply → Except NodeFault Json
  | .unreachable reason => .error (.unreachable reason)
  | .response status body =>
    if 200 ≤ status ∧ status < 300 then resultOfBody body
    else .error (.status status (String.ofList ((Text.ofUtf8? body).getD [])))

def decode {α : Type} (read? : Json → Option α) (reply : NodeReply) : Except NodeFault α := do
  match ← reply.result with
  | .null => .error .null
  | result =>
    match read? result with
    | some value => .ok value
    | none => .error (.undecodable result.compact)

end NodeReply

/-- The base of a number, which its first two characters may give, and its digits. -/
def Json.base : List Char → Nat × List Char
  | '0' :: mark :: digits =>
    match mark.toLower with
    | 'x' => (16, digits)
    | 'o' => (8, digits)
    | 'b' => (2, digits)
    | _ => (10, '0' :: mark :: digits)
  | digits => (10, digits)

/-- A quantity: a plain number of up to 64 bits, or the text of one in any of four bases, with
underscores anywhere among its digits. No digits are zero. -/
def Json.quantity? (bits : Nat) : Json → Option (Uint bits)
  | .string (some s) => do
    let (base, digits) := Json.base s.toList
    Uint.ofNat? bits (← Hex.numberIn? base (digits.filter (· != '_')))
  | other => do Uint.ofNat? bits (← other.uint? 64).toNat

/-- The outcome in a receipt, or nothing while there is none. -/
def TransactionOutcome.ofReceipt? (receipt : Json) : Option TransactionOutcome := do
  let hash ← (← receipt.get? "transactionHash").fixed?
  let block := (receipt.get? "blockNumber").bind fun number => number.quantity? 64
  let status ← (← receipt.get? "status").quantity? 64
  let gasUsed ← (← receipt.get? "gasUsed").quantity? 64
  return ⟨hash, block, status ≠ 0, gasUsed⟩

end RollupBridge
