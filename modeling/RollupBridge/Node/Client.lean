import RollupBridge.Config
import RollupBridge.Node.Message

namespace RollupBridge

/-- How attempts are repeated: how many delays a policy yields, how long each is, by the number of those
that are left with it, and how an attempt goes with some delays left. -/
structure Retrier (m : Type → Type) where
  times : RetryPolicy → Nat
  delay : RetryPolicy → (left : Nat) → Nat
  repeating {α : Type} (isRetryable : RpcError → Bool) (delay : (left : Nat) → Nat)
    (attempt : m (Except RpcError α)) (left : Nat) : m (Except RpcError α)

namespace Retrier

variable {m : Type → Type} [Monad m] {α : Type}

/-- Repeats an attempt while its error may pass, at most `left` times, each after a pause. -/
def repeatPausing (pause : Nat → m Unit) (isRetryable : RpcError → Bool) (delay : Nat → Nat)
    (attempt : m (Except RpcError α)) : (left : Nat) → m (Except RpcError α)
  | 0 => attempt
  | left + 1 => do
    match ← attempt with
    | .ok value => return .ok value
    | .error error =>
      if isRetryable error then
        pause (delay (left + 1))
        repeatPausing pause isRetryable delay attempt left
      else return .error error

/-- Repeats as often as a policy says, after its delays. -/
def standard (pause : Nat → m Unit) : Retrier m where
  times := RetryPolicy.retries
  delay := fun policy left => policy.delay (policy.retries - left)
  repeating := repeatPausing pause

end Retrier

/-- A connection to a node: how to post a call, how to let time pass, how often reads are repeated,
and how long to wait for a receipt and between looks at it. Times are in nanoseconds. -/
structure NodeClient (m : Type → Type) where
  post : NodeCall → m NodeReply
  pause : Nat → m Unit
  policy : RetryPolicy
  receiptTimeout : Nat
  pollInterval : Nat

namespace NodeClient

variable {m : Type → Type} [Monad m] {α : Type}

/-- How long to wait for a receipt unless something else is asked for. -/
def standardReceiptTimeout : Nat := 300000000000

def standardPollInterval : Nat := 250000000

/-- A single call and what its answer decodes to. -/
def callOnce (client : NodeClient m) (call : NodeCall) (read? : Json → Option α) :
    m (Except NodeFault α) := do
  return (← client.post call).decode read?

/-- A read, made once. -/
def readOnce (client : NodeClient m) (call : NodeCall) (read? : Json → Option α) :
    m (Except RpcError α) := do
  return (← client.callOnce call read?).mapError NodeFault.asReadError

/-- A read, which a retrier repeats while its error may pass. -/
def readWith (client : NodeClient m) (retrier : Retrier m) (call : NodeCall) (read? : Json → Option α) :
    m (Except RpcError α) :=
  retrier.repeating RpcError.isRetryable (retrier.delay client.policy) (client.readOnce call read?)
    (retrier.times client.policy)

/-- A submission, made once whatever the answer, since one that failed may still have arrived. -/
def send (client : NodeClient m) (call : NodeCall) (read? : Json → Option α) :
    m (Except RpcError α) := do
  return (← client.callOnce call read?).mapError NodeFault.asSendError

/-- Reads a receipt, which may not be there yet. -/
def receipt (client : NodeClient m) (hash : Word) : m (Except RpcError (Option TransactionOutcome)) := do
  match (← client.post (.receipt hash)).result with
  | .error fault => return .error fault.asReadError
  | .ok .null => return .ok none
  | .ok result =>
    match TransactionOutcome.ofReceipt? result with
    | some outcome => return .ok (some outcome)
    | none => return .error (NodeFault.undecodable result.compact).asReadError

/-- True once enough blocks stand on the block of a transaction, its own counted. One block is enough
for up to one confirmation. -/
def isBuried (client : NodeClient m) (outcome : TransactionOutcome) (confirmations : Uint 64) :
    m (Except RpcError Bool) := do
  if confirmations ≤ 1 then return .ok true
  match outcome.block with
  | none => return .ok false
  | some block =>
    return (← client.callOnce .blockNumber (Json.quantity? 64)).mapError NodeFault.asReadError |>.map
      fun latest => block.toNat + confirmations.toNat ≤ latest.toNat + 1

/-- Looks for a receipt until it is there and buried, at most `looks` times. -/
def await (client : NodeClient m) (hash : Word) (confirmations : Uint 64) :
    (looks : Nat) → m (Except RpcError TransactionOutcome)
  | 0 => return .error (.timeout "transaction was not confirmed within the timeout")
  | looks + 1 => do
    match ← client.receipt hash with
    | .error error => return .error error
    | .ok none =>
      client.pause client.pollInterval
      await client hash confirmations looks
    | .ok (some outcome) =>
      match ← client.isBuried outcome confirmations with
      | .error error => return .error error
      | .ok true => return .ok outcome
      | .ok false =>
        client.pause client.pollInterval
        await client hash confirmations looks

/-- How often a receipt is looked for within the timeout. -/
def looks (client : NodeClient m) : Nat := client.receiptTimeout / client.pollInterval + 1

/-- The answer to a request, with reads repeated by a retrier. Signatures are made by `sign` without
the node. -/
def answerWith (client : NodeClient m) (retrier : Retrier m)
    (sign : L1Transaction → Except RpcError SignedTransaction) :
    (request : Request) → m request.Answer
  | .chainId => client.readWith retrier .chainId (Json.quantity? 64)
  | .gasPrice => client.readWith retrier .gasPrice (Json.quantity? 128)
  | .pendingNonce account => client.readWith retrier (.pendingNonce account) (Json.quantity? 64)
  | .call target data => client.readWith retrier (.call target data) Json.bytes?
  | .estimateGas sender tx => client.readWith retrier (.estimateGas sender tx) (Json.quantity? 64)
  | .sign tx => return sign tx
  | .send tx => client.send (.send tx) Json.fixed?
  | .wait hash confirmations => client.await hash confirmations client.looks

/-- The answer to a request, with reads repeated after pauses of the client. -/
def answer (client : NodeClient m) (sign : L1Transaction → Except RpcError SignedTransaction) :
    (request : Request) → m request.Answer :=
  client.answerWith (.standard client.pause) sign

end NodeClient

end RollupBridge
