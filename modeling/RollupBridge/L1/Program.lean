import RollupBridge.L1.Error
import RollupBridge.L1.Transaction

namespace RollupBridge

/-- What can be asked of the node and, for `sign`, of the signer. -/
inductive Request
  | chainId
  | gasPrice
  | pendingNonce (account : Address)
  | call (target : Address) (data : Bytes)
  | estimateGas (sender : Address) (tx : L1Transaction)
  | sign (tx : L1Transaction)
  | send (tx : SignedTransaction)
  | wait (hash : Word) (confirmations : Uint 64)
deriving DecidableEq

@[reducible] def Request.Payload : Request → Type
  | .chainId => Uint 64
  | .gasPrice => Uint 128
  | .pendingNonce _ => Uint 64
  | .call _ _ => Bytes
  | .estimateGas _ _ => Uint 64
  | .sign _ => SignedTransaction
  | .send _ => Word
  | .wait _ _ => TransactionOutcome

abbrev Request.Answer (request : Request) : Type := Except RpcError request.Payload

/-- A transaction that is sent and, if the node accepts it, waited for. -/
structure Submission where
  tx : SignedTransaction
  confirmations : Uint 64

abbrev Submission.Result : Type := Except RpcError TransactionOutcome

/-- A procedure over a node and a signer. `submitBoth` makes two submissions at once: neither waits
for the other, and both are carried through whatever happens to the other. Each request has one
branch for every answer, so whatever can happen to a procedure can be read off it. -/
inductive Program (α : Type)
  | done (value : α)
  | ask (request : Request) (next : request.Answer → Program α)
  | submitBoth (first second : Submission) (next : Submission.Result → Submission.Result → Program α)

namespace Program

variable {α β : Type}

/-- One procedure after the other. -/
def bind : Program α → (α → Program β) → Program β
  | .done value, k => k value
  | .ask request next, k => .ask request fun answer => bind (next answer) k
  | .submitBoth first second next, k => .submitBoth first second fun a b => bind (next a b) k

instance : Monad Program where
  pure := .done
  bind := bind

def request (r : Request) : Program r.Answer := .ask r .done

variable {m : Type → Type} [Monad m]

/-- Carries a submission through. The wait is for the hash that the node answered. -/
def submit (answer : (r : Request) → m r.Answer) (s : Submission) : m Submission.Result := do
  match ← answer (.send s.tx) with
  | .error error => return .error error
  | .ok hash => answer (.wait hash s.confirmations)

/-- Runs a procedure with the answers of a monad. Of two submissions made at once, the first is
carried through before the second. -/
def run (answer : (r : Request) → m r.Answer) : Program α → m α
  | .done value => pure value
  | .ask request next => do run answer (next (← answer request))
  | .submitBoth first second next => do
    let a ← submit answer first
    let b ← submit answer second
    run answer (next a b)

end Program

end RollupBridge
