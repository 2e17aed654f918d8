import RollupBridge.L1.Action
import RollupBridge.Signing.Legacy

namespace RollupBridge

/-- A request, or a group of requests, that can be made to fail. -/
inductive Fault
  | chainId
  | gasPrice
  | pendingNonce
  | call
  | view (selector : Selector)
  | estimateGas
  | send
  | sendNonce (nonce : Uint 64)
  | wait
  | waitNonce (nonce : Uint 64)
deriving DecidableEq

structure SimulatedReceipt where
  success : Bool := true
  block : Option (Uint 64) := none
  gasUsed : Uint 64 := 21000
  hash : Option Word := none

/-- Who signs: a key, or a stand-in whose signatures are easy to tell apart. -/
inductive SimulatedSigner
  | key (key : PrivateKey)
  | standIn (address : Address)

/-- What the L1 is set up with. -/
structure SimulatedL1 where
  chainId : Uint 64 := 9
  gasPrice : Uint 128 := 1000000000
  pendingNonce : Uint 64 := 0
  gasEstimate : Uint 64 := 500000
  governor : Address := FixedBytes.zero
  counterpart : Address := FixedBytes.zero
  costPerGas : Uint 256 := 500000000
  costs : List (Uint 256 × Uint 256) := []
  logsRoots : List (Uint 256 × Word) := []
  finalized : List (Uint 256 × Uint 256) := []
  outputs : List (Selector × Bytes) := []
  sendHashes : List (Uint 64 × Word) := []
  receipts : List (Uint 64 × SimulatedReceipt) := []
  faults : List (Fault × RpcError) := []

/-- The signer, which can be made to fail for some nonces. -/
structure SimulatedAccount where
  signer : SimulatedSigner
  failures : List (Uint 64 × String) := []

/-- A running L1: what it is set up with, the nonces behind the hashes it has answered, latest
first, and the requests so far, latest first. Requests are recorded before they are answered or
failed, and what is not set up has a neutral answer. -/
structure Simulation where
  l1 : SimulatedL1
  account : SimulatedAccount
  sent : List (Word × Uint 64) := []
  requests : List Request := []

namespace SimulatedAccount

def address (account : SimulatedAccount) : Address :=
  match account.signer with
  | .key key => key.address
  | .standIn address => address

/-- The signed form of a transaction. A stand-in puts target and nonce in place of a signature. -/
def sign (account : SimulatedAccount) (tx : L1Transaction) : Except RpcError SignedTransaction :=
  match account.failures.lookup tx.nonce with
  | some text => .error (.signing text)
  | none =>
    match account.signer with
    | .key key => key.signTransaction tx
    | .standIn _ =>
      let raw := Abi.encode [.address, .uint 256] (tx.target, tx.nonce.setWidth 256, ())
      .ok ⟨keccak256 raw, tx.nonce, raw⟩

end SimulatedAccount

namespace SimulatedL1

/-- The output of a view. A view that the L1 does not know has none. -/
def output (l1 : SimulatedL1) (data : Bytes) : Bytes :=
  if let some (_, limit, _, ()) := Mailbox.l2TransactionBaseCost.decodeCall data then
    (Uint.toWord ((l1.costs.lookup limit).getD (l1.costPerGas * limit))).bytes
  else if let some () := Mailbox.getGovernor.decodeCall data then
    (Word.ofAddress l1.governor).bytes
  else if let some (batch, ()) := Mailbox.l2LogsRootHash.decodeCall data then
    ((l1.logsRoots.lookup batch).getD FixedBytes.zero).bytes
  else if let some () := L1Bridge.l2Bridge.decodeCall data then
    (Word.ofAddress l1.counterpart).bytes
  else if let some (batch, index, ()) := L1Bridge.isWithdrawalFinalized.decodeCall data then
    Bytes.ofNat 32 (l1.finalized.contains (batch, index)).toNat
  else []

/-- The output of a view, unless it is set up as something else. -/
def call (l1 : SimulatedL1) (data : Bytes) : Bytes :=
  match l1.outputs.lookup (FixedBytes.slice data 0) with
  | some output => output
  | none => l1.output data

end SimulatedL1

namespace Simulation

/-- The nonce of the transaction that was sent last under a hash. -/
def nonceOf? (s : Simulation) (hash : Word) : Option (Uint 64) := s.sent.lookup hash

/-- What a request can fail by, in the order in which it is looked for. -/
def faultsOf (s : Simulation) : Request → List Fault
  | .chainId => [.chainId]
  | .gasPrice => [.gasPrice]
  | .pendingNonce _ => [.pendingNonce]
  | .call _ data => [.call, .view (FixedBytes.slice data 0)]
  | .estimateGas _ _ => [.estimateGas]
  | .sign _ => []
  | .send tx => [.send, .sendNonce tx.nonce]
  | .wait hash _ => .wait :: ((s.nonceOf? hash).map Fault.waitNonce).toList

/-- The first of the failures set up for a request. -/
def failure? (s : Simulation) (request : Request) : Option RpcError :=
  (s.faultsOf request).findSome? fun fault => s.l1.faults.lookup fault

/-- The hash answered to a transaction that is sent. -/
def sendHash (s : Simulation) (tx : SignedTransaction) : Word :=
  (s.l1.sendHashes.lookup tx.nonce).getD tx.hash

/-- The outcome of the transaction sent under a hash. -/
def outcome (s : Simulation) (hash : Word) : TransactionOutcome :=
  let receipt := ((s.nonceOf? hash).bind fun nonce => s.l1.receipts.lookup nonce).getD {}
  ⟨receipt.hash.getD hash, receipt.block, receipt.success, receipt.gasUsed⟩

/-- The answer to a request that does not fail. -/
def payload (s : Simulation) : (request : Request) → request.Answer
  | .chainId => .ok s.l1.chainId
  | .gasPrice => .ok s.l1.gasPrice
  | .pendingNonce _ => .ok s.l1.pendingNonce
  | .call _ data => .ok (s.l1.call data)
  | .estimateGas _ _ => .ok s.l1.gasEstimate
  | .sign tx => s.account.sign tx
  | .send tx => .ok (s.sendHash tx)
  | .wait hash _ => .ok (s.outcome hash)

/-- Records a request and the nonce behind the hash it is answered with. -/
def record (s : Simulation) (request : Request) : Simulation :=
  let s := { s with requests := request :: s.requests }
  match request with
  | .send tx =>
    if (s.failure? request).isNone then { s with sent := (s.sendHash tx, tx.nonce) :: s.sent } else s
  | _ => s

def answer (request : Request) : StateM Simulation request.Answer := do
  modify fun s => s.record request
  let s ← get
  return match s.failure? request with
    | some error => .error error
    | none => s.payload request

/-- Runs a procedure and returns the requests it made, in order. -/
def perform {α : Type} (program : Program α) (s : Simulation) : α × List Request × Simulation :=
  let (value, s) := StateT.run (Program.run answer program) { s with requests := [] }
  (value, s.requests.reverse, s)

end Simulation

end RollupBridge
