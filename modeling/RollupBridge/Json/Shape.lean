import RollupBridge.Counterpart
import RollupBridge.Fee
import RollupBridge.InitState
import RollupBridge.Json.Reader
import RollupBridge.Json.Writer
import RollupBridge.Withdrawal.Finalizer

namespace RollupBridge

/-- A type with a JSON form. Records are read from an object or from an array of their fields, and
written as an object in the order of the fields. Hashes are read without a look at their version. -/
class JsonForm (α : Type) where
  toJson : α → Json
  ofJson? : Json → Option α
  outline : Json.Outline := .any

namespace JsonForm

def parse? {α : Type} [JsonForm α] (text : String) : Option α :=
  (Json.readAs? (outline α) text.toList).bind ofJson?

def write {α : Type} [JsonForm α] (value : α) : String := (toJson value).compact

end JsonForm

open JsonForm

instance (width : Nat) : JsonForm (FixedBytes width) where
  toJson x := Json.ofBytes x.bytes
  ofJson? := Json.fixed?
  outline := .bytes width

instance : JsonForm BytecodeHash where
  toJson hash := toJson hash.word
  ofJson? json := (ofJson? json).map BytecodeHash.mk
  outline := .bytes 32

instance (bits : Nat) : JsonForm (Uint bits) where
  toJson x := Json.ofNat x.toNat
  ofJson? := Json.uint? bits

instance : JsonForm SenderKind where
  toJson
    | .contract => Json.text "contract"
    | .externallyOwned => Json.text "externallyOwned"
  ofJson? json :=
    match json.variant? with
    | some "contract" => some .contract
    | some "externallyOwned" => some .externallyOwned
    | _ => none

instance : JsonForm InitState where
  toJson
    | .unpublished => Json.text "unpublished"
    | .bytecodesPublished => Json.text "bytecodesPublished"
    | .initialized => Json.text "initialized"
    | .governanceConfigured => Json.text "governanceConfigured"
  ofJson? json :=
    match json.variant? with
    | some "unpublished" => some .unpublished
    | some "bytecodesPublished" => some .bytecodesPublished
    | some "initialized" => some .initialized
    | some "governanceConfigured" => some .governanceConfigured
    | _ => none

def GasParams.jsonFields : List Json.Field :=
  [(["gasPrice"], .any), (["l2GasLimit"], .any), (["gasPerPubdataByte"], .any)]

instance : JsonForm GasParams where
  toJson params := Json.record
    [("gasPrice", toJson params.gasPrice), ("l2GasLimit", toJson params.l2GasLimit),
      ("gasPerPubdataByte", toJson params.gasPerPubdata)]
  ofJson? json := do
    match ← json.fields? GasParams.jsonFields with
    | [gasPrice, l2GasLimit, gasPerPubdata] =>
      return ⟨← ofJson? gasPrice, ← ofJson? l2GasLimit, ← ofJson? gasPerPubdata⟩
    | _ => none
  outline := .record GasParams.jsonFields

def Deployment.jsonFields : List Json.Field :=
  [(["deployer"], .bytes 20), (["bytecodeHash"], .bytes 32), (["constructorInput"], .any),
    (["salt"], .bytes 32)]

instance : JsonForm Deployment where
  toJson d := Json.record
    [("deployer", toJson d.deployer), ("bytecodeHash", toJson d.bytecodeHash),
      ("constructorInput", Json.ofBytes d.constructorInput), ("salt", toJson d.salt)]
  ofJson? json := do
    match ← json.fields? Deployment.jsonFields with
    | [deployer, bytecodeHash, constructorInput, salt] =>
      return ⟨← ofJson? deployer, ← ofJson? bytecodeHash, ← constructorInput.bytes?, ← ofJson? salt⟩
    | _ => none
  outline := .record Deployment.jsonFields

def WithdrawalProof.jsonFields : List Json.Field :=
  [(["l1BatchNumber"], .any), (["l2MessageIndex"], .any), (["l2TxNumberInBlock"], .any),
    (["message"], .any), (["merkleProof", "proof"], .list (.bytes 32))]

instance : JsonForm WithdrawalProof where
  toJson proof := Json.record
    [("l1BatchNumber", toJson proof.l1BatchNumber), ("l2MessageIndex", toJson proof.l2MessageIndex),
      ("l2TxNumberInBlock", toJson proof.l2TxNumberInBlock), ("message", Json.ofBytes proof.message),
      ("merkleProof", Json.array (proof.merkleProof.map toJson))]
  ofJson? json := do
    match ← json.fields? WithdrawalProof.jsonFields with
    | [batch, index, txNumber, message, path] =>
      return ⟨← ofJson? batch, ← ofJson? index, ← ofJson? txNumber, ← message.bytes?,
        ← path.list? ofJson?⟩
    | _ => none
  outline := .record WithdrawalProof.jsonFields

/-- The fields of the bytecode hashes of a bridge. -/
def BridgeContractHashes.jsonFields : List Json.Field :=
  [(["l2BridgeImplementation"], .bytes 32), (["l2BridgeProxy"], .bytes 32),
    (["l2TokenProxy"], .bytes 32), (["l2StandardToken"], .bytes 32), (["l2TokenBeacon"], .bytes 32)]

instance : JsonForm BridgeContractHashes where
  toJson hashes := Json.record
    [("l2BridgeImplementation", toJson hashes.implementation), ("l2BridgeProxy", toJson hashes.proxy),
      ("l2TokenProxy", toJson hashes.tokenProxy), ("l2StandardToken", toJson hashes.standardToken),
      ("l2TokenBeacon", toJson hashes.tokenBeacon)]
  ofJson? json := do
    match ← json.fields? BridgeContractHashes.jsonFields with
    | [implementation, proxy, tokenProxy, standardToken, tokenBeacon] =>
      return ⟨← ofJson? implementation, ← ofJson? proxy, ← ofJson? tokenProxy,
        ← ofJson? standardToken, ← ofJson? tokenBeacon⟩
    | _ => none
  outline := .record BridgeContractHashes.jsonFields

/-- The fields of the addresses of a bridge on the second layer. -/
def BridgeL2Addresses.jsonFields : List Json.Field :=
  [(["bridgeImplementation"], .bytes 20), (["bridgeProxy"], .bytes 20),
    (["standardToken"], .bytes 20), (["tokenBeacon"], .bytes 20)]

instance : JsonForm BridgeL2Addresses where
  toJson addresses := Json.record
    [("bridgeImplementation", toJson addresses.implementation),
      ("bridgeProxy", toJson addresses.proxy), ("standardToken", toJson addresses.standardToken),
      ("tokenBeacon", toJson addresses.tokenBeacon)]
  ofJson? json := do
    match ← json.fields? BridgeL2Addresses.jsonFields with
    | [implementation, proxy, standardToken, tokenBeacon] =>
      return ⟨← ofJson? implementation, ← ofJson? proxy, ← ofJson? standardToken,
        ← ofJson? tokenBeacon⟩
    | _ => none
  outline := .record BridgeL2Addresses.jsonFields

end RollupBridge
