import RollupBridge.Json.Shape
import RollupBridge.Proofs.Bytes.Number
import RollupBridge.Proofs.Json.Spelling

namespace RollupBridge

namespace Json

theorem uint?_ofNat {bits : Nat} (x : Uint bits) : (ofNat x.toNat).uint? bits = some x := by
  rw [ofNat, uint?, Decimal.read?_digits, Option.bind_some, Uint.ofNat?_toNat]

@[simp]
theorem bytes?_ofBytes (bytes : Bytes) : (ofBytes bytes).bytes? = some bytes := by
  rw [ofBytes, text, bytes?, Hex.write, String.toList_ofList, Hex.read?_chars]

theorem fixed?_ofBytes {width : Nat} (x : FixedBytes width) : (ofBytes x.bytes).fixed? = some x := by
  rw [ofBytes, text, fixed?, Hex.write, String.toList_ofList, Hex.readFixed?_chars]

end Json

namespace JsonForm

/-- Forms that are read back: a value is written as something that is read where it is expected, and
read as the value. -/
class Lawful (α : Type) [JsonForm α] : Prop where
  plain (value : α) : Json.Plain (outline α) (toJson value)
  ofJson?_toJson (value : α) : ofJson? (toJson value) = some value

attribute [simp] Lawful.ofJson?_toJson

theorem parse?_write {α : Type} [JsonForm α] [Lawful α] (value : α) :
    parse? (write value) = some value := by
  rw [parse?, write, Json.compact, String.toList_ofList, Json.readAs?_compactChars (Lawful.plain value),
    Option.bind_some, Lawful.ofJson?_toJson]

@[simp]
theorem list?_map_toJson {α : Type} [JsonForm α] [Lawful α] (values : List α) :
    (Json.array (values.map toJson)).list? ofJson? = some values := by
  rw [Json.list?]
  induction values with
  | nil => rfl
  | cons value values ih => simp [ih]

instance (width : Nat) : Lawful (FixedBytes width) where
  plain _ := .string _ _
  ofJson?_toJson := Json.fixed?_ofBytes

instance (bits : Nat) : Lawful (Uint bits) where
  plain _ := .number _ _
  ofJson?_toJson := Json.uint?_ofNat

instance : Lawful BytecodeHash where
  plain _ := .string _ _
  ofJson?_toJson hash := by
    change (ofJson? (toJson hash.word)).map BytecodeHash.mk = some hash
    rw [Lawful.ofJson?_toJson, Option.map_some]

instance : Lawful SenderKind where
  plain sender := by cases sender <;> exact .string _ _
  ofJson?_toJson sender := by cases sender <;> rfl

instance : Lawful InitState where
  plain state := by cases state <;> exact .string _ _
  ofJson?_toJson state := by cases state <;> rfl

/-- A list of values is read back where such a list is expected. -/
theorem plain_list {α : Type} [JsonForm α] [Lawful α] (values : List α) :
    Json.Plain (.list (outline α)) (Json.array (values.map toJson)) := by
  refine .array (fun i hi => ?_) fun i _ => rfl
  rw [List.getElem_map]
  exact Lawful.plain _

/-- A record is read back if its fields are well named and each is read back where it is expected. -/
theorem Lawful.of_record {α : Type} [JsonForm α] {fields : List Json.Field} (values : α → List Json)
    {read? : List Json → Option α} (hnamed : Json.WellNamed fields)
    (houtline : outline α = .record fields)
    (htoJson : ∀ value : α, toJson value = Json.recordOf fields (values value))
    (hofJson? : ∀ json, ofJson? json = json.fields? fields >>= read?)
    (hplain : ∀ value, List.Forall₂ (fun field json => Json.Plain field.2 json) fields (values value))
    (hread : ∀ value, read? (values value) = some value) : Lawful α where
  plain value := by
    rw [houtline, htoJson]
    exact Json.Plain.recordOf hnamed (hplain value)
  ofJson?_toJson value := by
    rw [hofJson?, htoJson, Json.fields?_recordOf hnamed (hplain value).length_eq]
    exact hread value

instance : Lawful GasParams :=
  .of_record (fun params => [toJson params.gasPrice, toJson params.l2GasLimit,
      toJson params.gasPerPubdata])
    (by decide : Json.WellNamed GasParams.jsonFields) rfl (fun _ => rfl) (fun _ => rfl)
    (fun params => .cons (Lawful.plain params.gasPrice) (.cons (Lawful.plain params.l2GasLimit)
      (.cons (Lawful.plain params.gasPerPubdata) .nil)))
    (fun params => by simp)

instance : Lawful Deployment :=
  .of_record (fun d => [toJson d.deployer, toJson d.bytecodeHash, Json.ofBytes d.constructorInput,
      toJson d.salt])
    (by decide : Json.WellNamed Deployment.jsonFields) rfl (fun _ => rfl) (fun _ => rfl)
    (fun d => .cons (Lawful.plain d.deployer) (.cons (Lawful.plain d.bytecodeHash)
      (.cons (.string _ _) (.cons (Lawful.plain d.salt) .nil))))
    (fun d => by simp)

instance : Lawful WithdrawalProof :=
  .of_record (fun proof => [toJson proof.l1BatchNumber, toJson proof.l2MessageIndex,
      toJson proof.l2TxNumberInBlock, Json.ofBytes proof.message,
      Json.array (proof.merkleProof.map toJson)])
    (by decide : Json.WellNamed WithdrawalProof.jsonFields) rfl (fun _ => rfl) (fun _ => rfl)
    (fun proof => .cons (Lawful.plain proof.l1BatchNumber) (.cons (Lawful.plain proof.l2MessageIndex)
      (.cons (Lawful.plain proof.l2TxNumberInBlock) (.cons (.string _ _)
        (.cons (plain_list proof.merkleProof) .nil)))))
    (fun proof => by simp)

instance : Lawful BridgeContractHashes :=
  .of_record (fun hashes => [toJson hashes.implementation, toJson hashes.proxy,
      toJson hashes.tokenProxy, toJson hashes.standardToken, toJson hashes.tokenBeacon])
    (by decide : Json.WellNamed BridgeContractHashes.jsonFields) rfl (fun _ => rfl) (fun _ => rfl)
    (fun hashes => .cons (Lawful.plain hashes.implementation) (.cons (Lawful.plain hashes.proxy)
      (.cons (Lawful.plain hashes.tokenProxy) (.cons (Lawful.plain hashes.standardToken)
        (.cons (Lawful.plain hashes.tokenBeacon) .nil)))))
    (fun hashes => by simp)

instance : Lawful BridgeL2Addresses :=
  .of_record (fun addresses => [toJson addresses.implementation, toJson addresses.proxy,
      toJson addresses.standardToken, toJson addresses.tokenBeacon])
    (by decide : Json.WellNamed BridgeL2Addresses.jsonFields) rfl (fun _ => rfl) (fun _ => rfl)
    (fun addresses => .cons (Lawful.plain addresses.implementation)
      (.cons (Lawful.plain addresses.proxy) (.cons (Lawful.plain addresses.standardToken)
        (.cons (Lawful.plain addresses.tokenBeacon) .nil))))
    (fun addresses => by simp)

/-- A value is written in its spelling and read back from it. Whatever text a value was read from, what
is written of it is read as the same value, and stays as it is when it is read and written again. -/
structure RoundTrips (α : Type) [JsonForm α] (spelling : α → List Char) : Prop where
  spelled (value : α) : (write value).toList = spelling value
  readBack (value : α) : parse? (write value) = some value
  settled (text : String) (value : α) (hread : parse? text = some value) :
    parse? (write value) = some value ∧
      (parse? (write value) : Option α).map write = some (write value)

theorem Lawful.roundTrips {α : Type} [JsonForm α] [Lawful α] {spelling : α → List Char}
    (hspelled : ∀ value : α, (write value).toList = spelling value) : RoundTrips α spelling where
  spelled := hspelled
  readBack := parse?_write
  settled text value _ := by
    refine ⟨parse?_write value, ?_⟩
    rw [parse?_write, Option.map_some]

end JsonForm

open JsonForm

/-- Everything that the bridge writes as JSON has its spelling and is read back as it was, for all values
of all types. -/
theorem json_forms_round_trip :
    RoundTrips Deployment Deployment.spelling ∧ RoundTrips GasParams GasParams.spelling ∧
      RoundTrips WithdrawalProof WithdrawalProof.spelling ∧ RoundTrips InitState InitState.spelling ∧
      RoundTrips SenderKind SenderKind.spelling ∧ RoundTrips BytecodeHash BytecodeHash.spelling ∧
      RoundTrips BridgeContractHashes BridgeContractHashes.spelling ∧
      RoundTrips BridgeL2Addresses BridgeL2Addresses.spelling :=
  ⟨Lawful.roundTrips Deployment.toList_write, Lawful.roundTrips GasParams.toList_write,
    Lawful.roundTrips WithdrawalProof.toList_write, Lawful.roundTrips InitState.toList_write,
    Lawful.roundTrips SenderKind.toList_write, Lawful.roundTrips BytecodeHash.toList_write,
    Lawful.roundTrips BridgeContractHashes.toList_write, Lawful.roundTrips BridgeL2Addresses.toList_write⟩

/-- An array of the fields is read as well, and written as an object. -/
example : (parse? "[1000000000, 72000000, 800]" : Option GasParams).map write =
    some "\x7b\"gasPrice\":1000000000,\"l2GasLimit\":72000000,\"gasPerPubdataByte\":800\x7d" := by
  decide +kernel

/-- Keys in any order, the path under its other name and bytes as numbers are read as well. -/
example : (parse? ("\x7b \"proof\": [], \"message\": [222, 173], \"l2TxNumberInBlock\": 1," ++
      "\"l1BatchNumber\": 7, \"l2MessageIndex\": 3 \x7d") : Option WithdrawalProof).map write =
    some ("\x7b\"l1BatchNumber\":7,\"l2MessageIndex\":3,\"l2TxNumberInBlock\":1," ++
      "\"message\":\"0xdead\",\"merkleProof\":[]\x7d") := by
  decide +kernel

end RollupBridge
