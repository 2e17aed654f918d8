import RollupBridge.Json.Shape
import RollupBridge.Proofs.Json.Record
import RollupBridge.Text.Split

namespace RollupBridge

namespace Json

def quote (chars : List Char) : List Char := '"' :: chars ++ ['"']

/-- Bytes behind `0x`, in quotes. -/
def hexText (bytes : Bytes) : List Char := quote (Hex.chars bytes)

/-- Texts with commas between them and brackets around them. -/
def arrayText (items : List (List Char)) : List Char := '[' :: Text.join [','] items ++ [']']

/-- A text behind its key. -/
def memberText (key : String) (text : List Char) : List Char := quote key.toList ++ ':' :: text

/-- The text of an object of texts, each behind its key. -/
def objectText (members : List (String × List Char)) : List Char :=
  '\x7b' :: Text.join [','] (members.map fun (key, text) => memberText key text) ++ ['\x7d']

/-- No character of a text is escaped in a string. -/
def Unescaped (chars : List Char) : Prop := ∀ c ∈ chars, writeChar c = [c]

instance (chars : List Char) : Decidable (Unescaped chars) := List.decidableBAll _ _

theorem flatMap_writeChar {chars : List Char} (hplain : Unescaped chars) :
    chars.flatMap writeChar = chars := by
  induction chars with
  | nil => rfl
  | cons c chars ih =>
    rw [List.flatMap_cons, hplain c List.mem_cons_self, List.singleton_append,
      ih fun other hother => hplain other (List.mem_cons_of_mem c hother)]

theorem writeString_of_unescaped {s : String} (hplain : Unescaped s.toList) :
    writeString (some s) = quote s.toList :=
  congrArg quote (flatMap_writeChar hplain)

/-- Hexadecimal text has nothing to escape. -/
theorem unescaped_chars (bytes : Bytes) : Unescaped (Hex.chars bytes) := by
  have hdigit {value : Nat} (hvalue : value < 16) : writeChar (Hex.digit value) = [Hex.digit value] := by
    have hdigits : ∀ value : Fin 16, writeChar (Hex.digit value) = [Hex.digit value] := by decide
    exact hdigits ⟨value, hvalue⟩
  refine List.forall_mem_cons.mpr ⟨rfl, List.forall_mem_cons.mpr ⟨rfl, fun c hc => ?_⟩⟩
  obtain ⟨byte, _, hbyte⟩ := List.mem_flatMap.mp hc
  have hhigh : byte.toNat / 16 < 16 := Nat.div_lt_of_lt_mul byte.toNat_lt
  have hlow : byte.toNat % 16 < 16 := Nat.mod_lt _ (by decide)
  rcases List.mem_cons.mp hbyte with rfl | hbyte
  · exact hdigit hhigh
  · rw [List.mem_singleton.mp hbyte, hdigit hlow]

theorem compactChars_ofBytes (bytes : Bytes) : compactChars (ofBytes bytes) = hexText bytes := by
  have hplain : Unescaped (Hex.write bytes).toList := by
    rw [Hex.write, String.toList_ofList]
    exact unescaped_chars bytes
  rw [ofBytes, text, compactChars, writeString_of_unescaped hplain, Hex.write, String.toList_ofList,
    hexText]

theorem compactChars_ofNat (value : Nat) : compactChars (ofNat value) = Decimal.digits value := by
  rw [ofNat, compactChars]

theorem compactItems_eq_join (items : List Json) :
    compactItems items = Text.join [','] (items.map compactChars) := by
  induction items with
  | nil => rfl
  | cons item items ih =>
    rw [compactItems_cons, ih]
    cases items with
    | nil => simp [Text.join]
    | cons next items => simp [Text.join]

theorem compactChars_array (items : List Json) :
    compactChars (array items) = arrayText (items.map compactChars) := by
  rw [compactChars, compactItems_eq_join, arrayText]

theorem compactMembers_eq_join {members : List (String × Json)}
    (hkeys : ∀ member ∈ members, Unescaped member.1.toList) :
    compactMembers (members.map fun (key, value) => (some key, value)) =
      Text.join [','] (members.map fun (key, value) => memberText key (compactChars value)) := by
  induction members with
  | nil => rfl
  | cons member members ih =>
    have hkey := writeString_of_unescaped (hkeys member List.mem_cons_self)
    have hrest := ih fun other hother => hkeys other (List.mem_cons_of_mem _ hother)
    rw [List.map_cons, compactMembers_cons, hrest, hkey]
    cases members with
    | nil => simp [Text.join, memberText]
    | cons next members => simp [Text.join, memberText]

/-- The first names of fields are written as they are. -/
def PlainlyNamed (fields : List Field) : Prop := ∀ field ∈ fields, Unescaped (field.1.headD "").toList

instance (fields : List Field) : Decidable (PlainlyNamed fields) := List.decidableBAll _ _

/-- A record is spelled with the first names of its fields as keys. -/
theorem compactChars_recordOf {fields : List Field} (hnamed : PlainlyNamed fields) (values : List Json) :
    compactChars (recordOf fields values) =
      objectText ((fields.zip values).map fun (field, value) =>
        (field.1.headD "", compactChars value)) := by
  have hkeys : ∀ member ∈ namedMembers fields values, Unescaped member.1.toList := by
    intro member hmember
    obtain ⟨⟨field, value⟩, hpair, rfl⟩ := List.mem_map.mp hmember
    exact hnamed field (List.of_mem_zip hpair).1
  rw [recordOf, record, compactChars, compactMembers_eq_join hkeys, objectText, namedMembers,
    List.map_map, List.map_map]
  rfl

end Json

open Json JsonForm

/-- A value is written as the text of its JSON value. -/
theorem JsonForm.toList_write {α : Type} [JsonForm α] (value : α) :
    (write value).toList = compactChars (toJson value) := by
  rw [write, compact, String.toList_ofList]

def SenderKind.spelling : SenderKind → List Char
  | .contract => quote "contract".toList
  | .externallyOwned => quote "externallyOwned".toList

theorem SenderKind.toList_write (sender : SenderKind) : (write sender).toList = sender.spelling := by
  cases sender <;> rfl

def InitState.spelling : InitState → List Char
  | .unpublished => quote "unpublished".toList
  | .bytecodesPublished => quote "bytecodesPublished".toList
  | .initialized => quote "initialized".toList
  | .governanceConfigured => quote "governanceConfigured".toList

theorem InitState.toList_write (state : InitState) : (write state).toList = state.spelling := by
  cases state <;> rfl

def BytecodeHash.spelling (hash : BytecodeHash) : List Char := hexText hash.word.bytes

theorem BytecodeHash.toList_write (hash : BytecodeHash) : (write hash).toList = hash.spelling := by
  rw [JsonForm.toList_write]
  exact compactChars_ofBytes hash.word.bytes

-- Each record is spelled from its own table of fields, so a field that is renamed, moved or added shows in
-- one spelling only.

def GasParams.spelling (params : GasParams) : List Char :=
  objectText [("gasPrice", Decimal.digits params.gasPrice.toNat),
    ("l2GasLimit", Decimal.digits params.l2GasLimit.toNat),
    ("gasPerPubdataByte", Decimal.digits params.gasPerPubdata.toNat)]

theorem GasParams.toList_write (params : GasParams) : (write params).toList = params.spelling := by
  rw [JsonForm.toList_write]
  exact compactChars_recordOf (by decide : PlainlyNamed jsonFields)
    [toJson params.gasPrice, toJson params.l2GasLimit, toJson params.gasPerPubdata]

def Deployment.spelling (d : Deployment) : List Char :=
  objectText [("deployer", hexText d.deployer.bytes), ("bytecodeHash", d.bytecodeHash.spelling),
    ("constructorInput", hexText d.constructorInput), ("salt", hexText d.salt.bytes)]

theorem Deployment.toList_write (d : Deployment) : (write d).toList = d.spelling := by
  have hchars := compactChars_recordOf (by decide : PlainlyNamed jsonFields)
    [toJson d.deployer, toJson d.bytecodeHash, ofBytes d.constructorInput, toJson d.salt]
  rw [JsonForm.toList_write]
  exact hchars.trans (by simp [jsonFields, toJson, compactChars_ofBytes, spelling, BytecodeHash.spelling])

def WithdrawalProof.spelling (proof : WithdrawalProof) : List Char :=
  objectText [("l1BatchNumber", Decimal.digits proof.l1BatchNumber.toNat),
    ("l2MessageIndex", Decimal.digits proof.l2MessageIndex.toNat),
    ("l2TxNumberInBlock", Decimal.digits proof.l2TxNumberInBlock.toNat),
    ("message", hexText proof.message),
    ("merkleProof", arrayText (proof.merkleProof.map fun node => hexText node.bytes))]

theorem WithdrawalProof.toList_write (proof : WithdrawalProof) :
    (write proof).toList = proof.spelling := by
  have hchars := compactChars_recordOf (by decide : PlainlyNamed jsonFields)
    [toJson proof.l1BatchNumber, toJson proof.l2MessageIndex, toJson proof.l2TxNumberInBlock,
      ofBytes proof.message, array (proof.merkleProof.map toJson)]
  rw [JsonForm.toList_write]
  exact hchars.trans (by simp [jsonFields, toJson, compactChars_ofBytes, compactChars_ofNat,
    compactChars_array, spelling, Function.comp_def])

def BridgeContractHashes.spelling (hashes : BridgeContractHashes) : List Char :=
  objectText [("l2BridgeImplementation", hashes.implementation.spelling),
    ("l2BridgeProxy", hashes.proxy.spelling), ("l2TokenProxy", hashes.tokenProxy.spelling),
    ("l2StandardToken", hashes.standardToken.spelling), ("l2TokenBeacon", hashes.tokenBeacon.spelling)]

theorem BridgeContractHashes.toList_write (hashes : BridgeContractHashes) :
    (write hashes).toList = hashes.spelling := by
  have hchars := compactChars_recordOf (by decide : PlainlyNamed jsonFields)
    [toJson hashes.implementation, toJson hashes.proxy, toJson hashes.tokenProxy,
      toJson hashes.standardToken, toJson hashes.tokenBeacon]
  rw [JsonForm.toList_write]
  exact hchars.trans (by simp [jsonFields, toJson, compactChars_ofBytes, spelling, BytecodeHash.spelling])

def BridgeL2Addresses.spelling (addresses : BridgeL2Addresses) : List Char :=
  objectText [("bridgeImplementation", hexText addresses.implementation.bytes),
    ("bridgeProxy", hexText addresses.proxy.bytes),
    ("standardToken", hexText addresses.standardToken.bytes),
    ("tokenBeacon", hexText addresses.tokenBeacon.bytes)]

theorem BridgeL2Addresses.toList_write (addresses : BridgeL2Addresses) :
    (write addresses).toList = addresses.spelling := by
  have hchars := compactChars_recordOf (by decide : PlainlyNamed jsonFields)
    [toJson addresses.implementation, toJson addresses.proxy, toJson addresses.standardToken,
      toJson addresses.tokenBeacon]
  rw [JsonForm.toList_write]
  exact hchars.trans (by simp [jsonFields, toJson, compactChars_ofBytes, spelling])

end RollupBridge
