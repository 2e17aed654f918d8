import RollupBridge.Counterpart
import RollupBridge.PriorityTransaction
import RollupBridge.Weth
import RollupBridge.Proofs.Abi.RoundTrip
import RollupBridge.Proofs.Bytecode

namespace RollupBridge

namespace Abi

theorem length_fill_lt (length : Nat) : (fill length).length < 32 := by
  rw [fill, Bytes.length_zeros]
  exact Nat.mod_lt _ (by decide)

/-- A byte string takes a slot for its length, and less than another to fill its last word. -/
theorem length_tails_bytes_le {values : List Bytes} {longest : Nat}
    (hvalues : ∀ value ∈ values, value.length ≤ longest) :
    (tails (values.map Ty.bytes.part)).length ≤ values.length * (longest + 63) := by
  induction values with
  | nil => exact Nat.zero_le _
  | cons value values ih =>
    have hvalue := hvalues value List.mem_cons_self
    have hrest := ih fun later hlater => hvalues later (List.mem_cons_of_mem _ hlater)
    have hfill := length_fill_lt value.length
    simp only [List.map_cons, Ty.part, tails, List.length_append, FixedBytes.length_bytes,
      List.length_cons, Nat.succ_mul] at hrest ⊢
    omega

end Abi

/-- Texts that a call can carry: shorter than any memory that could hold them. No call with them
comes near the length that a slot can no longer hold. -/
def Carriable (texts : List Bytes) : Prop :=
  texts.length < Uint.size 64 ∧ ∀ text ∈ texts, text.length < Uint.size 64

theorem Carriable.length_layout_lt {texts : List Bytes} (htexts : Carriable texts) :
    (Abi.layout (texts.map Abi.Ty.bytes.part)).length + Uint.size 65 < Uint.size 256 := by
  have htails := Abi.length_tails_bytes_le fun text htext => Nat.le_of_lt (htexts.2 text htext)
  have hcount := htexts.1
  have hproduct := Nat.mul_le_mul_right (Uint.size 64 + 63) (Nat.le_of_lt hcount)
  have hsize : 32 * Uint.size 64 + Uint.size 64 * (Uint.size 64 + 63) + Uint.size 65 <
      Uint.size 256 := by decide
  rw [Abi.length_layout, List.length_map]
  omega

namespace PriorityTransaction

/-- The arguments of the call that makes a request. -/
def args (tx : PriorityTransaction) : Abi.Args Mailbox.requestL2Transaction.params :=
  (tx.target, tx.l2Value, tx.l2GasLimit.setWidth 256, tx.gasPerPubdata.setWidth 256, tx.calldata,
    tx.factoryDeps, tx.refundRecipient, tx.requiredValue, ())

theorem length_encode_args_lt {tx : PriorityTransaction}
    (hcalldata : tx.calldata.length < Uint.size 64) (hdeps : Carriable tx.factoryDeps) :
    (Abi.encode Mailbox.requestL2Transaction.params tx.args).length < Uint.size 256 := by
  have hfill := Abi.length_fill_lt tx.calldata.length
  have hlayout := hdeps.length_layout_lt
  have hsize : Uint.size 64 + 1000 < Uint.size 65 := by decide
  simp only [Abi.encode, Mailbox.requestL2Transaction, args, Abi.length_layout, Abi.parts, Abi.Ty.part,
    Abi.tails, List.length_cons, List.length_nil, List.length_append, FixedBytes.length_bytes]
    at hlayout ⊢
  omega

/-- The call that makes a request is read back as the request. -/
theorem decodeCall_encode {tx : PriorityTransaction} (hcalldata : tx.calldata.length < Uint.size 64)
    (hdeps : Carriable tx.factoryDeps) :
    Mailbox.requestL2Transaction.decodeCall tx.encode =
      some (tx.target, tx.l2Value, tx.l2GasLimit.setWidth 256, tx.gasPerPubdata.setWidth 256,
        tx.calldata, tx.factoryDeps, tx.refundRecipient, tx.requiredValue, ()) :=
  Abi.Function.decodeCall_call (by decide) (length_encode_args_lt hcalldata hdeps)

end PriorityTransaction

/-- The call that deploys a counterpart is read back as what it was made from. -/
theorem decodeCall_deployCounterpartCalldata {factoryDeps : List Bytes} (hdeps : Carriable factoryDeps)
    (tokenBeacon governor : Address) (implementationFee proxyFee : Uint 256) :
    L1Bridge.deployCounterpart.decodeCall
        (deployCounterpartCalldata factoryDeps tokenBeacon governor implementationFee proxyFee) =
      some (factoryDeps, tokenBeacon, governor, implementationFee, proxyFee, ()) := by
  refine Abi.Function.decodeCall_call (by decide) ?_
  have hlayout := hdeps.length_layout_lt
  have hsize : 1000 < Uint.size 65 := by decide
  simp only [Abi.encode, L1Bridge.deployCounterpart, Abi.length_layout, Abi.parts, Abi.Ty.part,
    Abi.tails, List.length_cons, List.length_nil, List.length_append, FixedBytes.length_bytes]
    at hlayout ⊢
  omega

/-- The calldata of a token upgrade has no part that varies in length. -/
theorem WethUpgrade.length_l2Calldata (upgrade : WethUpgrade) :
    upgrade.l2Calldata.length = 196 := by
  simp [l2Calldata, Abi.Function.call, Abi.encode, UpgradeableProxy.upgradeToAndCall, L2Weth.bindToken,
    Abi.length_layout, Abi.parts, Abi.Ty.part, Abi.tails, Abi.fill]

namespace BridgeBytecodes

variable {codes : BridgeBytecodes} {hasher : BytecodeHasher} {hashes : BridgeContractHashes}

/-- The hashes of all bytecodes are those of each of them. -/
theorem hashes_eq_ok_iff :
    codes.hashes hasher = .ok hashes ↔
      hasher.hash codes.implementation = .ok hashes.implementation ∧
      hasher.hash codes.proxy = .ok hashes.proxy ∧
      hasher.hash codes.tokenProxy = .ok hashes.tokenProxy ∧
      hasher.hash codes.standardToken = .ok hashes.standardToken ∧
      hasher.hash codes.tokenBeacon = .ok hashes.tokenBeacon := by
  unfold BridgeBytecodes.hashes
  obtain ⟨implementation, proxy, tokenProxy, standardToken, tokenBeacon⟩ := hashes
  cases hasher.hash codes.implementation <;> cases hasher.hash codes.proxy <;>
    cases hasher.hash codes.tokenProxy <;> cases hasher.hash codes.standardToken <;>
    cases hasher.hash codes.tokenBeacon <;> simp [bind, Except.bind, pure, Except.pure]

theorem carriable_publicationDeps (hhashes : codes.hashes hasher = .ok hashes) :
    Carriable codes.publicationDeps := by
  obtain ⟨_, _, _, hstandardToken, htokenBeacon⟩ := hashes_eq_ok_iff.mp hhashes
  refine ⟨by simp [publicationDeps, Uint.size], ?_⟩
  simp [publicationDeps, BytecodeHasher.length_lt_of_hash hstandardToken,
    BytecodeHasher.length_lt_of_hash htokenBeacon]

theorem carriable_deploymentDeps (hhashes : codes.hashes hasher = .ok hashes) :
    Carriable codes.deploymentDeps := by
  obtain ⟨himplementation, hproxy, htokenProxy, _, _⟩ := hashes_eq_ok_iff.mp hhashes
  refine ⟨by simp [deploymentDeps, Uint.size], ?_⟩
  simp [deploymentDeps, BytecodeHasher.length_lt_of_hash himplementation,
    BytecodeHasher.length_lt_of_hash hproxy, BytecodeHasher.length_lt_of_hash htokenProxy]

end BridgeBytecodes

end RollupBridge
