import RollupBridge.Proofs.Abi.Call
import RollupBridge.Proofs.Withdrawal.Preparation

namespace RollupBridge

/-- Words take their slots and nothing behind them. -/
theorem Abi.length_layout_bytes32 (values : List Word) :
    (layout (values.map Ty.bytes32.part)).length = 32 * values.length := by
  have htails : tails (values.map Ty.bytes32.part) = [] := by
    induction values with
    | nil => rfl
    | cons value values ih => exact ih
  rw [length_layout, htails, List.length_map]
  rfl

namespace WithdrawalProof

/-- The arguments of the call that pays a withdrawal out. -/
def args (proof : WithdrawalProof) : Abi.Args L1Bridge.finalizeWithdrawal.params :=
  (proof.l1BatchNumber.setWidth 256, proof.l2MessageIndex.setWidth 256, proof.l2TxNumberInBlock,
    proof.message, proof.merkleProof, ())

theorem args_inj {proof other : WithdrawalProof} : proof.args = other.args ↔ proof = other := by
  constructor
  · intro hargs
    have hfields : (proof.l1BatchNumber.setWidth 256, proof.l2MessageIndex.setWidth 256,
        proof.l2TxNumberInBlock, proof.message, proof.merkleProof, ()) =
      (other.l1BatchNumber.setWidth 256, other.l2MessageIndex.setWidth 256,
        other.l2TxNumberInBlock, other.message, other.merkleProof, ()) := hargs
    cases proof
    cases other
    simp only [Prod.mk.injEq, and_true, Uint.setWidth_inj (by decide : 64 ≤ 256)] at hfields
    obtain ⟨rfl, rfl, rfl, rfl, rfl⟩ := hfields
    rfl
  · rintro rfl
    rfl

theorem length_encode_args_lt {proof : WithdrawalProof} (hmessage : proof.message.length < Uint.size 64)
    (hpath : proof.merkleProof.length < Uint.size 64) :
    (Abi.encode L1Bridge.finalizeWithdrawal.params proof.args).length < Uint.size 256 := by
  have hfill := Abi.length_fill_lt proof.message.length
  have hlayout := Abi.length_layout_bytes32 proof.merkleProof
  have hsize : 33 * Uint.size 64 + 1000 < Uint.size 256 := by decide
  simp only [Abi.encode, L1Bridge.finalizeWithdrawal, args, Abi.length_layout, Abi.parts, Abi.Ty.part,
    Abi.tails, List.length_cons, List.length_nil, List.length_append, FixedBytes.length_bytes]
    at hlayout ⊢
  omega

end WithdrawalProof

namespace WithdrawalFinalizer

variable {f : WithdrawalFinalizer} {proof : WithdrawalProof} {call : ContractCall}

/-- A valid proof has a message that is read and a path. -/
theorem validate_eq_ok_iff :
    f.validate proof = .ok call ↔
      (∃ message, f.parseMessage proof.message = .ok message) ∧ proof.merkleProof ≠ [] ∧
        f.finalizeCall proof = call := by
  simp only [validate, bind_eq_ok_iff]
  constructor
  · rintro ⟨message, hmessage, hpath⟩
    split at hpath
    case isTrue => cases hpath
    case isFalse hsome => exact ⟨⟨message, hmessage⟩, by simpa using hsome, Except.ok.inj hpath⟩
  · rintro ⟨⟨message, hmessage⟩, hsome, rfl⟩
    exact ⟨message, hmessage, by simp [hsome]; rfl⟩

/-- The call for a valid proof goes to the L1 bridge and is the standard encoding of the proof, so what L1
reads is what the proof says, with the message that was checked. No other valid proof has the same
calldata, whatever bridge pair it is of. The texts of a proof are as long as a machine word can count. -/
theorem validate_call_says (hvalid : f.validate proof = .ok call)
    (hmessage : proof.message.length < Uint.size 64)
    (hpath : proof.merkleProof.length < Uint.size 64) :
    call.target = f.l1Bridge ∧
    (∃ frame, call.calldata = [0x11, 0xa2, 0xcc, 0xc1] ++ frame ∧
      Abi.WrittenFrom L1Bridge.finalizeWithdrawal.params frame 0 proof.args) ∧
    L1Bridge.finalizeWithdrawal.decodeCall call.calldata = some proof.args ∧
    (∃ message, f.parseMessage proof.message = .ok message) ∧
    ∀ (g : WithdrawalFinalizer) (other : WithdrawalProof) (call' : ContractCall),
      g.validate other = .ok call' → call'.calldata = call.calldata → other = proof := by
  obtain ⟨hchecked, _, rfl⟩ := validate_eq_ok_iff.mp hvalid
  have hsize := WithdrawalProof.length_encode_args_lt hmessage hpath
  have hparams : L1Bridge.finalizeWithdrawal.params.all Abi.Ty.fitsSlot = true := by decide
  have hdecode : L1Bridge.finalizeWithdrawal.decodeCall (f.finalizeCall proof).calldata =
      some proof.args := Abi.Function.decodeCall_call hparams hsize
  refine ⟨rfl, ?_, hdecode, hchecked, ?_⟩
  · have hselector : L1Bridge.finalizeWithdrawal.selector.bytes = [0x11, 0xa2, 0xcc, 0xc1] := by decide
    rw [← hselector]
    exact (Abi.Function.decodeCall_eq_some_iff hparams).mp hdecode
  · intro g other call' hother hsame
    obtain ⟨_, _, rfl⟩ := validate_eq_ok_iff.mp hother
    exact (WithdrawalProof.args_inj.mp ((Abi.Function.call_inj hparams hsize).mp hsame.symm)).symm

/-- The proof of the only withdrawal without a payload, moved to the other place of its tree. -/
def moved : WithdrawalProof := { WithdrawalService.nothing with l2MessageIndex := 1 }

/-- Both places make a valid proof, and their calls differ. -/
theorem validate_call_says_of_moved :
    let f := WithdrawalService.bare.finalizer
    let proof := WithdrawalService.nothing
    f.validate proof = .ok (f.finalizeCall proof) ∧ f.validate moved = .ok (f.finalizeCall moved) ∧
      proof.message.length < Uint.size 64 ∧ proof.merkleProof.length < Uint.size 64 ∧
      L1Bridge.finalizeWithdrawal.decodeCall (f.finalizeCall proof).calldata = some proof.args ∧
      (f.finalizeCall moved).calldata ≠ (f.finalizeCall proof).calldata := by
  intro f proof
  have hvalid : f.validate proof = .ok (f.finalizeCall proof) := by rfl
  have hmoved : f.validate moved = .ok (f.finalizeCall moved) := by rfl
  have hmessage : proof.message.length < Uint.size 64 := by decide
  have hpath : proof.merkleProof.length < Uint.size 64 := by decide
  obtain ⟨_, _, hdecode, _, hother⟩ := validate_call_says hvalid hmessage hpath
  exact ⟨hvalid, hmoved, hmessage, hpath, hdecode,
    fun hsame => absurd (hother f moved _ hmoved hsame) (by decide)⟩

/-- A valid proof can be accepted for some batch root exactly if its path is no longer than 255 and a tree
of that depth has a place for its index. Otherwise it is refused for every root, for the fault of its
path. -/
theorem validate_includable_iff (H : Bytes → Word) (hvalid : f.validate proof = .ok call) :
    ((∃ root, f.verifyInclusion H proof root = .ok ()) ↔
      proof.merkleProof.length ≤ 255 ∧
        proof.l2MessageIndex.toNat < 2 ^ proof.merkleProof.length) ∧
    ∀ error, Merkle.Rootless proof.merkleProof proof.l2MessageIndex error →
      ∀ root, f.verifyInclusion H proof root = .error error := by
  obtain ⟨_, hsome, _⟩ := validate_eq_ok_iff.mp hvalid
  have hlength : proof.merkleProof.length < Merkle.maxPathLength ↔ proof.merkleProof.length ≤ 255 :=
    Nat.lt_succ_iff
  constructor
  · simp only [verifyInclusion_eq_ok_iff, exists_and_left, exists_eq', and_true, hlength, hsome, ne_eq,
      not_false_eq_true, true_and]
  · intro error hrootless root
    exact verifyInclusion_eq_error_iff.mpr (.rootless hrootless)

/-- The same proof at a place that a tree of one level does not have. -/
def outside : WithdrawalProof := { WithdrawalService.nothing with l2MessageIndex := 2 }

/-- The last place of a tree is accepted for some root, and the place behind it for none. -/
theorem validate_includable_iff_of_moved :
    let f := WithdrawalService.bare.finalizer
    (∃ call, f.validate moved = .ok call) ∧
      (∃ root, f.verifyInclusion keccak256 moved root = .ok ()) ∧
      (∃ call, f.validate outside = .ok call) ∧
      ∀ root, f.verifyInclusion keccak256 outside root = .error (.messageIndexOutOfRange 2 1) := by
  intro f
  have hmoved : f.validate moved = .ok (f.finalizeCall moved) := by rfl
  have houtside : f.validate outside = .ok (f.finalizeCall outside) := by rfl
  have hrootless : Merkle.Rootless outside.merkleProof outside.l2MessageIndex
      (.messageIndexOutOfRange 2 1) := .outOfRange (by decide) (by decide) (by decide)
  exact ⟨⟨_, hmoved⟩, (validate_includable_iff keccak256 hmoved).1.mpr ⟨by decide, by decide⟩,
    ⟨_, houtside⟩, (validate_includable_iff keccak256 houtside).2 _ hrootless⟩

/-- A call is handed back for a proof whose index has no place in a tree of its path's depth, and no batch
root makes that proof acceptable. -/
theorem validate_accepts_outside :
    ¬∀ (f : WithdrawalFinalizer) (proof : WithdrawalProof) (call : ContractCall),
      f.validate proof = .ok call → ∃ root, f.verifyInclusion keccak256 proof root = .ok () := by
  intro hclaim
  have houtside : WithdrawalService.bare.finalizer.validate outside =
      .ok (WithdrawalService.bare.finalizer.finalizeCall outside) := by rfl
  obtain ⟨root, hroot⟩ := hclaim _ outside _ houtside
  obtain ⟨⟨_, _, hindex⟩, _⟩ := verifyInclusion_eq_ok_iff.mp hroot
  exact absurd hindex (by decide)

end WithdrawalFinalizer

end RollupBridge
