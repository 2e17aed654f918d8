import RollupBridge.Proofs.Abi.Call

namespace RollupBridge.PriorityTransaction

/-- The L2 calldata behind the head, filled up to a whole word. -/
def calldataTail (tx : PriorityTransaction) : Bytes :=
  (Abi.numberWord tx.calldata.length).bytes ++ tx.calldata ++ Abi.fill tx.calldata.length

/-- The dependencies behind the L2 calldata: how many there are, then a frame of their own. -/
def depsTail (tx : PriorityTransaction) : Bytes :=
  (Abi.numberWord tx.factoryDeps.length).bytes ++ Abi.layout (tx.factoryDeps.map Abi.Ty.bytes.part)

/-- The words of the head. The request struct has no dynamic member, so it takes no offset. -/
def head (tx : PriorityTransaction) : List Word :=
  [Word.ofAddress tx.target, Uint.toWord tx.l2Value, Uint.toWord (tx.l2GasLimit.setWidth 256),
    Uint.toWord (tx.gasPerPubdata.setWidth 256), Abi.numberWord (8 * 32),
    Abi.numberWord (8 * 32 + tx.calldataTail.length), Word.ofAddress tx.refundRecipient,
    Uint.toWord tx.requiredValue]

/-- The calldata, word by word. -/
theorem encode_eq (tx : PriorityTransaction) :
    tx.encode = [0x67, 0x34, 0x59, 0xad] ++
      (tx.head.flatMap FixedBytes.bytes ++ (tx.calldataTail ++ tx.depsTail)) := by
  have hselector : Mailbox.requestL2Transaction.selector.bytes = [0x67, 0x34, 0x59, 0xad] := by decide
  change Mailbox.requestL2Transaction.selector.bytes ++
    Abi.encode Mailbox.requestL2Transaction.params tx.args = _
  rw [hselector]
  refine congrArg _ ?_
  simp only [Abi.encode, Abi.layout, Mailbox.requestL2Transaction, Abi.parts, Abi.Ty.part, Abi.heads,
    Abi.tails, args, head, calldataTail, depsTail, List.length_cons, List.length_nil, List.flatMap_cons,
    List.flatMap_nil, List.append_nil, List.append_assoc]

theorem args_inj {tx other : PriorityTransaction} : tx.args = other.args ↔ tx = other := by
  constructor
  · intro hargs
    have hfields : (tx.target, tx.l2Value, tx.l2GasLimit.setWidth 256, tx.gasPerPubdata.setWidth 256,
        tx.calldata, tx.factoryDeps, tx.refundRecipient, tx.requiredValue, ()) =
      (other.target, other.l2Value, other.l2GasLimit.setWidth 256, other.gasPerPubdata.setWidth 256,
        other.calldata, other.factoryDeps, other.refundRecipient, other.requiredValue, ()) := hargs
    cases tx
    cases other
    simp only [Prod.mk.injEq, and_true, Uint.setWidth_inj (by decide : 64 ≤ 256)] at hfields
    obtain ⟨rfl, rfl, rfl, rfl, rfl, rfl, rfl, rfl⟩ := hfields
    rfl
  · rintro rfl
    rfl

/-- The calldata of a request is the selector and the standard encoding of the request: the struct stands
inline in a head of eight words, every offset leads to the content it is for, and contents are filled up
with zero bytes. It is read back as the request, and no other request has the same calldata. The texts of
a request are as long as a machine word can count. -/
theorem encode_standard {tx : PriorityTransaction} (hcalldata : tx.calldata.length < Uint.size 64)
    (hdeps : Carriable tx.factoryDeps) :
    (∃ frame, tx.encode = [0x67, 0x34, 0x59, 0xad] ++ frame ∧
      frame = tx.head.flatMap FixedBytes.bytes ++ (tx.calldataTail ++ tx.depsTail) ∧
      Abi.WrittenFrom Mailbox.requestL2Transaction.params frame 0 tx.args) ∧
    Mailbox.requestL2Transaction.decodeCall tx.encode = some tx.args ∧
    ∀ other : PriorityTransaction, other.encode = tx.encode → other = tx := by
  have hsize := length_encode_args_lt hcalldata hdeps
  have hparams : Mailbox.requestL2Transaction.params.all Abi.Ty.fitsSlot = true := by decide
  have hdecode : Mailbox.requestL2Transaction.decodeCall tx.encode = some tx.args :=
    decodeCall_encode hcalldata hdeps
  refine ⟨?_, hdecode, ?_⟩
  · obtain ⟨frame, hframe, hwritten⟩ := (Abi.Function.decodeCall_eq_some_iff hparams).mp hdecode
    have hselector : Mailbox.requestL2Transaction.selector.bytes = [0x67, 0x34, 0x59, 0xad] := by
      decide
    rw [hselector] at hframe
    exact ⟨frame, hframe, List.append_cancel_left (hframe.symm.trans tx.encode_eq), hwritten⟩
  · intro other hsame
    exact (args_inj.mp ((Abi.Function.call_inj hparams hsize).mp hsame.symm)).symm

/-- A request with calldata that fills no word and with an empty dependency in front of another one. -/
def uneven : PriorityTransaction where
  target := FixedBytes.ofNat 0xbb
  l2Value := 5
  calldata := [0xca, 0xfe]
  l2GasLimit := 7
  gasPerPubdata := 800
  factoryDeps := [[], [1, 2, 3]]
  refundRecipient := FixedBytes.ofNat 0xaa
  requiredValue := 1234

/-- Moving the empty dependency behind the other one gives other calldata. -/
theorem encode_standard_of_uneven :
    uneven.calldata.length < Uint.size 64 ∧ Carriable uneven.factoryDeps ∧
      Mailbox.requestL2Transaction.decodeCall uneven.encode = some uneven.args ∧
      { uneven with factoryDeps := [[1, 2, 3], []] }.encode ≠ uneven.encode := by
  have hcalldata : uneven.calldata.length < Uint.size 64 := by decide
  have hdeps : Carriable uneven.factoryDeps := ⟨by decide, by decide⟩
  obtain ⟨_, hdecode, hother⟩ := encode_standard hcalldata hdeps
  exact ⟨hcalldata, hdeps, hdecode, fun hsame => absurd (hother _ hsame) (by decide)⟩

end RollupBridge.PriorityTransaction
