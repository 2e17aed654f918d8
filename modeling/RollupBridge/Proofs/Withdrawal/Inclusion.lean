import RollupBridge.Withdrawal.Finalizer
import RollupBridge.Proofs.Merkle

namespace RollupBridge.WithdrawalFinalizer

variable {H : Bytes → Word} {f : WithdrawalFinalizer} {proof p q : WithdrawalProof} {root : Word}

/-- What is hashed to verify a proof: the message, its log, and the pairs on the way up. -/
def hashed (H : Bytes → Word) (f : WithdrawalFinalizer) (proof : WithdrawalProof) : List Bytes :=
  proof.message ::
    Merkle.log H proof.l2TxNumberInBlock (f.layout.logSender f.l2Counterpart) proof.message ::
    Merkle.pairs H proof.merkleProof proof.l2MessageIndex.toNat (f.proofLeaf H proof)

theorem message_mem_hashed (H : Bytes → Word) (f : WithdrawalFinalizer) (proof : WithdrawalProof) :
    proof.message ∈ f.hashed H proof := List.mem_cons_self

theorem log_mem_hashed (H : Bytes → Word) (f : WithdrawalFinalizer) (proof : WithdrawalProof) :
    Merkle.log H proof.l2TxNumberInBlock (f.layout.logSender f.l2Counterpart) proof.message ∈
      f.hashed H proof :=
  List.mem_cons_of_mem _ List.mem_cons_self

theorem pairs_subset_hashed (H : Bytes → Word) (f : WithdrawalFinalizer) (proof : WithdrawalProof) :
    Merkle.pairs H proof.merkleProof proof.l2MessageIndex.toNat (f.proofLeaf H proof) ⊆
      f.hashed H proof :=
  fun _ hmem => List.mem_cons_of_mem _ (List.mem_cons_of_mem _ hmem)

/-- An accepted proof has a path of an allowed length, with a place for its index, up to the root. -/
theorem verifyInclusion_eq_ok_iff :
    f.verifyInclusion H proof root = .ok () ↔
      (proof.merkleProof ≠ [] ∧ proof.merkleProof.length < Merkle.maxPathLength ∧
        proof.l2MessageIndex.toNat < 2 ^ proof.merkleProof.length) ∧
      Merkle.climb H proof.merkleProof proof.l2MessageIndex.toNat (f.proofLeaf H proof) = root := by
  rw [← Merkle.calculateRoot_eq_ok_iff]
  unfold verifyInclusion
  cases Merkle.calculateRoot H proof.merkleProof proof.l2MessageIndex (f.proofLeaf H proof) with
  | error error => simp [bind, Except.bind]
  | ok computed => by_cases hsame : computed = root <;> simp [bind, Except.bind, pure, Except.pure, hsame]

/-- The verification depends on nothing but the hashes of these strings. -/
theorem verifyInclusion_congr {H' : Bytes → Word}
    (hsame : ∀ string ∈ f.hashed H proof, H string = H' string) :
    f.verifyInclusion H proof root = f.verifyInclusion H' proof root := by
  rw [hashed, List.forall_mem_cons, List.forall_mem_cons] at hsame
  obtain ⟨hmessage, hlog, hpairs⟩ := hsame
  have hleaf : f.proofLeaf H proof = f.proofLeaf H' proof := by
    rw [proofLeaf, Merkle.leaf, hlog, Merkle.log, hmessage]
    rfl
  unfold verifyInclusion Merkle.calculateRoot
  rw [Merkle.climb_congr hpairs, hleaf]

/-- Of two accepted proofs, one at the place of the other or above it, the upper one starts at a node on
the way of the lower one and goes on along the same path, or two strings collide. -/
theorem proofLeaf_eq_climb {lower upper : List Word} (hp : f.verifyInclusion H p root = .ok ())
    (hq : f.verifyInclusion H q root = .ok ()) (hpath : q.merkleProof = lower ++ upper)
    (hlength : p.merkleProof.length = upper.length)
    (hindex : p.l2MessageIndex = q.l2MessageIndex >>> lower.length) :
    (f.proofLeaf H p = Merkle.climb H lower q.l2MessageIndex.toNat (f.proofLeaf H q) ∧
        p.merkleProof = upper) ∨
      Collision H (f.hashed H p ++ f.hashed H q) := by
  have hplace : p.l2MessageIndex.toNat = q.l2MessageIndex.toNat / 2 ^ lower.length := by
    rw [hindex, BitVec.toNat_ushiftRight, Nat.shiftRight_eq_div_pow]
  have hroot := (verifyInclusion_eq_ok_iff.mp hp).2.trans (verifyInclusion_eq_ok_iff.mp hq).2.symm
  rw [hpath] at hroot
  refine (Merkle.climb_binding_append hlength hplace hroot).imp_right fun hcollision =>
    hcollision.mono ?_
  rw [← hpath]
  exact List.append_subset.mpr
    ⟨List.subset_append_of_subset_left _ (pairs_subset_hashed H f p),
      List.subset_append_of_subset_right _ (pairs_subset_hashed H f q)⟩

/-- Inclusion proofs are binding. Of two accepted proofs whose places in the tree are one, or one below
the other, both carry one message along one path, or two of the strings that were hashed for them
collide. If one place is properly below the other, then they do collide: the leaf of a log passes for
no inner node. -/
theorem verifyInclusion_binding (hp : f.verifyInclusion H p root = .ok ())
    (hq : f.verifyInclusion H q root = .ok ())
    (hdepth : p.merkleProof.length ≤ q.merkleProof.length)
    (hindex : p.l2MessageIndex =
      q.l2MessageIndex >>> (q.merkleProof.length - p.merkleProof.length)) :
    ((p.merkleProof.length = q.merkleProof.length ∧ p.l2TxNumberInBlock = q.l2TxNumberInBlock ∧
        p.message = q.message ∧ p.merkleProof = q.merkleProof) ∨
      Collision H (f.hashed H p ++ f.hashed H q)) ∧
    (p.merkleProof.length < q.merkleProof.length → Collision H (f.hashed H p ++ f.hashed H q)) := by
  -- The path of `q` is split where it passes the place of `p`.
  obtain ⟨lower, upper, hpath, hlower, hupper⟩ : ∃ lower upper, q.merkleProof = lower ++ upper ∧
      lower.length = q.merkleProof.length - p.merkleProof.length ∧
      p.merkleProof.length = upper.length :=
    ⟨q.merkleProof.take (q.merkleProof.length - p.merkleProof.length),
      q.merkleProof.drop (q.merkleProof.length - p.merkleProof.length),
      (List.take_append_drop ..).symm, by rw [List.length_take]; omega,
      by rw [List.length_drop]; omega⟩
  rw [← hlower] at hindex
  suffices hbinding : (p.merkleProof.length = q.merkleProof.length ∧
      p.l2TxNumberInBlock = q.l2TxNumberInBlock ∧ p.message = q.message ∧
      p.merkleProof = q.merkleProof) ∨ Collision H (f.hashed H p ++ f.hashed H q) from
    ⟨hbinding, fun hless => hbinding.resolve_left fun hsame => Nat.ne_of_lt hless hsame.1⟩
  rcases proofLeaf_eq_climb hp hq hpath hupper hindex with ⟨hleaf, hsame⟩ | hcollision
  · have hlog := List.mem_append_left (f.hashed H q) (log_mem_hashed H f p)
    by_cases hempty : lower = []
    · subst hempty
      have hmessage := List.mem_append_left (f.hashed H q) (message_mem_hashed H f p)
      have hmessage' := List.mem_append_right (f.hashed H p) (message_mem_hashed H f q)
      have hlog' := List.mem_append_right (f.hashed H p) (log_mem_hashed H f q)
      refine (Merkle.leaf_binding hmessage hmessage' hlog hlog' hleaf).imp_left ?_
      rintro ⟨htx, hsameMessage⟩
      have hsamePath : p.merkleProof = q.merkleProof := hsame.trans hpath.symm
      exact ⟨congrArg List.length hsamePath, htx, hsameMessage, hsamePath⟩
    · refine Or.inr (Merkle.leaf_ne_climb hempty hlog ?_ hleaf)
      have hpairs := pairs_subset_hashed H f q
      rw [hpath, Merkle.pairs_append, List.append_subset] at hpairs
      exact List.subset_append_of_subset_right _ hpairs.1
  · exact Or.inr hcollision

/-- A hash function that keeps the first word of a string. -/
def firstWord (bytes : Bytes) : Word := FixedBytes.slice bytes 0

/-- A finalizer of zero addresses. -/
def plain : WithdrawalFinalizer := ⟨FixedBytes.zero, FixedBytes.zero, .standard⟩

/-- A proof of the empty message at the first place of a depth, with siblings that are all zero. -/
def leftmost (depth : Nat) : WithdrawalProof := ⟨1, 0, 0, [], List.replicate depth FixedBytes.zero⟩

/-- If only the first word counts, a left child passes for its parent. So a proof is accepted at any
depth, and two depths make a collision. -/
theorem verifyInclusion_binding_of_firstWord :
    let root := plain.proofLeaf firstWord (leftmost 1)
    plain.verifyInclusion firstWord (leftmost 1) root = .ok () ∧
      plain.verifyInclusion firstWord (leftmost 2) root = .ok () ∧
      (leftmost 1).l2MessageIndex = (leftmost 2).l2MessageIndex >>> (2 - 1) ∧
      Collision firstWord (plain.hashed firstWord (leftmost 1) ++
        plain.hashed firstWord (leftmost 2)) := by
  have hp : plain.verifyInclusion firstWord (leftmost 1)
      (plain.proofLeaf firstWord (leftmost 1)) = .ok () := by rfl
  have hq : plain.verifyInclusion firstWord (leftmost 2)
      (plain.proofLeaf firstWord (leftmost 1)) = .ok () := by rfl
  have hindex : (leftmost 1).l2MessageIndex = (leftmost 2).l2MessageIndex >>> (2 - 1) := by decide
  exact ⟨hp, hq, hindex, (verifyInclusion_binding hp hq (by decide) hindex).2 (by decide)⟩

end RollupBridge.WithdrawalFinalizer
