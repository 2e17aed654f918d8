import RollupBridge.Proofs.Checks
import RollupBridge.Proofs.Withdrawal.Inclusion

namespace RollupBridge

variable {H : Bytes → Word}

/-- Why a path leads to no root from a place, in the order of the checks. -/
inductive Merkle.Rootless (path : List Word) (index : Uint 64) : WithdrawalError → Prop
  | missing (hnone : path = []) : Rootless path index .missingProof
  | tooLong (hlong : maxPathLength ≤ path.length) : Rootless path index (.proofTooLong path.length)
  | outOfRange (hsome : path ≠ []) (hlength : path.length < maxPathLength)
      (hindex : 2 ^ path.length ≤ index.toNat) :
      Rootless path index (.messageIndexOutOfRange index path.length)

theorem Merkle.calculateRoot_eq_error_iff {path : List Word} {index : Uint 64} {node : Word}
    {error : WithdrawalError} :
    calculateRoot H path index node = .error error ↔ Rootless path index error := by
  rw [calculateRoot, Nat.pow_eq]
  constructor
  · intro herror
    split at herror
    case isTrue hnone =>
      cases herror
      exact .missing (List.isEmpty_iff.mp hnone)
    case isFalse hsome =>
      split at herror
      case isTrue hlong =>
        cases herror
        exact .tooLong hlong
      case isFalse hlength =>
        split at herror
        case isTrue hindex =>
          cases herror
          exact .outOfRange (by simpa using hsome) (Nat.lt_of_not_le hlength) hindex
        case isFalse => cases herror
  · intro hrootless
    cases hrootless with
    | missing hnone => simp [hnone]
    | tooLong hlong =>
      have hsome : path ≠ [] := by
        rintro rfl
        exact absurd hlong (by decide)
      simp [hsome, hlong]
    | outOfRange hsome hlength hindex => simp [hsome, Nat.not_le.mpr hlength, hindex]

namespace WithdrawalFinalizer

variable {f : WithdrawalFinalizer} {proof : WithdrawalProof} {root : Word}

/-- The root that the path of a proof leads to from the leaf of its log. -/
def computedRoot (H : Bytes → Word) (f : WithdrawalFinalizer) (proof : WithdrawalProof) : Word :=
  Merkle.climb H proof.merkleProof proof.l2MessageIndex.toNat (f.proofLeaf H proof)

/-- Why a batch does not hold a proof's log at its place. -/
inductive Excluded (H : Bytes → Word) (f : WithdrawalFinalizer) (proof : WithdrawalProof)
    (root : Word) : WithdrawalError → Prop
  | rootless {error : WithdrawalError}
      (hrootless : Merkle.Rootless proof.merkleProof proof.l2MessageIndex error) :
      Excluded H f proof root error
  | mismatch (hsome : proof.merkleProof ≠ [])
      (hlength : proof.merkleProof.length < Merkle.maxPathLength)
      (hindex : proof.l2MessageIndex.toNat < 2 ^ proof.merkleProof.length)
      (hroot : f.computedRoot H proof ≠ root) :
      Excluded H f proof root (.inclusionMismatch root (f.computedRoot H proof))

theorem verifyInclusion_eq_error_iff {error : WithdrawalError} :
    f.verifyInclusion H proof root = .error error ↔ f.Excluded H proof root error := by
  rw [verifyInclusion, bind_eq_error_iff, Merkle.calculateRoot_eq_error_iff]
  constructor
  · rintro (hrootless | ⟨computed, hcomputed, hmismatch⟩)
    · exact .rootless hrootless
    · obtain ⟨⟨hsome, hlength, hindex⟩, rfl⟩ := Merkle.calculateRoot_eq_ok_iff.mp hcomputed
      split at hmismatch
      case isTrue hroot =>
        cases hmismatch
        exact .mismatch hsome hlength hindex hroot
      case isFalse => cases hmismatch
  · rintro (hrootless | ⟨hsome, hlength, hindex, hroot⟩)
    · exact Or.inl hrootless
    · refine Or.inr ⟨_, Merkle.calculateRoot_eq_ok_iff.mpr ⟨⟨hsome, hlength, hindex⟩, rfl⟩, ?_⟩
      exact if_pos hroot

end WithdrawalFinalizer

end RollupBridge
