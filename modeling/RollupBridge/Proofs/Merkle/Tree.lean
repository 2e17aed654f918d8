import RollupBridge.Proofs.Withdrawal.Exclusion

namespace RollupBridge.Merkle

variable {H : Bytes → Word}

/-- The leaves of a perfect tree, by their positions. -/
abbrev Leaves (depth : Nat) := Fin (2 ^ depth) → Word

namespace Leaves

variable {depth : Nat}

/-- The leaves below the left child of the root. -/
def left (leaves : Leaves (depth + 1)) : Leaves depth :=
  fun i => leaves ⟨i, by rw [Nat.pow_succ]; omega⟩

/-- The leaves below the right child of the root. -/
def right (leaves : Leaves (depth + 1)) : Leaves depth :=
  fun i => leaves ⟨2 ^ depth + i, by rw [Nat.pow_succ]; omega⟩

/-- The root of the tree. A node is the hash of its two children, the left one first. -/
def root (H : Bytes → Word) : {depth : Nat} → Leaves depth → Word
  | 0, leaves => leaves 0
  | _ + 1, leaves => join H (root H leaves.left) (root H leaves.right)

/-- The siblings of a leaf and of the nodes above it, from the leaf up. -/
def siblings (H : Bytes → Word) : {depth : Nat} → Leaves depth → (position : Nat) → List Word
  | 0, _, _ => []
  | depth + 1, leaves, position =>
    if position < 2 ^ depth then leaves.left.siblings H position ++ [leaves.right.root H]
    else leaves.right.siblings H (position - 2 ^ depth) ++ [leaves.left.root H]

@[simp]
theorem length_siblings (H : Bytes → Word) (leaves : Leaves depth) (position : Nat) :
    (leaves.siblings H position).length = depth := by
  induction depth generalizing position with
  | zero => rfl
  | succ depth ih =>
    rw [siblings]
    split <;> simp [ih]

end Leaves

/-- No bits count but those that the path has siblings for. -/
theorem climb_mod (path : List Word) (index : Nat) (node : Word) :
    climb H path (index % 2 ^ path.length) node = climb H path index node := by
  induction path generalizing index node with
  | nil => rfl
  | cons sibling path ih =>
    have hlowest : index % 2 ^ (path.length + 1) % 2 = index % 2 :=
      Nat.mod_mod_of_dvd index ⟨2 ^ path.length, Nat.pow_succ'⟩
    have hupper : index % 2 ^ (path.length + 1) / 2 = index / 2 % 2 ^ path.length := by
      rw [Nat.pow_succ', Nat.mod_mul_right_div_self]
    rw [List.length_cons, climb_cons, climb_cons, hupper, ih, pair, pair, hlowest]

/-- The siblings of a leaf lead to the root. The last of them is the other half of the tree, and below it
the position counts from the start of its own half. -/
theorem climb_siblings {depth : Nat} (leaves : Leaves depth) (i : Fin (2 ^ depth)) :
    climb H (leaves.siblings H i) i (leaves i) = leaves.root H := by
  induction depth with
  | zero =>
    have hzero : i = 0 := Fin.ext (Nat.lt_one_iff.mp i.isLt)
    rw [hzero]
    rfl
  | succ depth ih =>
    obtain ⟨i, hi⟩ := i
    rw [Nat.pow_succ] at hi
    rw [Leaves.siblings]
    split
    case isTrue hleft =>
      have hhalf : climb H (leaves.left.siblings H i) i (leaves.left ⟨i, hleft⟩) =
          leaves.left.root H := ih leaves.left ⟨i, hleft⟩
      have hside : i / 2 ^ depth = 0 := Nat.div_eq_of_lt hleft
      rw [climb_append, Leaves.length_siblings, hside]
      exact congrArg (join H · (leaves.right.root H)) hhalf
    case isFalse hright =>
      obtain ⟨j, rfl⟩ : ∃ j, i = 2 ^ depth + j := Nat.exists_eq_add_of_le (Nat.le_of_not_lt hright)
      have hj : j < 2 ^ depth := by omega
      have hhalf : climb H (leaves.right.siblings H j) j (leaves.right ⟨j, hj⟩) =
          leaves.right.root H := ih leaves.right ⟨j, hj⟩
      have hside : (2 ^ depth + j) / 2 ^ depth = 1 := by
        rw [Nat.add_div_left _ (Nat.two_pow_pos depth), Nat.div_eq_of_lt hj]
      have hbelow : (2 ^ depth + j) % 2 ^ depth = j := by
        rw [Nat.add_mod_left, Nat.mod_eq_of_lt hj]
      have hclimb : climb H (leaves.right.siblings H j) (2 ^ depth + j) (leaves.right ⟨j, hj⟩) =
          leaves.right.root H := by
        rw [← climb_mod, Leaves.length_siblings, hbelow, hhalf]
      rw [Nat.add_sub_cancel_left, climb_append, Leaves.length_siblings, hside]
      exact congrArg (join H (leaves.left.root H)) hclimb

section MachineWord

/-- `index >>> count`, but nothing where a word has not so many bits. -/
def shift? (index : Uint 64) (count : Nat) : Option (Uint 64) :=
  if count < 64 then some (index >>> count) else none

/-- `climb` with the index in a word, whose lowest bit is shifted out at each step. -/
def climbWord (H : Bytes → Word) : (path : List Word) → (index : Uint 64) → Word → Word
  | [], _, node => node
  | sibling :: path, index, node =>
    climbWord H path (index >>> 1) (if index &&& 1 = 0 then join H node sibling else join H sibling node)

/-- `calculateRoot` on a word, but giving up where it would be shifted by more than its bits. A path of
64 siblings or more has a place for every word. -/
def calculateRootWithin? (H : Bytes → Word) (path : List Word) (index : Uint 64) (leaf : Word) :
    Option (Except WithdrawalError Word) := do
  if path.isEmpty then return .error .missingProof
  if maxPathLength ≤ path.length then return .error (.proofTooLong path.length)
  if path.length < 64 then
    if (← shift? index path.length) ≠ 0 then
      return .error (.messageIndexOutOfRange index path.length)
  return .ok (climbWord H path index leaf)

theorem climbWord_eq (path : List Word) (index : Uint 64) (node : Word) :
    climbWord H path index node = climb H path index.toNat node := by
  induction path generalizing index node with
  | nil => rfl
  | cons sibling path ih =>
    have hlowest : index &&& 1 = 0 ↔ index.toNat % 2 = 0 := by
      rw [← BitVec.toNat_inj, BitVec.toNat_and]
      exact Nat.and_one_is_mod index.toNat ▸ Iff.rfl
    have hupper : (index >>> 1).toNat = index.toNat / 2 := by
      rw [BitVec.toNat_ushiftRight, Nat.shiftRight_eq_div_pow, Nat.pow_one]
    rw [climbWord, climb, ih, hupper]
    simp only [hlowest]

/-- Nothing is left of a word that has a place in a tree, once it is shifted by the tree's depth. -/
theorem ushiftRight_eq_zero_iff {index : Uint 64} {depth : Nat} :
    index >>> depth = 0 ↔ index.toNat < 2 ^ depth := by
  rw [← BitVec.toNat_inj, BitVec.toNat_ushiftRight, Nat.shiftRight_eq_div_pow]
  exact Nat.div_eq_zero_iff_lt (Nat.two_pow_pos depth)

/-- No word is ever shifted by more than its bits. -/
theorem calculateRootWithin?_eq (H : Bytes → Word) (path : List Word) (index : Uint 64) (leaf : Word) :
    calculateRootWithin? H path index leaf = some (calculateRoot H path index leaf) := by
  rw [calculateRootWithin?, calculateRoot, Nat.pow_eq, climbWord_eq]
  by_cases hnone : path.isEmpty = true
  case pos => simp [hnone]
  by_cases hlong : maxPathLength ≤ path.length
  case pos => simp [hnone, hlong]
  by_cases hword : path.length < 64
  case pos =>
    have hshift : shift? index path.length = some (index >>> path.length) := if_pos hword
    have hplace : index >>> path.length = 0#64 ↔ index.toNat < 2 ^ path.length :=
      ushiftRight_eq_zero_iff
    by_cases hindex : 2 ^ path.length ≤ index.toNat
    · simp [hnone, hlong, hword, hshift, hplace, hindex, Nat.not_lt.mpr hindex]
    · simp [hnone, hlong, hword, hshift, hplace, hindex, Nat.lt_of_not_le hindex]
  case neg =>
    have hplace : ¬2 ^ path.length ≤ index.toNat := by
      have hpow : 2 ^ 64 ≤ 2 ^ path.length := Nat.pow_le_pow_right (by decide) (Nat.le_of_not_lt hword)
      have hindex : index.toNat < 2 ^ 64 := index.isLt
      omega
    simp [hnone, hlong, hword, hplace]

end MachineWord

/-- A path leads to a root exactly if it has 1 to 255 siblings and a tree of its depth has a place for the
index. Otherwise the first of these that fails is the error, and no word is shifted by more than its bits
to find it. The siblings of every leaf of a perfect tree lead to the root of the tree. -/
theorem calculateRoot_complete (H : Bytes → Word) :
    (∀ (path : List Word) (index : Uint 64) (leaf : Word),
      ((∃ root, calculateRoot H path index leaf = .ok root) ↔
        1 ≤ path.length ∧ path.length ≤ 255 ∧ index.toNat < 2 ^ path.length) ∧
      (∀ error, calculateRoot H path index leaf = .error error ↔ Rootless path index error) ∧
      calculateRootWithin? H path index leaf = some (calculateRoot H path index leaf)) ∧
    ∀ (depth : Nat) (leaves : Leaves depth) (i : Uint 64) (hplace : i.toNat < 2 ^ depth),
      1 ≤ depth → depth ≤ 255 →
      calculateRoot H (leaves.siblings H i.toNat) i (leaves ⟨i.toNat, hplace⟩) =
        .ok (leaves.root H) := by
  refine ⟨fun path index leaf => ⟨?_, fun error => calculateRoot_eq_error_iff,
    calculateRootWithin?_eq H path index leaf⟩, ?_⟩
  · have hsome : path ≠ [] ↔ 1 ≤ path.length := List.length_pos_iff.symm
    have hlength : path.length < maxPathLength ↔ path.length ≤ 255 := Nat.lt_succ_iff
    simp only [calculateRoot_eq_ok_iff, exists_and_left, exists_eq', and_true, hsome, hlength]
  · intro depth leaves i hplace hpositive hdepth
    have hlength : (leaves.siblings H i.toNat).length = depth := leaves.length_siblings H i.toNat
    have hsome : leaves.siblings H i.toNat ≠ [] := List.ne_nil_of_length_pos (by omega)
    rw [calculateRoot_eq_ok_iff, hlength]
    exact ⟨⟨hsome, Nat.lt_succ_of_le hdepth, hplace⟩, climb_siblings leaves ⟨i.toNat, hplace⟩⟩

/-- The last place that a word can name, in a tree of as many levels as a word has bits. -/
theorem calculateRoot_complete_of_last :
    let leaves : Leaves 64 := fun i => FixedBytes.ofNat i
    let last : Fin (2 ^ 64) := ⟨2 ^ 64 - 1, by decide⟩
    (Uint.max 64).toNat = 2 ^ 64 - 1 ∧
      calculateRoot keccak256 (leaves.siblings keccak256 (Uint.max 64).toNat) (Uint.max 64)
        (leaves last) = .ok (leaves.root keccak256) := by
  intro leaves last
  have hplace : (Uint.max 64).toNat < 2 ^ 64 := (Uint.max 64).isLt
  refine ⟨by decide, ?_⟩
  exact (calculateRoot_complete keccak256).2 64 leaves (Uint.max 64) hplace (by decide) (by decide)

end RollupBridge.Merkle
