import RollupBridge.Merkle
import RollupBridge.Proofs.Bytes.Number

namespace RollupBridge

/-- Two different strings of a list have one hash. Nothing is assumed of the hash function: a
collision is what a forged path comes down to. -/
def Collision (H : Bytes → Word) (strings : List Bytes) : Prop :=
  ∃ x ∈ strings, ∃ y ∈ strings, x ≠ y ∧ H x = H y

namespace Collision

variable {H : Bytes → Word} {strings more : List Bytes}

theorem mono (hcollision : Collision H strings) (hmore : strings ⊆ more) : Collision H more := by
  obtain ⟨x, hx, y, hy, hne, hhash⟩ := hcollision
  exact ⟨x, hmore hx, y, hmore hy, hne, hhash⟩

/-- Strings of one hash are the same, unless they collide. -/
theorem eq_or_of_hash_eq {x y : Bytes} (hx : x ∈ strings) (hy : y ∈ strings) (hhash : H x = H y) :
    x = y ∨ Collision H strings := by
  by_cases hsame : x = y
  · exact Or.inl hsame
  · exact Or.inr ⟨x, hx, y, hy, hsame, hhash⟩

end Collision

namespace Merkle

variable {H : Bytes → Word} {path other : List Word} {index : Nat} {node node' sibling sibling' : Word}

/-- What is hashed for the node above a node and its sibling. -/
def pair (index : Nat) (node sibling : Word) : Bytes :=
  if index % 2 = 0 then node.bytes ++ sibling.bytes else sibling.bytes ++ node.bytes

/-- What is hashed on the way up a path. -/
def pairs (H : Bytes → Word) : (path : List Word) → (index : Nat) → Word → List Bytes
  | [], _, _ => []
  | sibling :: path, index, node =>
    pair index node sibling :: pairs H path (index / 2) (H (pair index node sibling))

@[simp]
theorem length_pair (index : Nat) (node sibling : Word) : (pair index node sibling).length = 64 := by
  unfold pair
  split <;> simp

theorem pair_inj :
    pair index node sibling = pair index node' sibling' ↔ node = node' ∧ sibling = sibling' := by
  constructor
  · intro hpair
    unfold pair at hpair
    split at hpair
    · obtain ⟨hnode, hsibling⟩ := List.append_inj hpair (by simp)
      exact ⟨FixedBytes.ext_bytes hnode, FixedBytes.ext_bytes hsibling⟩
    · obtain ⟨hsibling, hnode⟩ := List.append_inj hpair (by simp)
      exact ⟨FixedBytes.ext_bytes hnode, FixedBytes.ext_bytes hsibling⟩
  · rintro ⟨rfl, rfl⟩
    rfl

theorem climb_cons :
    climb H (sibling :: path) index node = climb H path (index / 2) (H (pair index node sibling)) := by
  rw [climb, pair]
  split <;> rfl

/-- The way up a long path is that up its lower part, and from there that up its upper part. -/
theorem climb_append (lower upper : List Word) (index : Nat) (node : Word) :
    climb H (lower ++ upper) index node =
      climb H upper (index / 2 ^ lower.length) (climb H lower index node) := by
  induction lower generalizing index node with
  | nil => simp [climb]
  | cons sibling lower ih =>
    rw [List.cons_append, climb_cons, climb_cons, ih, Nat.div_div_eq_div_mul, List.length_cons,
      Nat.pow_succ']

theorem pairs_append (lower upper : List Word) (index : Nat) (node : Word) :
    pairs H (lower ++ upper) index node =
      pairs H lower index node ++
        pairs H upper (index / 2 ^ lower.length) (climb H lower index node) := by
  induction lower generalizing index node with
  | nil => simp [climb, pairs]
  | cons sibling lower ih =>
    rw [List.cons_append, pairs, pairs, climb_cons, ih, Nat.div_div_eq_div_mul, List.length_cons,
      Nat.pow_succ', List.cons_append]

/-- The way up a path depends only on the hashes of its pairs. -/
theorem climb_congr {H' : Bytes → Word} (hsame : ∀ string ∈ pairs H path index node, H string = H' string) :
    climb H path index node = climb H' path index node := by
  induction path generalizing index node with
  | nil => rfl
  | cons sibling path ih =>
    rw [pairs, List.forall_mem_cons] at hsame
    rw [climb_cons, climb_cons, ih hsame.2, hsame.1]

/-- Above a node, every node is the hash of a pair. -/
theorem exists_pair_of_climb (hpath : path ≠ []) (index : Nat) (node : Word) :
    ∃ string ∈ pairs H path index node, string.length = 64 ∧ climb H path index node = H string := by
  induction path generalizing index node with
  | nil => exact absurd rfl hpath
  | cons sibling path ih =>
    rw [climb_cons, pairs]
    by_cases hlast : path = []
    · subst hlast
      exact ⟨_, List.mem_cons_self, length_pair _ _ _, rfl⟩
    · obtain ⟨string, hmem, hlength, hclimb⟩ := ih hlast (index / 2) _
      exact ⟨string, List.mem_cons_of_mem _ hmem, hlength, hclimb⟩

/-- Two paths of one length lead from one place to one root only if they are the same and start at the
same node, or two strings collide. The induction goes up the paths, so what it knows of the nodes above
comes down from the root: their pairs have one hash. -/
theorem climb_binding (hlength : path.length = other.length)
    (hroot : climb H path index node = climb H other index node') :
    (node = node' ∧ path = other) ∨
      Collision H (pairs H path index node ++ pairs H other index node') := by
  induction path generalizing other index node node' with
  | nil =>
    cases List.eq_nil_of_length_eq_zero hlength.symm
    exact Or.inl ⟨hroot, rfl⟩
  | cons sibling path ih =>
    cases other with
    | nil => cases hlength
    | cons sibling' other =>
      rw [climb_cons, climb_cons] at hroot
      rw [pairs, pairs]
      rcases ih (Nat.succ.inj hlength) hroot with ⟨hhash, rfl⟩ | hcollision
      · rcases Collision.eq_or_of_hash_eq (List.mem_append_left _ List.mem_cons_self)
          (List.mem_append_right _ List.mem_cons_self) hhash with hpair | hcollision
        · obtain ⟨rfl, rfl⟩ := pair_inj.mp hpair
          exact Or.inl ⟨rfl, rfl⟩
        · exact Or.inr hcollision
      · refine Or.inr (hcollision.mono (List.append_subset.mpr ⟨?_, ?_⟩))
        · exact List.subset_append_of_subset_left _ (List.subset_cons_self ..)
        · exact List.subset_append_of_subset_right _ (List.subset_cons_self ..)

/-- A path and the upper part of a longer one that start at one place. -/
theorem climb_binding_append {lower upper : List Word} {below : Nat}
    (hlength : path.length = upper.length) (hindex : index = below / 2 ^ lower.length)
    (hroot : climb H path index node = climb H (lower ++ upper) below node') :
    (node = climb H lower below node' ∧ path = upper) ∨
      Collision H (pairs H path index node ++ pairs H (lower ++ upper) below node') := by
  subst hindex
  rw [climb_append] at hroot
  refine (climb_binding hlength hroot).imp_right fun hcollision => hcollision.mono ?_
  rw [pairs_append]
  exact List.append_subset.mpr ⟨List.subset_append_left .., List.subset_append_of_subset_right _
    (List.subset_append_right ..)⟩

/-- What a root is computed from: a path of an allowed length and an index that has a place under it. -/
theorem calculateRoot_eq_ok_iff {index : Uint 64} {root : Word} :
    calculateRoot H path index node = .ok root ↔
      (path ≠ [] ∧ path.length < maxPathLength ∧ index.toNat < 2 ^ path.length) ∧
      climb H path index.toNat node = root := by
  rw [calculateRoot, Nat.pow_eq]
  by_cases hnil : path = []
  · simp [hnil]
  by_cases hlong : maxPathLength ≤ path.length
  · simp [hnil, hlong, Nat.not_lt.mpr hlong]
  by_cases hindex : 2 ^ path.length ≤ index.toNat
  · simp [hnil, hlong, hindex, Nat.not_lt.mpr hindex]
  · simp [hnil, hlong, hindex, Nat.lt_of_not_le hlong, Nat.lt_of_not_le hindex]

section Log

variable {txNumber txNumber' : Uint 16} {sender sender' : Address} {message message' : Bytes}

theorem length_log (H : Bytes → Word) (txNumber : Uint 16) (sender : Address) (message : Bytes) :
    (log H txNumber sender message).length = logLength := by
  simp [log, logLength]

/-- A log says its transaction, its sender and the hash of its message, and each at a place of its own. -/
theorem log_inj :
    log H txNumber sender message = log H txNumber' sender' message' ↔
      txNumber = txNumber' ∧ sender = sender' ∧ H message = H message' := by
  constructor
  · intro hlog
    unfold log at hlog
    obtain ⟨hlog, hmessage⟩ := List.append_inj hlog (by simp)
    obtain ⟨hlog, hsender⟩ := List.append_inj hlog (by simp)
    obtain ⟨hlog, _⟩ := List.append_inj hlog (by simp)
    have htx := (Bytes.ofNat_inj txNumber.isLt txNumber'.isLt).mp (List.cons.inj (List.cons.inj hlog).2).2
    have haddress := congrArg Word.lowAddress (FixedBytes.ext_bytes hsender)
    rw [Word.lowAddress_ofAddress, Word.lowAddress_ofAddress] at haddress
    exact ⟨BitVec.eq_of_toNat_eq htx, haddress, FixedBytes.ext_bytes hmessage⟩
  · rintro ⟨rfl, rfl, hmessage⟩
    unfold log
    rw [hmessage]

/-- A leaf passes for an inner node only by a collision: a log is longer than a pair. -/
theorem leaf_ne_climb {strings : List Bytes} (hpath : path ≠ [])
    (hlog : log H txNumber sender message ∈ strings) (hpairs : pairs H path index node ⊆ strings)
    (hleaf : leaf H txNumber sender message = climb H path index node) : Collision H strings := by
  obtain ⟨string, hmem, hlength, hclimb⟩ := exists_pair_of_climb hpath index node
  refine ⟨_, hlog, string, hpairs hmem, ?_, hleaf.trans hclimb⟩
  intro hsame
  have hlog := length_log H txNumber sender message
  rw [hsame, hlength] at hlog
  cases hlog

/-- Equal leaves are of the same message in the same transaction, unless two strings collide. -/
theorem leaf_binding {strings : List Bytes} (hmessage : message ∈ strings) (hmessage' : message' ∈ strings)
    (hlog : log H txNumber sender message ∈ strings)
    (hlog' : log H txNumber' sender' message' ∈ strings)
    (hleaf : leaf H txNumber sender message = leaf H txNumber' sender' message') :
    (txNumber = txNumber' ∧ message = message') ∨ Collision H strings := by
  rcases Collision.eq_or_of_hash_eq hlog hlog' hleaf with hsame | hcollision
  · obtain ⟨htx, _, hhash⟩ := log_inj.mp hsame
    exact (Collision.eq_or_of_hash_eq hmessage hmessage' hhash).imp_left (And.intro htx)
  · exact Or.inr hcollision

end Log

end Merkle

end RollupBridge
