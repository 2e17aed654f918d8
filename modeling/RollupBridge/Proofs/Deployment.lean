import RollupBridge.Deployment
import RollupBridge.Proofs.Bytes.Slice

namespace RollupBridge.Deployment

variable {H : Bytes → Word} {d d' : Deployment} {ds ds' : List Deployment}

/-- Among two lists of deployments, one of each, different strings were hashed alike: preimages up to
the address they make, or constructor inputs. -/
inductive Collide (H : Bytes → Word) (ds ds' : List Deployment) : Prop
  | preimages {d d' : Deployment} (hd : d ∈ ds) (hd' : d' ∈ ds') (hne : d.preimage H ≠ d'.preimage H)
      (hsame : Word.lowAddress (H (d.preimage H)) = Word.lowAddress (H (d'.preimage H))) :
      Collide H ds ds'
  | inputs {d d' : Deployment} (hd : d ∈ ds) (hd' : d' ∈ ds')
      (hne : d.constructorInput ≠ d'.constructorInput)
      (hsame : H d.constructorInput = H d'.constructorInput) : Collide H ds ds'

/-- A preimage says its deployer, its salt, its bytecode and the hash of its input, each in a word of
its own. -/
theorem preimage_inj :
    d.preimage H = d'.preimage H ↔
      d.deployer = d'.deployer ∧ d.salt = d'.salt ∧ d.bytecodeHash = d'.bytecodeHash ∧
      H d.constructorInput = H d'.constructorInput := by
  constructor
  · intro hpreimage
    unfold preimage at hpreimage
    obtain ⟨hpreimage, hinput⟩ := List.append_inj hpreimage (by simp)
    obtain ⟨hpreimage, hcode⟩ := List.append_inj hpreimage (by simp)
    obtain ⟨hpreimage, hsalt⟩ := List.append_inj hpreimage (by simp)
    have hdeployer := congrArg Word.lowAddress (FixedBytes.ext_bytes (List.append_cancel_left hpreimage))
    rw [Word.lowAddress_ofAddress, Word.lowAddress_ofAddress] at hdeployer
    have hword : d.bytecodeHash.word = d'.bytecodeHash.word := FixedBytes.ext_bytes hcode
    exact ⟨hdeployer, FixedBytes.ext_bytes hsalt, congrArg BytecodeHash.mk hword,
      FixedBytes.ext_bytes hinput⟩
  · rintro ⟨hdeployer, hsalt, hcode, hinput⟩
    unfold preimage
    rw [hdeployer, hsalt, hcode, hinput]

/-- An address depends on nothing but the hashes of the preimage and of the input. -/
theorem address_congr {H' : Bytes → Word} (hpreimage : H (d.preimage H) = H' (d.preimage H))
    (hinput : H d.constructorInput = H' d.constructorInput) : d.address H = d.address H' := by
  have hsame : d.preimage H = d.preimage H' := by rw [preimage, hinput, ← preimage]
  rw [address, hpreimage, hsame, ← address]

/-- Two deployments share an address exactly if they are the same, if their preimages differ but are hashed
alike where an address is cut out, or if they differ only in inputs that are hashed alike. -/
theorem address_eq_iff :
    d.address H = d'.address H ↔
      d = d' ∨
      (d.preimage H ≠ d'.preimage H ∧
        Word.lowAddress (H (d.preimage H)) = Word.lowAddress (H (d'.preimage H))) ∨
      (d.constructorInput ≠ d'.constructorInput ∧ H d.constructorInput = H d'.constructorInput ∧
        d.deployer = d'.deployer ∧ d.salt = d'.salt ∧ d.bytecodeHash = d'.bytecodeHash) := by
  constructor
  · intro haddress
    by_cases hpreimage : d.preimage H = d'.preimage H
    case neg => exact Or.inr (Or.inl ⟨hpreimage, haddress⟩)
    obtain ⟨hdeployer, hsalt, hcode, hhash⟩ := preimage_inj.mp hpreimage
    by_cases hinput : d.constructorInput = d'.constructorInput
    case neg => exact Or.inr (Or.inr ⟨hinput, hhash, hdeployer, hsalt, hcode⟩)
    cases d
    cases d'
    subst hdeployer hsalt hcode hinput
    exact Or.inl rfl
  · rintro (rfl | ⟨_, hlow⟩ | ⟨_, hhash, hdeployer, hsalt, hcode⟩)
    · rfl
    · exact hlow
    · rw [address, preimage_inj.mpr ⟨hdeployer, hsalt, hcode, hhash⟩, ← address]

/-- Deployments of one address are the same, unless two strings collide. -/
theorem eq_or_collide_of_address_eq (hd : d ∈ ds) (hd' : d' ∈ ds')
    (haddress : d.address H = d'.address H) : d = d' ∨ Collide H ds ds' := by
  rcases address_eq_iff.mp haddress with hsame | ⟨hne, hlow⟩ | ⟨hne, hhash, _⟩
  · exact Or.inl hsame
  · exact Or.inr (.preimages hd hd' hne hlow)
  · exact Or.inr (.inputs hd hd' hne hhash)

/-- Where the five words stand in a preimage. -/
structure Placed (H : Bytes → Word) (d : Deployment) (preimage : Bytes) : Prop where
  size : preimage.length = 160
  domain : FixedBytes.slice preimage 0 = mark
  deployer : FixedBytes.slice preimage 32 = Word.ofAddress d.deployer
  salt : FixedBytes.slice preimage 64 = d.salt
  code : FixedBytes.slice preimage 96 = d.bytecodeHash.word
  input : FixedBytes.slice preimage 128 = H d.constructorInput

theorem placed_preimage (H : Bytes → Word) (d : Deployment) : d.Placed H (d.preimage H) := by
  have hpreimage : d.preimage H = mark.bytes ++ ((Word.ofAddress d.deployer).bytes ++ (d.salt.bytes ++
      (d.bytecodeHash.word.bytes ++ ((H d.constructorInput).bytes ++ [])))) := by
    simp only [preimage, List.append_assoc, List.append_nil]
  rw [hpreimage]
  refine ⟨by simp, ?_, ?_, ?_, ?_, ?_⟩
  · rw [← List.nil_append (mark.bytes ++ _)]
    exact FixedBytes.slice_append List.length_nil
  · exact FixedBytes.slice_append (by simp)
  · rw [← List.append_assoc]
    exact FixedBytes.slice_append (by simp)
  · rw [← List.append_assoc, ← List.append_assoc]
    exact FixedBytes.slice_append (by simp)
  · rw [← List.append_assoc, ← List.append_assoc, ← List.append_assoc]
    exact FixedBytes.slice_append (by simp)

/-- An address binds the fields of its deployment under any hash function. Two deployments share an address
exactly if they are the same, if their preimages, of 160 bytes each, differ and are hashed alike in the last
twenty bytes, or if they differ only in inputs that are hashed alike. The preimage cannot be split in two
ways: every field has its place in it, so preimages are the same exactly if all that went into them is. -/
theorem address_binds_fields (H : Bytes → Word) (d d' : Deployment) :
    (d.address H = d'.address H ↔
      d = d' ∨
      (d.preimage H ≠ d'.preimage H ∧
        (H (d.preimage H)).bytes.drop 12 = (H (d'.preimage H)).bytes.drop 12) ∨
      (d.constructorInput ≠ d'.constructorInput ∧ H d.constructorInput = H d'.constructorInput ∧
        d.deployer = d'.deployer ∧ d.salt = d'.salt ∧ d.bytecodeHash = d'.bytecodeHash)) ∧
    d.Placed H (d.preimage H) ∧
    (d.preimage H = d'.preimage H ↔
      d.deployer = d'.deployer ∧ d.salt = d'.salt ∧ d.bytecodeHash = d'.bytecodeHash ∧
      H d.constructorInput = H d'.constructorInput) := by
  have hlow (word word' : Word) :
      Word.lowAddress word = Word.lowAddress word' ↔ word.bytes.drop 12 = word'.bytes.drop 12 :=
    ⟨congrArg FixedBytes.bytes, fun hsame => FixedBytes.ext_bytes hsame⟩
  refine ⟨?_, placed_preimage H d, preimage_inj⟩
  rw [← hlow]
  exact address_eq_iff

end RollupBridge.Deployment
