import RollupBridge.Bytecode
import RollupBridge.Proofs.Bytes.Number
import RollupBridge.Proofs.Checks

namespace RollupBridge

theorem Word.ofBytes_eq_ok_iff {bytes : Bytes} {word : Word} :
    Word.ofBytes bytes = .ok word ↔ bytes = word.bytes := by
  rw [← FixedBytes.ofBytes?_eq_some_iff, Word.ofBytes]
  cases (FixedBytes.ofBytes? bytes : Option Word) <;> simp

namespace BytecodeHash

variable {hash : BytecodeHash} {bytes : Bytes}

/-- The version and a zero byte stand in front. -/
def Marked (hash : BytecodeHash) : Prop := hash.word.bytes.take 2 = [version, 0]

instance (hash : BytecodeHash) : Decidable hash.Marked := inferInstanceAs (Decidable (_ = _))

theorem marked_iff :
    hash.Marked ↔ hash.word.bytes.headD 0 = version ∧ (hash.word.bytes.drop 1).headD 0 = 0 := by
  obtain ⟨⟨bytes, hlength⟩⟩ := hash
  match bytes, hlength with
  | first :: second :: rest, _ => simp [Marked]

/-- A hash is read from its own bytes alone, and only if they are marked. -/
theorem ofBytes_eq_ok_iff : ofBytes bytes = .ok hash ↔ bytes = hash.word.bytes ∧ hash.Marked := by
  rw [ofBytes, bind_eq_ok_iff, marked_iff]
  constructor
  · rintro ⟨word, hword, hmarked⟩
    dsimp only at hmarked
    split at hmarked
    · cases hmarked
    · rename_i hprefix
      cases hmarked
      simp only [ne_eq, not_or, Decidable.not_not] at hprefix
      exact ⟨Word.ofBytes_eq_ok_iff.mp hword, hprefix⟩
  · rintro ⟨rfl, hversion, hzero⟩
    refine ⟨hash.word, Word.ofBytes_eq_ok_iff.mpr rfl, ?_⟩
    rw [hversion, hzero]
    exact if_neg (by simp)

end BytecodeHash

namespace BytecodeHasher

variable {hasher : BytecodeHasher} {code : Bytes} {hash : BytecodeHash} {error other : BytecodeError}
  {maxWords : Uint 16}

theorem marked_stamp (words : Nat) (digest : Word) : (stamp words digest).Marked := rfl

theorem drop_stamp (words : Nat) (digest : Word) :
    (stamp words digest).word.bytes.drop 4 = digest.bytes.drop 4 := rfl

/-- A length of two bytes is read back. -/
theorem lengthInWords_stamp {words : Nat} (hwords : words < 2 ^ 16) (digest : Word) :
    (stamp words digest).lengthInWords.toNat = words := by
  have hbytes : ((stamp words digest).word.bytes.drop 2).take 2 = Bytes.ofNat 2 words := rfl
  rw [BytecodeHash.lengthInWords, hbytes, Bytes.toNat_ofNat_of_lt hwords, BitVec.toNat_ofNat,
    Nat.mod_eq_of_lt hwords]

/-- What can be wrong with a bytecode, each by itself. -/
inductive Flaw (maxWords : Uint 16) (code : Bytes) : BytecodeError → Prop
  | empty (hcode : code = []) : Flaw maxWords code .empty
  | notWordAligned (hlength : ¬32 ∣ code.length) : Flaw maxWords code (.notWordAligned code.length)
  | tooLong (hwords : maxWords.toNat < code.length / 32) :
      Flaw maxWords code (.tooLong (code.length / 32) maxWords)
  | evenWordCount (hwords : 2 ∣ code.length / 32) :
      Flaw maxWords code (.evenWordCount (code.length / 32))

/-- The place of an error in the order of the checks. -/
def precedence : BytecodeError → Nat
  | .empty => 0
  | .notWordAligned _ => 1
  | .tooLong _ _ => 2
  | .evenWordCount _ => 3

/-- A flaw in front of which no other stands. -/
def FirstFlaw (maxWords : Uint 16) (code : Bytes) (error : BytecodeError) : Prop :=
  Flaw maxWords code error ∧ ∀ other, Flaw maxWords code other → precedence error ≤ precedence other

theorem Flaw.unique (hflaw : Flaw maxWords code error) (hother : Flaw maxWords code other)
    (hplace : precedence error = precedence other) : error = other := by
  cases hflaw <;> cases hother <;> first | rfl | cases hplace

theorem FirstFlaw.unique (hfirst : FirstFlaw maxWords code error)
    (hother : FirstFlaw maxWords code other) : error = other :=
  hfirst.1.unique hother.1 (Nat.le_antisymm (hfirst.2 _ hother.1) (hother.2 _ hfirst.1))

theorem hash_eq (hasher : BytecodeHasher) (code : Bytes) :
    hasher.hash code =
      if code = [] then .error .empty
      else if ¬32 ∣ code.length then .error (.notWordAligned code.length)
      else if hasher.maxWords.toNat < code.length / 32 then
        .error (.tooLong (code.length / 32) hasher.maxWords)
      else if 2 ∣ code.length / 32 then .error (.evenWordCount (code.length / 32))
      else .ok (stamp (code.length / 32) (hasher.digest code)) := by
  refine ite_congr (propext List.isEmpty_iff) (fun _ => rfl) fun _ => ?_
  refine ite_congr (propext (not_congr Nat.dvd_iff_mod_eq_zero.symm)) (fun _ => rfl) fun _ => ?_
  refine ite_congr rfl (fun _ => rfl) fun _ => ?_
  exact ite_congr (propext Nat.dvd_iff_mod_eq_zero.symm) (fun _ => rfl) fun _ => rfl

/-- A bytecode without a flaw is hashed, any other is refused for its first flaw. -/
theorem hash_cases (hasher : BytecodeHasher) (code : Bytes) :
    ((∀ error, ¬Flaw hasher.maxWords code error) ∧
        hasher.hash code = .ok (stamp (code.length / 32) (hasher.digest code))) ∨
      ∃ error, FirstFlaw hasher.maxWords code error ∧ hasher.hash code = .error error := by
  rw [hash_eq]
  split
  case isTrue hempty => exact Or.inr ⟨_, ⟨.empty hempty, fun _ _ => Nat.zero_le _⟩, rfl⟩
  case isFalse hempty =>
  split
  case isTrue haligned =>
    refine Or.inr ⟨_, ⟨.notWordAligned haligned, fun other hother => ?_⟩, rfl⟩
    cases hother with
    | empty hcode => exact absurd hcode hempty
    | _ => simp [precedence]
  case isFalse haligned =>
  split
  case isTrue hlong =>
    refine Or.inr ⟨_, ⟨.tooLong hlong, fun other hother => ?_⟩, rfl⟩
    cases hother with
    | empty hcode => exact absurd hcode hempty
    | notWordAligned hlength => exact absurd hlength haligned
    | _ => simp [precedence]
  case isFalse hlong =>
  split
  case isTrue heven =>
    refine Or.inr ⟨_, ⟨.evenWordCount heven, fun other hother => ?_⟩, rfl⟩
    cases hother with
    | empty hcode => exact absurd hcode hempty
    | notWordAligned hlength => exact absurd hlength haligned
    | tooLong hwords => exact absurd hwords hlong
    | evenWordCount _ => exact Nat.le_refl _
  case isFalse heven =>
    refine Or.inl ⟨fun error hflaw => ?_, rfl⟩
    cases hflaw with
    | empty hcode => exact hempty hcode
    | notWordAligned hlength => exact haligned hlength
    | tooLong hwords => exact hlong hwords
    | evenWordCount hwords => exact heven hwords

theorem hash_eq_ok_iff :
    hasher.hash code = .ok hash ↔
      (∀ error, ¬Flaw hasher.maxWords code error) ∧
        hash = stamp (code.length / 32) (hasher.digest code) := by
  rcases hash_cases hasher code with ⟨hflawless, hok⟩ | ⟨error, hfirst, herror⟩
  · rw [hok, Except.ok.injEq, eq_comm, and_iff_right hflawless]
  · rw [herror]
    exact ⟨nofun, fun hclaimed => absurd hfirst.1 (hclaimed.1 error)⟩

/-- The error is the first flaw. -/
theorem hash_eq_error_iff :
    hasher.hash code = .error error ↔ FirstFlaw hasher.maxWords code error := by
  rcases hash_cases hasher code with ⟨hflawless, hok⟩ | ⟨found, hfirst, herror⟩
  · rw [hok]
    exact ⟨nofun, fun hclaimed => absurd hclaimed.1 (hflawless error)⟩
  · rw [herror, Except.error.injEq]
    refine ⟨?_, hfirst.unique⟩
    rintro rfl
    exact hfirst

theorem flawless_iff :
    (∀ error, ¬Flaw maxWords code error) ↔
      code ≠ [] ∧ 32 ∣ code.length ∧ code.length / 32 % 2 = 1 ∧ code.length / 32 ≤ maxWords.toNat := by
  constructor
  · intro hflawless
    have haligned : ¬¬32 ∣ code.length := fun hlength => hflawless _ (.notWordAligned hlength)
    have hodd : ¬2 ∣ code.length / 32 := fun hwords => hflawless _ (.evenWordCount hwords)
    have hbound : ¬maxWords.toNat < code.length / 32 := fun hwords => hflawless _ (.tooLong hwords)
    exact ⟨fun hcode => hflawless _ (.empty hcode), by omega, by omega, by omega⟩
  · rintro ⟨hcode, haligned, hodd, hbound⟩ error hflaw
    cases hflaw with
    | empty hempty => exact hcode hempty
    | notWordAligned hlength => exact hlength haligned
    | tooLong hwords => exact Nat.not_lt.mpr hbound hwords
    | evenWordCount hwords => omega

/-- A hash is marked and says how long its bytecode is and, from its fifth byte on, the digest of it. -/
theorem says_of_hash (hhash : hasher.hash code = .ok hash) :
    hash.Marked ∧ 32 * hash.lengthInWords.toNat = code.length ∧
      hash.word.bytes.drop 4 = (hasher.digest code).bytes.drop 4 := by
  obtain ⟨hflawless, rfl⟩ := hash_eq_ok_iff.mp hhash
  obtain ⟨_, haligned, _, hbound⟩ := flawless_iff.mp hflawless
  have hwords : code.length / 32 < 2 ^ 16 := Nat.lt_of_le_of_lt hbound hasher.maxWords.isLt
  refine ⟨marked_stamp _ _, ?_, drop_stamp _ _⟩
  rw [lengthInWords_stamp hwords, Nat.mul_div_cancel' haligned]

/-- A larger limit changes nothing for a bytecode that has a hash. -/
theorem hash_of_le (hhash : hasher.hash code = .ok hash) (hlimit : hasher.maxWords ≤ maxWords) :
    { hasher with maxWords }.hash code = .ok hash := by
  obtain ⟨hflawless, hstamp⟩ := hash_eq_ok_iff.mp hhash
  obtain ⟨hcode, haligned, hodd, hbound⟩ := flawless_iff.mp hflawless
  exact hash_eq_ok_iff.mpr
    ⟨flawless_iff.mpr ⟨hcode, haligned, hodd, Nat.le_trans hbound hlimit⟩, hstamp⟩

/-- Bytecode that has a hash is no longer than a hash can say. -/
theorem length_of_hash (hhash : hasher.hash code = .ok hash) :
    code.length ≤ 32 * hasher.maxWords.toNat := by
  obtain ⟨_, haligned, _, hbound⟩ := flawless_iff.mp (hash_eq_ok_iff.mp hhash).1
  rw [← Nat.mul_div_cancel' haligned]
  exact Nat.mul_le_mul_left 32 hbound

theorem length_lt_of_hash (hhash : hasher.hash code = .ok hash) : code.length < Uint.size 64 := by
  have hlength := length_of_hash hhash
  have hwords := hasher.maxWords.isLt
  have hsize : 32 * 2 ^ 16 < Uint.size 64 := by decide
  omega

/-- A bytecode has a hash exactly if it is an odd number of whole words, at least one and no more than the
limit, and is refused for its first flaw otherwise. Its hash is read back, says the whole length and the
digest from the fifth byte on, and is the same for every larger limit. Bytecodes that share a hash are of
one length, and their digests agree from the fifth byte on. -/
theorem hash_decides_bytecode (hasher : BytecodeHasher) (code : Bytes) :
    ((∃ hash, hasher.hash code = .ok hash) ↔
        code ≠ [] ∧ 32 ∣ code.length ∧ code.length / 32 % 2 = 1 ∧
          code.length / 32 ≤ hasher.maxWords.toNat) ∧
      (∀ error, hasher.hash code = .error error ↔ FirstFlaw hasher.maxWords code error) ∧
      (∀ hash, hasher.hash code = .ok hash →
        BytecodeHash.ofBytes hash.word.bytes = .ok hash ∧
        32 * hash.lengthInWords.toNat = code.length ∧
        hash.word.bytes.drop 4 = (hasher.digest code).bytes.drop 4 ∧
        ∀ maxWords, hasher.maxWords ≤ maxWords → { hasher with maxWords }.hash code = .ok hash) ∧
      ∀ maxWords code' hash, hasher.hash code = .ok hash →
        { hasher with maxWords }.hash code' = .ok hash →
        code.length = code'.length ∧
          (hasher.digest code).bytes.drop 4 = (hasher.digest code').bytes.drop 4 := by
  refine ⟨?_, fun error => hash_eq_error_iff, ?_, ?_⟩
  · simp only [hash_eq_ok_iff, exists_and_left, exists_eq, and_true, flawless_iff]
  · intro hash hhash
    obtain ⟨hmarked, hlength, hdigest⟩ := says_of_hash hhash
    exact ⟨BytecodeHash.ofBytes_eq_ok_iff.mpr ⟨rfl, hmarked⟩, hlength, hdigest,
      fun maxWords hlimit => hash_of_le hhash hlimit⟩
  · intro maxWords code' hash hhash hhash'
    obtain ⟨_, hlength, hdigest⟩ := says_of_hash hhash
    obtain ⟨_, hlength', hdigest'⟩ := says_of_hash hhash'
    exact ⟨hlength.symm.trans hlength', hdigest.symm.trans hdigest'⟩

/-- The longest bytecode that has a hash under the standard limit. With one more word it is too long, and
even as well, and is refused as too long. -/
theorem hash_decides_bytecode_of_longest :
    (∃ hash, standard.hash (Bytes.zeros (32 * 65535)) = .ok hash ∧
        BytecodeHash.ofBytes hash.word.bytes = .ok hash ∧
        32 * hash.lengthInWords.toNat = 32 * 65535) ∧
      standard.hash (Bytes.zeros (32 * 65536)) = .error (.tooLong 65536 65535) := by
  have hlength : (Bytes.zeros (32 * 65535)).length = 32 * 65535 := Bytes.length_zeros _
  have hlength' : (Bytes.zeros (32 * 65536)).length = 32 * 65536 := Bytes.length_zeros _
  generalize Bytes.zeros (32 * 65535) = longest at hlength ⊢
  generalize Bytes.zeros (32 * 65536) = tooLong at hlength' ⊢
  constructor
  · obtain ⟨haccepts, _, hsays, _⟩ := hash_decides_bytecode standard longest
    have hne : longest ≠ [] := List.ne_nil_of_length_pos (by omega)
    obtain ⟨hash, hhash⟩ := haccepts.mpr ⟨hne, by omega, by omega, by rw [hlength]; decide⟩
    obtain ⟨hread, hwords, _⟩ := hsays hash hhash
    exact ⟨hash, hhash, hread, hwords.trans hlength⟩
  · have hwords : tooLong.length / 32 = 65536 := by omega
    have hflaw : Flaw standard.maxWords tooLong (.tooLong 65536 65535) := by
      rw [← hwords]
      exact .tooLong (by rw [hwords]; decide)
    refine ((hash_decides_bytecode standard tooLong).2.1 _).mpr ⟨hflaw, fun other hother => ?_⟩
    cases hother with
    | empty hcode =>
      rw [hcode] at hlength'
      cases hlength'
    | notWordAligned haligned => omega
    | _ => simp [precedence]

end BytecodeHasher

end RollupBridge
