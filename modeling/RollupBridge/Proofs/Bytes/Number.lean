import Mathlib.Algebra.Group.Nat.Defs
import Mathlib.Data.List.Induction
import RollupBridge.Uint

namespace RollupBridge

namespace Bytes

theorem foldl_eq (bytes : Bytes) (value : Nat) :
    bytes.foldl (fun value byte => value * 256 + byte.toNat) value =
      value * 256 ^ bytes.length + bytes.toNat := by
  induction bytes generalizing value with
  | nil => simp [toNat]
  | cons byte bytes ih =>
    have hzero := ih byte.toNat
    rw [toNat, List.foldl_cons, List.foldl_cons, ih, Nat.zero_mul, Nat.zero_add, hzero,
      List.length_cons, Nat.pow_succ', Nat.add_mul, Nat.mul_assoc, Nat.add_assoc]

/-- The first byte counts for the power of 256 of what follows. -/
theorem toNat_cons (byte : UInt8) (bytes : Bytes) :
    toNat (byte :: bytes) = byte.toNat * 256 ^ bytes.length + bytes.toNat := by
  rw [toNat, List.foldl_cons, foldl_eq, Nat.zero_mul, Nat.zero_add]

/-- Writing a number in `width` bytes and reading it keeps what fits. -/
theorem toNat_ofNat (width value : Nat) : (ofNat width value).toNat = value % 256 ^ width := by
  induction width with
  | zero => simp [ofNat, toNat, Nat.mod_one]
  | succ width ih =>
    have hbyte : (UInt8.ofNat (value / 256 ^ width)).toNat = value / 256 ^ width % 256 := by simp
    rw [ofNat, toNat_cons, length_ofNat, ih, Nat.pow_eq, hbyte, Nat.pow_succ, Nat.mod_mul,
      Nat.mul_comm, Nat.add_comm]

theorem toNat_ofNat_of_lt {width value : Nat} (hfits : value < 256 ^ width) :
    (ofNat width value).toNat = value := by
  rw [toNat_ofNat, Nat.mod_eq_of_lt hfits]

theorem toNat_lt (bytes : Bytes) : bytes.toNat < 256 ^ bytes.length := by
  induction bytes with
  | nil => simp [toNat]
  | cons byte bytes ih =>
    have hbyte : byte.toNat + 1 ≤ 256 := byte.toNat_lt
    have hfirst := Nat.mul_le_mul_right (256 ^ bytes.length) hbyte
    rw [Nat.add_mul, Nat.one_mul] at hfirst
    rw [toNat_cons, List.length_cons, Nat.pow_succ']
    omega

/-- Byte strings of one length that spell one number are the same. -/
theorem toNat_inj {bytes other : Bytes} (hlength : bytes.length = other.length) :
    bytes.toNat = other.toNat ↔ bytes = other := by
  refine ⟨?_, congrArg toNat⟩
  induction bytes generalizing other with
  | nil =>
    intro _
    exact (List.length_eq_zero_iff.mp hlength.symm).symm
  | cons byte bytes ih =>
    intro hsame
    cases other with
    | nil => cases hlength
    | cons byte' other =>
      have hrest : bytes.length = other.length := Nat.succ.inj hlength
      have hpos : 0 < 256 ^ other.length := Nat.pow_pos (by decide)
      have hlt := toNat_lt bytes
      rw [hrest] at hlt
      rw [toNat_cons, toNat_cons, hrest, Nat.mul_comm, Nat.mul_comm byte'.toNat] at hsame
      have hfirst := congrArg (· / 256 ^ other.length) hsame
      have hlast := congrArg (· % 256 ^ other.length) hsame
      simp only [Nat.mul_add_div hpos, Nat.div_eq_of_lt hlt, Nat.div_eq_of_lt (toNat_lt other),
        Nat.add_zero] at hfirst
      simp only [Nat.mul_add_mod, Nat.mod_eq_of_lt hlt, Nat.mod_eq_of_lt (toNat_lt other)] at hlast
      rw [UInt8.toNat_inj.mp hfirst, ih hrest hlast]

/-- Only zero bytes spell zero. -/
theorem toNat_eq_zero_iff {bytes : Bytes} : bytes.toNat = 0 ↔ ∀ byte ∈ bytes, byte = 0 := by
  induction bytes with
  | nil => simp [toNat]
  | cons byte bytes ih =>
    rw [toNat_cons, Nat.add_eq_zero_iff, ih, List.forall_mem_cons, Nat.mul_eq_zero]
    refine and_congr_left fun _ => ?_
    rw [or_iff_left (Nat.ne_of_gt (Nat.pow_pos (by decide)))]
    exact UInt8.toNat_inj (b := 0)

/-- Two numbers that fit are written alike only if they are the same. -/
theorem ofNat_inj {width value other : Nat} (hvalue : value < 256 ^ width)
    (hother : other < 256 ^ width) : ofNat width value = ofNat width other ↔ value = other := by
  constructor
  · intro hsame
    have hread := congrArg toNat hsame
    rwa [toNat_ofNat_of_lt hvalue, toNat_ofNat_of_lt hother] at hread
  · intro hsame
    rw [hsame]

/-- What is in front counts for the power of 256 of what follows. -/
theorem toNat_append (front back : Bytes) :
    toNat (front ++ back) = front.toNat * 256 ^ back.length + back.toNat := by
  rw [toNat, List.foldl_append, foldl_eq]
  rfl

/-- The last byte counts for itself. -/
theorem toNat_append_singleton (bytes : Bytes) (byte : UInt8) :
    toNat (bytes ++ [byte]) = bytes.toNat * 256 + byte.toNat := by
  rw [toNat, List.foldl_append]
  rfl

theorem ofNatMinimal_zero : ofNatMinimal 0 = [] := by
  rw [ofNatMinimal, if_pos rfl]

theorem ofNatMinimal_of_pos {value : Nat} (hpos : 0 < value) :
    ofNatMinimal value = ofNatMinimal (value / 256) ++ [UInt8.ofNat value] := by
  rw [ofNatMinimal, if_neg (Nat.ne_of_gt hpos)]

theorem ofNatMinimal_ne_nil {value : Nat} (hpos : 0 < value) : ofNatMinimal value ≠ [] := by
  rw [ofNatMinimal_of_pos hpos]
  simp

/-- A number is read back from its shortest spelling. -/
@[simp]
theorem toNat_ofNatMinimal (value : Nat) : (ofNatMinimal value).toNat = value := by
  induction value using ofNatMinimal.induct with
  | case1 => rw [ofNatMinimal_zero]; rfl
  | case2 value hvalue ih =>
    have hbyte : (UInt8.ofNat value).toNat = value % 256 := by simp
    rw [ofNatMinimal_of_pos (Nat.pos_of_ne_zero hvalue), toNat_append_singleton, ih, hbyte,
      Nat.div_add_mod']

/-- The shortest spelling has no leading zero byte. -/
theorem head?_ofNatMinimal_ne (value : Nat) : (ofNatMinimal value).head? ≠ some 0 := by
  induction value using ofNatMinimal.induct with
  | case1 => simp [ofNatMinimal_zero]
  | case2 value hvalue ih =>
    rw [ofNatMinimal_of_pos (Nat.pos_of_ne_zero hvalue)]
    rcases Nat.eq_zero_or_pos (value / 256) with hsmall | hlarge
    · rw [hsmall, ofNatMinimal_zero, List.nil_append, List.head?_cons, ne_eq, Option.some.injEq,
        ← UInt8.toNat_inj]
      simp
      omega
    · rw [List.head?_append]
      cases hhead : (ofNatMinimal (value / 256)).head? with
      | none => exact absurd (List.head?_eq_none_iff.mp hhead) (ofNatMinimal_ne_nil hlarge)
      | some byte => rwa [hhead] at ih

/-- Bytes without a leading zero are the shortest spelling of their number. -/
theorem ofNatMinimal_toNat {bytes : Bytes} (hhead : bytes.head? ≠ some 0) :
    ofNatMinimal bytes.toNat = bytes := by
  induction bytes using List.reverseRecOn with
  | nil => exact ofNatMinimal_zero
  | append_singleton bytes byte ih =>
    have hbyte : byte.toNat < 256 := byte.toNat_lt
    have hpos : 0 < toNat bytes * 256 + byte.toNat := by
      refine Nat.pos_of_ne_zero fun hzero => hhead ?_
      rw [← toNat_append_singleton, toNat_eq_zero_iff] at hzero
      cases bytes with
      | nil => rw [hzero byte List.mem_cons_self]; rfl
      | cons first bytes => rw [hzero first List.mem_cons_self]; rfl
    have hfront : ofNatMinimal (toNat bytes) = bytes := by
      cases bytes with
      | nil => exact ofNatMinimal_zero
      | cons first bytes => exact ih hhead
    have hdiv : (toNat bytes * 256 + byte.toNat) / 256 = toNat bytes := by omega
    have hlast : UInt8.ofNat (toNat bytes * 256 + byte.toNat) = byte := by
      rw [← UInt8.toNat_inj, UInt8.toNat_ofNat']
      omega
    rw [toNat_append_singleton, ofNatMinimal_of_pos hpos, hdiv, hfront, hlast]

theorem length_ofNatMinimal_le {value count : Nat} (hvalue : value < 256 ^ count) :
    (ofNatMinimal value).length ≤ count := by
  induction count generalizing value with
  | zero =>
    rw [Nat.lt_one_iff.mp hvalue, ofNatMinimal_zero]
    exact Nat.le_refl 0
  | succ count ih =>
    rcases Nat.eq_zero_or_pos value with rfl | hpos
    · simp [ofNatMinimal_zero]
    · rw [ofNatMinimal_of_pos hpos, List.length_append, List.length_singleton]
      refine Nat.succ_le_succ (ih ?_)
      rw [Nat.div_lt_iff_lt_mul (by decide), ← Nat.pow_succ]
      exact hvalue

end Bytes

namespace FixedBytes

variable {width : Nat}

theorem toNat_ofNat_of_lt {value : Nat} (hfits : value < 256 ^ width) :
    (ofNat value : FixedBytes width).toNat = value :=
  Bytes.toNat_ofNat_of_lt hfits

theorem toNat_inj {x y : FixedBytes width} : x.toNat = y.toNat ↔ x = y := by
  refine ⟨fun hsame => ext_bytes ((Bytes.toNat_inj ?_).mp hsame), congrArg toNat⟩
  rw [length_bytes, length_bytes]

theorem eq_zero_iff {x : FixedBytes width} : x = zero ↔ ∀ byte ∈ x.bytes, byte = 0 := by
  constructor
  · rintro rfl byte hbyte
    exact List.eq_of_mem_replicate hbyte
  · intro hzero
    refine ext_bytes ?_
    rw [List.eq_replicate_of_mem hzero, length_bytes]
    rfl

theorem toNat_eq_zero_iff {x : FixedBytes width} : x.toNat = 0 ↔ x = zero := by
  rw [eq_zero_iff, toNat, Bytes.toNat_eq_zero_iff]

theorem isZero_iff {x : FixedBytes width} : x.isZero = true ↔ x = zero := by
  rw [eq_zero_iff, isZero, List.all_eq_true]
  simp

/-- A byte string of the right length is a value of the fixed width, and only such a one. -/
theorem ofBytes?_eq_some_iff {bytes : Bytes} {x : FixedBytes width} :
    ofBytes? bytes = some x ↔ bytes = x.bytes := by
  rw [ofBytes?]
  constructor
  · intro hsome
    split at hsome
    · cases hsome
      rfl
    · cases hsome
  · rintro rfl
    rw [dif_pos x.length_eq]

end FixedBytes

namespace Word

@[simp]
theorem lowAddress_ofAddress (address : Address) : lowAddress (ofAddress address) = address := by
  refine FixedBytes.ext_bytes ?_
  have hzeros : (Bytes.zeros 12).length = 12 := Bytes.length_zeros 12
  exact List.drop_left' hzeros

/-- The address in a word is its number modulo `2 ^ 160`. -/
theorem toNat_lowAddress (word : Word) : (lowAddress word).toNat = word.toNat % 2 ^ 160 := by
  have hlow : (word.bytes.drop 12).length = 20 := by simp
  have hlt := Bytes.toNat_lt (word.bytes.drop 12)
  rw [hlow] at hlt
  calc Bytes.toNat (word.bytes.drop 12)
      = (Bytes.toNat (word.bytes.take 12) * 256 ^ 20 + Bytes.toNat (word.bytes.drop 12)) % 256 ^ 20 := by
        rw [Nat.mul_add_mod_self_right, Nat.mod_eq_of_lt hlt]
    _ = Bytes.toNat (word.bytes.take 12 ++ word.bytes.drop 12) % 256 ^ 20 := by
        rw [Bytes.toNat_append, hlow]
    _ = word.toNat % 2 ^ 160 := by
        rw [List.take_append_drop]
        rfl

end Word

namespace Uint

variable {bits : Nat}

theorem toNat_toWord (x : Uint bits) (hbits : bits ≤ 256) : x.toWord.toNat = x.toNat := by
  refine FixedBytes.toNat_ofNat_of_lt ?_
  calc x.toNat < 2 ^ bits := x.isLt
    _ ≤ 2 ^ 256 := Nat.pow_le_pow_right (by decide) hbits
    _ = 256 ^ 32 := by decide

/-- Every word is that of a number of 256 bits. -/
theorem toWord_ofWord (word : Word) : (ofWord word : Uint 256).toWord = word := by
  have hlt : word.toNat < 256 ^ 32 := by
    have hword := Bytes.toNat_lt word.bytes
    rwa [word.length_eq] at hword
  have hsize : 2 ^ 256 = 256 ^ 32 := by decide
  refine FixedBytes.ext_bytes ((Bytes.toNat_inj (by simp)).mp ?_)
  change ((ofWord word : Uint 256).toWord).toNat = word.toNat
  rw [toNat_toWord _ (Nat.le_refl 256), ofWord, BitVec.toNat_ofNat, hsize, Nat.mod_eq_of_lt hlt]

theorem ofWord_toWord (x : Uint bits) (hbits : bits ≤ 256) : ofWord x.toWord = x := by
  rw [ofWord, toNat_toWord x hbits, BitVec.ofNat_toNat, BitVec.setWidth_eq]

theorem ofNat?_eq_some_iff {value : Nat} {x : Uint bits} :
    ofNat? bits value = some x ↔ x.toNat = value := by
  rw [ofNat?]
  constructor
  · intro hsome
    split at hsome
    case isTrue hfits =>
      cases hsome
      exact (BitVec.toNat_ofNat ..).trans (Nat.mod_eq_of_lt hfits)
    case isFalse => cases hsome
  · rintro rfl
    have hfits : x.toNat < size bits := x.isLt
    rw [if_pos hfits, BitVec.ofNat_toNat, BitVec.setWidth_eq]

theorem ofNat?_toNat (x : Uint bits) : ofNat? bits x.toNat = some x := ofNat?_eq_some_iff.mpr rfl

/-- A number that is written wider is the same number. -/
theorem setWidth_inj {wide : Nat} (hwide : bits ≤ wide) {x y : Uint bits} :
    x.setWidth wide = y.setWidth wide ↔ x = y := by
  rw [← BitVec.toNat_inj, BitVec.toNat_setWidth_of_le hwide, BitVec.toNat_setWidth_of_le hwide,
    BitVec.toNat_inj]

end Uint

end RollupBridge
