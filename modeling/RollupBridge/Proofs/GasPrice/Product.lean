import Mathlib.Algebra.Ring.Int.Defs
import RollupBridge.Cli.GasPrice
import RollupBridge.Proofs.Bytes.Number

namespace RollupBridge.Cli.GasPrice

variable {isSigned isNegative : Bool} {word x y product : Uint 256} {value : Int} {units places : Nat}
  {price : Uint 128} {times : Times}

theorem ofInt_valueOf (isSigned : Bool) (word : Uint 256) :
    BitVec.ofInt 256 (valueOf isSigned word) = word := by
  cases isSigned with
  | false =>
    apply BitVec.eq_of_toNat_eq
    have hlt := word.isLt
    simp only [valueOf, Bool.false_eq_true, if_false, BitVec.ofInt_natCast, BitVec.toNat_ofNat]
    omega
  | true => exact BitVec.ofInt_toInt

/-- A word is told by the number it stands for. -/
theorem word?_eq_some_iff : word? isSigned value = some word ↔ valueOf isSigned word = value := by
  rw [word?]
  constructor
  · intro hword
    split at hword
    case isTrue hvalue =>
      cases hword
      exact hvalue
    case isFalse => cases hword
  · rintro rfl
    rw [ofInt_valueOf, if_pos rfl]

/-- Where the product fits its word, it is the product. What becomes of one that does not is left open. -/
def Times.Exact (times : Times) : Prop :=
  ∀ isSigned x y product, Times.checked isSigned x y = some product → times isSigned x y = some product

/-- No product is taken that does not fit its word. -/
def Times.Refuses (times : Times) : Prop :=
  ∀ isSigned x y, Times.checked isSigned x y = none → times isSigned x y = none

/-- An amount of wei fits a word, behind a minus sign as a signed one. -/
def Fits (isNegative : Bool) (wei : Nat) : Prop := if isNegative then wei ≤ 2 ^ 255 else wei < 2 ^ 256

theorem Times.checked_eq_some_iff :
    Times.checked isSigned x y = some product ↔
      valueOf isSigned product = valueOf isSigned x * valueOf isSigned y :=
  word?_eq_some_iff

theorem Times.eq_checked (hexact : times.Exact) (hrefuses : times.Refuses) : times = Times.checked := by
  funext isSigned x y
  cases hproduct : Times.checked isSigned x y with
  | none => exact hrefuses _ _ _ hproduct
  | some product => exact hexact _ _ _ _ hproduct

theorem Fits.mono {wei wei' : Nat} (hfits : Fits isNegative wei') (hle : wei ≤ wei') : Fits isNegative wei := by
  cases isNegative with
  | false => exact Nat.lt_of_le_of_lt hle hfits
  | true => exact Nat.le_trans hle hfits

theorem fits_of_valueOf {wei : Nat} (hvalue : valueOf isNegative word = withSign isNegative wei) :
    Fits isNegative wei := by
  cases isNegative with
  | false =>
    have hword : (word.toNat : Int) = wei := hvalue
    have hlt := word.isLt
    change wei < 2 ^ 256
    omega
  | true =>
    have hword : word.toInt = -wei := hvalue
    have hle := word.le_toInt
    change wei ≤ 2 ^ 255
    omega

theorem exists_word {wei : Nat} (hfits : Fits isNegative wei) :
    ∃ word, valueOf isNegative word = withSign isNegative wei := by
  refine ⟨BitVec.ofInt 256 (withSign isNegative wei), ?_⟩
  cases isNegative with
  | false =>
    have hlt : wei < 2 ^ 256 := hfits
    change ((BitVec.ofInt 256 (wei : Int)).toNat : Int) = wei
    rw [BitVec.ofInt_natCast, BitVec.toNat_ofNat, Nat.mod_eq_of_lt hlt]
  | true =>
    have hle : wei ≤ 2 ^ 255 := hfits
    change (BitVec.ofInt 256 (-wei : Int)).toInt = -wei
    rw [BitVec.toInt_ofInt]
    apply Int.bmod_eq_of_le <;> omega

/-- A power of ten up to the decimals of a gwei has a word of either kind. -/
theorem valueOf_pow (isSigned : Bool) (hplaces : places ≤ decimals) :
    valueOf isSigned (BitVec.ofNat 256 (Nat.pow 10 places)) = 10 ^ places := by
  have hpowers : ∀ isSigned, ∀ places < 10,
      valueOf isSigned (BitVec.ofNat 256 (Nat.pow 10 places)) = 10 ^ places := by decide
  exact hpowers isSigned places (Nat.lt_succ_of_le hplaces)

theorem withSign_mul (isNegative : Bool) (units places : Nat) :
    withSign isNegative (units * 10 ^ places) = withSign isNegative units * 10 ^ places := by
  cases isNegative <;> simp [withSign]

/-- Checked, the wei are those that a word stands for. -/
theorem wei?_checked (hplaces : places ≤ decimals) :
    wei? Times.checked isNegative units places =
      word? isNegative (withSign isNegative (units * 10 ^ places)) := by
  ext word
  rw [wei?, Option.bind_eq_bind, Option.bind_eq_some_iff, word?_eq_some_iff]
  constructor
  · rintro ⟨amount, hamount, hproduct⟩
    rw [Times.checked_eq_some_iff, valueOf_pow isNegative hplaces, word?_eq_some_iff.mp hamount] at hproduct
    rw [hproduct, withSign_mul]
  · intro hword
    have hle : units ≤ units * 10 ^ places := Nat.le_mul_of_pos_right units (Nat.pow_pos (by decide))
    obtain ⟨amount, hamount⟩ := exists_word ((fits_of_valueOf hword).mono hle)
    refine ⟨amount, word?_eq_some_iff.mpr hamount, Times.checked_eq_some_iff.mpr ?_⟩
    rw [hword, hamount, valueOf_pow isNegative hplaces, withSign_mul]

/-- Other products make no difference where the wei fit, or where those that do not are refused. -/
theorem wei?_eq_of_fits (hexact : times.Exact) (hplaces : places ≤ decimals)
    (hreach : Fits isNegative (units * 10 ^ places) ∨ times.Refuses) :
    wei? times isNegative units places = word? isNegative (withSign isNegative (units * 10 ^ places)) := by
  rw [← wei?_checked hplaces]
  cases hreach with
  | inl hfits =>
    obtain ⟨word, hword⟩ := exists_word hfits
    have hchecked : wei? Times.checked isNegative units places = some word :=
      (wei?_checked hplaces).trans (word?_eq_some_iff.mpr hword)
    obtain ⟨amount, hamount, hproduct⟩ := Option.bind_eq_some_iff.mp hchecked
    have htimes : wei? times isNegative units places = some word :=
      Option.bind_eq_some_iff.mpr ⟨amount, hamount, hexact _ _ _ _ hproduct⟩
    rw [htimes, hchecked]
  | inr hrefuses => rw [Times.eq_checked hexact hrefuses]

/-- A word below `2 ^ 128` stands for the same number, signed or not. -/
theorem valueOf_of_lt (hlt : word.toNat < 2 ^ 128) : valueOf isSigned word = word.toNat := by
  cases isSigned with
  | false => rfl
  | true =>
    change word.toInt = word.toNat
    rw [BitVec.toInt_eq_toNat_cond, if_pos (by omega)]

/-- Behind a minus sign, only zero is a price. -/
theorem withSign_eq_iff {wei : Nat} :
    withSign isNegative wei = price.toNat ↔ price.toNat = wei ∧ (isNegative = true → price = 0) := by
  cases isNegative with
  | false =>
    simp only [withSign, Bool.false_eq_true, if_false, false_implies, and_true]
    omega
  | true =>
    have hzero : price = 0 ↔ price.toNat = 0 := BitVec.toNat_inj.symm
    simp only [withSign, if_true, true_implies, hzero]
    omega

/-- The price is that of the units, and behind a minus sign it is zero. -/
theorem price?_eq_some_iff (hexact : times.Exact) (hplaces : places ≤ decimals)
    (hreach : Fits isNegative (units * 10 ^ places) ∨ times.Refuses) :
    price? times isNegative units places = some price ↔
      price.toNat = units * 10 ^ places ∧ (isNegative = true → price = 0) := by
  have hlt := price.isLt
  rw [price?, wei?_eq_of_fits hexact hplaces hreach, Option.bind_eq_bind, Option.bind_eq_some_iff,
    ← withSign_eq_iff]
  simp only [word?_eq_some_iff, Uint.ofNat?_eq_some_iff]
  constructor
  · rintro ⟨word, hword, hprice⟩
    rw [← hword, valueOf_of_lt (hprice ▸ hlt), hprice]
  · intro hvalue
    have hword : (BitVec.ofNat 256 price.toNat).toNat = price.toNat :=
      Nat.mod_eq_of_lt (Nat.lt_trans hlt (by decide))
    have hsmall : (BitVec.ofNat 256 price.toNat).toNat < 2 ^ 128 := by rwa [hword]
    refine ⟨BitVec.ofNat 256 price.toNat, ?_, hword.symm⟩
    rw [valueOf_of_lt hsmall, hword, hvalue]

end RollupBridge.Cli.GasPrice
