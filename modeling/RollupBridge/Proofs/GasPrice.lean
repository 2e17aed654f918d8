import Mathlib.Algebra.Order.Floor.Semifield
import Mathlib.Data.Rat.Floor
import RollupBridge.Cli.Reader
import RollupBridge.Proofs.GasPrice.Product
import RollupBridge.Proofs.Text.Cut
import RollupBridge.Proofs.Text.Numeral

namespace RollupBridge.Cli.GasPrice

variable {text before fraction places whole numeral : List Char} {isNegative : Bool} {price : Uint 128}
  {amount : ℚ} {times : Times}

/-- Digits, with underscores among them, or nothing at all. -/
def AreDigits (text : List Char) : Prop := ∀ c ∈ text, Decimal.isDigit c = true ∨ c = '_'

/-- The places that count of the decimals of an amount: all of them, or the first nine. -/
inductive Kept : (fraction places : List Char) → Prop
  | all {places : List Char} (hfew : places.length ≤ 9) : Kept places places
  | cut {places : List Char} (hnine : places.length = 9) (tail : List Char) : Kept (places ++ tail) places

def sign (isNegative : Bool) : List Char := if isNegative then ['-'] else []

/-- How an amount is spelled: a sign, the digits in front of the point, and the places behind it. -/
inductive Spells : (text : List Char) → (isNegative : Bool) → (whole places : List Char) → Prop
  | whole (isNegative : Bool) {whole : List Char} (hwhole : AreDigits whole) :
      Spells (sign isNegative ++ whole) isNegative whole []
  | point (isNegative : Bool) {whole fraction places : List Char} (hwhole : AreDigits whole)
      (hkept : Kept fraction places) (hplaces : AreDigits places) :
      Spells (sign isNegative ++ whole ++ '.' :: fraction) isNegative whole places

/-- The wei in an amount of gwei. An underscore among the decimals takes the place of a digit. -/
def wei (whole places : List Char) : Nat :=
  Decimal.number ((whole ++ places).filter (· ≠ '_')) * 10 ^ (9 - places.length)

/-- The numerals of the amounts that are not negative: digits, with at most one point before, among or
behind them. -/
inductive Denotes : List Char → ℚ → Prop
  | integer {digits : List Char} (hne : digits ≠ []) (hdigits : ∀ c ∈ digits, Decimal.isDigit c = true) :
      Denotes digits (Decimal.number digits)
  | point {whole fraction : List Char} (hne : whole ++ fraction ≠ [])
      (hdigits : ∀ c ∈ whole ++ fraction, Decimal.isDigit c = true) :
      Denotes (whole ++ '.' :: fraction) (Decimal.number (whole ++ fraction) / 10 ^ fraction.length)

theorem utf8Size_of_isDigit {c : Char} (hc : Decimal.isDigit c = true) : c.utf8Size = 1 := by
  rw [Char.utf8Size_eq_one_iff]
  exact UInt32.le_trans (Decimal.range_of_isDigit hc).2 (by decide)

theorem areDigits_append {front back : List Char} :
    AreDigits (front ++ back) ↔ AreDigits front ∧ AreDigits back :=
  List.forall_mem_append

theorem AreDigits.utf8Length_eq (hdigits : AreDigits text) : Text.utf8Length text = text.length := by
  apply Text.utf8Length_of_ascii
  intro c hc
  rcases hdigits c hc with hdigit | rfl
  · exact utf8Size_of_isDigit hdigit
  · rfl

theorem AreDigits.not_mem (hdigits : AreDigits text) {c : Char} (hdigit : Decimal.isDigit c = false)
    (hunderscore : c ≠ '_') : c ∉ text := by
  intro hc
  rcases hdigits c hc with htrue | hsame
  · rw [hdigit] at htrue
    cases htrue
  · exact hunderscore hsame

theorem digits?_eq_some_iff {value : Nat} :
    digits? text = some value ↔
      AreDigits text ∧ value = Decimal.number (text.filter (· ≠ '_')) := by
  have hfilter : (∀ c ∈ text.filter (· ≠ '_'), Decimal.isDigit c = true) ↔ AreDigits text := by
    simp only [List.mem_filter, decide_eq_true_eq, AreDigits]
    grind
  rw [digits?, Decimal.readFrom_eq_some_iff, hfilter, Nat.zero_mul, Nat.zero_add]

/-- The cut leaves nine bytes, or all there are if they are no more. -/
theorem cutFraction?_eq_some_iff :
    cutFraction? fraction = some places ↔ ∃ tail, fraction = places ++ tail ∧
      (Text.utf8Length places = 9 ∨ tail = [] ∧ Text.utf8Length places ≤ 9) := by
  rw [cutFraction?, Option.map_eq_some_iff]
  constructor
  · rintro ⟨kept, hdrop, rfl⟩
    obtain ⟨tail, hfraction, htail⟩ := Text.dropBytes?_eq_some_iff.mp hdrop
    obtain rfl : fraction = kept.reverse ++ tail.reverse := by
      rw [← List.reverse_append, ← hfraction, List.reverse_reverse]
    refine ⟨tail.reverse, rfl, ?_⟩
    rw [Text.utf8Length_append, Text.utf8Length_reverse tail] at htail
    rw [List.reverse_eq_nil_iff, ← Text.utf8Length_eq_zero_iff]
    have hdecimals : decimals = 9 := rfl
    omega
  · rintro ⟨tail, rfl, hplaces⟩
    refine ⟨places.reverse, ?_, List.reverse_reverse places⟩
    rw [Text.dropBytes?_eq_some_iff, Text.utf8Length_append, List.reverse_append]
    refine ⟨tail.reverse, rfl, ?_⟩
    rw [Text.utf8Length_reverse]
    have hdecimals : decimals = 9 := rfl
    rcases hplaces with hnine | ⟨rfl, hfew⟩
    · omega
    · have hnone : Text.utf8Length [] = 0 := rfl
      omega

theorem cutFraction?_eq_some_iff_kept (hplaces : AreDigits places) :
    cutFraction? fraction = some places ↔ Kept fraction places := by
  rw [cutFraction?_eq_some_iff, hplaces.utf8Length_eq]
  constructor
  · rintro ⟨tail, rfl, hnine | ⟨rfl, hfew⟩⟩
    · exact .cut hnine tail
    · rw [List.append_nil]
      exact .all hfew
  · rintro (hfew | ⟨hnine, tail⟩)
    · exact ⟨[], (List.append_nil _).symm, Or.inr ⟨rfl, hfew⟩⟩
    · exact ⟨tail, rfl, Or.inl hnine⟩

/-- The price of so many units, or that it is out of range. -/
def priceOf (times : Times) (isNegative : Bool) (units places : Nat) : Except Refusal (Uint 128) :=
  match price? times isNegative units places with
  | some price => .ok price
  | none => .error .outOfRange

theorem priceOf_eq_ok_iff {units places : Nat} (hexact : times.Exact) (hplaces : places ≤ decimals)
    (hreach : Fits isNegative (units * 10 ^ places) ∨ times.Refuses) :
    priceOf times isNegative units places = .ok price ↔
      price.toNat = units * 10 ^ places ∧ (isNegative = true → price = 0) := by
  rw [← price?_eq_some_iff hexact hplaces hreach, priceOf]
  cases price? times isNegative units places <;> simp

/-- The rest of reading a price, behind its sign and its point. -/
def readParts (times : Times) (isNegative : Bool) (whole fraction : List Char) :
    Except Refusal (Uint 128) :=
  match cutFraction? fraction with
  | none => .error .brokenCharacter
  | some places =>
    match digits? (whole ++ places) with
    | none => .error .notANumber
    | some units => priceOf times isNegative units (decimals - Text.utf8Length places)

/-- Where a text is taken apart: behind a sign that it starts with, and at its first point. -/
inductive Split : (text : List Char) → (isNegative : Bool) → (whole fraction : List Char) → Prop
  | whole (isNegative : Bool) {whole : List Char} (hsign : isNegative = false → whole.head? ≠ some '-')
      (hpoint : '.' ∉ whole) : Split (sign isNegative ++ whole) isNegative whole []
  | point (isNegative : Bool) {whole : List Char} (hsign : isNegative = false → whole.head? ≠ some '-')
      (hpoint : '.' ∉ whole) (fraction : List Char) :
      Split (sign isNegative ++ whole ++ '.' :: fraction) isNegative whole fraction

theorem exists_sign (text : List Char) :
    ∃ isNegative whole, text = sign isNegative ++ whole ∧
      (isNegative = false → whole.head? ≠ some '-') := by
  by_cases hhead : text.head? = some '-'
  · obtain ⟨rest, rfl⟩ := List.head?_eq_some_iff.mp hhead
    exact ⟨true, rest, rfl, fun hsign => absurd hsign (by decide)⟩
  · exact ⟨false, text, rfl, fun _ => hhead⟩

theorem point_not_mem_sign (isNegative : Bool) : '.' ∉ sign isNegative := by
  cases isNegative <;> decide

theorem head?_sign_append (hsign : isNegative = false → text.head? ≠ some '-') :
    ((sign isNegative ++ text).head? == some '-') = isNegative := by
  cases isNegative with
  | false => simpa [sign] using hsign rfl
  | true => rfl

theorem drop_sign_append (isNegative : Bool) (text : List Char) :
    (sign isNegative ++ text).drop isNegative.toNat = text := by
  cases isNegative <;> rfl

/-- What is read of a text is read of its parts. -/
theorem Split.read_eq (hsplit : Split text isNegative whole fraction) :
    read times text = readParts times isNegative whole fraction := by
  cases hsplit with
  | whole isNegative hsign hpoint =>
    have hnone : Text.splitOnce '.' (sign isNegative ++ whole) = none := by
      rw [Text.splitOnce_eq_none_iff, List.mem_append, not_or]
      exact ⟨point_not_mem_sign isNegative, hpoint⟩
    unfold read readParts
    rw [hnone]
    simp only [Option.getD_none, head?_sign_append hsign, List.append_assoc, drop_sign_append]
    rfl
  | point isNegative hsign hpoint fraction =>
    have hsome : Text.splitOnce '.' (sign isNegative ++ whole ++ '.' :: fraction) =
        some (sign isNegative ++ whole, fraction) := by
      rw [Text.splitOnce_eq_some_iff, List.mem_append, not_or]
      exact ⟨rfl, point_not_mem_sign isNegative, hpoint⟩
    have hfirst : isNegative = false → (whole ++ '.' :: fraction).head? ≠ some '-' := by
      intro hpositive
      rw [List.head?_append]
      cases hhead : whole.head? with
      | none => simp
      | some first => simpa [hhead] using hsign hpositive
    unfold read readParts
    rw [hsome]
    simp only [Option.getD_some, List.append_assoc, head?_sign_append hfirst, drop_sign_append]
    rfl

theorem Kept.eq_nil (hkept : Kept fraction places) (hfraction : fraction = []) : places = [] := by
  cases hkept with
  | all => exact hfraction
  | cut _ tail => exact (List.append_eq_nil_iff.mp hfraction).1

/-- An amount is spelled where the parts of a text are digits, as far as the places count. -/
theorem spells_iff :
    Spells text isNegative whole places ↔ ∃ fraction, Split text isNegative whole fraction ∧
      Kept fraction places ∧ AreDigits whole ∧ AreDigits places := by
  have hsign (hwhole : AreDigits whole) (_ : isNegative = false) : whole.head? ≠ some '-' := fun hhead =>
    hwhole.not_mem (c := '-') (by decide) (by decide) (List.mem_of_head? hhead)
  have hpoint (hwhole : AreDigits whole) : '.' ∉ whole := hwhole.not_mem (by decide) (by decide)
  constructor
  · rintro (⟨_, hwhole⟩ | ⟨_, hwhole, hkept, hplaces⟩)
    · exact ⟨[], .whole _ (hsign hwhole) (hpoint hwhole), .all (Nat.zero_le 9), hwhole,
        fun _ hmem => absurd hmem List.not_mem_nil⟩
    · exact ⟨_, .point _ (hsign hwhole) (hpoint hwhole) _, hkept, hwhole, hplaces⟩
  · rintro ⟨fraction, hsplit, hkept, hwhole, hplaces⟩
    cases hsplit with
    | whole =>
      obtain rfl := hkept.eq_nil rfl
      exact .whole isNegative hwhole
    | point => exact .point isNegative hwhole hkept hplaces

theorem read_of_spells (hspells : Spells text isNegative whole places) :
    read times text = priceOf times isNegative (Decimal.number ((whole ++ places).filter (· ≠ '_')))
      (9 - places.length) := by
  obtain ⟨fraction, hsplit, hkept, hwhole, hplaces⟩ := spells_iff.mp hspells
  have hdigits : digits? (whole ++ places) =
      some (Decimal.number ((whole ++ places).filter (· ≠ '_'))) :=
    digits?_eq_some_iff.mpr ⟨areDigits_append.mpr ⟨hwhole, hplaces⟩, rfl⟩
  rw [hsplit.read_eq, readParts, (cutFraction?_eq_some_iff_kept hplaces).mpr hkept]
  simp only [hdigits]
  rw [hplaces.utf8Length_eq, decimals]

/-- An amount that is spelled is read as its wei, as far as products are taken for what they are. -/
theorem read_eq_ok_iff (hexact : times.Exact) (hspells : Spells text isNegative whole places)
    (hreach : Fits isNegative (wei whole places) ∨ times.Refuses) :
    read times text = .ok price ↔
      price.toNat = wei whole places ∧ (isNegative = true → price = 0) := by
  rw [read_of_spells hspells]
  exact priceOf_eq_ok_iff hexact (Nat.sub_le 9 places.length) hreach

theorem filter_digits (hdigits : ∀ c ∈ text, Decimal.isDigit c = true) :
    text.filter (· ≠ '_') = text := by
  rw [List.filter_eq_self]
  intro c hc
  rw [decide_eq_true_eq]
  rintro rfl
  exact absurd (hdigits _ hc) (by decide)

/-- The digits behind the ninth decimal are worth less than a wei together. -/
theorem number_mul_div (hdigits : ∀ c ∈ fraction, Decimal.isDigit c = true) :
    Decimal.number (whole ++ fraction) * 10 ^ 9 / 10 ^ fraction.length =
      Decimal.number (whole ++ fraction.take 9) * 10 ^ (9 - (fraction.take 9).length) := by
  by_cases hfew : fraction.length ≤ 9
  · have hpow : 10 ^ 9 = 10 ^ (9 - fraction.length) * 10 ^ fraction.length := by
      rw [← Nat.pow_add, Nat.sub_add_cancel hfew]
    rw [List.take_of_length_le hfew, hpow, ← Nat.mul_assoc, Nat.mul_div_cancel _ (Nat.pow_pos (by decide))]
  · have hnine : (fraction.take 9).length = 9 := List.length_take_of_le (Nat.le_of_not_le hfew)
    have hrest : Decimal.number (fraction.drop 9) < 10 ^ (fraction.drop 9).length :=
      Decimal.number_lt fun c hc => hdigits c (List.mem_of_mem_drop hc)
    have hlength : fraction.length = (fraction.drop 9).length + 9 := by
      rw [List.length_drop]
      omega
    calc Decimal.number (whole ++ fraction) * 10 ^ 9 / 10 ^ fraction.length
        = Decimal.number (whole ++ fraction) / 10 ^ (fraction.drop 9).length := by
          rw [hlength, Nat.pow_add, Nat.mul_div_mul_right _ _ (by decide)]
      _ = (Decimal.number (whole ++ fraction.take 9) * 10 ^ (fraction.drop 9).length +
            Decimal.number (fraction.drop 9)) / 10 ^ (fraction.drop 9).length := by
          rw [← Decimal.number_append, List.append_assoc, List.take_append_drop]
      _ = Decimal.number (whole ++ fraction.take 9) := by
          rw [Nat.mul_comm, Nat.mul_add_div (Nat.pow_pos (by decide)), Nat.div_eq_of_lt hrest, Nat.add_zero]
      _ = Decimal.number (whole ++ fraction.take 9) * 10 ^ (9 - (fraction.take 9).length) := by
          rw [hnine, Nat.sub_self, Nat.pow_zero, Nat.mul_one]

theorem kept_take (fraction : List Char) : Kept fraction (fraction.take 9) := by
  by_cases hfew : fraction.length ≤ 9
  · rw [List.take_of_length_le hfew]
    exact .all hfew
  · have hkept := Kept.cut (List.length_take_of_le (Nat.le_of_not_le hfew)) (fraction.drop 9)
    rwa [List.take_append_drop] at hkept

/-- A numeral spells the whole number of wei in its amount. -/
theorem Denotes.spells (hdenotes : Denotes numeral amount) (isNegative : Bool) :
    ∃ whole places, Spells (sign isNegative ++ numeral) isNegative whole places ∧
      wei whole places = ⌊amount * 10 ^ 9⌋₊ := by
  cases hdenotes with
  | integer hne hdigits =>
    refine ⟨numeral, [], .whole isNegative fun c hc => Or.inl (hdigits c hc), ?_⟩
    rw [wei, List.append_nil, filter_digits hdigits, List.length_nil, Nat.sub_zero]
    exact_mod_cast (Nat.floor_natCast (Decimal.number numeral * 10 ^ 9)).symm
  | @point whole fraction hne hdigits =>
    rw [List.forall_mem_append] at hdigits
    have hplaces : ∀ c ∈ fraction.take 9, Decimal.isDigit c = true := fun c hc =>
      hdigits.2 c (List.mem_of_mem_take hc)
    have hamount : (Decimal.number (whole ++ fraction) / 10 ^ fraction.length * 10 ^ 9 : ℚ) =
        (Decimal.number (whole ++ fraction) * 10 ^ 9 : ℕ) / (10 ^ fraction.length : ℕ) := by
      push_cast
      exact div_mul_eq_mul_div _ _ _
    refine ⟨whole, fraction.take 9, ?_, ?_⟩
    · rw [← List.append_assoc]
      exact .point isNegative (fun c hc => Or.inl (hdigits.1 c hc)) (kept_take fraction)
        fun c hc => Or.inl (hplaces c hc)
    · rw [wei, filter_digits (List.forall_mem_append.mpr ⟨hdigits.1, hplaces⟩), hamount,
        Nat.floor_div_eq_div, number_mul_div hdigits.2]

end RollupBridge.Cli.GasPrice
