import RollupBridge.Text.Decimal

namespace RollupBridge.Decimal

/-- A digit has the value it was written for. -/
theorem value?_digit {value : Nat} (hvalue : value < 10) : value? (digit value) = some value := by
  have hdigits : ∀ value : Fin 10, value? (digit value) = some value.val := by decide
  exact hdigits ⟨value, hvalue⟩

theorem isDigit_digit {value : Nat} (hvalue : value < 10) : isDigit (digit value) = true := by
  rw [isDigit, value?_digit hvalue]
  rfl

theorem readFrom_append (seen : Nat) (text rest : List Char) :
    readFrom seen (text ++ rest) = (readFrom seen text).bind fun value => readFrom value rest := by
  induction text generalizing seen with
  | nil => rfl
  | cons c text ih =>
    rw [List.cons_append, readFrom, readFrom]
    cases value? c with
    | none => rfl
    | some d => exact ih _

theorem digits_zero : digits 0 = ['0'] := by
  rw [digits]
  rfl

theorem digits_ne_nil (value : Nat) : digits value ≠ [] := by
  rw [digits]
  split <;> simp

theorem isDigit_of_mem_digits {value : Nat} {c : Char} (hc : c ∈ digits value) : isDigit c = true := by
  induction value using digits.induct with
  | case1 value hvalue =>
    rw [digits, if_pos hvalue, List.mem_singleton] at hc
    rw [hc, isDigit_digit hvalue]
  | case2 value hvalue ih =>
    rw [digits, if_neg hvalue, List.mem_append, List.mem_singleton] at hc
    rcases hc with hc | rfl
    · exact ih hc
    · exact isDigit_digit (Nat.mod_lt _ (by decide))

/-- The numeral of a number above zero does not start with a zero. -/
theorem digits_eq_cons {value : Nat} (hpos : 0 < value) :
    ∃ c rest, digits value = c :: rest ∧ c ≠ '0' := by
  induction value using digits.induct with
  | case1 value hvalue =>
    have hdigits : ∀ value : Fin 10, digit value = '0' → value.val = 0 := by decide
    rw [digits, if_pos hvalue]
    refine ⟨_, [], rfl, ?_⟩
    intro hzero
    exact Nat.ne_of_gt hpos (hdigits ⟨value, hvalue⟩ hzero)
  | case2 value hvalue ih =>
    obtain ⟨c, rest, hdigits, hc⟩ := ih (Nat.div_pos (Nat.le_of_not_lt hvalue) (by decide))
    rw [digits, if_neg hvalue, hdigits]
    exact ⟨c, _, rfl, hc⟩

theorem readFrom_digits (value : Nat) : readFrom 0 (digits value) = some value := by
  induction value using digits.induct with
  | case1 value hvalue => simp [digits, hvalue, readFrom, value?_digit hvalue]
  | case2 value hvalue ih =>
    have hlast : value % 10 < 10 := Nat.mod_lt _ (by decide)
    rw [digits, if_neg hvalue, readFrom_append, ih, Option.bind_some, readFrom, value?_digit hlast]
    exact congrArg some (Nat.div_add_mod value 10)

/-- A number is read back from its numeral. -/
theorem read?_digits (value : Nat) : read? (digits value) = some value := by
  rw [read?, if_neg (by simp [digits_ne_nil]), readFrom_digits]

end RollupBridge.Decimal
