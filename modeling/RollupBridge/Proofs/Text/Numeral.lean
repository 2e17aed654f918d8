import Mathlib.Data.Nat.Digits.Defs
import RollupBridge.Text.Decimal

namespace RollupBridge.Decimal

variable {text digits : List Char} {seen value : Nat} {c : Char}

/-- The number that digits spell, the first one counting most. -/
def number (digits : List Char) : Nat :=
  Nat.ofDigits 10 (digits.reverse.map fun c => c.toNat - '0'.toNat)

/-- What is in front counts for the power of ten of what follows. -/
theorem number_append (front back : List Char) :
    number (front ++ back) = number front * 10 ^ back.length + number back := by
  simp only [number, List.reverse_append, List.map_append, Nat.ofDigits_append, List.length_map,
    List.length_reverse]
  rw [Nat.mul_comm, Nat.add_comm]

theorem number_cons (c : Char) (rest : List Char) :
    number (c :: rest) = (c.toNat - '0'.toNat) * 10 ^ rest.length + number rest := by
  have hfirst : number [c] = c.toNat - '0'.toNat := by simp [number]
  rw [← List.singleton_append, number_append, hfirst]

theorem isDigit_iff : isDigit c = true ↔ value? c = some (c.toNat - '0'.toNat) := by
  rw [isDigit, value?]
  split <;> simp

theorem range_of_isDigit (hc : isDigit c = true) : '0' ≤ c ∧ c ≤ '9' := by
  rw [isDigit, value?] at hc
  split at hc
  case isTrue hrange => exact hrange
  case isFalse => cases hc

/-- Digits spell a number below the power of ten of their length. -/
theorem number_lt (hdigits : ∀ c ∈ digits, isDigit c = true) : number digits < 10 ^ digits.length := by
  induction digits with
  | nil => simp [number]
  | cons c rest ih =>
    rw [List.forall_mem_cons] at hdigits
    have hrest := ih hdigits.2
    have hc : c.toNat - '0'.toNat + 1 ≤ 10 := by
      have hle : c.toNat ≤ '9'.toNat := (range_of_isDigit hdigits.1).2
      have hzero : '0'.toNat = 48 := rfl
      have hnine : '9'.toNat = 57 := rfl
      omega
    have hfirst := Nat.mul_le_mul_right (10 ^ rest.length) hc
    rw [Nat.add_mul, Nat.one_mul] at hfirst
    rw [number_cons, List.length_cons, Nat.pow_succ']
    omega

/-- Only digits are read behind others, as the number they spell together. -/
theorem readFrom_eq_some_iff :
    readFrom seen text = some value ↔
      (∀ c ∈ text, isDigit c = true) ∧ value = seen * 10 ^ text.length + number text := by
  induction text generalizing seen with
  | nil =>
    have hempty : number [] = 0 := rfl
    simp only [readFrom, Option.some.injEq, List.not_mem_nil, false_implies, implies_true, true_and,
      List.length_nil, Nat.pow_zero, Nat.mul_one, hempty, Nat.add_zero]
    exact eq_comm
  | cons c rest ih =>
    rw [readFrom, List.forall_mem_cons]
    by_cases hc : isDigit c = true
    · have hpow : (10 * seen + (c.toNat - '0'.toNat)) * 10 ^ rest.length + number rest =
          seen * 10 ^ (c :: rest).length + number (c :: rest) := by
        rw [number_cons, List.length_cons, Nat.pow_succ', Nat.add_mul, Nat.mul_comm 10 seen,
          Nat.mul_assoc, Nat.add_assoc]
      rw [isDigit_iff.mp hc]
      simp only [hc, true_and]
      rw [ih, hpow]
    · have hnone : value? c = none := by
        rw [isDigit, Option.isSome_iff_ne_none] at hc
        exact not_not.mp hc
      rw [hnone]
      simp [hc]

end RollupBridge.Decimal
