namespace RollupBridge

variable {ε ε' α β : Type}

theorem isOk_iff {check : Except ε α} : check.isOk = true ↔ ∃ value, check = .ok value := by
  cases check <;> simp [Except.isOk, Except.toBool]

theorem bind_eq_ok_iff {check : Except ε α} {next : α → Except ε β} {result : β} :
    check >>= next = .ok result ↔ ∃ value, check = .ok value ∧ next value = .ok result := by
  cases check <;> simp [bind, Except.bind]

theorem bind_eq_error_iff {check : Except ε α} {next : α → Except ε β} {error : ε} :
    check >>= next = .error error ↔
      check = .error error ∨ ∃ value, check = .ok value ∧ next value = .error error := by
  cases check <;> simp [bind, Except.bind]

theorem mapError_eq_ok_iff {wrap : ε → ε'} {check : Except ε α} {value : α} :
    check.mapError wrap = .ok value ↔ check = .ok value := by
  constructor
  · intro hok
    cases check with
    | error reason => cases hok
    | ok value => exact congrArg Except.ok (Except.ok.inj hok)
  · rintro rfl
    rfl

theorem mapError_eq_error_iff {wrap : ε → ε'} {check : Except ε α} {error : ε'} :
    check.mapError wrap = .error error ↔ ∃ reason, check = .error reason ∧ wrap reason = error := by
  constructor
  · intro herror
    cases check with
    | error reason =>
      cases herror
      exact ⟨reason, rfl, rfl⟩
    | ok value => cases herror
  · rintro ⟨reason, rfl, rfl⟩
    rfl

end RollupBridge
