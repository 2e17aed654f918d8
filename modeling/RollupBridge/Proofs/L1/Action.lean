import RollupBridge.L1.Action
import RollupBridge.Proofs.L1.Run

namespace RollupBridge

namespace Action

variable {α β ε : Type}

/-- The runs of a procedure that can fail, with the value or the error they end in. -/
def Runs (action : Action α) (t : Trace) (result : Except BridgeError α) : Prop :=
  Program.Runs action.run t result

@[simp]
theorem runs_pure_iff {value : α} {t : Trace} {result : Except BridgeError α} :
    (pure value : Action α).Runs t result ↔ t = [] ∧ result = .ok value :=
  Program.runs_done_iff

@[simp]
theorem runs_throw_iff {error : BridgeError} {t : Trace} {result : Except BridgeError α} :
    (throw error : Action α).Runs t result ↔ t = [] ∧ result = .error error :=
  Program.runs_done_iff

@[simp]
theorem runs_ofResult_iff {wrap : ε → BridgeError} {checked : Except ε α} {t : Trace}
    {result : Except BridgeError α} :
    (ofResult wrap checked).Runs t result ↔ t = [] ∧ result = checked.mapError wrap :=
  Program.runs_done_iff

@[simp]
theorem runs_ofResult_ok_iff {wrap : ε → BridgeError} {checked : Except ε α} {t : Trace} {value : α} :
    (ofResult wrap checked).Runs t (.ok value) ↔ t = [] ∧ checked = .ok value := by
  rw [runs_ofResult_iff]
  refine and_congr_right fun _ => ?_
  cases checked with
  | error error => constructor <;> intro hresult <;> cases hresult
  | ok checked =>
    constructor <;> intro hresult <;> cases hresult
    · rfl
    · rfl

theorem runs_ofResult_error_iff {wrap : ε → BridgeError} {checked : Except ε α} {t : Trace}
    {error : BridgeError} :
    (ofResult wrap checked).Runs t (.error error) ↔
      t = [] ∧ ∃ reason, checked = .error reason ∧ error = wrap reason := by
  rw [runs_ofResult_iff]
  refine and_congr_right fun _ => ?_
  cases checked with
  | error reason =>
    constructor
    · intro hresult
      cases hresult
      exact ⟨reason, rfl, rfl⟩
    · rintro ⟨_, hreason, rfl⟩
      cases hreason
      rfl
  | ok value =>
    constructor
    · intro hresult
      cases hresult
    · rintro ⟨_, hreason, _⟩
      cases hreason

theorem runs_ask_iff {request : Request} {t : Trace} {result : Except BridgeError request.Payload} :
    (ask request).Runs t result ↔
      ∃ answer : request.Answer, t = [⟨.main, request, answer⟩] ∧ result = answer.mapError .rpc := by
  constructor
  · intro hrun
    obtain ⟨answer, rest, rfl, hdone⟩ := Program.runs_ask_iff.mp hrun
    obtain ⟨rfl, rfl⟩ := Program.runs_done_iff.mp hdone
    exact ⟨answer, rfl, rfl⟩
  · rintro ⟨answer, rfl, rfl⟩
    exact .ask answer (.done _)

theorem runs_ask_ok_iff {request : Request} {t : Trace} {value : request.Payload} :
    (ask request).Runs t (.ok value) ↔ t = [⟨.main, request, .ok value⟩] := by
  rw [runs_ask_iff]
  constructor
  · rintro ⟨error | payload, rfl, hanswer⟩
    · cases hanswer
    · cases hanswer
      rfl
  · rintro rfl
    exact ⟨.ok value, rfl, rfl⟩

theorem runs_ask_error_iff {request : Request} {t : Trace} {error : BridgeError} :
    (ask request).Runs t (.error error) ↔
      ∃ reason, t = [⟨.main, request, .error reason⟩] ∧ error = .rpc reason := by
  rw [runs_ask_iff]
  constructor
  · rintro ⟨reason | payload, rfl, hanswer⟩
    · cases hanswer
      exact ⟨reason, rfl, rfl⟩
    · cases hanswer
  · rintro ⟨reason, rfl, rfl⟩
    exact ⟨.error reason, rfl, rfl⟩

/-- A run of two steps stops with the error of the first, or passes its value to the second. -/
theorem runs_bind_iff {action : Action α} {next : α → Action β} {t : Trace}
    {result : Except BridgeError β} :
    (action >>= next).Runs t result ↔
      (∃ error, action.Runs t (.error error) ∧ result = .error error) ∨
      ∃ before after value, t = before ++ after ∧ action.Runs before (.ok value) ∧
        (next value).Runs after result := by
  refine Program.runs_bind_iff.trans ?_
  constructor
  · rintro ⟨before, after, intermediate, rfl, hfirst, hthen⟩
    cases intermediate with
    | error error =>
      obtain ⟨rfl, rfl⟩ := Program.runs_done_iff.mp hthen
      rw [List.append_nil]
      exact Or.inl ⟨error, hfirst, rfl⟩
    | ok value => exact Or.inr ⟨before, after, value, rfl, hfirst, hthen⟩
  · rintro (⟨error, hfirst, rfl⟩ | ⟨before, after, value, rfl, hfirst, hthen⟩)
    · exact ⟨t, [], .error error, by simp, hfirst, .done _⟩
    · exact ⟨before, after, .ok value, rfl, hfirst, hthen⟩

theorem runs_bind_ok_iff {action : Action α} {next : α → Action β} {t : Trace} {result : β} :
    (action >>= next).Runs t (.ok result) ↔
      ∃ before after value, t = before ++ after ∧ action.Runs before (.ok value) ∧
        (next value).Runs after (.ok result) := by
  simp [runs_bind_iff]

/-- A procedure that ends in a value went on from a check with the value of that check. -/
theorem runs_ofResult_bind_ok_iff {wrap : ε → BridgeError} {checked : Except ε α} {next : α → Action β}
    {t : Trace} {result : β} :
    (ofResult wrap checked >>= next).Runs t (.ok result) ↔
      ∃ value, checked = .ok value ∧ (next value).Runs t (.ok result) := by
  rw [runs_bind_ok_iff]
  constructor
  · rintro ⟨_, after, value, rfl, hcheck, hnext⟩
    rw [runs_ofResult_ok_iff] at hcheck
    obtain ⟨rfl, hcheck⟩ := hcheck
    exact ⟨value, hcheck, hnext⟩
  · rintro ⟨value, hcheck, hnext⟩
    exact ⟨[], t, value, rfl, runs_ofResult_ok_iff.mpr ⟨rfl, hcheck⟩, hnext⟩

/-- What is made of a value in the end asks for nothing more. -/
theorem runs_bind_pure_iff {action : Action α} {make : α → β} {t : Trace}
    {result : Except BridgeError β} :
    (action >>= fun value => pure (make value)).Runs t result ↔
      ∃ answer, action.Runs t answer ∧ result = answer.map make := by
  rw [runs_bind_iff]
  constructor
  · rintro (⟨error, hrun, rfl⟩ | ⟨before, _, value, rfl, hrun, hmade⟩)
    · exact ⟨.error error, hrun, rfl⟩
    · obtain ⟨rfl, rfl⟩ := runs_pure_iff.mp hmade
      rw [List.append_nil]
      exact ⟨.ok value, hrun, rfl⟩
  · rintro ⟨error | value, hrun, rfl⟩
    · exact Or.inl ⟨error, hrun, rfl⟩
    · exact Or.inr ⟨t, [], value, (List.append_nil t).symm, hrun, runs_pure_iff.mpr ⟨rfl, rfl⟩⟩

theorem runs_bind_pure_ok_iff {action : Action α} {make : α → β} {t : Trace} {result : β} :
    (action >>= fun value => pure (make value)).Runs t (.ok result) ↔
      ∃ value, action.Runs t (.ok value) ∧ result = make value := by
  rw [runs_bind_pure_iff]
  constructor
  · rintro ⟨error | value, hrun, hmade⟩
    · cases hmade
    · exact ⟨value, hrun, Except.ok.inj hmade⟩
  · rintro ⟨value, hrun, rfl⟩
    exact ⟨.ok value, hrun, rfl⟩

theorem runs_bind_pure_error_iff {action : Action α} {make : α → β} {t : Trace} {error : BridgeError} :
    (action >>= fun value => pure (make value)).Runs t (.error error) ↔
      action.Runs t (.error error) := by
  rw [runs_bind_pure_iff]
  constructor
  · rintro ⟨error | value, hrun, hmade⟩
    · cases hmade
      exact hrun
    · cases hmade
  · intro hrun
    exact ⟨.error error, hrun, rfl⟩

/-- A check that fails ends a procedure before its next step. -/
theorem runs_guard_iff {refused : Prop} [Decidable refused] {error : BridgeError}
    {next : Unit → Action α} {t : Trace} {result : Except BridgeError α} :
    (if refused then throw error >>= next else next ()).Runs t result ↔
      (refused ∧ t = [] ∧ result = .error error) ∨ (¬refused ∧ (next ()).Runs t result) := by
  by_cases hrefused : refused
  · simp only [hrefused, if_true, not_true, false_and, or_false, true_and, runs_bind_iff,
      runs_throw_iff]
    constructor
    · rintro (⟨_, ⟨rfl, herror⟩, rfl⟩ | ⟨_, _, _, _, ⟨_, hnever⟩, _⟩)
      · cases herror
        exact ⟨rfl, rfl⟩
      · cases hnever
    · rintro ⟨rfl, rfl⟩
      exact Or.inl ⟨error, ⟨rfl, rfl⟩, rfl⟩
  · simp [hrefused]

theorem runs_guard_ok_iff {refused : Prop} [Decidable refused] {error : BridgeError}
    {next : Unit → Action α} {t : Trace} {value : α} :
    (if refused then throw error >>= next else next ()).Runs t (.ok value) ↔
      ¬refused ∧ (next ()).Runs t (.ok value) := by
  simp [runs_guard_iff]

/-- A configured value is not read. -/
theorem runs_orRead_iff {configured : Option α} {read : Action α} {t : Trace}
    {result : Except BridgeError α} :
    (orRead configured read).Runs t result ↔
      (∃ value, configured = some value ∧ t = [] ∧ result = .ok value) ∨
      (configured = none ∧ read.Runs t result) := by
  cases configured <;> simp [orRead]

/-- Nothing else is asked for instead of a configured value. -/
theorem request_eq_of_runs_orRead (request : Request) {configured : Option request.Payload}
    {t : Trace} {result : Except BridgeError request.Payload}
    (hrun : (orRead configured (ask request)).Runs t result) : ∀ x ∈ t, x.request = request := by
  rcases runs_orRead_iff.mp hrun with ⟨_, _, rfl, _⟩ | ⟨_, hask⟩
  · simp
  · obtain ⟨answer, rfl, _⟩ := runs_ask_iff.mp hask
    simp

theorem runs_orRead_error {configured : Option α} {read : Action α} {t : Trace} {error : BridgeError}
    (hrun : (orRead configured read).Runs t (.error error)) : read.Runs t (.error error) := by
  rcases runs_orRead_iff.mp hrun with ⟨_, _, _, hvalue⟩ | ⟨_, hread⟩
  · cases hvalue
  · exact hread

end Action

end RollupBridge
