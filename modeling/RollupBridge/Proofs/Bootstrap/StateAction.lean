import RollupBridge.Bootstrap.Deploy
import RollupBridge.Proofs.L1.Action
import RollupBridge.Proofs.L1.Recording

namespace RollupBridge.StateAction

variable {α β ε : Type}

/-- The runs of a procedure from one state of the bridge to another. A run that ends in an error
ends in a state, too. -/
def Runs (action : StateAction α) (before : InitState) (t : Trace) (result : Except BridgeError α)
    (after : InitState) : Prop :=
  Program.Runs (action.run.run before) t (result, after)

private theorem runs_iff_of_run_eq {action : StateAction α} {s s₁ s' : InitState} {t : Trace}
    {result₁ result : Except BridgeError α} (hrun : action.run.run s = .done (result₁, s₁)) :
    action.Runs s t result s' ↔ t = [] ∧ result = result₁ ∧ s' = s₁ := by
  rw [Runs, hrun, Program.runs_done_iff, Prod.mk.injEq]

@[simp]
theorem runs_pure_iff {value : α} {s s' : InitState} {t : Trace} {result : Except BridgeError α} :
    (pure value : StateAction α).Runs s t result s' ↔ t = [] ∧ result = .ok value ∧ s' = s :=
  runs_iff_of_run_eq rfl

@[simp]
theorem runs_throw_iff {error : BridgeError} {s s' : InitState} {t : Trace}
    {result : Except BridgeError α} :
    (throw error : StateAction α).Runs s t result s' ↔ t = [] ∧ result = .error error ∧ s' = s :=
  runs_iff_of_run_eq rfl

@[simp]
theorem runs_get_iff {s s' : InitState} {t : Trace} {result : Except BridgeError InitState} :
    (getThe InitState : StateAction InitState).Runs s t result s' ↔
      t = [] ∧ result = .ok s ∧ s' = s :=
  runs_iff_of_run_eq rfl

/-- A lifted procedure leaves the state as it is. -/
@[simp]
theorem runs_lift_iff {action : Action α} {s s' : InitState} {t : Trace}
    {result : Except BridgeError α} :
    (lift action).Runs s t result s' ↔ action.Runs t result ∧ s' = s := by
  refine Program.runs_bind_iff.trans ?_
  constructor
  · rintro ⟨before, after, value, rfl, hrun, hpure⟩
    obtain ⟨rfl, heq⟩ := Program.runs_done_iff.mp hpure
    cases heq
    rw [List.append_nil]
    exact ⟨hrun, rfl⟩
  · rintro ⟨hrun, rfl⟩
    exact ⟨t, [], result, by simp, hrun, .done _⟩

private theorem run_advance {target s : InitState} :
    (advance target).run.run s =
      (match s.advance target with
        | .ok state => set state
        | .error error => throw (.initState error) : StateAction Unit).run.run s := rfl

/-- A step to the next state makes no request. Any other step fails and changes nothing. -/
theorem runs_advance_iff {target s s' : InitState} {t : Trace} {result : Except BridgeError Unit} :
    (advance target).Runs s t result s' ↔
      t = [] ∧ ((s.next? = some target ∧ result = .ok () ∧ s' = target) ∨
        (s.next? ≠ some target ∧ result = .error (.initState ⟨s, target⟩) ∧ s' = s)) := by
  by_cases hnext : s.next? = some target
  · have hrun : (advance target).run.run s = .done (.ok (), target) := by
      rw [run_advance, InitState.advance, if_pos hnext]
      rfl
    simp [runs_iff_of_run_eq hrun, hnext]
  · have hrun : (advance target).run.run s = .done (.error (.initState ⟨s, target⟩), s) := by
      rw [run_advance, InitState.advance, if_neg hnext]
      rfl
    simp [runs_iff_of_run_eq hrun, hnext]

/-- A run of two steps stops with the error of the first, or passes its value and its state to the
second. -/
theorem runs_bind_iff {action : StateAction α} {next : α → StateAction β} {s s' : InitState}
    {t : Trace} {result : Except BridgeError β} :
    (action >>= next).Runs s t result s' ↔
      (∃ error, action.Runs s t (.error error) s' ∧ result = .error error) ∨
      ∃ before after value between, t = before ++ after ∧
        action.Runs s before (.ok value) between ∧ (next value).Runs between after result s' := by
  refine Program.runs_bind_iff.trans ?_
  constructor
  · rintro ⟨before, after, ⟨intermediate, between⟩, rfl, hfirst, hthen⟩
    cases intermediate with
    | error error =>
      obtain ⟨rfl, heq⟩ := Program.runs_done_iff.mp hthen
      cases heq
      rw [List.append_nil]
      exact Or.inl ⟨error, hfirst, rfl⟩
    | ok value => exact Or.inr ⟨before, after, value, between, rfl, hfirst, hthen⟩
  · rintro (⟨error, hfirst, rfl⟩ | ⟨before, after, value, between, rfl, hfirst, hthen⟩)
    · exact ⟨t, [], (.error error, s'), by simp, hfirst, .done _⟩
    · exact ⟨before, after, (.ok value, between), rfl, hfirst, hthen⟩

theorem runs_lift_bind_iff {action : Action α} {next : α → StateAction β} {s s' : InitState}
    {t : Trace} {result : Except BridgeError β} :
    (lift action >>= next).Runs s t result s' ↔
      (∃ error, action.Runs t (.error error) ∧ result = .error error ∧ s' = s) ∨
      ∃ before after value, t = before ++ after ∧ action.Runs before (.ok value) ∧
        (next value).Runs s after result s' := by
  simp only [runs_bind_iff, runs_lift_iff]
  constructor
  · rintro (⟨error, ⟨hrun, rfl⟩, rfl⟩ | ⟨before, after, value, _, rfl, ⟨hrun, rfl⟩, hthen⟩)
    · exact Or.inl ⟨error, hrun, rfl, rfl⟩
    · exact Or.inr ⟨before, after, value, rfl, hrun, hthen⟩
  · rintro (⟨error, hrun, rfl, rfl⟩ | ⟨before, after, value, rfl, hrun, hthen⟩)
    · exact Or.inl ⟨error, ⟨hrun, rfl⟩, rfl⟩
    · exact Or.inr ⟨before, after, value, s, rfl, ⟨hrun, rfl⟩, hthen⟩

theorem runs_check_bind_iff {wrap : ε → BridgeError} {checked : Except ε α}
    {next : α → StateAction β} {s s' : InitState} {t : Trace} {result : Except BridgeError β} :
    (lift (Action.ofResult wrap checked) >>= next).Runs s t result s' ↔
      (∃ error, checked = .error error ∧ t = [] ∧ result = .error (wrap error) ∧ s' = s) ∨
      ∃ value, checked = .ok value ∧ (next value).Runs s t result s' := by
  cases checked with
  | error error =>
    have hrun : (lift (Action.ofResult wrap (.error error)) >>= next).run.run s =
        .done (.error (wrap error), s) := rfl
    rw [runs_iff_of_run_eq hrun]
    simp
  | ok value =>
    have hrun : (lift (Action.ofResult wrap (.ok value)) >>= next).run.run s =
        (next value).run.run s := rfl
    have hsame : (lift (Action.ofResult wrap (.ok value)) >>= next).Runs s t result s' ↔
        (next value).Runs s t result s' := by
      rw [Runs, Runs, hrun]
    rw [hsame]
    simp

/-- A step to the next state passes on. -/
theorem runs_advance_bind_iff {target : InitState} {next : Unit → StateAction β} {s s' : InitState}
    {t : Trace} {result : Except BridgeError β} (hnext : s.next? = some target) :
    (advance target >>= next).Runs s t result s' ↔ (next ()).Runs target t result s' := by
  change (Program.bind ((advance target).run.run s) _).Runs t _ ↔ _
  rw [run_advance, InitState.advance, if_pos hnext]
  rfl

/-- A check that fails ends a procedure in the state in which it is made. -/
theorem runs_guard_iff {refused : Prop} [Decidable refused] {error : BridgeError}
    {next : Unit → StateAction α} {s s' : InitState} {t : Trace} {result : Except BridgeError α} :
    (if refused then throw error >>= next else next ()).Runs s t result s' ↔
      (refused ∧ t = [] ∧ result = .error error ∧ s' = s) ∨
      (¬refused ∧ (next ()).Runs s t result s') := by
  by_cases hrefused : refused
  · simp only [hrefused, if_true, not_true, false_and, or_false, true_and, runs_bind_iff,
      runs_throw_iff]
    constructor
    · rintro (⟨_, ⟨rfl, herror, rfl⟩, rfl⟩ | ⟨_, _, _, _, _, ⟨_, hnever, _⟩, _⟩)
      · cases herror
        exact ⟨rfl, rfl, rfl⟩
      · cases hnever
    · rintro ⟨rfl, rfl, rfl⟩
      exact Or.inl ⟨error, ⟨rfl, rfl, rfl⟩, rfl⟩
  · simp [hrefused]

/-- A procedure carried out by the L1 in memory: its exchanges, its result and the state it ends in. -/
def recorded (action : StateAction α) (s : InitState) (l1 : Simulation) :
    Trace × Except BridgeError α × InitState :=
  let record := (action.run.run s).record Simulation.answer l1
  (record.1, record.2.1)

/-- What the L1 in memory carries out is a run. -/
theorem runs_recorded (action : StateAction α) (s : InitState) (l1 : Simulation) :
    action.Runs s (action.recorded s l1).1 (action.recorded s l1).2.1 (action.recorded s l1).2.2 :=
  Program.runs_record Simulation.answer (action.run.run s) l1

end RollupBridge.StateAction
