import RollupBridge.Proofs.Bootstrap.Milestones

namespace RollupBridge

/-- A submission that is lost is lost with the error of its send or of its wait. -/
theorem Submission.Runs.mem_of_error {s : Submission} {lane : Lane} {t : Trace} {error : RpcError}
    (hrun : s.Runs lane t (.error error)) :
    ∃ request, (⟨lane, request, .error error⟩ : Exchange) ∈ t := by
  cases hrun with
  | refused => exact ⟨.send s.tx, List.mem_singleton.mpr rfl⟩
  | awaited hash => exact ⟨.wait hash s.confirmations, by simp⟩

namespace Bootstrap

variable {b : Bootstrap} {codes : BridgeBytecodes} {t : Trace} {s s' : InitState} {error : BridgeError}

/-- A bridge that is not unpublished is refused. -/
theorem runs_refused (b : Bootstrap) (codes : BridgeBytecodes) (hstate : s ≠ .unpublished) :
    (b.deploy codes).Runs s [] (.error (.initState ⟨s, .bytecodesPublished⟩)) s := by
  cases s with
  | unpublished => exact absurd rfl hstate
  | bytecodesPublished => exact .done _
  | initialized => exact .done _
  | governanceConfigured => exact .done _

/-- Where a bootstrap that published can fail with an error that says that it may succeed later: the
deployment was lost, or the counterpart could not be read. -/
theorem Course.retryable_after_publication
    (hcourse : b.Course codes .unpublished t (.error error) s') (hretryable : error.isRetryable = true)
    (hpublished : s' ≠ .unpublished) :
    s' = .bytecodesPublished ∧ ∃ reason, error = .rpc reason ∧
      ((∃ request, (⟨.second, request, .error reason⟩ : Exchange) ∈ t) ∨
        b.counterpartRead (.error reason) ∈ t) := by
  cases hcourse with
  | refused hstate => exact absurd rfl hstate
  | unsigned => exact absurd rfl hpublished
  | @submitted signing both final _ _ _ _ _ _ _ _ hdeployment hend =>
    cases hend with
    | publicationLost => exact absurd rfl hpublished
    | publicationReverted => exact absurd rfl hpublished
    | deploymentLost _ reason =>
      obtain ⟨request, hmem⟩ := hdeployment.mem_of_error
      have hmem := Trace.mem_of_mem_on hmem
      exact ⟨rfl, reason, rfl, Or.inl ⟨request, by simp [hmem]⟩⟩
    | deploymentReverted => cases hretryable
    | counterpartUnread _ _ hread =>
      rcases View.interpret_eq_error hread with ⟨reason, rfl, rfl⟩ | ⟨text, rfl⟩
      · exact ⟨rfl, reason, rfl, Or.inr (by simp)⟩
      · cases hretryable
    | counterpartDiffers => cases hretryable

/-- After an error that says that it may succeed later, a bootstrap is let through again exactly if
the publication was not awaited with success. Otherwise the bridge stays published, and each
repetition is refused. -/
theorem repeatable_iff_not_published
    (hrun : (b.deploy codes).Runs .unpublished t (.error error) s')
    (hretryable : error.isRetryable = true) :
    (s' = .unpublished ↔ ¬Trace.Succeeds .first t) ∧
      (s' = .unpublished ↔ ∀ codes' t' result s'', (b.deploy codes').Runs s' t' result s'' →
        ∀ reason, result ≠ .error (.initState reason)) ∧
      (s' ≠ .unpublished → s' = .bytecodesPublished ∧ ∃ reason, error = .rpc reason ∧
        ((∃ request, (⟨.second, request, .error reason⟩ : Exchange) ∈ t) ∨
          b.counterpartRead (.error reason) ∈ t)) := by
  have hcourse := course_of_runs hrun
  refine ⟨?_, ?_, hcourse.retryable_after_publication hretryable⟩
  · rw [← hcourse.published_iff, InitState.bytecodesPublished_le_iff, ne_eq, Decidable.not_not]
  · constructor
    · rintro rfl codes' t' result s'' hagain reason rfl
      exact (course_of_runs hagain).initState_error.1 rfl
    · intro hnever
      by_cases hstate : s' = .unpublished
      · exact hstate
      · exact absurd rfl (hnever codes [] _ s' (runs_refused b codes hstate) _)

/-- A deployment that the node could not be reached for, after a publication that succeeded. -/
theorem repeatable_iff_not_published_of_unsent :
    let run := (plain.deploy .plain).recorded .unpublished (.plain [(.sendNonce 1, .connection "")])
    (plain.deploy .plain).Runs .unpublished run.1 (.error (.rpc (.connection ""))) run.2.2 ∧
      BridgeError.isRetryable (.rpc (.connection "")) = true ∧ run.2.2 = .bytecodesPublished ∧
      Trace.Succeeds .first run.1 := by
  intro run
  have hrun : (plain.deploy .plain).Runs .unpublished run.1 (.error (.rpc (.connection "")))
      .bytecodesPublished := StateAction.runs_recorded ..
  have hpublished := (repeatable_iff_not_published hrun rfl).1
  exact ⟨hrun, rfl, rfl, by simpa using hpublished⟩

/-- A bootstrap whose deployment is not confirmed in time says that it may succeed later, and leaves a
bridge that refuses it. -/
theorem retryable_leaves_published :
    ¬∀ (b : Bootstrap) (codes : BridgeBytecodes) (t : Trace) (error : BridgeError) (s' : InitState),
      (b.deploy codes).Runs .unpublished t (.error error) s' → error.isRetryable = true →
        s' = .unpublished := by
  intro hclaim
  have hrun := StateAction.runs_recorded (plain.deploy .plain) .unpublished
    (.plain [(.waitNonce 1, .timeout "")])
  have hstate : InitState.bytecodesPublished = .unpublished :=
    hclaim plain .plain _ (.rpc (.timeout "")) _ hrun rfl
  cases hstate

end Bootstrap

end RollupBridge
