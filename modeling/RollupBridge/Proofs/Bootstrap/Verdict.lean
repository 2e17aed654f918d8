import RollupBridge.Proofs.Bootstrap.Milestones

namespace RollupBridge

/-- The exchanges before anything is sent. -/
def Trace.beforeSending (t : Trace) : Trace := t.takeWhile fun x => !x.request.isSend

theorem Trace.beforeSending_append {t : Trace} (hsend : ∀ x ∈ t, x.request.isSend = false)
    (rest : Trace) : (t ++ rest).beforeSending = t ++ rest.beforeSending := by
  refine List.takeWhile_append_of_pos ?_
  intro x hx
  rw [hsend x hx]
  rfl

namespace Bootstrap

variable {b : Bootstrap} {codes : BridgeBytecodes} {t t' : Trace} {s s' : InitState}
  {result result' : Except BridgeError BootstrapOutcome}

/-- What is sent is decided by the answers before. -/
theorem sign_unique {rest rest' : Trace} {signed signed' : Except BridgeError SignedBootstrap}
    (hsign : (b.sign codes).Runs t signed) (hsign' : (b.sign codes).Runs t' signed')
    (hreads : Trace.Agree (t ++ rest).beforeSending (t' ++ rest').beforeSending) :
    signed = signed' := by
  rw [Trace.beforeSending_append (isSend_eq_false_of_sign hsign),
    Trace.beforeSending_append (isSend_eq_false_of_sign hsign')] at hreads
  exact (asks_sign.runs_unique hsign hsign' hreads).2

/-- Two bootstraps with one and the same outcome of the publication reach the same verdict on it. -/
theorem Ending.verdict {plan : BootstrapPlan} {publication deployment deployment' : Submission.Result}
    (hend : b.Ending plan publication deployment t result s)
    (hend' : b.Ending plan publication deployment' t' result' s') :
    (s = .unpublished ∧ s' = .unpublished ∧ ∃ error, result = .error error ∧ result' = .error error) ∨
      (.bytecodesPublished ≤ s ∧ .bytecodesPublished ≤ s') := by
  by_cases hpublished : ∃ outcome, publication = .ok outcome ∧ outcome.success = true
  · exact Or.inr ⟨hend.published_iff.mpr hpublished, hend'.published_iff.mpr hpublished⟩
  · have hs : s = .unpublished := by
      simpa [InitState.bytecodesPublished_le_iff] using mt hend.published_iff.mp hpublished
    have hs' : s' = .unpublished := by
      simpa [InitState.bytecodesPublished_le_iff] using mt hend'.published_iff.mp hpublished
    subst hs hs'
    refine Or.inl ⟨rfl, rfl, ?_⟩
    cases hend with
    | publicationLost error =>
      cases hend'
      exact ⟨_, rfl, rfl⟩
    | @publicationReverted publication hreverted =>
      cases hend'
      exact ⟨_, rfl, rfl⟩

/-- The verdict on the publication does not depend on the deployment. Two bootstraps that are answered
alike before anything is sent, signatures included, and alike by the publication, end in the same
error with nothing published, or both end with the bytecodes published. -/
theorem verdict_ignores_deployment
    (hrun : (b.deploy codes).Runs .unpublished t result s)
    (hrun' : (b.deploy codes).Runs .unpublished t' result' s')
    (hreads : Trace.Agree t.beforeSending t'.beforeSending)
    (hpublication : Trace.Agree (Trace.on .first t) (Trace.on .first t')) :
    (s = .unpublished ∧ s' = .unpublished ∧ ∃ error, result = .error error ∧ result' = .error error) ∨
      (.bytecodesPublished ≤ s ∧ .bytecodesPublished ≤ s') := by
  rw [← List.append_nil t, ← List.append_nil t'] at hreads
  cases course_of_runs hrun with
  | refused hstate => exact absurd rfl hstate
  | unsigned hsign =>
    cases course_of_runs hrun' with
    | refused hstate => exact absurd rfl hstate
    | unsigned hsign' =>
      cases sign_unique hsign hsign' hreads
      exact Or.inl ⟨rfl, rfl, _, rfl, rfl⟩
    | submitted hsign' =>
      rw [List.append_assoc] at hreads
      cases sign_unique hsign hsign' hreads
  | @submitted signing both final signed _ _ _ _ hsign _ hfirst _ hend =>
    rw [List.append_assoc signing] at hreads
    cases course_of_runs hrun' with
    | refused hstate => exact absurd rfl hstate
    | unsigned hsign' => cases sign_unique hsign hsign' hreads
    | @submitted signing' both' final' signed' _ _ _ _ hsign' _ hfirst' _ hend' =>
      rw [List.append_assoc signing'] at hreads
      cases sign_unique hsign hsign' hreads
      rw [on_submitted (lane_eq_of_sign hsign) hend.lane_eq (by decide),
        on_submitted (lane_eq_of_sign hsign') hend'.lane_eq (by decide)] at hpublication
      cases hfirst.result_unique hfirst' hpublication
      exact hend.verdict hend'

/-- The deployment is sent and confirmed in one run and never reaches the node in the other. -/
theorem verdict_ignores_deployment_of_unsent :
    let run := (plain.deploy .plain).recorded .unpublished (.plain [])
    let run' := (plain.deploy .plain).recorded .unpublished (.plain [(.sendNonce 1, .connection "")])
    (plain.deploy .plain).Runs .unpublished run.1 run.2.1 .initialized ∧
      (plain.deploy .plain).Runs .unpublished run'.1 run'.2.1 .bytecodesPublished ∧
      Trace.Agree run.1.beforeSending run'.1.beforeSending ∧
      Trace.Agree (Trace.on .first run.1) (Trace.on .first run'.1) ∧
      InitState.bytecodesPublished ≤ .initialized ∧
      InitState.bytecodesPublished ≤ .bytecodesPublished := by
  intro run run'
  have hrun : (plain.deploy .plain).Runs .unpublished run.1 run.2.1 .initialized :=
    StateAction.runs_recorded ..
  have hrun' : (plain.deploy .plain).Runs .unpublished run'.1 run'.2.1 .bytecodesPublished :=
    StateAction.runs_recorded ..
  have hreads : run.1.beforeSending = run'.1.beforeSending := by rfl
  have hpublication : Trace.on .first run.1 = Trace.on .first run'.1 := by rfl
  have hreads : Trace.Agree run.1.beforeSending run'.1.beforeSending := by
    rw [hreads]
    exact Trace.agree_refl _
  have hpublication : Trace.Agree (Trace.on .first run.1) (Trace.on .first run'.1) := by
    rw [hpublication]
    exact Trace.agree_refl _
  rcases verdict_ignores_deployment hrun hrun' hreads hpublication with ⟨hlost, _⟩ | hpublished
  · cases hlost
  · exact ⟨hrun, hrun', hreads, hpublication, hpublished⟩

end Bootstrap

end RollupBridge
