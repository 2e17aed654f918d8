import RollupBridge.Proofs.Bootstrap.Obstacles

namespace RollupBridge.Bootstrap

variable {b : Bootstrap} {codes : BridgeBytecodes} {t : Trace} {s s' : InitState}
  {result : Except BridgeError BootstrapOutcome}

/-- An obstacle ends a bootstrap with an error before anything is signed or sent. -/
theorem Course.obstructed (hcourse : b.Course codes s t result s') (hobstacle : b.Obstacle codes t) :
    (∀ x ∈ t, x.request.isSign = false ∧ x.request.isSend = false) ∧
      (∃ error, result = .error error) ∧ s' = s := by
  cases hcourse with
  | refused => exact ⟨by simp, ⟨_, rfl⟩, rfl⟩
  | unsigned hsign =>
    rw [← List.append_nil t] at hobstacle
    obtain ⟨error, _, hprepare⟩ := unprepared_of_obstacle hsign (by simp) hobstacle
    refine ⟨?_, ⟨_, rfl⟩, rfl⟩
    intro x hx
    have hread := (asks_prepare.exchanges hprepare x hx).2.1
    exact ⟨Request.isSign_eq_false_of_isRead hread, Request.isSend_eq_false_of_isRead hread⟩
  | @submitted signing both final _ _ _ _ _ hsign hmain hpublication hdeployment hend =>
    have hrest := not_preparatory_of_submitted hmain hpublication hdeployment hend
    obtain ⟨error, herror, _⟩ := unprepared_of_obstacle hsign hrest hobstacle
    cases herror

/-- A signature that is refused ends a bootstrap with its error before anything is sent. -/
theorem Course.unsigned_error {lane : Lane} {tx : L1Transaction} {reason : RpcError}
    (hcourse : b.Course codes s t result s')
    (hmem : (⟨lane, .sign tx, .error reason⟩ : Exchange) ∈ t) :
    (∀ x ∈ t, x.request.isSend = false) ∧ result = .error (.rpc reason) ∧ s' = s := by
  cases hcourse with
  | refused => cases hmem
  | unsigned hsign =>
    obtain ⟨_, error, herror, hreason⟩ := asks_sign.ends_at_failure hsign hmem (.error _ _ _)
    cases herror
    exact ⟨isSend_eq_false_of_sign hsign, congrArg _ (hreason reason rfl), rfl⟩
  | @submitted signing both final _ _ _ _ _ hsign hmain hpublication hdeployment hend =>
    rcases List.mem_append.mp hmem with hmem | hmem
    · obtain ⟨_, error, herror, _⟩ := asks_sign.ends_at_failure hsign hmem (.error _ _ _)
      cases herror
    rcases List.mem_append.mp hmem with hmem | hmem
    · have hother := Submission.Runs.both_not_read_not_sign hmain hpublication hdeployment _ hmem
      cases hother.2
    · cases hend.isRead _ hmem

/-- An unpublished bridge for which nothing is sent met an obstacle, or a signature was refused. -/
theorem Course.cause_of_unsent (hcourse : b.Course codes .unpublished t result s')
    (hunsent : ∀ x ∈ t, x.request.isSend = false) :
    b.Obstacle codes t ∨
      ∃ lane tx reason, (⟨lane, .sign tx, .error reason⟩ : Exchange) ∈ t := by
  cases hcourse with
  | refused hstate => exact absurd rfl hstate
  | unsigned hsign =>
    cases signing_of_runs hsign with
    | unprepared hprepare => exact Or.inl (obstacle_of_unprepared hprepare)
    | @publicationUnsigned _ prepared hprepare reason =>
      exact Or.inr ⟨.main, prepared.publication, reason, by simp⟩
    | @deploymentUnsigned _ prepared hprepare publication reason =>
      exact Or.inr ⟨.main, prepared.deployment, reason, by simp⟩
  | @submitted signing both final _ _ _ _ _ hsign hmain hpublication hdeployment hend =>
    obtain ⟨answer, answer', hsent⟩ :=
      Submission.Runs.both_filter_isSend hmain hpublication hdeployment
    have hboth : both.filter (·.request.isSend) = [] := by
      refine Trace.filter_eq_nil ?_
      intro x hx
      exact hunsent x (by simp [hx])
    rw [hboth] at hsent
    cases hsent.length_eq

theorem two_le_confirmations {config : BootstrapConfig} (hvalid : config.validate = .ok ()) :
    2 ≤ config.confirmations.toNat := by
  have hconfirmations : ¬config.confirmations < BootstrapConfig.minConfirmations := by
    intro hfew
    unfold BootstrapConfig.validate at hvalid
    rw [if_pos hfew] at hvalid
    cases hmailbox : config.mailbox.requireNonZero "mailbox-address" with
    | error error =>
      rw [hmailbox] at hvalid
      cases hvalid
    | ok u =>
      rw [hmailbox] at hvalid
      cases hvalid
  exact Nat.le_of_not_lt hconfirmations

/-- A bootstrap that was created waits for at least two confirmations. -/
theorem two_le_confirmations_of_create {bridge : BridgeConfig} {config : BootstrapConfig}
    {account : Address} {hasher : BytecodeHasher}
    (hcreate : (create bridge config account).map (fun new => { new with hasher }) = .ok b) :
    2 ≤ b.config.confirmations.toNat := by
  rw [create] at hcreate
  cases hbridge : bridge.validate with
  | error error =>
    rw [hbridge] at hcreate
    cases hcreate
  | ok u =>
    cases hconfig : config.validate with
    | error error =>
      rw [hbridge, hconfig] at hcreate
      cases hcreate
    | ok u =>
      rw [hbridge, hconfig] at hcreate
      cases hcreate
      exact two_le_confirmations hconfig

/-- A bootstrap sends both of its transactions or none. What is in its way ends it before anything is
signed, a refused signature before anything is sent, and in both cases the state stays as it is. Nothing
else keeps the transactions of an unpublished bridge from being sent. -/
theorem sends_both_or_none {bridge : BridgeConfig} {config : BootstrapConfig} {account : Address}
    {hasher : BytecodeHasher}
    (hcreate : (create bridge config account).map (fun new => { new with hasher }) = .ok b)
    (hrun : (b.deploy codes).Runs s t result s') :
    b.Staged t ∧
      ((∀ x ∈ t, x.request.isSend = false) ∨
        2 ≤ b.config.confirmations.toNat ∧
          ∃ nonce publication deployment signedPublication signedDeployment,
            b.Broadcast t nonce publication deployment signedPublication signedDeployment) ∧
      (b.Obstacle codes t → (∀ x ∈ t, x.request.isSign = false ∧ x.request.isSend = false) ∧
        (∃ error, result = .error error) ∧ s' = s) ∧
      (∀ lane tx reason, (⟨lane, .sign tx, .error reason⟩ : Exchange) ∈ t →
        (∀ x ∈ t, x.request.isSend = false) ∧ result = .error (.rpc reason) ∧ s' = s) ∧
      (s = .unpublished → (∀ x ∈ t, x.request.isSend = false) →
        b.Obstacle codes t ∨
          ∃ lane tx reason, (⟨lane, .sign tx, .error reason⟩ : Exchange) ∈ t) := by
  have hcourse := course_of_runs hrun
  have hconfirmations := two_le_confirmations_of_create hcreate
  refine ⟨hcourse.staged, hcourse.broadcast.imp_right (And.intro hconfirmations),
    hcourse.obstructed, ?_, ?_⟩
  · intro lane tx reason hmem
    exact hcourse.unsigned_error hmem
  · rintro rfl hunsent
    exact hcourse.cause_of_unsent hunsent

/-- The publication is rejected, and the deployment is sent all the same. -/
theorem sends_both_or_none_of_rejected :
    let b : Bootstrap := { plain with addressHash := keccak256 }
    let run := (b.deploy .plain).recorded .unpublished (.plain [(.sendNonce 0, .rejected "")])
    (create plain.bridge plain.config plain.account).map (fun new => { new with hasher := plain.hasher })
        = .ok b ∧
      (b.deploy .plain).Runs .unpublished run.1 run.2.1 run.2.2 ∧
      ∃ nonce publication deployment signedPublication signedDeployment,
        b.Broadcast run.1 nonce publication deployment signedPublication signedDeployment := by
  intro b run
  have hcreate : (create plain.bridge plain.config plain.account).map
      (fun new => { new with hasher := plain.hasher }) = .ok b := by rfl
  have hrun : (b.deploy .plain).Runs .unpublished run.1 run.2.1 run.2.2 := StateAction.runs_recorded ..
  have hcount : run.1.countP (·.request.isSend) = 2 := by decide +kernel
  rcases (sends_both_or_none hcreate hrun).2.1 with hnone | ⟨_, hbroadcast⟩
  · have hzero : run.1.countP (·.request.isSend) = 0 := by
      rw [List.countP_eq_zero]
      intro x hx
      simp [hnone x hx]
    cases hzero.symm.trans hcount
  · exact ⟨hcreate, hrun, hbroadcast⟩

end RollupBridge.Bootstrap
