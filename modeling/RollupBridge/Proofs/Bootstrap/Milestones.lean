import RollupBridge.Proofs.Bootstrap.Course
import RollupBridge.Proofs.L1.Agreement

namespace RollupBridge

namespace InitState

@[simp]
theorem le_refl (s : InitState) : s ≤ s := Nat.le_refl _

theorem le_trans {s t u : InitState} (hst : s ≤ t) (htu : t ≤ u) : s ≤ u := Nat.le_trans hst htu

@[simp]
theorem unpublished_le (s : InitState) : .unpublished ≤ s := Nat.zero_le _

theorem bytecodesPublished_le_iff {s : InitState} : .bytecodesPublished ≤ s ↔ s ≠ .unpublished := by
  cases s <;> decide

theorem eq_unpublished_of_le {s : InitState} (hle : s ≤ .unpublished) : s = .unpublished := by
  cases s <;> first | rfl | exact absurd hle (by decide)

end InitState

/-- The submission on a lane was awaited with success. -/
def Trace.Succeeds (lane : Lane) (t : Trace) : Prop :=
  ∃ hash confirmations outcome,
    (⟨lane, .wait hash confirmations, .ok outcome⟩ : Exchange) ∈ t ∧ outcome.success = true

theorem Trace.succeeds_on_iff {lane : Lane} {t : Trace} :
    Trace.Succeeds lane (Trace.on lane t) ↔ Trace.Succeeds lane t := by
  simp [Succeeds, on]

theorem Trace.not_succeeds_of_main {lane : Lane} {t : Trace} (hmain : ∀ x ∈ t, x.lane = .main)
    (hlane : .main ≠ lane) : ¬Trace.Succeeds lane t := by
  rintro ⟨hash, confirmations, outcome, hmem, _⟩
  exact hlane (hmain _ hmem).symm

theorem Trace.Succeeds.append_right {lane : Lane} {t : Trace} (hsucceeds : Trace.Succeeds lane t)
    (rest : Trace) : Trace.Succeeds lane (t ++ rest) := by
  obtain ⟨hash, confirmations, outcome, hmem, hsuccess⟩ := hsucceeds
  exact ⟨hash, confirmations, outcome, List.mem_append_left _ hmem, hsuccess⟩

theorem Submission.Runs.succeeds_iff {s : Submission} {lane : Lane} {t : Trace}
    {result : Submission.Result} (hrun : s.Runs lane t result) :
    Trace.Succeeds lane t ↔ ∃ outcome, result = .ok outcome ∧ outcome.success = true := by
  cases hrun with
  | refused error => simp [Trace.Succeeds]
  | awaited hash result =>
    constructor
    · rintro ⟨_, _, outcome, hmem, hsuccess⟩
      rw [List.mem_cons, List.mem_singleton] at hmem
      rcases hmem with hsent | hwaited
      · cases hsent
      · cases hwaited
        exact ⟨outcome, rfl, hsuccess⟩
    · rintro ⟨outcome, rfl, hsuccess⟩
      exact ⟨hash, s.confirmations, outcome, by simp, hsuccess⟩

namespace Bootstrap

/-- The plan that a call makes: it is made of what is read after the chain ID. -/
def Plans (b : Bootstrap) (codes : BridgeBytecodes) (t : Trace) (plan : BootstrapPlan) : Prop :=
  ∃ planning rest, t = ⟨.main, .chainId, .ok b.bridge.chainId⟩ :: (planning ++ rest) ∧
    (b.plan codes).Runs planning (.ok plan)

/-- A deployment that succeeded, and then a counterpart that is the proxy of the plan. -/
def Confirms (b : Bootstrap) (codes : BridgeBytecodes) (t : Trace) : Prop :=
  ∃ plan earlier output, b.Plans codes t plan ∧
    t = earlier ++ [b.counterpartRead (.ok output)] ∧ Trace.Succeeds .second earlier ∧
    L1Bridge.l2Bridge.decodeOutput output = some plan.addresses.proxy

variable {b : Bootstrap} {codes : BridgeBytecodes} {t : Trace} {s s' : InitState}
  {result : Except BridgeError BootstrapOutcome}

/-- A call makes one plan. -/
theorem Plans.unique {plan plan' : BootstrapPlan} (hplan : b.Plans codes t plan)
    (hplan' : b.Plans codes t plan') : plan = plan' := by
  obtain ⟨planning, rest, rfl, hrun⟩ := hplan
  obtain ⟨planning', rest', heq, hrun'⟩ := hplan'
  have hsame : planning ++ rest = planning' ++ rest' := (List.cons.inj heq).2
  have hagree : Trace.Agree (planning ++ rest) (planning' ++ rest') := by
    rw [hsame]
    exact Trace.agree_refl _
  obtain ⟨_, hresult⟩ := asks_plan.runs_unique hrun hrun' hagree
  cases hresult
  rfl

theorem Prepared.plans {prepared : PreparedBootstrap} {nonce gasLimit : Uint 64}
    (hprepared : b.Prepared codes t prepared nonce gasLimit) (rest : Trace) :
    b.Plans codes (t ++ rest) prepared.plan := by
  obtain ⟨planning, reading, rfl, hplan, _⟩ := hprepared.reads
  exact ⟨planning, _, by rw [List.cons_append, List.append_assoc], hplan⟩

/-- What is signed belongs to the plan of the call. -/
theorem plans_of_signed {signed : SignedBootstrap} (hsign : (b.sign codes).Runs t (.ok signed))
    (rest : Trace) : b.Plans codes (t ++ rest) signed.plan := by
  cases signing_of_runs hsign with
  | signed hprepare publication deployment =>
    obtain ⟨nonce, gasLimit, hprepared⟩ := prepared_of_runs hprepare
    rw [List.append_assoc]
    exact hprepared.plans _

/-- After the submissions only the counterpart is asked for, and by the procedure itself. -/
theorem Ending.lane_eq {plan : BootstrapPlan} {publication deployment : Submission.Result}
    (hend : b.Ending plan publication deployment t result s') : ∀ x ∈ t, x.lane = .main := by
  cases hend <;> simp [counterpartRead]

theorem Ending.published_iff {plan : BootstrapPlan} {publication deployment : Submission.Result}
    (hend : b.Ending plan publication deployment t result s') :
    .bytecodesPublished ≤ s' ↔ ∃ outcome, publication = .ok outcome ∧ outcome.success = true := by
  rw [InitState.bytecodesPublished_le_iff]
  cases hend <;> simp [*]

/-- The bridge is initialized by a counterpart that was read after both submissions succeeded. -/
theorem Ending.initialized_iff {plan : BootstrapPlan} {publication deployment : Submission.Result}
    (hend : b.Ending plan publication deployment t result s') :
    .initialized ≤ s' ↔ (∃ outcome, publication = .ok outcome ∧ outcome.success = true) ∧
      (∃ outcome, deployment = .ok outcome ∧ outcome.success = true) ∧
      ∃ answer, t = [b.counterpartRead answer] ∧
        L1Bridge.l2Bridge.interpret answer = .ok plan.addresses.proxy := by
  have hunpublished : ¬InitState.initialized ≤ .unpublished := by decide
  have hbelow : ¬InitState.initialized ≤ .bytecodesPublished := by decide
  cases hend with
  | publicationLost => simp [hunpublished]
  | publicationReverted hreverted => simp [hunpublished, hreverted]
  | deploymentLost => simp [hbelow]
  | deploymentReverted _ hreverted => simp [hbelow, hreverted]
  | counterpartUnread _ _ hread => simp [hbelow, counterpartRead, hread]
  | @counterpartDiffers _ _ _ _ answer counterpart hread hdiffers =>
    have hother : L1Bridge.l2Bridge.interpret answer ≠ .ok plan.addresses.proxy := by
      rw [hread]
      intro hsame
      exact hdiffers (Except.ok.inj hsame)
    simp [hbelow, counterpartRead, hother]
  | completed hpublished hdeployed hread => simp [counterpartRead, hpublished, hdeployed, hread]

/-- A bootstrap leaves it to governance to take over. -/
theorem Ending.le_initialized {plan : BootstrapPlan} {publication deployment : Submission.Result}
    (hend : b.Ending plan publication deployment t result s') : s' ≤ .initialized := by
  cases hend <;> decide

/-- Settling ends in no error about the state of the bridge. -/
theorem Ending.error_ne_initState {plan : BootstrapPlan} {publication deployment : Submission.Result}
    {error : BridgeError} (hend : b.Ending plan publication deployment t (.error error) s')
    (reason : InvalidTransition) : error ≠ .initState reason := by
  cases hend with
  | publicationLost => simp
  | publicationReverted => simp
  | deploymentLost => simp
  | deploymentReverted => simp
  | counterpartUnread _ _ hread =>
    rcases View.interpret_eq_error hread with ⟨rpc, _, rfl⟩ | ⟨text, rfl⟩ <;> simp
  | counterpartDiffers => simp

/-- The counterpart is read once both submissions succeeded. -/
theorem Ending.reads_counterpart {plan : BootstrapPlan} {publication deployment : TransactionOutcome}
    (hend : b.Ending plan (.ok publication) (.ok deployment) t result s')
    (hpublished : publication.success = true) (hdeployed : deployment.success = true) :
    ∃ answer, t = [b.counterpartRead answer] := by
  cases hend with
  | publicationReverted hreverted => simp [hreverted] at hpublished
  | deploymentReverted _ hreverted => simp [hreverted] at hdeployed
  | counterpartUnread => exact ⟨_, rfl⟩
  | counterpartDiffers => exact ⟨_, rfl⟩
  | completed => exact ⟨_, rfl⟩

/-- What is asked before anything is sent belongs to no submission. -/
theorem lane_eq_of_sign {signed : Except BridgeError SignedBootstrap}
    (hsign : (b.sign codes).Runs t signed) : ∀ x ∈ t, x.lane = .main :=
  fun x hx => (asks_sign.exchanges hsign x hx).1

/-- Of the exchanges of a bootstrap, a submission has those that are on its lane. -/
theorem on_submitted {lane : Lane} {signing both final : Trace}
    (hsigning : ∀ x ∈ signing, x.lane = .main) (hfinal : ∀ x ∈ final, x.lane = .main)
    (hlane : .main ≠ lane) : Trace.on lane (signing ++ (both ++ final)) = Trace.on lane both := by
  rw [Trace.on_append, Trace.on_append, Trace.on_eq_nil hsigning hlane, Trace.on_eq_nil hfinal hlane,
    List.nil_append, List.append_nil]

theorem succeeds_submitted_iff {submission : Submission} {outcome : Submission.Result} {lane : Lane}
    {signing both final : Trace} (hsigning : ∀ x ∈ signing, x.lane = .main)
    (hfinal : ∀ x ∈ final, x.lane = .main) (hlane : .main ≠ lane)
    (hrun : submission.Runs lane (Trace.on lane both) outcome) :
    Trace.Succeeds lane (signing ++ (both ++ final)) ↔
      ∃ receipt, outcome = .ok receipt ∧ receipt.success = true := by
  rw [← Trace.succeeds_on_iff, on_submitted hsigning hfinal hlane, hrun.succeeds_iff]

/-- The bytecodes of an unpublished bridge become published exactly if the publication was awaited
with success. -/
theorem Course.published_iff (hcourse : b.Course codes .unpublished t result s') :
    .bytecodesPublished ≤ s' ↔ Trace.Succeeds .first t := by
  cases hcourse with
  | refused hstate => exact absurd rfl hstate
  | unsigned hsign =>
    have hnever : ¬Trace.Succeeds .first t :=
      Trace.not_succeeds_of_main (lane_eq_of_sign hsign) (by decide)
    simp [InitState.bytecodesPublished_le_iff, hnever]
  | submitted hsign _ hpublication _ hend =>
    rw [succeeds_submitted_iff (lane_eq_of_sign hsign) hend.lane_eq (by decide) hpublication,
      hend.published_iff]

/-- An unpublished bridge becomes initialized exactly if the publication was awaited with success and
the counterpart that was read later confirmed the deployment. -/
theorem Course.initialized_iff (hcourse : b.Course codes .unpublished t result s') :
    .initialized ≤ s' ↔ Trace.Succeeds .first t ∧ b.Confirms codes t := by
  cases hcourse with
  | refused hstate => exact absurd rfl hstate
  | unsigned hsign =>
    have hnever : ¬Trace.Succeeds .first t :=
      Trace.not_succeeds_of_main (lane_eq_of_sign hsign) (by decide)
    have hbelow : ¬InitState.initialized ≤ .unpublished := by decide
    simp [hbelow, hnever]
  | @submitted signing both final signed publication deployment _ _ hsign _ hpublication hdeployment
      hend =>
    have hsigning := lane_eq_of_sign hsign
    rw [hend.initialized_iff,
      succeeds_submitted_iff hsigning hend.lane_eq (by decide) hpublication]
    refine and_congr_right fun hpublished => ?_
    constructor
    · rintro ⟨hdeployed, answer, rfl, hread⟩
      obtain ⟨output, rfl, hdecode⟩ := View.interpret_eq_ok_iff.mp hread
      have hearlier : Trace.Succeeds .second (signing ++ (both ++ [])) :=
        (succeeds_submitted_iff hsigning (by simp) (by decide) hdeployment).mpr hdeployed
      rw [List.append_nil] at hearlier
      exact ⟨signed.plan, signing ++ both, output, plans_of_signed hsign _, by simp, hearlier, hdecode⟩
    · rintro ⟨plan, earlier, output, hplan, ht, hearlier, hdecode⟩
      have hsame : signed.plan = plan := (plans_of_signed hsign _).unique hplan
      subst hsame
      have hdeployed : ∃ receipt, deployment = .ok receipt ∧ receipt.success = true := by
        rw [← succeeds_submitted_iff hsigning hend.lane_eq (by decide) hdeployment, ht]
        exact hearlier.append_right _
      refine ⟨hdeployed, .ok output, ?_, View.interpret_eq_ok_iff.mpr ⟨output, rfl, hdecode⟩⟩
      obtain ⟨publication, rfl, hpublished⟩ := hpublished
      obtain ⟨deployment, rfl, hdeployed⟩ := hdeployed
      obtain ⟨answer, rfl⟩ := hend.reads_counterpart hpublished hdeployed
      -- both are the last exchange of the same trace
      have hlast := congrArg List.getLast? ht
      simpa using hlast

/-- Governance is out of reach of a bootstrap. -/
theorem Course.le_initialized (hcourse : b.Course codes .unpublished t result s') :
    s' ≤ .initialized := by
  cases hcourse with
  | refused hstate => exact absurd rfl hstate
  | unsigned => decide
  | submitted _ _ _ _ hend => exact hend.le_initialized

/-- A bootstrap that reports an outcome has initialized the bridge. -/
theorem Course.eq_initialized_of_ok {outcome : BootstrapOutcome}
    (hcourse : b.Course codes s t (.ok outcome) s') : s = .unpublished ∧ s' = .initialized := by
  cases hcourse with
  | submitted _ _ _ _ hend =>
    cases hend
    exact ⟨rfl, rfl⟩

/-- A bootstrap complains about the state of the bridge only before it asks anything: its own steps
to the next states cannot fail. -/
theorem Course.initState_error {error : InvalidTransition}
    (hcourse : b.Course codes s t (.error (.initState error)) s') :
    s ≠ .unpublished ∧ error = ⟨s, .bytecodesPublished⟩ ∧ t = [] := by
  generalize hresult : (Except.error (.initState error) : Except BridgeError BootstrapOutcome) = result
    at hcourse
  cases hcourse with
  | refused hstate =>
    cases hresult
    exact ⟨hstate, rfl, rfl⟩
  | unsigned hsign =>
    cases hresult
    exact absurd rfl (raises_sign _ _ hsign error)
  | submitted _ _ _ _ hend =>
    subst hresult
    exact absurd rfl (hend.error_ne_initState error)

end Bootstrap

end RollupBridge
