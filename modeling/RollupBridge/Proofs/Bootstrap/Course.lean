import RollupBridge.Proofs.Bootstrap.Sign
import RollupBridge.Proofs.Bootstrap.StateAction

namespace RollupBridge

theorem TransactionOutcome.requireSuccess_eq_ok_iff {outcome : TransactionOutcome} {stage : Stage}
    {u : Unit} : outcome.requireSuccess stage = .ok u ↔ outcome.success = true := by
  unfold requireSuccess
  split <;> simp [*]

theorem TransactionOutcome.requireSuccess_eq_error_iff {outcome : TransactionOutcome} {stage : Stage}
    {error : BridgeError} :
    outcome.requireSuccess stage = .error error ↔
      outcome.success = false ∧ error = .transactionReverted stage outcome.hash := by
  unfold requireSuccess
  split <;> simp [*, eq_comm]

namespace Bootstrap

/-- The read of the counterpart, with its answer. -/
def counterpartRead (b : Bootstrap) (answer : Except RpcError Bytes) : Exchange :=
  ⟨.main, .call b.bridge.l1Bridge (L1Bridge.l2Bridge.call ()), answer⟩

/-- How a bootstrap ends once both transactions were submitted. The deployment is judged only after a
publication that succeeded, and the counterpart is read only after both did. -/
inductive Ending (b : Bootstrap) (plan : BootstrapPlan) : Submission.Result → Submission.Result →
    Trace → Except BridgeError BootstrapOutcome → InitState → Prop
  | publicationLost (error : RpcError) (deployment : Submission.Result) :
      Ending b plan (.error error) deployment [] (.error (.rpc error)) .unpublished
  | publicationReverted {publication : TransactionOutcome} (hreverted : publication.success = false)
      (deployment : Submission.Result) :
      Ending b plan (.ok publication) deployment []
        (.error (.transactionReverted .publication publication.hash)) .unpublished
  | deploymentLost {publication : TransactionOutcome} (hpublished : publication.success = true)
      (error : RpcError) :
      Ending b plan (.ok publication) (.error error) [] (.error (.rpc error)) .bytecodesPublished
  | deploymentReverted {publication deployment : TransactionOutcome}
      (hpublished : publication.success = true) (hreverted : deployment.success = false) :
      Ending b plan (.ok publication) (.ok deployment) []
        (.error (.transactionReverted .deployment deployment.hash)) .bytecodesPublished
  | counterpartUnread {publication deployment : TransactionOutcome}
      (hpublished : publication.success = true) (hdeployed : deployment.success = true)
      {answer : Except RpcError Bytes} {error : BridgeError}
      (hread : L1Bridge.l2Bridge.interpret answer = .error error) :
      Ending b plan (.ok publication) (.ok deployment) [b.counterpartRead answer] (.error error)
        .bytecodesPublished
  | counterpartDiffers {publication deployment : TransactionOutcome}
      (hpublished : publication.success = true) (hdeployed : deployment.success = true)
      {answer : Except RpcError Bytes} {counterpart : Address}
      (hread : L1Bridge.l2Bridge.interpret answer = .ok counterpart)
      (hdiffers : counterpart ≠ plan.addresses.proxy) :
      Ending b plan (.ok publication) (.ok deployment) [b.counterpartRead answer]
        (.error (.counterpartMismatch plan.addresses.proxy counterpart)) .bytecodesPublished
  | completed {publication deployment : TransactionOutcome}
      (hpublished : publication.success = true) (hdeployed : deployment.success = true)
      {answer : Except RpcError Bytes}
      (hread : L1Bridge.l2Bridge.interpret answer = .ok plan.addresses.proxy) :
      Ending b plan (.ok publication) (.ok deployment) [b.counterpartRead answer]
        (.ok ⟨plan.addresses, publication, deployment⟩) .initialized

variable {b : Bootstrap} {codes : BridgeBytecodes} {s s' : InitState} {t : Trace}
  {result : Except BridgeError BootstrapOutcome}

/-- Settling the submissions of an unpublished bridge ends in one of these ways. Neither step to a
next state can fail on the way. -/
theorem ending_of_runs {plan : BootstrapPlan} {publication deployment : Submission.Result}
    (hrun : (b.settle plan publication deployment).Runs .unpublished t result s') :
    b.Ending plan publication deployment t result s' := by
  unfold settle at hrun
  rw [StateAction.runs_check_bind_iff] at hrun
  rcases hrun with ⟨error, rfl, rfl, rfl, rfl⟩ | ⟨publication, rfl, hrun⟩
  · exact .publicationLost error deployment
  rw [StateAction.runs_check_bind_iff] at hrun
  rcases hrun with ⟨error, hcheck, rfl, rfl, rfl⟩ | ⟨_, hcheck, hrun⟩
  · obtain ⟨hreverted, rfl⟩ := TransactionOutcome.requireSuccess_eq_error_iff.mp hcheck
    exact .publicationReverted hreverted deployment
  have hpublished := TransactionOutcome.requireSuccess_eq_ok_iff.mp hcheck
  rw [StateAction.runs_advance_bind_iff rfl, StateAction.runs_check_bind_iff] at hrun
  rcases hrun with ⟨error, rfl, rfl, rfl, rfl⟩ | ⟨deployment, rfl, hrun⟩
  · exact .deploymentLost hpublished error
  rw [StateAction.runs_check_bind_iff] at hrun
  rcases hrun with ⟨error, hcheck, rfl, rfl, rfl⟩ | ⟨_, hcheck, hrun⟩
  · obtain ⟨hreverted, rfl⟩ := TransactionOutcome.requireSuccess_eq_error_iff.mp hcheck
    exact .deploymentReverted hpublished hreverted
  have hdeployed := TransactionOutcome.requireSuccess_eq_ok_iff.mp hcheck
  rw [StateAction.runs_lift_bind_iff] at hrun
  rcases hrun with ⟨error, hread, rfl, rfl⟩ | ⟨reading, _, counterpart, rfl, hread, hrun⟩
  · obtain ⟨answer, rfl, hanswer⟩ := View.runs_read_iff.mp hread
    exact .counterpartUnread hpublished hdeployed hanswer.symm
  obtain ⟨answer, rfl, hanswer⟩ := View.runs_read_iff.mp hread
  dsimp only at hrun
  rw [StateAction.runs_guard_iff] at hrun
  rcases hrun with ⟨hdiffers, rfl, rfl, rfl⟩ | ⟨hsame, hrun⟩
  · exact .counterpartDiffers hpublished hdeployed hanswer.symm hdiffers
  rw [StateAction.runs_advance_bind_iff rfl, StateAction.runs_pure_iff] at hrun
  obtain ⟨rfl, rfl, rfl⟩ := hrun
  have hsame : counterpart = plan.addresses.proxy := by simpa using hsame
  subst hsame
  exact .completed hpublished hdeployed hanswer.symm

/-- The courses of a bootstrap. A bridge that is not unpublished is refused before anything is asked.
Between the two submissions nothing is said about the order of their requests. -/
inductive Course (b : Bootstrap) (codes : BridgeBytecodes) :
    InitState → Trace → Except BridgeError BootstrapOutcome → InitState → Prop
  | refused {s : InitState} (hstate : s ≠ .unpublished) :
      Course b codes s [] (.error (.initState ⟨s, .bytecodesPublished⟩)) s
  | unsigned {t : Trace} {error : BridgeError} (hsign : (b.sign codes).Runs t (.error error)) :
      Course b codes .unpublished t (.error error) .unpublished
  | submitted {signing both final : Trace} {signed : SignedBootstrap}
      {publication deployment : Submission.Result} {result : Except BridgeError BootstrapOutcome}
      {s' : InitState} (hsign : (b.sign codes).Runs signing (.ok signed))
      (hmain : Trace.on .main both = [])
      (hpublication : (⟨signed.publication, b.config.confirmations⟩ : Submission).Runs .first
        (Trace.on .first both) publication)
      (hdeployment : (⟨signed.deployment, b.config.confirmations⟩ : Submission).Runs .second
        (Trace.on .second both) deployment)
      (hend : b.Ending signed.plan publication deployment final result s') :
      Course b codes .unpublished (signing ++ (both ++ final)) result s'

/-- Every run of a bootstrap takes one of its courses. -/
theorem course_of_runs (hrun : (b.deploy codes).Runs s t result s') : b.Course codes s t result s' := by
  unfold deploy at hrun
  rw [StateAction.runs_bind_iff] at hrun
  rcases hrun with ⟨_, hget, _⟩ | ⟨_, _, state, _, rfl, hget, hrun⟩
  · cases (StateAction.runs_get_iff.mp hget).2.1
  rw [StateAction.runs_get_iff] at hget
  obtain ⟨rfl, hget, rfl⟩ := hget
  cases hget
  dsimp only at hrun
  rw [StateAction.runs_guard_iff] at hrun
  rcases hrun with ⟨hstate, rfl, rfl, rfl⟩ | ⟨hstate, hrun⟩
  · exact .refused hstate
  have hstate : state = .unpublished := by simpa using hstate
  subst hstate
  rw [StateAction.runs_lift_bind_iff] at hrun
  rcases hrun with ⟨error, hsign, rfl, rfl⟩ | ⟨signing, _, signed, rfl, hsign, hrun⟩
  · exact .unsigned hsign
  rw [StateAction.runs_lift_bind_iff] at hrun
  rcases hrun with ⟨error, hsubmit, _⟩ | ⟨both, final, ⟨publication, deployment⟩, rfl, hsubmit, hrun⟩
  · obtain ⟨_, _, _, _, _, _, _, _, hnever⟩ := Program.runs_submitBoth_iff.mp hsubmit
    simp at hnever
  obtain ⟨both, rest, _, _, rfl, hmain, hpublication, hdeployment, hdone⟩ :=
    Program.runs_submitBoth_iff.mp hsubmit
  rw [Program.runs_done_iff] at hdone
  obtain ⟨rfl, hresults⟩ := hdone
  cases hresults
  rw [List.nil_append, List.append_nil]
  exact .submitted hsign hmain hpublication hdeployment (ending_of_runs hrun)

/-- A bootstrap with everything configured and with hashes that are all zero. -/
def plain : Bootstrap where
  bridge := {
    endpoint := ⟨"http".toList, some { host := some (.ipv4 0), port := none }, ['/'], none, none⟩
    l1Bridge := FixedBytes.ofNat 1
    l2Counterpart := FixedBytes.zero
    chainId := 9 }
  config := {
    mailbox := FixedBytes.ofNat 2
    governor := some (FixedBytes.ofNat 4)
    gasPrice := some 1
    nonce := some 0 }
  account := FixedBytes.ofNat 3
  hasher := ⟨BytecodeHash.maxWords, fun _ => FixedBytes.zero⟩
  addressHash := fun _ => FixedBytes.zero

end Bootstrap

/-- Bytecodes of one word each. -/
def BridgeBytecodes.plain : BridgeBytecodes :=
  ⟨Bytes.zeros 32, Bytes.zeros 32, Bytes.zeros 32, Bytes.zeros 32, Bytes.zeros 32⟩

/-- An L1 that does what it is asked, except for some failures. -/
def Simulation.plain (faults : List (Fault × RpcError)) : Simulation where
  l1 := { sendHashes := [(0, FixedBytes.ofNat 1), (1, FixedBytes.ofNat 2)], faults := faults }
  account := { signer := .standIn (FixedBytes.ofNat 3) }

example : ((Bootstrap.plain.deploy .plain).recorded .unpublished (.plain [])).2.2 = .initialized := by
  rfl

end RollupBridge
