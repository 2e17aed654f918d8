import RollupBridge.Proofs.Bootstrap.Milestones

namespace RollupBridge

/-- Exchanges of two lanes are those of the first and those of the second, in some order. -/
theorem Trace.on_perm {t : Trace} (hmain : Trace.on .main t = []) :
    (Trace.on .first t ++ Trace.on .second t).Perm t := by
  have hsecond : Trace.on .second t = t.filter fun x => !decide (x.lane = .first) := by
    refine List.filter_congr ?_
    intro x hx
    have hlane : x.lane ≠ .main := by simpa using List.filter_eq_nil_iff.mp hmain x hx
    cases hother : x.lane <;> simp_all
  rw [hsecond]
  exact List.filter_append_perm _ t

namespace Submission.Runs

variable {s : Submission} {lane : Lane} {t : Trace} {result : Submission.Result}

/-- A submission makes one send. -/
theorem filter_isSend (hrun : s.Runs lane t result) :
    ∃ answer, t.filter (·.request.isSend) = [⟨lane, .send s.tx, answer⟩] := by
  cases hrun with
  | refused error => exact ⟨.error error, rfl⟩
  | awaited hash => exact ⟨.ok hash, rfl⟩

/-- A submission neither reads nor signs. -/
theorem not_read_not_sign (hrun : s.Runs lane t result) :
    ∀ x ∈ t, x.request.isRead = false ∧ x.request.isSign = false := by
  cases hrun <;> simp [Request.isRead, Request.isSign]

theorem both_not_read_not_sign {first second : Submission} {both : Trace} {a b : Submission.Result}
    (hmain : Trace.on .main both = []) (hfirst : first.Runs .first (Trace.on .first both) a)
    (hsecond : second.Runs .second (Trace.on .second both) b) :
    ∀ x ∈ both, x.request.isRead = false ∧ x.request.isSign = false := by
  intro x hx
  rw [← (Trace.on_perm hmain).mem_iff, List.mem_append] at hx
  rcases hx with hx | hx
  · exact hfirst.not_read_not_sign x hx
  · exact hsecond.not_read_not_sign x hx

/-- Two submissions side by side make a send each, whatever becomes of the other. -/
theorem both_filter_isSend {first second : Submission} {both : Trace} {a b : Submission.Result}
    (hmain : Trace.on .main both = []) (hfirst : first.Runs .first (Trace.on .first both) a)
    (hsecond : second.Runs .second (Trace.on .second both) b) :
    ∃ answer answer', (both.filter (·.request.isSend)).Perm
      [⟨.first, .send first.tx, answer⟩, ⟨.second, .send second.tx, answer'⟩] := by
  obtain ⟨answer, hanswer⟩ := hfirst.filter_isSend
  obtain ⟨answer', hanswer'⟩ := hsecond.filter_isSend
  have hperm := (Trace.on_perm hmain).filter (·.request.isSend)
  rw [List.filter_append, hanswer, hanswer'] at hperm
  exact ⟨answer, answer', hperm.symm⟩

end Submission.Runs

namespace Bootstrap

/-- Reads come first, then signatures, then the two submissions side by side, and at the end at most
the read of the counterpart. -/
def Staged (b : Bootstrap) (t : Trace) : Prop :=
  ∃ reads signing submitting final, t = reads ++ (signing ++ (submitting ++ final)) ∧
    (∀ x ∈ reads, x.lane = .main ∧ IsPreparatory x.request) ∧
    (∀ x ∈ signing, x.lane = .main ∧ x.request.isSign = true) ∧
    (∀ x ∈ submitting, x.lane ≠ .main ∧ x.request.isRead = false ∧ x.request.isSign = false) ∧
    (final = [] ∨ ∃ answer, final = [b.counterpartRead answer])

/-- The exchanges of a bootstrap that sends. -/
structure Broadcast (b : Bootstrap) (t : Trace) (nonce : Uint 64)
    (publication deployment : L1Transaction)
    (signedPublication signedDeployment : SignedTransaction) : Prop where
  nonce_origin : b.config.nonce = some nonce ∨
    b.config.nonce = none ∧ (⟨.main, .pendingNonce b.account, .ok nonce⟩ : Exchange) ∈ t
  nonce_succ : (nonce + 1).toNat = nonce.toNat + 1
  publication_eq : publication.target = b.config.mailbox ∧ publication.nonce = nonce
  deployment_eq : deployment.target = b.bridge.l1Bridge ∧ deployment.nonce = nonce + 1
  signed : t.filter (·.request.isSign) = [⟨.main, .sign publication, .ok signedPublication⟩,
    ⟨.main, .sign deployment, .ok signedDeployment⟩]
  sent : ∃ answer answer', (t.filter (·.request.isSend)).Perm
    [⟨.first, .send signedPublication, answer⟩, ⟨.second, .send signedDeployment, answer'⟩]
  /-- On its lane, a send that is accepted is awaited. -/
  publication_lane : ∃ outcome, (⟨signedPublication, b.config.confirmations⟩ : Submission).Runs .first
    (Trace.on .first t) outcome
  deployment_lane : ∃ outcome, (⟨signedDeployment, b.config.confirmations⟩ : Submission).Runs .second
    (Trace.on .second t) outcome

variable {b : Bootstrap} {codes : BridgeBytecodes} {t : Trace} {s s' : InitState}
  {result : Except BridgeError BootstrapOutcome}

theorem Ending.trace_eq {plan : BootstrapPlan} {publication deployment : Submission.Result}
    (hend : b.Ending plan publication deployment t result s') :
    t = [] ∨ ∃ answer, t = [b.counterpartRead answer] := by
  cases hend <;> simp [counterpartRead]

theorem Ending.isRead {plan : BootstrapPlan} {publication deployment : Submission.Result}
    (hend : b.Ending plan publication deployment t result s') : ∀ x ∈ t, x.request.isRead = true := by
  cases hend <;> simp [counterpartRead, Request.isRead]

/-- The counterpart is not read before anything is signed. -/
theorem Ending.not_preparatory {plan : BootstrapPlan} {publication deployment : Submission.Result}
    (hend : b.Ending plan publication deployment t result s') :
    ∀ x ∈ t, ¬IsPreparatory x.request := by
  have hcalls (answer : Except RpcError Bytes) :
      (b.counterpartRead answer).request.calls L1Bridge.l2Bridge.toFunction = true :=
    (Request.calls_call _ _ _ _).trans (by decide)
  cases hend <;> simp [IsPreparatory, hcalls]

/-- Signatures come after the reads. -/
theorem stages_of_sign {signed : Except BridgeError SignedBootstrap}
    (hsign : (b.sign codes).Runs t signed) :
    ∃ reads signing, t = reads ++ signing ∧
      (∀ x ∈ reads, x.lane = .main ∧ IsPreparatory x.request) ∧
      ∀ x ∈ signing, x.lane = .main ∧ x.request.isSign = true := by
  cases signing_of_runs hsign with
  | unprepared hprepare => exact ⟨t, [], by simp, asks_prepare.exchanges hprepare, by simp⟩
  | publicationUnsigned hprepare =>
    exact ⟨_, _, rfl, asks_prepare.exchanges hprepare, by simp [Request.isSign]⟩
  | deploymentUnsigned hprepare =>
    exact ⟨_, _, rfl, asks_prepare.exchanges hprepare, by simp [Request.isSign]⟩
  | signed hprepare => exact ⟨_, _, rfl, asks_prepare.exchanges hprepare, by simp [Request.isSign]⟩

theorem Course.staged (hcourse : b.Course codes s t result s') : b.Staged t := by
  cases hcourse with
  | refused => exact ⟨[], [], [], [], rfl, by simp, by simp, by simp, Or.inl rfl⟩
  | unsigned hsign =>
    obtain ⟨reads, signing, rfl, hreads, hsigning⟩ := stages_of_sign hsign
    exact ⟨reads, signing, [], [], by simp, hreads, hsigning, by simp, Or.inl rfl⟩
  | @submitted _ both final _ _ _ _ _ hsign hmain hpublication hdeployment hend =>
    obtain ⟨reads, signing, rfl, hreads, hsigning⟩ := stages_of_sign hsign
    refine ⟨reads, signing, both, final, by simp, hreads, hsigning, ?_, hend.trace_eq⟩
    intro x hx
    have hlane : x.lane ≠ .main := by simpa using List.filter_eq_nil_iff.mp hmain x hx
    exact ⟨hlane, Submission.Runs.both_not_read_not_sign hmain hpublication hdeployment x hx⟩

/-- The nonce of both transactions is the configured one, or else the one that was read. -/
theorem Prepared.nonce_origin {prepared : PreparedBootstrap} {nonce gasLimit : Uint 64}
    (hprepared : b.Prepared codes t prepared nonce gasLimit) :
    b.config.nonce = some nonce ∨
      b.config.nonce = none ∧ (⟨.main, .pendingNonce b.account, .ok nonce⟩ : Exchange) ∈ t := by
  obtain ⟨planning, reading, rfl, _, hreading⟩ := hprepared.reads
  rcases Action.runs_orRead_iff.mp hreading with ⟨value, hconfigured, _, hvalue⟩ | ⟨habsent, hread⟩
  · cases hvalue
    exact Or.inl hconfigured
  · rw [Action.runs_ask_ok_iff] at hread
    subst hread
    exact Or.inr ⟨habsent, by simp⟩

theorem Prepared.nonce_succ {prepared : PreparedBootstrap} {nonce gasLimit : Uint 64}
    (hprepared : b.Prepared codes t prepared nonce gasLimit) :
    (nonce + 1).toNat = nonce.toNat + 1 := by
  have hne : nonce.toNat ≠ (Uint.max 64).toNat := mt BitVec.eq_of_toNat_eq hprepared.nonce_ne_max
  have hmax : (Uint.max 64).toNat = 2 ^ 64 - 1 := by decide
  have hlt := nonce.isLt
  rw [BitVec.toNat_add, Nat.mod_eq_of_lt]
  · rfl
  · rw [hmax] at hne
    change nonce.toNat + 1 < 2 ^ 64
    omega

/-- What comes after the signatures is no read that a bootstrap prepares with. -/
theorem not_preparatory_of_submitted {publication deployment : Submission} {plan : BootstrapPlan}
    {both final : Trace} {a c : Submission.Result} (hmain : Trace.on .main both = [])
    (hpublication : publication.Runs .first (Trace.on .first both) a)
    (hdeployment : deployment.Runs .second (Trace.on .second both) c)
    (hend : b.Ending plan a c final result s') :
    ∀ x ∈ both ++ final, ¬IsPreparatory x.request := by
  intro x hx hpreparatory
  rcases List.mem_append.mp hx with hx | hx
  · have hother := Submission.Runs.both_not_read_not_sign hmain hpublication hdeployment x hx
    cases hother.1.symm.trans hpreparatory.1
  · exact hend.not_preparatory x hx hpreparatory

/-- Nothing is signed any more once something is submitted. -/
theorem not_sign_of_submitted {publication deployment : Submission} {plan : BootstrapPlan}
    {both final : Trace} {a c : Submission.Result} (hmain : Trace.on .main both = [])
    (hpublication : publication.Runs .first (Trace.on .first both) a)
    (hdeployment : deployment.Runs .second (Trace.on .second both) c)
    (hend : b.Ending plan a c final result s') :
    ∀ x ∈ both ++ final, x.request.isSign = false := by
  intro x hx
  rcases List.mem_append.mp hx with hx | hx
  · exact (Submission.Runs.both_not_read_not_sign hmain hpublication hdeployment x hx).2
  · exact Request.isSign_eq_false_of_isRead (hend.isRead x hx)

/-- A bootstrap sends nothing, or it has signed the two transactions that it prepared and sends
both. -/
theorem Course.broadcast_prepared (hcourse : b.Course codes s t result s') :
    (∀ x ∈ t, x.request.isSend = false) ∨
      ∃ reads rest prepared nonce signedPublication signedDeployment,
        t = reads ++ rest ∧ (b.prepare codes).Runs reads (.ok prepared) ∧
        (∀ x ∈ rest, ¬IsPreparatory x.request) ∧
        b.Broadcast t nonce prepared.publication prepared.deployment signedPublication
          signedDeployment := by
  cases hcourse with
  | refused => exact Or.inl (by simp)
  | unsigned hsign => exact Or.inl (isSend_eq_false_of_sign hsign)
  | @submitted signing both final signed _ _ _ _ hsign hmain hpublication hdeployment hend =>
    have hlane := lane_eq_of_sign hsign
    have hsent : ∃ answer answer', ((signing ++ (both ++ final)).filter (·.request.isSend)).Perm
        [⟨.first, .send signed.publication, answer⟩, ⟨.second, .send signed.deployment, answer'⟩] := by
      have hsigning : signing.filter (·.request.isSend) = [] :=
        Trace.filter_eq_nil (isSend_eq_false_of_sign hsign)
      have hfinal : final.filter (·.request.isSend) = [] :=
        Trace.filter_eq_nil fun x hx => Request.isSend_eq_false_of_isRead (hend.isRead x hx)
      rw [List.filter_append, List.filter_append, hsigning, hfinal, List.nil_append, List.append_nil]
      exact Submission.Runs.both_filter_isSend hmain hpublication hdeployment
    cases signing_of_runs hsign with
    | @signed reads prepared hprepare signedPublication signedDeployment =>
      obtain ⟨nonce, gasLimit, hprepared⟩ := prepared_of_runs hprepare
      have hreads := asks_prepare.exchanges hprepare
      have hrest := not_preparatory_of_submitted hmain hpublication hdeployment hend
      refine Or.inr ⟨reads, _, prepared, nonce, signedPublication, signedDeployment,
        List.append_assoc _ _ _, hprepare,
        List.forall_mem_append.mpr ⟨by simp [IsPreparatory, Request.isRead], hrest⟩, ?_⟩
      exact {
        nonce_origin := by
          refine hprepared.nonce_origin.imp_right (And.imp_right ?_)
          intro hmem
          simp [hmem]
        nonce_succ := hprepared.nonce_succ
        publication_eq := by
          rw [hprepared.publication]
          exact ⟨rfl, rfl⟩
        deployment_eq := by
          rw [hprepared.deployment]
          exact ⟨rfl, rfl⟩
        signed := by
          have hreads : reads.filter (·.request.isSign) = [] :=
            Trace.filter_eq_nil fun x hx => Request.isSign_eq_false_of_isRead (hreads x hx).2.1
          have hrest : (both ++ final).filter (·.request.isSign) = [] :=
            Trace.filter_eq_nil (not_sign_of_submitted hmain hpublication hdeployment hend)
          rw [List.filter_append, List.filter_append, hreads, hrest]
          rfl
        sent := hsent
        publication_lane := by
          rw [on_submitted hlane hend.lane_eq (by decide)]
          exact ⟨_, hpublication⟩
        deployment_lane := by
          rw [on_submitted hlane hend.lane_eq (by decide)]
          exact ⟨_, hdeployment⟩ }

/-- A bootstrap sends nothing, or it has signed two transactions and sends both. -/
theorem Course.broadcast (hcourse : b.Course codes s t result s') :
    (∀ x ∈ t, x.request.isSend = false) ∨
      ∃ nonce publication deployment signedPublication signedDeployment,
        b.Broadcast t nonce publication deployment signedPublication signedDeployment := by
  refine hcourse.broadcast_prepared.imp_right ?_
  rintro ⟨_, _, prepared, nonce, signedPublication, signedDeployment, _, _, _, hbroadcast⟩
  exact ⟨nonce, prepared.publication, prepared.deployment, signedPublication, signedDeployment,
    hbroadcast⟩

end Bootstrap

end RollupBridge
