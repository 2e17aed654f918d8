import RollupBridge.Proofs.Bootstrap.Broadcast
import RollupBridge.Proofs.Bootstrap.Quotes

namespace RollupBridge.Bootstrap

variable {b : Bootstrap} {codes : BridgeBytecodes} {t : Trace} {s s' : InitState}
  {gasPrice gasLimit gasPerPubdata cost : Uint 256}

theorem Planned.le_apply {plan : BootstrapPlan} (hplanned : b.Planned codes t plan) :
    plan.publicationFee.baseCost ≤ b.config.margin.apply plan.publicationFee.baseCost := by
  have hvalue : plan.publication.l2Value = 0 := by
    rw [hplanned.publication]
    rfl
  have hcovers := (PriorityTransaction.ensureCovers_eq_ok_iff hvalue).mp hplanned.covers
  rw [hplanned.publication, hplanned.publicationFee] at hcovers
  exact hcovers

/-- Whatever was quoted first for a plan that is made, the margin covers it. -/
theorem Planned.not_uncovered {plan : BootstrapPlan} {rest : Trace}
    (hplanned : b.Planned codes t plan)
    (hfirst : Trace.FirstQuote b.config.mailbox (t ++ rest) gasPrice gasLimit gasPerPubdata cost) :
    ¬b.config.margin.apply cost < cost := by
  obtain ⟨output, output', hquotes, hcost, _⟩ := hplanned.quotes
  have hplan := (Trace.FirstQuote.of_filter hquotes hcost).append_right rest
  rw [hfirst.cost_unique hplan, BitVec.not_lt]
  exact hplanned.le_apply

theorem Prepared.not_uncovered {prepared : PreparedBootstrap} {nonce limit : Uint 64} {rest : Trace}
    (hprepared : b.Prepared codes t prepared nonce limit)
    (hfirst : Trace.FirstQuote b.config.mailbox (t ++ rest) gasPrice gasLimit gasPerPubdata cost) :
    ¬b.config.margin.apply cost < cost := by
  obtain ⟨planning, reading, rfl, hplan, _⟩ := hprepared.reads
  rw [List.cons_append, ← List.singleton_append,
    Trace.FirstQuote.append_iff (by simp [Request.calls]), List.append_assoc] at hfirst
  exact (planned_of_runs hplan).not_uncovered hfirst

/-- Nothing is planned at a quote that the margin does not cover. -/
theorem uncovered_of_runs_plan {result : Except BridgeError BootstrapPlan}
    (hrun : (b.plan codes).Runs t result)
    (hfirst : t.FirstQuote b.config.mailbox gasPrice gasLimit gasPerPubdata cost)
    (hless : b.config.margin.apply cost < cost) :
    result = .error (.gasParams (.insufficientValue cost (b.config.margin.apply cost))) := by
  unfold Bootstrap.plan at hrun
  rw [Action.runs_bind_iff] at hrun
  rcases hrun with ⟨_, hhashes, _⟩ | ⟨_, _, hashes, rfl, hhashes, hrun⟩
  · obtain ⟨rfl, _⟩ := Action.runs_ofResult_error_iff.mp hhashes
    exact absurd hfirst (Trace.FirstQuote.not_of_other (by simp))
  obtain ⟨rfl, _⟩ := Action.runs_ofResult_ok_iff.mp hhashes
  rw [Action.runs_bind_iff] at hrun
  rcases hrun with ⟨_, hgoverning, _⟩ | ⟨governing, _, governor, rfl, hgoverning, hrun⟩
  · exact absurd hfirst (Trace.FirstQuote.not_of_other (other_of_governing hgoverning))
  rw [List.nil_append, Trace.FirstQuote.append_iff (other_of_governing hgoverning)] at hfirst
  rw [Action.runs_bind_iff] at hrun
  rcases hrun with ⟨_, hpricing, _⟩ | ⟨pricing, _, price, rfl, hpricing, hrun⟩
  · exact absurd hfirst (Trace.FirstQuote.not_of_other (Trace.other_of_asked .gasPrice rfl hpricing))
  rw [Trace.FirstQuote.append_iff (Trace.other_of_asked .gasPrice rfl hpricing)] at hfirst
  cases FeeOracle.charge_of_runs (b.publicationRequest codes) (fun _ => rfl) (fun _ => rfl) hrun with
  | unquoted _ hfails => exact absurd hfirst (Trace.FirstQuote.not_of_fails hfails)
  | uncovered _ hquoted => rw [hfirst.cost_unique hquoted]
  | covered _ hquoted hcovers =>
    rw [hfirst.cost_unique (hquoted.append_right _)] at hless
    exact absurd hcovers (BitVec.not_le.mpr hless)

theorem uncovered_of_runs_prepare {result : Except BridgeError PreparedBootstrap}
    (hrun : (b.prepare codes).Runs t result)
    (hfirst : t.FirstQuote b.config.mailbox gasPrice gasLimit gasPerPubdata cost)
    (hless : b.config.margin.apply cost < cost) :
    result = .error (.gasParams (.insufficientValue cost (b.config.margin.apply cost))) := by
  unfold prepare at hrun
  rw [Action.runs_bind_iff] at hrun
  rcases hrun with ⟨_, hchain, _⟩ | ⟨_, _, chainId, rfl, hchain, hrun⟩
  · obtain ⟨_, rfl, _⟩ := Action.runs_ask_error_iff.mp hchain
    exact absurd hfirst (Trace.FirstQuote.not_of_other (by simp [Request.calls]))
  rw [Action.runs_ask_ok_iff] at hchain
  subst hchain
  rw [Trace.FirstQuote.append_iff (by simp [Request.calls])] at hfirst
  dsimp only at hrun
  rw [Action.runs_guard_iff] at hrun
  rcases hrun with ⟨_, rfl, _⟩ | ⟨_, hrun⟩
  · exact absurd hfirst (Trace.FirstQuote.not_of_other (by simp))
  rw [Action.runs_bind_iff] at hrun
  rcases hrun with ⟨_, hplan, rfl⟩ | ⟨planning, _, plan, rfl, hplan, _⟩
  · cases uncovered_of_runs_plan hplan hfirst hless
    rfl
  · exact absurd hless ((planned_of_runs hplan).not_uncovered hfirst)

variable {result : Except BridgeError BootstrapOutcome}

/-- A bootstrap at a quote that the margin does not cover signs nothing, says so and leaves the state as
it is. -/
theorem Course.uncovered (hcourse : b.Course codes s t result s')
    (hfirst : t.FirstQuote b.config.mailbox gasPrice gasLimit gasPerPubdata cost)
    (hless : b.config.margin.apply cost < cost) :
    (∀ x ∈ t, x.request.isSign = false) ∧
      result = .error (.gasParams (.insufficientValue cost (b.config.margin.apply cost))) ∧
      s' = s := by
  have hnever {reads rest : Trace} {prepared : PreparedBootstrap}
      (hprepare : (b.prepare codes).Runs reads (.ok prepared))
      (hfirst : Trace.FirstQuote b.config.mailbox (reads ++ rest) gasPrice gasLimit gasPerPubdata
        cost) : False := by
    obtain ⟨_, _, hprepared⟩ := prepared_of_runs hprepare
    exact hprepared.not_uncovered hfirst hless
  cases hcourse with
  | refused => exact absurd hfirst (Trace.FirstQuote.not_of_other (by simp))
  | unsigned hsign =>
    cases signing_of_runs hsign with
    | unprepared hprepare =>
      cases uncovered_of_runs_prepare hprepare hfirst hless
      refine ⟨?_, rfl, rfl⟩
      intro x hx
      exact Request.isSign_eq_false_of_isRead (asks_prepare.exchanges hprepare x hx).2.1
    | publicationUnsigned hprepare => exact absurd hfirst (hnever hprepare)
    | deploymentUnsigned hprepare => exact absurd hfirst (hnever hprepare)
  | submitted hsign =>
    cases signing_of_runs hsign with
    | signed hprepare =>
      rw [List.append_assoc] at hfirst
      exact absurd hfirst (hnever hprepare)

/-- Signing only reads, or it asks for signatures of the two prepared transactions behind the reads. -/
theorem Signing.split {signed : Except BridgeError SignedBootstrap}
    (hsigning : b.Signing codes t signed) :
    (∃ error, (b.prepare codes).Runs t (.error error)) ∨
      ∃ reads rest prepared, t = reads ++ rest ∧ (b.prepare codes).Runs reads (.ok prepared) ∧
        ∀ lane tx answer, (⟨lane, .sign tx, answer⟩ : Exchange) ∈ rest →
          tx = prepared.publication ∨ tx = prepared.deployment := by
  cases hsigning with
  | unprepared hprepare => exact Or.inl ⟨_, hprepare⟩
  | publicationUnsigned hprepare =>
    exact Or.inr ⟨_, _, _, rfl, hprepare, by simp +contextual⟩
  | deploymentUnsigned hprepare =>
    exact Or.inr ⟨_, _, _, rfl, hprepare, by simp +contextual [or_imp]⟩
  | signed hprepare =>
    exact Or.inr ⟨_, _, _, rfl, hprepare, by simp +contextual [or_imp]⟩

/-- Whatever is asked to be signed is one of the two transactions that were prepared. -/
theorem Signing.of_mem {signed : Except BridgeError SignedBootstrap} {lane : Lane}
    {tx : L1Transaction} {answer : Except RpcError SignedTransaction}
    (hsigning : b.Signing codes t signed) (hmem : (⟨lane, .sign tx, answer⟩ : Exchange) ∈ t) :
    ∃ reads rest prepared, t = reads ++ rest ∧ (b.prepare codes).Runs reads (.ok prepared) ∧
      (tx = prepared.publication ∨ tx = prepared.deployment) := by
  have hunread {reads : Trace} {prepared : Except BridgeError PreparedBootstrap}
      (hprepare : (b.prepare codes).Runs reads prepared) :
      (⟨lane, .sign tx, answer⟩ : Exchange) ∉ reads := by
    intro hmem
    cases (asks_prepare.exchanges hprepare _ hmem).2.1
  rcases hsigning.split with ⟨_, hprepare⟩ | ⟨reads, rest, prepared, rfl, hprepare, hrest⟩
  · exact absurd hmem (hunread hprepare)
  · have hlast := (List.mem_append.mp hmem).resolve_left (hunread hprepare)
    exact ⟨reads, rest, prepared, rfl, hprepare, hrest lane tx answer hlast⟩

theorem Course.signs (hcourse : b.Course codes s t result s') {lane : Lane} {tx : L1Transaction}
    {answer : Except RpcError SignedTransaction}
    (hmem : (⟨lane, .sign tx, answer⟩ : Exchange) ∈ t) :
    ∃ reads rest prepared, t = reads ++ rest ∧ (b.prepare codes).Runs reads (.ok prepared) ∧
      (tx = prepared.publication ∨ tx = prepared.deployment) := by
  cases hcourse with
  | refused => cases hmem
  | unsigned hsign => exact (signing_of_runs hsign).of_mem hmem
  | submitted hsign hmain hpublication hdeployment hend =>
    have hrest := not_sign_of_submitted hmain hpublication hdeployment hend
    have hsigned := (List.mem_append.mp hmem).resolve_right fun hlater => by cases hrest _ hlater
    obtain ⟨reads, rest, prepared, rfl, hprepare, htx⟩ := (signing_of_runs hsign).of_mem hsigned
    exact ⟨reads, _, prepared, List.append_assoc .., hprepare, htx⟩

end RollupBridge.Bootstrap
