import RollupBridge.Proofs.Bootstrap.Broadcast
import RollupBridge.Proofs.Bootstrap.Quotes

namespace RollupBridge.Bootstrap

/-- What is in the way of a bootstrap with the given exchanges. -/
inductive Obstacle (b : Bootstrap) (codes : BridgeBytecodes) (t : Trace) : Prop
  | failedRead {x : Exchange} (hmem : x ∈ t) (hread : IsPreparatory x.request) (hfails : x.Fails)
  | otherChain {chainId : Uint 64} (hmem : (⟨.main, .chainId, .ok chainId⟩ : Exchange) ∈ t)
      (hother : chainId ≠ b.bridge.chainId)
  | bytecode {error : BytecodeError} (herror : codes.hashes b.hasher = .error error)
  | publicationParams {gasPrice : Uint 128} {error : GasParamsError}
      (herror : (b.publicationParams gasPrice).validate = .error error)
  | deploymentParams {gasPrice : Uint 128} {error : GasParamsError}
      (herror : (b.deploymentParams gasPrice).validate = .error error)
  /-- The first quote is that of the publication. -/
  | uncovered {gasPrice : Uint 128} {output : Bytes} {cost : Uint 256} {error : GasParamsError}
      (hquote : t.find? (·.request.calls Mailbox.l2TransactionBaseCost.toFunction) =
        some (b.quote (b.publicationParams gasPrice) output))
      (hcost : Mailbox.l2TransactionBaseCost.decodeOutput output = some cost)
      (herror : (b.publicationRequest codes (FeeEstimate.ofCost b.config.margin cost).value).ensureCovers
        cost = .error error)
  | lastConfigured (hnonce : b.config.nonce = some (Uint.max 64))
  | lastRead (habsent : b.config.nonce = none)
      (hmem : (⟨.main, .pendingNonce b.account, .ok (Uint.max 64)⟩ : Exchange) ∈ t)

variable {b : Bootstrap} {codes : BridgeBytecodes} {t : Trace}

/-- The exchanges that prepare both transactions: each read but those of the plan is made once. -/
theorem Prepared.mem_cases {prepared : PreparedBootstrap} {nonce gasLimit : Uint 64} {x : Exchange}
    (hprepared : b.Prepared codes t prepared nonce gasLimit) (hmem : x ∈ t) :
    x = ⟨.main, .chainId, .ok b.bridge.chainId⟩ ∨ IsPlanning x.request ∨
      x = ⟨.main, .pendingNonce b.account, .ok nonce⟩ ∨
      x = ⟨.main, .estimateGas b.account
        (b.deploymentTx prepared.plan (nonce + 1) b.bridge.chainId 0), .ok gasLimit⟩ := by
  obtain ⟨planning, reading, rfl, hplan, hreading⟩ := hprepared.reads
  rcases List.mem_cons.mp hmem with hchainId | hmem
  · exact Or.inl hchainId
  rcases List.mem_append.mp hmem with hmem | hmem
  · exact Or.inr (Or.inl (asks_plan.exchanges hplan x hmem).2)
  rcases List.mem_append.mp hmem with hmem | hmem
  · rcases Action.runs_orRead_iff.mp hreading with ⟨_, _, rfl, _⟩ | ⟨_, hread⟩
    · cases hmem
    · rw [Action.runs_ask_ok_iff] at hread
      subst hread
      exact Or.inr (Or.inr (Or.inl (List.mem_singleton.mp hmem)))
  · exact Or.inr (Or.inr (Or.inr (List.mem_singleton.mp hmem)))

theorem Prepared.chainId_eq {prepared : PreparedBootstrap} {nonce gasLimit chainId : Uint 64}
    (hprepared : b.Prepared codes t prepared nonce gasLimit)
    (hmem : (⟨.main, .chainId, .ok chainId⟩ : Exchange) ∈ t) : chainId = b.bridge.chainId := by
  rcases hprepared.mem_cases hmem with hsame | hplanning | hsame | hsame
  · cases hsame
    rfl
  · exact absurd rfl hplanning.2.1
  · cases hsame
  · cases hsame

/-- A nonce that was read is the nonce of the publication. -/
theorem Prepared.pendingNonce_eq {prepared : PreparedBootstrap} {nonce gasLimit pending : Uint 64}
    (hprepared : b.Prepared codes t prepared nonce gasLimit)
    (hmem : (⟨.main, .pendingNonce b.account, .ok pending⟩ : Exchange) ∈ t) : pending = nonce := by
  rcases hprepared.mem_cases hmem with hsame | hplanning | hsame | hsame
  · cases hsame
  · exact absurd rfl (hplanning.2.2 b.account)
  · cases hsame
    rfl
  · cases hsame

/-- What was prepared had nothing in its way. -/
theorem Prepared.not_obstacle {prepared : PreparedBootstrap} {nonce gasLimit : Uint 64}
    (hprepared : b.Prepared codes t prepared nonce gasLimit)
    (hprepare : (b.prepare codes).Runs t (.ok prepared)) {rest : Trace}
    (hrest : ∀ x ∈ rest, ¬IsPreparatory x.request) : ¬b.Obstacle codes (t ++ rest) := by
  have hreads {x : Exchange} (hmem : x ∈ t ++ rest) (hread : IsPreparatory x.request) : x ∈ t := by
    rcases List.mem_append.mp hmem with hmem | hmem
    · exact hmem
    · exact absurd hread (hrest x hmem)
  obtain ⟨planning, _, _, hplan, _⟩ := hprepared.reads
  have hplanned := planned_of_runs hplan
  intro hobstacle
  cases hobstacle with
  | failedRead hmem hread hfails =>
    obtain ⟨_, error, herror, _⟩ :=
      asks_prepare.ends_at_failure hprepare (hreads hmem hread) hfails
    cases herror
  | otherChain hmem hother => exact hother (hprepared.chainId_eq (hreads hmem ⟨rfl, rfl⟩))
  | bytecode herror => cases herror.symm.trans hplanned.hashes
  | publicationParams herror => cases herror.symm.trans hplanned.publicationParams
  | deploymentParams herror => cases herror.symm.trans hplanned.deploymentParams
  | uncovered hquote hcost herror =>
    have hpaid := hprepared.firstQuote.append_right rest
    have hcost := Trace.FirstQuote.cost_unique ⟨_, hquote, hcost⟩ hpaid
    subst hcost
    have hcovers := hplanned.covers
    rw [hplanned.publication, hplanned.publicationFee] at hcovers
    cases herror.symm.trans hcovers
  | lastConfigured hnonce =>
    rcases hprepared.nonce_origin with hconfigured | ⟨habsent, _⟩
    · exact hprepared.nonce_ne_max (Option.some.inj (hconfigured.symm.trans hnonce))
    · cases habsent.symm.trans hnonce
  | lastRead _ hmem =>
    exact hprepared.nonce_ne_max (hprepared.pendingNonce_eq (hreads hmem ⟨rfl, rfl⟩)).symm

/-- What is in the way of a bootstrap is met before the first signature. -/
theorem unprepared_of_obstacle {signed : Except BridgeError SignedBootstrap} {rest : Trace}
    (hsign : (b.sign codes).Runs t signed) (hrest : ∀ x ∈ rest, ¬IsPreparatory x.request)
    (hobstacle : b.Obstacle codes (t ++ rest)) :
    ∃ error, signed = .error error ∧ (b.prepare codes).Runs t (.error error) := by
  have hnever {reads signing : Trace} {prepared : PreparedBootstrap}
      (hprepare : (b.prepare codes).Runs reads (.ok prepared))
      (hsigning : ∀ x ∈ signing, x.request.isRead = false) :
      ¬b.Obstacle codes (reads ++ signing ++ rest) := by
    obtain ⟨nonce, gasLimit, hprepared⟩ := prepared_of_runs hprepare
    rw [List.append_assoc]
    refine hprepared.not_obstacle hprepare ?_
    intro x hx
    rcases List.mem_append.mp hx with hx | hx
    · intro hpreparatory
      cases (hsigning x hx).symm.trans hpreparatory.1
    · exact hrest x hx
  cases signing_of_runs hsign with
  | unprepared hprepare => exact ⟨_, rfl, hprepare⟩
  | publicationUnsigned hprepare =>
    exact absurd hobstacle (hnever hprepare (by simp [Request.isRead]))
  | deploymentUnsigned hprepare =>
    exact absurd hobstacle (hnever hprepare (by simp [Request.isRead]))
  | signed hprepare => exact absurd hobstacle (hnever hprepare (by simp [Request.isRead]))

/-- Whatever keeps a bootstrap from being planned is an obstacle. -/
theorem obstacle_of_unplanned {planning : Trace} {chainId : Uint 64} {error : BridgeError}
    (hrun : (b.plan codes).Runs planning (.error error)) :
    b.Obstacle codes (⟨.main, .chainId, .ok chainId⟩ :: planning) := by
  have hfailed {x : Exchange} (hmem : x ∈ planning) (hfails : x.Fails) :
      b.Obstacle codes (⟨.main, .chainId, .ok chainId⟩ :: planning) :=
    .failedRead (List.mem_cons_of_mem _ hmem) (asks_plan.exchanges hrun x hmem).2.1 hfails
  unfold Bootstrap.plan at hrun
  rw [Action.runs_bind_iff] at hrun
  rcases hrun with ⟨_, hhashes, _⟩ | ⟨_, _, hashes, rfl, hhashes, hrun⟩
  · obtain ⟨_, reason, hreason, _⟩ := Action.runs_ofResult_error_iff.mp hhashes
    exact .bytecode hreason
  obtain ⟨rfl, _⟩ := Action.runs_ofResult_ok_iff.mp hhashes
  rw [Action.runs_bind_iff] at hrun
  rcases hrun with ⟨_, hgoverning, _⟩ | ⟨governing, _, governor, rfl, hgoverning, hrun⟩
  · have hread := Action.runs_orRead_error hgoverning
    obtain ⟨x, rfl, hfails⟩ :=
      View.fails_of_runs_read (by simp [Mailbox.getGovernor, Abi.Ty.ofWord]) hread
    exact hfailed (by simp) hfails
  rw [Action.runs_bind_iff] at hrun
  rcases hrun with ⟨_, hpricing, _⟩ | ⟨pricing, _, gasPrice, rfl, hpricing, hrun⟩
  · have hread := Action.runs_orRead_error hpricing
    obtain ⟨x, rfl, hfails⟩ := Action.fails_of_runs_ask hread
    exact hfailed (by simp) hfails
  rw [Action.runs_bind_iff] at hrun
  rcases hrun with ⟨_, hestimate, _⟩ | ⟨_, _, publicationFee, rfl, hestimate, hrun⟩
  · rw [FeeOracle.runs_estimate_error_iff] at hestimate
    rcases FeeOracle.fails_of_runs_baseCost hestimate with ⟨_, reason, hreason⟩ | ⟨x, rfl, hfails⟩
    · exact .publicationParams hreason
    · exact hfailed (by simp) hfails
  obtain ⟨cost, hcost, rfl⟩ := FeeOracle.runs_estimate_ok_iff.mp hestimate
  rw [oracle, FeeOracle.runs_baseCost_ok_iff] at hcost
  obtain ⟨_, output, rfl, houtput⟩ := hcost
  rw [Action.runs_bind_iff] at hrun
  rcases hrun with ⟨_, hcovers, _⟩ | ⟨_, _, _, rfl, hcovers, hrun⟩
  · obtain ⟨rfl, reason, hreason, _⟩ := Action.runs_ofResult_error_iff.mp hcovers
    obtain ⟨_, hquote, hcost⟩ := firstQuote_of_runs chainId hgoverning hpricing houtput []
    exact .uncovered hquote hcost hreason
  obtain ⟨rfl, _⟩ := Action.runs_ofResult_ok_iff.mp hcovers
  rw [Action.runs_bind_iff] at hrun
  rcases hrun with ⟨_, hcost, _⟩ | ⟨_, _, _, _, _, hrun⟩
  · rcases FeeOracle.fails_of_runs_baseCost hcost with ⟨_, reason, hreason⟩ | ⟨x, rfl, hfails⟩
    · exact .deploymentParams hreason
    · exact hfailed (by simp) hfails
  · cases (Action.runs_pure_iff.mp hrun).2

theorem nextNonce_eq_error {nonce : Uint 64} {error : ConfigError}
    (hlast : nextNonce nonce = .error error) : nonce = Uint.max 64 := by
  unfold nextNonce at hlast
  split at hlast
  · assumption
  · cases hlast

/-- Whatever keeps a bootstrap from being prepared is an obstacle. -/
theorem obstacle_of_unprepared {error : BridgeError} (hrun : (b.prepare codes).Runs t (.error error)) :
    b.Obstacle codes t := by
  have hfailed {x : Exchange} (hmem : x ∈ t) (hfails : x.Fails) : b.Obstacle codes t :=
    .failedRead hmem (asks_prepare.exchanges hrun x hmem).2 hfails
  unfold prepare at hrun
  rw [Action.runs_bind_iff] at hrun
  rcases hrun with ⟨_, hchain, _⟩ | ⟨_, _, chainId, rfl, hchain, hrun⟩
  · obtain ⟨x, rfl, hfails⟩ := Action.fails_of_runs_ask hchain
    exact hfailed (by simp) hfails
  rw [Action.runs_ask_ok_iff] at hchain
  subst hchain
  dsimp only at hrun
  by_cases hother : chainId ≠ b.bridge.chainId
  · exact .otherChain (List.mem_cons_self ..) hother
  rw [if_neg hother, Action.runs_bind_iff] at hrun
  rcases hrun with ⟨_, hplan, _⟩ | ⟨planning, _, plan, rfl, hplan, hrun⟩
  · exact obstacle_of_unplanned hplan
  rw [Action.runs_bind_iff] at hrun
  rcases hrun with ⟨_, hreading, _⟩ | ⟨reading, _, nonce, rfl, hreading, hrun⟩
  · have hread := Action.runs_orRead_error hreading
    obtain ⟨x, rfl, hfails⟩ := Action.fails_of_runs_ask hread
    exact hfailed (by simp) hfails
  rw [Action.runs_bind_iff] at hrun
  rcases hrun with ⟨_, hnext, _⟩ | ⟨_, _, next, rfl, _, hrun⟩
  · obtain ⟨_, _, hlast, _⟩ := Action.runs_ofResult_error_iff.mp hnext
    have hlast := nextNonce_eq_error hlast
    subst hlast
    rcases Action.runs_orRead_iff.mp hreading with ⟨_, hconfigured, _, hvalue⟩ | ⟨habsent, hread⟩
    · cases hvalue
      exact .lastConfigured hconfigured
    · rw [Action.runs_ask_ok_iff] at hread
      subst hread
      exact .lastRead habsent (by simp)
  rw [Action.runs_bind_iff] at hrun
  rcases hrun with ⟨_, hestimate, _⟩ | ⟨_, _, _, _, _, hrun⟩
  · obtain ⟨x, rfl, hfails⟩ := Action.fails_of_runs_ask hestimate
    exact hfailed (by simp) hfails
  · cases (Action.runs_pure_iff.mp hrun).2

end RollupBridge.Bootstrap
