import RollupBridge.Proofs.Bootstrap.Sign

namespace RollupBridge.Bootstrap

variable {b : Bootstrap} {codes : BridgeBytecodes} {t : Trace}

theorem calls_quote (params : GasParams) (output : Bytes) :
    (b.quote params output).request.calls Mailbox.l2TransactionBaseCost.toFunction = true :=
  (Request.calls_call _ _ _ _).trans (by decide)

/-- Every quote is among the reads that come before the signatures. -/
theorem isPreparatory_of_quote {request : Request}
    (hquote : request.calls Mailbox.l2TransactionBaseCost.toFunction = true) :
    IsPreparatory request := by
  cases request with
  | call contract data =>
    refine ⟨rfl, ?_⟩
    have hselector : data.take 4 = Mailbox.l2TransactionBaseCost.selector.bytes := eq_of_beq hquote
    rw [Request.calls, hselector]
    decide
  | _ => cases hquote

/-- The governor is not read by a quote. -/
theorem other_of_governing {governor : Except BridgeError Address}
    (hrun : (Action.orRead b.config.governor (Mailbox.readGovernor b.config.mailbox)).Runs t governor) :
    ∀ x ∈ t, x.request.calls Mailbox.l2TransactionBaseCost.toFunction = false := by
  have hasks : (Mailbox.readGovernor b.config.mailbox).Asks fun request =>
      request.calls Mailbox.l2TransactionBaseCost.toFunction = false :=
    View.asks_read ((Request.calls_call _ _ _ _).trans (by decide))
  intro x hx
  exact (hasks.orRead.exchanges hrun x hx).2

/-- The first quote is that of the publication. -/
theorem firstQuote_of_runs {governing pricing : Trace} {governor : Address} {gasPrice : Uint 128}
    {output : Bytes} {cost : Uint 256} (chainId : Uint 64)
    (hgoverning : (Action.orRead b.config.governor (Mailbox.readGovernor b.config.mailbox)).Runs
      governing (.ok governor))
    (hpricing : (Action.orRead b.config.gasPrice (Action.ask .gasPrice)).Runs pricing (.ok gasPrice))
    (hcost : Mailbox.l2TransactionBaseCost.decodeOutput output = some cost) (rest : Trace) :
    Trace.FirstQuote b.config.mailbox (⟨.main, .chainId, .ok chainId⟩ :: (governing ++ (pricing ++
        b.quote (b.publicationParams gasPrice) output :: rest)))
      (gasPrice.setWidth 256) (b.config.publicationGasLimit.setWidth 256)
      (b.config.gasPerPubdata.setWidth 256) cost := by
  rw [← List.singleton_append, Trace.FirstQuote.append_iff (by simp [Request.calls]),
    Trace.FirstQuote.append_iff (other_of_governing hgoverning),
    Trace.FirstQuote.append_iff (Trace.other_of_asked .gasPrice rfl hpricing)]
  exact .cons _ _ _ _ hcost rest

/-- A plan that is made is quoted twice. -/
theorem Planned.quotes {plan : BootstrapPlan} (hplanned : b.Planned codes t plan) :
    ∃ output output',
      t.filter (·.request.calls Mailbox.l2TransactionBaseCost.toFunction) =
        [b.quote (b.publicationParams plan.gasPrice) output,
          b.quote (b.deploymentParams plan.gasPrice) output'] ∧
      Mailbox.l2TransactionBaseCost.decodeOutput output = some plan.publicationFee.baseCost ∧
      Mailbox.l2TransactionBaseCost.decodeOutput output' = some plan.deploymentFee := by
  obtain ⟨governing, pricing, output, output', rfl, hgoverning, hpricing, hcost, hfee⟩ :=
    hplanned.reads
  refine ⟨output, output', ?_, hcost, hfee⟩
  have hgovernor := Trace.filter_eq_nil (other_of_governing hgoverning)
  have hprice := Trace.filter_eq_nil (Trace.other_of_asked .gasPrice rfl hpricing)
  rw [List.filter_append, List.filter_append, hgovernor, hprice]
  simp [calls_quote]

/-- Nothing but the plan is quoted, and nothing is quoted after the reads. -/
theorem Prepared.quotes {prepared : PreparedBootstrap} {nonce gasLimit : Uint 64}
    (hprepared : b.Prepared codes t prepared nonce gasLimit) (rest : Trace)
    (hrest : ∀ x ∈ rest, ¬IsPreparatory x.request) :
    ∃ output output',
      (t ++ rest).filter (·.request.calls Mailbox.l2TransactionBaseCost.toFunction) =
        [b.quote (b.publicationParams prepared.plan.gasPrice) output,
          b.quote (b.deploymentParams prepared.plan.gasPrice) output'] ∧
      Mailbox.l2TransactionBaseCost.decodeOutput output =
        some prepared.plan.publicationFee.baseCost ∧
      Mailbox.l2TransactionBaseCost.decodeOutput output' = some prepared.plan.deploymentFee := by
  obtain ⟨planning, reading, rfl, hplan, hreading⟩ := hprepared.reads
  obtain ⟨output, output', hquotes, hcost, hfee⟩ := (planned_of_runs hplan).quotes
  refine ⟨output, output', ?_, hcost, hfee⟩
  have hnonce := Trace.filter_eq_nil (Trace.other_of_asked (.pendingNonce b.account) rfl hreading)
  have hafter : rest.filter (·.request.calls Mailbox.l2TransactionBaseCost.toFunction) = [] := by
    refine Trace.filter_eq_nil fun x hx => ?_
    exact Bool.eq_false_iff.mpr fun hquote => hrest x hx (isPreparatory_of_quote hquote)
  rw [List.cons_append, List.filter_cons_of_neg (by simp [Request.calls]), List.append_assoc,
    List.append_assoc, List.filter_append, List.filter_append, List.filter_append, hquotes, hnonce,
    hafter]
  simp [Request.calls]

theorem Prepared.firstQuote {prepared : PreparedBootstrap} {nonce gasLimit : Uint 64}
    (hprepared : b.Prepared codes t prepared nonce gasLimit) :
    t.FirstQuote b.config.mailbox (prepared.plan.gasPrice.setWidth 256)
      (b.config.publicationGasLimit.setWidth 256) (b.config.gasPerPubdata.setWidth 256)
      prepared.plan.publicationFee.baseCost := by
  obtain ⟨output, output', hquotes, hcost, _⟩ := hprepared.quotes [] (by simp)
  rw [List.append_nil] at hquotes
  exact .of_filter hquotes hcost

end RollupBridge.Bootstrap
