import RollupBridge.Proofs.Landing
import RollupBridge.Proofs.L1.Replies

namespace RollupBridge

namespace Trace.FirstQuote

variable {mailbox : Address} {t : Trace} {gasPrice gasLimit gasPerPubdata cost : Uint 256}
  {replies : Replies}

/-- A quote is what the mailbox answers to the request for it. -/
theorem interpret_eq (hfirst : t.FirstQuote mailbox gasPrice gasLimit gasPerPubdata cost)
    (hreplies : t.AnsweredBy replies) :
    Mailbox.l2TransactionBaseCost.interpret (replies (.call mailbox
      (Mailbox.l2TransactionBaseCost.call (gasPrice, gasLimit, gasPerPubdata, ())))) = .ok cost := by
  obtain ⟨output, hfind, hcost⟩ := hfirst
  have hanswer := hreplies _ (List.mem_of_find?_eq_some hfind)
  exact View.interpret_eq_ok_iff.mpr ⟨output, hanswer.symm, hcost⟩

end Trace.FirstQuote

theorem Abi.Function.length_call (f : Abi.Function) (args : Abi.Args f.params) :
    (f.call args).length = 4 + (Abi.encode f.params args).length := by
  simp [call]

/-- The calldata of an upgrade is read back in two layers: the switch of the implementation, and in it
the call that binds the token. -/
theorem WethUpgrade.decodeCall_l2Calldata (upgrade : WethUpgrade) :
    ∃ data, UpgradeableProxy.upgradeToAndCall.decodeCall upgrade.l2Calldata =
        some (upgrade.tokenImplementation, data, ()) ∧
      L2Weth.bindToken.decodeCall data = some (upgrade.l2WethBridge, upgrade.l1WethToken, ()) := by
  have hsize : 196 < Uint.size 256 := by decide
  refine ⟨_, Abi.Function.decodeCall_call (by decide) ?_, Abi.Function.decodeCall_call (by decide) ?_⟩
  · have hlength := (Abi.Function.length_call _ _).symm.trans upgrade.length_l2Calldata
    omega
  · simp [Abi.encode, L2Weth.bindToken, Abi.length_layout, Abi.parts, Abi.Ty.part, Abi.tails, Uint.size]

namespace WethConfig

variable {config : WethConfig} {account : Address} {t : Trace} {replies : Replies}

/-- One L1 is asked for one gas price. -/
theorem PricedAt.unique {t' : Trace} {gasPrice gasPrice' : Uint 128}
    (hpriced : config.PricedAt t gasPrice) (hpriced' : config.PricedAt t' gasPrice')
    (hreplies : t.AnsweredBy replies) (hreplies' : t'.AnsweredBy replies) : gasPrice = gasPrice' := by
  obtain ⟨pricing, hsubset, hrun⟩ := hpriced
  obtain ⟨pricing', hsubset', hrun'⟩ := hpriced'
  have hunder := hrun.eq_under fun x hx => hreplies x (hsubset hx)
  have hunder' := hrun'.eq_under fun x hx => hreplies' x (hsubset' hx)
  exact Except.ok.inj (hunder.trans hunder'.symm)

/-- What is asked after the gas price is known: a signature only at that price and without a value. -/
def SignsAt (gasPrice : Uint 128) (request : Request) : Prop :=
  ∀ tx, request = .sign tx → tx.gasPrice = gasPrice ∧ tx.value = 0

theorem signsAt_of_isRead {gasPrice : Uint 128} {request : Request} (hread : request.isRead = true) :
    SignsAt gasPrice request := by
  rintro tx rfl
  cases hread

/-- A transaction is signed at the gas price that was read for it, and carries no value. -/
theorem pricedAt_of_runs_sign {result : Except BridgeError SignedTransaction}
    (hrun : (config.sign account).Runs t result) {lane : Lane} {tx : L1Transaction}
    {answer : Except RpcError SignedTransaction}
    (hmem : (⟨lane, .sign tx, answer⟩ : Exchange) ∈ t) :
    tx.value = 0 ∧ config.PricedAt t tx.gasPrice := by
  cases priced_of_runs_sign hrun with
  | unpriced hreads => cases hreads _ hmem
  | @priced reads rest chainId gasPrice _ hreads _ hpriced hrest =>
    have hlater : (⟨lane, .sign tx, answer⟩ : Exchange) ∈ rest := by
      refine (List.mem_append.mp hmem).resolve_left ?_
      intro hread
      cases hreads _ hread
    have hsigns : ∀ x ∈ rest, SignsAt gasPrice x.request := by
      refine fun x hx => (Action.Asks.exchanges ?_ hrest x hx).2
      refine Action.Asks.bind ((FeeOracle.asks_baseCost fun _ => signsAt_of_isRead rfl).bind
        fun _ => Action.asks_pure _) fun fee => ?_
      refine (Action.asks_ofResult _ _).bind fun _ => ?_
      refine asks_signNumbered (fun _ => signsAt_of_isRead) fun nonce gasLimit => ?_
      rintro tx hsame
      cases hsame
      exact ⟨rfl, rfl⟩
    obtain ⟨hsame, hvalue⟩ := hsigns _ hlater tx rfl
    rw [hsame]
    exact ⟨hvalue, hpriced.mono (List.subset_append_left reads rest)⟩

/-- What is sent was signed before, so all that an upgrade signs is signed at the price read for it. -/
theorem pricedAt_of_runs_submit {result : Except BridgeError TransactionOutcome}
    (hrun : (config.submit account).Runs t result) {lane : Lane} {tx : L1Transaction}
    {answer : Except RpcError SignedTransaction}
    (hmem : (⟨lane, .sign tx, answer⟩ : Exchange) ∈ t) :
    tx.value = 0 ∧ config.PricedAt t tx.gasPrice := by
  unfold WethConfig.submit at hrun
  rw [Action.runs_bind_iff] at hrun
  rcases hrun with ⟨_, hsign, rfl⟩ | ⟨signing, rest, signed, rfl, hsign, hrun⟩
  · exact pricedAt_of_runs_sign hsign hmem
  have hrest : ∀ x ∈ rest, x.request.isSign = false := by
    refine fun x hx => (@Action.Asks.exchanges _ (·.isSign = false) _ ?_ _ _ hrun x hx).2
    refine Action.Asks.bind (Action.asks_ask (.send _) rfl (by simp)) fun hash => ?_
    refine Action.Asks.bind (Action.asks_ask (.wait _ _) rfl (by simp)) fun outcome => ?_
    exact (Action.asks_ofResult _ _).bind fun _ => Action.asks_pure _
  have hsigning := (List.mem_append.mp hmem).resolve_right fun hlater => by cases hrest _ hlater
  obtain ⟨hvalue, hpriced⟩ := pricedAt_of_runs_sign hsign hsigning
  exact ⟨hvalue, hpriced.mono (List.subset_append_left signing rest)⟩

/-- A call for governance is only read for. -/
theorem asks_governanceCall (config : WethConfig) : config.governanceCall.Asks (·.isRead = true) := by
  refine Action.Asks.bind (.orRead (Action.asks_ask .gasPrice rfl (by simp))) fun gasPrice => ?_
  exact (FeeOracle.asks_baseCost fun _ => rfl).bind fun cost => Action.asks_pure _

/-- A call for governance is the request that is charged what was quoted at the price read for it. -/
theorem governanceCall_of_runs {call : GovernanceCall} (hrun : config.governanceCall.Runs t (.ok call)) :
    call = ⟨config.mailbox, (config.request FixedBytes.zero call.amount).encode, 0, call.amount,
        call.gasPrice⟩ ∧
      t.FirstQuote config.mailbox (call.gasPrice.setWidth 256)
        (GasParams.deploymentGasLimit.setWidth 256) (GasParams.requiredGasPerPubdata.setWidth 256)
        call.amount ∧
      config.PricedAt t call.gasPrice := by
  unfold WethConfig.governanceCall at hrun
  rw [Action.runs_bind_ok_iff] at hrun
  obtain ⟨pricing, _, gasPrice, rfl, hpricing, hrun⟩ := hrun
  rw [Action.runs_bind_ok_iff] at hrun
  obtain ⟨_, _, cost, rfl, hcost, hpure⟩ := hrun
  rw [FeeOracle.runs_baseCost_ok_iff] at hcost
  obtain ⟨_, output, rfl, houtput⟩ := hcost
  obtain ⟨rfl, hcall⟩ := Action.runs_pure_iff.mp hpure
  cases hcall
  refine ⟨rfl, ?_, pricing, List.subset_append_left pricing _, hpricing⟩
  exact (Trace.FirstQuote.append_iff (Trace.other_of_asked .gasPrice rfl hpricing)).mpr
    (.cons _ _ _ _ houtput _)

/-- A call for governance and a transaction that make one upgrade: both are for the mailbox and carry no
value, at one gas price, and make the same request but for the account that is refunded and the amount.
The call pays what the mailbox answers at that price, the transaction no less. -/
structure SameUpgrade (config : WethConfig) (account : Address) (replies : Replies)
    (call : GovernanceCall) (tx : L1Transaction) : Prop where
  target : call.target = config.mailbox
  txTarget : tx.target = config.mailbox
  value : call.value = 0
  txValue : tx.value = 0
  gasPrice : tx.gasPrice = call.gasPrice
  quoted : Mailbox.l2TransactionBaseCost.interpret (replies (.call config.mailbox
    (Mailbox.l2TransactionBaseCost.call (call.gasPrice.setWidth 256,
      GasParams.deploymentGasLimit.setWidth 256, GasParams.requiredGasPerPubdata.setWidth 256, ())))) =
        .ok call.amount
  covers : call.amount ≤ config.margin.apply call.amount
  request : Mailbox.requestL2Transaction.decodeCall call.data =
    some (config.upgrade.tokenProxy, 0, GasParams.deploymentGasLimit.setWidth 256,
      GasParams.requiredGasPerPubdata.setWidth 256, config.upgrade.l2Calldata, [], FixedBytes.zero,
      call.amount, ())
  txRequest : Mailbox.requestL2Transaction.decodeCall tx.input =
    some (config.upgrade.tokenProxy, 0, GasParams.deploymentGasLimit.setWidth 256,
      GasParams.requiredGasPerPubdata.setWidth 256, config.upgrade.l2Calldata, [], account,
      config.margin.apply call.amount, ())

/-- Runs with the same answers make the same upgrade. -/
theorem sameUpgrade_of_runs {t' : Trace} {call : GovernanceCall}
    {result : Except BridgeError TransactionOutcome} {lane : Lane} {tx : L1Transaction}
    {answer : Except RpcError SignedTransaction} (hcall : config.governanceCall.Runs t (.ok call))
    (hsubmit : (config.submit account).Runs t' result)
    (hsign : (⟨lane, .sign tx, answer⟩ : Exchange) ∈ t') (hreplies : t.AnsweredBy replies)
    (hreplies' : t'.AnsweredBy replies) : SameUpgrade config account replies call tx := by
  obtain ⟨hcalled, hfirst, hpriced⟩ := governanceCall_of_runs hcall
  obtain ⟨hvalue, hpriced'⟩ := pricedAt_of_runs_submit hsubmit hsign
  have hprice : tx.gasPrice = call.gasPrice := hpriced'.unique hpriced hreplies' hreplies
  have hquoted := hfirst.interpret_eq hreplies
  -- At one price both ask the mailbox the same, so what is answered to one is what the other pays.
  cases charged_of_runs_submit hsubmit with
  | unquoted hreads => cases hreads _ hsign
  | uncovered hreads => cases hreads _ hsign
  | @covered gasPrice cost _ hfirst' hcovers hsigns =>
    obtain ⟨htarget, rfl, hinput⟩ := hsigns _ hsign tx rfl
    have hquoted' := hfirst'.interpret_eq hreplies'
    rw [hprice] at hquoted'
    obtain rfl : call.amount = cost := Except.ok.inj (hquoted.symm.trans hquoted')
    have hdecode := config.decodeCall_request FixedBytes.zero call.amount
    have hdecode' := config.decodeCall_request account (config.margin.apply call.amount)
    rw [← hinput] at hdecode'
    exact {
      target := by rw [hcalled]
      txTarget := htarget
      value := by rw [hcalled]
      txValue := hvalue
      gasPrice := hprice
      quoted := hquoted
      covers := hcovers
      request := by rw [hcalled]; exact hdecode
      txRequest := hdecode' }

end WethConfig

/-- However the token is upgraded, the upgrade is the same: where an L1 answers alike, the call for
governance and the transaction that is signed ask for the same call on L2, which switches the token to
the configured implementation and binds it. Preparing the call neither signs nor sends anything. -/
theorem upgrade_paths_agree :
    (∀ upgrade : WethUpgrade, ∃ data, UpgradeableProxy.upgradeToAndCall.decodeCall upgrade.l2Calldata =
        some (upgrade.tokenImplementation, data, ()) ∧
      L2Weth.bindToken.decodeCall data = some (upgrade.l2WethBridge, upgrade.l1WethToken, ())) ∧
    (∀ (config : WethConfig) t result, config.governanceCall.Runs t result →
      ∀ x ∈ t, x.request.isRead = true) ∧
    ∀ (config : WethConfig) account replies t t' call result lane tx signed,
      config.governanceCall.Runs t (.ok call) → (config.submit account).Runs t' result →
      (⟨lane, .sign tx, .ok signed⟩ : Exchange) ∈ t' → t.AnsweredBy replies →
      t'.AnsweredBy replies → WethConfig.SameUpgrade config account replies call tx := by
  refine ⟨WethUpgrade.decodeCall_l2Calldata, ?_, ?_⟩
  · exact fun config _ _ hrun x hx => (config.asks_governanceCall.exchanges hrun x hx).2
  intro config account replies t t' call result lane tx signed
  exact WethConfig.sameUpgrade_of_runs

/-- The narrow upgrade, but at the gas price of the node. -/
def WethConfig.unpriced : WethConfig := { WethConfig.narrow with gasPrice := none }

/-- What the plain L1 answers to a request that is its first. -/
def Simulation.replies (request : Request) : request.Answer :=
  ((Simulation.answer request).run (.plain [])).1

/-- On the plain L1 both ways succeed, and make the same upgrade at the gas price of the node. -/
theorem upgrade_paths_agree_of_unpriced :
    ∃ t t' call outcome tx signed, WethConfig.unpriced.governanceCall.Runs t (.ok call) ∧
      (WethConfig.unpriced.submit Bootstrap.narrow.account).Runs t' (.ok outcome) ∧
      (⟨.main, .sign tx, .ok signed⟩ : Exchange) ∈ t' ∧
      t.AnsweredBy Simulation.replies ∧ t'.AnsweredBy Simulation.replies ∧
      WethConfig.SameUpgrade WethConfig.unpriced Bootstrap.narrow.account Simulation.replies call tx := by
  obtain ⟨t, called, hcall, hreplies⟩ :=
    Program.exists_runs WethConfig.unpriced.governanceCall.run Simulation.replies
  obtain ⟨t', submitted, hsubmit, hreplies'⟩ :=
    Program.exists_runs (WethConfig.unpriced.submit Bootstrap.narrow.account).run Simulation.replies
  obtain ⟨call, rfl⟩ : ∃ call, called = .ok call := by
    rw [hcall.eq_under hreplies]
    exact isOk_iff.mp (by decide +kernel)
  obtain ⟨outcome, rfl⟩ : ∃ outcome, submitted = .ok outcome := by
    rw [hsubmit.eq_under hreplies']
    exact isOk_iff.mp (by decide +kernel)
  obtain ⟨reads, tx, signed, hash, rfl, _⟩ := WethConfig.exchanges_of_submit hsubmit
  have hsign : (⟨.main, .sign tx, .ok signed⟩ : Exchange) ∈ reads ++ [⟨.main, .sign tx, .ok signed⟩,
      ⟨.main, .send signed, .ok hash⟩,
      ⟨.main, .wait hash WethConfig.unpriced.confirmations, .ok outcome⟩] := by simp
  exact ⟨t, _, call, outcome, tx, signed, hcall, hsubmit, hsign, hreplies, hreplies',
    upgrade_paths_agree.2.2 _ _ _ _ _ _ _ _ _ _ hcall hsubmit hsign hreplies hreplies'⟩

end RollupBridge
