import RollupBridge.WethUpgrade
import RollupBridge.Proofs.L1.Quote

namespace RollupBridge.WethConfig

variable {config : WethConfig} {account : Address} {t : Trace}

/-- The request that makes the upgrade for an account and offers some amount. -/
def request (config : WethConfig) (account : Address) (amount : Uint 256) : PriorityTransaction :=
  { config.upgrade.priorityTransaction with refundRecipient := account, requiredValue := amount }

/-- What an upgrade may ask for: a signature only of a request to the mailbox that offers the amount. -/
def Signs (config : WethConfig) (account : Address) (gasPrice : Uint 128) (amount : Uint 256)
    (request : Request) : Prop :=
  ∀ tx, request = .sign tx → tx.target = config.mailbox ∧ tx.gasPrice = gasPrice ∧
    tx.input = (config.request account amount).encode

/-- How an upgrade is charged. What is signed offers what was quoted first with the margin put on, and
only if that covers the quote. -/
inductive Charged {α : Type} (config : WethConfig) (account : Address) (t : Trace) :
    Except BridgeError α → Prop
  | unquoted {error : BridgeError} (hreads : ∀ x ∈ t, x.request.isRead = true)
      (hnone : ∀ gasPrice gasLimit gasPerPubdata cost,
        ¬t.FirstQuote config.mailbox gasPrice gasLimit gasPerPubdata cost) :
      Charged config account t (.error error)
  | uncovered {gasPrice : Uint 128} {cost : Uint 256} (hreads : ∀ x ∈ t, x.request.isRead = true)
      (hfirst : t.FirstQuote config.mailbox (gasPrice.setWidth 256)
        (GasParams.deploymentGasLimit.setWidth 256) (GasParams.requiredGasPerPubdata.setWidth 256)
        cost)
      (hless : config.margin.apply cost < cost) :
      Charged config account t
        (.error (.gasParams (.insufficientValue cost (config.margin.apply cost))))
  | covered {gasPrice : Uint 128} {cost : Uint 256} {result : Except BridgeError α}
      (hfirst : t.FirstQuote config.mailbox (gasPrice.setWidth 256)
        (GasParams.deploymentGasLimit.setWidth 256) (GasParams.requiredGasPerPubdata.setWidth 256)
        cost)
      (hcovers : cost ≤ config.margin.apply cost)
      (hsigns : ∀ x ∈ t, config.Signs account gasPrice (config.margin.apply cost) x.request) :
      Charged config account t result

section Signs

variable {gasPrice : Uint 128} {amount : Uint 256} {request : Request}

theorem signs_of_isSign_eq_false (hunsigned : request.isSign = false) :
    config.Signs account gasPrice amount request := by
  rintro tx rfl
  cases hunsigned

theorem signs_of_isRead (hread : request.isRead = true) :
    config.Signs account gasPrice amount request :=
  signs_of_isSign_eq_false (Request.isSign_eq_false_of_isRead hread)

end Signs

namespace Charged

variable {α : Type} {earlier : Trace} {result : Except BridgeError α} {error : BridgeError}

/-- Nothing is charged before a quote is asked for. -/
theorem of_other (hreads : ∀ x ∈ t, x.request.isRead = true)
    (hother : ∀ x ∈ t, x.request.calls Mailbox.l2TransactionBaseCost.toFunction = false) :
    Charged config account t (.error error : Except BridgeError α) :=
  .unquoted hreads fun _ _ _ _ => Trace.FirstQuote.not_of_other hother

theorem append_left (hreads : ∀ x ∈ earlier, x.request.isRead = true)
    (hother : ∀ x ∈ earlier, x.request.calls Mailbox.l2TransactionBaseCost.toFunction = false)
    (hcharged : Charged config account t result) : Charged config account (earlier ++ t) result := by
  cases hcharged with
  | unquoted hrest hnone =>
    refine .unquoted (List.forall_mem_append.mpr ⟨hreads, hrest⟩) ?_
    intro gasPrice gasLimit gasPerPubdata cost
    rw [Trace.FirstQuote.append_iff hother]
    exact hnone gasPrice gasLimit gasPerPubdata cost
  | uncovered hrest hfirst hless =>
    exact .uncovered (List.forall_mem_append.mpr ⟨hreads, hrest⟩)
      ((Trace.FirstQuote.append_iff hother).mpr hfirst) hless
  | covered hfirst hcovers hsigns =>
    refine .covered ((Trace.FirstQuote.append_iff hother).mpr hfirst) hcovers ?_
    exact List.forall_mem_append.mpr ⟨fun x hx => signs_of_isRead (hreads x hx), hsigns⟩

end Charged

/-- What is done for a signature of a call of the mailbox: the nonce, the gas, and the signature. -/
def signNumbered (config : WethConfig) (account : Address) (chainId : Uint 64) (gasPrice : Uint 128)
    (input : Bytes) : Action SignedTransaction := do
  let nonce ← Action.orRead config.nonce (Action.ask (.pendingNonce account))
  let tx : L1Transaction := {
    target := config.mailbox, value := 0, input, nonce, gasLimit := 0, gasPrice, chainId }
  let gasLimit ← Action.ask (.estimateGas account tx)
  Action.ask (.sign { tx with gasLimit })

/-- What is done for a signature once the chain and the gas price are known. -/
def signPriced (config : WethConfig) (account : Address) (chainId : Uint 64) (gasPrice : Uint 128) :
    Action SignedTransaction := do
  let request := { config.upgrade.priorityTransaction with refundRecipient := account }
  let fee ← (FeeOracle.mailbox config.mailbox).estimate (request.gasParams gasPrice) config.margin
  let request := { request with requiredValue := fee.value }
  Action.ofResult .gasParams (request.ensureCovers fee.baseCost)
  config.signNumbered account chainId gasPrice request.encode

theorem sign_eq (config : WethConfig) (account : Address) :
    config.sign account = Action.ask .chainId >>= fun chainId =>
      config.currentGasPrice >>= fun gasPrice => config.signPriced account chainId gasPrice := rfl

theorem asks_signNumbered {allowed : Request → Prop} {chainId : Uint 64} {gasPrice : Uint 128}
    {input : Bytes} (hread : ∀ request, request.isRead = true → allowed request)
    (hsign : ∀ nonce gasLimit,
      allowed (.sign ⟨config.mailbox, 0, input, nonce, gasLimit, gasPrice, chainId⟩)) :
    (config.signNumbered account chainId gasPrice input).Asks allowed := by
  refine (Action.Asks.orRead (Action.asks_ask (.pendingNonce account) (hread _ rfl)
    (by simp))).bind fun nonce => ?_
  refine (Action.asks_ask (.estimateGas _ _) (hread _ rfl) (by simp)).bind fun gasLimit => ?_
  exact Action.asks_ask (.sign _) (hsign nonce gasLimit) (by simp)

/-- The gas price was found in a run: it is configured, or the node was asked for it. -/
def PricedAt (config : WethConfig) (t : Trace) (gasPrice : Uint 128) : Prop :=
  ∃ pricing, pricing ⊆ t ∧ config.currentGasPrice.Runs pricing (.ok gasPrice)

theorem PricedAt.mono {gasPrice : Uint 128} {longer : Trace} (hpriced : config.PricedAt t gasPrice)
    (hsubset : t ⊆ longer) : config.PricedAt longer gasPrice := by
  obtain ⟨pricing, hpricing, hrun⟩ := hpriced
  exact ⟨pricing, fun x hx => hsubset (hpricing hx), hrun⟩

/-- How an upgrade comes to be signed: it fails at the chain or at the gas price, or these are read and
then everything else is done at the price that was read. Up to there nothing is quoted. -/
inductive Priced (config : WethConfig) (account : Address) :
    Trace → Except BridgeError SignedTransaction → Prop
  | unpriced {t : Trace} {error : BridgeError} (hreads : ∀ x ∈ t, x.request.isRead = true)
      (hother : ∀ x ∈ t, x.request.calls Mailbox.l2TransactionBaseCost.toFunction = false) :
      Priced config account t (.error error)
  | priced {reads rest : Trace} {chainId : Uint 64} {gasPrice : Uint 128}
      {result : Except BridgeError SignedTransaction} (hreads : ∀ x ∈ reads, x.request.isRead = true)
      (hother : ∀ x ∈ reads, x.request.calls Mailbox.l2TransactionBaseCost.toFunction = false)
      (hpriced : config.PricedAt reads gasPrice)
      (hrest : (config.signPriced account chainId gasPrice).Runs rest result) :
      Priced config account (reads ++ rest) result

theorem priced_of_runs_sign {result : Except BridgeError SignedTransaction}
    (hrun : (config.sign account).Runs t result) : Priced config account t result := by
  rw [sign_eq, Action.runs_bind_iff] at hrun
  rcases hrun with ⟨_, hchain, rfl⟩ | ⟨_, _, chainId, rfl, hchain, hrun⟩
  · obtain ⟨_, rfl, _⟩ := Action.runs_ask_error_iff.mp hchain
    exact .unpriced (by simp [Request.isRead]) (by simp [Request.calls])
  rw [Action.runs_ask_ok_iff] at hchain
  subst hchain
  rw [Action.runs_bind_iff] at hrun
  rcases hrun with ⟨_, hpricing, rfl⟩ | ⟨pricing, rest, gasPrice, rfl, hpricing, hrun⟩
  · have hreads := Trace.isRead_of_asked .gasPrice rfl hpricing
    have hother := Trace.other_of_asked .gasPrice rfl hpricing
    exact .unpriced (List.forall_mem_cons.mpr ⟨rfl, hreads⟩) (List.forall_mem_cons.mpr ⟨rfl, hother⟩)
  · have hreads := Trace.isRead_of_asked .gasPrice rfl hpricing
    have hother := Trace.other_of_asked .gasPrice rfl hpricing
    rw [← List.append_assoc]
    exact .priced (List.forall_mem_cons.mpr ⟨rfl, hreads⟩) (List.forall_mem_cons.mpr ⟨rfl, hother⟩)
      ⟨pricing, List.subset_cons_self _ _, hpricing⟩ hrun

/-- The gas price is read before the quote, and only a charge that covers the quote is signed. -/
theorem charged_of_runs_sign {result : Except BridgeError SignedTransaction}
    (hrun : (config.sign account).Runs t result) : Charged config account t result := by
  cases priced_of_runs_sign hrun with
  | unpriced hreads hother => exact .of_other hreads hother
  | priced hreads hother _ hrest =>
    refine .append_left hreads hother ?_
    cases FeeOracle.charge_of_runs (config.request account) (fun _ => rfl) (fun _ => rfl) hrest with
    | unquoted hreads hfails =>
      exact .unquoted hreads fun _ _ _ _ => Trace.FirstQuote.not_of_fails hfails
    | uncovered hreads hfirst hless => exact .uncovered hreads hfirst hless
    | covered hreads hfirst hcovers hnext =>
      refine .covered (hfirst.append_right _) hcovers (List.forall_mem_append.mpr ⟨?_, ?_⟩)
      · exact fun x hx => signs_of_isRead (hreads x hx)
      · refine fun x hx => (Action.Asks.exchanges ?_ hnext x hx).2
        refine asks_signNumbered (fun _ => signs_of_isRead) fun nonce gasLimit => ?_
        rintro tx hsame
        cases hsame
        exact ⟨rfl, rfl, rfl⟩

/-- What is sent was signed before, and the outcome of the transaction charges nothing. -/
theorem charged_of_runs_submit {result : Except BridgeError TransactionOutcome}
    (hrun : (config.submit account).Runs t result) : Charged config account t result := by
  unfold WethConfig.submit at hrun
  rw [Action.runs_bind_iff] at hrun
  rcases hrun with ⟨error, hsign, rfl⟩ | ⟨signing, rest, signed, rfl, hsign, hrun⟩
  · cases charged_of_runs_sign hsign with
    | unquoted hreads hnone => exact .unquoted hreads hnone
    | uncovered hreads hfirst hless => exact .uncovered hreads hfirst hless
    | covered hfirst hcovers hsigns => exact .covered hfirst hcovers hsigns
  cases charged_of_runs_sign hsign with
  | covered hfirst hcovers hsigns =>
    refine .covered (hfirst.append_right rest) hcovers (List.forall_mem_append.mpr ⟨hsigns, ?_⟩)
    refine fun x hx => (Action.Asks.exchanges ?_ hrun x hx).2
    refine (Action.asks_ask (.send _) (signs_of_isSign_eq_false rfl) (by simp)).bind fun hash => ?_
    refine (Action.asks_ask (.wait _ _) (signs_of_isSign_eq_false rfl)
      (by simp)).bind fun outcome => ?_
    exact (Action.asks_ofResult _ _).bind fun _ => Action.asks_pure _

end RollupBridge.WethConfig
