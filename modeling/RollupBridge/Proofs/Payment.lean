import RollupBridge.Proofs.Abi.Call
import RollupBridge.Proofs.Bootstrap.Charge
import RollupBridge.Proofs.Bootstrap.Contents
import RollupBridge.Proofs.WethUpgrade

namespace RollupBridge

/-- A transaction that makes a request of the mailbox and offers at least what was quoted first in the
run, which is the quote for its own gas limits at its own gas price. Both are exact integers. -/
def PaysFirstQuote (mailbox : Address) (t : Trace) (tx : L1Transaction) : Prop :=
  ∃ target l2Value gasLimit gasPerPubdata calldata factoryDeps recipient amount cost,
    Mailbox.requestL2Transaction.decodeCall tx.input = some (target, l2Value, gasLimit, gasPerPubdata,
      calldata, factoryDeps, recipient, amount, ()) ∧
    t.FirstQuote mailbox (tx.gasPrice.setWidth 256) gasLimit gasPerPubdata cost ∧
    cost.toNat ≤ amount.toNat

namespace Bootstrap

variable {b : Bootstrap} {codes : BridgeBytecodes} {t : Trace} {s s' : InitState}
  {result : Except BridgeError BootstrapOutcome}

theorem Prepared.publication_pays {prepared : PreparedBootstrap} {nonce limit : Uint 64}
    (hprepared : b.Prepared codes t prepared nonce limit) (rest : Trace) :
    PaysFirstQuote b.config.mailbox (t ++ rest) prepared.publication := by
  obtain ⟨planning, reading, _, hplan, _⟩ := hprepared.reads
  have hplanned := planned_of_runs hplan
  have hfirst := hprepared.firstQuote.append_right rest
  rw [hprepared.publication]
  exact ⟨_, _, _, _, _, _, _, _, _, hplanned.publication_call, hfirst, hplanned.le_apply⟩

/-- The call that deploys a counterpart makes no request, wherever it is sent. -/
theorem Prepared.deployment_no_request {prepared : PreparedBootstrap} {nonce limit : Uint 64}
    (hprepared : b.Prepared codes t prepared nonce limit) :
    Mailbox.requestL2Transaction.decodeCall prepared.deployment.input = none := by
  obtain ⟨planning, reading, _, hplan, _⟩ := hprepared.reads
  have hcalldata := (planned_of_runs hplan).deploymentCalldata
  rw [hprepared.deployment]
  change Mailbox.requestL2Transaction.decodeCall prepared.plan.deploymentCalldata = none
  rw [hcalldata]
  exact Abi.Function.decodeCall_call_eq_none (by decide) _

/-- What a bootstrap signs for the mailbox pays, unless it is the deployment, which goes to the mailbox
only where the L1 bridge is configured at its address. -/
theorem Course.signs_paid (hcourse : b.Course codes s t result s') {lane : Lane} {tx : L1Transaction}
    {answer : Except RpcError SignedTransaction}
    (hmem : (⟨lane, .sign tx, answer⟩ : Exchange) ∈ t) (htarget : tx.target = b.config.mailbox) :
    PaysFirstQuote b.config.mailbox t tx ∨
      b.bridge.l1Bridge = b.config.mailbox ∧
        (L1Bridge.deployCounterpart.decodeCall tx.input).isSome = true := by
  obtain ⟨reads, rest, prepared, rfl, hprepare, htx⟩ := hcourse.signs hmem
  obtain ⟨nonce, limit, hprepared⟩ := prepared_of_runs hprepare
  rcases htx with rfl | rfl
  · exact Or.inl (hprepared.publication_pays rest)
  · obtain ⟨planning, reading, _, hplan, _⟩ := hprepared.reads
    have hcall := (planned_of_runs hplan).deployment_call
    rw [hprepared.deployment] at htarget ⊢
    refine Or.inr ⟨htarget, ?_⟩
    change (L1Bridge.deployCounterpart.decodeCall prepared.plan.deploymentCalldata).isSome = true
    rw [hcall]
    rfl

end Bootstrap

namespace WethConfig

variable {α : Type} {config : WethConfig} {account : Address} {t : Trace} {result : Except BridgeError α}

/-- The request that makes an upgrade is read back as what it was made from. -/
theorem decodeCall_request (config : WethConfig) (account : Address) (amount : Uint 256) :
    Mailbox.requestL2Transaction.decodeCall (config.request account amount).encode =
      some (config.upgrade.tokenProxy, 0, GasParams.deploymentGasLimit.setWidth 256,
        GasParams.requiredGasPerPubdata.setWidth 256, config.upgrade.l2Calldata, [], account, amount,
        ()) := by
  have hlength : (config.request account amount).calldata.length = 196 :=
    config.upgrade.length_l2Calldata
  have hcalldata : (config.request account amount).calldata.length < Uint.size 64 := by
    rw [hlength]
    decide
  exact PriorityTransaction.decodeCall_encode hcalldata ⟨Nat.two_pow_pos 64, by simp [request,
    WethUpgrade.priorityTransaction, PriorityTransaction.create]⟩

theorem Charged.signs_paid (hcharged : Charged config account t result) {lane : Lane}
    {tx : L1Transaction} {answer : Except RpcError SignedTransaction}
    (hmem : (⟨lane, .sign tx, answer⟩ : Exchange) ∈ t) :
    tx.target = config.mailbox ∧ PaysFirstQuote config.mailbox t tx := by
  cases hcharged with
  | unquoted hreads => cases hreads _ hmem
  | uncovered hreads => cases hreads _ hmem
  | @covered gasPrice cost _ hfirst hcovers hsigns =>
    obtain ⟨htarget, rfl, hinput⟩ := hsigns _ hmem tx rfl
    have hcall := config.decodeCall_request account (config.margin.apply cost)
    rw [← hinput] at hcall
    exact ⟨htarget, _, _, _, _, _, _, _, _, _, hcall, hfirst, hcovers⟩

theorem Charged.uncovered_error {gasPrice gasLimit gasPerPubdata cost : Uint 256}
    (hcharged : Charged config account t result)
    (hfirst : t.FirstQuote config.mailbox gasPrice gasLimit gasPerPubdata cost)
    (hless : config.margin.apply cost < cost) :
    (∀ x ∈ t, x.request.isSign = false) ∧
      result = .error (.gasParams (.insufficientValue cost (config.margin.apply cost))) := by
  cases hcharged with
  | unquoted _ hnone => exact absurd hfirst (hnone _ _ _ _)
  | uncovered hreads hquoted =>
    rw [hfirst.cost_unique hquoted]
    exact ⟨fun x hx => Request.isSign_eq_false_of_isRead (hreads x hx), rfl⟩
  | covered hquoted hcovers =>
    rw [hfirst.cost_unique hquoted] at hless
    exact absurd hcovers (BitVec.not_le.mpr hless)

end WethConfig

/-- No request of the mailbox is signed that offers less than it was quoted, by either service: a charge
that saturates below the quote ends the service with an error before anything is signed. Of a bootstrap
one transaction for the mailbox may be no request, the deployment of a bridge that is configured at the
address of the mailbox. -/
theorem signed_requests_pay :
    (∀ (b : Bootstrap) codes s t result s', (b.deploy codes).Runs s t result s' →
      (∀ lane tx answer, (⟨lane, .sign tx, answer⟩ : Exchange) ∈ t → tx.target = b.config.mailbox →
        PaysFirstQuote b.config.mailbox t tx ∨
          b.bridge.l1Bridge = b.config.mailbox ∧
            (L1Bridge.deployCounterpart.decodeCall tx.input).isSome = true) ∧
      ∀ gasPrice gasLimit gasPerPubdata cost,
        t.FirstQuote b.config.mailbox gasPrice gasLimit gasPerPubdata cost →
        b.config.margin.apply cost < cost →
        (∀ x ∈ t, x.request.isSign = false) ∧
          result = .error (.gasParams (.insufficientValue cost (b.config.margin.apply cost))) ∧
          s' = s) ∧
    ∀ (config : WethConfig) account t result, (config.submit account).Runs t result →
      (∀ lane tx answer, (⟨lane, .sign tx, answer⟩ : Exchange) ∈ t →
        tx.target = config.mailbox ∧ PaysFirstQuote config.mailbox t tx) ∧
      ∀ gasPrice gasLimit gasPerPubdata cost,
        t.FirstQuote config.mailbox gasPrice gasLimit gasPerPubdata cost →
        config.margin.apply cost < cost →
        (∀ x ∈ t, x.request.isSign = false) ∧
          result = .error (.gasParams (.insufficientValue cost (config.margin.apply cost))) := by
  constructor
  · intro b codes s t result s' hrun
    have hcourse := Bootstrap.course_of_runs hrun
    exact ⟨fun _ _ _ => hcourse.signs_paid, fun _ _ _ _ => hcourse.uncovered⟩
  · intro config account t result hrun
    have hcharged := WethConfig.charged_of_runs_submit hrun
    exact ⟨fun _ _ _ => hcharged.signs_paid, fun _ _ _ _ => hcharged.uncovered_error⟩

/-- True of requests to sign a transaction to an address. -/
def Request.signsFor (target : Address) : Request → Bool
  | .sign tx => tx.target = target
  | _ => false

theorem Trace.exists_sign {target : Address} {t : Trace}
    (hany : t.any (·.request.signsFor target) = true) :
    ∃ lane tx answer, (⟨lane, .sign tx, answer⟩ : Exchange) ∈ t ∧ tx.target = target := by
  obtain ⟨⟨lane, request, answer⟩, hmem, hsigns⟩ := List.any_eq_true.mp hany
  cases request with
  | sign tx => exact ⟨lane, tx, answer, hmem, of_decide_eq_true hsigns⟩
  | _ => cases hsigns

/-- The plain bootstrap with a margin of one and a half. -/
def Bootstrap.narrow : Bootstrap := { plain with config.margin := ⟨3, 2, by decide, by decide⟩ }

/-- An upgrade with everything configured and with the same margin. -/
def WethConfig.narrow : WethConfig where
  mailbox := Bootstrap.narrow.config.mailbox
  upgrade := ⟨FixedBytes.ofNat 4, FixedBytes.ofNat 5, FixedBytes.ofNat 6, FixedBytes.ofNat 7⟩
  margin := Bootstrap.narrow.config.margin
  gasPrice := some 1
  nonce := some 0

/-- An L1 that quotes the largest cost there is for the first request of each service. -/
def Simulation.priciest : Simulation :=
  { Simulation.plain [] with l1.costs := [(72000000, Uint.max 256), (10000000, Uint.max 256)] }

/-- What is signed on an L1 that does what it is asked pays. Where the margin on the largest cost
saturates, nothing is signed. -/
theorem signed_requests_pay_of_saturated :
    let account := Bootstrap.narrow.account
    let paid := (Bootstrap.narrow.deploy .plain).recorded .unpublished (.plain [])
    let refused := (Bootstrap.narrow.deploy .plain).recorded .unpublished .priciest
    let paid' := (WethConfig.narrow.submit account).run.record Simulation.answer (.plain [])
    let refused' := (WethConfig.narrow.submit account).run.record Simulation.answer .priciest
    (Bootstrap.narrow.deploy .plain).Runs .unpublished paid.1 paid.2.1 paid.2.2 ∧
      (∃ tx, PaysFirstQuote Bootstrap.narrow.config.mailbox paid.1 tx) ∧
      (Bootstrap.narrow.deploy .plain).Runs .unpublished refused.1 refused.2.1 refused.2.2 ∧
      (∀ x ∈ refused.1, x.request.isSign = false) ∧
      (WethConfig.narrow.submit account).Runs paid'.1 paid'.2.1 ∧
      (∃ tx, PaysFirstQuote WethConfig.narrow.mailbox paid'.1 tx) ∧
      (WethConfig.narrow.submit account).Runs refused'.1 refused'.2.1 ∧
      ∀ x ∈ refused'.1, x.request.isSign = false := by
  have hfirst : Trace.FirstQuote Bootstrap.narrow.config.mailbox
      ((Bootstrap.narrow.deploy .plain).recorded .unpublished .priciest).1 1 72000000 800
      (Uint.max 256) := ⟨(Uint.max 256).toWord.bytes, by rfl, by rfl⟩
  have hfirst' : Trace.FirstQuote WethConfig.narrow.mailbox
      ((WethConfig.narrow.submit Bootstrap.narrow.account).run.record Simulation.answer .priciest).1
      1 10000000 800 (Uint.max 256) := ⟨(Uint.max 256).toWord.bytes, by rfl, by rfl⟩
  have hless : Bootstrap.narrow.config.margin.apply (Uint.max 256) < Uint.max 256 := by decide
  have hsign : ((Bootstrap.narrow.deploy .plain).recorded .unpublished (.plain [])).1.any
      (·.request.signsFor Bootstrap.narrow.config.mailbox) = true := by decide +kernel
  have hsign' : ((WethConfig.narrow.submit Bootstrap.narrow.account).run.record Simulation.answer
      (.plain [])).1.any (·.request.signsFor WethConfig.narrow.mailbox) = true := by decide +kernel
  intro account paid refused paid' refused'
  have hpaid : (Bootstrap.narrow.deploy .plain).Runs .unpublished paid.1 paid.2.1 paid.2.2 :=
    StateAction.runs_recorded ..
  have hrefused :
      (Bootstrap.narrow.deploy .plain).Runs .unpublished refused.1 refused.2.1 refused.2.2 :=
    StateAction.runs_recorded ..
  have hpaid' : (WethConfig.narrow.submit account).Runs paid'.1 paid'.2.1 := Program.runs_record ..
  have hrefused' : (WethConfig.narrow.submit account).Runs refused'.1 refused'.2.1 :=
    Program.runs_record ..
  refine ⟨hpaid, ?_, hrefused, ?_, hpaid', ?_, hrefused', ?_⟩
  · obtain ⟨lane, tx, answer, hmem, htarget⟩ := Trace.exists_sign hsign
    have hpays := (signed_requests_pay.1 _ _ _ _ _ _ hpaid).1 lane tx answer hmem htarget
    exact ⟨tx, hpays.resolve_right fun hdeployment => absurd hdeployment.1 (by decide)⟩
  · exact ((signed_requests_pay.1 _ _ _ _ _ _ hrefused).2 _ _ _ _ hfirst hless).1
  · obtain ⟨lane, tx, answer, hmem, _⟩ := Trace.exists_sign hsign'
    exact ⟨tx, ((signed_requests_pay.2 _ _ _ _ hpaid').1 lane tx answer hmem).2⟩
  · exact ((signed_requests_pay.2 _ _ _ _ hrefused').2 _ _ _ _ hfirst' hless).1

/-- The plain bootstrap of an L1 bridge that is configured at the address of the mailbox. -/
def Bootstrap.atMailbox : Bootstrap :=
  { plain with bridge.l1Bridge := plain.config.mailbox, addressHash := keccak256 }

/-- Where the L1 bridge is configured at the address of the mailbox, the deployment is signed for the
mailbox as well, and it is no request. -/
theorem deployment_to_mailbox_pays_nothing :
    ¬∀ (bridge : BridgeConfig) (config : BootstrapConfig) (account : Address)
      (hasher : BytecodeHasher) (b : Bootstrap) codes s t result s',
      (Bootstrap.create bridge config account).map (fun new => { new with hasher }) = .ok b →
      (b.deploy codes).Runs s t result s' →
      ∀ lane tx answer, (⟨lane, .sign tx, answer⟩ : Exchange) ∈ t → tx.target = b.config.mailbox →
        PaysFirstQuote b.config.mailbox t tx := by
  intro hclaim
  have hcreate : (Bootstrap.create Bootstrap.atMailbox.bridge Bootstrap.atMailbox.config
      Bootstrap.atMailbox.account).map (fun new => { new with hasher := Bootstrap.plain.hasher }) =
        .ok Bootstrap.atMailbox := by rfl
  have hsent : ((Bootstrap.atMailbox.deploy .plain).recorded .unpublished (.plain [])).1.any
      (·.request.isSend) = true := by decide +kernel
  have hrun := StateAction.runs_recorded (Bootstrap.atMailbox.deploy .plain) .unpublished (.plain [])
  rcases (Bootstrap.course_of_runs hrun).broadcast_prepared with hunsent | hbroadcast
  · obtain ⟨x, hx, hsend⟩ := List.any_eq_true.mp hsent
    cases (hunsent x hx).symm.trans hsend
  obtain ⟨reads, rest, prepared, nonce, _, signedDeployment, _, hprepare, _, hbroadcast⟩ := hbroadcast
  obtain ⟨_, _, hprepared⟩ := Bootstrap.prepared_of_runs hprepare
  have hsigned := List.mem_filter.mp (hbroadcast.signed ▸ List.mem_cons_of_mem _ List.mem_cons_self)
  obtain ⟨_, _, _, _, _, _, _, _, _, hcall, _⟩ := hclaim _ _ _ _ _ _ _ _ _ _ hcreate hrun
    .main prepared.deployment (.ok signedDeployment) hsigned.1 hbroadcast.deployment_eq.1
  cases hcall.symm.trans hprepared.deployment_no_request

end RollupBridge
