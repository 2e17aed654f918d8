import RollupBridge.Cli.Run
import RollupBridge.Proofs.Bootstrap.Course
import RollupBridge.Proofs.Withdrawal.Preparation

namespace RollupBridge

theorem Address.requireNonZero_eq (address : Address) (field : String) :
    address.requireNonZero field =
      if address = FixedBytes.zero then .error (.zeroAddress field) else .ok () := by
  simp only [requireNonZero, FixedBytes.isZero_iff]

/-- With a host to ask and a chain to be on, only zero addresses are left to refuse. -/
theorem WithdrawalService.create_eq {bridge : BridgeConfig} (config : FinalizerConfig)
    (hhost : bridge.endpoint.host?.isSome = true) (hchain : bridge.chainId ≠ 0) :
    create bridge config =
      if bridge.l1Bridge = FixedBytes.zero then .error (.zeroAddress "bridge-l1-address")
      else if bridge.l2Counterpart = FixedBytes.zero then
        .error (.zeroAddress "bridge-l2-counterpart-address")
      else .ok ⟨⟨bridge.l1Bridge, bridge.l2Counterpart, config.layout⟩, config.mailbox, keccak256⟩ := by
  have hendpoint : bridge.endpoint.requireHost "rpc-endpoint" = .ok () := by
    simp [Url.requireHost, Option.isSome_iff_ne_none.mp hhost]
  have hpositive : requirePositive bridge.chainId "chain-id" = .ok () := if_neg hchain
  unfold create BridgeConfig.validate BridgeConfig.requireCounterpart
  rw [hendpoint, hpositive, Address.requireNonZero_eq, Address.requireNonZero_eq]
  by_cases hl1Bridge : bridge.l1Bridge = FixedBytes.zero
  · simp only [hl1Bridge, if_true]
    rfl
  by_cases hcounterpart : bridge.l2Counterpart = FixedBytes.zero
  · simp only [hl1Bridge, hcounterpart, if_true, if_false]
    rfl
  · simp only [hl1Bridge, hcounterpart, if_false]
    rfl

/-- Without a mailbox and with nothing finalized, a proof only has to be valid. -/
theorem WithdrawalService.under_prepare_of_unused {s : WithdrawalService} {replies : Replies}
    {proof : WithdrawalProof} (hmailbox : s.mailbox = none)
    (hunused : Says (replies (flagRequest s.finalizer.l1Bridge proof.l1BatchNumber proof.l2MessageIndex))
      FixedBytes.zero) :
    (s.prepare proof).under replies = (s.finalizer.validate proof).mapError .withdrawal := by
  rw [under_prepare, flagOf_eq_false_iff.mpr hunused, inclusion, hmailbox]
  cases s.finalizer.validate proof <;> rfl

namespace Cli.Step

variable {m : Type → Type} [Monad m] [LawfulMonad m] {α β ε : Type}

theorem ofResult_error_bind (wrap : ε → BridgeError) (error : ε) (next : α → Step m β) :
    ofResult wrap (.error error) >>= next = throw (.bridge (wrap error)) := by
  refine ExceptT.ext ?_
  change (pure (Except.error _) >>= ExceptT.bindCont next : m _) = pure (.error _)
  rw [pure_bind]
  rfl

theorem ofResult_ok_bind (wrap : ε → BridgeError) (value : α) (next : α → Step m β) :
    ofResult wrap (.ok value) >>= next = next value := by
  refine ExceptT.ext ?_
  change (pure (Except.ok _) >>= ExceptT.bindCont next : m _) = _
  rw [pure_bind]
  rfl

/-- A procedure that starts with a check that fails asks the node nothing. -/
theorem ofAction_error_bind (client : NodeClient m)
    (sign : L1Transaction → Except RpcError SignedTransaction) (wrap : ε → BridgeError) (error : ε)
    (next : α → Action β) :
    ofAction client sign (Action.ofResult wrap (.error error) >>= next) =
      throw (.bridge (wrap error)) := by
  refine ExceptT.ext ?_
  change (pure (Except.error _) >>= fun result => pure (Except.mapError RunError.bridge result) : m _) =
    pure (.error _)
  rw [pure_bind]
  rfl

end Cli.Step

namespace Cli.FinalizeOptions

variable {options : FinalizeOptions} {endpoint : Url} {chainId : Uint 64} {replies : Replies}
  {proof : WithdrawalProof}

/-- The same check with a node: a service without a mailbox prepares the call. -/
def prepareOnline (options : FinalizeOptions) (endpoint : Url) (chainId : Uint 64)
    (proof : WithdrawalProof) : Action ContractCall := do
  let service ← Action.ofResult .config (WithdrawalService.create
    ⟨endpoint, options.bridge.l1Bridge, options.bridge.l2Counterpart, chainId⟩ ⟨options.layout, none⟩)
  service.prepare proof

/-- This is what the command does with a node, where no mailbox is given. -/
theorem checkOnline_eq {m : Type → Type} [Monad m] [LawfulMonad m] {α : Type} {host : Host m α}
    (hendpoint : options.bridge.endpoint = some endpoint)
    (hchain : options.bridge.chainId = some chainId) (hmailbox : options.mailbox = none) :
    options.checkOnline host proof =
      Step.ofAction (host.client endpoint options.bridge.policy NodeClient.standardReceiptTimeout)
        noSigner (options.prepareOnline endpoint chainId proof) := by
  let bridge : BridgeConfig :=
    ⟨endpoint, options.bridge.l1Bridge, options.bridge.l2Counterpart, chainId⟩
  have hconfig : options.bridge.config =
      (bridge.validate.mapError fun error => .bridge (.config error)).map fun _ => bridge := by
    rw [BridgeOptions.config, hendpoint, hchain]
    change (bridge.validate.mapError _ >>= fun _ => pure bridge) = _
    cases bridge.validate <;> rfl
  rw [prepareOnline, checkOnline, hconfig, hmailbox]
  change _ = Step.ofAction _ _ (Action.ofResult .config (WithdrawalService.create bridge _) >>= _)
  -- The command validates the configuration before the service does so again.
  cases hvalidate : bridge.validate with
  | error error =>
    have hcreate : WithdrawalService.create bridge ⟨options.layout, none⟩ = .error error := by
      rw [WithdrawalService.create, hvalidate]
      rfl
    rw [hcreate, Step.ofAction_error_bind]
    exact Step.ofResult_error_bind .config error _
  | ok u =>
    refine (Step.ofResult_ok_bind .config bridge _).trans ?_
    dsimp only
    cases hcreate : WithdrawalService.create bridge ⟨options.layout, none⟩ with
    | error error =>
      rw [Step.ofAction_error_bind]
      exact Step.ofResult_error_bind .config error _
    | ok service => exact Step.ofResult_ok_bind .config service _

/-- The two checks make one verdict of a proof: they hand back the same calls and refuse together. -/
def Agree (options : FinalizeOptions) (endpoint : Url) (chainId : Uint 64) (replies : Replies)
    (proof : WithdrawalProof) : Prop :=
  (∀ call, options.checkOffline proof = .ok call ↔
    (options.prepareOnline endpoint chainId proof).under replies = .ok call) ∧
  ((∃ error, options.checkOffline proof = .error error) ↔
    ∃ error, (options.prepareOnline endpoint chainId proof).under replies = .error error)

theorem under_prepareOnline (hhost : endpoint.host?.isSome = true) (hchain : chainId ≠ 0)
    (hunused : Says (replies (WithdrawalService.flagRequest options.bridge.l1Bridge proof.l1BatchNumber
      proof.l2MessageIndex)) FixedBytes.zero) :
    (options.prepareOnline endpoint chainId proof).under replies =
      if options.bridge.l1Bridge = FixedBytes.zero then
        .error (.config (.zeroAddress "bridge-l1-address"))
      else if options.bridge.l2Counterpart = FixedBytes.zero then
        .error (.config (.zeroAddress "bridge-l2-counterpart-address"))
      else (WithdrawalFinalizer.validate
        ⟨options.bridge.l1Bridge, options.bridge.l2Counterpart, options.layout⟩ proof).mapError
          .withdrawal := by
  rw [prepareOnline, Action.under_bind, Action.under_ofResult,
    WithdrawalService.create_eq _ hhost hchain]
  by_cases hl1Bridge : options.bridge.l1Bridge = FixedBytes.zero
  · rw [if_pos hl1Bridge, if_pos hl1Bridge]
    rfl
  by_cases hcounterpart : options.bridge.l2Counterpart = FixedBytes.zero
  · rw [if_neg hl1Bridge, if_pos hcounterpart, if_neg hl1Bridge, if_pos hcounterpart]
    rfl
  · rw [if_neg hl1Bridge, if_neg hcounterpart, if_neg hl1Bridge, if_neg hcounterpart]
    exact WithdrawalService.under_prepare_of_unused rfl hunused

/-- For an L1 bridge that is not at the zero address, the same calls are handed back. -/
theorem checkOffline_eq_ok_iff (hhost : endpoint.host?.isSome = true) (hchain : chainId ≠ 0)
    (hunused : Says (replies (WithdrawalService.flagRequest options.bridge.l1Bridge proof.l1BatchNumber
      proof.l2MessageIndex)) FixedBytes.zero)
    (hl1Bridge : options.bridge.l1Bridge ≠ FixedBytes.zero) (call : ContractCall) :
    options.checkOffline proof = .ok call ↔
      (options.prepareOnline endpoint chainId proof).under replies = .ok call := by
  rw [under_prepareOnline hhost hchain hunused, if_neg hl1Bridge, checkOffline]
  by_cases hcounterpart : options.bridge.l2Counterpart = FixedBytes.zero
  · simp [hcounterpart]
  · simp only [hcounterpart, if_false, mapError_eq_ok_iff]

/-- Checks that hand back the same calls refuse the same proofs. -/
theorem agree_iff :
    options.Agree endpoint chainId replies proof ↔
      ∀ call, options.checkOffline proof = .ok call ↔
        (options.prepareOnline endpoint chainId proof).under replies = .ok call := by
  refine and_iff_left_of_imp fun hcalls => ?_
  cases hoffline : options.checkOffline proof with
  | ok call =>
    rw [(hcalls call).mp hoffline]
    simp
  | error error =>
    cases honline : (options.prepareOnline endpoint chainId proof).under replies with
    | ok call => cases hoffline.symm.trans ((hcalls call).mpr honline)
    | error error' => simp

/-- A proof is judged alike with a node and without, where nothing has been finalized, except for an L1
bridge at the zero address: it is refused with a node, whatever the proof, and a valid proof for it is
handed back without one. -/
theorem offline_agrees_iff (hhost : endpoint.host?.isSome = true) (hchain : chainId ≠ 0)
    (hunused : Says (replies (WithdrawalService.flagRequest options.bridge.l1Bridge proof.l1BatchNumber
      proof.l2MessageIndex)) FixedBytes.zero) :
    options.Agree endpoint chainId replies proof ↔
      options.bridge.l1Bridge ≠ FixedBytes.zero ∨ ∀ call, options.checkOffline proof ≠ .ok call := by
  rw [agree_iff]
  by_cases hl1Bridge : options.bridge.l1Bridge = FixedBytes.zero
  · rw [under_prepareOnline hhost hchain hunused, if_pos hl1Bridge]
    simp [hl1Bridge]
  · exact iff_of_true (checkOffline_eq_ok_iff hhost hchain hunused hl1Bridge) (Or.inl hl1Bridge)

/-- Options for withdrawals from an L1 bridge at some address. -/
def sample (l1Bridge : Address) : FinalizeOptions where
  bridge := {
    endpoint := none
    l1Bridge := l1Bridge
    l2Counterpart := FixedBytes.ofNat 1
    chainId := none
    maxRetries := 0
    initialDelay := 0
    maxDelay := 0 }
  proof := ""
  layout := .standard
  mailbox := none
  isOffline := true

/-- A proof of a token withdrawal by the counterpart. -/
def sampleProof : WithdrawalProof :=
  { WithdrawalFinalizer.leftmost 1 with
    message := WithdrawalMessage.encode .standard ⟨FixedBytes.ofNat 1, none, Bytes.zeros 96⟩ }

/-- With an L1 bridge at the address one, the proof is handed back either way. -/
theorem offline_agrees_iff_of_sample :
    let bridge : BridgeConfig := Bootstrap.plain.bridge
    let replies := WithdrawalService.holding FixedBytes.zero FixedBytes.zero
    bridge.endpoint.host?.isSome = true ∧ bridge.chainId ≠ 0 ∧
      (sample bridge.l1Bridge).Agree bridge.endpoint bridge.chainId replies sampleProof ∧
      ∃ call, (sample bridge.l1Bridge).checkOffline sampleProof = .ok call := by
  intro bridge replies
  have hunused : Says (replies (WithdrawalService.flagRequest bridge.l1Bridge sampleProof.l1BatchNumber
      sampleProof.l2MessageIndex)) FixedBytes.zero := ⟨[], by rfl⟩
  have hoffline : ((sample bridge.l1Bridge).checkOffline sampleProof).isOk = true := by decide +kernel
  refine ⟨by decide, by decide, ?_, isOk_iff.mp hoffline⟩
  exact (offline_agrees_iff (by decide) (by decide) hunused).mpr (Or.inl (by decide))

/-- With an L1 bridge at the zero address, the proof is handed back without a node and refused with
one. -/
theorem offline_accepts_zero_bridge :
    ¬∀ (options : FinalizeOptions) (endpoint : Url) (chainId : Uint 64) (replies : Replies)
      (proof : WithdrawalProof), endpoint.host?.isSome = true → chainId ≠ 0 →
      Says (replies (WithdrawalService.flagRequest options.bridge.l1Bridge proof.l1BatchNumber
        proof.l2MessageIndex)) FixedBytes.zero →
      options.Agree endpoint chainId replies proof := by
  intro hclaim
  have hunused : Says (WithdrawalService.holding FixedBytes.zero FixedBytes.zero
      (WithdrawalService.flagRequest FixedBytes.zero sampleProof.l1BatchNumber
        sampleProof.l2MessageIndex)) FixedBytes.zero := ⟨[], by rfl⟩
  have hagree := hclaim (sample FixedBytes.zero) Bootstrap.plain.bridge.endpoint 9 _ _ (by decide)
    (by decide) hunused
  have hoffline : ((sample FixedBytes.zero).checkOffline sampleProof).isOk = true := by decide +kernel
  obtain ⟨call, hcall⟩ := isOk_iff.mp hoffline
  have honline := (hagree.1 call).mp hcall
  rw [under_prepareOnline (by decide) (by decide) hunused] at honline
  cases honline

end Cli.FinalizeOptions

end RollupBridge
