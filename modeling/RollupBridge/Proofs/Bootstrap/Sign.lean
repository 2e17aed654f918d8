import RollupBridge.Bootstrap.Deploy
import RollupBridge.Proofs.Bootstrap.Plan

namespace RollupBridge.Bootstrap

variable {b : Bootstrap} {codes : BridgeBytecodes} {t : Trace}

theorem nextNonce_eq_ok_iff {nonce next : Uint 64} :
    nextNonce nonce = .ok next ↔ nonce ≠ Uint.max 64 ∧ next = nonce + 1 := by
  rw [nextNonce]
  split
  · rename_i hlast
    simp [hlast]
  · rename_i hnonce
    simp [hnonce, eq_comm]

/-- Preparing neither signs nor sends. -/
theorem asks_prepare : (b.prepare codes).Asks IsPreparatory := by
  refine (Action.asks_ask .chainId ⟨rfl, rfl⟩ (by simp)).bind fun chainId => ?_
  refine Action.Asks.guard fun _ => ?_
  refine (asks_plan.mono fun _ => And.left).bind fun plan => ?_
  refine (Action.Asks.orRead (Action.asks_ask (.pendingNonce b.account) ⟨rfl, rfl⟩ (by simp))).bind
    fun nonce => ?_
  refine (Action.asks_ofResult _ _).bind fun deploymentNonce => ?_
  exact (Action.asks_ask (.estimateGas _ _) ⟨rfl, rfl⟩ (by simp)).bind fun _ => Action.asks_pure _

/-- How both transactions were prepared: with the nonce that is configured or else read, which is
not the last, and the one after it. -/
structure Prepared (b : Bootstrap) (codes : BridgeBytecodes) (t : Trace)
    (prepared : PreparedBootstrap) (nonce gasLimit : Uint 64) : Prop where
  nonce_ne_max : nonce ≠ Uint.max 64
  publication : prepared.publication = b.publicationTx prepared.plan nonce b.bridge.chainId
  deployment : prepared.deployment =
    b.deploymentTx prepared.plan (nonce + 1) b.bridge.chainId gasLimit
  reads : ∃ planning reading,
    t = ⟨.main, .chainId, .ok b.bridge.chainId⟩ :: (planning ++ (reading ++
      [⟨.main, .estimateGas b.account (b.deploymentTx prepared.plan (nonce + 1) b.bridge.chainId 0),
        .ok gasLimit⟩])) ∧
    (b.plan codes).Runs planning (.ok prepared.plan) ∧
    (Action.orRead b.config.nonce (Action.ask (.pendingNonce b.account))).Runs reading (.ok nonce)

theorem prepared_of_runs {prepared : PreparedBootstrap}
    (hrun : (b.prepare codes).Runs t (.ok prepared)) :
    ∃ nonce gasLimit, b.Prepared codes t prepared nonce gasLimit := by
  unfold prepare at hrun
  rw [Action.runs_bind_ok_iff] at hrun
  obtain ⟨_, _, chainId, rfl, hchain, hrun⟩ := hrun
  rw [Action.runs_ask_ok_iff] at hchain
  subst hchain
  dsimp only at hrun
  rw [Action.runs_guard_ok_iff] at hrun
  obtain ⟨hchain, hrun⟩ := hrun
  have hchain : chainId = b.bridge.chainId := by simpa using hchain
  subst hchain
  rw [Action.runs_bind_ok_iff] at hrun
  obtain ⟨planning, _, plan, rfl, hplan, hrun⟩ := hrun
  rw [Action.runs_bind_ok_iff] at hrun
  obtain ⟨reading, _, nonce, rfl, hreading, hrun⟩ := hrun
  rw [Action.runs_bind_ok_iff] at hrun
  obtain ⟨_, _, next, rfl, hnext, hrun⟩ := hrun
  rw [Action.runs_ofResult_ok_iff, nextNonce_eq_ok_iff] at hnext
  obtain ⟨rfl, hnonce, rfl⟩ := hnext
  rw [Action.runs_bind_ok_iff] at hrun
  obtain ⟨_, _, gasLimit, rfl, hestimate, hrun⟩ := hrun
  rw [Action.runs_ask_ok_iff] at hestimate
  subst hestimate
  rw [Action.runs_pure_iff] at hrun
  obtain ⟨rfl, hprepared⟩ := hrun
  cases hprepared
  exact ⟨nonce, gasLimit, {
    nonce_ne_max := hnonce
    publication := rfl
    deployment := rfl
    reads := ⟨planning, reading, by simp, hplan, hreading⟩ }⟩

/-- How signing can go. The second signature is asked for only once the first is there. -/
inductive Signing (b : Bootstrap) (codes : BridgeBytecodes) :
    Trace → Except BridgeError SignedBootstrap → Prop
  | unprepared {t : Trace} {error : BridgeError} (hprepare : (b.prepare codes).Runs t (.error error)) :
      Signing b codes t (.error error)
  | publicationUnsigned {t : Trace} {prepared : PreparedBootstrap}
      (hprepare : (b.prepare codes).Runs t (.ok prepared)) (error : RpcError) :
      Signing b codes (t ++ [⟨.main, .sign prepared.publication, .error error⟩]) (.error (.rpc error))
  | deploymentUnsigned {t : Trace} {prepared : PreparedBootstrap}
      (hprepare : (b.prepare codes).Runs t (.ok prepared)) (publication : SignedTransaction)
      (error : RpcError) :
      Signing b codes (t ++ [⟨.main, .sign prepared.publication, .ok publication⟩,
        ⟨.main, .sign prepared.deployment, .error error⟩]) (.error (.rpc error))
  | signed {t : Trace} {prepared : PreparedBootstrap}
      (hprepare : (b.prepare codes).Runs t (.ok prepared))
      (publication deployment : SignedTransaction) :
      Signing b codes (t ++ [⟨.main, .sign prepared.publication, .ok publication⟩,
        ⟨.main, .sign prepared.deployment, .ok deployment⟩])
        (.ok ⟨prepared.plan, publication, deployment⟩)

theorem signing_of_runs {result : Except BridgeError SignedBootstrap}
    (hrun : (b.sign codes).Runs t result) : b.Signing codes t result := by
  unfold sign at hrun
  rw [Action.runs_bind_iff] at hrun
  rcases hrun with ⟨error, hprepare, rfl⟩ | ⟨reading, _, prepared, rfl, hprepare, hrun⟩
  · exact .unprepared hprepare
  rw [Action.runs_bind_iff] at hrun
  rcases hrun with ⟨_, hsign, rfl⟩ | ⟨_, _, publication, rfl, hsign, hrun⟩
  · rw [Action.runs_ask_error_iff] at hsign
    obtain ⟨error, rfl, rfl⟩ := hsign
    exact .publicationUnsigned hprepare error
  rw [Action.runs_ask_ok_iff] at hsign
  subst hsign
  rw [Action.runs_bind_iff] at hrun
  rcases hrun with ⟨_, hsign, rfl⟩ | ⟨_, _, deployment, rfl, hsign, hrun⟩
  · rw [Action.runs_ask_error_iff] at hsign
    obtain ⟨error, rfl, rfl⟩ := hsign
    exact .deploymentUnsigned hprepare publication error
  rw [Action.runs_ask_ok_iff] at hsign
  subst hsign
  rw [Action.runs_pure_iff] at hrun
  obtain ⟨rfl, rfl⟩ := hrun
  exact .signed hprepare publication deployment

/-- No error of signing is about the state of the bridge. -/
theorem raises_sign : (b.sign codes).Raises fun error => ∀ reason, error ≠ .initState reason := by
  have hprepare : (b.prepare codes).Raises fun error => ∀ reason, error ≠ .initState reason := by
    refine (Action.raises_ask (by simp)).bind fun chainId => ?_
    refine Action.Raises.guard (by simp) fun _ => ?_
    refine raises_plan.bind fun plan => ?_
    refine Action.Raises.bind (.orRead (Action.raises_ask (by simp))) fun nonce => ?_
    refine (Action.raises_ofResult (by simp)).bind fun deploymentNonce => ?_
    exact (Action.raises_ask (by simp)).bind fun _ => Action.raises_pure _
  refine hprepare.bind fun prepared => ?_
  refine (Action.raises_ask (by simp)).bind fun publication => ?_
  exact (Action.raises_ask (by simp)).bind fun deployment => Action.raises_pure _

/-- What signing asks for: reads and signatures. -/
theorem asks_sign : (b.sign codes).Asks fun request =>
    IsPreparatory request ∨ request.isSign = true := by
  refine (asks_prepare.mono fun _ => Or.inl).bind fun prepared => ?_
  refine (Action.asks_ask (.sign _) (Or.inr rfl) (by simp)).bind fun publication => ?_
  exact (Action.asks_ask (.sign _) (Or.inr rfl) (by simp)).bind fun deployment => Action.asks_pure _

/-- Signing sends nothing. -/
theorem isSend_eq_false_of_sign {signed : Except BridgeError SignedBootstrap}
    (hsign : (b.sign codes).Runs t signed) : ∀ x ∈ t, x.request.isSend = false := by
  intro x hx
  rcases (asks_sign.exchanges hsign x hx).2 with hpreparatory | hsignature
  · exact Request.isSend_eq_false_of_isRead hpreparatory.1
  · exact Request.isSend_eq_false_of_isSign hsignature

end RollupBridge.Bootstrap
