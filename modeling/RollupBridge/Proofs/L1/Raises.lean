import RollupBridge.FeeEstimate
import RollupBridge.Proofs.L1.View

namespace RollupBridge

variable {α β ε : Type} {possible : BridgeError → Prop}

namespace Action

/-- Every error that a procedure can end in is possible. -/
def Raises (possible : BridgeError → Prop) (action : Action α) : Prop :=
  ∀ t error, action.Runs t (.error error) → possible error

theorem raises_pure (value : α) : (pure value : Action α).Raises possible := by
  intro t error hrun
  simp at hrun

theorem raises_throw {error : BridgeError} (hpossible : possible error) :
    (throw error : Action α).Raises possible := by
  intro t other hrun
  obtain ⟨_, heq⟩ := runs_throw_iff.mp hrun
  cases heq
  exact hpossible

theorem raises_ofResult {wrap : ε → BridgeError} {checked : Except ε α}
    (hpossible : ∀ error, possible (wrap error)) : (ofResult wrap checked).Raises possible := by
  intro t error hrun
  obtain ⟨_, heq⟩ := runs_ofResult_iff.mp hrun
  cases checked with
  | error reason =>
    cases heq
    exact hpossible reason
  | ok value => cases heq

theorem raises_ask {request : Request} (hpossible : ∀ error, possible (.rpc error)) :
    (ask request).Raises possible := by
  intro t error hrun
  obtain ⟨reason, _, rfl⟩ := runs_ask_error_iff.mp hrun
  exact hpossible reason

theorem Raises.bind {action : Action α} {next : α → Action β} (hraises : action.Raises possible)
    (hnext : ∀ value, (next value).Raises possible) : (action >>= next).Raises possible := by
  intro t error hrun
  rcases runs_bind_iff.mp hrun with ⟨reason, hfirst, heq⟩ | ⟨before, after, value, _, _, hthen⟩
  · cases heq
    exact hraises t error hfirst
  · exact hnext value after error hthen

theorem Raises.guard {refused : Prop} [Decidable refused] {error : BridgeError}
    {next : Unit → Action α} (hpossible : possible error) (hnext : ∀ u, (next u).Raises possible) :
    (if refused then throw error >>= next else next ()).Raises possible := by
  split
  · exact (raises_throw hpossible).bind hnext
  · exact hnext ()

theorem Raises.orRead {configured : Option α} {read : Action α} (hraises : read.Raises possible) :
    (orRead configured read).Raises possible := by
  cases configured with
  | none => exact hraises
  | some value => exact raises_pure value

end Action

/-- A read fails with the error of its request, or because the output does not decode. -/
theorem View.raises_read {view : View} {contract : Address} {args : Abi.Args view.params}
    (hrpc : ∀ error, possible (.rpc error)) (hcontract : ∀ text, possible (.contract text)) :
    (view.read contract args).Raises possible := by
  refine (Action.raises_ask hrpc).bind fun output => ?_
  split
  · exact Action.raises_pure _
  · exact Action.raises_throw (hcontract _)

theorem FeeOracle.raises_baseCost {oracle : FeeOracle} {params : GasParams}
    (hrpc : ∀ error, possible (.rpc error)) (hcontract : ∀ text, possible (.contract text))
    (hparams : ∀ error, possible (.gasParams error)) : (oracle.baseCost params).Raises possible := by
  refine (Action.raises_ofResult hparams).bind fun _ => ?_
  cases oracle with
  | localModel => exact Action.raises_ofResult hparams
  | mailbox address => exact View.raises_read hrpc hcontract

end RollupBridge
