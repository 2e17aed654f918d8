import RollupBridge.FeeEstimate
import RollupBridge.Proofs.L1.View

namespace RollupBridge

variable {α β ε : Type} {allowed : Request → Prop}

/-- An exchange that yields nothing: the request failed, or a view was answered with less than the
word it returns. -/
inductive Exchange.Fails : Exchange → Prop
  | error (lane : Lane) (request : Request) (error : RpcError) : Fails ⟨lane, request, .error error⟩
  | short (lane : Lane) (contract : Address) (data output : Bytes) (hshort : output.length < 32) :
      Fails ⟨lane, .call contract data, .ok output⟩

/-- Only allowed requests are made, by the procedure itself, and an exchange that fails is the last.
The error of a request is passed on. Everything a service does before it submits is of this kind. -/
inductive Program.Asks (allowed : Request → Prop) : Program (Except BridgeError α) → Prop
  | done (result : Except BridgeError α) : Asks allowed (.done result)
  | ask {request : Request} {next : request.Answer → Program (Except BridgeError α)}
      (hallowed : allowed request)
      (herror : ∀ error, next (.error error) = .done (.error (.rpc error)))
      (hfail : ∀ answer, Exchange.Fails ⟨.main, request, answer⟩ →
        ∃ error, next answer = .done (.error error))
      (hnext : ∀ answer, Asks allowed (next answer)) :
      Asks allowed (.ask request next)

namespace Program.Asks

theorem mono {wider : Request → Prop} {p : Program (Except BridgeError α)} (hasks : p.Asks allowed)
    (hwider : ∀ request, allowed request → wider request) : p.Asks wider := by
  induction hasks with
  | done result => exact .done result
  | ask hallowed herror hfail _ ih => exact .ask (hwider _ hallowed) herror hfail ih

theorem bind {p : Program (Except BridgeError α)}
    {k : Except BridgeError α → Program (Except BridgeError β)} (hasks : p.Asks allowed)
    (herror : ∀ error, k (.error error) = .done (.error error))
    (hok : ∀ value, (k (.ok value)).Asks allowed) : (p.bind k).Asks allowed := by
  induction hasks with
  | done result =>
    cases result with
    | error error =>
      rw [Program.bind, herror]
      exact .done _
    | ok value => exact hok value
  | ask hallowed hrpc hfail _ ih =>
    refine .ask hallowed ?_ ?_ ih
    · intro error
      rw [hrpc, Program.bind, herror]
    · intro answer hfails
      obtain ⟨error, hnext⟩ := hfail answer hfails
      exact ⟨error, by rw [hnext, Program.bind, herror]⟩

theorem exchanges {p : Program (Except BridgeError α)} (hasks : p.Asks allowed) {t : Trace}
    {result : Except BridgeError α} (hrun : p.Runs t result) :
    ∀ x ∈ t, x.lane = .main ∧ allowed x.request := by
  induction hasks generalizing t with
  | done => simp [(runs_done_iff.mp hrun).1]
  | ask hallowed _ _ _ ih =>
    obtain ⟨answer, rest, rfl, hrest⟩ := runs_ask_iff.mp hrun
    intro x hx
    rcases List.mem_cons.mp hx with rfl | hx
    · exact ⟨rfl, hallowed⟩
    · exact ih answer hrest x hx

theorem ends_at_failure {p : Program (Except BridgeError α)} (hasks : p.Asks allowed) {t : Trace}
    {result : Except BridgeError α} (hrun : p.Runs t result) {x : Exchange} (hx : x ∈ t)
    (hfails : x.Fails) :
    (∃ earlier, t = earlier ++ [x]) ∧ ∃ error, result = .error error ∧
      ∀ reason, x.answer = .error reason → error = .rpc reason := by
  induction hasks generalizing t with
  | done => simp [(runs_done_iff.mp hrun).1] at hx
  | ask _ herror hfail _ ih =>
    obtain ⟨answer, rest, rfl, hrest⟩ := runs_ask_iff.mp hrun
    rcases List.mem_cons.mp hx with rfl | hx
    · obtain ⟨error, hnext⟩ := hfail answer hfails
      rw [hnext] at hrest
      obtain ⟨rfl, rfl⟩ := runs_done_iff.mp hrest
      refine ⟨⟨[], rfl⟩, error, rfl, ?_⟩
      intro reason hreason
      dsimp only at hreason
      rw [hreason, herror] at hnext
      cases hnext
      rfl
    · obtain ⟨⟨earlier, rfl⟩, hresult⟩ := ih answer hrest hx
      exact ⟨⟨_ :: earlier, rfl⟩, hresult⟩

end Program.Asks

namespace Action

/-- A procedure that asks only allowed requests and ends with the first that fails. -/
def Asks (allowed : Request → Prop) (action : Action α) : Prop := Program.Asks allowed action.run

@[simp]
theorem asks_pure (value : α) : (pure value : Action α).Asks allowed := .done _

@[simp]
theorem asks_throw (error : BridgeError) : (throw error : Action α).Asks allowed := .done _

@[simp]
theorem asks_ofResult (wrap : ε → BridgeError) (checked : Except ε α) :
    (ofResult wrap checked).Asks allowed := .done _

/-- The answer of a request that reads no contract needs no decoding. -/
theorem asks_ask (request : Request) (hallowed : allowed request)
    (hview : ∀ contract data, request ≠ .call contract data) : (ask request).Asks allowed := by
  refine .ask hallowed (fun _ => rfl) ?_ fun _ => .done _
  intro answer hfails
  cases hfails with
  | error _ _ error => exact ⟨_, rfl⟩
  | short _ contract data => exact absurd rfl (hview contract data)

theorem Asks.bind {action : Action α} {next : α → Action β} (hasks : action.Asks allowed)
    (hnext : ∀ value, (next value).Asks allowed) : (action >>= next).Asks allowed :=
  Program.Asks.bind hasks (fun _ => rfl) hnext

theorem Asks.guard {refused : Prop} [Decidable refused] {error : BridgeError}
    {next : Unit → Action α} (hnext : ∀ u, (next u).Asks allowed) :
    (if refused then throw error >>= next else next ()).Asks allowed := by
  split
  · exact (asks_throw error).bind hnext
  · exact hnext ()

theorem Asks.orRead {configured : Option α} {read : Action α} (hasks : read.Asks allowed) :
    (orRead configured read).Asks allowed := by
  cases configured with
  | none => exact hasks
  | some value => exact asks_pure value

theorem Asks.mono {wider : Request → Prop} {action : Action α} (hasks : action.Asks allowed)
    (hwider : ∀ request, allowed request → wider request) : action.Asks wider :=
  Program.Asks.mono hasks hwider

/-- Nothing is asked but allowed requests, and none of them on behalf of a submission. -/
theorem Asks.exchanges {action : Action α} (hasks : action.Asks allowed) {t : Trace}
    {result : Except BridgeError α} (hrun : action.Runs t result) :
    ∀ x ∈ t, x.lane = .main ∧ allowed x.request :=
  Program.Asks.exchanges hasks hrun

/-- Nothing is asked after an exchange that failed. The procedure ends in an error, and in that of
the request if it has one. -/
theorem Asks.ends_at_failure {action : Action α} (hasks : action.Asks allowed) {t : Trace}
    {result : Except BridgeError α} (hrun : action.Runs t result) {x : Exchange} (hx : x ∈ t)
    (hfails : x.Fails) :
    (∃ earlier, t = earlier ++ [x]) ∧ ∃ error, result = .error error ∧
      ∀ reason, x.answer = .error reason → error = .rpc reason :=
  Program.Asks.ends_at_failure hasks hrun hx hfails

theorem fails_of_runs_ask {request : Request} {t : Trace} {error : BridgeError}
    (hrun : (ask request).Runs t (.error error)) : ∃ x, t = [x] ∧ x.Fails := by
  obtain ⟨reason, rfl, _⟩ := runs_ask_error_iff.mp hrun
  exact ⟨_, rfl, .error _ _ reason⟩

end Action

theorem View.asks_read {view : View} {contract : Address} {args : Abi.Args view.params}
    (hallowed : allowed (.call contract (view.call args))) : (view.read contract args).Asks allowed := by
  rw [Action.Asks, run_read]
  refine .ask hallowed (fun _ => rfl) ?_ fun _ => .done _
  intro answer hfails
  cases hfails with
  | error _ _ error => exact ⟨.rpc error, rfl⟩
  | short _ _ _ output hshort => exact ⟨_, by rw [interpret, decodeOutput_eq_none hshort]⟩

/-- A view that any word is a value of yields nothing only when it is answered with less than one. -/
theorem View.fails_of_interpret {view : View} {contract : Address} {data : Bytes}
    {answer : Except RpcError Bytes} {error : BridgeError}
    (htotal : ∀ word, view.returns.ofWord word ≠ none)
    (hinterpret : view.interpret answer = .error error) :
    Exchange.Fails ⟨.main, .call contract data, answer⟩ := by
  cases answer with
  | error reason => exact .error _ _ reason
  | ok output =>
    cases hdecode : view.decodeOutput output with
    | none => exact .short _ _ _ output ((decodeOutput_eq_none_iff htotal).mp hdecode)
    | some value =>
      have hok := interpret_eq_ok_iff.mpr ⟨output, rfl, hdecode⟩
      cases hok.symm.trans hinterpret

theorem View.fails_of_runs_read {view : View} {contract : Address} {args : Abi.Args view.params}
    {t : Trace} {error : BridgeError} (htotal : ∀ word, view.returns.ofWord word ≠ none)
    (hrun : (view.read contract args).Runs t (.error error)) : ∃ x, t = [x] ∧ x.Fails := by
  obtain ⟨answer, rfl, hanswer⟩ := runs_read_iff.mp hrun
  exact ⟨_, rfl, fails_of_interpret htotal hanswer.symm⟩

/-- The mailbox is asked for a quote once its parameters are valid. -/
theorem FeeOracle.asks_baseCost {mailbox : Address} {params : GasParams}
    (hallowed : ∀ args, allowed (.call mailbox (Mailbox.l2TransactionBaseCost.call args))) :
    ((FeeOracle.mailbox mailbox).baseCost params).Asks allowed := by
  refine (Action.asks_ofResult _ _).bind ?_
  intro _
  exact View.asks_read (hallowed _)

end RollupBridge
