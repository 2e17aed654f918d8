import RollupBridge.Proofs.Fee
import RollupBridge.Proofs.L1.Asks
import RollupBridge.Proofs.L1.Request

namespace RollupBridge

/-- A quote of the mailbox is its output for valid parameters. -/
theorem FeeOracle.runs_baseCost_ok_iff {mailbox : Address} {params : GasParams} {t : Trace}
    {cost : Uint 256} :
    ((FeeOracle.mailbox mailbox).baseCost params).Runs t (.ok cost) ↔
      params.validate = .ok () ∧ ∃ output,
        t = [⟨.main, .call mailbox (Mailbox.l2TransactionBaseCost.call
          (params.gasPrice.setWidth 256, params.l2GasLimit.setWidth 256,
            params.gasPerPubdata.setWidth 256, ())), .ok output⟩] ∧
        Mailbox.l2TransactionBaseCost.decodeOutput output = some cost := by
  rw [baseCost, Action.runs_ofResult_bind_ok_iff]
  constructor
  · rintro ⟨_, hvalid, hread⟩
    obtain ⟨answer, rfl, hanswer⟩ := View.runs_read_iff.mp hread
    obtain ⟨output, rfl, hdecode⟩ := View.interpret_eq_ok_iff.mp hanswer.symm
    exact ⟨hvalid, output, rfl, hdecode⟩
  · rintro ⟨hvalid, output, rfl, hdecode⟩
    have hanswer := View.interpret_eq_ok_iff.mpr ⟨output, rfl, hdecode⟩
    exact ⟨(), hvalid, View.runs_read_iff.mpr ⟨.ok output, rfl, hanswer.symm⟩⟩

/-- An estimate is a base cost with the margin put on. -/
theorem FeeOracle.runs_estimate_ok_iff {oracle : FeeOracle} {params : GasParams} {margin : SafetyMargin}
    {t : Trace} {fee : FeeEstimate} :
    (oracle.estimate params margin).Runs t (.ok fee) ↔
      ∃ cost, (oracle.baseCost params).Runs t (.ok cost) ∧ fee = .ofCost margin cost :=
  Action.runs_bind_pure_ok_iff

theorem FeeOracle.runs_estimate_error_iff {oracle : FeeOracle} {params : GasParams}
    {margin : SafetyMargin} {t : Trace} {error : BridgeError} :
    (oracle.estimate params margin).Runs t (.error error) ↔
      (oracle.baseCost params).Runs t (.error error) :=
  Action.runs_bind_pure_error_iff

/-- A quote that is not had was not asked for, its parameters being invalid, or the read failed. -/
theorem FeeOracle.fails_of_runs_baseCost {mailbox : Address} {params : GasParams} {t : Trace}
    {error : BridgeError} (hrun : ((FeeOracle.mailbox mailbox).baseCost params).Runs t (.error error)) :
    (t = [] ∧ ∃ reason, params.validate = .error reason) ∨ ∃ x, t = [x] ∧ x.Fails := by
  rw [baseCost, Action.runs_bind_iff] at hrun
  rcases hrun with ⟨_, hvalid, _⟩ | ⟨_, _, _, rfl, hvalid, hread⟩
  · obtain ⟨rfl, reason, hreason, _⟩ := Action.runs_ofResult_error_iff.mp hvalid
    exact Or.inl ⟨rfl, reason, hreason⟩
  · obtain ⟨rfl, _⟩ := Action.runs_ofResult_ok_iff.mp hvalid
    exact Or.inr (View.fails_of_runs_read (by simp [Mailbox.l2TransactionBaseCost, Abi.Ty.ofWord]) hread)

/-- What is asked for by itself is read by no quote. -/
theorem Trace.other_of_asked (request : Request)
    (hother : request.calls Mailbox.l2TransactionBaseCost.toFunction = false)
    {configured : Option request.Payload} {t : Trace} {result : Except BridgeError request.Payload}
    (hrun : (Action.orRead configured (Action.ask request)).Runs t result) :
    ∀ x ∈ t, x.request.calls Mailbox.l2TransactionBaseCost.toFunction = false := by
  intro x hx
  rw [Action.request_eq_of_runs_orRead request hrun x hx, hother]

/-- A value that is read when it is not configured is only read. -/
theorem Trace.isRead_of_asked (request : Request) (hread : request.isRead = true)
    {configured : Option request.Payload} {t : Trace} {result : Except BridgeError request.Payload}
    (hrun : (Action.orRead configured (Action.ask request)).Runs t result) :
    ∀ x ∈ t, x.request.isRead = true := by
  intro x hx
  rw [Action.request_eq_of_runs_orRead request hrun x hx, hread]

/-- The first quote of a run: what the mailbox was asked it for, and the cost that it answered. -/
def Trace.FirstQuote (mailbox : Address) (t : Trace) (gasPrice gasLimit gasPerPubdata : Uint 256)
    (cost : Uint 256) : Prop :=
  ∃ output, t.find? (·.request.calls Mailbox.l2TransactionBaseCost.toFunction) =
      some ⟨.main, .call mailbox (Mailbox.l2TransactionBaseCost.call
        (gasPrice, gasLimit, gasPerPubdata, ())), .ok output⟩ ∧
    Mailbox.l2TransactionBaseCost.decodeOutput output = some cost

namespace Trace.FirstQuote

variable {mailbox : Address} {t : Trace} {gasPrice gasLimit gasPerPubdata cost : Uint 256}

theorem cons (mailbox : Address) (gasPrice gasLimit gasPerPubdata : Uint 256) {output : Bytes}
    (hcost : Mailbox.l2TransactionBaseCost.decodeOutput output = some cost) (rest : Trace) :
    Trace.FirstQuote mailbox (⟨.main, .call mailbox (Mailbox.l2TransactionBaseCost.call
      (gasPrice, gasLimit, gasPerPubdata, ())), .ok output⟩ :: rest) gasPrice gasLimit gasPerPubdata
      cost :=
  ⟨output, List.find?_cons_of_pos ((Request.calls_call _ _ _ _).trans (by decide)), hcost⟩

theorem of_filter {output : Bytes} {quotes : Trace}
    (hquotes : t.filter (·.request.calls Mailbox.l2TransactionBaseCost.toFunction) =
      ⟨.main, .call mailbox (Mailbox.l2TransactionBaseCost.call
        (gasPrice, gasLimit, gasPerPubdata, ())), .ok output⟩ :: quotes)
    (hcost : Mailbox.l2TransactionBaseCost.decodeOutput output = some cost) :
    t.FirstQuote mailbox gasPrice gasLimit gasPerPubdata cost :=
  ⟨output, by rw [← List.head?_filter, hquotes, List.head?_cons], hcost⟩

theorem append_right (hfirst : t.FirstQuote mailbox gasPrice gasLimit gasPerPubdata cost)
    (rest : Trace) :
    Trace.FirstQuote mailbox (t ++ rest) gasPrice gasLimit gasPerPubdata cost := by
  obtain ⟨output, hfind, hcost⟩ := hfirst
  exact ⟨output, by rw [List.find?_append, hfind, Option.some_or], hcost⟩

/-- Exchanges that are no quotes make no difference in front of the first quote. -/
theorem append_iff {earlier : Trace}
    (hearlier : ∀ x ∈ earlier, x.request.calls Mailbox.l2TransactionBaseCost.toFunction = false) :
    Trace.FirstQuote mailbox (earlier ++ t) gasPrice gasLimit gasPerPubdata cost ↔
      t.FirstQuote mailbox gasPrice gasLimit gasPerPubdata cost := by
  have hnone : earlier.find? (·.request.calls Mailbox.l2TransactionBaseCost.toFunction) = none := by
    simpa [List.find?_eq_none] using hearlier
  rw [FirstQuote, List.find?_append, hnone, Option.none_or, FirstQuote]

theorem not_of_other
    (hother : ∀ x ∈ t, x.request.calls Mailbox.l2TransactionBaseCost.toFunction = false) :
    ¬t.FirstQuote mailbox gasPrice gasLimit gasPerPubdata cost := by
  rintro ⟨output, hfind, _⟩
  have hquote := List.find?_some hfind
  rw [hother _ (List.mem_of_find?_eq_some hfind)] at hquote
  cases hquote

theorem not_of_fails (hfails : ∀ x ∈ t, x.Fails) :
    ¬t.FirstQuote mailbox gasPrice gasLimit gasPerPubdata cost := by
  rintro ⟨output, hfind, hcost⟩
  cases hfails _ (List.mem_of_find?_eq_some hfind) with
  | short _ _ _ _ hshort => cases hcost.symm.trans (View.decodeOutput_eq_none hshort)

/-- A run has one first quote. -/
theorem cost_unique {mailbox' : Address} {gasPrice' gasLimit' gasPerPubdata' cost' : Uint 256}
    (hfirst : t.FirstQuote mailbox gasPrice gasLimit gasPerPubdata cost)
    (hother : t.FirstQuote mailbox' gasPrice' gasLimit' gasPerPubdata' cost') : cost = cost' := by
  obtain ⟨output, hfind, hcost⟩ := hfirst
  obtain ⟨output', hfind', hcost'⟩ := hother
  have hsame := Option.some.inj (hfind.symm.trans hfind')
  rw [Exchange.mk.injEq] at hsame
  have houtput : output = output' := Except.ok.inj (eq_of_heq hsame.2.2)
  subst houtput
  exact Option.some.inj (hcost.symm.trans hcost')

end Trace.FirstQuote

namespace FeeOracle

variable {α : Type} {mailbox : Address} {params : GasParams} {margin : SafetyMargin}
  {next : FeeEstimate → Action α} {t : Trace} {result : Except BridgeError α}

/-- How charging a request can go: nothing is quoted, or what is charged is below the quote, or it
covers the quote and only then comes what is next. -/
inductive Charge (mailbox : Address) (params : GasParams) (margin : SafetyMargin)
    (next : FeeEstimate → Action α) : Trace → Except BridgeError α → Prop
  | unquoted {t : Trace} {error : BridgeError} (hreads : ∀ x ∈ t, x.request.isRead = true)
      (hfails : ∀ x ∈ t, x.Fails) :
      Charge mailbox params margin next t (.error error)
  | uncovered {t : Trace} {cost : Uint 256} (hreads : ∀ x ∈ t, x.request.isRead = true)
      (hfirst : t.FirstQuote mailbox (params.gasPrice.setWidth 256) (params.l2GasLimit.setWidth 256)
        (params.gasPerPubdata.setWidth 256) cost)
      (hless : margin.apply cost < cost) :
      Charge mailbox params margin next t
        (.error (.gasParams (.insufficientValue cost (margin.apply cost))))
  | covered {before after : Trace} {cost : Uint 256} {result : Except BridgeError α}
      (hreads : ∀ x ∈ before, x.request.isRead = true)
      (hfirst : before.FirstQuote mailbox (params.gasPrice.setWidth 256)
        (params.l2GasLimit.setWidth 256) (params.gasPerPubdata.setWidth 256) cost)
      (hcovers : cost ≤ margin.apply cost) (hnext : (next (.ofCost margin cost)).Runs after result) :
      Charge mailbox params margin next (before ++ after) result

/-- Every charge goes one of these ways, for requests that take no value to L2. -/
theorem charge_of_runs (request : Uint 256 → PriorityTransaction)
    (hvalue : ∀ value, (request value).l2Value = 0)
    (hrequired : ∀ value, (request value).requiredValue = value)
    (hrun : ((FeeOracle.mailbox mailbox).estimate params margin >>= fun fee =>
      Action.ofResult .gasParams ((request fee.value).ensureCovers fee.baseCost) >>= fun _ =>
        next fee).Runs t result) :
    Charge mailbox params margin next t result := by
  have hasks : ((FeeOracle.mailbox mailbox).estimate params margin).Asks (·.isRead = true) :=
    (asks_baseCost fun _ => rfl).bind fun _ => Action.asks_pure _
  rw [Action.runs_bind_iff] at hrun
  rcases hrun with ⟨error, hestimate, rfl⟩ | ⟨before, after, fee, rfl, hestimate, hrun⟩
  · have hreads := fun x hx => (hasks.exchanges hestimate x hx).2
    rw [runs_estimate_error_iff] at hestimate
    rcases fails_of_runs_baseCost hestimate with ⟨rfl, _⟩ | ⟨x, rfl, hfails⟩
    · exact .unquoted hreads (by simp)
    · exact .unquoted hreads (by simpa using hfails)
  have hreads := fun x hx => (hasks.exchanges hestimate x hx).2
  obtain ⟨cost, hcost, rfl⟩ := runs_estimate_ok_iff.mp hestimate
  obtain ⟨_, output, rfl, houtput⟩ := runs_baseCost_ok_iff.mp hcost
  have hfirst := Trace.FirstQuote.cons mailbox (params.gasPrice.setWidth 256)
    (params.l2GasLimit.setWidth 256) (params.gasPerPubdata.setWidth 256) houtput []
  rw [Action.runs_bind_iff] at hrun
  rcases hrun with ⟨_, hcheck, rfl⟩ | ⟨_, after, _, rfl, hcheck, hnext⟩
  · obtain ⟨rfl, reason, hreason, rfl⟩ := Action.runs_ofResult_error_iff.mp hcheck
    rw [PriorityTransaction.ensureCovers_eq_error_iff (hvalue _), hrequired] at hreason
    obtain ⟨hless, rfl⟩ := hreason
    exact .uncovered hreads hfirst hless
  · rw [Action.runs_ofResult_ok_iff, PriorityTransaction.ensureCovers_eq_ok_iff (hvalue _),
      hrequired] at hcheck
    obtain ⟨rfl, hcovers⟩ := hcheck
    exact .covered hreads hfirst hcovers hnext

end FeeOracle

end RollupBridge
