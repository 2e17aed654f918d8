import Mathlib.Data.ENat.Lattice
import RollupBridge.Node.Client

namespace RollupBridge

variable {α : Type}

/-- What is relied on of a retrier: a policy yields as many delays as it allows repetitions, and as long
as there is one left, an attempt is repeated after a pause exactly if its error is one to repeat it for. -/
structure Retrier.Lawful {m : Type → Type} [Monad m] (retrier : Retrier m) (pause : Nat → m Unit) :
    Prop where
  times_eq : ∀ policy, retrier.times policy = policy.maxAttempts.toNat
  repeating_zero : ∀ {α : Type} (isRetryable : RpcError → Bool) (delay : Nat → Nat)
    (attempt : m (Except RpcError α)), retrier.repeating isRetryable delay attempt 0 = attempt
  repeating_succ : ∀ {α : Type} (isRetryable : RpcError → Bool) (delay : Nat → Nat)
    (attempt : m (Except RpcError α)) (left : Nat),
    retrier.repeating isRetryable delay attempt (left + 1) = do
      match ← attempt with
      | .ok value => return .ok value
      | .error error =>
        if isRetryable error then
          pause (delay (left + 1))
          retrier.repeating isRetryable delay attempt left
        else return .error error

theorem Retrier.lawful_standard {m : Type → Type} [Monad m] (pause : Nat → m Unit) :
    (Retrier.standard pause).Lawful pause where
  times_eq := fun _ => rfl
  repeating_zero := fun _ _ _ => rfl
  repeating_succ := fun _ _ _ _ => rfl

/-- True of the outcome of an attempt that may be different the next time. -/
def mayPass : Except RpcError α → Bool
  | .ok _ => false
  | .error error => error.isRetryable

/-- How many outcomes come before the first that will not pass, if there is one. -/
noncomputable def passing (outcomes : Nat → Except RpcError α) : ℕ∞ :=
  ⨅ n ∈ {n | mayPass (outcomes n) = false}, (n : ℕ∞)

/-- Attempts that end at the first outcome that will not pass, or at their limit, are as many as come
before it within the limit. -/
theorem min_passing_eq {outcomes : Nat → Except RpcError α} {n limit : Nat} (hlimit : n ≤ limit)
    (hearlier : ∀ i < n, mayPass (outcomes i) = true)
    (hlast : n < limit → mayPass (outcomes n) = false) :
    min (limit : ℕ∞) (passing outcomes) = n := by
  -- Below the limit the last outcome is the first that will not pass, at the limit none has to be.
  refine le_antisymm ?_ (le_min (Nat.cast_le.mpr hlimit) ?_)
  · rcases Nat.lt_or_eq_of_le hlimit with hless | rfl
    · exact (min_le_right _ _).trans (iInf₂_le n (hlast hless))
    · exact min_le_left _ _
  · refine le_iInf₂ fun i hi => Nat.cast_le.mpr (Nat.le_of_not_lt ?_)
    intro hless
    cases (hearlier i hless).symm.trans hi

namespace NodeReply

/-- What a reply is taken for by a request that calls its faults by some errors. -/
def outcome (asError : NodeFault → RpcError) (read? : Json → Option α) (reply : NodeReply) :
    Except RpcError α :=
  (reply.decode read?).mapError asError

/-- An answer with a good status that is neither an error of the node nor a value. -/
def Undecodable (read? : Json → Option α) (reply : NodeReply) : Prop :=
  (∃ status body, reply = .response status body ∧ 200 ≤ status ∧ status < 300) ∧
    (∀ text, reply.result ≠ .error (.refused text)) ∧ ∀ value, reply.decode read? ≠ .ok value

/-- An answer with which the node refuses what it was sent: an error in the body, or a status below those
of its own faults. -/
inductive Refusal : NodeReply → Prop
  | error {status : Nat} {body : Bytes} {text : List Char} {answer : Json} {error : NodeError}
      (hstatus : 200 ≤ status ∧ status < 300) (htext : Text.ofUtf8? body = some text)
      (hanswer : Json.read? text = some answer) (herror : said? answer = some (.error error)) :
      Refusal (.response status body)
  | status {status : Nat} {body : Bytes} (hstatus : ¬(200 ≤ status ∧ status < 300))
      (hbelow : status < 500) : Refusal (.response status body)

/-- The body of an answer holds a result or an error of the node, or it does not decode. -/
theorem resultOfBody_cases (body : Bytes) :
    (∃ result, resultOfBody body = .ok result) ∨
      (∃ text, resultOfBody body = .error (.refused text)) ∨
        ∃ text, resultOfBody body = .error (.undecodable text) := by
  unfold resultOfBody
  split
  · exact Or.inr (Or.inr ⟨_, rfl⟩)
  split
  · exact Or.inl ⟨_, rfl⟩
  · exact Or.inr (Or.inl ⟨_, rfl⟩)
  · exact Or.inr (Or.inr ⟨_, rfl⟩)

theorem decode_of_result_error {read? : Json → Option α} {reply : NodeReply} {fault : NodeFault}
    (hresult : reply.result = .error fault) : reply.decode read? = .error fault := by
  rw [decode, hresult]
  rfl

/-- A result is decoded to a value, or what does not decode is the fault. -/
theorem decode_of_result_ok {read? : Json → Option α} {reply : NodeReply} {result : Json}
    (hresult : reply.result = .ok result) :
    (∃ value, reply.decode read? = .ok value) ∨ reply.decode read? = .error .null ∨
      ∃ text, reply.decode read? = .error (.undecodable text) := by
  rw [decode, hresult]
  dsimp only [bind, Except.bind]
  split
  · exact Or.inr (Or.inl rfl)
  split
  · exact Or.inl ⟨_, rfl⟩
  · exact Or.inr (Or.inr ⟨_, rfl⟩)

/-- What does not decode is no error that passes. -/
theorem Undecodable.mayPass_eq {read? : Json → Option α} {reply : NodeReply}
    (hundecodable : reply.Undecodable read?) :
    mayPass (reply.outcome NodeFault.asReadError read?) = false := by
  obtain ⟨⟨status, body, rfl, hstatus⟩, hrefused, hvalue⟩ := hundecodable
  have hbody : (response status body).result = resultOfBody body := if_pos hstatus
  rcases resultOfBody_cases body with ⟨result, hresult⟩ | ⟨text, htext⟩ | ⟨text, htext⟩
  · rcases decode_of_result_ok (hbody.trans hresult) with ⟨value, hok⟩ | hnull | ⟨text, htext⟩
    · exact absurd hok (hvalue value)
    · rw [outcome, hnull]
      rfl
    · rw [outcome, htext]
      rfl
  · exact absurd (hbody.trans htext) (hrefused text)
  · rw [outcome, decode_of_result_error (hbody.trans htext)]
    rfl

/-- What the node refuses is rejected, for good. -/
theorem Refusal.outcome_eq {reply : NodeReply} (hrefusal : reply.Refusal) (read? : Json → Option α) :
    ∃ text, reply.outcome NodeFault.asSendError read? = .error (.rejected text) := by
  cases hrefusal with
  | @error status body text answer error hstatus htext hanswer herror =>
    have hbody : (response status body).result = .error (.refused error.text) := by
      refine (if_pos hstatus).trans ?_
      simp only [resultOfBody, htext, hanswer, Option.bind_some, herror]
    rw [outcome, decode_of_result_error hbody]
    exact ⟨_, rfl⟩
  | @status status body hstatus hbelow =>
    have hresult : (response status body).result = .error (.status status _) := if_neg hstatus
    rw [outcome, decode_of_result_error hresult]
    exact ⟨_, congrArg Except.error (if_pos hbelow)⟩

end NodeReply

/-- A client that is answered by a script, in order, and notes the calls it makes. -/
def NodeClient.scripted (answers : Nat → NodeReply) (policy : RetryPolicy)
    (receiptTimeout pollInterval : Nat) : NodeClient (StateM (List NodeCall)) where
  post := fun call made => (answers made.length, made ++ [call])
  pause := fun _ => pure ()
  policy := policy
  receiptTimeout := receiptTimeout
  pollInterval := pollInterval

section Repeating

variable {retrier : Retrier (StateM (List NodeCall))} {pause : Nat → StateM (List NodeCall) Unit}
  {call : NodeCall} {outcomes : Nat → Except RpcError α}
  {attempt : StateM (List NodeCall) (Except RpcError α)}

/-- An attempt with delays left is the last one unless its outcome may pass. -/
theorem Retrier.Lawful.run_repeating_succ (hlawful : retrier.Lawful pause)
    (hpause : ∀ time made, (pause time).run made = ((), made))
    (hattempt : ∀ made, attempt.run made = (outcomes made.length, made ++ [call])) (delay : Nat → Nat)
    (left : Nat) (made : List NodeCall) :
    (retrier.repeating RpcError.isRetryable delay attempt (left + 1)).run made =
      if mayPass (outcomes made.length) then
        (retrier.repeating RpcError.isRetryable delay attempt left).run (made ++ [call])
      else (outcomes made.length, made ++ [call]) := by
  rw [hlawful.repeating_succ, StateT.run_bind, hattempt]
  cases outcomes made.length with
  | ok value => rfl
  | error error =>
    change (if error.isRetryable = true then do
        pause (delay (left + 1))
        retrier.repeating RpcError.isRetryable delay attempt left
      else pure (.error error)).run (made ++ [call]) = if error.isRetryable = true then _ else _
    split
    · rw [StateT.run_bind, hpause]
      rfl
    · rfl

/-- With attempts that note a call each and end in outcomes one after the other, a retrier stops at the
first outcome that will not pass, or when it has no delays left. -/
theorem Retrier.Lawful.run_repeating (hlawful : retrier.Lawful pause)
    (hpause : ∀ time made, (pause time).run made = ((), made))
    (hattempt : ∀ made, attempt.run made = (outcomes made.length, made ++ [call])) (delay : Nat → Nat)
    (left : Nat) (made : List NodeCall) :
    ∃ n ≤ left, (∀ i < n, mayPass (outcomes (made.length + i)) = true) ∧
      (n < left → mayPass (outcomes (made.length + n)) = false) ∧
      (retrier.repeating RpcError.isRetryable delay attempt left).run made =
        (outcomes (made.length + n), made ++ List.replicate (n + 1) call) := by
  induction left generalizing made with
  | zero =>
    rw [hlawful.repeating_zero, hattempt]
    exact ⟨0, Nat.le_refl 0, by simp, by simp, rfl⟩
  | succ left ih =>
    rw [hlawful.run_repeating_succ hpause hattempt]
    cases hfirst : mayPass (outcomes made.length) with
    | false => exact ⟨0, Nat.zero_le _, by simp, fun _ => hfirst, rfl⟩
    | true =>
      obtain ⟨n, hn, hearlier, hlast, hrun⟩ := ih (made ++ [call])
      -- The call that was noted moves the script on by one.
      have hshift (i : Nat) : (made ++ [call]).length + i = made.length + (i + 1) := by
        simp only [List.length_append, List.length_singleton]
        omega
      simp only [hshift] at hearlier hlast hrun
      refine ⟨n + 1, Nat.succ_le_succ hn, ?_, fun hless => hlast (Nat.lt_of_succ_lt_succ hless), ?_⟩
      · intro i hi
        cases i with
        | zero => exact hfirst
        | succ i => exact hearlier i (Nat.lt_of_succ_lt_succ hi)
      · refine hrun.trans ?_
        rw [List.append_assoc, List.singleton_append, ← List.replicate_succ]

end Repeating

/-- What the replies of a script are taken for by a read. -/
def readOutcomes (answers : Nat → NodeReply) (read? : Json → Option α) (n : Nat) : Except RpcError α :=
  (answers n).outcome NodeFault.asReadError read?

/-- What a read has done against a script of answers: it made one call, once and then once more for each
answer in front that may pass, up to the limit of its policy, and ended in what the last answer is taken
for. That is an error that may pass only at the limit, and nothing was asked after what did not decode. -/
structure ReadAgainst (answers : Nat → NodeReply) (policy : RetryPolicy) (call : NodeCall)
    (read? : Json → Option α) (ended : Except RpcError α × List NodeCall) : Prop where
  calls : ended.2 = List.replicate ended.2.length call
  count : (ended.2.length : ℕ∞) =
    1 + min (policy.maxAttempts.toNat : ℕ∞) (passing (readOutcomes answers read?))
  result : ended.1 = readOutcomes answers read? (ended.2.length - 1)
  earlier : ∀ i, i + 1 < ended.2.length → mayPass (readOutcomes answers read? i) = true
  exhausted : mayPass ended.1 = true → ended.2.length = policy.maxAttempts.toNat + 1
  undecodable : ∀ i, (answers i).Undecodable read? → ended.2.length ≤ i + 1

namespace NodeClient

variable {answers : Nat → NodeReply} {policy : RetryPolicy} {receiptTimeout pollInterval : Nat}
  {retrier : Retrier (StateM (List NodeCall))}

/-- Each attempt is answered by the script where it stands. -/
theorem run_readOnce (call : NodeCall) (read? : Json → Option α) (made : List NodeCall) :
    ((scripted answers policy receiptTimeout pollInterval).readOnce call read?).run made =
      (readOutcomes answers read? made.length, made ++ [call]) := rfl

theorem readAgainst_of_lawful (hlawful : retrier.Lawful fun _ => pure ()) (call : NodeCall)
    (read? : Json → Option α) :
    ReadAgainst answers policy call read?
      (((scripted answers policy receiptTimeout pollInterval).readWith retrier call read?).run []) := by
  obtain ⟨n, hlimit, hearlier, hlast, hrun⟩ := hlawful.run_repeating (fun _ _ => rfl)
    (run_readOnce call read?) (retrier.delay policy) (retrier.times policy) []
  rw [hlawful.times_eq] at hlimit hlast
  simp only [List.length_nil, Nat.zero_add, List.nil_append] at hearlier hlast hrun
  have hread :
      ((scripted answers policy receiptTimeout pollInterval).readWith retrier call read?).run [] =
        (readOutcomes answers read? n, List.replicate (n + 1) call) := hrun
  rw [hread]
  refine ⟨?_, ?_, ?_, ?_, ?_, ?_⟩
  · rw [List.length_replicate]
  · rw [List.length_replicate, min_passing_eq hlimit hearlier hlast, Nat.cast_succ, add_comm]
  · rw [List.length_replicate, Nat.add_sub_cancel]
  · intro i hi
    rw [List.length_replicate] at hi
    exact hearlier i (Nat.lt_of_succ_lt_succ hi)
  · intro hpasses
    rw [List.length_replicate]
    rcases Nat.lt_or_eq_of_le hlimit with hless | rfl
    · cases hpasses.symm.trans (hlast hless)
    · rfl
  · intro i hundecodable
    rw [List.length_replicate]
    refine Nat.succ_le_succ (Nat.le_of_not_lt ?_)
    intro hless
    cases (hearlier i hless).symm.trans hundecodable.mayPass_eq

/-- A transaction is sent once. -/
theorem run_send (call : NodeCall) (read? : Json → Option α) :
    ((scripted answers policy receiptTimeout pollInterval).send call read?).run [] =
      ((answers 0).outcome NodeFault.asSendError read?, [call]) := rfl

end NodeClient

/-- Whatever a node answers, each read asks as often as its policy and the errors that may pass say, and
ends in what the last answer is taken for. A transaction is sent once, and if the node refuses it, it is
rejected and not to be sent again. -/
theorem reads_repeated_sends_once (retrier : Retrier (StateM (List NodeCall)))
    (answers : Nat → NodeReply) (policy : RetryPolicy) (receiptTimeout pollInterval : Nat)
    (sign : L1Transaction → Except RpcError SignedTransaction) :
    let client := NodeClient.scripted answers policy receiptTimeout pollInterval
    let asked (request : Request) := (client.answerWith retrier sign request).run []
    retrier.Lawful client.pause →
    ReadAgainst answers policy .chainId (Json.quantity? 64) (asked .chainId) ∧
      ReadAgainst answers policy .gasPrice (Json.quantity? 128) (asked .gasPrice) ∧
      (∀ account, ReadAgainst answers policy (.pendingNonce account) (Json.quantity? 64)
        (asked (.pendingNonce account))) ∧
      (∀ target data, ReadAgainst answers policy (.call target data) Json.bytes?
        (asked (.call target data))) ∧
      (∀ sender tx, ReadAgainst answers policy (.estimateGas sender tx) (Json.quantity? 64)
        (asked (.estimateGas sender tx))) ∧
      ∀ tx, asked (.send tx) =
          ((answers 0).outcome NodeFault.asSendError Json.fixed?, [NodeCall.send tx]) ∧
        ((answers 0).Refusal → ∃ text, (asked (.send tx)).1 = .error (.rejected text) ∧
          (RpcError.rejected text).isRetryable = false) := by
  intro client asked hlawful
  refine ⟨NodeClient.readAgainst_of_lawful hlawful _ _, NodeClient.readAgainst_of_lawful hlawful _ _,
    fun _ => NodeClient.readAgainst_of_lawful hlawful _ _,
    fun _ _ => NodeClient.readAgainst_of_lawful hlawful _ _,
    fun _ _ => NodeClient.readAgainst_of_lawful hlawful _ _,
    fun tx => ⟨NodeClient.run_send _ _, ?_⟩⟩
  intro hrefusal
  obtain ⟨text, htext⟩ := hrefusal.outcome_eq Json.fixed?
  exact ⟨text, htext, rfl⟩

/-- A node that cannot be reached, then has no time, and then answers with the chain it is of. -/
def NodeReply.recovering : Nat → NodeReply
  | 0 => .unreachable "connection refused"
  | 1 => .response 503 []
  | _ => .response 200 (Text.toUtf8 "\x7b\"result\":\"0x9\"\x7d".toList)

/-- With pauses of the client, a read of a node that recovers is answered at the third attempt. -/
theorem reads_repeated_sends_once_of_recovering :
    let client := NodeClient.scripted NodeReply.recovering {} 0 1
    let asked (request : Request) := (client.answer (fun _ => .error (.signing "")) request).run []
    (Retrier.standard client.pause).Lawful client.pause ∧
      ReadAgainst NodeReply.recovering {} .chainId (Json.quantity? 64) (asked .chainId) ∧
      (asked .chainId).1 = .ok 9 ∧ (asked .chainId).2.length = 3 := by
  intro client asked
  have hlawful := Retrier.lawful_standard client.pause
  refine ⟨hlawful, (reads_repeated_sends_once _ _ _ 0 1 _ hlawful).1, ?_, ?_⟩
  · decide +kernel
  · decide +kernel

end RollupBridge
