import RollupBridge.Proofs.L1.Asks
import RollupBridge.Proofs.L1.Reading
import RollupBridge.Proofs.L1.Replies
import RollupBridge.Proofs.L1.Request
import RollupBridge.Proofs.Withdrawal.Exclusion
import RollupBridge.Withdrawal.Service

namespace RollupBridge.WithdrawalService

variable {s : WithdrawalService} {proof : WithdrawalProof} {mailbox : Address} {replies : Replies}
  {call : ContractCall} {error : BridgeError}

/-- The request for whether the withdrawal at an index of a batch has been finalized. -/
abbrev flagRequest (l1Bridge : Address) (batch index : Uint 64) : Request :=
  .call l1Bridge (L1Bridge.isWithdrawalFinalized.call (batch.setWidth 256, index.setWidth 256, ()))

/-- The request for the logs root of a batch. -/
abbrev rootRequest (mailbox : Address) (batch : Uint 64) : Request :=
  .call mailbox (Mailbox.l2LogsRootHash.call (batch.setWidth 256, ()))

/-- What an answer is taken for when it is asked whether a withdrawal has been finalized. -/
def flagOf (answer : Except RpcError Bytes) : Except BridgeError Bool :=
  L1Bridge.isWithdrawalFinalized.interpret answer

/-- What an answer is taken for when a batch root is asked for. -/
def rootOf (answer : Except RpcError Bytes) : Except BridgeError Word :=
  Mailbox.l2LogsRootHash.interpret answer

/-- The mailbox holds a root for the batch, and the path of the proof leads to it. -/
def Included (s : WithdrawalService) (replies : Replies) (proof : WithdrawalProof) (mailbox : Address) :
    Prop :=
  ∃ root, Says (replies (rootRequest mailbox proof.l1BatchNumber)) root ∧ root ≠ FixedBytes.zero ∧
    (1 ≤ proof.merkleProof.length ∧ proof.merkleProof.length ≤ 255) ∧
    proof.l2MessageIndex.toNat < 2 ^ proof.merkleProof.length ∧
    Merkle.climb s.hash proof.merkleProof proof.l2MessageIndex.toNat
      (s.finalizer.proofLeaf s.hash proof) = root

/-- Why inclusion is refused, in the order of the checks. -/
inductive Unincluded (s : WithdrawalService) (replies : Replies) (proof : WithdrawalProof)
    (mailbox : Address) : BridgeError → Prop
  | unread {error : BridgeError}
      (hunread : Mailbox.l2LogsRootHash.Unread (replies (rootRequest mailbox proof.l1BatchNumber))
        error) :
      Unincluded s replies proof mailbox error
  | notExecuted (hroot : Says (replies (rootRequest mailbox proof.l1BatchNumber)) FixedBytes.zero) :
      Unincluded s replies proof mailbox (.batchNotExecuted proof.l1BatchNumber)
  | excluded {root : Word} {reason : WithdrawalError}
      (hroot : Says (replies (rootRequest mailbox proof.l1BatchNumber)) root)
      (hexecuted : root ≠ FixedBytes.zero)
      (hexcluded : s.finalizer.Excluded s.hash proof root reason) :
      Unincluded s replies proof mailbox (.withdrawal reason)

/-- The conditions under which a call is handed back. -/
structure Cleared (s : WithdrawalService) (replies : Replies) (proof : WithdrawalProof)
    (call : ContractCall) : Prop where
  valid : s.finalizer.validate proof = .ok call
  unused : Says (replies (flagRequest s.finalizer.l1Bridge proof.l1BatchNumber proof.l2MessageIndex))
    FixedBytes.zero
  included : ∀ mailbox, s.mailbox = some mailbox → s.Included replies proof mailbox

/-- Why a proof is refused, in the order of the checks. Each reason says that the checks before it
passed. -/
inductive Refused (s : WithdrawalService) (replies : Replies) (proof : WithdrawalProof) :
    BridgeError → Prop
  | invalid {reason : WithdrawalError} (hinvalid : s.finalizer.validate proof = .error reason) :
      Refused s replies proof (.withdrawal reason)
  | unread {call : ContractCall} {error : BridgeError} (hvalid : s.finalizer.validate proof = .ok call)
      (hunread : L1Bridge.isWithdrawalFinalized.Unread
        (replies (flagRequest s.finalizer.l1Bridge proof.l1BatchNumber proof.l2MessageIndex)) error) :
      Refused s replies proof error
  | used {call : ContractCall} {flag : Word} (hvalid : s.finalizer.validate proof = .ok call)
      (hflag : Says
        (replies (flagRequest s.finalizer.l1Bridge proof.l1BatchNumber proof.l2MessageIndex)) flag)
      (hused : flag ≠ FixedBytes.zero) :
      Refused s replies proof (.alreadyFinalized proof.l1BatchNumber proof.l2MessageIndex)
  | unincluded {call : ContractCall} {mailbox : Address} {error : BridgeError}
      (hvalid : s.finalizer.validate proof = .ok call)
      (hunused : Says
        (replies (flagRequest s.finalizer.l1Bridge proof.l1BatchNumber proof.l2MessageIndex))
        FixedBytes.zero)
      (hmailbox : s.mailbox = some mailbox) (hunincluded : s.Unincluded replies proof mailbox error) :
      Refused s replies proof error

section Answers

variable {answer : Except RpcError Bytes}

theorem flagOf_eq_false_iff : flagOf answer = .ok false ↔ Says answer FixedBytes.zero := by
  refine View.interpret_eq_ok_iff_says.trans ?_
  constructor
  · rintro ⟨flag, hflag, hvalue⟩
    have hzero : flag.toNat = 0 := by simpa [L1Bridge.isWithdrawalFinalized, Abi.Ty.ofWord] using hvalue
    rwa [FixedBytes.toNat_eq_zero_iff.mp hzero] at hflag
  · intro hzero
    exact ⟨_, hzero, rfl⟩

theorem flagOf_eq_true_iff :
    flagOf answer = .ok true ↔ ∃ flag, Says answer flag ∧ flag ≠ FixedBytes.zero := by
  refine View.interpret_eq_ok_iff_says.trans ?_
  refine exists_congr fun flag => and_congr_right fun _ => ?_
  rw [ne_eq, ← FixedBytes.toNat_eq_zero_iff]
  simp [L1Bridge.isWithdrawalFinalized, Abi.Ty.ofWord]

theorem flagOf_eq_error_iff :
    flagOf answer = .error error ↔ L1Bridge.isWithdrawalFinalized.Unread answer error := by
  refine View.interpret_eq_error_iff ?_
  intro word hnone
  cases hnone

theorem rootOf_eq_ok_iff {root : Word} : rootOf answer = .ok root ↔ Says answer root := by
  refine View.interpret_eq_ok_iff_says.trans ?_
  constructor
  · rintro ⟨word, hword, hvalue⟩
    cases hvalue
    exact hword
  · intro hroot
    exact ⟨root, hroot, rfl⟩

theorem rootOf_eq_error_iff :
    rootOf answer = .error error ↔ Mailbox.l2LogsRootHash.Unread answer error := by
  refine View.interpret_eq_error_iff ?_
  intro word hnone
  cases hnone

end Answers

theorem under_checkInclusion (s : WithdrawalService) (replies : Replies) (proof : WithdrawalProof)
    (mailbox : Address) :
    (s.checkInclusion proof mailbox).under replies =
      (rootOf (replies (rootRequest mailbox proof.l1BatchNumber)) >>= fun root =>
        if root = FixedBytes.zero then .error (.batchNotExecuted proof.l1BatchNumber)
        else (s.finalizer.verifyInclusion s.hash proof root).mapError .withdrawal) := by
  rw [checkInclusion, Action.under_bind]
  refine congrArg₂ _ (Action.under_read ..) (funext fun root => ?_)
  split <;> rfl

theorem checkInclusion_eq_ok_iff :
    (s.checkInclusion proof mailbox).under replies = .ok () ↔ s.Included replies proof mailbox := by
  rw [under_checkInclusion, bind_eq_ok_iff]
  refine exists_congr fun root => ?_
  rw [rootOf_eq_ok_iff]
  refine and_congr_right fun _ => ?_
  by_cases hzero : root = FixedBytes.zero
  · simp [hzero]
  · rw [if_neg hzero, mapError_eq_ok_iff, WithdrawalFinalizer.verifyInclusion_eq_ok_iff]
    constructor
    · rintro ⟨⟨hsome, hlength, hindex⟩, hclimb⟩
      exact ⟨hzero, ⟨List.length_pos_iff.mpr hsome, Nat.le_of_lt_succ hlength⟩, hindex, hclimb⟩
    · rintro ⟨_, ⟨hsome, hlength⟩, hindex, hclimb⟩
      exact ⟨⟨List.length_pos_iff.mp hsome, Nat.lt_succ_of_le hlength, hindex⟩, hclimb⟩

theorem checkInclusion_eq_error_iff :
    (s.checkInclusion proof mailbox).under replies = .error error ↔
      s.Unincluded replies proof mailbox error := by
  rw [under_checkInclusion, bind_eq_error_iff, rootOf_eq_error_iff]
  simp only [rootOf_eq_ok_iff]
  constructor
  · rintro (hunread | ⟨root, hroot, hrefused⟩)
    · exact .unread hunread
    · split at hrefused
      case isTrue hzero =>
        cases hrefused
        exact .notExecuted (hzero ▸ hroot)
      case isFalse hexecuted =>
        obtain ⟨reason, hexcluded, rfl⟩ := mapError_eq_error_iff.mp hrefused
        exact .excluded hroot hexecuted (WithdrawalFinalizer.verifyInclusion_eq_error_iff.mp hexcluded)
  · rintro (hunread | hzero | ⟨hroot, hexecuted, hexcluded⟩)
    · exact Or.inl hunread
    · exact Or.inr ⟨_, hzero, if_pos rfl⟩
    · refine Or.inr ⟨_, hroot, (if_neg hexecuted).trans ?_⟩
      exact mapError_eq_error_iff.mpr
        ⟨_, WithdrawalFinalizer.verifyInclusion_eq_error_iff.mpr hexcluded, rfl⟩

/-- The last check, if it is asked for. -/
def inclusion (s : WithdrawalService) (replies : Replies) (proof : WithdrawalProof) :
    Except BridgeError Unit :=
  match s.mailbox with
  | some mailbox => (s.checkInclusion proof mailbox).under replies
  | none => .ok ()

theorem inclusion_eq_ok_iff :
    s.inclusion replies proof = .ok () ↔
      ∀ mailbox, s.mailbox = some mailbox → s.Included replies proof mailbox := by
  rw [inclusion]
  cases s.mailbox with
  | none => simp
  | some mailbox => simpa using checkInclusion_eq_ok_iff

theorem inclusion_eq_error_iff :
    s.inclusion replies proof = .error error ↔
      ∃ mailbox, s.mailbox = some mailbox ∧ s.Unincluded replies proof mailbox error := by
  rw [inclusion]
  cases s.mailbox with
  | none => simp
  | some mailbox => simpa using checkInclusion_eq_error_iff

/-- The checks in a row, with the answers put in. -/
theorem under_prepare (s : WithdrawalService) (replies : Replies) (proof : WithdrawalProof) :
    (s.prepare proof).under replies =
      ((s.finalizer.validate proof).mapError .withdrawal >>= fun call =>
        flagOf (replies (flagRequest s.finalizer.l1Bridge proof.l1BatchNumber
          proof.l2MessageIndex)) >>= fun used =>
        if used then .error (.alreadyFinalized proof.l1BatchNumber proof.l2MessageIndex)
        else s.inclusion replies proof >>= fun _ => .ok call) := by
  rw [prepare, Action.under_bind, Action.under_ofResult]
  refine bind_congr fun call => ?_
  rw [Action.under_bind]
  refine congrArg₂ _ (Action.under_read ..) (funext fun used => ?_)
  cases used
  · simp only [Bool.false_eq_true, if_false, inclusion]
    cases s.mailbox with
    | none => rfl
    | some mailbox => rw [Action.under_bind]; rfl
  · rfl

theorem prepare_eq_ok_iff :
    (s.prepare proof).under replies = .ok call ↔ s.Cleared replies proof call := by
  simp only [under_prepare, bind_eq_ok_iff, mapError_eq_ok_iff]
  constructor
  · rintro ⟨valid, hvalid, used, hused, hrest⟩
    cases used with
    | true => cases hrest
    | false =>
      obtain ⟨⟨⟩, hincluded, hcall⟩ := bind_eq_ok_iff.mp hrest
      cases hcall
      exact ⟨hvalid, flagOf_eq_false_iff.mp hused, inclusion_eq_ok_iff.mp hincluded⟩
  · rintro ⟨hvalid, hunused, hincluded⟩
    refine ⟨call, hvalid, false, flagOf_eq_false_iff.mpr hunused, ?_⟩
    exact bind_eq_ok_iff.mpr ⟨(), inclusion_eq_ok_iff.mpr hincluded, rfl⟩

theorem prepare_eq_error_iff :
    (s.prepare proof).under replies = .error error ↔ s.Refused replies proof error := by
  simp only [under_prepare, bind_eq_error_iff, mapError_eq_ok_iff, mapError_eq_error_iff]
  constructor
  · rintro (⟨reason, hinvalid, rfl⟩ | ⟨call, hvalid, hunread | ⟨used, hused, hrest⟩⟩)
    · exact .invalid hinvalid
    · exact .unread hvalid (flagOf_eq_error_iff.mp hunread)
    · cases used with
      | true =>
        cases hrest
        obtain ⟨flag, hflag, hset⟩ := flagOf_eq_true_iff.mp hused
        exact .used hvalid hflag hset
      | false =>
        have hunused := flagOf_eq_false_iff.mp hused
        rcases bind_eq_error_iff.mp hrest with hunincluded | ⟨_, _, hcall⟩
        · obtain ⟨mailbox, hmailbox, hunincluded⟩ := inclusion_eq_error_iff.mp hunincluded
          exact .unincluded hvalid hunused hmailbox hunincluded
        · cases hcall
  · rintro (hinvalid | ⟨hvalid, hunread⟩ | ⟨hvalid, hflag, hset⟩ |
      ⟨hvalid, hunused, hmailbox, hunincluded⟩)
    · exact Or.inl ⟨_, hinvalid, rfl⟩
    · exact Or.inr ⟨_, hvalid, Or.inl (flagOf_eq_error_iff.mpr hunread)⟩
    · exact Or.inr ⟨_, hvalid, Or.inr ⟨true, flagOf_eq_true_iff.mpr ⟨_, hflag, hset⟩, rfl⟩⟩
    · refine Or.inr ⟨_, hvalid, Or.inr ⟨false, flagOf_eq_false_iff.mpr hunused, ?_⟩⟩
      exact bind_eq_error_iff.mpr (Or.inl (inclusion_eq_error_iff.mpr ⟨_, hmailbox, hunincluded⟩))

section Runs

variable {t : Trace} {result : Except BridgeError ContractCall}

theorem requests_of_checkInclusion {checked : Except BridgeError Unit}
    (hrun : (s.checkInclusion proof mailbox).Runs t checked) :
    t.map (·.request) = [rootRequest mailbox proof.l1BatchNumber] := by
  rcases Action.runs_bind_iff.mp hrun with ⟨_, hread, _⟩ | ⟨_, after, root, rfl, hread, hrest⟩
  · obtain ⟨answer, rfl, _⟩ := View.runs_read_iff.mp hread
    rfl
  · obtain ⟨answer, rfl, _⟩ := View.runs_read_iff.mp hread
    rcases Action.runs_guard_iff.mp hrest with ⟨_, rfl, _⟩ | ⟨_, hverify⟩
    · rfl
    · obtain ⟨rfl, _⟩ := Action.runs_ofResult_iff.mp hverify
      rfl

/-- The flag is asked for first and the root second, if a mailbox is configured, and nothing else is. -/
theorem requests_of_prepare (hrun : (s.prepare proof).Runs t result) :
    t.map (·.request) <+: flagRequest s.finalizer.l1Bridge proof.l1BatchNumber proof.l2MessageIndex ::
      s.mailbox.toList.map (rootRequest · proof.l1BatchNumber) := by
  rcases Action.runs_bind_iff.mp hrun with ⟨error, hvalid, _⟩ | ⟨_, t, call, rfl, hvalid, hthen⟩
  · obtain ⟨rfl, _⟩ := Action.runs_ofResult_iff.mp hvalid
    exact List.nil_prefix
  obtain ⟨rfl, _⟩ := Action.runs_ofResult_iff.mp hvalid
  rcases Action.runs_bind_iff.mp hthen with ⟨error, hread, _⟩ | ⟨_, t, used, rfl, hread, hguard⟩
  · obtain ⟨answer, rfl, _⟩ := View.runs_read_iff.mp hread
    exact List.prefix_append [_] _
  obtain ⟨answer, rfl, _⟩ := View.runs_read_iff.mp hread
  rw [List.nil_append, List.singleton_append, List.map_cons]
  refine List.cons_prefix_cons.mpr ⟨rfl, ?_⟩
  rcases Action.runs_guard_iff.mp hguard with ⟨_, rfl, _⟩ | ⟨_, hlast⟩
  · exact List.nil_prefix
  dsimp only at hlast
  cases hmailbox : s.mailbox with
  | none =>
    rw [hmailbox] at hlast
    obtain ⟨rfl, _⟩ := Action.runs_pure_iff.mp hlast
    exact List.nil_prefix
  | some mailbox =>
    rw [hmailbox] at hlast
    rcases Action.runs_bind_iff.mp hlast with ⟨error, hcheck, _⟩ | ⟨_, after, _, rfl, hcheck, hpure⟩
    · rw [requests_of_checkInclusion hcheck]
      exact List.prefix_rfl
    · obtain ⟨rfl, _⟩ := Action.runs_pure_iff.mp hpure
      rw [List.append_nil, requests_of_checkInclusion hcheck]
      exact List.prefix_rfl

theorem flagRequest_ne_rootRequest (l1Bridge mailbox : Address) (batch index batch' : Uint 64) :
    flagRequest l1Bridge batch index ≠ rootRequest mailbox batch' := by
  intro hsame
  have hflag :
      (flagRequest l1Bridge batch index).calls L1Bridge.isWithdrawalFinalized.toFunction = true :=
    (Request.calls_call ..).trans (by decide)
  have hroot : (rootRequest mailbox batch').calls L1Bridge.isWithdrawalFinalized.toFunction = false :=
    (Request.calls_call ..).trans (by decide)
  rw [hsame, hroot] at hflag
  cases hflag

/-- No answer is asked for twice, so a run was answered by a function. -/
theorem exists_replies_of_prepare (hrun : (s.prepare proof).Runs t result) :
    ∃ replies, t.AnsweredBy replies ∧ result = (s.prepare proof).under replies := by
  have hnodup : (flagRequest s.finalizer.l1Bridge proof.l1BatchNumber proof.l2MessageIndex ::
      s.mailbox.toList.map (rootRequest · proof.l1BatchNumber)).Nodup := by
    cases s.mailbox with
    | none => simp
    | some mailbox => simpa using flagRequest_ne_rootRequest _ mailbox _ _ _
  obtain ⟨replies, hreplies⟩ :=
    Trace.AnsweredBy.exists_of_nodup (hnodup.sublist (requests_of_prepare hrun).sublist)
  exact ⟨replies, hreplies, hrun.eq_under hreplies⟩

/-- A proof that is not valid is refused before anything is asked. -/
theorem eq_nil_of_invalid (hrun : (s.prepare proof).Runs t result) {reason : WithdrawalError}
    (hinvalid : s.finalizer.validate proof = .error reason) : t = [] := by
  rcases Action.runs_bind_iff.mp hrun with ⟨_, hvalid, _⟩ | ⟨_, _, _, _, hvalid, _⟩
  · exact (Action.runs_ofResult_iff.mp hvalid).1
  · cases hinvalid.symm.trans (Action.runs_ofResult_ok_iff.mp hvalid).2

theorem isRead_of_prepare (hrun : (s.prepare proof).Runs t result) {x : Exchange} (hx : x ∈ t) :
    x.request.isRead = true := by
  have hrequest := (requests_of_prepare hrun).subset (List.mem_map_of_mem hx)
  rcases List.mem_cons.mp hrequest with hflag | hroot
  · rw [hflag]
    rfl
  · obtain ⟨mailbox, _, hroot⟩ := List.mem_map.mp hroot
    rw [← hroot]
    rfl

end Runs

/-- The answers of L1 decide what becomes of a proof. A call is handed back exactly when the proof is
valid, the flag of the withdrawal is answered with a zero word and, where a mailbox is configured, the
batch root is answered with a word that is not zero and to which the path leads; otherwise the first of
these that fails gives the error. Every run has such answers. It asks nothing for a proof that is not
valid, it only reads, and it hands nothing back once the flag of the withdrawal is set. -/
theorem prepare_decided_by_answers (s : WithdrawalService) (proof : WithdrawalProof) :
    (∀ replies,
      (∀ call, (s.prepare proof).under replies = .ok call ↔ s.Cleared replies proof call) ∧
      ∀ error, (s.prepare proof).under replies = .error error ↔ s.Refused replies proof error) ∧
    ∀ t result, (s.prepare proof).Runs t result →
      (∃ replies, t.AnsweredBy replies ∧ result = (s.prepare proof).under replies) ∧
      (∀ reason, s.finalizer.validate proof = .error reason → t = []) ∧
      (∀ x ∈ t, x.request.isRead = true) ∧
      ∀ lane answer flag,
        (⟨lane, flagRequest s.finalizer.l1Bridge proof.l1BatchNumber proof.l2MessageIndex, answer⟩ :
          Exchange) ∈ t →
        Says answer flag → flag ≠ FixedBytes.zero → ∀ call, result ≠ .ok call := by
  refine ⟨fun _ => ⟨fun _ => prepare_eq_ok_iff, fun _ => prepare_eq_error_iff⟩, ?_⟩
  intro t result hrun
  obtain ⟨replies, hreplies, hresult⟩ := exists_replies_of_prepare hrun
  refine ⟨⟨replies, hreplies, hresult⟩, fun _ => eq_nil_of_invalid hrun,
    fun _ => isRead_of_prepare hrun, ?_⟩
  rintro lane answer flag hmem hflag hset call rfl
  have hunused := (prepare_eq_ok_iff.mp hresult.symm).unused
  rw [← hreplies _ hmem] at hunused
  exact hset (hflag.unique hunused)

/-- An L1 that answers one word for every flag and one for every root. -/
def holding (flag root : Word) : Replies
  | .call _ data =>
    .ok (if data.take 4 = L1Bridge.isWithdrawalFinalized.selector.bytes then flag.bytes else root.bytes)
  | _ => .error (.transport "")

/-- A service for withdrawals without a payload between zero addresses, with a mailbox. -/
def bare : WithdrawalService where
  finalizer := ⟨FixedBytes.zero, FixedBytes.zero, .padded FixedBytes.zero 0⟩
  mailbox := some FixedBytes.zero
  hash := WithdrawalFinalizer.firstWord

/-- The only withdrawal there is without a payload. -/
def nothing : WithdrawalProof :=
  { WithdrawalFinalizer.leftmost 1 with message := Bytes.zeros 36 }

/-- A proof whose leaf is the batch root is handed back, unless its flag is set. -/
theorem prepare_decided_by_answers_of_held :
    let root := bare.finalizer.proofLeaf bare.hash nothing
    (bare.prepare nothing).under (holding FixedBytes.zero root) =
        .ok (bare.finalizer.finalizeCall nothing) ∧
      ∃ t, (bare.prepare nothing).Runs t (.error (.alreadyFinalized 1 0)) ∧
        ∀ x ∈ t, x.request.isRead = true := by
  intro root
  have hset : root ≠ FixedBytes.zero := by decide
  have hheld : ∀ word : Word, Says (.ok word.bytes) word := fun word => ⟨[], by rw [List.append_nil]⟩
  have hvalid : bare.finalizer.validate nothing = .ok (bare.finalizer.finalizeCall nothing) := by rfl
  constructor
  · refine ((prepare_decided_by_answers bare nothing).1 _).1 _ |>.mpr ⟨hvalid, hheld _, ?_⟩
    rintro _ ⟨⟩
    exact ⟨root, hheld root, hset, by decide, by decide, by decide +kernel⟩
  · have hused := ((prepare_decided_by_answers bare nothing).1 (holding root root)).2 _ |>.mpr
      (.used hvalid (hheld root) hset)
    obtain ⟨t, hrun, _⟩ := Program.exists_runs_iff_eq_under.mpr hused.symm
    exact ⟨t, hrun, ((prepare_decided_by_answers bare nothing).2 t _ hrun).2.2.1⟩

end RollupBridge.WithdrawalService
