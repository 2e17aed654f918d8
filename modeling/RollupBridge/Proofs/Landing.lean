import RollupBridge.Proofs.Bootstrap.Milestones
import RollupBridge.Proofs.Checks
import RollupBridge.Proofs.Payment

namespace RollupBridge

namespace Exchange

/-- False of a send that was answered with another hash than that of the transaction. -/
def echoes : Exchange → Bool
  | ⟨_, .send signed, .ok hash⟩ => hash = signed.hash
  | _ => true

/-- The hash of a transaction that was signed. -/
def signedHash? : Exchange → Option Word
  | ⟨_, .sign _, .ok signed⟩ => some signed.hash
  | _ => none

/-- The hash under which a transaction was reported successful. -/
def landedHash? : Exchange → Option Word
  | ⟨_, .wait hash _, .ok outcome⟩ => if outcome.success then some hash else none
  | _ => none

end Exchange

namespace Trace

/-- A transaction was signed, then sent on a lane, and then reported successful under the hash with
which the send was answered. That this hash is the transaction's own is up to the client: nothing
compares the two. -/
def Lands (t : Trace) (lane : Lane) (confirmations : Uint 64) (tx : L1Transaction)
    (signed : SignedTransaction) (hash : Word) : Prop :=
  ∃ outcome : TransactionOutcome, outcome.success = true ∧
    List.Sublist [⟨.main, .sign tx, .ok signed⟩, ⟨lane, .send signed, .ok hash⟩,
      ⟨lane, .wait hash confirmations, .ok outcome⟩] t

/-- Every send that was accepted was answered with the hash of the transaction. -/
def Echoes (t : Trace) : Prop := ∀ x ∈ t, x.echoes = true

/-- A transaction was signed after reads, and nothing came after that. -/
def SignsLast (t : Trace) (tx : L1Transaction) (signed : SignedTransaction) : Prop :=
  ∃ reads, t = reads ++ [⟨.main, .sign tx, .ok signed⟩] ∧ ∀ x ∈ reads, x.request.isRead = true

variable {t earlier : Trace} {lane : Lane} {confirmations : Uint 64} {tx : L1Transaction}
  {signed : SignedTransaction} {hash : Word}

theorem SignsLast.append_left (hreads : ∀ x ∈ earlier, x.request.isRead = true)
    (hlast : t.SignsLast tx signed) : Trace.SignsLast (earlier ++ t) tx signed := by
  obtain ⟨reads, rfl, hrest⟩ := hlast
  exact ⟨earlier ++ reads, (List.append_assoc ..).symm, List.forall_mem_append.mpr ⟨hreads, hrest⟩⟩

/-- A client that answers with the hashes of the transactions reports a success under its own. -/
theorem Lands.hash_eq (hlands : t.Lands lane confirmations tx signed hash) (hechoes : t.Echoes) :
    hash = signed.hash := by
  obtain ⟨outcome, _, hsublist⟩ := hlands
  have hsent : (⟨lane, .send signed, .ok hash⟩ : Exchange) ∈ t := hsublist.subset (by simp)
  exact of_decide_eq_true (hechoes _ hsent)

end Trace

/-- A submission that ends in an outcome was sent and then awaited under the hash that was answered. -/
theorem Submission.Runs.sublist {s : Submission} {lane : Lane} {t : Trace}
    {outcome : TransactionOutcome} (hrun : s.Runs lane (Trace.on lane t) (.ok outcome)) :
    ∃ hash, List.Sublist
      [⟨lane, .send s.tx, .ok hash⟩, ⟨lane, .wait hash s.confirmations, .ok outcome⟩] t := by
  have hfilter : (Trace.on lane t).Sublist t := List.filter_sublist
  generalize Trace.on lane t = submitted at hrun hfilter
  cases hrun with
  | awaited hash => exact ⟨hash, hfilter⟩

namespace Bootstrap

variable {b : Bootstrap} {codes : BridgeBytecodes} {s s' : InitState} {t : Trace}
  {result : Except BridgeError BootstrapOutcome}

/-- What an outcome of a submission after the signatures says of the transaction. -/
theorem lands_of_submitted {signing both final : Trace} {lane : Lane} {tx : L1Transaction}
    {signed : SignedTransaction} {outcome : TransactionOutcome}
    (hsigned : (⟨.main, .sign tx, .ok signed⟩ : Exchange) ∈ signing)
    (hrun : (⟨signed, b.config.confirmations⟩ : Submission).Runs lane (Trace.on lane both)
      (.ok outcome))
    (hsuccess : outcome.success = true) :
    ∃ hash, Trace.Lands (signing ++ (both ++ final)) lane b.config.confirmations tx signed hash := by
  obtain ⟨hash, hsublist⟩ := hrun.sublist
  have hfirst := List.singleton_sublist.mpr hsigned
  exact ⟨hash, outcome, hsuccess, hfirst.append (hsublist.trans (List.sublist_append_left both final))⟩

/-- The state moves on only by transactions that landed: to published by the publication, and to
initialized by the deployment as well. -/
theorem Course.lands (hcourse : b.Course codes s t result s') (hmoved : s' ≠ s) :
    ∃ reads rest prepared, t = reads ++ rest ∧ (b.prepare codes).Runs reads (.ok prepared) ∧
      (∃ signed hash, t.Lands .first b.config.confirmations prepared.publication signed hash) ∧
      (.initialized ≤ s' →
        ∃ signed hash, t.Lands .second b.config.confirmations prepared.deployment signed hash) := by
  cases hcourse with
  | refused => exact absurd rfl hmoved
  | unsigned => exact absurd rfl hmoved
  | submitted hsign _ hpublication hdeployment hend =>
    cases signing_of_runs hsign with
    | @signed reads prepared hprepare publication deployment =>
      refine ⟨reads, _, prepared, List.append_assoc _ _ _, hprepare, ?_, ?_⟩
      · have hpublished := hend.published_iff.mp (InitState.bytecodesPublished_le_iff.mpr hmoved)
        obtain ⟨outcome, rfl, hsuccess⟩ := hpublished
        exact ⟨publication, lands_of_submitted (by simp) hpublication hsuccess⟩
      · intro hinitialized
        obtain ⟨_, ⟨outcome, rfl, hsuccess⟩, _⟩ := hend.initialized_iff.mp hinitialized
        exact ⟨deployment, lands_of_submitted (by simp) hdeployment hsuccess⟩

end Bootstrap

namespace WethConfig

variable {config : WethConfig} {account : Address} {t : Trace}

/-- What is signed for an upgrade comes after its reads and goes to the mailbox. -/
theorem signsLast_of_sign {signed : SignedTransaction}
    (hrun : (config.sign account).Runs t (.ok signed)) :
    ∃ tx, t.SignsLast tx signed ∧ tx.target = config.mailbox := by
  cases priced_of_runs_sign hrun with
  | priced hprice _ _ hrest =>
    cases FeeOracle.charge_of_runs (config.request account) (fun _ => rfl) (fun _ => rfl) hrest with
    | @covered charging after _ _ hreads _ _ hnext =>
      unfold WethConfig.signNumbered at hnext
      rw [Action.runs_bind_ok_iff] at hnext
      obtain ⟨numbering, _, nonce, rfl, hnumbering, hnext⟩ := hnext
      rw [Action.runs_bind_ok_iff] at hnext
      obtain ⟨_, _, gasLimit, rfl, hestimate, hsign⟩ := hnext
      rw [Action.runs_ask_ok_iff] at hestimate hsign
      subst hestimate hsign
      have hnonce := Trace.isRead_of_asked (.pendingNonce account) rfl hnumbering
      have hsingle {tx : L1Transaction} : Trace.SignsLast [⟨.main, .sign tx, .ok signed⟩] tx signed :=
        ⟨[], rfl, by simp⟩
      exact ⟨_, .append_left hprice (.append_left hreads (.append_left hnonce
        (.append_left (by simp [Request.isRead]) hsingle))), rfl⟩

/-- An upgrade that reports an outcome is one transaction: read for, signed, sent and successful. -/
theorem exchanges_of_submit {outcome : TransactionOutcome}
    (hrun : (config.submit account).Runs t (.ok outcome)) :
    ∃ reads tx signed hash, t = reads ++ [⟨.main, .sign tx, .ok signed⟩,
        ⟨.main, .send signed, .ok hash⟩, ⟨.main, .wait hash config.confirmations, .ok outcome⟩] ∧
      (∀ x ∈ reads, x.request.isRead = true) ∧ tx.target = config.mailbox ∧ outcome.success = true := by
  unfold WethConfig.submit at hrun
  rw [Action.runs_bind_ok_iff] at hrun
  obtain ⟨_, _, signed, rfl, hsign, hrun⟩ := hrun
  obtain ⟨tx, ⟨reads, rfl, hreads⟩, htarget⟩ := signsLast_of_sign hsign
  rw [Action.runs_bind_ok_iff] at hrun
  obtain ⟨_, _, hash, rfl, hsend, hrun⟩ := hrun
  rw [Action.runs_ask_ok_iff] at hsend
  subst hsend
  rw [Action.runs_bind_ok_iff] at hrun
  obtain ⟨_, _, reported, rfl, hwait, hrun⟩ := hrun
  rw [Action.runs_ask_ok_iff] at hwait
  subst hwait
  rw [Action.runs_bind_ok_iff] at hrun
  obtain ⟨_, _, _, rfl, hcheck, hpure⟩ := hrun
  rw [Action.runs_ofResult_ok_iff] at hcheck
  obtain ⟨rfl, hsuccess⟩ := hcheck
  obtain ⟨rfl, houtcome⟩ := Action.runs_pure_iff.mp hpure
  cases houtcome
  exact ⟨reads, tx, signed, hash, by simp, hreads, htarget,
    TransactionOutcome.requireSuccess_eq_ok_iff.mp hsuccess⟩

end WethConfig

/-- Success is only ever concluded from the submission of the transaction that was signed: of the
publication and, for an initialized bridge, of the deployment too, and of the upgrade of the token. Each
was reported successful under the hash that its own send was answered with, and so under its own hash
by a client that answers with those. -/
theorem success_follows_submission :
    (∀ (b : Bootstrap) codes s t result s', (b.deploy codes).Runs s t result s' → s' ≠ s →
      ∃ reads rest prepared, t = reads ++ rest ∧ (b.prepare codes).Runs reads (.ok prepared) ∧
        (∃ signed hash, t.Lands .first b.config.confirmations prepared.publication signed hash ∧
          (t.Echoes → hash = signed.hash)) ∧
        (.initialized ≤ s' →
          ∃ signed hash, t.Lands .second b.config.confirmations prepared.deployment signed hash ∧
            (t.Echoes → hash = signed.hash))) ∧
    ∀ (config : WethConfig) account t outcome, (config.submit account).Runs t (.ok outcome) →
      ∃ tx signed hash, tx.target = config.mailbox ∧
        t.Lands .main config.confirmations tx signed hash ∧ (t.Echoes → hash = signed.hash) := by
  constructor
  · intro b codes s t result s' hrun hmoved
    obtain ⟨reads, rest, prepared, hreads, hprepare, ⟨signed, hash, hpublication⟩, hdeployment⟩ :=
      (Bootstrap.course_of_runs hrun).lands hmoved
    refine ⟨reads, rest, prepared, hreads, hprepare,
      ⟨signed, hash, hpublication, hpublication.hash_eq⟩, ?_⟩
    intro hinitialized
    obtain ⟨signed, hash, hdeployment⟩ := hdeployment hinitialized
    exact ⟨signed, hash, hdeployment, hdeployment.hash_eq⟩
  · intro config account t outcome hrun
    obtain ⟨reads, tx, signed, hash, rfl, _, htarget, hsuccess⟩ := WethConfig.exchanges_of_submit hrun
    have hlands : Trace.Lands (reads ++ [⟨.main, .sign tx, .ok signed⟩,
        ⟨.main, .send signed, .ok hash⟩, ⟨.main, .wait hash config.confirmations, .ok outcome⟩]) .main
        config.confirmations tx signed hash := ⟨outcome, hsuccess, List.sublist_append_right ..⟩
    exact ⟨tx, signed, hash, htarget, hlands, hlands.hash_eq⟩

/-- An L1 that answers every send with the hash of the transaction. -/
def Simulation.echoing : Simulation := { Simulation.plain [] with l1.sendHashes := [] }

/-- On an L1 that answers with the hashes of the transactions, all of them landed under their own. -/
theorem success_follows_submission_of_echoed :
    let account := Bootstrap.plain.account
    let run := (Bootstrap.plain.deploy .plain).recorded .unpublished .echoing
    let run' := (WethConfig.narrow.submit account).run.record Simulation.answer .echoing
    (Bootstrap.plain.deploy .plain).Runs .unpublished run.1 run.2.1 run.2.2 ∧
      (∃ tx signed, run.1.Lands .first 2 tx signed signed.hash) ∧
      (∃ tx signed, run.1.Lands .second 2 tx signed signed.hash) ∧
      (WethConfig.narrow.submit account).Runs run'.1 run'.2.1 ∧
      ∃ tx signed, run'.1.Lands .main 1 tx signed signed.hash := by
  intro account run run'
  have hrun : (Bootstrap.plain.deploy .plain).Runs .unpublished run.1 run.2.1 run.2.2 :=
    StateAction.runs_recorded ..
  have hrun' : (WethConfig.narrow.submit account).Runs run'.1 run'.2.1 := Program.runs_record ..
  have hechoes : run.1.Echoes := List.all_eq_true.mp (by decide +kernel)
  have hechoes' : run'.1.Echoes := List.all_eq_true.mp (by decide +kernel)
  have hstate : run.2.2 = .initialized := by decide +kernel
  obtain ⟨outcome, houtcome⟩ : ∃ outcome, run'.2.1 = .ok outcome := isOk_iff.mp (by decide +kernel)
  refine ⟨hrun, ?_, ?_, hrun', ?_⟩
  · obtain ⟨_, _, prepared, _, _, ⟨signed, hash, hlands, hown⟩, _⟩ :=
      success_follows_submission.1 _ _ _ _ _ _ hrun (by rw [hstate]; decide)
    exact ⟨prepared.publication, signed, hown hechoes ▸ hlands⟩
  · obtain ⟨_, _, prepared, _, _, _, hdeployment⟩ :=
      success_follows_submission.1 _ _ _ _ _ _ hrun (by rw [hstate]; decide)
    obtain ⟨signed, hash, hlands, hown⟩ := hdeployment (by rw [hstate]; decide)
    exact ⟨prepared.deployment, signed, hown hechoes ▸ hlands⟩
  · rw [houtcome] at hrun'
    obtain ⟨tx, signed, hash, _, hlands, hown⟩ := success_follows_submission.2 _ _ _ _ hrun'
    exact ⟨tx, signed, hown hechoes' ▸ hlands⟩

/-- An L1 that answers sends with other hashes than those of the transactions moves a bridge on, although
nothing that was signed was reported successful under its own hash. -/
theorem success_under_foreign_hash :
    ¬∀ (bridge : BridgeConfig) (config : BootstrapConfig) (account : Address)
      (hasher : BytecodeHasher) (b : Bootstrap) codes s t result s',
      (Bootstrap.create bridge config account).map (fun new => { new with hasher }) = .ok b →
      (b.deploy codes).Runs s t result s' → s' ≠ s →
      ∃ x ∈ t, ∃ y ∈ t, ∃ hash, x.signedHash? = some hash ∧ y.landedHash? = some hash := by
  intro hclaim
  let b : Bootstrap := { Bootstrap.plain with addressHash := keccak256 }
  have hcreate : (Bootstrap.create Bootstrap.plain.bridge Bootstrap.plain.config
      Bootstrap.plain.account).map (fun new => { new with hasher := Bootstrap.plain.hasher }) =
        .ok b := by rfl
  have hrun := StateAction.runs_recorded (b.deploy .plain) .unpublished (.plain [])
  obtain ⟨hmoved, hforeign⟩ : ((b.deploy .plain).recorded .unpublished (.plain [])).2.2 ≠ .unpublished ∧
      ∀ hash ∈ ((b.deploy .plain).recorded .unpublished (.plain [])).1.filterMap (·.signedHash?),
        hash ∉ ((b.deploy .plain).recorded .unpublished (.plain [])).1.filterMap (·.landedHash?) := by
    decide +kernel
  obtain ⟨x, hx, y, hy, hash, hsigned, hlanded⟩ := hclaim _ _ _ _ _ _ _ _ _ _ hcreate hrun hmoved
  exact hforeign hash (List.mem_filterMap.mpr ⟨x, hx, hsigned⟩)
    (List.mem_filterMap.mpr ⟨y, hy, hlanded⟩)

end RollupBridge
