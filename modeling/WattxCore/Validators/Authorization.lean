import WattxCore.Validators.Rewards

/-!
What the registry and the delegation ledger authenticate. `ProcessUpdate` verifies an update
against the key stored for its validator; `ProcessDelegation` verifies a request against the
`delegatorPubKey` the request itself carries, with no check that this key is one of
`delegatorId`'s; `ProcessUndelegation` and `ProcessRewardClaim` read no signature at all.

* `SignedBy c d h s` (in `Primitives`): some key `P` of `d` (`GetID(P) = d`) verifies `s` on
  `h`;
* `processUpdate_unverified`, `processDelegation_unverified`: an update or a delegation
  that fails its check reports failure and changes nothing;
* `step_signature_irrelevant`: **in every state an undelegation or a claim has the same reply
  and the same effect whatever signature it carries**;
* `forged_requests_accepted`: requests in delegator `2`'s name that no key of `2` signed
  delegate, undelegate and claim its rewards;
* `processUpdate_replay_idempotent`: an accepted update that moves no stake, applied a second
  time, leaves the registry as the first application left it; `processUpdate_increase_again`:
  an accepted `INCREASE_STAKE` is accepted again and adds its value again, the signed
  `updateHeight` being compared with nothing (`update_replay_repeats`).
-/

namespace WattxCore

variable {p : Params} {c : Crypto}

/-! ### What is checked -/

/-- An update that the stored key of its validator does not verify changes nothing. -/
lemma ValidatorDB.processUpdate_unverified (db : ValidatorDB) (u : ValidatorUpdate)
    (h : ∀ e, db.validators.find? u.validatorId = some e → u.verify c e.validatorPubKey = false) :
    db.processUpdate p c u = (false, db) := by
  unfold ValidatorDB.processUpdate
  split
  · rfl
  · rename_i e he
    rw [h e he]
    rfl

namespace DelegationDB

/-- A delegation that its own `delegatorPubKey` does not verify changes nothing. -/
lemma processDelegation_unverified (vdb : ValidatorDB) (db : DelegationDB)
    (r : DelegationRequest) (o : OutPoint) (h : r.verify c = false) :
    processDelegation c vdb db r o = (false, db, vdb) := by
  simp [processDelegation, h]

/-! ### What is not -/

lemma undelegateLoop_signature (r : UndelegationRequest) (s : Sig) (height : Int32) :
    ∀ (ids : List Digest) (remaining : Int) (any : Bool) (ds : StdMap Digest DelegationEntry)
      (vdb : ValidatorDB), undelegateLoop { r with signature := s } height ids remaining any ds vdb =
        undelegateLoop r height ids remaining any ds vdb
  | [], _, _, _, _ => rfl
  | id :: ids, remaining, any, ds, vdb => by
      unfold undelegateLoop
      split
      · exact undelegateLoop_signature r s height ids remaining any ds vdb
      · dsimp only
        split_ifs
        · exact undelegateLoop_signature r s height ids remaining any ds vdb
        · rfl
        · exact undelegateLoop_signature r s height ids _ true _ _

lemma claimLoop_signature (r : RewardClaimRequest) (s : Sig) (height : Int32) :
    ∀ (ids : List Digest) (total : Int) (ds : StdMap Digest DelegationEntry),
      claimLoop { r with signature := s } height ids total ds = claimLoop r height ids total ds
  | [], _, _ => rfl
  | id :: ids, total, ds => by
      unfold claimLoop
      split
      · exact claimLoop_signature r s height ids total ds
      · dsimp only
        split_ifs
        · exact claimLoop_signature r s height ids total ds
        · exact claimLoop_signature r s height ids _ _
        · exact claimLoop_signature r s height ids total ds

end DelegationDB

open DelegationDB

/-- **The ledger never reads the signature of an undelegation or a reward claim**: in every
state, the same request with any other signature has the same reply and the same effect. -/
lemma step_signature_irrelevant (L : Ledger) (s : Sig) (r : UndelegationRequest)
    (r' : RewardClaimRequest) :
    Ledger.step p c L (.processUndelegation { r with signature := s }) =
        Ledger.step p c L (.processUndelegation r) ∧
      Ledger.step p c L (.processRewardClaim { r' with signature := s }) =
        Ledger.step p c L (.processRewardClaim r') := by
  constructor
  · simp only [Ledger.step, processUndelegation, undelegateLoop_signature]
  · simp only [Ledger.step, processRewardClaim, claimLoop_signature]

/-! ### Requests no key of the delegator signed -/

/-- The id of delegator `2`'s delegation in `pendingDelegationRun`. -/
def pendingDelegationId : Digest :=
  (newEntry (signedDelegation 2 1 MIN_DELEGATION_AMOUNT 0) OutPoint.null).getDelegationId Crypto.toy

/-- Delegator `2`'s delegation to validator `1` matures and `AddRewards` credits it `100`. -/
def creditedRun : List LedgerOp :=
  pendingDelegationRun ++ [.delegationBlock 500, .addRewards pendingDelegationId 100]

/-- An undelegation of everything in delegator `2`'s name that carries no signature. -/
def unsignedUndelegation : UndelegationRequest := ⟨2, 1, 0, 500, []⟩

/-- A reward claim in delegator `2`'s name that carries no signature. -/
def unsignedClaim : RewardClaimRequest := ⟨2, 1, 500, []⟩

/-- A delegation in delegator `2`'s name that carries key `5` and is signed with it. -/
def foreignDelegation : DelegationRequest :=
  let r : DelegationRequest := ⟨2, 5, 1, MIN_DELEGATION_AMOUNT, 500, []⟩
  { r with signature := [5, r.getHash Crypto.toy] }

/-- Validator `1`'s `totalDelegated` and the pending rewards of all records. -/
def stakeAndRewards (L : Ledger) : Option Int × Int :=
  ((L.vdb.getValidator 1).map (·.totalDelegated), pendingTotal L.ddb.delegations)

/-- An operation's reply after `creditedRun`, and `stakeAndRewards` afterwards. -/
def afterCredit (op : LedgerOp) : Option (Reply × Option Int × Int) :=
  (Ledger.step Params.sample Crypto.toy (ledgerAfter creditedRun) op).map fun r =>
    (r.1, stakeAndRewards r.2)

/-- No key of delegator `2` signed the three requests, yet after `creditedRun`, where
validator `1` holds `MIN_DELEGATION_AMOUNT` and `100` is pending, the delegation is accepted
and doubles the aggregate, the undelegation is accepted and releases it, and the claim pays
out the `100`. -/
theorem forged_requests_accepted :
    ¬ SignedBy Crypto.toy 2 (foreignDelegation.getHash Crypto.toy) foreignDelegation.signature ∧
      ¬ SignedBy Crypto.toy 2 (unsignedUndelegation.getHash Crypto.toy)
        unsignedUndelegation.signature ∧
      ¬ SignedBy Crypto.toy 2 (unsignedClaim.getHash Crypto.toy) unsignedClaim.signature ∧
      stakeAndRewards (ledgerAfter creditedRun) = (some MIN_DELEGATION_AMOUNT, 100) ∧
      afterCredit (.processDelegation foreignDelegation OutPoint.null) =
        some (.ok true, some (2 * MIN_DELEGATION_AMOUNT), 100) ∧
      afterCredit (.processUndelegation unsignedUndelegation) = some (.ok true, some 0, 100) ∧
      afterCredit (.processRewardClaim unsignedClaim) =
        some (.amount 100, some MIN_DELEGATION_AMOUNT, 0) := by
  refine ⟨?_, ?_, ?_, by decide, by decide, by decide, by decide⟩
  · rintro ⟨P, hP, h⟩
    obtain rfl : P = 2 := hP
    exact absurd h (by decide)
  all_goals
    rintro ⟨P, -, h⟩
    exact Bool.false_ne_true h

/-! ### Replayed updates -/

namespace ValidatorDB

/-- No update changes the stored key. -/
lemma applyUpdate_validatorPubKey {db : ValidatorDB} {e e' : ValidatorEntry} {u : ValidatorUpdate}
    (h : applyUpdate p db e u = some e') : e'.validatorPubKey = e.validatorPubKey := by
  unfold applyUpdate at h
  split at h <;> (try split_ifs at h) <;> (cases h; rfl)

/-- An update that moves no stake gives, on the entry it produced, that entry again. -/
lemma applyUpdate_again {db db' : ValidatorDB} {e e' : ValidatorEntry} {u : ValidatorUpdate}
    (hk : (u.updateType ≠ .INCREASE_STAKE ∧ u.updateType ≠ .DECREASE_STAKE) ∨ u.newValue = 0)
    (h : applyUpdate p db e u = some e') : applyUpdate p db' e' u = some e' := by
  unfold applyUpdate at h ⊢
  split at h <;> rename_i ht <;> simp only [ht] at hk ⊢ <;> (try split_ifs at h) <;> cases h <;>
    simp_all

/-- **Inversion of an accepted update**: the validator was found, its stored key verified the
update, and `applyUpdate`'s entry was written back. -/
lemma processUpdate_accepted {db : ValidatorDB} {u : ValidatorUpdate}
    (h : (db.processUpdate p c u).1 = true) :
    ∃ e e', db.validators.find? u.validatorId = some e ∧ u.verify c e.validatorPubKey = true ∧
      applyUpdate p db e u = some e' ∧ db.processUpdate p c u = (true, db.setEntry u.validatorId e') := by
  unfold processUpdate at h ⊢
  cases he : db.validators.find? u.validatorId with
  | none => simp [he] at h
  | some e =>
      cases hv : u.verify c e.validatorPubKey
      · simp [he, hv] at h
      · cases ha : applyUpdate p db e u with
        | none => simp [he, hv, ha] at h
        | some e' => exact ⟨e, e', rfl, hv, ha, by simp [hv, ha]⟩

/-- **Replaying an update that moves no stake changes nothing**: applied a second time, an
accepted update of any kind but `INCREASE_STAKE` and `DECREASE_STAKE`, or one of value `0`,
leaves the registry as the first application left it. -/
theorem processUpdate_replay_idempotent (db : ValidatorDB) (u : ValidatorUpdate)
    (hk : (u.updateType ≠ .INCREASE_STAKE ∧ u.updateType ≠ .DECREASE_STAKE) ∨ u.newValue = 0)
    (h : (db.processUpdate p c u).1 = true) :
    ((db.processUpdate p c u).2.processUpdate p c u).2 = (db.processUpdate p c u).2 := by
  obtain ⟨e, e', -, hv, ha, hr⟩ := processUpdate_accepted h
  rw [hr]
  simp [processUpdate, applyUpdate_validatorPubKey ha, hv, applyUpdate_again hk ha]

/-- **An accepted `INCREASE_STAKE` is accepted again** on the registry it produced, and adds
its value a second time. -/
lemma processUpdate_increase_again (db : ValidatorDB) (u : ValidatorUpdate)
    (ht : u.updateType = .INCREASE_STAKE) (h : (db.processUpdate p c u).1 = true) :
    ∃ e, db.validators.find? u.validatorId = some e ∧
      (db.processUpdate p c u).2.processUpdate p c u =
        (true, db.setEntry u.validatorId { e with stakeAmount := e.stakeAmount + u.newValue + u.newValue }) := by
  obtain ⟨e, e', he, hv, ha, hr⟩ := processUpdate_accepted h
  simp only [applyUpdate, ht, Option.some.injEq] at ha
  subst ha
  refine ⟨e, he, ?_⟩
  rw [hr]
  simp [processUpdate, hv, applyUpdate, ht]

end ValidatorDB

/-- Validator `1`'s `INCREASE_STAKE` of one WATTx at height `h`, signed with its key under
`Crypto.toy`. -/
def signedIncrease (h : Int32) : ValidatorUpdate :=
  let u : ValidatorUpdate := ⟨1, .INCREASE_STAKE, 100000000, "", h, []⟩
  { u with signature := [1, u.getHash Crypto.toy] }

/-- The registry holding validator `1` as the RPC registers it. -/
def registeredOneDB : ValidatorDB :=
  (ValidatorDB.empty.registerValidator Params.sample (rpcEntry 1 0)).2

/-- Validator `1`'s signed fee update at height 5, accepted and replayed, leaves the registry
as the first application left it. -/
theorem fee_update_replayed :
    ((signedUpdate 1 .UPDATE_FEE 5).updateType ≠ .INCREASE_STAKE ∧
        (signedUpdate 1 .UPDATE_FEE 5).updateType ≠ .DECREASE_STAKE ∨
        (signedUpdate 1 .UPDATE_FEE 5).newValue = 0) ∧
      (registeredOneDB.processUpdate Params.sample Crypto.toy (signedUpdate 1 .UPDATE_FEE 5)).1 = true ∧
      ((registeredOneDB.processUpdate Params.sample Crypto.toy (signedUpdate 1 .UPDATE_FEE 5)).2.processUpdate
          Params.sample Crypto.toy (signedUpdate 1 .UPDATE_FEE 5)).2 =
        (registeredOneDB.processUpdate Params.sample Crypto.toy (signedUpdate 1 .UPDATE_FEE 5)).2 :=
  ⟨by decide, by decide, ValidatorDB.processUpdate_replay_idempotent _ _ (by decide) (by decide)⟩

/-- Validator `1`'s signed increase of one WATTx, replayed on the registry it produced, raises
the stake a second time. -/
theorem update_replay_repeats :
    ¬ ∀ (db : ValidatorDB) (u : ValidatorUpdate), (db.processUpdate Params.sample Crypto.toy u).1 = true →
        ((db.processUpdate Params.sample Crypto.toy u).2.processUpdate Params.sample Crypto.toy u).2 =
          (db.processUpdate Params.sample Crypto.toy u).2 := fun hall => by
  have := congrArg (fun db => (db.getValidator 1).map (·.stakeAmount))
    (hall registeredOneDB (signedIncrease 5) (by decide))
  revert this
  decide

end WattxCore
