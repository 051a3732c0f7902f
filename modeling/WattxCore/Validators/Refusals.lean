import WattxCore.Validators.Aggregates

/-!
What a refused call leaves behind. Every writing operation of `ValidatorDB` and
`DelegationDB` makes all its checks before its first write, and `DelegationDB` calls into
the registry only once it can no longer fail.

* `Atomic db r`: a call on `db` that answers `false` returned `db` itself;
* `*_atomic`: each operation of the registry and of the delegation ledger is atomic in this
  sense; the undelegation loop answers `false` only when it met no record to move
  (`undelegateLoop_atomic`), since one move sets its answer to `true` for good
  (`undelegateLoop_any`);
* `step_refused`: **every operation of the node's databases that answers `false` leaves both
  databases, records, indices, aggregates and heights, exactly as they were**.
-/

namespace WattxCore

/-- A call on `db` that answers `false` returned `db` itself. -/
def Atomic {α : Type} (db : α) (r : Bool × α) : Prop := r.1 = false → r.2 = db

namespace ValidatorDB

variable (p : Params) (c : Crypto) (db : ValidatorDB)

lemma registerValidator_atomic (e : ValidatorEntry) : Atomic db (db.registerValidator p e) := by
  unfold registerValidator; split_ifs <;> simp [Atomic]

lemma processUpdate_atomic (u : ValidatorUpdate) : Atomic db (db.processUpdate p c u) := by
  unfold processUpdate; split
  · simp [Atomic]
  · split_ifs
    · simp [Atomic]
    · split <;> simp [Atomic]

lemma updateStakeOutpoint_atomic (id : KeyID) (o : OutPoint) :
    Atomic db (db.updateStakeOutpoint id o) := by
  unfold updateStakeOutpoint; split <;> simp [Atomic]

lemma setValidatorStatus_atomic (id : KeyID) (s : ValidatorStatus) :
    Atomic db (db.setValidatorStatus id s) := by
  unfold setValidatorStatus; split <;> simp [Atomic]

lemma jailValidator_atomic (id : KeyID) (b : Int32) : Atomic db (db.jailValidator id b) := by
  unfold jailValidator; split <;> simp [Atomic]

lemma unjailValidator_atomic (id : KeyID) : Atomic db (db.unjailValidator id) := by
  unfold unjailValidator; split
  · simp [Atomic]
  · split_ifs <;> simp [Atomic]

lemma addDelegation_atomic (id : KeyID) (a : Int) : Atomic db (db.addDelegation id a) := by
  unfold addDelegation; split <;> simp [Atomic]

lemma removeDelegation_atomic (id : KeyID) (a : Int) : Atomic db (db.removeDelegation id a) := by
  unfold removeDelegation; split
  · simp [Atomic]
  · split_ifs <;> simp [Atomic]

end ValidatorDB

namespace DelegationDB

variable (c : Crypto) (vdb : ValidatorDB) (db : DelegationDB)

lemma processDelegation_atomic (r : DelegationRequest) (o : OutPoint) :
    Atomic (db, vdb) (processDelegation c vdb db r o) := by
  rcases processDelegation_cases c vdb db r o with h | ⟨-, -, -, -, h⟩ <;> rw [h] <;> simp [Atomic]

/-- Once the undelegation loop has moved a record, it answers `true`. -/
lemma undelegateLoop_any (r : UndelegationRequest) (h : Int32) :
    ∀ (ids : List Digest) (rem : Int) ds vdb, (undelegateLoop r h ids rem true ds vdb).1 = true
  | [], _, _, _ => rfl
  | id :: ids, rem, ds, vdb => by
      unfold undelegateLoop
      dsimp only
      split
      · exact undelegateLoop_any r h ids rem ds vdb
      · split_ifs
        · exact undelegateLoop_any r h ids rem ds vdb
        · rfl
        · exact undelegateLoop_any r h ids _ _ _

/-- The undelegation loop answers `false` only when it met no record to move, and then it
changed nothing. -/
lemma undelegateLoop_atomic (r : UndelegationRequest) (h : Int32) :
    ∀ (ids : List Digest) (rem : Int) ds vdb,
      Atomic (ds, vdb) (undelegateLoop r h ids rem false ds vdb)
  | [], _, _, _ => fun _ => rfl
  | id :: ids, rem, ds, vdb => by
      unfold undelegateLoop
      dsimp only
      split
      · exact undelegateLoop_atomic r h ids rem ds vdb
      · split_ifs
        · exact undelegateLoop_atomic r h ids rem ds vdb
        · simp [Atomic]
        · simp [Atomic, undelegateLoop_any]

lemma processUndelegation_atomic (r : UndelegationRequest) :
    Atomic (db, vdb) (processUndelegation vdb db r) := by
  unfold processUndelegation
  split
  · simp [Atomic]
  · intro hf
    have := undelegateLoop_atomic r db.currentHeight _ r.amount db.delegations vdb hf
    simp only [Prod.ext_iff] at this ⊢
    exact ⟨by rw [this.1], this.2⟩

lemma addRewards_atomic (id : Digest) (a : Int) : Atomic db (db.addRewards id a) := by
  unfold addRewards; split <;> simp [Atomic]

lemma setDelegationStatus_atomic (id : Digest) (s : DelegationStatus) :
    Atomic db (db.setDelegationStatus id s) := by
  unfold setDelegationStatus; split <;> simp [Atomic]

lemma updateDelegationOutpoint_atomic (id : Digest) (o : OutPoint) :
    Atomic db (db.updateDelegationOutpoint id o) := by
  unfold updateDelegationOutpoint; split <;> simp [Atomic]

end DelegationDB

namespace Ledger

variable {p : Params} {c : Crypto}

open ValidatorDB DelegationDB

/-- **An operation that answers `false` leaves both databases as they were.** -/
theorem step_refused (L : Ledger) (op : LedgerOp) {x : Reply × Ledger} (hx : x ∈ step p c L op)
    (h : x.1 = .ok false) : x.2 = L := by
  have vdb_of : ∀ {r : Bool × ValidatorDB}, Atomic L.vdb r → r.1 = false → { L with vdb := r.2 } = L :=
    fun hr hf => by rw [hr hf]
  have ddb_of : ∀ {r : Bool × DelegationDB}, Atomic L.ddb r → r.1 = false → { L with ddb := r.2 } = L :=
    fun hr hf => by rw [hr hf]
  have both_of : ∀ {r : Bool × DelegationDB × ValidatorDB}, Atomic (L.ddb, L.vdb) r → r.1 = false →
      (⟨r.2.2, r.2.1⟩ : Ledger) = L := fun hr hf => by rw [hr hf]
  cases op
  case distributeBlockReward V S => obtain ⟨-, rfl⟩ := step_distributeBlockReward hx; rfl
  all_goals cases hx
  all_goals simp only [Reply.ok.injEq, reduceCtorEq] at h ⊢
  case registerValidator e => exact vdb_of (registerValidator_atomic p _ e) h
  case processUpdate u => exact vdb_of (processUpdate_atomic p c _ u) h
  case updateStakeOutpoint id o => exact vdb_of (updateStakeOutpoint_atomic _ id o) h
  case setValidatorStatus id s => exact vdb_of (setValidatorStatus_atomic _ id s) h
  case jailValidator id b => exact vdb_of (jailValidator_atomic _ id b) h
  case unjailValidator id => exact vdb_of (unjailValidator_atomic _ id) h
  case addDelegation id a => exact vdb_of (addDelegation_atomic _ id a) h
  case removeDelegation id a => exact vdb_of (removeDelegation_atomic _ id a) h
  case processDelegation r o => exact both_of (processDelegation_atomic c _ _ r o) h
  case processUndelegation r => exact both_of (processUndelegation_atomic _ _ r) h
  case addRewards id a => exact ddb_of (addRewards_atomic _ id a) h
  case setDelegationStatus id s => exact ddb_of (setDelegationStatus_atomic _ id s) h
  case updateDelegationOutpoint id o => exact ddb_of (updateDelegationOutpoint_atomic _ id o) h

/-- Delegator `2` sends its delegation to validator `1` again once it is recorded: the id is
taken, the request is refused, and nothing moves. -/
theorem step_refused_duplicate :
    ∃ x ∈ step Params.sample Crypto.toy (ledgerAfter pendingDelegationRun)
        (.processDelegation (signedDelegation 2 1 MIN_DELEGATION_AMOUNT 0) OutPoint.null),
      x.1 = .ok false ∧ x.2 = ledgerAfter pendingDelegationRun :=
  have hx : (_, _) ∈ step Params.sample Crypto.toy (ledgerAfter pendingDelegationRun)
      (.processDelegation (signedDelegation 2 1 MIN_DELEGATION_AMOUNT 0) OutPoint.null) := rfl
  have h : (Reply.ok false, _).1 = .ok false := by decide
  ⟨_, hx, h, step_refused _ _ hx h⟩

end Ledger

end WattxCore
