import Mathlib.Data.List.Dedup
import WattxCore.Validators.ValidatorDB

/-!
The delegation ledger, `validators/delegation.{h,cpp}`.

* `DelegationEntry` and its id `GetDelegationId`, the requests `DelegationRequest`,
  `UndelegationRequest`, `RewardClaimRequest` with their signed digests;
* `DelegationDB`: the records, the delegator, validator and outpoint indices, the height;
* the operations that write to the ledger and, through `g_validator_db`, to the registry:
  `ProcessDelegation` and `ProcessUndelegation` take and return the `ValidatorDB`;
* the loops of `ProcessUndelegation` (`undelegateLoop`) and `ProcessRewardClaim`
  (`claimLoop`), each by structural recursion on the id list the source iterates, with the
  source's `continue` and `break` as the recursive and the returning branches;
* `DistributeBlockReward` holds `cs_delegations` (a `Mutex`, not recursive) and, for a
  nonzero share, reads the total through `GetTotalDelegationForValidator`, which locks it
  again: the call returns only for a zero share (`none` otherwise), and its loop is never
  reached.

`g_validator_db` is present, as it is from node start-up on.
-/

namespace WattxCore

/-- `DelegationStatus`. -/
inductive DelegationStatus
  | PENDING
  | ACTIVE
  | UNBONDING
  | WITHDRAWN
  deriving DecidableEq, Repr

/-- `DelegationEntry`. -/
structure DelegationEntry where
  delegatorId : KeyID
  validatorId : KeyID
  amount : Int
  delegationHeight : Int32
  lastRewardHeight : Int32
  status : DelegationStatus
  delegationOutpoint : OutPoint
  unbondingStartHeight : Int32
  pendingRewards : Int
  deriving DecidableEq

/-- `MIN_DELEGATION_AMOUNT`: 1,000 WATTx. -/
def MIN_DELEGATION_AMOUNT : Int := 1000 * 100000000
/-- `DELEGATION_MATURITY`. -/
def DELEGATION_MATURITY : Int32 := 500
/-- `DELEGATION_UNBONDING_PERIOD`. -/
def DELEGATION_UNBONDING_PERIOD : Int32 := 259200

/-- `DelegationEntry::IsActive`. -/
def DelegationEntry.isActive (e : DelegationEntry) : Bool := e.status == .ACTIVE

variable (c : Crypto)

/-- `DelegationEntry::GetDelegationId`: the digest of delegator, validator and height. -/
def DelegationEntry.getDelegationId (e : DelegationEntry) : Digest :=
  c.hash [.key e.delegatorId, .key e.validatorId, .i32 e.delegationHeight.val]

/-- `DelegationRequest`. -/
structure DelegationRequest where
  delegatorId : KeyID
  delegatorPubKey : PubKey
  validatorId : KeyID
  amount : Int
  height : Int32
  signature : Sig

/-- `DelegationRequest::GetHash`. -/
def DelegationRequest.getHash (r : DelegationRequest) : Digest :=
  c.hash [.key r.delegatorId, .pubKey r.delegatorPubKey, .key r.validatorId, .i64 r.amount,
    .i32 r.height.val]

/-- `DelegationRequest::Verify`: against the key the request itself carries. -/
def DelegationRequest.verify (r : DelegationRequest) : Bool :=
  c.verify r.delegatorPubKey (r.getHash c) r.signature

/-- `UndelegationRequest`; `amount = 0` asks for everything. -/
structure UndelegationRequest where
  delegatorId : KeyID
  validatorId : KeyID
  amount : Int
  height : Int32
  signature : Sig

/-- `UndelegationRequest::GetHash`. -/
def UndelegationRequest.getHash (r : UndelegationRequest) : Digest :=
  c.hash [.key r.delegatorId, .key r.validatorId, .i64 r.amount, .i32 r.height.val]

/-- `UndelegationRequest::Verify`. -/
def UndelegationRequest.verify (r : UndelegationRequest) (pubkey : PubKey) : Bool :=
  c.verify pubkey (r.getHash c) r.signature

/-- `RewardClaimRequest`; a null `validatorId` claims from every validator. -/
structure RewardClaimRequest where
  delegatorId : KeyID
  validatorId : KeyID
  height : Int32
  signature : Sig

/-- `RewardClaimRequest::GetHash`. -/
def RewardClaimRequest.getHash (r : RewardClaimRequest) : Digest :=
  c.hash [.key r.delegatorId, .key r.validatorId, .i32 r.height.val]

/-- `RewardClaimRequest::Verify`. -/
def RewardClaimRequest.verify (r : RewardClaimRequest) (pubkey : PubKey) : Bool :=
  c.verify pubkey (r.getHash c) r.signature

/-- `DelegationDB`. -/
structure DelegationDB where
  delegations : StdMap Digest DelegationEntry
  delegatorIndex : StdMap KeyID (List Digest)
  validatorIndex : StdMap KeyID (List Digest)
  outpointIndex : StdMap OutPoint Digest
  currentHeight : Int32

/-- `index[key].push_back(id)`: `operator[]` first creates an empty list. -/
def pushIndex (index : StdMap KeyID (List Digest)) (key : KeyID) (id : Digest) :
    StdMap KeyID (List Digest) :=
  index.insert key ((index.find? key).getD [] ++ [id])

@[simp] lemma find?_pushIndex (index : StdMap KeyID (List Digest)) (key k : KeyID) (id : Digest) :
    (pushIndex index key id).find? k =
      if key = k then some ((index.find? key).getD [] ++ [id]) else index.find? k :=
  StdMap.find?_insert_eq _ _ _ _

namespace DelegationDB

/-- The database `DelegationDB(params)` constructs. -/
def empty : DelegationDB := ⟨StdMap.empty, StdMap.empty, StdMap.empty, StdMap.empty, 0⟩

/-- The records an id list names, in list order, skipping ids with no record. -/
def recordsOf (db : DelegationDB) (ids : List Digest) : List DelegationEntry :=
  ids.filterMap db.delegations.find?

/-- The id list an index holds for a key; `find` failing reads as the empty list. -/
def idsAt (index : StdMap KeyID (List Digest)) (key : KeyID) : List Digest :=
  (index.find? key).getD []

/-! ### New delegations -/

/-- The record `ProcessDelegation` creates. -/
def newEntry (r : DelegationRequest) (outpoint : OutPoint) : DelegationEntry where
  delegatorId := r.delegatorId
  validatorId := r.validatorId
  amount := r.amount
  delegationHeight := r.height
  lastRewardHeight := r.height
  status := .PENDING
  delegationOutpoint := outpoint
  unbondingStartHeight := 0
  pendingRewards := 0

/-- `DelegationDB::ProcessDelegation`: verify against the request's own key, check the
amount and that the validator is active, reject a duplicate id, insert the record with its
index entries, then `g_validator_db->AddDelegation`. -/
def processDelegation (vdb : ValidatorDB) (db : DelegationDB) (r : DelegationRequest)
    (outpoint : OutPoint) : Bool × DelegationDB × ValidatorDB :=
  if !r.verify c then (false, db, vdb)
  else if r.amount < MIN_DELEGATION_AMOUNT then (false, db, vdb)
  else
    match vdb.getValidator r.validatorId with
    | none => (false, db, vdb)
    | some v =>
        if v.status ≠ .ACTIVE then (false, db, vdb)
        else
          let entry := newEntry r outpoint
          let id := entry.getDelegationId c
          if (db.delegations.find? id).isSome then (false, db, vdb)
          else
            (true,
              { db with
                delegations := db.delegations.insert id entry
                delegatorIndex := pushIndex db.delegatorIndex entry.delegatorId id
                validatorIndex := pushIndex db.validatorIndex entry.validatorId id
                outpointIndex := ValidatorDB.indexOutpoint db.outpointIndex outpoint id },
              (vdb.addDelegation r.validatorId r.amount).2)

/-! ### Undelegation -/

/-- The three branches of the undelegation loop body on an active record of `amount`:
the amount released, and the budget left. -/
def undelegationShare (requested remaining amount : Int) : Int × Int :=
  if requested = 0 then (amount, remaining)
  else if remaining ≥ amount then (amount, remaining - amount)
  else (remaining, 0)

/-- The loop of `DelegationDB::ProcessUndelegation` over the delegator's ids: every active
record to the requested validator is moved to `UNBONDING` and its share released through
`RemoveDelegation`, until the budget reaches zero (`break`). -/
def undelegateLoop (r : UndelegationRequest) (height : Int32) :
    List Digest → Int → Bool → StdMap Digest DelegationEntry → ValidatorDB →
      Bool × StdMap Digest DelegationEntry × ValidatorDB
  | [], _, any, ds, vdb => (any, ds, vdb)
  | id :: ids, remaining, any, ds, vdb =>
      match ds.find? id with
      | none => undelegateLoop r height ids remaining any ds vdb
      | some e =>
          if e.validatorId ≠ r.validatorId ∨ e.status ≠ .ACTIVE then
            undelegateLoop r height ids remaining any ds vdb
          else
            let share := undelegationShare r.amount remaining e.amount
            let ds' := ds.insert id { e with status := .UNBONDING, unbondingStartHeight := height }
            let vdb' := (vdb.removeDelegation r.validatorId share.1).2
            if share.2 = 0 then (true, ds', vdb')
            else undelegateLoop r height ids share.2 true ds' vdb'

/-- `DelegationDB::ProcessUndelegation`. No signature is checked. -/
def processUndelegation (vdb : ValidatorDB) (db : DelegationDB) (r : UndelegationRequest) :
    Bool × DelegationDB × ValidatorDB :=
  match db.delegatorIndex.find? r.delegatorId with
  | none => (false, db, vdb)
  | some ids =>
      let res := undelegateLoop r db.currentHeight ids r.amount false db.delegations vdb
      (res.1, { db with delegations := res.2.1 }, res.2.2)

/-! ### Rewards -/

/-- The loop of `DelegationDB::ProcessRewardClaim`: collect and zero the positive pending
rewards of the listed records, filtered by validator when one is named. -/
def claimLoop (r : RewardClaimRequest) (height : Int32) :
    List Digest → Int → StdMap Digest DelegationEntry → Int × StdMap Digest DelegationEntry
  | [], total, ds => (total, ds)
  | id :: ids, total, ds =>
      match ds.find? id with
      | none => claimLoop r height ids total ds
      | some e =>
          if r.validatorId ≠ 0 ∧ e.validatorId ≠ r.validatorId then
            claimLoop r height ids total ds
          else if e.pendingRewards > 0 then
            claimLoop r height ids (total + e.pendingRewards)
              (ds.insert id { e with pendingRewards := 0, lastRewardHeight := height })
          else claimLoop r height ids total ds

/-- `DelegationDB::ProcessRewardClaim`: returns the amount claimed. No signature is
checked. -/
def processRewardClaim (db : DelegationDB) (r : RewardClaimRequest) : Int × DelegationDB :=
  match db.delegatorIndex.find? r.delegatorId with
  | none => (0, db)
  | some ids =>
      let res := claimLoop r db.currentHeight ids 0 db.delegations
      (res.1, { db with delegations := res.2 })

/-- `DelegationDB::GetTotalDelegationForValidator`: the active amount behind a validator,
read through its index list. -/
def getTotalDelegationForValidator (db : DelegationDB) (validatorId : KeyID) : Int :=
  (((db.recordsOf (idsAt db.validatorIndex validatorId)).filter
    (·.status = .ACTIVE)).map (·.amount)).sum

/-- `DelegationDB::DistributeBlockReward`: `none` when the call does not return. Past the
zero-share check it calls `GetTotalDelegationForValidator`, which locks the `cs_delegations`
this call holds. -/
def distributeBlockReward (db : DelegationDB) (_validatorId : KeyID) (delegatorsShare : Int) :
    Option (Bool × DelegationDB) :=
  if delegatorsShare = 0 then some (true, db) else none

/-- A distribution returns only for a zero share, and then changes nothing. -/
lemma distributeBlockReward_returns {db : DelegationDB} {V : KeyID} {S : Int}
    {x : Bool × DelegationDB} (h : x ∈ db.distributeBlockReward V S) : S = 0 ∧ x = (true, db) := by
  unfold distributeBlockReward at h
  split_ifs at h with hS
  · exact ⟨hS, (Option.some.inj h).symm⟩
  · cases h

/-- `DelegationDB::AddRewards`. -/
def addRewards (db : DelegationDB) (delegationId : Digest) (rewards : Int) :
    Bool × DelegationDB :=
  match db.delegations.find? delegationId with
  | none => (false, db)
  | some e =>
      (true, { db with
        delegations := db.delegations.insert delegationId
          { e with pendingRewards := e.pendingRewards + rewards } })

/-! ### Status, outpoints and blocks -/

/-- `DelegationDB::SetDelegationStatus`. -/
def setDelegationStatus (db : DelegationDB) (delegationId : Digest) (status : DelegationStatus) :
    Bool × DelegationDB :=
  match db.delegations.find? delegationId with
  | none => (false, db)
  | some e => (true, { db with delegations := db.delegations.insert delegationId { e with status := status } })

/-- `DelegationDB::UpdateDelegationOutpoint`. -/
def updateDelegationOutpoint (db : DelegationDB) (delegationId : Digest) (newOutpoint : OutPoint) :
    Bool × DelegationDB :=
  match db.delegations.find? delegationId with
  | none => (false, db)
  | some e =>
      (true, { db with
        delegations := db.delegations.insert delegationId { e with delegationOutpoint := newOutpoint }
        outpointIndex := ValidatorDB.indexOutpoint
          (ValidatorDB.unindexOutpoint db.outpointIndex e.delegationOutpoint) newOutpoint delegationId })

/-- The per-record step of `DelegationDB::ProcessBlock`: maturity, then completed unbonding. -/
def blockStep (height : Int32) (e : DelegationEntry) : DelegationEntry :=
  let e₁ := if e.status = .PENDING ∧ height - e.delegationHeight ≥ DELEGATION_MATURITY then
    { e with status := .ACTIVE } else e
  if e₁.status = .UNBONDING ∧ height - e₁.unbondingStartHeight ≥ DELEGATION_UNBONDING_PERIOD then
    { e₁ with status := .WITHDRAWN } else e₁

/-- `blockStep` rewrites the status and nothing else. -/
lemma blockStep_eq (height : Int32) (e : DelegationEntry) :
    blockStep height e = { e with status := (blockStep height e).status } := by
  unfold blockStep; dsimp only; split_ifs <;> rfl

/-- `DelegationDB::ProcessBlock`. -/
def processBlock (db : DelegationDB) (height : Int32) : DelegationDB :=
  { db with currentHeight := height, delegations := db.delegations.mapVals fun _ => blockStep height }

/-! ### Read views -/

/-- `DelegationDB::GetDelegation`. -/
def getDelegation (db : DelegationDB) (delegationId : Digest) : Option DelegationEntry :=
  db.delegations.find? delegationId

/-- `DelegationDB::GetDelegationByOutpoint`. -/
def getDelegationByOutpoint (db : DelegationDB) (outpoint : OutPoint) : Option DelegationEntry :=
  match db.outpointIndex.find? outpoint with
  | none => none
  | some id => db.delegations.find? id

/-- `DelegationDB::IsDelegation`. -/
def isDelegation (db : DelegationDB) (outpoint : OutPoint) : Bool :=
  (db.outpointIndex.find? outpoint).isSome

/-- `DelegationDB::GetDelegationsForDelegator`. -/
def getDelegationsForDelegator (db : DelegationDB) (delegatorId : KeyID) : List DelegationEntry :=
  db.recordsOf (idsAt db.delegatorIndex delegatorId)

/-- `DelegationDB::GetDelegationsForValidator`. -/
def getDelegationsForValidator (db : DelegationDB) (validatorId : KeyID) : List DelegationEntry :=
  db.recordsOf (idsAt db.validatorIndex validatorId)

/-- `DelegationDB::GetPendingRewardsForDelegator`. -/
def getPendingRewardsForDelegator (db : DelegationDB) (delegatorId : KeyID) : Int :=
  ((db.getDelegationsForDelegator delegatorId).map (·.pendingRewards)).sum

/-- `DelegationDB::GetActiveDelegationCount`. -/
def getActiveDelegationCount (db : DelegationDB) : Nat :=
  (db.delegations.entries.filter (·.2.status = .ACTIVE)).length

/-- `DelegationDB::GetDelegatorCountForValidator`: the size of the `std::set` of delegators
of the validator's active records. -/
def getDelegatorCountForValidator (db : DelegationDB) (validatorId : KeyID) : Nat :=
  (((db.getDelegationsForValidator validatorId).filter (·.status = .ACTIVE)).map
    (·.delegatorId)).dedup.length

end DelegationDB

/-! ### What each operation writes

One lemma per operation: which records it rewrites (`StdMap.Updates`), what it does to the
registry, and, for `ProcessDelegation`, the inversion of its guards. Invariants are proved
from these and never unfold the operations again. -/

/-- The rewrite of the undelegation loop: an active record of validator `V` starts
unbonding at height `h`. -/
def Unbonds (V : KeyID) (h : Int32) (_ : Digest) (e e' : DelegationEntry) : Prop :=
  e.validatorId = V ∧ e.status = .ACTIVE ∧
    e' = { e with status := .UNBONDING, unbondingStartHeight := h }

/-- The rewrite of the claim loop: pending rewards are zeroed at height `h`. -/
def Claims (h : Int32) (_ : Digest) (e e' : DelegationEntry) : Prop :=
  e' = { e with pendingRewards := 0, lastRewardHeight := h }

namespace DelegationDB

lemma not_skip {e : DelegationEntry} {V : KeyID}
    (h : ¬(e.validatorId ≠ V ∨ e.status ≠ .ACTIVE)) : e.validatorId = V ∧ e.status = .ACTIVE := by
  simpa using h

lemma undelegateLoop_updates (r : UndelegationRequest) (h : Int32) :
    ∀ (ids : List Digest) (rem : Int) (any : Bool) ds vdb,
      StdMap.Updates (Unbonds r.validatorId h) ds (undelegateLoop r h ids rem any ds vdb).2.1
  | [], _, _, ds, _ => .refl ds
  | id :: ids, rem, any, ds, vdb => by
      unfold undelegateLoop
      dsimp only
      split
      · exact undelegateLoop_updates r h ids rem any ds vdb
      · rename_i e he
        split_ifs with hskip hstop
        · exact undelegateLoop_updates r h ids rem any ds vdb
        · exact .single he ⟨(not_skip hskip).1, (not_skip hskip).2, rfl⟩
        · exact (StdMap.Updates.single he ⟨(not_skip hskip).1, (not_skip hskip).2, rfl⟩).trans
            (undelegateLoop_updates r h ids _ true _ _)

/-- The registry after the undelegation loop comes from `vdb` by `RemoveDelegation` calls. -/
lemma undelegateLoop_registry {P : ValidatorDB → Prop} (r : UndelegationRequest) (h : Int32)
    (hP : ∀ vdb t, P vdb → P (vdb.removeDelegation r.validatorId t).2) :
    ∀ (ids : List Digest) (rem : Int) (any : Bool) ds vdb,
      P vdb → P (undelegateLoop r h ids rem any ds vdb).2.2
  | [], _, _, _, _, hv => hv
  | id :: ids, rem, any, ds, vdb, hv => by
      unfold undelegateLoop
      dsimp only
      split
      · exact undelegateLoop_registry r h hP ids rem any ds vdb hv
      · split_ifs
        · exact undelegateLoop_registry r h hP ids rem any ds vdb hv
        · exact hP _ _ hv
        · exact undelegateLoop_registry r h hP ids _ true _ _ (hP _ _ hv)

lemma claimLoop_updates (r : RewardClaimRequest) (h : Int32) :
    ∀ (ids : List Digest) (total : Int) ds,
      StdMap.Updates (Claims h) ds (claimLoop r h ids total ds).2
  | [], _, ds => .refl ds
  | id :: ids, total, ds => by
      unfold claimLoop
      split
      · exact claimLoop_updates r h ids total ds
      · rename_i e he
        split_ifs
        · exact claimLoop_updates r h ids total ds
        · exact (StdMap.Updates.single he rfl).trans (claimLoop_updates r h ids _ _)
        · exact claimLoop_updates r h ids total ds

/-- **Inversion of `ProcessDelegation`**: it fails and changes nothing, or every guard held,
the new id was free, and the record, its index entries and the registry's aggregate were
written. -/
lemma processDelegation_cases (vdb : ValidatorDB) (db : DelegationDB) (r : DelegationRequest)
    (o : OutPoint) :
    processDelegation c vdb db r o = (false, db, vdb) ∨
      (r.verify c = true ∧ MIN_DELEGATION_AMOUNT ≤ r.amount ∧
        (∃ v, vdb.validators.find? r.validatorId = some v ∧ v.status = .ACTIVE) ∧
        db.delegations.find? ((newEntry r o).getDelegationId c) = none ∧
        processDelegation c vdb db r o =
          (true,
            { db with
              delegations := db.delegations.insert ((newEntry r o).getDelegationId c) (newEntry r o)
              delegatorIndex := pushIndex db.delegatorIndex r.delegatorId
                ((newEntry r o).getDelegationId c)
              validatorIndex := pushIndex db.validatorIndex r.validatorId
                ((newEntry r o).getDelegationId c)
              outpointIndex := ValidatorDB.indexOutpoint db.outpointIndex o
                ((newEntry r o).getDelegationId c) },
            (vdb.addDelegation r.validatorId r.amount).2)) := by
  unfold processDelegation
  by_cases h₁ : r.verify c = true
  swap
  · left; simp [h₁]
  by_cases h₂ : r.amount < MIN_DELEGATION_AMOUNT
  · left; simp [h₁, h₂]
  cases hv : vdb.validators.find? r.validatorId with
  | none => left; simp [h₁, h₂, ValidatorDB.getValidator, hv]
  | some v =>
      by_cases h₃ : v.status = .ACTIVE
      swap
      · left; simp [h₁, h₂, ValidatorDB.getValidator, hv, h₃]
      cases h₄ : db.delegations.find? ((newEntry r o).getDelegationId c) with
      | some _ => left; simp [h₁, h₂, ValidatorDB.getValidator, hv, h₃, h₄]
      | none =>
          right
          exact ⟨h₁, not_lt.mp h₂, ⟨v, rfl, h₃⟩, rfl, by
            simp [h₁, h₂, ValidatorDB.getValidator, hv, h₃, h₄]; exact ⟨rfl, rfl⟩⟩

/-- The registry after `ProcessUndelegation` comes from the one before by
`RemoveDelegation` calls on the requested validator. -/
lemma processUndelegation_registry {P : ValidatorDB → Prop} (vdb : ValidatorDB) (db : DelegationDB)
    (r : UndelegationRequest) (hP : ∀ vdb t, P vdb → P (vdb.removeDelegation r.validatorId t).2)
    (hv : P vdb) : P (processUndelegation vdb db r).2.2 := by
  unfold processUndelegation
  split
  · exact hv
  · exact undelegateLoop_registry r _ hP _ _ _ _ _ hv

lemma processUndelegation_updates (vdb : ValidatorDB) (db : DelegationDB) (r : UndelegationRequest) :
    ∃ ds, (processUndelegation vdb db r).2.1 = { db with delegations := ds } ∧
      StdMap.Updates (Unbonds r.validatorId db.currentHeight) db.delegations ds := by
  unfold processUndelegation
  split
  · exact ⟨_, rfl, .refl _⟩
  · exact ⟨_, rfl, undelegateLoop_updates r _ _ _ _ _ _⟩

lemma processRewardClaim_updates (db : DelegationDB) (r : RewardClaimRequest) :
    ∃ ds, (db.processRewardClaim r).2 = { db with delegations := ds } ∧
      StdMap.Updates (Claims db.currentHeight) db.delegations ds := by
  unfold processRewardClaim
  split
  · exact ⟨_, rfl, .refl _⟩
  · exact ⟨_, rfl, claimLoop_updates r _ _ _ _⟩

lemma addRewards_updates (db : DelegationDB) (id : Digest) (a : Int) :
    ∃ ds, (db.addRewards id a).2 = { db with delegations := ds } ∧
      StdMap.Updates (fun _ e e' => e' = { e with pendingRewards := e.pendingRewards + a })
        db.delegations ds := by
  unfold addRewards
  split
  · exact ⟨_, rfl, .refl _⟩
  · exact ⟨_, rfl, .single ‹_› rfl⟩

lemma setDelegationStatus_updates (db : DelegationDB) (id : Digest) (s : DelegationStatus) :
    ∃ ds, (db.setDelegationStatus id s).2 = { db with delegations := ds } ∧
      StdMap.Updates (fun _ e e' => e' = { e with status := s }) db.delegations ds := by
  unfold setDelegationStatus
  split
  · exact ⟨_, rfl, .refl _⟩
  · exact ⟨_, rfl, .single ‹_› rfl⟩

lemma updateDelegationOutpoint_updates (db : DelegationDB) (id : Digest) (o : OutPoint) :
    ∃ ds oi, (db.updateDelegationOutpoint id o).2 = { db with delegations := ds, outpointIndex := oi } ∧
      StdMap.Updates (fun _ e e' => e' = { e with delegationOutpoint := o }) db.delegations ds := by
  unfold updateDelegationOutpoint
  split
  · exact ⟨_, _, rfl, .refl _⟩
  · exact ⟨_, _, rfl, .single ‹_› rfl⟩

/-- **Inversion of `UpdateDelegationOutpoint`**: it fails and changes nothing, or it moves the
found record, and its index entry, to the new outpoint. -/
lemma updateDelegationOutpoint_cases (db : DelegationDB) (id : Digest) (o : OutPoint) :
    (db.updateDelegationOutpoint id o).2 = db ∨ ∃ e, db.delegations.find? id = some e ∧
      (db.updateDelegationOutpoint id o).2 = { db with
        delegations := db.delegations.insert id { e with delegationOutpoint := o }
        outpointIndex := ValidatorDB.indexOutpoint
          (ValidatorDB.unindexOutpoint db.outpointIndex e.delegationOutpoint) o id } := by
  unfold updateDelegationOutpoint; split <;> simp_all

end DelegationDB

end WattxCore
