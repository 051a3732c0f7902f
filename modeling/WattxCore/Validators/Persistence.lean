import WattxCore.Validators.Aggregates

/-!
Persistence of the registry and the ledger, the `Serialize`/`Unserialize` templates of
`validatordb.h` and `delegation.h`. Only the record maps are written; `Unserialize` replaces
the map and rebuilds every reverse index by one pass over the records in key order. The
height is not written, so a database loaded into an object keeps the height it had.

* `ValidatorDB.unserialize`, `DelegationDB.unserialize`, and `Ledger.restart`, which writes
  both databases and reads them back;
* `Ledger.ReachableWithLoads`: the states reached by admitted operations and by loading
  either database from any stream, at any point;
* `Indexes.rebuilt`: **the index lists `Unserialize` rebuilds are exact**;
* `delegation_indices_exact`: **in every state reached with loads, the delegator and
  validator indices list each record of a key once and nothing else**, so the reads and
  scans built on them range over exactly that key's records (`ScansExact`);
* `restart_keeps_records`: a restart keeps the record maps, and its index lists are
  permutations of the live ones;
* `restart_retires_other_delegation`: live lists hold ids in insertion order and rebuilt
  ones in key order, and a partial undelegation consumes them greedily in list order: after
  a restart it retires another record.
-/

namespace WattxCore

namespace ValidatorDB

/-- `ValidatorDB::Serialize`: the record map, nothing else. -/
def serialize (db : ValidatorDB) : StdMap KeyID ValidatorEntry := db.validators

/-- The loop of `ValidatorDB::Unserialize` that rebuilds the outpoint index. -/
def rebuildOutpointIndex (index : StdMap OutPoint KeyID) :
    List (KeyID × ValidatorEntry) → StdMap OutPoint KeyID
  | [] => index
  | r :: rs => rebuildOutpointIndex (indexOutpoint index r.2.stakeOutpoint r.1) rs

/-- `ValidatorDB::Unserialize`: read the records, then rebuild the outpoint index. -/
def unserialize (db : ValidatorDB) (validators : StdMap KeyID ValidatorEntry) : ValidatorDB :=
  { db with
    validators := validators
    outpointIndex := rebuildOutpointIndex StdMap.empty validators.entries }

end ValidatorDB

namespace DelegationDB

/-- `DelegationDB::Serialize`: the record map, nothing else. -/
def serialize (db : DelegationDB) : StdMap Digest DelegationEntry := db.delegations

/-- One iteration of the rebuild loop of `DelegationDB::Unserialize`. -/
def rebuildStep (db : DelegationDB) (r : Digest × DelegationEntry) : DelegationDB :=
  { db with
    delegatorIndex := pushIndex db.delegatorIndex r.2.delegatorId r.1
    validatorIndex := pushIndex db.validatorIndex r.2.validatorId r.1
    outpointIndex := ValidatorDB.indexOutpoint db.outpointIndex r.2.delegationOutpoint r.1 }

/-- `DelegationDB::Unserialize`: read the records, clear the three indices, and rebuild them
by one pass over the records in key order. -/
def unserialize (db : DelegationDB) (delegations : StdMap Digest DelegationEntry) : DelegationDB :=
  delegations.entries.foldl rebuildStep
    { db with
      delegations := delegations
      delegatorIndex := StdMap.empty
      validatorIndex := StdMap.empty
      outpointIndex := StdMap.empty }

/-- `index[key(e)].push_back(id)` for each record of a list, in order. -/
def pushAll (key : DelegationEntry → KeyID) (index : StdMap KeyID (List Digest)) :
    List (Digest × DelegationEntry) → StdMap KeyID (List Digest)
  | [] => index
  | r :: rs => pushAll key (pushIndex index (key r.2) r.1) rs

lemma foldl_rebuildStep_delegations :
    ∀ (l : List (Digest × DelegationEntry)) (db : DelegationDB),
      (l.foldl rebuildStep db).delegations = db.delegations ∧
        (l.foldl rebuildStep db).currentHeight = db.currentHeight ∧
        (l.foldl rebuildStep db).delegatorIndex = pushAll (·.delegatorId) db.delegatorIndex l ∧
        (l.foldl rebuildStep db).validatorIndex = pushAll (·.validatorId) db.validatorIndex l
  | [], _ => ⟨rfl, rfl, rfl, rfl⟩
  | r :: rs, db => foldl_rebuildStep_delegations rs (rebuildStep db r)

/-- What `Unserialize` leaves: the records read, the height kept, and each list index pushed
record by record in key order. -/
lemma unserialize_eq (db : DelegationDB) (ds : StdMap Digest DelegationEntry) :
    (db.unserialize ds).delegations = ds ∧ (db.unserialize ds).currentHeight = db.currentHeight ∧
      (db.unserialize ds).delegatorIndex = pushAll (·.delegatorId) StdMap.empty ds.entries ∧
      (db.unserialize ds).validatorIndex = pushAll (·.validatorId) StdMap.empty ds.entries :=
  foldl_rebuildStep_delegations _ _

/-- The ids of the records whose `key` is `k`, in key order. -/
def idsWith (ds : StdMap Digest DelegationEntry) (key : DelegationEntry → KeyID) (k : KeyID) :
    List Digest :=
  (ds.entries.filter fun r => key r.2 = k).map Prod.fst

/-- The records whose `key` is `k`, in key order. -/
def recordsWith (ds : StdMap Digest DelegationEntry) (key : DelegationEntry → KeyID) (k : KeyID) :
    List DelegationEntry :=
  (ds.entries.filter fun r => key r.2 = k).map Prod.snd

lemma idsAt_pushAll (key : DelegationEntry → KeyID) :
    ∀ (index : StdMap KeyID (List Digest)) (l : List (Digest × DelegationEntry)) (k : KeyID),
      idsAt (pushAll key index l) k = idsAt index k ++ (l.filter fun r => key r.2 = k).map Prod.fst
  | _, [], _ => by simp [pushAll]
  | index, r :: rs, k => by
      rw [pushAll, idsAt_pushAll key _ rs k, idsAt_pushIndex]
      by_cases h : key r.2 = k <;> simp [h, List.filter_cons]

/-- The records named by the ids of a key's records are that key's records. -/
lemma recordsOf_idsWith (db : DelegationDB) (key : DelegationEntry → KeyID) (k : KeyID) :
    db.recordsOf (idsWith db.delegations key k) = recordsWith db.delegations key k := by
  have hfound : ∀ r ∈ db.delegations.entries.filter (fun r => key r.2 = k),
      (db.delegations.find? ∘ Prod.fst) r = some r.2 :=
    fun r hr => (StdMap.mem_entries_iff _ r.1 r.2).mp (List.mem_filter.mp hr).1
  rw [recordsOf, idsWith, List.filterMap_map, List.filterMap_congr hfound]
  exact congrFun (List.filterMap_eq_map Prod.snd) _

namespace Indexes

variable {index : StdMap KeyID (List Digest)} {key : DelegationEntry → KeyID}
  {ds : StdMap Digest DelegationEntry}

/-- **The index lists `Unserialize` rebuilds are exact.** -/
lemma rebuilt (key : DelegationEntry → KeyID) (ds : StdMap Digest DelegationEntry) :
    Indexes (pushAll key StdMap.empty ds.entries) key ds where
  nodup k := by
    rw [idsAt_pushAll]
    simpa [idsAt] using ds.nodup_keys fun e => key e = k
  mem_iff k id := by
    rw [idsAt_pushAll]
    cases h : ds.find? id <;> simp [idsAt, StdMap.mem_entries_iff, h]

/-- An exact index lists, under each key, a permutation of the ids of that key's records. -/
lemma perm_idsWith (h : Indexes index key ds) (k : KeyID) : (idsAt index k).Perm (idsWith ds key k) :=
  (List.perm_ext_iff_of_nodup (h.nodup k) (ds.nodup_keys fun e => key e = k)).mpr fun id => by
    rw [h.mem_iff]
    cases hf : ds.find? id <;> simp [StdMap.mem_entries_iff, hf]

end Indexes

/-- The rebuilt delegator and validator indices are exact. -/
lemma IndexWF.unserialize (db : DelegationDB) (ds : StdMap Digest DelegationEntry) :
    (db.unserialize ds).IndexWF := by
  obtain ⟨hd, -, hdi, hvi⟩ := unserialize_eq db ds
  constructor
  · rw [hdi, hd]; exact Indexes.rebuilt _ ds
  · rw [hvi, hd]; exact Indexes.rebuilt _ ds

end DelegationDB

namespace Ledger

variable (p : Params) (c : Crypto)

/-- The states reached from the empty databases by operations `ok` admits and by loading
either database, at any point, from any stream. -/
inductive ReachableWithLoads (ok : Ledger → LedgerOp → Prop) : Ledger → Prop
  | empty : ReachableWithLoads ok Ledger.empty
  | step {L : Ledger} {op : LedgerOp} {x : Reply × Ledger} :
      ReachableWithLoads ok L → ok L op → x ∈ Ledger.step p c L op → ReachableWithLoads ok x.2
  | loadValidators {L : Ledger} (vs : StdMap KeyID ValidatorEntry) :
      ReachableWithLoads ok L → ReachableWithLoads ok { L with vdb := L.vdb.unserialize vs }
  | loadDelegations {L : Ledger} (ds : StdMap Digest DelegationEntry) :
      ReachableWithLoads ok L → ReachableWithLoads ok { L with ddb := L.ddb.unserialize ds }

/-- A restart: each database writes its records and reads them back into itself. -/
def restart (L : Ledger) : Ledger :=
  ⟨L.vdb.unserialize L.vdb.serialize, L.ddb.unserialize L.ddb.serialize⟩

variable {p c}

/-- An invariant of the empty databases that every admitted step and every load keeps holds
in every state reached with loads. -/
lemma ReachableWithLoads.induction {ok : Ledger → LedgerOp → Prop} {I : Ledger → Prop}
    (h₀ : I Ledger.empty) (hs : ∀ L op, I L → ok L op → ∀ x ∈ Ledger.step p c L op, I x.2)
    (hv : ∀ L vs, I L → I { L with vdb := L.vdb.unserialize vs })
    (hd : ∀ L ds, I L → I { L with ddb := L.ddb.unserialize ds })
    {L : Ledger} (hL : ReachableWithLoads p c ok L) : I L := by
  induction hL with
  | empty => exact h₀
  | step _ hop hx ih => exact hs _ _ ih hop _ hx
  | loadValidators vs _ ih => exact hv _ vs ih
  | loadDelegations ds _ ih => exact hd _ ds ih

lemma Reachable.withLoads {ok : Ledger → LedgerOp → Prop} {L : Ledger}
    (hL : Reachable p c ok L) : ReachableWithLoads p c ok L := by
  induction hL with
  | empty => exact .empty
  | step _ hop hx ih => exact .step ih hop hx

lemma ReachableWithLoads.restart {ok : Ledger → LedgerOp → Prop} {L : Ledger}
    (hL : ReachableWithLoads p c ok L) : ReachableWithLoads p c ok L.restart :=
  .loadDelegations _ (.loadValidators _ hL)

end Ledger

open DelegationDB

variable {p : Params} {c : Crypto}

/-- Both list indices are exact in every state reached with loads. -/
lemma indexWF_of_reachableWithLoads {ok : Ledger → LedgerOp → Prop} {L : Ledger}
    (hL : Ledger.ReachableWithLoads p c ok L) : L.ddb.IndexWF :=
  Ledger.ReachableWithLoads.induction (I := fun L => L.ddb.IndexWF) IndexWF.empty
    (fun _ op h _ => h.step op) (fun _ _ h => h) (fun L ds _ => IndexWF.unserialize L.ddb ds) hL

/-- The reads and scans of a key `k` through the two list indices range over exactly `k`'s
records, each once. -/
structure DelegationDB.ScansExact (db : DelegationDB) (k : KeyID) : Prop where
  /-- `delegatorIndex[k]` lists the ids of the records with `delegatorId = k`, each once. -/
  delegatorIds : (idsAt db.delegatorIndex k).Perm (idsWith db.delegations (·.delegatorId) k)
  /-- `validatorIndex[k]`, the list `GetTotalDelegationForValidator` walks, lists the ids of
  the records with `validatorId = k`, each once. -/
  validatorIds : (idsAt db.validatorIndex k).Perm (idsWith db.delegations (·.validatorId) k)
  forDelegator : (db.getDelegationsForDelegator k).Perm (recordsWith db.delegations (·.delegatorId) k)
  forValidator : (db.getDelegationsForValidator k).Perm (recordsWith db.delegations (·.validatorId) k)
  totalDelegation : db.getTotalDelegationForValidator k =
    (((recordsWith db.delegations (·.validatorId) k).filter (·.status = .ACTIVE)).map (·.amount)).sum
  pendingRewards : db.getPendingRewardsForDelegator k =
    ((recordsWith db.delegations (·.delegatorId) k).map (·.pendingRewards)).sum
  delegatorCount : db.getDelegatorCountForValidator k =
    (((recordsWith db.delegations (·.validatorId) k).filter (·.status = .ACTIVE)).map
      (·.delegatorId)).dedup.length

/-- Exact indices make every scan exact. -/
lemma DelegationDB.IndexWF.scansExact {db : DelegationDB} (hI : db.IndexWF) (k : KeyID) :
    db.ScansExact k := by
  have hd := hI.delegators.perm_idsWith k
  have hv := hI.validators.perm_idsWith k
  have rd : (db.getDelegationsForDelegator k).Perm (recordsWith db.delegations (·.delegatorId) k) :=
    recordsOf_idsWith db _ k ▸ hd.filterMap _
  have rv : (db.getDelegationsForValidator k).Perm (recordsWith db.delegations (·.validatorId) k) :=
    recordsOf_idsWith db _ k ▸ hv.filterMap _
  exact ⟨hd, hv, rd, rv, ((rv.filter _).map _).sum_eq, (rd.map _).sum_eq,
    (((rv.filter _).map _).dedup).length_eq⟩

/-- Validator `1` is active; delegator `2` delegates twice the minimum at height 1, then the
minimum at height 0, whose id is the smaller; both have matured at height 501. -/
def unevenDelegationsRun : List LedgerOp :=
  [.registerValidator (rpcEntry 1 0), .jailValidator 1 0, .unjailValidator 1,
    .processDelegation (signedDelegation 2 1 (2 * MIN_DELEGATION_AMOUNT) 1) OutPoint.null,
    .processDelegation (signedDelegation 2 1 MIN_DELEGATION_AMOUNT 0) OutPoint.null,
    .delegationBlock 501]

/-- **The delegator and validator indices are exact in every state reached with loads**,
whichever operations the run admits: under every key `k` each lists, in some order, the ids
of exactly the records of `k`, each once. So `GetDelegationsForDelegator` and
`GetDelegationsForValidator` return exactly `k`'s records, each once, and the scans through
these lists (`GetTotalDelegationForValidator`, `GetPendingRewardsForDelegator` and
`GetDelegatorCountForValidator`) range over exactly those records. -/
theorem delegation_indices_exact {ok : Ledger → LedgerOp → Prop} {L : Ledger}
    (hL : Ledger.ReachableWithLoads p c ok L) (k : KeyID) : L.ddb.ScansExact k :=
  (indexWF_of_reachableWithLoads hL).scansExact k

/-- Validators `1` and `3` are active; delegator `2` delegates the minimum to each, delegator
`4` twice the minimum to `1`; at height 500 all three have matured and delegator `2`
undelegates from `1`. -/
def mixedDelegationsRun : List LedgerOp :=
  [.registerValidator (rpcEntry 1 0), .registerValidator (rpcEntry 3 0), .jailValidator 1 0,
    .unjailValidator 1, .jailValidator 3 0, .unjailValidator 3,
    .processDelegation (signedDelegation 2 1 MIN_DELEGATION_AMOUNT 0) OutPoint.null,
    .processDelegation (signedDelegation 2 3 MIN_DELEGATION_AMOUNT 0) OutPoint.null,
    .processDelegation (signedDelegation 4 1 (2 * MIN_DELEGATION_AMOUNT) 0) OutPoint.null,
    .delegationBlock 500, .processUndelegation ⟨2, 1, MIN_DELEGATION_AMOUNT, 500, []⟩]

/-- After `mixedDelegationsRun` and a restart, the scans of validator `1` (an `UNBONDING` and
an `ACTIVE` record of two delegators) and of delegator `2` (records to two validators) are
exact. -/
theorem delegation_indices_exact_after_restart :
    Ledger.ReachableWithLoads Params.sample Crypto.toy (fun _ _ => True)
        (ledgerAfter mixedDelegationsRun).restart ∧
      (ledgerAfter mixedDelegationsRun).restart.ddb.ScansExact 1 ∧
      (ledgerAfter mixedDelegationsRun).restart.ddb.ScansExact 2 :=
  have hL : Ledger.ReachableWithLoads Params.sample Crypto.toy (fun _ _ => True)
      (ledgerAfter mixedDelegationsRun).restart :=
    (reachable_ledgerAfter (by decide) (by decide)).withLoads.restart
  ⟨hL, delegation_indices_exact hL 1, delegation_indices_exact hL 2⟩

/-- A restart keeps both record maps and the ledger's height, and every index list it
rebuilds is a permutation of the live one. -/
lemma restart_keeps_records {ok : Ledger → LedgerOp → Prop} {L : Ledger}
    (hL : Ledger.ReachableWithLoads p c ok L) (k : KeyID) :
    L.restart.vdb.validators = L.vdb.validators ∧ L.restart.ddb.delegations = L.ddb.delegations ∧
      L.restart.ddb.currentHeight = L.ddb.currentHeight ∧
      (idsAt L.restart.ddb.delegatorIndex k).Perm (idsAt L.ddb.delegatorIndex k) ∧
      (idsAt L.restart.ddb.validatorIndex k).Perm (idsAt L.ddb.validatorIndex k) := by
  obtain ⟨hd, hh, -, -⟩ := unserialize_eq L.ddb L.ddb.serialize
  have hI := indexWF_of_reachableWithLoads hL
  have hR := indexWF_of_reachableWithLoads hL.restart
  have hd' : L.restart.ddb.delegations = L.ddb.delegations := hd
  refine ⟨rfl, hd', hh, ?_, ?_⟩
  · exact (hd' ▸ hR.delegators.perm_idsWith k).trans (hI.delegators.perm_idsWith k).symm
  · exact (hd' ▸ hR.validators.perm_idsWith k).trans (hI.validators.perm_idsWith k).symm

/-- Delegator `2` undelegates the minimum from validator `1`. -/
def undelegateMinimum : LedgerOp := .processUndelegation ⟨2, 1, MIN_DELEGATION_AMOUNT, 501, []⟩

/-- The statuses of the ledger's records, in key order, after one operation. -/
def statusesAfter (L : Ledger) (op : LedgerOp) : Option (List DelegationStatus) :=
  (Ledger.step Params.sample Crypto.toy L op).map fun x => x.2.ddb.delegations.entries.map (·.2.status)

/-- After `unevenDelegationsRun` the live delegator list holds the larger id first and the
rebuilt one the smaller. Undelegating the minimum retires the larger delegation in the live
ledger and the smaller one after a restart. -/
theorem restart_retires_other_delegation :
    idsAt (ledgerAfter unevenDelegationsRun).ddb.delegatorIndex 2 ≠
        idsAt (ledgerAfter unevenDelegationsRun).restart.ddb.delegatorIndex 2 ∧
      statusesAfter (ledgerAfter unevenDelegationsRun) undelegateMinimum =
        some [.ACTIVE, .UNBONDING] ∧
      statusesAfter (ledgerAfter unevenDelegationsRun).restart undelegateMinimum =
        some [.UNBONDING, .ACTIVE] := by
  decide

end WattxCore
