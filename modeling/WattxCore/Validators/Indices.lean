import WattxCore.Validators.Ledger

/-!
The two indices of the delegation ledger, `delegatorIndex` and `validatorIndex`, agree with
its records in every reachable state. The loops of `ProcessUndelegation`,
`ProcessRewardClaim`, `DistributeBlockReward` and the reads `GetTotalDelegationForValidator`
and `GetDelegatorCountForValidator` go through an index list, and what they compute is a
statement about the records only through this agreement.

* `Indexes index key ds`: the index lists, under every key, the ids of exactly the records
  of that key, each once;
* `Indexes.push`, `Indexes.of_updates`, `Indexes.mapVals`: inserting a record under a fresh
  id with its index entry, and rewriting records without moving them to another key, keep
  an index exact;
* `indexWF_of_reachable`: **both indices are exact in every reachable state**, whichever
  operations the run admits;
* `Indexes.sum_recordsOf`: a sum over the records an index lists under a key is the sum over
  all records of that key.
-/

namespace WattxCore

namespace DelegationDB

/-- An index lists, under every key, the ids of exactly the records of that key, each once. -/
structure Indexes (index : StdMap KeyID (List Digest)) (key : DelegationEntry → KeyID)
    (ds : StdMap Digest DelegationEntry) : Prop where
  nodup : ∀ k, (idsAt index k).Nodup
  mem_iff : ∀ k id, id ∈ idsAt index k ↔ (ds.find? id).map key = some k

/-- Both indices of the ledger are exact. -/
structure IndexWF (db : DelegationDB) : Prop where
  delegators : Indexes db.delegatorIndex (·.delegatorId) db.delegations
  validators : Indexes db.validatorIndex (·.validatorId) db.delegations

lemma idsAt_pushIndex (index : StdMap KeyID (List Digest)) (k k' : KeyID) (id : Digest) :
    idsAt (pushIndex index k id) k' = if k = k' then idsAt index k ++ [id] else idsAt index k' := by
  simp only [idsAt, find?_pushIndex]
  split_ifs <;> rfl

namespace Indexes

variable {index : StdMap KeyID (List Digest)} {key : DelegationEntry → KeyID}
  {ds : StdMap Digest DelegationEntry}

lemma empty : Indexes StdMap.empty key StdMap.empty :=
  ⟨fun _ => List.nodup_nil, fun _ _ => by simp [idsAt]⟩

/-- `ProcessDelegation`'s insertion: the pushed id is fresh, so the lists stay duplicate-free. -/
lemma push (h : Indexes index key ds) {id : Digest} (hid : ds.find? id = none)
    (e : DelegationEntry) : Indexes (pushIndex index (key e) id) key (ds.insert id e) := by
  have fresh : ∀ k, id ∉ idsAt index k := fun k hk => by simpa [hid] using (h.mem_iff k id).mp hk
  refine ⟨fun k => ?_, fun k id' => ?_⟩
  · rw [idsAt_pushIndex]
    split_ifs
    · exact (h.nodup _).append (List.nodup_singleton id) (List.disjoint_singleton.mpr (fresh _))
    · exact h.nodup k
  · rw [idsAt_pushIndex, StdMap.find?_insert_eq]
    rcases eq_or_ne id id' with rfl | hi
    · by_cases hk : key e = k
      · simp [hk]
      · simp [hk, fresh k]
    · by_cases hk : key e = k
      · simp [hk, hi, Ne.symm hi, h.mem_iff]
      · simp only [hk, hi, if_false]
        exact h.mem_iff k id'

/-- Rewrites that keep the key keep the index exact. -/
lemma of_updates {R : Digest → DelegationEntry → DelegationEntry → Prop}
    {ds' : StdMap Digest DelegationEntry} (h : Indexes index key ds) (hu : StdMap.Updates R ds ds')
    (hR : ∀ k v v', R k v v' → key v' = key v) : Indexes index key ds' :=
  ⟨h.nodup, fun k id => by rw [hu.map_find? hR id]; exact h.mem_iff k id⟩

lemma mapVals {f : Digest → DelegationEntry → DelegationEntry} (h : Indexes index key ds)
    (hf : ∀ id e, key (f id e) = key e) : Indexes index key (ds.mapVals f) :=
  ⟨h.nodup, fun k id => by
    rw [StdMap.find?_mapVals, Option.map_map, show key ∘ f id = key from funext (hf id)]
    exact h.mem_iff k id⟩

/-- A sum over the records listed under `k` is the sum over all records of key `k`. -/
lemma sum_recordsOf (h : Indexes index key ds) (k : KeyID) (g : DelegationEntry → Int) :
    (((idsAt index k).filterMap ds.find?).map g).sum =
      ds.sumBy fun _ e => if key e = k then g e else 0 :=
  ds.sum_filterMap_find? (h.nodup k) (fun e => key e = k)
    (fun id => by rw [h.mem_iff]; cases ds.find? id <;> simp) g

end Indexes

namespace IndexWF

lemma empty : IndexWF DelegationDB.empty := ⟨.empty, .empty⟩

/-- Record rewrites that keep delegator and validator keep both indices exact. -/
lemma of_updates {R : Digest → DelegationEntry → DelegationEntry → Prop} {db : DelegationDB}
    {ds : StdMap Digest DelegationEntry} (h : IndexWF db) (hu : StdMap.Updates R db.delegations ds)
    (hR : ∀ k v v', R k v v' → v'.delegatorId = v.delegatorId ∧ v'.validatorId = v.validatorId) :
    IndexWF { db with delegations := ds } :=
  ⟨h.delegators.of_updates hu fun k v v' hr => (hR k v v' hr).1,
    h.validators.of_updates hu fun k v v' hr => (hR k v v' hr).2⟩

end IndexWF

end DelegationDB

open DelegationDB

variable {p : Params} {c : Crypto}

/-- One operation keeps both indices exact. -/
lemma DelegationDB.IndexWF.step {L : Ledger} (h : L.ddb.IndexWF) (op : LedgerOp) :
    ∀ x ∈ Ledger.step p c L op, x.2.ddb.IndexWF := by
  cases op with
  | processDelegation r o =>
      rintro _ ⟨⟩
      show (processDelegation c L.vdb L.ddb r o).2.1.IndexWF
      rcases processDelegation_cases c L.vdb L.ddb r o with hpd | ⟨-, -, -, hid, hpd⟩ <;> rw [hpd]
      · exact h
      · exact ⟨h.delegators.push hid (newEntry r o), h.validators.push hid (newEntry r o)⟩
  | processUndelegation r =>
      rintro _ ⟨⟩
      obtain ⟨ds, hds, hu⟩ := processUndelegation_updates L.vdb L.ddb r
      show (processUndelegation L.vdb L.ddb r).2.1.IndexWF
      rw [hds]
      exact h.of_updates hu fun _ _ _ ⟨_, _, he⟩ => by subst he; exact ⟨rfl, rfl⟩
  | processRewardClaim r =>
      rintro _ ⟨⟩
      obtain ⟨ds, hds, hu⟩ := processRewardClaim_updates L.ddb r
      show (L.ddb.processRewardClaim r).2.IndexWF
      rw [hds]
      exact h.of_updates hu fun _ _ _ he => by subst he; exact ⟨rfl, rfl⟩
  | addRewards id a =>
      rintro _ ⟨⟩
      obtain ⟨ds, hds, hu⟩ := addRewards_updates L.ddb id a
      show (L.ddb.addRewards id a).2.IndexWF
      rw [hds]
      exact h.of_updates hu fun _ _ _ he => by subst he; exact ⟨rfl, rfl⟩
  | distributeBlockReward V S =>
      intro x hx; obtain ⟨-, rfl⟩ := Ledger.step_distributeBlockReward hx; exact h
  | setDelegationStatus id s =>
      rintro _ ⟨⟩
      obtain ⟨ds, hds, hu⟩ := setDelegationStatus_updates L.ddb id s
      show (L.ddb.setDelegationStatus id s).2.IndexWF
      rw [hds]
      exact h.of_updates hu fun _ _ _ he => by subst he; exact ⟨rfl, rfl⟩
  | updateDelegationOutpoint id o =>
      rintro _ ⟨⟩
      obtain ⟨ds, oi, hds, hu⟩ := updateDelegationOutpoint_updates L.ddb id o
      show (L.ddb.updateDelegationOutpoint id o).2.IndexWF
      rw [hds]
      have h' := h.of_updates hu fun _ _ _ he => by subst he; exact ⟨rfl, rfl⟩
      exact ⟨h'.delegators, h'.validators⟩
  | delegationBlock height =>
      rintro _ ⟨⟩
      show (L.ddb.processBlock height).IndexWF
      exact ⟨h.delegators.mapVals (f := fun _ => blockStep height) fun _ e =>
          congrArg (·.delegatorId) (blockStep_eq height e),
        h.validators.mapVals (f := fun _ => blockStep height) fun _ e =>
          congrArg (·.validatorId) (blockStep_eq height e)⟩
  | registerValidator | processUpdate | updateStakeOutpoint | setValidatorStatus | jailValidator
  | unjailValidator | addDelegation | removeDelegation | validatorBlock => rintro _ ⟨⟩; exact h

/-- **Both indices are exact in every reachable state.** -/
lemma indexWF_of_reachable {ok : Ledger → LedgerOp → Prop} {L : Ledger}
    (hL : Ledger.Reachable p c ok L) : L.ddb.IndexWF :=
  Ledger.Reachable.induction (I := fun L => L.ddb.IndexWF) IndexWF.empty
    (fun _ op h _ => h.step op) hL

end WattxCore
