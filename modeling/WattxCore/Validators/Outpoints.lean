import WattxCore.Validators.Persistence

/-!
The outpoint indices of the registry and the ledger, `ValidatorDB::outpointIndex` and
`DelegationDB::outpointIndex`, against the records' outpoint fields.

* `IndexSound`: every entry `o ↦ id` sits at a non-null outpoint and names a record that
  holds `o`; `insert_fresh`, `move` and `foldl_indexOutpoint` are the three ways the source
  writes an index (a new record, `Update*Outpoint`, the rebuild of `Unserialize`);
* `outpointsSound_of_reachableWithLoads`: **both indices are sound in every state reached
  with loads**, so `GetValidatorByOutpoint`, `GetDelegationByOutpoint`, `IsValidatorStake`
  and `IsDelegation` answer only with records that hold the outpoint asked about
  (`outpoint_lookups_sound`);
* `shared_outpoint_indexed_once`: no operation checks that an outpoint is free, so two
  records can hold one outpoint, and the index names only the last one written.
-/

namespace WattxCore

open ValidatorDB (indexOutpoint unindexOutpoint)

/-- Every entry `o ↦ id` of an outpoint index sits at a non-null outpoint and names a record
that holds `o`. -/
def IndexSound {V : Type} (outpoint : V → OutPoint) (index : StdMap OutPoint Nat)
    (records : StdMap Nat V) : Prop :=
  ∀ o id, index.find? o = some id →
    o.isNull = false ∧ ∃ e, records.find? id = some e ∧ outpoint e = o

namespace IndexSound

variable {V : Type} {outpoint : V → OutPoint} {index : StdMap OutPoint Nat}
  {records : StdMap Nat V}

lemma empty (records : StdMap Nat V) : IndexSound outpoint StdMap.empty records :=
  fun _ _ h => by simp at h

/-- The records the index names keep their outpoints: the index stays sound. -/
lemma mono (h : IndexSound outpoint index records) {records' : StdMap Nat V}
    (hr : ∀ o id e, index.find? o = some id → records.find? id = some e →
      ∃ e', records'.find? id = some e' ∧ outpoint e' = outpoint e) :
    IndexSound outpoint index records' := fun o id ho => by
  obtain ⟨hn, e, he, rfl⟩ := h o id ho
  obtain ⟨e', he', heq⟩ := hr _ id e ho he
  exact ⟨hn, e', he', heq⟩

/-- Rewrites that keep every record's outpoint keep the index sound. -/
lemma of_outpoints (h : IndexSound outpoint index records) {records' : StdMap Nat V}
    (hr : ∀ id, (records'.find? id).map outpoint = (records.find? id).map outpoint) :
    IndexSound outpoint index records' :=
  h.mono fun _ id e _ he => by
    have hid := hr id
    rw [he, Option.map_some'] at hid
    exact Option.map_eq_some'.mp hid

/-- `index[o] = id` for a record `id` that holds `o`. -/
lemma indexOutpoint (h : IndexSound outpoint index records) {id : Nat} {e : V}
    (he : records.find? id = some e) :
    IndexSound outpoint (ValidatorDB.indexOutpoint index (outpoint e) id) records := by
  intro o id' ho
  unfold ValidatorDB.indexOutpoint at ho
  split_ifs at ho with hn
  · exact h o id' ho
  · rw [StdMap.find?_insert_eq] at ho
    split_ifs at ho with ho'
    · cases ho; subst ho'; exact ⟨by simpa using hn, e, he, rfl⟩
    · exact h o id' ho

/-- Erasing an entry keeps the index sound. -/
lemma unindexOutpoint (h : IndexSound outpoint index records) (o : OutPoint) :
    IndexSound outpoint (ValidatorDB.unindexOutpoint index o) records := by
  intro o' id ho
  unfold ValidatorDB.unindexOutpoint at ho
  split_ifs at ho
  · exact h o' id ho
  · rw [StdMap.find?_erase] at ho
    split_ifs at ho
    exact h o' id ho

/-- A new record under a free id, with its index entry (`RegisterValidator`,
`ProcessDelegation`). -/
lemma insert_fresh (h : IndexSound outpoint index records) {id : Nat}
    (hid : records.find? id = none) (e : V) :
    IndexSound outpoint (ValidatorDB.indexOutpoint index (outpoint e) id) (records.insert id e) :=
  (h.mono fun _ id' e' _ he' => ⟨e', by
    rw [StdMap.find?_insert_ne _ _ fun hi => by subst hi; simp_all]; exact he', rfl⟩).indexOutpoint
    (StdMap.find?_insert _ _ _)

/-- A record moved to a new outpoint, its old index entry erased and a new one written
(`UpdateStakeOutpoint`, `UpdateDelegationOutpoint`). After the erase no entry names the
moved record: by soundness such an entry would sit at its old outpoint. -/
lemma move (h : IndexSound outpoint index records) {id : Nat} {e : V}
    (he : records.find? id = some e) (e' : V) :
    IndexSound outpoint
      (ValidatorDB.indexOutpoint (ValidatorDB.unindexOutpoint index (outpoint e)) (outpoint e') id)
      (records.insert id e') := by
  have hu := h.unindexOutpoint (outpoint e)
  refine (hu.mono fun o id' e'' ho he'' => ⟨e'', ?_, rfl⟩).indexOutpoint (StdMap.find?_insert _ _ _)
  rw [StdMap.find?_insert_ne]
  · exact he''
  rintro rfl
  obtain ⟨hn, e₀, he₀, rfl⟩ := hu o id ho
  obtain rfl : e₀ = e := Option.some.inj (he₀.symm.trans he)
  simp [ValidatorDB.unindexOutpoint, hn, StdMap.find?_erase] at ho

/-- The rebuild loop of `Unserialize`, over records of the map. -/
lemma foldl_indexOutpoint :
    ∀ {index : StdMap OutPoint Nat} (l : List (Nat × V)), IndexSound outpoint index records →
      (∀ r ∈ l, records.find? r.1 = some r.2) →
      IndexSound outpoint (l.foldl (fun idx r => ValidatorDB.indexOutpoint idx (outpoint r.2) r.1)
        index) records
  | _, [], h, _ => h
  | _, r :: rs, h, hl =>
      foldl_indexOutpoint rs (h.indexOutpoint (hl r (List.mem_cons_self _ _)))
        fun r' hr' => hl r' (List.mem_cons_of_mem _ hr')

/-- A rebuild from nothing over all the records is sound. -/
lemma rebuilt (records : StdMap Nat V) :
    IndexSound outpoint (records.entries.foldl
      (fun idx r => ValidatorDB.indexOutpoint idx (outpoint r.2) r.1) StdMap.empty) records :=
  foldl_indexOutpoint _ (empty records) fun r hr => (StdMap.mem_entries_iff _ r.1 r.2).mp hr

end IndexSound

lemma ValidatorDB.rebuildOutpointIndex_eq :
    ∀ (index : StdMap OutPoint KeyID) (l : List (KeyID × ValidatorEntry)),
      rebuildOutpointIndex index l = l.foldl (fun idx r => indexOutpoint idx r.2.stakeOutpoint r.1) index
  | _, [] => rfl
  | _, _ :: rs => rebuildOutpointIndex_eq _ rs

lemma DelegationDB.foldl_rebuildStep_outpointIndex :
    ∀ (l : List (Digest × DelegationEntry)) (db : DelegationDB),
      (l.foldl rebuildStep db).outpointIndex =
        l.foldl (fun idx r => indexOutpoint idx r.2.delegationOutpoint r.1) db.outpointIndex
  | [], _ => rfl
  | r :: rs, db => foldl_rebuildStep_outpointIndex rs (rebuildStep db r)

/-- Both outpoint indices are sound. -/
structure Ledger.OutpointsSound (L : Ledger) : Prop where
  validators : IndexSound (·.stakeOutpoint) L.vdb.outpointIndex L.vdb.validators
  delegations : IndexSound (·.delegationOutpoint) L.ddb.outpointIndex L.ddb.delegations

namespace IndexSound

variable {p : Params} {c : Crypto}

/-- A registry operation that fails unchanged or rewrites one entry without moving its
outpoint keeps the registry's index sound. -/
lemma of_rewrite {db : ValidatorDB} {id : KeyID} {f : ValidatorEntry → ValidatorEntry}
    {r : Bool × ValidatorDB} (h : IndexSound (·.stakeOutpoint) db.outpointIndex db.validators)
    (hr : r.2 = db ∨ ∃ e, db.validators.find? id = some e ∧ r.2 = db.setEntry id (f e))
    (hf : ∀ e, db.validators.find? id = some e → (f e).stakeOutpoint = e.stakeOutpoint) :
    IndexSound (·.stakeOutpoint) r.2.outpointIndex r.2.validators := by
  rcases hr with hr | ⟨e, he, hr⟩ <;> rw [hr]
  · exact h
  · refine h.of_outpoints fun V => ?_
    rw [ValidatorDB.setEntry_find?]
    split_ifs with hV
    · subst hV; rw [he]; exact congrArg some (hf e he)
    · rfl

/-- A rewrite of the ledger's records that keeps every outpoint keeps its index sound. -/
lemma of_updates {R : Digest → DelegationEntry → DelegationEntry → Prop} {db : DelegationDB}
    {ds : StdMap Digest DelegationEntry}
    (h : IndexSound (·.delegationOutpoint) db.outpointIndex db.delegations)
    (hu : StdMap.Updates R db.delegations ds)
    (hR : ∀ k v v', R k v v' → v'.delegationOutpoint = v.delegationOutpoint) :
    IndexSound (·.delegationOutpoint) db.outpointIndex ds :=
  h.of_outpoints (hu.map_find? hR)

end IndexSound

open IndexSound

variable {p : Params} {c : Crypto}

/-- The registry's index after one operation. -/
lemma ValidatorDB.outpointsSound_step {L : Ledger} (h : L.OutpointsSound) (op : LedgerOp) :
    ∀ x ∈ Ledger.step p c L op, IndexSound (·.stakeOutpoint) x.2.vdb.outpointIndex x.2.vdb.validators := by
  have hv := h.validators
  cases op with
  | registerValidator e =>
      rintro _ ⟨⟩
      show IndexSound _ (L.vdb.registerValidator p e).2.outpointIndex (L.vdb.registerValidator p e).2.validators
      rcases registerValidator_cases L.vdb e with hr | ⟨hid, hr⟩ <;> rw [hr]
      · exact hv
      · exact hv.insert_fresh hid e
  | processUpdate u =>
      rintro _ ⟨⟩
      show IndexSound _ (L.vdb.processUpdate p c u).2.outpointIndex (L.vdb.processUpdate p c u).2.validators
      rcases processUpdate_rewrite L.vdb u with hr | ⟨e, e', he, he', hr⟩
      · rw [hr]; exact hv
      · exact hv.of_rewrite (f := fun _ => e') (.inr ⟨e, he, hr⟩) fun e₀ he₀ => by
          obtain rfl := Option.some.inj (he₀.symm.trans he)
          exact applyUpdate_stakeOutpoint he'
  | updateStakeOutpoint id o =>
      rintro _ ⟨⟩
      show IndexSound _ (L.vdb.updateStakeOutpoint id o).2.outpointIndex
        (L.vdb.updateStakeOutpoint id o).2.validators
      rcases updateStakeOutpoint_cases L.vdb id o with hr | ⟨e, he, hr⟩ <;> rw [hr]
      · exact hv
      · exact hv.move he { e with stakeOutpoint := o }
  | setValidatorStatus id s => rintro _ ⟨⟩; exact hv.of_rewrite (setValidatorStatus_rewrite _ id s) fun _ _ => rfl
  | jailValidator id b => rintro _ ⟨⟩; exact hv.of_rewrite (jailValidator_rewrite _ id b) fun _ _ => rfl
  | unjailValidator id => rintro _ ⟨⟩; exact hv.of_rewrite (unjailValidator_rewrite _ id) fun _ _ => rfl
  | addDelegation id a => rintro _ ⟨⟩; exact hv.of_rewrite (addDelegation_rewrite _ id a) fun _ _ => rfl
  | removeDelegation id a => rintro _ ⟨⟩; exact hv.of_rewrite (removeDelegation_rewrite _ id a) fun _ _ => rfl
  | validatorBlock height =>
      rintro _ ⟨⟩
      refine hv.of_outpoints fun V => ?_
      simp only [Ledger.step, processBlock, StdMap.find?_mapVals, Option.map_map]
      congr 1
      exact funext fun e => congrArg (·.stakeOutpoint) (unbondStep_eq height e)
  | processDelegation r o =>
      rintro _ ⟨⟩
      exact Ledger.processDelegation_registry (P := fun v => IndexSound _ v.outpointIndex v.validators)
        _ _ _ _ (hv.of_rewrite (addDelegation_rewrite _ _ _) fun _ _ => rfl) hv
  | processUndelegation r =>
      rintro _ ⟨⟩
      exact DelegationDB.processUndelegation_registry
        (P := fun v => IndexSound (·.stakeOutpoint) v.outpointIndex v.validators) _ _ _
        (fun v t hv' => hv'.of_rewrite (removeDelegation_rewrite v _ t) fun _ _ => rfl) hv
  | distributeBlockReward V S =>
      intro x hx; obtain ⟨-, rfl⟩ := Ledger.step_distributeBlockReward hx; exact hv
  | processRewardClaim | addRewards | setDelegationStatus | updateDelegationOutpoint
  | delegationBlock => rintro _ ⟨⟩; exact hv

/-- The ledger's index after one operation. -/
lemma DelegationDB.outpointsSound_step {L : Ledger} (h : L.OutpointsSound) (op : LedgerOp) :
    ∀ x ∈ Ledger.step p c L op,
      IndexSound (·.delegationOutpoint) x.2.ddb.outpointIndex x.2.ddb.delegations := by
  have hd := h.delegations
  cases op with
  | processDelegation r o =>
      rintro _ ⟨⟩
      show IndexSound _ (processDelegation c L.vdb L.ddb r o).2.1.outpointIndex
        (processDelegation c L.vdb L.ddb r o).2.1.delegations
      rcases processDelegation_cases c L.vdb L.ddb r o with hpd | ⟨-, -, -, hid, hpd⟩ <;> rw [hpd]
      · exact hd
      · exact hd.insert_fresh hid (newEntry r o)
  | processUndelegation r =>
      rintro _ ⟨⟩
      obtain ⟨ds, hds, hu⟩ := processUndelegation_updates L.vdb L.ddb r
      show IndexSound _ (processUndelegation L.vdb L.ddb r).2.1.outpointIndex
        (processUndelegation L.vdb L.ddb r).2.1.delegations
      rw [hds]
      exact hd.of_updates hu fun _ _ _ ⟨_, _, he⟩ => by subst he; rfl
  | processRewardClaim r =>
      rintro _ ⟨⟩
      obtain ⟨ds, hds, hu⟩ := processRewardClaim_updates L.ddb r
      show IndexSound _ (L.ddb.processRewardClaim r).2.outpointIndex (L.ddb.processRewardClaim r).2.delegations
      rw [hds]
      exact hd.of_updates hu fun _ _ _ he => by subst he; rfl
  | addRewards id a =>
      rintro _ ⟨⟩
      obtain ⟨ds, hds, hu⟩ := addRewards_updates L.ddb id a
      show IndexSound _ (L.ddb.addRewards id a).2.outpointIndex (L.ddb.addRewards id a).2.delegations
      rw [hds]
      exact hd.of_updates hu fun _ _ _ he => by subst he; rfl
  | distributeBlockReward V S =>
      intro x hx; obtain ⟨-, rfl⟩ := Ledger.step_distributeBlockReward hx; exact hd
  | setDelegationStatus id s =>
      rintro _ ⟨⟩
      obtain ⟨ds, hds, hu⟩ := setDelegationStatus_updates L.ddb id s
      show IndexSound _ (L.ddb.setDelegationStatus id s).2.outpointIndex
        (L.ddb.setDelegationStatus id s).2.delegations
      rw [hds]
      exact hd.of_updates hu fun _ _ _ he => by subst he; rfl
  | updateDelegationOutpoint id o =>
      rintro _ ⟨⟩
      show IndexSound _ (L.ddb.updateDelegationOutpoint id o).2.outpointIndex
        (L.ddb.updateDelegationOutpoint id o).2.delegations
      rcases updateDelegationOutpoint_cases L.ddb id o with hr | ⟨e, he, hr⟩ <;> rw [hr]
      · exact hd
      · exact hd.move he { e with delegationOutpoint := o }
  | delegationBlock height =>
      rintro _ ⟨⟩
      refine hd.of_outpoints fun id => ?_
      simp only [Ledger.step, processBlock, StdMap.find?_mapVals, Option.map_map]
      congr 1
      exact funext fun e => congrArg (·.delegationOutpoint) (blockStep_eq height e)
  | registerValidator | processUpdate | updateStakeOutpoint | setValidatorStatus | jailValidator
  | unjailValidator | addDelegation | removeDelegation | validatorBlock => rintro _ ⟨⟩; exact hd

lemma Ledger.OutpointsSound.step {L : Ledger} (h : L.OutpointsSound) (op : LedgerOp) :
    ∀ x ∈ Ledger.step p c L op, x.2.OutpointsSound := fun x hx =>
  ⟨ValidatorDB.outpointsSound_step h op x hx, DelegationDB.outpointsSound_step h op x hx⟩

/-- **Both outpoint indices are sound in every state reached with loads**, whichever
operations the run admits. -/
lemma outpointsSound_of_reachableWithLoads {ok : Ledger → LedgerOp → Prop} {L : Ledger}
    (hL : Ledger.ReachableWithLoads p c ok L) : L.OutpointsSound :=
  Ledger.ReachableWithLoads.induction (I := Ledger.OutpointsSound)
    ⟨IndexSound.empty _, IndexSound.empty _⟩ (fun _ op h _ => h.step op)
    (fun L vs h => ⟨by
      show IndexSound _ (ValidatorDB.rebuildOutpointIndex StdMap.empty vs.entries) vs
      rw [ValidatorDB.rebuildOutpointIndex_eq]
      exact IndexSound.rebuilt vs, h.delegations⟩)
    (fun L ds h => ⟨h.validators, by
      show IndexSound _ (L.ddb.unserialize ds).outpointIndex (L.ddb.unserialize ds).delegations
      rw [(DelegationDB.unserialize_eq L.ddb ds).1, DelegationDB.unserialize,
        DelegationDB.foldl_rebuildStep_outpointIndex]
      exact IndexSound.rebuilt ds⟩) hL

/-- **Lookups by outpoint answer only from a record that holds the outpoint**, in every state
reached with loads. -/
lemma outpoint_lookups_sound {ok : Ledger → LedgerOp → Prop} {L : Ledger}
    (hL : Ledger.ReachableWithLoads p c ok L) (o : OutPoint) :
    (∀ e, L.vdb.getValidatorByOutpoint o = some e → e.stakeOutpoint = o) ∧
      (L.vdb.isValidatorStake o = true →
        ∃ V e, L.vdb.validators.find? V = some e ∧ e.stakeOutpoint = o) ∧
      (∀ e, L.ddb.getDelegationByOutpoint o = some e → e.delegationOutpoint = o) ∧
      (L.ddb.isDelegation o = true →
        ∃ id e, L.ddb.delegations.find? id = some e ∧ e.delegationOutpoint = o) := by
  have h := outpointsSound_of_reachableWithLoads hL
  refine ⟨fun e he => ?_, fun hs => ?_, fun e he => ?_, fun hs => ?_⟩
  · unfold ValidatorDB.getValidatorByOutpoint at he
    split at he
    · cases he
    · rename_i id hid
      obtain ⟨-, e', he', rfl⟩ := h.validators o id hid
      rw [he'] at he; cases he; rfl
  · obtain ⟨id, hid⟩ := Option.isSome_iff_exists.mp hs
    exact ⟨id, (h.validators o id hid).2⟩
  · unfold DelegationDB.getDelegationByOutpoint at he
    split at he
    · cases he
    · rename_i id hid
      obtain ⟨-, e', he', rfl⟩ := h.delegations o id hid
      rw [he'] at he; cases he; rfl
  · obtain ⟨id, hid⟩ := Option.isSome_iff_exists.mp hs
    exact ⟨id, (h.delegations o id hid).2⟩

/-! ### Two records on one outpoint -/

/-- The outpoint both validators and both delegations of `sharedOutpointRun` hold. -/
def sharedOutpoint : OutPoint := ⟨5, 0⟩

/-- Validators `1` and `2` register, `1` is activated, and both are moved onto
`sharedOutpoint`; delegators `2` and `3` then delegate to `1` with that outpoint. -/
def sharedOutpointRun : List LedgerOp :=
  [.registerValidator (rpcEntry 1 0), .registerValidator (rpcEntry 2 0), .jailValidator 1 0,
    .unjailValidator 1, .updateStakeOutpoint 1 sharedOutpoint, .updateStakeOutpoint 2 sharedOutpoint,
    .processDelegation (signedDelegation 2 1 MIN_DELEGATION_AMOUNT 0) sharedOutpoint,
    .processDelegation (signedDelegation 3 1 MIN_DELEGATION_AMOUNT 0) sharedOutpoint]

/-- The id of delegator `d`'s delegation in `sharedOutpointRun`. -/
def sharedDelegationId (d : KeyID) : Digest :=
  (DelegationDB.newEntry (signedDelegation d 1 MIN_DELEGATION_AMOUNT 0) sharedOutpoint).getDelegationId
    Crypto.toy

/-- After `sharedOutpointRun`, validators `1` and `2` both hold the non-null `sharedOutpoint`
and the registry's index names `2` only; delegator `2`'s and `3`'s records both hold it and
the ledger's index names `3`'s only. -/
theorem shared_outpoint_indexed_once :
    sharedOutpoint.isNull = false ∧
      ((ledgerAfter sharedOutpointRun).vdb.getValidator 1).map (·.stakeOutpoint) = some sharedOutpoint ∧
      ((ledgerAfter sharedOutpointRun).vdb.getValidator 2).map (·.stakeOutpoint) = some sharedOutpoint ∧
      (ledgerAfter sharedOutpointRun).vdb.outpointIndex.find? sharedOutpoint = some 2 ∧
      ((ledgerAfter sharedOutpointRun).ddb.getDelegation (sharedDelegationId 2)).map
        (·.delegationOutpoint) = some sharedOutpoint ∧
      ((ledgerAfter sharedOutpointRun).ddb.getDelegation (sharedDelegationId 3)).map
        (·.delegationOutpoint) = some sharedOutpoint ∧
      (ledgerAfter sharedOutpointRun).ddb.outpointIndex.find? sharedOutpoint =
        some (sharedDelegationId 3) ∧
      sharedDelegationId 2 ≠ sharedDelegationId 3 := by
  decide

end WattxCore
