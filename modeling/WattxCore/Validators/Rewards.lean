import WattxCore.Validators.Aggregates

/-!
The reward side of the delegation ledger. `DistributeBlockReward` credits nothing: it returns
only for a zero share, and for every other share it locks `cs_delegations` a second time and
never returns (`distribution_never_returns`). Rewards reach a record only through the raw
`AddRewards`, and `ProcessRewardClaim` pays out and zeroes a delegator's pending rewards.

* `claimLoop_accounts`: a claim pays out exactly the pending rewards it zeroes;
  `processRewardClaim_clears`, `Cleared.step`: afterwards no record the claim covers has
  pending rewards, until something credits rewards again, so that
  (`processRewardClaim_of_cleared`) the same claim made again pays out nothing;
* `RecordsOk`: amounts positive and pending rewards non-negative, kept by every admitted step;
* `distribution_never_returns`: two matured delegations, and a distribution to them that does
  not return.
-/

namespace WattxCore

namespace DelegationDB

/-- The pending rewards of all records. -/
def pendingTotal (ds : StdMap Digest DelegationEntry) : Int :=
  ds.sumBy fun _ e => e.pendingRewards

/-- Amounts are positive and pending rewards non-negative. -/
structure RecordsOk (ds : StdMap Digest DelegationEntry) : Prop where
  amount_pos : ∀ id e, ds.find? id = some e → 0 < e.amount
  pending_nonneg : ∀ id e, ds.find? id = some e → 0 ≤ e.pendingRewards

/-! ### Claims -/

/-- Whether a claim covers a record: every record when no validator is named, else the
records of the named validator. -/
def ClaimCovers (r : RewardClaimRequest) (e : DelegationEntry) : Prop :=
  r.validatorId = 0 ∨ e.validatorId = r.validatorId

/-- **A claim pays out exactly the pending rewards it zeroes.** -/
lemma claimLoop_accounts (r : RewardClaimRequest) (h : Int32) :
    ∀ (ids : List Digest) (total : Int) (ds : StdMap Digest DelegationEntry),
      (claimLoop r h ids total ds).1 + pendingTotal (claimLoop r h ids total ds).2 =
        total + pendingTotal ds
  | [], _, _ => rfl
  | id :: ids, total, ds => by
      unfold claimLoop
      split
      · exact claimLoop_accounts r h ids total ds
      · rename_i e he
        split_ifs
        · exact claimLoop_accounts r h ids total ds
        · rw [claimLoop_accounts r h ids _ _, pendingTotal, StdMap.sumBy_insert_of_find? _ he]
          simp only [pendingTotal]
          omega
        · exact claimLoop_accounts r h ids total ds

/-- No record a claim covers, among the delegator's, holds pending rewards. -/
def Cleared (r : RewardClaimRequest) (db : DelegationDB) : Prop :=
  ∀ id ∈ idsAt db.delegatorIndex r.delegatorId, ∀ e, db.delegations.find? id = some e →
    ClaimCovers r e → e.pendingRewards ≤ 0

/-- After the claim loop, no listed record it covers holds pending rewards. -/
lemma claimLoop_clears (r : RewardClaimRequest) (h : Int32) :
    ∀ (ids : List Digest) (total : Int) (ds : StdMap Digest DelegationEntry),
      ∀ id ∈ ids, ∀ e, (claimLoop r h ids total ds).2.find? id = some e → ClaimCovers r e →
        e.pendingRewards ≤ 0
  | [], _, _ => by simp
  | id₀ :: ids, total, ds => by
      -- the rest of the loop only zeroes, so a record settled for `id₀` stays settled
      have settled : ∀ ds' total', (∀ e, ds'.find? id₀ = some e → ClaimCovers r e →
          e.pendingRewards ≤ 0) → ∀ e, (claimLoop r h ids total' ds').2.find? id₀ = some e →
          ClaimCovers r e → e.pendingRewards ≤ 0 := fun ds' total' hset e he hc => by
        have := (claimLoop_updates r h ids total' ds').forall_find?
          (P := fun k e => k = id₀ → ClaimCovers r e → e.pendingRewards ≤ 0)
          (fun k v v' hr hv hk hc' => by subst hr; simp)
          (fun k v hv hk => by subst hk; exact hset v hv)
        exact this id₀ e he rfl hc
      intro id hid e
      unfold claimLoop
      split
      · rename_i hnone
        rcases List.mem_cons.mp hid with rfl | hid
        · exact settled ds total (by simp [hnone]) e
        · exact claimLoop_clears r h ids total ds id hid e
      · rename_i e₀ he₀
        split_ifs with hskip hpos
        · rcases List.mem_cons.mp hid with rfl | hid
          · refine settled ds total (fun e' he' hc => ?_) e
            rw [he₀] at he'; cases he'
            unfold ClaimCovers at hc; tauto
          · exact claimLoop_clears r h ids total ds id hid e
        · rcases List.mem_cons.mp hid with rfl | hid
          · exact settled _ _ (by simp) e
          · exact claimLoop_clears r h ids _ _ id hid e
        · rcases List.mem_cons.mp hid with rfl | hid
          · refine settled ds total (fun e' he' _ => ?_) e
            rw [he₀] at he'; cases he'; omega
          · exact claimLoop_clears r h ids total ds id hid e

/-- A claim leaves the records it covers cleared. -/
lemma processRewardClaim_clears (db : DelegationDB) (r : RewardClaimRequest) :
    Cleared r (db.processRewardClaim r).2 := by
  unfold processRewardClaim
  split
  · rename_i hnone
    simp [Cleared, idsAt, hnone]
  · rename_i ids hids
    intro id hid e he hc
    exact claimLoop_clears r _ ids 0 _ id (by simpa [idsAt, hids] using hid) e he hc

/-- A loop over cleared records pays nothing. -/
lemma claimLoop_of_cleared (r : RewardClaimRequest) (h : Int32) :
    ∀ (ids : List Digest) (total : Int) (ds : StdMap Digest DelegationEntry),
      (∀ id ∈ ids, ∀ e, ds.find? id = some e → ClaimCovers r e → e.pendingRewards ≤ 0) →
      (claimLoop r h ids total ds).1 = total
  | [], _, _, _ => rfl
  | id :: ids, total, ds, hc => by
      have hc' := fun id' hid' => hc id' (List.mem_cons_of_mem id hid')
      unfold claimLoop
      split
      · exact claimLoop_of_cleared r h ids total ds hc'
      · rename_i e he
        split_ifs with hskip hpos
        · exact claimLoop_of_cleared r h ids total ds hc'
        · have := hc id (List.mem_cons_self id ids) e he (by unfold ClaimCovers; tauto)
          omega
        · exact claimLoop_of_cleared r h ids total ds hc'

/-- A claim over records it has already cleared pays out nothing. -/
lemma processRewardClaim_of_cleared {db : DelegationDB} {r : RewardClaimRequest}
    (h : Cleared r db) : (db.processRewardClaim r).1 = 0 := by
  unfold processRewardClaim
  split
  · rfl
  · rename_i ids hids
    exact claimLoop_of_cleared r _ ids 0 _ fun id hid => h id (by simpa [idsAt, hids] using hid)

/-- Rewrites that keep each record's validator and do not raise its pending rewards above
zero keep a claim's records cleared. -/
lemma Cleared.of_updates {R : Digest → DelegationEntry → DelegationEntry → Prop}
    {r : RewardClaimRequest} {db : DelegationDB} {ds : StdMap Digest DelegationEntry}
    (h : Cleared r db) (hu : StdMap.Updates R db.delegations ds)
    (hR : ∀ k e e', R k e e' → e'.validatorId = e.validatorId ∧
      (e'.pendingRewards = e.pendingRewards ∨ e'.pendingRewards = 0)) :
    Cleared r { db with delegations := ds } := by
  intro id hid e he hc
  have := hu.forall_find? (P := fun k e => k ∈ idsAt db.delegatorIndex r.delegatorId →
      ClaimCovers r e → e.pendingRewards ≤ 0)
    (fun k v v' hr hv hk hc' => by
      obtain ⟨hval, hp⟩ := hR k v v' hr
      rcases hp with hp | hp
      · rw [hp]; exact hv hk (by unfold ClaimCovers at hc' ⊢; rwa [hval] at hc')
      · omega)
    (fun k v hv hk hc' => h k hk v hv hc')
  exact this id e he hid hc

end DelegationDB

/-! ### Every admitted run -/

open DelegationDB

/-- The operations that credit rewards: the raw `AddRewards`; a distribution that returns
credits nothing. -/
def LedgerOp.credits : LedgerOp → Bool
  | .addRewards _ _ => true
  | _ => false

/-- The runs the reward laws are stated for: distributions of a non-negative share, and no raw
`AddRewards`. -/
def RewardAdmissible (_ : Ledger) : LedgerOp → Prop
  | .distributeBlockReward _ S => 0 ≤ S
  | .addRewards _ _ => False
  | _ => True

instance (L : Ledger) : (op : LedgerOp) → Decidable (RewardAdmissible L op)
  | .distributeBlockReward _ S => inferInstanceAs (Decidable (0 ≤ S))
  | .addRewards _ _ => isFalse id
  | .registerValidator _ | .processUpdate _ | .updateStakeOutpoint _ _ | .setValidatorStatus _ _
  | .jailValidator _ _ | .unjailValidator _ | .addDelegation _ _ | .removeDelegation _ _
  | .validatorBlock _ | .processDelegation _ _ | .processUndelegation _ | .processRewardClaim _
  | .setDelegationStatus _ _ | .updateDelegationOutpoint _ _ | .delegationBlock _ => isTrue trivial

/-- What a reply pays out: the amount of a reward claim. -/
def Reply.claimed : Reply → Int
  | .amount a => a
  | .ok _ => 0

variable {p : Params} {c : Crypto}

lemma DelegationDB.RecordsOk.empty : RecordsOk (StdMap.empty : StdMap Digest DelegationEntry) :=
  ⟨by simp, by simp⟩

lemma DelegationDB.RecordsOk.of_updates {R : Digest → DelegationEntry → DelegationEntry → Prop}
    {ds ds' : StdMap Digest DelegationEntry} (h : RecordsOk ds) (hu : StdMap.Updates R ds ds')
    (hR : ∀ k e e', R k e e' → e'.amount = e.amount ∧
      (0 ≤ e.pendingRewards → 0 ≤ e'.pendingRewards)) : RecordsOk ds' := by
  have := hu.forall_find? (P := fun _ e => 0 < e.amount ∧ 0 ≤ e.pendingRewards)
    (fun k v v' hr hv => ⟨(hR k v v' hr).1 ▸ hv.1, (hR k v v' hr).2 hv.2⟩)
    (fun k v hv => ⟨h.amount_pos k v hv, h.pending_nonneg k v hv⟩)
  exact ⟨fun k v hv => (this k v hv).1, fun k v hv => (this k v hv).2⟩

/-- One admitted step keeps amounts positive and pending rewards non-negative. -/
lemma DelegationDB.RecordsOk.step {L : Ledger} {op : LedgerOp} (h : RecordsOk L.ddb.delegations)
    (hop : RewardAdmissible L op) : ∀ x ∈ Ledger.step p c L op, RecordsOk x.2.ddb.delegations := by
  cases op with
  | processDelegation r o =>
      rintro _ ⟨⟩
      show RecordsOk (processDelegation c L.vdb L.ddb r o).2.1.delegations
      rcases processDelegation_cases c L.vdb L.ddb r o with hpd | ⟨-, hmin, -, hid, hpd⟩ <;>
        rw [hpd]
      · exact h
      · have hpos : 0 < r.amount := lt_of_lt_of_le (by unfold MIN_DELEGATION_AMOUNT; omega) hmin
        refine ⟨fun id e he => ?_, fun id e he => ?_⟩ <;>
          · rw [StdMap.find?_insert_eq] at he
            split_ifs at he
            · cases he; simp [newEntry, hpos]
            · first | exact h.amount_pos id e he | exact h.pending_nonneg id e he
  | processUndelegation r =>
      rintro _ ⟨⟩
      obtain ⟨ds, hds, hu⟩ := processUndelegation_updates L.vdb L.ddb r
      show RecordsOk (processUndelegation L.vdb L.ddb r).2.1.delegations
      rw [hds]
      exact h.of_updates hu fun _ _ _ ⟨_, _, he⟩ => by subst he; exact ⟨rfl, fun h => h⟩
  | processRewardClaim r =>
      rintro _ ⟨⟩
      obtain ⟨ds, hds, hu⟩ := processRewardClaim_updates L.ddb r
      show RecordsOk (L.ddb.processRewardClaim r).2.delegations
      rw [hds]
      exact h.of_updates hu fun _ _ _ he => by subst he; exact ⟨rfl, fun _ => le_rfl⟩
  | distributeBlockReward V S =>
      intro x hx; obtain ⟨-, rfl⟩ := Ledger.step_distributeBlockReward hx; exact h
  | setDelegationStatus id s =>
      rintro _ ⟨⟩
      obtain ⟨ds, hds, hu⟩ := setDelegationStatus_updates L.ddb id s
      show RecordsOk (L.ddb.setDelegationStatus id s).2.delegations
      rw [hds]
      exact h.of_updates hu fun _ _ _ he => by subst he; exact ⟨rfl, fun h => h⟩
  | updateDelegationOutpoint id o =>
      rintro _ ⟨⟩
      obtain ⟨ds, oi, hds, hu⟩ := updateDelegationOutpoint_updates L.ddb id o
      show RecordsOk (L.ddb.updateDelegationOutpoint id o).2.delegations
      rw [hds]
      exact h.of_updates hu fun _ _ _ he => by subst he; exact ⟨rfl, fun h => h⟩
  | delegationBlock height =>
      rintro _ ⟨⟩
      refine ⟨fun id e he => ?_, fun id e he => ?_⟩ <;>
        · simp only [Ledger.step, processBlock, StdMap.find?_mapVals, Option.map_eq_some'] at he
          obtain ⟨e₀, he₀, rfl⟩ := he
          rw [blockStep_eq]
          first | exact h.amount_pos id e₀ he₀ | exact h.pending_nonneg id e₀ he₀
  | addRewards => exact hop.elim
  | registerValidator | processUpdate | updateStakeOutpoint | setValidatorStatus | jailValidator
  | unjailValidator | addDelegation | removeDelegation | validatorBlock => rintro _ ⟨⟩; exact h

lemma recordsOk_of_reachable {L : Ledger} (hL : Ledger.Reachable p c RewardAdmissible L) :
    RecordsOk L.ddb.delegations :=
  Ledger.Reachable.induction (I := fun L => RecordsOk L.ddb.delegations) RecordsOk.empty
    (fun _ _ h hop => h.step hop) hL

/-- Operations that credit nothing keep a claim's records cleared. -/
lemma DelegationDB.Cleared.step {r : RewardClaimRequest} {L : Ledger} {op : LedgerOp} (h : Cleared r L.ddb)
    (hop : op.credits = false) : ∀ x ∈ Ledger.step p c L op, Cleared r x.2.ddb := by
  cases op with
  | processDelegation r' o =>
      rintro _ ⟨⟩
      show Cleared r (processDelegation c L.vdb L.ddb r' o).2.1
      rcases processDelegation_cases c L.vdb L.ddb r' o with hpd | ⟨-, -, -, hid, hpd⟩ <;>
        rw [hpd]
      · exact h
      · intro id hid' e he hc
        rw [StdMap.find?_insert_eq] at he
        split_ifs at he with hi
        · cases he; simp [newEntry]
        · refine h id ?_ e he hc
          rw [idsAt_pushIndex] at hid'
          split_ifs at hid' with hk
          · rw [← hk]
            rcases List.mem_append.mp hid' with hid' | hid'
            · exact hid'
            · exact absurd (List.mem_singleton.mp hid').symm hi
          · exact hid'
  | processUndelegation r' =>
      rintro _ ⟨⟩
      obtain ⟨ds, hds, hu⟩ := processUndelegation_updates L.vdb L.ddb r'
      show Cleared r (processUndelegation L.vdb L.ddb r').2.1
      rw [hds]
      exact h.of_updates hu fun _ _ _ ⟨_, _, he⟩ => by subst he; exact ⟨rfl, .inl rfl⟩
  | processRewardClaim r' =>
      rintro _ ⟨⟩
      obtain ⟨ds, hds, hu⟩ := processRewardClaim_updates L.ddb r'
      show Cleared r (L.ddb.processRewardClaim r').2
      rw [hds]
      exact h.of_updates hu fun _ _ _ he => by subst he; exact ⟨rfl, .inr rfl⟩
  | setDelegationStatus id s =>
      rintro _ ⟨⟩
      obtain ⟨ds, hds, hu⟩ := setDelegationStatus_updates L.ddb id s
      show Cleared r (L.ddb.setDelegationStatus id s).2
      rw [hds]
      exact h.of_updates hu fun _ _ _ he => by subst he; exact ⟨rfl, .inl rfl⟩
  | updateDelegationOutpoint id o =>
      rintro _ ⟨⟩
      obtain ⟨ds, oi, hds, hu⟩ := updateDelegationOutpoint_updates L.ddb id o
      show Cleared r (L.ddb.updateDelegationOutpoint id o).2
      rw [hds]
      exact h.of_updates hu fun _ _ _ he => by subst he; exact ⟨rfl, .inl rfl⟩
  | delegationBlock height =>
      rintro _ ⟨⟩
      intro id hid e he hc
      simp only [Ledger.step, processBlock, StdMap.find?_mapVals, Option.map_eq_some'] at he
      obtain ⟨e₀, he₀, rfl⟩ := he
      rw [blockStep_eq] at hc ⊢
      exact h id hid e₀ he₀ hc
  | distributeBlockReward V S =>
      intro x hx; obtain ⟨-, rfl⟩ := Ledger.step_distributeBlockReward hx; exact h
  | addRewards => cases hop
  | registerValidator | processUpdate | updateStakeOutpoint | setValidatorStatus | jailValidator
  | unjailValidator | addDelegation | removeDelegation | validatorBlock => rintro _ ⟨⟩; exact h

lemma DelegationDB.Cleared.run {r : RewardClaimRequest} :
    ∀ (ops : List LedgerOp) (L : Ledger), Cleared r L.ddb → (∀ op ∈ ops, op.credits = false) →
      ∀ y ∈ Ledger.run p c L ops, Cleared r y.1.ddb
  | [], _, h, _, _, hy => by cases hy; exact h
  | op :: ops, _, h, hops, _, hy => by
      obtain ⟨x, hx, z, hz, rfl⟩ := Ledger.run_cons_mem hy
      exact Cleared.run ops _ (h.step (hops op (List.mem_cons_self op ops)) x hx)
        (fun op' h' => hops op' (List.mem_cons_of_mem op h')) z hz

/-- Delegators `2` and `3` delegate the minimum and twice the minimum to validator `1`, and
both delegations mature. -/
def maturedTwoRun : List LedgerOp :=
  pendingDelegationRun ++
    [.processDelegation (signedDelegation 3 1 (2 * MIN_DELEGATION_AMOUNT) 0) OutPoint.null,
      .delegationBlock 500]

/-- After `maturedTwoRun`, validator `1` holds two `ACTIVE` delegations, of three minimums in
all. Distributing `100` to them does not return, so no run that distributes a nonzero share
ever gets past it: the claim after it is never made. -/
theorem distribution_never_returns :
    (Ledger.run Params.sample Crypto.toy Ledger.empty maturedTwoRun).isSome ∧
      ((recordsTo (· = .ACTIVE) 1 (ledgerAfter maturedTwoRun).ddb.delegations).map
        (·.amount)).sum = 3 * MIN_DELEGATION_AMOUNT ∧
      (recordsTo (· = .ACTIVE) 1 (ledgerAfter maturedTwoRun).ddb.delegations).length = 2 ∧
      (Ledger.step Params.sample Crypto.toy (ledgerAfter maturedTwoRun)
        (.distributeBlockReward 1 100)).isNone ∧
      (Ledger.run Params.sample Crypto.toy Ledger.empty
        (maturedTwoRun ++ [.distributeBlockReward 1 100, .processRewardClaim ⟨2, 1, 500, []⟩])).isNone := by
  decide

end WattxCore
