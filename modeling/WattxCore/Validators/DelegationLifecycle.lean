import WattxCore.Validators.Aggregates

/-!
The lifecycle of a delegation record, `PENDING → ACTIVE → UNBONDING → WITHDRAWN`, over the
runs the `delegatestake` RPC and block connection produce: delegations at the ledger's
height, blocks that never go below the height of the last one, and no raw
`SetDelegationStatus` or `AddRewards`.

* `DelegationAdmissible`: those runs;
* `HeightsBehind`: every record's delegation and unbonding heights are at most the ledger's
  height (or `0` before the first block), and its pending rewards are non-negative; every
  admitted step keeps it (`heightsBehind_of_reachable`);
* `DelegationEntry.Moves`: what one operation may do to a record: keep its status, or take
  one step forward, to `ACTIVE` only at a block `DELEGATION_MATURITY` past the delegation
  height, to `UNBONDING` only on an undelegation, to `WITHDRAWN` only at a block
  `DELEGATION_UNBONDING_PERIOD` past the unbonding height; rewards grow only on an
  `ACTIVE` record;
* `delegation_lifecycle`: **every step of every admitted run moves every record so, and
  creates records only as `PENDING` ones of a `ProcessDelegation`**.

The `int` differences `height - delegationHeight` and `height - unbondingStartHeight` of
`ProcessBlock` can wrap. `HeightsBehind` keeps the exact differences at or above `-2^31`, and
there a wrapped difference that reaches a non-negative bound means the exact one does
(`Int32.le_of_le_sub`).
-/

namespace WattxCore

/-- A wrapped difference that reaches a non-negative bound `k` means the exact one does, when
the exact difference is not below `-2^31`. -/
lemma Int32.le_of_le_sub {a b k : Int32} (hk : 0 ≤ k.val) (hab : -2147483648 ≤ a.val - b.val)
    (h : k ≤ a - b) : b.val + k.val ≤ a.val := by
  rw [Int32.le_iff, Int32.val_sub, Int32.wrap] at h
  have := a.val_mem
  have := b.val_mem
  omega

/-- The runs of the delegation lifecycle: `ProcessDelegation` at the ledger's height (as the
`delegatestake` RPC calls it), `DelegationDB::ProcessBlock` at or above the ledger's height
(any height while it is `0`, as before the first block), and no `SetDelegationStatus` or
`AddRewards`. -/
def DelegationAdmissible (L : Ledger) : LedgerOp → Prop
  | .processDelegation r _ => r.height = L.ddb.currentHeight
  | .delegationBlock h => L.ddb.currentHeight.val ≤ h.val ∨ L.ddb.currentHeight.val = 0
  | .setDelegationStatus _ _ | .addRewards _ _ => False
  | _ => True

instance (L : Ledger) : (op : LedgerOp) → Decidable (DelegationAdmissible L op)
  | .processDelegation r _ => inferInstanceAs (Decidable (r.height = L.ddb.currentHeight))
  | .delegationBlock h =>
      inferInstanceAs (Decidable (L.ddb.currentHeight.val ≤ h.val ∨ L.ddb.currentHeight.val = 0))
  | .setDelegationStatus _ _ | .addRewards _ _ => isFalse id
  | .registerValidator _ | .processUpdate _ | .updateStakeOutpoint _ _ | .setValidatorStatus _ _
  | .jailValidator _ _ | .unjailValidator _ | .addDelegation _ _ | .removeDelegation _ _
  | .validatorBlock _ | .processUndelegation _ | .processRewardClaim _
  | .distributeBlockReward _ _ | .updateDelegationOutpoint _ _ => isTrue trivial

/-- An admitted `ProcessBlock(h)` does not take the ledger's height, floored at `0`, back. -/
lemma max_height_le_of_admissible {L : Ledger} {h : Int32}
    (hop : DelegationAdmissible L (.delegationBlock h)) :
    max L.ddb.currentHeight.val 0 ≤ max h.val 0 := by
  rcases hop with hle | h0
  · exact max_le_max hle (le_refl 0)
  · rw [h0, max_self]; exact le_max_right _ _

/-- Every record's delegation and unbonding heights are at most `max currentHeight 0`, and its
pending rewards are non-negative. -/
def DelegationDB.HeightsBehind (db : DelegationDB) : Prop :=
  ∀ id e, db.delegations.find? id = some e →
    e.delegationHeight.val ≤ max db.currentHeight.val 0 ∧
      e.unbondingStartHeight.val ≤ max db.currentHeight.val 0 ∧ 0 ≤ e.pendingRewards

/-- What one operation may do to a record: keep its delegation height; keep its status and
unbonding height, or take one step forward along `PENDING → ACTIVE → UNBONDING → WITHDRAWN`;
and raise its pending rewards only while it is `ACTIVE`. -/
def DelegationEntry.Moves (op : LedgerOp) (e e' : DelegationEntry) : Prop :=
  e'.delegationHeight = e.delegationHeight ∧
    ((e'.status = e.status ∧ e'.unbondingStartHeight = e.unbondingStartHeight) ∨
      (e.status = .PENDING ∧ e'.status = .ACTIVE ∧
        e'.unbondingStartHeight = e.unbondingStartHeight ∧
        ∃ h, op = .delegationBlock h ∧ e.delegationHeight.val + DELEGATION_MATURITY.val ≤ h.val) ∨
      (e.status = .ACTIVE ∧ e'.status = .UNBONDING ∧ ∃ r, op = .processUndelegation r) ∨
      (e.status = .UNBONDING ∧ e'.status = .WITHDRAWN ∧
        e'.unbondingStartHeight = e.unbondingStartHeight ∧
        ∃ h, op = .delegationBlock h ∧
          e.unbondingStartHeight.val + DELEGATION_UNBONDING_PERIOD.val ≤ h.val)) ∧
    (e.pendingRewards < e'.pendingRewards → e.status = .ACTIVE ∧ e'.status = .ACTIVE)

/-- Every record of `ds` is still in `ds'`, moved as `Moves op` allows, and every record of
`ds'` that `ds` lacks is a `PENDING` one that a `ProcessDelegation` created. -/
def DelegationEntry.StepMoves (op : LedgerOp) (ds ds' : StdMap Digest DelegationEntry) : Prop :=
  (∀ id e, ds.find? id = some e → ∃ e', ds'.find? id = some e' ∧ e.Moves op e') ∧
    ∀ id e', ds.find? id = none → ds'.find? id = some e' →
      e'.status = .PENDING ∧ ∃ r o, op = .processDelegation r o

namespace DelegationEntry

variable {op : LedgerOp} {e e' : DelegationEntry}

lemma Moves.refl (op : LedgerOp) (e : DelegationEntry) : e.Moves op e :=
  ⟨rfl, .inl ⟨rfl, rfl⟩, fun h => absurd h (lt_irrefl _)⟩

/-- A rewrite that keeps status, heights and pending rewards moves nothing. -/
lemma Moves.of_keeps (hs : e'.status = e.status) (hd : e'.delegationHeight = e.delegationHeight)
    (hu : e'.unbondingStartHeight = e.unbondingStartHeight)
    (hp : e'.pendingRewards ≤ e.pendingRewards) : e.Moves op e' :=
  ⟨hd, .inl ⟨hs, hu⟩, fun h => absurd h (not_lt.mpr hp)⟩

lemma StepMoves.refl (op : LedgerOp) (ds : StdMap Digest DelegationEntry) : StepMoves op ds ds :=
  ⟨fun _ e he => ⟨e, he, .refl op e⟩, fun _ _ hn he => by simp [hn] at he⟩

/-- Rewrites of found records: each record's chain of rewrites must be a move. -/
lemma StepMoves.of_updates {R : Digest → DelegationEntry → DelegationEntry → Prop}
    {ds ds' : StdMap Digest DelegationEntry} (hu : StdMap.Updates R ds ds')
    (hR : ∀ id e e', ds.find? id = some e → Relation.ReflTransGen (R id) e e' → e.Moves op e') :
    StepMoves op ds ds' := by
  refine ⟨fun id e he => ?_, fun id e' hn he' => ?_⟩
  · obtain ⟨e', he'⟩ := Option.isSome_iff_exists.mp ((hu.isSome_find? id).trans (by simp [he]))
    obtain ⟨e₀, he₀, hrel⟩ := hu.find?_rel he'
    obtain rfl := Option.some.inj (he₀.symm.trans he)
    exact ⟨e', he', hR id e₀ e' he₀ hrel⟩
  · have := hu.isSome_find? id
    simp [hn, he'] at this

/-- An undelegation unbonds a record at most once: a second rewrite would need it `ACTIVE`. -/
lemma unbonds_chain {V : KeyID} {h : Int32} {id : Digest}
    (hc : Relation.ReflTransGen (Unbonds V h id) e e') :
    e' = e ∨ (e.status = .ACTIVE ∧ e' = { e with status := .UNBONDING, unbondingStartHeight := h }) := by
  induction hc with
  | refl => exact .inl rfl
  | tail _ hstep ih =>
      obtain ⟨-, hact, rfl⟩ := hstep
      rcases ih with rfl | ⟨-, rfl⟩
      · exact .inr ⟨hact, rfl⟩
      · cases hact

/-- A claim zeroes the pending rewards, at most once to any effect. -/
lemma claims_chain {h : Int32} {id : Digest} (hc : Relation.ReflTransGen (Claims h id) e e') :
    e' = e ∨ e' = { e with pendingRewards := 0, lastRewardHeight := h } := by
  induction hc with
  | refl => exact .inl rfl
  | tail _ hstep ih =>
      subst hstep
      rcases ih with rfl | rfl <;> exact .inr rfl

/-- `ProcessBlock(h)` moves a record as `Moves` allows when its heights are at most
`max h 0`. -/
lemma blockStep_moves {h : Int32} (hd : e.delegationHeight.val ≤ max h.val 0)
    (hu : e.unbondingStartHeight.val ≤ max h.val 0) :
    e.Moves (.delegationBlock h) (DelegationDB.blockStep h e) := by
  have := h.val_mem
  have hp : (DelegationDB.blockStep h e).pendingRewards = e.pendingRewards := by
    rw [DelegationDB.blockStep_eq]
  refine ⟨by rw [DelegationDB.blockStep_eq], ?_, fun hlt => absurd hlt (by rw [hp]; exact lt_irrefl _)⟩
  unfold DelegationDB.blockStep
  dsimp only
  split_ifs with h₁ h₂ h₃
  · exact absurd h₂.1 (by simp)
  · exact .inr (.inl ⟨h₁.1, rfl, rfl, h, rfl,
      Int32.le_of_le_sub (by decide) (by omega) h₁.2⟩)
  · exact .inr (.inr (.inr ⟨h₃.1, rfl, rfl, h, rfl,
      Int32.le_of_le_sub (by decide) (by omega) h₃.2⟩))
  · exact .inl ⟨rfl, rfl⟩

end DelegationEntry

namespace DelegationDB.HeightsBehind

open DelegationEntry

variable {db : DelegationDB}

lemma empty : DelegationDB.empty.HeightsBehind := fun _ _ h => by simp [DelegationDB.empty] at h

/-- Record rewrites that keep the bounds, at the same ledger height, keep them. -/
lemma of_updates {R : Digest → DelegationEntry → DelegationEntry → Prop}
    {ds : StdMap Digest DelegationEntry} (hB : db.HeightsBehind) (hu : StdMap.Updates R db.delegations ds)
    (hR : ∀ k v v', R k v v' → v.delegationHeight.val ≤ max db.currentHeight.val 0 →
      v.unbondingStartHeight.val ≤ max db.currentHeight.val 0 → 0 ≤ v.pendingRewards →
      v'.delegationHeight.val ≤ max db.currentHeight.val 0 ∧
        v'.unbondingStartHeight.val ≤ max db.currentHeight.val 0 ∧ 0 ≤ v'.pendingRewards) :
    HeightsBehind { db with delegations := ds } := fun id e he =>
  hu.forall_find? (P := fun _ v => v.delegationHeight.val ≤ max db.currentHeight.val 0 ∧
      v.unbondingStartHeight.val ≤ max db.currentHeight.val 0 ∧ 0 ≤ v.pendingRewards)
    (fun k v v' hr hv => hR k v v' hr hv.1 hv.2.1 hv.2.2) (fun k v hv => hB k v hv) id e he

variable {p : Params} {c : Crypto}

/-- Every admitted step keeps the heights behind the ledger's and the rewards non-negative. -/
lemma step {L : Ledger} (hB : L.ddb.HeightsBehind) {op : LedgerOp} (hop : DelegationAdmissible L op) :
    ∀ x ∈ Ledger.step p c L op, x.2.ddb.HeightsBehind := by
  cases op with
  | processDelegation r o =>
      rintro _ ⟨⟩
      show (processDelegation c L.vdb L.ddb r o).2.1.HeightsBehind
      rcases processDelegation_cases c L.vdb L.ddb r o with hpd | ⟨-, -, -, -, hpd⟩ <;> rw [hpd]
      · exact hB
      · intro id e he
        rw [StdMap.find?_insert_eq] at he
        split_ifs at he
        · cases he
          have hr : r.height.val = L.ddb.currentHeight.val := congrArg Int32.val hop
          exact ⟨by simp only [newEntry, hr]; omega, by simp [newEntry], le_refl _⟩
        · exact hB id e he
  | processUndelegation r =>
      rintro _ ⟨⟩
      obtain ⟨ds, hds, hu⟩ := processUndelegation_updates L.vdb L.ddb r
      show (processUndelegation L.vdb L.ddb r).2.1.HeightsBehind
      rw [hds]
      exact hB.of_updates hu fun _ _ _ ⟨_, _, he⟩ hd _ hp => by subst he; exact ⟨hd, le_max_left _ _, hp⟩
  | processRewardClaim r =>
      rintro _ ⟨⟩
      obtain ⟨ds, hds, hu⟩ := processRewardClaim_updates L.ddb r
      show (L.ddb.processRewardClaim r).2.HeightsBehind
      rw [hds]
      exact hB.of_updates hu fun _ _ _ he hd hub _ => by subst he; exact ⟨hd, hub, le_refl _⟩
  | distributeBlockReward V S =>
      intro x hx; obtain ⟨-, rfl⟩ := Ledger.step_distributeBlockReward hx; exact hB
  | updateDelegationOutpoint id o =>
      rintro _ ⟨⟩
      obtain ⟨ds, oi, hds, hu⟩ := updateDelegationOutpoint_updates L.ddb id o
      show (L.ddb.updateDelegationOutpoint id o).2.HeightsBehind
      rw [hds]
      exact (hB.of_updates hu fun _ _ _ he hd hub hp => by subst he; exact ⟨hd, hub, hp⟩ :)
  | delegationBlock h =>
      rintro _ ⟨⟩
      intro id e he
      simp only [Ledger.step, processBlock, StdMap.find?_mapVals, Option.map_eq_some'] at he
      obtain ⟨e₀, he₀, rfl⟩ := he
      obtain ⟨hd, hub, hp⟩ := hB id e₀ he₀
      have hmax := max_height_le_of_admissible hop
      rw [blockStep_eq]
      exact ⟨hd.trans hmax, hub.trans hmax, hp⟩
  | setDelegationStatus | addRewards => exact hop.elim
  | registerValidator | processUpdate | updateStakeOutpoint | setValidatorStatus | jailValidator
  | unjailValidator | addDelegation | removeDelegation | validatorBlock => rintro _ ⟨⟩; exact hB

end DelegationDB.HeightsBehind

open DelegationDB DelegationEntry

variable {p : Params} {c : Crypto}

/-- The records' heights stay behind the ledger's in every admitted run. -/
lemma heightsBehind_of_reachable {L : Ledger} (hL : Ledger.Reachable p c DelegationAdmissible L) :
    L.ddb.HeightsBehind :=
  Ledger.Reachable.induction (I := fun L => L.ddb.HeightsBehind) HeightsBehind.empty
    (fun _ _ hB hop => hB.step hop) hL

/-- One admitted step, from a state whose heights are behind the ledger's, moves every record
as `Moves` allows. -/
lemma stepMoves_of_heightsBehind {L : Ledger} (hB : L.ddb.HeightsBehind) {op : LedgerOp}
    (hop : DelegationAdmissible L op) :
    ∀ x ∈ Ledger.step p c L op, StepMoves op L.ddb.delegations x.2.ddb.delegations := by
  cases op with
  | processDelegation r o =>
      rintro _ ⟨⟩
      show StepMoves _ _ (processDelegation c L.vdb L.ddb r o).2.1.delegations
      rcases processDelegation_cases c L.vdb L.ddb r o with hpd | ⟨-, -, -, hfree, hpd⟩ <;> rw [hpd]
      · exact .refl _ _
      · refine ⟨fun id e he => ⟨e, ?_, .refl _ e⟩, fun id e' hn he' => ?_⟩
        · rw [StdMap.find?_insert_ne _ _ fun hi => by rw [← hi, hfree] at he; cases he]; exact he
        · rw [StdMap.find?_insert_eq] at he'
          split_ifs at he' with hi
          · cases he'; exact ⟨rfl, r, o, rfl⟩
          · simp [hn] at he'
  | processUndelegation r =>
      rintro _ ⟨⟩
      obtain ⟨ds, hds, hu⟩ := processUndelegation_updates L.vdb L.ddb r
      show StepMoves _ _ (processUndelegation L.vdb L.ddb r).2.1.delegations
      rw [hds]
      refine StepMoves.of_updates hu fun _ e e' _ hc => ?_
      rcases unbonds_chain hc with rfl | ⟨hact, rfl⟩
      · exact .refl _ _
      · exact ⟨rfl, .inr (.inr (.inl ⟨hact, rfl, r, rfl⟩)), fun h => absurd h (lt_irrefl _)⟩
  | processRewardClaim r =>
      rintro _ ⟨⟩
      obtain ⟨ds, hds, hu⟩ := processRewardClaim_updates L.ddb r
      show StepMoves _ _ (L.ddb.processRewardClaim r).2.delegations
      rw [hds]
      refine StepMoves.of_updates hu fun id e e' he hc => ?_
      rcases claims_chain hc with rfl | rfl
      · exact .refl _ _
      · exact Moves.of_keeps rfl rfl rfl (hB id e he).2.2
  | distributeBlockReward V S =>
      intro x hx; obtain ⟨-, rfl⟩ := Ledger.step_distributeBlockReward hx; exact .refl _ _
  | updateDelegationOutpoint id o =>
      rintro _ ⟨⟩
      obtain ⟨ds, oi, hds, hu⟩ := updateDelegationOutpoint_updates L.ddb id o
      show StepMoves _ _ (L.ddb.updateDelegationOutpoint id o).2.delegations
      rw [hds]
      refine StepMoves.of_updates hu fun _ e e' _ hc => ?_
      induction hc with
      | refl => exact .refl _ e
      | tail _ hstep ih => subst hstep; exact ih
  | delegationBlock h =>
      rintro _ ⟨⟩
      refine ⟨fun id e he => ⟨blockStep h e, ?_, ?_⟩, fun id e' hn he' => ?_⟩
      · simp [Ledger.step, processBlock, he]
      · obtain ⟨hd, hub, -⟩ := hB id e he
        have hmax := max_height_le_of_admissible hop
        exact blockStep_moves (hd.trans hmax) (hub.trans hmax)
      · simp [Ledger.step, processBlock, hn] at he'
  | setDelegationStatus | addRewards => exact hop.elim
  | registerValidator | processUpdate | updateStakeOutpoint | setValidatorStatus | jailValidator
  | unjailValidator | addDelegation | removeDelegation | validatorBlock => rintro _ ⟨⟩; exact .refl _ _

/-- **Every step of every admitted run moves every delegation record forward along
`PENDING → ACTIVE → UNBONDING → WITHDRAWN` or not at all**: to `ACTIVE` only at a
`ProcessBlock(h)` with `h ≥ delegationHeight + DELEGATION_MATURITY`, to `UNBONDING` only on
a `ProcessUndelegation`, to `WITHDRAWN` only at a `ProcessBlock(h)` with
`h ≥ unbondingStartHeight + DELEGATION_UNBONDING_PERIOD`; its pending rewards grow only
while it is `ACTIVE`; no record disappears, and a new one is a `PENDING` record of a
`ProcessDelegation`. -/
theorem delegation_lifecycle {L : Ledger} (hL : Ledger.Reachable p c DelegationAdmissible L)
    {op : LedgerOp} (hop : DelegationAdmissible L op) :
    ∀ x ∈ Ledger.step p c L op, StepMoves op L.ddb.delegations x.2.ddb.delegations :=
  stepMoves_of_heightsBehind (heightsBehind_of_reachable hL) hop

theorem delegation_lifecycle_at_maturity :
    Ledger.Reachable Params.sample Crypto.toy DelegationAdmissible (ledgerAfter pendingDelegationRun) ∧
      DelegationAdmissible (ledgerAfter pendingDelegationRun) (.delegationBlock 500) ∧
      ∀ x ∈ Ledger.step Params.sample Crypto.toy (ledgerAfter pendingDelegationRun)
          (.delegationBlock 500),
        StepMoves (.delegationBlock 500) (ledgerAfter pendingDelegationRun).ddb.delegations
          x.2.ddb.delegations :=
  have hL : Ledger.Reachable Params.sample Crypto.toy DelegationAdmissible
      (ledgerAfter pendingDelegationRun) := reachable_ledgerAfter (by decide) (by decide)
  have hop : DelegationAdmissible (ledgerAfter pendingDelegationRun) (.delegationBlock 500) := by
    decide
  ⟨hL, hop, delegation_lifecycle hL hop⟩

end WattxCore
