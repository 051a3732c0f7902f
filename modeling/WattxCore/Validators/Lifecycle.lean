import WattxCore.Validators.Ledger

/-!
The status lifecycle of the registry (`ValidatorDB::ProcessUpdate` with `DEACTIVATE` and
`REACTIVATE`, `JailValidator`, `UnjailValidator`, `ProcessBlock`) against the documented
one: a jailed validator is active again only once the registry height reaches its release
height, unbonding lasts `UNBONDING_PERIOD` blocks from the deactivation, and an active
validator holds the minimum stake and is 2000 blocks past its registration.

* `jail_left_before_release`: **a jailed validator is `ACTIVE` again below its release
  height**, by deactivating while jailed (`DEACTIVATE` accepts every status, the unbonding
  clock runs from a `lastActiveHeight` the jail did not move, and `REACTIVATE` from
  `INACTIVE` checks no jail), or by a jail length whose release height wraps;
* `unbonding_ends_at_deactivation_height`: `DEACTIVATE` does not record
  `lastActiveHeight`, so a validator that was never activated finishes unbonding in the
  next block;
* `unjailed_pending_validator_immature`: `UnjailValidator` activates a validator jailed
  while `PENDING`, with no maturity;
* `eligible_validator_mature`: **the stake floor**: with non-negative stake increases every
  registered validator holds `nMinValidatorStake`, and `IsEligibleForStaking` at the
  registry height implies `ACTIVE`, the floor and 2000 blocks since registration.
-/

namespace WattxCore

open ValidatorDB

/-! ### Runs on explicit inputs -/

/-- The entry the `registervalidator` RPC builds for key `id` at chain height `h`, with the
minimum stake of `Params.sample`, the default fee and no name. -/
def rpcEntry (id : KeyID) (h : Int32) : ValidatorEntry where
  validatorId := id
  validatorPubKey := id
  stakeAmount := Params.sample.nMinValidatorStake
  poolFeeRate := DEFAULT_POOL_FEE
  registrationHeight := h
  lastActiveHeight := 0
  status := .PENDING
  validatorName := ""
  stakeOutpoint := OutPoint.null
  jailReleaseHeight := 0
  totalDelegated := 0
  delegatorCount := 0

/-- An update of validator `id` at height `h`, signed with its key under `Crypto.toy`. -/
def signedUpdate (id : KeyID) (t : ValidatorUpdateType) (h : Int32) : ValidatorUpdate :=
  let u : ValidatorUpdate := ⟨id, t, 0, "", h, []⟩
  { u with signature := [id, u.getHash Crypto.toy] }

/-- The databases after a run from the empty ones, under `Params.sample` and `Crypto.toy`;
the empty databases when a call of the run does not return. -/
def ledgerAfter (ops : List LedgerOp) : Ledger :=
  ((Ledger.run Params.sample Crypto.toy Ledger.empty ops).map Prod.fst).getD Ledger.empty

/-- A run of admitted operations from the empty databases that returns ends in a reachable
state. -/
lemma reachable_ledgerAfter {ok : Ledger → LedgerOp → Prop} {ops : List LedgerOp}
    (h : Ledger.Admitted Params.sample Crypto.toy ok Ledger.empty ops)
    (hr : (Ledger.run Params.sample Crypto.toy Ledger.empty ops).isSome) :
    Ledger.Reachable Params.sample Crypto.toy ok (ledgerAfter ops) := by
  obtain ⟨y, hy⟩ := Option.isSome_iff_exists.mp hr
  unfold ledgerAfter
  rw [hy]
  exact Ledger.Reachable.run ops .empty h y hy

/-- The registry after a run. -/
def registryAfter (ops : List LedgerOp) : ValidatorDB := (ledgerAfter ops).vdb

/-- Status, release height and registry height of validator `1` after a run. -/
def statusOfOne (ops : List LedgerOp) : Option (ValidatorStatus × Int × Int) :=
  ((registryAfter ops).getValidator 1).map fun e =>
    (e.status, e.jailReleaseHeight.val, (registryAfter ops).currentHeight.val)

/-- The registry operations of the documented lifecycle: registrations of `PENDING` entries,
every signed update, jail lengths `≥ 0`, non-decreasing blocks, and no raw status setter or
delegation-ledger call. -/
def LifecycleAdmissible (L : Ledger) : LedgerOp → Prop
  | .registerValidator e => e.status = .PENDING
  | .processUpdate _ | .unjailValidator _ | .updateStakeOutpoint _ _ | .addDelegation _ _
  | .removeDelegation _ _ => True
  | .jailValidator _ b => 0 ≤ b.val
  | .validatorBlock h => L.vdb.currentHeight.val ≤ h.val
  | _ => False

instance (L : Ledger) : (op : LedgerOp) → Decidable (LifecycleAdmissible L op)
  | .registerValidator e => inferInstanceAs (Decidable (e.status = .PENDING))
  | .processUpdate _ | .unjailValidator _ | .updateStakeOutpoint _ _ | .addDelegation _ _
  | .removeDelegation _ _ => isTrue trivial
  | .jailValidator _ b => inferInstanceAs (Decidable (0 ≤ b.val))
  | .validatorBlock h => inferInstanceAs (Decidable (L.vdb.currentHeight.val ≤ h.val))
  | .setValidatorStatus _ _ | .processDelegation _ _ | .processUndelegation _
  | .processRewardClaim _ | .addRewards _ _ | .distributeBlockReward _ _
  | .setDelegationStatus _ _ | .updateDelegationOutpoint _ _ | .delegationBlock _ => isFalse id

/-- A run of the documented lifecycle from the empty databases that returns. -/
def LifecycleRun (ops : List LedgerOp) : Prop :=
  Ledger.Admitted Params.sample Crypto.toy LifecycleAdmissible Ledger.empty ops ∧
    (Ledger.run Params.sample Crypto.toy Ledger.empty ops).isSome

instance (ops : List LedgerOp) : Decidable (LifecycleRun ops) :=
  inferInstanceAs (Decidable (_ ∧ _))

/-! ### Leaving the jail -/

/-- Registered at height 0, validator `1` is jailed at height 300000 for
`DEFAULT_JAIL_BLOCKS`, deactivates, sees one block at the same height and reactivates. -/
def jailEscapeRun : List LedgerOp :=
  [.registerValidator (rpcEntry 1 0), .validatorBlock 300000,
    .jailValidator 1 DEFAULT_JAIL_BLOCKS, .processUpdate (signedUpdate 1 .DEACTIVATE 300000),
    .validatorBlock 300000, .processUpdate (signedUpdate 1 .REACTIVATE 300000)]

/-- Validator `1` is jailed at height 2147483000 for 1000 blocks: the release height
2147484000 does not fit an `int`. -/
def jailWrapRun : List LedgerOp :=
  [.registerValidator (rpcEntry 1 0), .validatorBlock 2147483000, .jailValidator 1 1000,
    .unjailValidator 1]

/-- Both runs leave the jail at the jailing height, below the release height
`300000 + 86400` and `2147483000 + 1000`, with no second jailing. -/
theorem jail_left_before_release :
    LifecycleRun jailEscapeRun ∧ LifecycleRun jailWrapRun ∧
      statusOfOne (jailEscapeRun.take 3) = some (.JAILED, 386400, 300000) ∧
      statusOfOne jailEscapeRun = some (.ACTIVE, 386400, 300000) ∧
      statusOfOne (jailWrapRun.take 3) = some (.JAILED, -2147483296, 2147483000) ∧
      statusOfOne jailWrapRun = some (.ACTIVE, 0, 2147483000) := by
  decide

/-! ### Unbonding -/

/-- Validator `1`, never activated, deactivates at height 300000 and sees one block at that
height. -/
def unbondingRun : List LedgerOp :=
  [.registerValidator (rpcEntry 1 0), .validatorBlock 300000,
    .processUpdate (signedUpdate 1 .DEACTIVATE 300000), .validatorBlock 300000]

/-- The unbonding that starts at height 300000 ends at height 300000, not at
`300000 + UNBONDING_PERIOD`. -/
theorem unbonding_ends_at_deactivation_height :
    LifecycleRun unbondingRun ∧ statusOfOne (unbondingRun.take 3) = some (.UNBONDING, 0, 300000) ∧
      statusOfOne unbondingRun = some (.INACTIVE, 0, 300000) := by
  decide

/-! ### The stake floor -/

/-- The runs the stake floor is stated for: registrations at a non-negative height (the RPC
passes the chain height), stake increases by a non-negative amount, blocks at
non-negative heights, and every other operation. -/
def StakeAdmissible (_ : Ledger) : LedgerOp → Prop
  | .registerValidator e => 0 ≤ e.registrationHeight.val
  | .processUpdate u => u.updateType = .INCREASE_STAKE → 0 ≤ u.newValue
  | .validatorBlock h => 0 ≤ h.val
  | _ => True

instance (L : Ledger) : (op : LedgerOp) → Decidable (StakeAdmissible L op)
  | .registerValidator e => inferInstanceAs (Decidable (0 ≤ e.registrationHeight.val))
  | .processUpdate u =>
      inferInstanceAs (Decidable (u.updateType = .INCREASE_STAKE → 0 ≤ u.newValue))
  | .validatorBlock h => inferInstanceAs (Decidable (0 ≤ h.val))
  | .updateStakeOutpoint _ _ | .setValidatorStatus _ _ | .jailValidator _ _ | .unjailValidator _
  | .addDelegation _ _ | .removeDelegation _ _ | .processDelegation _ _ | .processUndelegation _
  | .processRewardClaim _ | .addRewards _ _ | .distributeBlockReward _ _
  | .setDelegationStatus _ _ | .updateDelegationOutpoint _ _ | .delegationBlock _ => isTrue trivial

/-- The registry invariant behind the stake floor. -/
structure StakeFloor (p : Params) (L : Ledger) : Prop where
  entries : L.vdb.AllEntries fun _ e =>
    p.nMinValidatorStake ≤ e.stakeAmount ∧ 0 ≤ e.registrationHeight.val
  height : 0 ≤ L.vdb.currentHeight.val

variable {p : Params} {c : Crypto}

/-- A signed update keeps the floor, unless it raises the stake by a negative amount. -/
lemma applyUpdate_floor {db : ValidatorDB} {e e' : ValidatorEntry} {u : ValidatorUpdate}
    (h : applyUpdate p db e u = some e') (hu : u.updateType = .INCREASE_STAKE → 0 ≤ u.newValue)
    (he : p.nMinValidatorStake ≤ e.stakeAmount) :
    p.nMinValidatorStake ≤ e'.stakeAmount ∧ e'.registrationHeight = e.registrationHeight := by
  unfold applyUpdate at h
  split at h <;> (try split_ifs at h) <;> cases h <;> simp_all
  -- left: `INCREASE_STAKE`
  omega

lemma StakeFloor.step {L : Ledger} {op : LedgerOp} (hI : StakeFloor p L)
    (hop : StakeAdmissible L op) : ∀ x ∈ Ledger.step p c L op, StakeFloor p x.2 := by
  intro x hx
  have keep : ∀ db : ValidatorDB, db.AllEntries (fun _ e =>
      p.nMinValidatorStake ≤ e.stakeAmount ∧ 0 ≤ e.registrationHeight.val) →
      ∀ id a, (db.removeDelegation id a).2.AllEntries _ := fun db h id a =>
    AllEntries_of_rewrite h (removeDelegation_rewrite db id a) fun e he => h _ e he
  refine ⟨?_, ?_⟩
  · cases op with
    | registerValidator e => cases hx; exact AllEntries_registerValidator hI.entries fun _ h => ⟨h, hop⟩
    | processUpdate u =>
        cases hx
        refine AllEntries_processUpdate hI.entries fun e e' he h' => ?_
        obtain ⟨hs, hr⟩ := applyUpdate_floor h' hop (hI.entries _ e he).1
        exact ⟨hs, hr ▸ (hI.entries _ e he).2⟩
    | updateStakeOutpoint id o =>
        cases hx
        exact AllEntries_updateStakeOutpoint hI.entries fun e he => hI.entries _ e he
    | setValidatorStatus id s =>
        cases hx
        exact AllEntries_of_rewrite hI.entries (setValidatorStatus_rewrite _ id s)
          fun e he => hI.entries _ e he
    | jailValidator id b =>
        cases hx
        exact AllEntries_of_rewrite hI.entries (jailValidator_rewrite _ id b)
          fun e he => hI.entries _ e he
    | unjailValidator id =>
        cases hx
        exact AllEntries_of_rewrite hI.entries (unjailValidator_rewrite _ id)
          fun e he => hI.entries _ e he
    | addDelegation id a =>
        cases hx
        exact AllEntries_of_rewrite hI.entries (addDelegation_rewrite _ id a)
          fun e he => hI.entries _ e he
    | removeDelegation id a => cases hx; exact keep _ hI.entries id a
    | validatorBlock h =>
        cases hx
        exact AllEntries_processBlock hI.entries fun V e he => by rw [unbondStep_eq]; exact he
    | processDelegation r o =>
        cases hx
        exact Ledger.processDelegation_registry _ _ _ _
          (AllEntries_of_rewrite hI.entries (addDelegation_rewrite _ _ _)
            fun e he => hI.entries _ e he) hI.entries
    | processUndelegation r =>
        cases hx
        exact DelegationDB.processUndelegation_registry _ _ _ (fun v t hv => keep v hv _ t)
          hI.entries
    | distributeBlockReward V S =>
        obtain ⟨-, rfl⟩ := Ledger.step_distributeBlockReward hx; exact hI.entries
    | processRewardClaim | addRewards | setDelegationStatus | updateDelegationOutpoint
    | delegationBlock => cases hx; exact hI.entries
  · rw [Ledger.step_currentHeight L op x hx]
    cases op <;> first | exact hop | exact hI.height

lemma stakeFloor_of_reachable {L : Ledger} (hL : Ledger.Reachable p c StakeAdmissible L) :
    StakeFloor p L :=
  Ledger.Reachable.induction ⟨fun _ _ h => by simp [Ledger.empty, ValidatorDB.empty] at h, le_rfl⟩
    (fun _ _ hI hop => hI.step hop) hL

/-- At a non-negative height, eligibility reads the maturity without wrap-around. -/
lemma mature_of_eligible {e : ValidatorEntry} {h : Int32} (hh : 0 ≤ h.val)
    (hr : 0 ≤ e.registrationHeight.val) (hel : e.isEligibleForStaking p h = true) :
    e.status = .ACTIVE ∧ 2000 ≤ h.val - e.registrationHeight.val := by
  unfold ValidatorEntry.isEligibleForStaking at hel
  split_ifs at hel with h₁ h₂ h₃
  have h2000 : (2000 : Int32).val = 2000 := rfl
  have hreg := e.registrationHeight.val_mem
  have hcur := h.val_mem
  rw [Int32.lt_iff, Int32.val_sub, Int32.wrap_of_mem (by omega) (by omega), h2000] at h₃
  exact ⟨not_not.mp h₁, by omega⟩

/-- **The stake floor.** In every state reached by the admitted runs, every registered
validator holds the minimum stake, and a validator eligible for staking at the registry
height is `ACTIVE` and 2000 blocks past its registration. -/
theorem eligible_validator_mature {L : Ledger} (hL : Ledger.Reachable p c StakeAdmissible L)
    (V : KeyID) (e : ValidatorEntry) (hV : L.vdb.getValidator V = some e) :
    p.nMinValidatorStake ≤ e.stakeAmount ∧
      (e.isEligibleForStaking p L.vdb.currentHeight = true →
        e.status = .ACTIVE ∧ 2000 ≤ L.vdb.currentHeight.val - e.registrationHeight.val) := by
  have hI := stakeFloor_of_reachable hL
  exact ⟨(hI.entries V e hV).1, mature_of_eligible hI.height (hI.entries V e hV).2⟩

/-- A validator jailed while `PENDING` at height 0 and unjailed at once. -/
def pendingJailRun : List LedgerOp :=
  [.registerValidator (rpcEntry 1 0), .jailValidator 1 0, .unjailValidator 1]

/-- `ACTIVE` does not imply maturity: jailing and unjailing a `PENDING` validator activates
it at its registration height. -/
theorem unjailed_pending_validator_immature :
    LifecycleRun pendingJailRun ∧
      statusOfOne pendingJailRun = some (.ACTIVE, 0, 0) ∧
      ((registryAfter pendingJailRun).getValidator 1).map (·.registrationHeight.val) = some 0 := by
  decide

end WattxCore
