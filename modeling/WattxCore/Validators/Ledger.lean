import WattxCore.Validators.Delegation

/-!
The two databases of a node as one system: `g_validator_db` and `g_delegation_db`, driven by
RPC calls, block connection and the delegation ledger's calls into the registry.

* `Ledger` and `LedgerOp`: every public operation of the two databases that writes state;
* `Ledger.step`: one operation, with the value the source returns (`Reply`), or `none` for
  the one call that does not return, a `DistributeBlockReward` with a nonzero share;
* `Ledger.Reachable ok`: the states reached from the empty databases by operations that the
  predicate `ok` admits in the state where they run, so that each law can name the
  operations (and the callers' promises) it is stated for;
* `Reachable.induction`: an invariant that holds initially and is kept by every admitted
  step that returns holds in every reachable state;
* `Ledger.run`: a whole run, collecting the replies, `none` when a call does not return.
-/

namespace WattxCore

/-- The registry and the delegation ledger of one node. -/
structure Ledger where
  vdb : ValidatorDB
  ddb : DelegationDB

/-- The public operations of `ValidatorDB` and `DelegationDB` that write state. -/
inductive LedgerOp
  | registerValidator (entry : ValidatorEntry)
  | processUpdate (update : ValidatorUpdate)
  | updateStakeOutpoint (validatorId : KeyID) (newOutpoint : OutPoint)
  | setValidatorStatus (validatorId : KeyID) (status : ValidatorStatus)
  | jailValidator (validatorId : KeyID) (jailBlocks : Int32)
  | unjailValidator (validatorId : KeyID)
  | addDelegation (validatorId : KeyID) (amount : Int)
  | removeDelegation (validatorId : KeyID) (amount : Int)
  | validatorBlock (height : Int32)
  | processDelegation (request : DelegationRequest) (outpoint : OutPoint)
  | processUndelegation (request : UndelegationRequest)
  | processRewardClaim (request : RewardClaimRequest)
  | addRewards (delegationId : Digest) (rewards : Int)
  | distributeBlockReward (validatorId : KeyID) (delegatorsShare : Int)
  | setDelegationStatus (delegationId : Digest) (status : DelegationStatus)
  | updateDelegationOutpoint (delegationId : Digest) (newOutpoint : OutPoint)
  | delegationBlock (height : Int32)

/-- The raw setters: `SetValidatorStatus`, `AddRewards`, `SetDelegationStatus`, and
`AddDelegation` and `RemoveDelegation` called other than by the ledger itself. -/
def LedgerOp.isRaw : LedgerOp → Bool
  | .setValidatorStatus _ _ | .addDelegation _ _ | .removeDelegation _ _ | .addRewards _ _
  | .setDelegationStatus _ _ => true
  | _ => false

/-- What an operation returns: a success flag, or the amount a reward claim pays out. -/
inductive Reply
  | ok (b : Bool)
  | amount (a : Int)
  deriving DecidableEq

namespace Ledger

/-- Both databases as constructed at start-up. -/
def empty : Ledger := ⟨ValidatorDB.empty, DelegationDB.empty⟩

variable (p : Params) (c : Crypto)

/-- One operation on the node's databases, with the value the source returns; `none` when the
call does not return. -/
def step (L : Ledger) : LedgerOp → Option (Reply × Ledger)
  | .registerValidator e =>
      let r := L.vdb.registerValidator p e; some (.ok r.1, { L with vdb := r.2 })
  | .processUpdate u => let r := L.vdb.processUpdate p c u; some (.ok r.1, { L with vdb := r.2 })
  | .updateStakeOutpoint id o =>
      let r := L.vdb.updateStakeOutpoint id o; some (.ok r.1, { L with vdb := r.2 })
  | .setValidatorStatus id s =>
      let r := L.vdb.setValidatorStatus id s; some (.ok r.1, { L with vdb := r.2 })
  | .jailValidator id b => let r := L.vdb.jailValidator id b; some (.ok r.1, { L with vdb := r.2 })
  | .unjailValidator id => let r := L.vdb.unjailValidator id; some (.ok r.1, { L with vdb := r.2 })
  | .addDelegation id a => let r := L.vdb.addDelegation id a; some (.ok r.1, { L with vdb := r.2 })
  | .removeDelegation id a =>
      let r := L.vdb.removeDelegation id a; some (.ok r.1, { L with vdb := r.2 })
  | .validatorBlock h => some (.ok true, { L with vdb := L.vdb.processBlock h })
  | .processDelegation r o =>
      let res := DelegationDB.processDelegation c L.vdb L.ddb r o
      some (.ok res.1, ⟨res.2.2, res.2.1⟩)
  | .processUndelegation r =>
      let res := DelegationDB.processUndelegation L.vdb L.ddb r
      some (.ok res.1, ⟨res.2.2, res.2.1⟩)
  | .processRewardClaim r =>
      let res := L.ddb.processRewardClaim r; some (.amount res.1, { L with ddb := res.2 })
  | .addRewards id a => let r := L.ddb.addRewards id a; some (.ok r.1, { L with ddb := r.2 })
  | .distributeBlockReward v s =>
      (L.ddb.distributeBlockReward v s).map fun r => (.ok r.1, { L with ddb := r.2 })
  | .setDelegationStatus id s =>
      let r := L.ddb.setDelegationStatus id s; some (.ok r.1, { L with ddb := r.2 })
  | .updateDelegationOutpoint id o =>
      let r := L.ddb.updateDelegationOutpoint id o; some (.ok r.1, { L with ddb := r.2 })
  | .delegationBlock h => some (.ok true, { L with ddb := L.ddb.processBlock h })

/-- Run the operations in order, collecting the replies; `none` when one of them does not
return. -/
def run (L : Ledger) : List LedgerOp → Option (Ledger × List Reply)
  | [] => some (L, [])
  | op :: ops =>
      match step p c L op with
      | none => none
      | some (b, L') => (run L' ops).map fun r => (r.1, b :: r.2)

/-- The states reached from the empty databases by operations `ok` admits where they run,
each of which returns. -/
inductive Reachable (ok : Ledger → LedgerOp → Prop) : Ledger → Prop
  | empty : Reachable ok Ledger.empty
  | step {L : Ledger} {op : LedgerOp} {x : Reply × Ledger} :
      Reachable ok L → ok L op → x ∈ Ledger.step p c L op → Reachable ok x.2

/-- Every operation of a run is admitted by `ok` in the state where it runs. -/
def Admitted (ok : Ledger → LedgerOp → Prop) : Ledger → List LedgerOp → Prop
  | _, [] => True
  | L, op :: ops => ok L op ∧ ∀ x ∈ step p c L op, Admitted ok x.2 ops

instance Admitted.decidable {ok : Ledger → LedgerOp → Prop} [∀ L op, Decidable (ok L op)] :
    ∀ L ops, Decidable (Admitted p c ok L ops)
  | _, [] => isTrue trivial
  | L, op :: ops =>
      have : DecidablePred fun x : Reply × Ledger => Admitted p c ok x.2 ops :=
        fun _ => Admitted.decidable _ _
      inferInstanceAs (Decidable (ok L op ∧ ∀ x ∈ step p c L op, Admitted p c ok x.2 ops))

variable {p c}

/-- A run that returns is a first step that returns, then a run from where it leaves. -/
lemma run_cons_mem {L : Ledger} {op : LedgerOp} {ops : List LedgerOp} {y : Ledger × List Reply}
    (hy : y ∈ run p c L (op :: ops)) :
    ∃ x ∈ step p c L op, ∃ z ∈ run p c x.2 ops, y = (z.1, x.1 :: z.2) := by
  unfold run at hy
  split at hy
  · cases hy
  · obtain ⟨z, hz, rfl⟩ := Option.map_eq_some'.mp hy
    exact ⟨_, ‹_›, z, hz, rfl⟩

/-- An invariant that holds of the empty databases and is kept by every admitted step holds
in every reachable state. -/
lemma Reachable.induction {ok : Ledger → LedgerOp → Prop} {I : Ledger → Prop}
    (h₀ : I Ledger.empty) (hs : ∀ L op, I L → ok L op → ∀ x ∈ Ledger.step p c L op, I x.2)
    {L : Ledger} (hL : Reachable p c ok L) : I L := by
  induction hL with
  | empty => exact h₀
  | step _ hop hx ih => exact hs _ _ ih hop _ hx

/-- Admitting more operations reaches more states. -/
lemma Reachable.mono {ok ok' : Ledger → LedgerOp → Prop} (h : ∀ L op, ok L op → ok' L op)
    {L : Ledger} (hL : Reachable p c ok L) : Reachable p c ok' L := by
  induction hL with
  | empty => exact .empty
  | step _ hop hx ih => exact .step ih (h _ _ hop) hx

/-- A run of admitted operations from a reachable state ends in a reachable state. -/
lemma Reachable.run {ok : Ledger → LedgerOp → Prop} :
    ∀ {L : Ledger} (ops : List LedgerOp), Reachable p c ok L → Admitted p c ok L ops →
      ∀ y ∈ run p c L ops, Reachable p c ok y.1
  | _, [], hL, _, _, hy => by cases hy; exact hL
  | _, _ :: ops, hL, h, _, hy => by
      obtain ⟨x, hx, z, hz, rfl⟩ := run_cons_mem hy
      exact Reachable.run ops (.step hL h.1 hx) (h.2 x hx) z hz

/-! ### The registry seen from the whole system -/

/-- The registry after `ProcessDelegation` is the one before or the one `AddDelegation` writes. -/
lemma processDelegation_registry {P : ValidatorDB → Prop} (vdb : ValidatorDB) (db : DelegationDB)
    (r : DelegationRequest) (o : OutPoint) (hP : P (vdb.addDelegation r.validatorId r.amount).2)
    (hv : P vdb) : P (DelegationDB.processDelegation c vdb db r o).2.2 := by
  rcases DelegationDB.processDelegation_cases c vdb db r o with h | ⟨-, -, -, -, h⟩ <;> rw [h]
  · exact hv
  · exact hP

/-- A distribution returns only for a zero share, and then leaves the databases as they were. -/
lemma step_distributeBlockReward {L : Ledger} {V : KeyID} {S : Int} {x : Reply × Ledger}
    (hx : x ∈ step p c L (.distributeBlockReward V S)) : S = 0 ∧ x = (.ok true, L) := by
  obtain ⟨y, hy, rfl⟩ := Option.map_eq_some'.mp hx
  obtain ⟨hS, rfl⟩ := DelegationDB.distributeBlockReward_returns hy
  exact ⟨hS, rfl⟩

/-- The registry height moves only with `ValidatorDB::ProcessBlock`. -/
lemma step_currentHeight (L : Ledger) (op : LedgerOp) :
    ∀ x ∈ step p c L op, x.2.vdb.currentHeight =
      match op with
      | .validatorBlock h => h
      | _ => L.vdb.currentHeight := by
  cases op
  case distributeBlockReward V S =>
    intro x hx; obtain ⟨-, rfl⟩ := step_distributeBlockReward hx; rfl
  all_goals rintro _ ⟨⟩
  all_goals simp only [step, ValidatorDB.registerValidator_currentHeight,
    ValidatorDB.processUpdate_currentHeight, ValidatorDB.updateStakeOutpoint_currentHeight,
    ValidatorDB.setValidatorStatus_currentHeight, ValidatorDB.jailValidator_currentHeight,
    ValidatorDB.unjailValidator_currentHeight, ValidatorDB.addDelegation_currentHeight,
    ValidatorDB.removeDelegation_currentHeight]
  case validatorBlock => rfl
  case processDelegation r o =>
    exact processDelegation_registry (P := fun v => v.currentHeight = L.vdb.currentHeight) _ _ _ _
      (by simp) rfl
  case processUndelegation r =>
    exact DelegationDB.processUndelegation_registry (P := fun v => v.currentHeight = L.vdb.currentHeight)
      _ _ _ (fun v t hv => by simpa using hv) rfl

open ValidatorDB in
/-- No operation unregisters a validator. -/
lemma step_keeps (L : Ledger) (op : LedgerOp) : ∀ x ∈ step p c L op, L.vdb.Keeps x.2.vdb := by
  cases op with
  | registerValidator e => rintro _ ⟨⟩; exact registerValidator_keeps _ _
  | processUpdate u => rintro _ ⟨⟩; exact processUpdate_keeps _ _
  | updateStakeOutpoint id o => rintro _ ⟨⟩; exact updateStakeOutpoint_keeps _ _ _
  | setValidatorStatus id s => rintro _ ⟨⟩; exact keeps_of_rewrite (setValidatorStatus_rewrite _ id s)
  | jailValidator id b => rintro _ ⟨⟩; exact keeps_of_rewrite (jailValidator_rewrite _ id b)
  | unjailValidator id => rintro _ ⟨⟩; exact keeps_of_rewrite (unjailValidator_rewrite _ id)
  | addDelegation id a => rintro _ ⟨⟩; exact keeps_of_rewrite (addDelegation_rewrite _ id a)
  | removeDelegation id a => rintro _ ⟨⟩; exact keeps_of_rewrite (removeDelegation_rewrite _ id a)
  | validatorBlock h => rintro _ ⟨⟩; exact processBlock_keeps _ _
  | processDelegation r o =>
      rintro _ ⟨⟩
      exact processDelegation_registry (P := L.vdb.Keeps) _ _ _ _
        (keeps_of_rewrite (addDelegation_rewrite _ _ _)) fun _ h => h
  | processUndelegation r =>
      rintro _ ⟨⟩
      exact DelegationDB.processUndelegation_registry (P := L.vdb.Keeps) _ _ _
        (fun v t hv V hV => keeps_of_rewrite (removeDelegation_rewrite v _ t) V (hv V hV))
        fun _ h => h
  | distributeBlockReward V S =>
      intro x hx; obtain ⟨-, rfl⟩ := step_distributeBlockReward hx; exact fun _ h => h
  | processRewardClaim | addRewards | setDelegationStatus | updateDelegationOutpoint
  | delegationBlock => rintro _ ⟨⟩; exact fun _ h => h

end Ledger

end WattxCore
