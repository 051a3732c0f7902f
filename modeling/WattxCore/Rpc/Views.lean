import WattxCore.Rpc.Wallet
import WattxCore.Trust.Roster

/-!
The read-only RPCs over the validator core: `listvalidators`, `getvalidator`,
`getvalidatorstats`, `listdelegations` and `getpendingrewards` of `rpc/validators.cpp`, the
wallet's `getmydelegations` and `getmyvalidator`, and the registry reads they call,
`GetValidatorsByStake` and `GetValidatorsByMaxFee`. A result is the record of the values the
handler pushes; the JSON rendering and the hex parsing of ids (`ParseKeyID`) are left out. The
two wallet views return null without a wallet and check their databases are set, as the source
does; the node's views are taken from the point where `g_validator_db` (or `g_delegation_db`)
is known to be set, the check that throws `RPC_INTERNAL_ERROR` otherwise being left out.

* `listvalidators_active`: `listvalidators` lists the active validators and no other, with a
  fee at most `minFee` when that is non-negative, in fee order or stake order: `activeOnly =
  false` lists no inactive validator, though the help text promises all registered ones;
* `getvalidatorstats_books`: **on every admitted ledger the `totalDelegated` of
  `getvalidatorstats` is the bonded amount behind the active validators**, pending delegations
  included, and the tier counts never exceed the active validators;
* `getmydelegations_registered`: on every admitted ledger each row `getmydelegations` returns
  names a registered validator: the `""`/`0` fallback for an unknown one is dead;
* `getmyvalidator_after_fee`: **`setvalidatorpoolfee` and `getmyvalidator` agree on the
  wallet's validator**: after a successful fee change `getmyvalidator` reports the entry it
  reported before, with the new fee and every other field as it was.
-/

namespace WattxCore

namespace ValidatorDB

/-- `ValidatorDB::GetValidatorsByStake`: the active validators, largest total stake first.
`std::sort` is not stable; the stable `List.mergeSort` leaves one of the orders it may. -/
def getValidatorsByStake (db : ValidatorDB) : List ValidatorEntry :=
  db.getActiveValidators.mergeSort fun a b => decide (b.getTotalStake ≤ a.getTotalStake)

/-- `ValidatorDB::GetValidatorsByMaxFee`: the active validators with a fee at most
`maxFeeRate`, lowest fee first. -/
def getValidatorsByMaxFee (db : ValidatorDB) (maxFeeRate : Int) : List ValidatorEntry :=
  ((db.validators.entries.map Prod.snd).filter fun e =>
      e.status = .ACTIVE ∧ e.poolFeeRate ≤ maxFeeRate).mergeSort
    fun a b => decide (a.poolFeeRate ≤ b.poolFeeRate)

end ValidatorDB

/-! ### The handlers -/

/-- The object `listvalidators` prints for a validator, and `getmyvalidator` without the
trust fields. -/
structure ValidatorRow where
  validatorId : KeyID
  stake : Int
  delegated : Int
  totalStake : Int
  feeRate : Int
  name : String
  status : ValidatorStatus
  delegatorCount : Int32
  trustTier : Option TrustTier
  uptimePercent : Option Int32

/-- The object `getvalidator` prints. -/
structure ValidatorDetail where
  row : ValidatorRow
  registrationHeight : Int32
  rewardMultiplier : Option Int32

/-- The object `getvalidatorstats` prints. -/
structure ValidatorStats where
  totalValidators : Nat
  activeValidators : Nat
  totalStaked : Int
  totalDelegated : Int
  totalDelegations : Nat
  bronzeCount : Nat
  silverCount : Nat
  goldCount : Nat
  platinumCount : Nat

/-- The validators counted in a tier. -/
def ValidatorStats.tiered (s : ValidatorStats) : Nat :=
  s.bronzeCount + s.silverCount + s.goldCount + s.platinumCount

/-- The locals the loop of `getvalidatorstats` accumulates: the two sums and the four `int`
tier counters, which never exceed the number of validators. -/
structure Tally where
  totalStaked : Int
  totalDelegated : Int
  bronzeCount : Nat
  silverCount : Nat
  goldCount : Nat
  platinumCount : Nat

/-- The validators counted in a tier so far. -/
def Tally.tiered (t : Tally) : Nat := t.bronzeCount + t.silverCount + t.goldCount + t.platinumCount

/-- The object `listdelegations` prints for a delegation. -/
structure DelegationRow where
  delegationId : Digest
  delegatorId : KeyID
  validatorId : KeyID
  amount : Int
  status : DelegationStatus
  pendingRewards : Int

/-- The object `getmydelegations` prints for a delegation. -/
structure MyDelegationRow where
  delegationId : Digest
  validatorId : KeyID
  validatorName : String
  validatorFee : Int
  amount : Int
  pendingRewards : Int
  status : DelegationStatus

variable (p : Params)

/-- `trust::g_heartbeat_manager->GetTrustManager()->GetValidator(id)`, when the heartbeat
manager exists. -/
def trustRecord (tm : Option TrustScoreManager) (validatorId : KeyID) : Option ValidatorInfo :=
  tm.bind (·.getValidator validatorId)

/-- The row of validator `v`, with its trust tier and uptime when there is a trust record. -/
def validatorRow (tm : Option TrustScoreManager) (v : ValidatorEntry) : ValidatorRow where
  validatorId := v.validatorId
  stake := v.stakeAmount
  delegated := v.totalDelegated
  totalStake := v.getTotalStake
  feeRate := v.poolFeeRate
  name := v.validatorName
  status := v.status
  delegatorCount := v.delegatorCount
  trustTier := (trustRecord tm v.validatorId).map (·.getTrustTier p)
  uptimePercent := (trustRecord tm v.validatorId).map (·.getUptimePercentage)

/-- `listvalidators`: `minFee` (default `-1`) is a maximum fee; `activeOnly` (default `true`)
chooses between key order and stake order. -/
def listvalidators (vdb : ValidatorDB) (tm : Option TrustScoreManager) (minFee : Option Int)
    (activeOnly : Option Bool) : List ValidatorRow :=
  let maxFee := minFee.getD (-1)
  let validators :=
    if 0 ≤ maxFee then vdb.getValidatorsByMaxFee maxFee
    else if activeOnly.getD true then vdb.getActiveValidators
    else vdb.getValidatorsByStake
  validators.map (validatorRow p tm)

/-- `getvalidator`: the trust fields are looked up under the requested id. -/
def getvalidator (vdb : ValidatorDB) (tm : Option TrustScoreManager) (validatorId : KeyID) :
    Except RPCError ValidatorDetail := do
  let v ← orThrow (vdb.getValidator validatorId) .RPC_INVALID_ADDRESS_OR_KEY "Validator not found"
  let info := trustRecord tm validatorId
  pure
    { row := { validatorRow p none v with
        trustTier := info.map (·.getTrustTier p), uptimePercent := info.map (·.getUptimePercentage) }
      registrationHeight := v.registrationHeight
      rewardMultiplier := info.map (·.getRewardMultiplier p) }

/-- The loop body of `getvalidatorstats` on one active validator. -/
def tally (tm : Option TrustScoreManager) (t : Tally) (v : ValidatorEntry) : Tally :=
  let t := { t with
    totalStaked := t.totalStaked + v.stakeAmount
    totalDelegated := t.totalDelegated + v.totalDelegated }
  match (trustRecord tm v.validatorId).map (·.getTrustTier p) with
  | some TrustTier.BRONZE => { t with bronzeCount := t.bronzeCount + 1 }
  | some TrustTier.SILVER => { t with silverCount := t.silverCount + 1 }
  | some TrustTier.GOLD => { t with goldCount := t.goldCount + 1 }
  | some TrustTier.PLATINUM => { t with platinumCount := t.platinumCount + 1 }
  | _ => t

/-- `getvalidatorstats`: sums and tier counts over the active validators, and the count of
`ACTIVE` delegation records of every validator. -/
def getvalidatorstats (L : Ledger) (tm : Option TrustScoreManager) : ValidatorStats :=
  let t := L.vdb.getActiveValidators.foldl (tally p tm) ⟨0, 0, 0, 0, 0, 0⟩
  ⟨L.vdb.getValidatorCount, L.vdb.getActiveValidatorCount, t.totalStaked, t.totalDelegated,
    L.ddb.getActiveDelegationCount, t.bronzeCount, t.silverCount, t.goldCount, t.platinumCount⟩

/-- The row of delegation `d`. -/
def delegationRow (c : Crypto) (d : DelegationEntry) : DelegationRow :=
  ⟨d.getDelegationId c, d.delegatorId, d.validatorId, d.amount, d.status, d.pendingRewards⟩

/-- `listdelegations`: the query `type` (default `"delegator"`) is `"validator"` or anything
else, which counts as `"delegator"`. -/
def listdelegations (c : Crypto) (ddb : DelegationDB) (keyId : KeyID) (type : Option String) :
    List DelegationRow :=
  let delegations :=
    if type.getD "delegator" = "validator" then ddb.getDelegationsForValidator keyId
    else ddb.getDelegationsForDelegator keyId
  delegations.map (delegationRow c)

/-- `getpendingrewards`. -/
def getpendingrewards (ddb : DelegationDB) (delegatorId : KeyID) : Int :=
  ddb.getPendingRewardsForDelegator delegatorId

/-- The rows of `getmydelegations` for wallet `w`: the delegations of every address-book key,
each with its validator's name and fee, or `""` and `0` when the registry does not know the
validator. -/
def myDelegationRows (c : Crypto) (L : Ledger) (w : Wallet) : List MyDelegationRow :=
  w.addressBook.flatMap fun keyId => (L.ddb.getDelegationsForDelegator keyId).map fun d =>
    let v := L.vdb.getValidator d.validatorId
    ⟨d.getDelegationId c, d.validatorId, (v.map (·.validatorName)).getD "",
      (v.map (·.poolFeeRate)).getD 0, d.amount, d.pendingRewards, d.status⟩

/-- `getmydelegations`: null without a wallet (`if (!pwallet) return UniValue::VNULL;`), else,
once both databases are known to be set, the rows of the wallet. -/
def getmydelegations (c : Crypto) (g : DbGlobals) (L : Ledger) (pwallet : Option Wallet) :
    Except RPCError (Option (List MyDelegationRow)) :=
  pwallet.mapM fun w => do
    throwIf (g.delegationDb = false ∨ g.validatorDb = false) .RPC_INTERNAL_ERROR
      "Delegation database not initialized"
    pure (myDelegationRows c L w)

/-- The loop of `getmyvalidator`: the entry of the first address-book key the registry
knows. -/
def myValidator (vdb : ValidatorDB) (book : List KeyID) : Option ValidatorEntry :=
  book.findSome? vdb.getValidator

/-- `getmyvalidator`: null without a wallet, else, once the validator database is known to be
set, the row of the wallet's validator, without trust fields. -/
def getmyvalidator (g : DbGlobals) (vdb : ValidatorDB) (pwallet : Option Wallet) :
    Except RPCError (Option ValidatorRow) :=
  pwallet.mapM fun w => do
    throwIf (g.validatorDb = false) .RPC_INTERNAL_ERROR "Validator database not initialized"
    let v ← orThrow (myValidator vdb w.addressBook) .RPC_WALLET_ERROR
      "No validator registration found for this wallet"
    pure (validatorRow p none v)

/-! ### `listvalidators` -/

/-- The validators `listvalidators` is documented to list: the active ones, with a fee at
most `maxFee` when `maxFee` is non-negative. -/
def listable (vdb : ValidatorDB) (maxFee : Int) : List ValidatorEntry :=
  vdb.getActiveValidators.filter fun v => decide (maxFee < 0) || decide (v.poolFeeRate ≤ maxFee)

namespace ValidatorDB

lemma listable_of_neg (db : ValidatorDB) {maxFee : Int} (h : maxFee < 0) :
    listable db maxFee = db.getActiveValidators :=
  List.filter_eq_self.mpr fun _ _ => by simp [h]

/-- `GetValidatorsByMaxFee` sorts the listable validators by fee. -/
lemma getValidatorsByMaxFee_spec (db : ValidatorDB) {maxFee : Int} (h : 0 ≤ maxFee) :
    (db.getValidatorsByMaxFee maxFee).Perm (listable db maxFee) ∧
      (db.getValidatorsByMaxFee maxFee).Pairwise fun a b => a.poolFeeRate ≤ b.poolFeeRate := by
  refine ⟨(List.mergeSort_perm _ _).trans ?_, ?_⟩
  · rw [listable, getActiveValidators, List.filter_filter]
    exact .of_eq (List.filter_congr fun v _ => by
      simp only [Bool.and_eq_true, Bool.or_eq_true, decide_eq_true_eq, not_lt.mpr h, false_or]
      exact Bool.eq_iff_iff.mpr ⟨fun h => by simp_all, fun h => by simp_all⟩)
  · exact (List.sorted_mergeSort (fun a b c hab hbc => by simp_all; omega)
      (fun a b => by simp only [Bool.or_eq_true, decide_eq_true_eq]; omega) _).imp (by simp)

/-- `GetValidatorsByStake` sorts the active validators by total stake, largest first. -/
lemma getValidatorsByStake_spec (db : ValidatorDB) :
    db.getValidatorsByStake.Perm db.getActiveValidators ∧
      db.getValidatorsByStake.Pairwise fun a b => b.getTotalStake ≤ a.getTotalStake :=
  ⟨List.mergeSort_perm _ _, (List.sorted_mergeSort (fun a b c hab hbc => by simp_all; omega)
    (fun a b => by simp only [Bool.or_eq_true, decide_eq_true_eq]; omega) _).imp (by simp)⟩

end ValidatorDB

/-- **`listvalidators` lists the active validators and no other**, with a fee at most `minFee`
when that is non-negative, lowest fee first then, largest total stake first when `activeOnly`
is `false`. Whatever `activeOnly` says, no validator that is not `ACTIVE` is listed. -/
theorem listvalidators_active (vdb : ValidatorDB) (tm : Option TrustScoreManager)
    (minFee : Option Int) (activeOnly : Option Bool) :
    ∃ vs : List ValidatorEntry, vs.Perm (listable vdb (minFee.getD (-1))) ∧
      listvalidators p vdb tm minFee activeOnly = vs.map (validatorRow p tm) ∧
      (0 ≤ minFee.getD (-1) → vs.Pairwise fun a b => a.poolFeeRate ≤ b.poolFeeRate) ∧
      (minFee.getD (-1) < 0 → activeOnly = some false →
        vs.Pairwise fun a b => b.getTotalStake ≤ a.getTotalStake) := by
  unfold listvalidators
  dsimp only
  split_ifs with h₁ h₂
  · obtain ⟨hperm, hsorted⟩ := vdb.getValidatorsByMaxFee_spec h₁
    exact ⟨_, hperm, rfl, fun _ => hsorted, fun h => absurd h (not_lt.mpr h₁)⟩
  · have hneg := not_le.mp h₁
    refine ⟨_, by rw [vdb.listable_of_neg hneg], rfl, fun h => absurd h h₁, fun _ h => ?_⟩
    simp [h] at h₂
  · obtain ⟨hperm, hsorted⟩ := vdb.getValidatorsByStake_spec
    exact ⟨_, by rw [vdb.listable_of_neg (not_le.mp h₁)]; exact hperm, rfl, fun h => absurd h h₁,
      fun _ _ => hsorted⟩

/-! ### `getvalidatorstats` -/

/-- The bonded amount behind the active validators: the amount of every `PENDING` or
`ACTIVE` delegation whose validator is registered `ACTIVE`. -/
def activeBonded (L : Ledger) : Int :=
  L.ddb.delegations.sumBy fun _ e =>
    if e.status.IsBonded ∧ (L.vdb.getValidator e.validatorId).map (·.status) = some .ACTIVE then
      e.amount
    else 0

/-- One turn of the loop adds the validator's delegated total, and counts it in at most one
tier. -/
lemma tally_spec (tm : Option TrustScoreManager) (t : Tally) (v : ValidatorEntry) :
    (tally p tm t v).totalDelegated = t.totalDelegated + v.totalDelegated ∧
      (tally p tm t v).tiered ≤ t.tiered + 1 := by
  unfold tally
  split <;> dsimp only [Tally.tiered] <;> omega

lemma foldl_tally (tm : Option TrustScoreManager) (l : List ValidatorEntry) :
    ∀ t : Tally, (l.foldl (tally p tm) t).totalDelegated =
        t.totalDelegated + (l.map (·.totalDelegated)).sum ∧
      (l.foldl (tally p tm) t).tiered ≤ t.tiered + l.length := by
  induction l with
  | nil => simp
  | cons v l ih =>
      intro t
      obtain ⟨h₁, h₂⟩ := ih (tally p tm t v)
      obtain ⟨h₃, h₄⟩ := tally_spec p tm t v
      simp only [List.foldl_cons, List.map_cons, List.sum_cons, List.length_cons]
      omega

/-- Under the books, the delegated totals of the active validators add up to the bonded
amount behind them. -/
lemma sum_active_totalDelegated {vdb : ValidatorDB} {ds : StdMap Digest DelegationEntry}
    (hB : DelegationDB.Books vdb ds) :
    (vdb.getActiveValidators.map (·.totalDelegated)).sum =
      ds.sumBy fun _ e => if e.status.IsBonded ∧
        (vdb.getValidator e.validatorId).map (·.status) = some .ACTIVE then e.amount else 0 := by
  have hkey : ∀ e : DelegationEntry, (fun V (v : ValidatorEntry) => if v.status = .ACTIVE then
      (if e.validatorId = V ∧ e.status.IsBonded then e.amount else 0) else 0) =
      fun V v => if V = e.validatorId then
        (if e.status.IsBonded ∧ v.status = .ACTIVE then e.amount else 0) else 0 := fun e => by
    funext V v
    by_cases h₁ : V = e.validatorId
    · subst h₁
      by_cases h₂ : v.status = .ACTIVE <;> simp [h₂, and_comm]
    · simp [h₁, Ne.symm h₁]
  calc (vdb.getActiveValidators.map (·.totalDelegated)).sum
      = vdb.validators.sumBy fun _ v => if v.status = .ACTIVE then v.totalDelegated else 0 := by
        rw [ValidatorDB.getActiveValidators]
        simp [List.sum_map_ite, StdMap.sumBy, List.filter_map, Function.comp_def, nsmul_zero]
    _ = vdb.validators.sumBy fun V v => ds.sumBy fun _ e => if v.status = .ACTIVE then
          (if e.validatorId = V ∧ e.status.IsBonded then e.amount else 0) else 0 :=
        StdMap.sumBy_congr _ fun V v hv => by
          split_ifs
          · rw [hB.total V v hv, DelegationDB.bondedSum]
          · exact (StdMap.sumBy_zero ds).symm
    _ = ds.sumBy fun _ e => vdb.validators.sumBy fun V v => if v.status = .ACTIVE then
          (if e.validatorId = V ∧ e.status.IsBonded then e.amount else 0) else 0 :=
        StdMap.sumBy_comm _ _ _
    _ = _ := StdMap.sumBy_congr _ fun _ e _ => by
        rw [hkey, StdMap.sumBy_key]
        cases h : vdb.validators.find? e.validatorId <;> simp [ValidatorDB.getValidator, h]

variable {c : Crypto}

/-- **On every admitted ledger, the `totalDelegated` of `getvalidatorstats` is the bonded
amount behind the active validators**: `PENDING` delegations count, those to validators that
are not `ACTIVE` do not (while `totalDelegations` counts the `ACTIVE` records of every
validator). The tier counts never exceed the active validators, nor these all validators. -/
theorem getvalidatorstats_books {L : Ledger} (hL : Ledger.Reachable p c AggregateAdmissible L)
    (tm : Option TrustScoreManager) :
    (getvalidatorstats p L tm).totalDelegated = activeBonded L ∧
      (getvalidatorstats p L tm).tiered ≤ (getvalidatorstats p L tm).activeValidators ∧
      (getvalidatorstats p L tm).activeValidators ≤ (getvalidatorstats p L tm).totalValidators := by
  obtain ⟨h₁, h₂⟩ := foldl_tally p tm L.vdb.getActiveValidators ⟨0, 0, 0, 0, 0, 0⟩
  refine ⟨?_, ?_, ?_⟩
  · simp only [getvalidatorstats, h₁, zero_add]
    exact sum_active_totalDelegated (books_of_reachable hL)
  · rw [show (⟨0, 0, 0, 0, 0, 0⟩ : Tally).tiered = 0 from rfl, zero_add] at h₂
    exact h₂
  · exact (List.length_filter_le _ _).trans (List.length_map _ _).le

/-- Validator `1` is active with one `PENDING` delegation: its amount is in `totalDelegated`,
while `totalDelegations` is `0`. -/
theorem getvalidatorstats_books_pending :
    Ledger.Reachable Params.sample Crypto.toy AggregateAdmissible (ledgerAfter pendingDelegationRun) ∧
      (getvalidatorstats Params.sample (ledgerAfter pendingDelegationRun) none).totalDelegated =
        activeBonded (ledgerAfter pendingDelegationRun) ∧
      (getvalidatorstats Params.sample (ledgerAfter pendingDelegationRun) none).tiered ≤
        (getvalidatorstats Params.sample (ledgerAfter pendingDelegationRun) none).activeValidators ∧
      (getvalidatorstats Params.sample (ledgerAfter pendingDelegationRun) none).activeValidators ≤
        (getvalidatorstats Params.sample (ledgerAfter pendingDelegationRun) none).totalValidators :=
  have hL : Ledger.Reachable Params.sample Crypto.toy AggregateAdmissible
      (ledgerAfter pendingDelegationRun) := reachable_ledgerAfter (by decide) (by decide)
  ⟨hL, getvalidatorstats_books Params.sample hL none⟩

example : (getvalidatorstats Params.sample (ledgerAfter pendingDelegationRun) none).totalDelegated =
      MIN_DELEGATION_AMOUNT ∧
    (getvalidatorstats Params.sample (ledgerAfter pendingDelegationRun) none).totalDelegations = 0 := by
  decide

/-! ### The wallet's views -/

/-- A view with a wallet is its handler's result as an object. -/
@[simp] lemma mapM_some_except {ε α β : Type} (f : α → Except ε β) (a : α) :
    Option.mapM f (some a) = some <$> f a := rfl

/-- What `getmydelegations` returns with a wallet is the wallet's rows. -/
lemma getmydelegations_ok {g : DbGlobals} {L : Ledger} {pw : Option Wallet}
    {rows : List MyDelegationRow} (h : getmydelegations c g L pw = .ok (some rows)) :
    ∃ w, pw = some w ∧ rows = myDelegationRows c L w := by
  obtain _ | w := pw
  · cases h
  simp only [getmydelegations, mapM_some_except, map_eq_ok, bind_eq_ok, throwIf_eq_ok, except_pure,
    Except.ok.injEq, Option.some.injEq] at h
  obtain ⟨_, ⟨_, -, rfl⟩, rfl⟩ := h
  exact ⟨w, rfl, rfl⟩

/-- **Each row `getmydelegations` returns names a registered validator** on every admitted
ledger, with that validator's name and fee: the `""`/`0` fallback for an unknown validator is
dead. -/
theorem getmydelegations_registered {L : Ledger} (hL : Ledger.Reachable p c AggregateAdmissible L)
    (g : DbGlobals) (pw : Option Wallet) :
    ∀ rows, getmydelegations c g L pw = .ok (some rows) → ∀ row ∈ rows,
      ∃ v, L.vdb.getValidator row.validatorId = some v ∧
        row.validatorName = v.validatorName ∧ row.validatorFee = v.poolFeeRate := by
  intro rows hrows row hrow
  obtain ⟨w, -, rfl⟩ := getmydelegations_ok hrows
  obtain ⟨k, -, hk⟩ := List.mem_flatMap.mp hrow
  obtain ⟨d, hd, rfl⟩ := List.mem_map.mp hk
  obtain ⟨id, -, hid⟩ := List.mem_filterMap.mp hd
  obtain ⟨v, hv⟩ := Option.isSome_iff_exists.mp ((books_of_reachable hL).registered id d hid)
  exact ⟨v, hv, by simp [ValidatorDB.getValidator, hv], by simp [ValidatorDB.getValidator, hv]⟩

theorem getmydelegations_registered_pending :
    Ledger.Reachable Params.sample Crypto.toy AggregateAdmissible (ledgerAfter pendingDelegationRun) ∧
      ∀ rows, getmydelegations Crypto.toy DbGlobals.loaded (ledgerAfter pendingDelegationRun)
          (some (Wallet.sample 2)) = .ok (some rows) → ∀ row ∈ rows,
        ∃ v, (ledgerAfter pendingDelegationRun).vdb.getValidator row.validatorId = some v ∧
          row.validatorName = v.validatorName ∧ row.validatorFee = v.poolFeeRate :=
  have hL : Ledger.Reachable Params.sample Crypto.toy AggregateAdmissible
      (ledgerAfter pendingDelegationRun) := reachable_ledgerAfter (by decide) (by decide)
  ⟨hL, getmydelegations_registered Params.sample hL _ _⟩

lemma myValidator_of_firstValidator {vdb : ValidatorDB} {book : List KeyID} {k : KeyID} {f : Int}
    (h : firstValidator vdb book = some (k, f)) : myValidator vdb book = vdb.getValidator k := by
  induction book with
  | nil => cases h
  | cons a book ih =>
      simp only [firstValidator, myValidator, List.findSome?_cons] at h ⊢
      cases ha : vdb.getValidator a with
      | none => simp only [ha, Option.map_none'] at h ⊢; exact ih h
      | some v =>
          simp only [ha, Option.map_some', Option.some.injEq, Prod.mk.injEq] at h
          rw [← h.1, ha]

lemma myValidator_setEntry {vdb : ValidatorDB} {book : List KeyID} {k : KeyID} {f : Int}
    {v v' : ValidatorEntry} (h : firstValidator vdb book = some (k, f))
    (hv : vdb.getValidator k = some v) : myValidator (vdb.setEntry k v') book = some v' := by
  induction book with
  | nil => cases h
  | cons a book ih =>
      simp only [firstValidator, myValidator, List.findSome?_cons] at h ⊢
      cases ha : vdb.getValidator a with
      | none =>
          have hak : k ≠ a := by rintro rfl; rw [hv] at ha; cases ha
          simp only [ha, Option.map_none'] at h
          simp only [ValidatorDB.getValidator, ValidatorDB.setEntry_find?, if_neg hak] at ih ⊢
          rw [show vdb.validators.find? a = none from ha]
          exact ih h
      | some u =>
          simp only [ha, Option.map_some', Option.some.injEq, Prod.mk.injEq] at h
          simp [← h.1, ValidatorDB.getValidator]

variable {g : DbGlobals} {w : Wallet} {L : Ledger}

/-- **`setvalidatorpoolfee` and `getmyvalidator` agree on the wallet's validator.** A
`setvalidatorpoolfee` that returns an object found the wallet's first registered key and
reports that validator's previous fee; it rewrites exactly that fee in the registry; and
`getmyvalidator`, which reported that validator before, reports it afterwards with the new fee
and every other field as it was. -/
theorem getmyvalidator_after_fee {fee_rate : Int} {res : FeeResult}
    (h : (setvalidatorpoolfee p c g L (some w) fee_rate).1 = .ok (some res)) :
    firstValidator L.vdb w.addressBook = some (res.validatorId, res.oldFeeRate) ∧
      res.newFeeRate = fee_rate ∧ ∃ v, L.vdb.getValidator res.validatorId = some v ∧
        v.poolFeeRate = res.oldFeeRate ∧
        (setvalidatorpoolfee p c g L (some w) fee_rate).2 =
          ⟨L.vdb.setEntry res.validatorId { v with poolFeeRate := fee_rate }, L.ddb⟩ ∧
        getmyvalidator p g L.vdb (some w) = .ok (some (validatorRow p none v)) ∧
        getmyvalidator p g (setvalidatorpoolfee p c g L (some w) fee_rate).2.vdb (some w) =
          .ok (some (validatorRow p none { v with poolFeeRate := fee_rate })) := by
  obtain ⟨hdb, hfirst, hnew, v, hv, hold, hL⟩ := setvalidatorpoolfee_ok h
  refine ⟨hfirst, hnew, v, hv, hold, hL, ?_, ?_⟩
  · simp [getmyvalidator, hdb, throwIf, myValidator_of_firstValidator hfirst, hv, orThrow]
  · simp [hL, getmyvalidator, hdb, throwIf, myValidator_setEntry hfirst hv, orThrow]

/-- Validator `2` lowers its fee from the default to 500. -/
theorem getmyvalidator_after_fee_sample :
    ∃ res, (setvalidatorpoolfee Params.sample Crypto.toy DbGlobals.loaded registeredTwo
        (some (Wallet.sample 2)) 500).1 = .ok (some res) ∧
      firstValidator registeredTwo.vdb (Wallet.sample 2).addressBook =
        some (res.validatorId, res.oldFeeRate) ∧
      res.newFeeRate = 500 ∧ ∃ v, registeredTwo.vdb.getValidator res.validatorId = some v ∧
        v.poolFeeRate = res.oldFeeRate ∧
        (setvalidatorpoolfee Params.sample Crypto.toy DbGlobals.loaded registeredTwo
            (some (Wallet.sample 2)) 500).2 =
          ⟨registeredTwo.vdb.setEntry res.validatorId { v with poolFeeRate := 500 },
            registeredTwo.ddb⟩ ∧
        getmyvalidator Params.sample DbGlobals.loaded registeredTwo.vdb (some (Wallet.sample 2)) =
          .ok (some (validatorRow Params.sample none v)) ∧
        getmyvalidator Params.sample DbGlobals.loaded
            (setvalidatorpoolfee Params.sample Crypto.toy DbGlobals.loaded registeredTwo
              (some (Wallet.sample 2)) 500).2.vdb (some (Wallet.sample 2)) =
          .ok (some (validatorRow Params.sample none { v with poolFeeRate := 500 })) :=
  have h : (setvalidatorpoolfee Params.sample Crypto.toy DbGlobals.loaded registeredTwo
      (some (Wallet.sample 2)) 500).1 = .ok (some ⟨2, DEFAULT_POOL_FEE, 500⟩) := by rfl
  ⟨_, h, getmyvalidator_after_fee Params.sample h⟩

end WattxCore
