import WattxCore.Prelude.StdMap
import WattxCore.Prelude.Primitives

/-!
The validator registry, `validators/validatordb.{h,cpp}`.

* `ValidatorEntry` with its reward split (`CalculateValidatorReward`,
  `CalculateDelegatorsReward`) and eligibility test (`IsEligibleForStaking`);
* `ValidatorUpdate` and its signed digest `GetHash`;
* `ValidatorDB` and its operations, each returning the `bool` the source returns together
  with the new database: `RegisterValidator`, `ProcessUpdate`, `UpdateStakeOutpoint`,
  `SetValidatorStatus`, `JailValidator`, `UnjailValidator`, `AddDelegation`,
  `RemoveDelegation`, `ProcessBlock`, and the read views.

`Consensus::Params` and the cryptographic primitives enter as the section variables `p`
and `c`. Logging is dropped; the branch structure is kept line for line.
-/

namespace WattxCore

/-- `ValidatorStatus`. -/
inductive ValidatorStatus
  | PENDING
  | ACTIVE
  | INACTIVE
  | JAILED
  | UNBONDING
  deriving DecidableEq, Repr

/-- `ValidatorEntry`. -/
structure ValidatorEntry where
  validatorId : KeyID
  validatorPubKey : PubKey
  stakeAmount : Int
  poolFeeRate : Int
  registrationHeight : Int32
  lastActiveHeight : Int32
  status : ValidatorStatus
  validatorName : String
  stakeOutpoint : OutPoint
  jailReleaseHeight : Int32
  totalDelegated : Int
  delegatorCount : Int32
  deriving DecidableEq

/-- `MIN_POOL_FEE`. -/
def MIN_POOL_FEE : Int := 0
/-- `MAX_POOL_FEE`. -/
def MAX_POOL_FEE : Int := 10000
/-- `DEFAULT_POOL_FEE`. -/
def DEFAULT_POOL_FEE : Int := 1000
/-- `MAX_VALIDATOR_NAME`, in bytes. -/
def MAX_VALIDATOR_NAME : Nat := 64
/-- `DEFAULT_JAIL_BLOCKS`. -/
def DEFAULT_JAIL_BLOCKS : Int32 := 86400
/-- `UNBONDING_PERIOD`. -/
def UNBONDING_PERIOD : Int32 := 259200

namespace ValidatorEntry

variable (p : Params)

/-- The entries the `registervalidator` RPC passes to `RegisterValidator`: a
default-constructed entry in which only the id, key, stake, fee, registration height,
status `PENDING` and name are set. -/
structure FromRpc (e : ValidatorEntry) : Prop where
  status : e.status = .PENDING
  lastActiveHeight : e.lastActiveHeight = 0
  stakeOutpoint : e.stakeOutpoint = OutPoint.null
  jailReleaseHeight : e.jailReleaseHeight = 0
  totalDelegated : e.totalDelegated = 0
  delegatorCount : e.delegatorCount = 0

/-- `GetTotalStake`. -/
def getTotalStake (e : ValidatorEntry) : Int := e.stakeAmount + e.totalDelegated

/-- `MeetsMinimumStake`: the total stake, delegations included, reaches the minimum. -/
def meetsMinimumStake (e : ValidatorEntry) : Bool := e.getTotalStake ≥ p.nMinValidatorStake

/-- `IsEligibleForStaking`: active, above the minimum, and past the 2000-block maturity. -/
def isEligibleForStaking (e : ValidatorEntry) (currentHeight : Int32) : Bool :=
  if e.status ≠ .ACTIVE then false
  else if !e.meetsMinimumStake p then false
  else if currentHeight - e.registrationHeight < 2000 then false
  else true

/-- `CalculateValidatorReward`: the validator's stake share plus the pool fee on the
delegators' share, in `CAmount` arithmetic. -/
def calculateValidatorReward (e : ValidatorEntry) (blockReward : Int) : Int :=
  if e.totalDelegated = 0 then blockReward
  else
    let totalStake := e.getTotalStake
    if totalStake = 0 then 0
    else
      let validatorStakeShare := (wrapInt64 (blockReward * e.stakeAmount)).tdiv totalStake
      let delegatorsShare := wrapInt64 (blockReward - validatorStakeShare)
      let poolFee := (wrapInt64 (delegatorsShare * e.poolFeeRate)).tdiv 10000
      wrapInt64 (validatorStakeShare + poolFee)

/-- `CalculateDelegatorsReward`: the delegators' stake share less the pool fee, in `CAmount`
arithmetic. -/
def calculateDelegatorsReward (e : ValidatorEntry) (blockReward : Int) : Int :=
  if e.totalDelegated = 0 then 0
  else
    let totalStake := e.getTotalStake
    if totalStake = 0 then 0
    else
      let delegatorsShare := (wrapInt64 (blockReward * e.totalDelegated)).tdiv totalStake
      let poolFee := (wrapInt64 (delegatorsShare * e.poolFeeRate)).tdiv 10000
      wrapInt64 (delegatorsShare - poolFee)

end ValidatorEntry

/-- `ValidatorUpdateType`. The byte read from the wire may hold a value no case names;
`other` keeps it, and `ProcessUpdate`'s `switch` has no arm for it. -/
inductive ValidatorUpdateType
  | UPDATE_FEE
  | UPDATE_NAME
  | DEACTIVATE
  | REACTIVATE
  | INCREASE_STAKE
  | DECREASE_STAKE
  | other (code : Nat)
  deriving DecidableEq, Repr

/-- The `uint8_t` value of an update type. -/
def ValidatorUpdateType.code : ValidatorUpdateType → Nat
  | .UPDATE_FEE => 1
  | .UPDATE_NAME => 2
  | .DEACTIVATE => 3
  | .REACTIVATE => 4
  | .INCREASE_STAKE => 5
  | .DECREASE_STAKE => 6
  | .other n => n

/-- `ValidatorUpdate`. -/
structure ValidatorUpdate where
  validatorId : KeyID
  updateType : ValidatorUpdateType
  newValue : Int
  newName : String
  updateHeight : Int32
  signature : Sig
  deriving DecidableEq

namespace ValidatorUpdate

variable (c : Crypto)

/-- `ValidatorUpdate::GetHash`. -/
def getHash (u : ValidatorUpdate) : Digest :=
  c.hash [.key u.validatorId, .u8 u.updateType.code, .i64 u.newValue, .str u.newName,
    .i32 u.updateHeight.val]

/-- `ValidatorUpdate::Verify`. -/
def verify (u : ValidatorUpdate) (pubkey : PubKey) : Bool :=
  c.verify pubkey (u.getHash c) u.signature

end ValidatorUpdate

/-- `ValidatorDB`: the registry, its current height and the stake-outpoint index. -/
structure ValidatorDB where
  validators : StdMap KeyID ValidatorEntry
  currentHeight : Int32
  outpointIndex : StdMap OutPoint KeyID

namespace ValidatorDB

/-- The database `ValidatorDB(params)` constructs. -/
def empty : ValidatorDB := ⟨StdMap.empty, 0, StdMap.empty⟩

variable (p : Params) (c : Crypto)

/-- `if (!o.isNull()) index[o] = v;` -/
def indexOutpoint {V : Type} (index : StdMap OutPoint V) (o : OutPoint) (v : V) : StdMap OutPoint V :=
  if o.isNull then index else index.insert o v

/-- `if (!o.isNull()) index.erase(o);` -/
def unindexOutpoint {V : Type} (index : StdMap OutPoint V) (o : OutPoint) : StdMap OutPoint V :=
  if o.isNull then index else index.erase o

/-- Store an entry back under its key: the in-place update `it->second.f = x`. -/
def setEntry (db : ValidatorDB) (id : KeyID) (e : ValidatorEntry) : ValidatorDB :=
  { db with validators := db.validators.insert id e }

/-! ### Registration and signed updates -/

/-- `ValidatorDB::RegisterValidator`. -/
def registerValidator (db : ValidatorDB) (entry : ValidatorEntry) : Bool × ValidatorDB :=
  if (db.validators.find? entry.validatorId).isSome then (false, db)
  else if entry.poolFeeRate < MIN_POOL_FEE ∨ entry.poolFeeRate > MAX_POOL_FEE then (false, db)
  else if entry.stakeAmount < p.nMinValidatorStake then (false, db)
  else if entry.validatorName.utf8ByteSize > MAX_VALIDATOR_NAME then (false, db)
  else
    (true, { db with
      validators := db.validators.insert entry.validatorId entry
      outpointIndex := indexOutpoint db.outpointIndex entry.stakeOutpoint entry.validatorId })

/-- The `switch` of `ValidatorDB::ProcessUpdate` on a found, authenticated entry: the new
entry, or `none` where the source returns `false`. -/
def applyUpdate (db : ValidatorDB) (e : ValidatorEntry) (u : ValidatorUpdate) :
    Option ValidatorEntry :=
  match u.updateType with
  | .UPDATE_FEE =>
      if u.newValue < MIN_POOL_FEE ∨ u.newValue > MAX_POOL_FEE then none
      else some { e with poolFeeRate := u.newValue }
  | .UPDATE_NAME =>
      if u.newName.utf8ByteSize > MAX_VALIDATOR_NAME then none
      else some { e with validatorName := u.newName }
  | .DEACTIVATE => some { e with status := .UNBONDING }
  | .REACTIVATE =>
      if e.status = .JAILED ∧ db.currentHeight < e.jailReleaseHeight then none
      else if e.status = .INACTIVE ∨ e.status = .JAILED then some { e with status := .ACTIVE }
      else some e
  | .INCREASE_STAKE => some { e with stakeAmount := e.stakeAmount + u.newValue }
  | .DECREASE_STAKE =>
      if u.newValue > e.stakeAmount then none
      else if e.stakeAmount - u.newValue < p.nMinValidatorStake then none
      else some { e with stakeAmount := e.stakeAmount - u.newValue }
  | .other _ => some e

/-- `ValidatorDB::ProcessUpdate`: look the validator up, verify the signature against its
stored key, then apply the update. -/
def processUpdate (db : ValidatorDB) (u : ValidatorUpdate) : Bool × ValidatorDB :=
  match db.validators.find? u.validatorId with
  | none => (false, db)
  | some e =>
      if !u.verify c e.validatorPubKey then (false, db)
      else
        match applyUpdate p db e u with
        | none => (false, db)
        | some e' => (true, db.setEntry u.validatorId e')

/-- `ValidatorDB::UpdateStakeOutpoint`. -/
def updateStakeOutpoint (db : ValidatorDB) (validatorId : KeyID) (newOutpoint : OutPoint) :
    Bool × ValidatorDB :=
  match db.validators.find? validatorId with
  | none => (false, db)
  | some e =>
      (true, { db with
        validators := db.validators.insert validatorId { e with stakeOutpoint := newOutpoint }
        outpointIndex := indexOutpoint (unindexOutpoint db.outpointIndex e.stakeOutpoint)
          newOutpoint validatorId })

/-! ### Status changes -/

/-- `ValidatorDB::SetValidatorStatus`. -/
def setValidatorStatus (db : ValidatorDB) (validatorId : KeyID) (status : ValidatorStatus) :
    Bool × ValidatorDB :=
  match db.validators.find? validatorId with
  | none => (false, db)
  | some e =>
      (true, db.setEntry validatorId
        { e with
          status := status
          lastActiveHeight := if status = .ACTIVE then db.currentHeight else e.lastActiveHeight })

/-- `ValidatorDB::JailValidator`: the release height is an `int` sum and wraps. -/
def jailValidator (db : ValidatorDB) (validatorId : KeyID) (jailBlocks : Int32) :
    Bool × ValidatorDB :=
  match db.validators.find? validatorId with
  | none => (false, db)
  | some e =>
      (true, db.setEntry validatorId
        { e with status := .JAILED, jailReleaseHeight := db.currentHeight + jailBlocks })

/-- `ValidatorDB::UnjailValidator`. -/
def unjailValidator (db : ValidatorDB) (validatorId : KeyID) : Bool × ValidatorDB :=
  match db.validators.find? validatorId with
  | none => (false, db)
  | some e =>
      if e.status ≠ .JAILED then (false, db)
      else if db.currentHeight < e.jailReleaseHeight then (false, db)
      else (true, db.setEntry validatorId { e with status := .ACTIVE, jailReleaseHeight := 0 })

/-! ### Delegation aggregates and blocks -/

/-- `ValidatorDB::AddDelegation`. -/
def addDelegation (db : ValidatorDB) (validatorId : KeyID) (amount : Int) :
    Bool × ValidatorDB :=
  match db.validators.find? validatorId with
  | none => (false, db)
  | some e =>
      (true, db.setEntry validatorId
        { e with
          totalDelegated := e.totalDelegated + amount
          delegatorCount := e.delegatorCount + 1 })

/-- `ValidatorDB::RemoveDelegation`. -/
def removeDelegation (db : ValidatorDB) (validatorId : KeyID) (amount : Int) :
    Bool × ValidatorDB :=
  match db.validators.find? validatorId with
  | none => (false, db)
  | some e =>
      if amount > e.totalDelegated then (false, db)
      else
        (true, db.setEntry validatorId
          { e with
            totalDelegated := e.totalDelegated - amount
            delegatorCount := if e.delegatorCount > 0 then e.delegatorCount - 1
              else e.delegatorCount })

/-- The per-entry step of `ValidatorDB::ProcessBlock`: an unbonding validator whose
unbonding period, counted from `lastActiveHeight`, has run out becomes inactive. -/
def unbondStep (height : Int32) (e : ValidatorEntry) : ValidatorEntry :=
  if e.status = .UNBONDING ∧ height - e.lastActiveHeight ≥ UNBONDING_PERIOD then
    { e with status := .INACTIVE }
  else e

/-- `unbondStep` rewrites the status and nothing else. -/
lemma unbondStep_eq (height : Int32) (e : ValidatorEntry) :
    unbondStep height e = { e with
      status := if e.status = .UNBONDING ∧ height - e.lastActiveHeight ≥ UNBONDING_PERIOD then
        .INACTIVE else e.status } := by
  unfold unbondStep; split_ifs <;> rfl

/-- `ValidatorDB::ProcessBlock`: the jail branch of the loop only logs. -/
def processBlock (db : ValidatorDB) (height : Int32) : ValidatorDB :=
  { db with currentHeight := height, validators := db.validators.mapVals fun _ => unbondStep height }

/-! ### Lookups after each operation

Every operation other than `RegisterValidator` and `ProcessBlock` either fails and returns
the database unchanged, or stores one rewritten entry back under its key (`setEntry`). The
lemmas below say, per operation, which rewrites are possible; an invariant of the registry
is then kept as soon as it is kept by those rewrites. -/

/-- A property of every registered validator. -/
def AllEntries (Q : KeyID → ValidatorEntry → Prop) (db : ValidatorDB) : Prop :=
  ∀ V e, db.validators.find? V = some e → Q V e

variable {p c}
variable {Q : KeyID → ValidatorEntry → Prop} {db : ValidatorDB}

@[simp] lemma setEntry_find? (db : ValidatorDB) (id V : KeyID) (e : ValidatorEntry) :
    (db.setEntry id e).validators.find? V = if id = V then some e else db.validators.find? V :=
  StdMap.find?_insert_eq _ _ _ _

@[simp] lemma setEntry_currentHeight (db : ValidatorDB) (id : KeyID) (e : ValidatorEntry) :
    (db.setEntry id e).currentHeight = db.currentHeight := rfl

@[simp] lemma setEntry_outpointIndex (db : ValidatorDB) (id : KeyID) (e : ValidatorEntry) :
    (db.setEntry id e).outpointIndex = db.outpointIndex := rfl

@[simp] lemma setEntry_setEntry (db : ValidatorDB) (id : KeyID) (e e' : ValidatorEntry) :
    (db.setEntry id e).setEntry id e' = db.setEntry id e' := by
  simp only [setEntry, ValidatorDB.mk.injEq, and_true]
  exact StdMap.ext_find? fun k => by simp only [StdMap.find?_insert_eq]; split_ifs <;> rfl

/-- Writing back the entry already stored changes nothing. -/
lemma setEntry_self {id : KeyID} {e : ValidatorEntry} (h : db.validators.find? id = some e) :
    db.setEntry id e = db := by
  cases db
  simp only [setEntry, ValidatorDB.mk.injEq, and_true]
  exact StdMap.ext_find? fun k => by
    simp only [StdMap.find?_insert_eq]; split_ifs with hk <;> [exact hk ▸ h.symm; rfl]

lemma AllEntries.setEntry {id : KeyID} {e : ValidatorEntry} (h : AllEntries Q db) (he : Q id e) :
    AllEntries Q (db.setEntry id e) := by
  intro V e' hV
  rw [setEntry_find?] at hV
  split_ifs at hV with hid
  · cases hV; exact hid ▸ he
  · exact h V e' hV

lemma registerValidator_validators (db : ValidatorDB) (entry : ValidatorEntry) :
    (db.registerValidator p entry).2.validators = db.validators ∨
      (db.validators.find? entry.validatorId = none ∧ p.nMinValidatorStake ≤ entry.stakeAmount ∧
        (db.registerValidator p entry).2.validators =
          db.validators.insert entry.validatorId entry) := by
  unfold registerValidator
  split_ifs with h₁ h₂ h₃ <;> simp_all

/-- **Inversion of `RegisterValidator`**: it fails and changes nothing, or the id was free and
the entry and its outpoint were stored. -/
lemma registerValidator_cases (db : ValidatorDB) (entry : ValidatorEntry) :
    (db.registerValidator p entry).2 = db ∨
      (db.validators.find? entry.validatorId = none ∧
        (db.registerValidator p entry).2 = { db with
          validators := db.validators.insert entry.validatorId entry
          outpointIndex := indexOutpoint db.outpointIndex entry.stakeOutpoint entry.validatorId }) := by
  unfold registerValidator
  split_ifs with h₁ <;> simp_all

lemma AllEntries_registerValidator {entry : ValidatorEntry} (h : AllEntries Q db)
    (he : db.validators.find? entry.validatorId = none → p.nMinValidatorStake ≤ entry.stakeAmount →
      Q entry.validatorId entry) :
    AllEntries Q (db.registerValidator p entry).2 := by
  intro V e hV
  rcases registerValidator_validators db entry with hv | ⟨hnone, hstake, hv⟩
  · rw [hv] at hV; exact h V e hV
  · rw [hv, StdMap.find?_insert_eq] at hV
    split_ifs at hV with hid
    · cases hV; exact hid ▸ he hnone hstake
    · exact h V e hV

lemma AllEntries_processUpdate {u : ValidatorUpdate} (h : AllEntries Q db)
    (hu : ∀ e e', db.validators.find? u.validatorId = some e → applyUpdate p db e u = some e' →
      Q u.validatorId e') :
    AllEntries Q (db.processUpdate p c u).2 := by
  unfold processUpdate
  split
  · exact h
  · rename_i e he
    split_ifs
    · exact h
    · split
      · exact h
      · rename_i e' he'
        exact h.setEntry (hu e e' he he')

lemma processUpdate_rewrite (db : ValidatorDB) (u : ValidatorUpdate) :
    (db.processUpdate p c u).2 = db ∨ ∃ e e', db.validators.find? u.validatorId = some e ∧
      applyUpdate p db e u = some e' ∧ (db.processUpdate p c u).2 = db.setEntry u.validatorId e' := by
  unfold processUpdate
  split
  · exact .inl rfl
  · split_ifs
    · exact .inl rfl
    · split
      · exact .inl rfl
      · exact .inr ⟨_, _, ‹_›, ‹_›, rfl⟩

/-- No signed update moves the stake outpoint. -/
lemma applyUpdate_stakeOutpoint {e e' : ValidatorEntry} {u : ValidatorUpdate}
    (h : applyUpdate p db e u = some e') : e'.stakeOutpoint = e.stakeOutpoint := by
  unfold applyUpdate at h
  split at h <;> (try split_ifs at h) <;> (cases h; rfl)

/-- **Inversion of `UpdateStakeOutpoint`**: it fails and changes nothing, or it moves the found
entry, and its index entry, to the new outpoint. -/
lemma updateStakeOutpoint_cases (db : ValidatorDB) (id : KeyID) (o : OutPoint) :
    (db.updateStakeOutpoint id o).2 = db ∨ ∃ e, db.validators.find? id = some e ∧
      (db.updateStakeOutpoint id o).2 = { db with
        validators := db.validators.insert id { e with stakeOutpoint := o }
        outpointIndex := indexOutpoint (unindexOutpoint db.outpointIndex e.stakeOutpoint) o id } := by
  unfold updateStakeOutpoint; split <;> simp_all

/-- The shape shared by the single-entry operations: fail unchanged, or rewrite the found
entry with `f`. -/
lemma AllEntries_of_rewrite {id : KeyID} {f : ValidatorEntry → ValidatorEntry}
    {r : Bool × ValidatorDB} (h : AllEntries Q db)
    (hr : r.2 = db ∨ ∃ e, db.validators.find? id = some e ∧ r.2 = db.setEntry id (f e))
    (hf : ∀ e, db.validators.find? id = some e → Q id (f e)) : AllEntries Q r.2 := by
  rcases hr with hr | ⟨e, he, hr⟩
  · rw [hr]; exact h
  · rw [hr]; exact h.setEntry (hf e he)

lemma setValidatorStatus_rewrite (db : ValidatorDB) (id : KeyID) (s : ValidatorStatus) :
    (db.setValidatorStatus id s).2 = db ∨ ∃ e, db.validators.find? id = some e ∧
      (db.setValidatorStatus id s).2 = db.setEntry id { e with
        status := s
        lastActiveHeight := if s = .ACTIVE then db.currentHeight else e.lastActiveHeight } := by
  unfold setValidatorStatus; split <;> simp_all

lemma jailValidator_rewrite (db : ValidatorDB) (id : KeyID) (b : Int32) :
    (db.jailValidator id b).2 = db ∨ ∃ e, db.validators.find? id = some e ∧
      (db.jailValidator id b).2 = db.setEntry id
        { e with status := .JAILED, jailReleaseHeight := db.currentHeight + b } := by
  unfold jailValidator; split <;> simp_all

lemma unjailValidator_rewrite (db : ValidatorDB) (id : KeyID) :
    (db.unjailValidator id).2 = db ∨ ∃ e, db.validators.find? id = some e ∧
      (db.unjailValidator id).2 = db.setEntry id
        { e with status := .ACTIVE, jailReleaseHeight := 0 } := by
  unfold unjailValidator; split
  · simp
  · split_ifs <;> simp_all

lemma addDelegation_rewrite (db : ValidatorDB) (id : KeyID) (a : Int) :
    (db.addDelegation id a).2 = db ∨ ∃ e, db.validators.find? id = some e ∧
      (db.addDelegation id a).2 = db.setEntry id
        { e with totalDelegated := e.totalDelegated + a, delegatorCount := e.delegatorCount + 1 } := by
  unfold addDelegation; split <;> simp_all

lemma removeDelegation_rewrite (db : ValidatorDB) (id : KeyID) (a : Int) :
    (db.removeDelegation id a).2 = db ∨ ∃ e, db.validators.find? id = some e ∧
      (db.removeDelegation id a).2 = db.setEntry id
        { e with
          totalDelegated := e.totalDelegated - a
          delegatorCount := if e.delegatorCount > 0 then e.delegatorCount - 1
            else e.delegatorCount } := by
  unfold removeDelegation; split
  · simp
  · split_ifs <;> simp_all

/-- `UpdateStakeOutpoint` rewrites the outpoint only; its index update is left to the
outpoint-index lemmas. -/
lemma updateStakeOutpoint_validators (db : ValidatorDB) (id : KeyID) (o : OutPoint) :
    (db.updateStakeOutpoint id o).2.validators = db.validators ∨ ∃ e,
      db.validators.find? id = some e ∧
      (db.updateStakeOutpoint id o).2.validators = db.validators.insert id { e with stakeOutpoint := o } := by
  unfold updateStakeOutpoint; split <;> simp_all

lemma AllEntries_updateStakeOutpoint {id : KeyID} {o : OutPoint} (h : AllEntries Q db)
    (hf : ∀ e, db.validators.find? id = some e → Q id { e with stakeOutpoint := o }) :
    AllEntries Q (db.updateStakeOutpoint id o).2 := by
  intro V e' hV
  rcases updateStakeOutpoint_validators db id o with hv | ⟨e, he, hv⟩
  · rw [hv] at hV; exact h V e' hV
  · rw [hv, StdMap.find?_insert_eq] at hV
    split_ifs at hV with hid
    · cases hV; exact hid ▸ hf e he
    · exact h V e' hV

lemma AllEntries_processBlock {h : Int32} (hQ : AllEntries Q db)
    (hf : ∀ V e, Q V e → Q V (unbondStep h e)) : AllEntries Q (db.processBlock h) := by
  intro V e hV
  simp only [processBlock, StdMap.find?_mapVals, Option.map_eq_some'] at hV
  obtain ⟨e₀, he₀, rfl⟩ := hV
  exact hf V e₀ (hQ V e₀ he₀)

/-- No operation unregisters a validator. -/
lemma isSome_of_rewrite {id V : KeyID} {f : ValidatorEntry → ValidatorEntry} {r : Bool × ValidatorDB}
    (hr : r.2 = db ∨ ∃ e, db.validators.find? id = some e ∧ r.2 = db.setEntry id (f e))
    (hV : (db.validators.find? V).isSome) : (r.2.validators.find? V).isSome := by
  rcases hr with hr | ⟨e, -, hr⟩
  · rwa [hr]
  · rw [hr, setEntry_find?]; split_ifs <;> simp_all

/-- `db'` still registers every validator `db` registers. -/
def Keeps (db db' : ValidatorDB) : Prop :=
  ∀ V, (db.validators.find? V).isSome → (db'.validators.find? V).isSome

lemma keeps_of_rewrite {id : KeyID} {f : ValidatorEntry → ValidatorEntry} {r : Bool × ValidatorDB}
    (hr : r.2 = db ∨ ∃ e, db.validators.find? id = some e ∧ r.2 = db.setEntry id (f e)) :
    Keeps db r.2 :=
  fun _ hV => isSome_of_rewrite hr hV

lemma registerValidator_keeps (db : ValidatorDB) (entry : ValidatorEntry) :
    Keeps db (db.registerValidator p entry).2 := by
  intro V hV
  rcases registerValidator_validators db entry with hv | ⟨-, -, hv⟩ <;> rw [hv]
  · exact hV
  · rw [StdMap.find?_insert_eq]; split_ifs <;> simp_all

lemma processUpdate_keeps (db : ValidatorDB) (u : ValidatorUpdate) :
    Keeps db (db.processUpdate p c u).2 := by
  intro V hV
  unfold processUpdate
  split
  · exact hV
  · split_ifs
    · exact hV
    · split
      · exact hV
      · rw [setEntry_find?]; split_ifs <;> simp_all

lemma updateStakeOutpoint_keeps (db : ValidatorDB) (id : KeyID) (o : OutPoint) :
    Keeps db (db.updateStakeOutpoint id o).2 := by
  intro V hV
  rcases updateStakeOutpoint_validators db id o with hv | ⟨e, -, hv⟩ <;> rw [hv]
  · exact hV
  · rw [StdMap.find?_insert_eq]; split_ifs <;> simp_all

lemma processBlock_keeps (db : ValidatorDB) (h : Int32) : Keeps db (db.processBlock h) := by
  intro V hV
  simpa [processBlock] using hV

/-- `AddDelegation` on a registered validator. -/
lemma addDelegation_of_find? {id : KeyID} {v : ValidatorEntry} (hv : db.validators.find? id = some v)
    (a : Int) :
    db.addDelegation id a = (true, db.setEntry id
      { v with totalDelegated := v.totalDelegated + a, delegatorCount := v.delegatorCount + 1 }) := by
  simp [addDelegation, hv]

/-- `RemoveDelegation` of at most the validator's delegated total. -/
lemma removeDelegation_of_le {id : KeyID} {v : ValidatorEntry} {a : Int}
    (hv : db.validators.find? id = some v) (ha : a ≤ v.totalDelegated) :
    db.removeDelegation id a = (true, db.setEntry id
      { v with
        totalDelegated := v.totalDelegated - a
        delegatorCount := if v.delegatorCount > 0 then v.delegatorCount - 1
          else v.delegatorCount }) := by
  simp [removeDelegation, hv, not_lt.mpr ha]

lemma currentHeight_of_rewrite {id : KeyID} {f : ValidatorEntry → ValidatorEntry}
    {r : Bool × ValidatorDB}
    (hr : r.2 = db ∨ ∃ e, db.validators.find? id = some e ∧ r.2 = db.setEntry id (f e)) :
    r.2.currentHeight = db.currentHeight := by
  rcases hr with hr | ⟨e, -, hr⟩ <;> rw [hr]; rfl

@[simp] lemma registerValidator_currentHeight (db : ValidatorDB) (entry : ValidatorEntry) :
    (db.registerValidator p entry).2.currentHeight = db.currentHeight := by
  unfold registerValidator; split_ifs <;> rfl

@[simp] lemma processUpdate_currentHeight (db : ValidatorDB) (u : ValidatorUpdate) :
    (db.processUpdate p c u).2.currentHeight = db.currentHeight := by
  unfold processUpdate; split
  · rfl
  · split_ifs
    · rfl
    · split <;> rfl

@[simp] lemma updateStakeOutpoint_currentHeight (db : ValidatorDB) (id : KeyID) (o : OutPoint) :
    (db.updateStakeOutpoint id o).2.currentHeight = db.currentHeight := by
  unfold updateStakeOutpoint; split <;> rfl

@[simp] lemma setValidatorStatus_currentHeight (db : ValidatorDB) (id : KeyID) (s : ValidatorStatus) :
    (db.setValidatorStatus id s).2.currentHeight = db.currentHeight :=
  currentHeight_of_rewrite (setValidatorStatus_rewrite db id s)

@[simp] lemma jailValidator_currentHeight (db : ValidatorDB) (id : KeyID) (b : Int32) :
    (db.jailValidator id b).2.currentHeight = db.currentHeight :=
  currentHeight_of_rewrite (jailValidator_rewrite db id b)

@[simp] lemma unjailValidator_currentHeight (db : ValidatorDB) (id : KeyID) :
    (db.unjailValidator id).2.currentHeight = db.currentHeight :=
  currentHeight_of_rewrite (unjailValidator_rewrite db id)

@[simp] lemma addDelegation_currentHeight (db : ValidatorDB) (id : KeyID) (a : Int) :
    (db.addDelegation id a).2.currentHeight = db.currentHeight :=
  currentHeight_of_rewrite (addDelegation_rewrite db id a)

@[simp] lemma removeDelegation_currentHeight (db : ValidatorDB) (id : KeyID) (a : Int) :
    (db.removeDelegation id a).2.currentHeight = db.currentHeight :=
  currentHeight_of_rewrite (removeDelegation_rewrite db id a)

/-! ### Read views -/

/-- `ValidatorDB::GetValidator`. -/
def getValidator (db : ValidatorDB) (validatorId : KeyID) : Option ValidatorEntry :=
  db.validators.find? validatorId

/-- `ValidatorDB::GetValidatorByOutpoint`. -/
def getValidatorByOutpoint (db : ValidatorDB) (outpoint : OutPoint) : Option ValidatorEntry :=
  match db.outpointIndex.find? outpoint with
  | none => none
  | some id => db.validators.find? id

/-- `ValidatorDB::IsValidatorStake`. -/
def isValidatorStake (db : ValidatorDB) (outpoint : OutPoint) : Bool :=
  (db.outpointIndex.find? outpoint).isSome

/-- `ValidatorDB::GetActiveValidators`, in key order. -/
def getActiveValidators (db : ValidatorDB) : List ValidatorEntry :=
  (db.validators.entries.map Prod.snd).filter (·.status = .ACTIVE)

/-- `ValidatorDB::GetValidatorCount`. -/
def getValidatorCount (db : ValidatorDB) : Nat := db.validators.size

/-- `ValidatorDB::GetActiveValidatorCount`. -/
def getActiveValidatorCount (db : ValidatorDB) : Nat := (getActiveValidators db).length

end ValidatorDB

end WattxCore
