import WattxCore.Trust.HeartbeatManager
import Mathlib.Data.List.Basic

/-!
The rest of the trust scorer's public interface (`trustscore.cpp`): the record writers the
heartbeat manager never calls (`UpdateStake`, `UpdatePoolFee`, `DeactivateValidator`,
`RecordMissedCheckIns`), the roster reads (`IsValidatorEligible`, `GetActiveValidators`,
`GetValidatorsByTier`, the address lists and lookups), and the trust manager as a state
machine over all of its public writers.

* `rewriteRecord`: the shape the three record writers share (find the record, check, store
  its rewrite), with `rewriteRecord_cases`;
* `Evolves`: what any writer may do to a record it finds; `Grows`: what one call does to the
  records, `apply_grows` for every call;
* `RosterOp`, `apply`, `run`, `Reachable`: every public writer, in any order;
* `roster_laws`: **in every reachable state each record is filed under its own id, its pool
  fee lies in `[0, 10000]`, and an active record holds the minimum stake**; so the id found
  for an address in use names a record holding that address;
* `deactivation_permanent`: **from any state, no sequence of calls brings a deactivated
  validator back**: it stays registered and inactive, in no tier, not eligible, its
  heartbeats and re-registrations refused, whatever stake `UpdateStake` gives it;
* `HeartbeatManager.Reachable.toRoster`: the heartbeat manager drives its trust manager through
  these calls only.
-/

namespace WattxCore

/-- `static_cast<int>(tier)`: the enumerator's value. -/
def TrustTier.toInt : TrustTier → Int
  | .NONE => 0
  | .BRONZE => 1
  | .SILVER => 2
  | .GOLD => 3
  | .PLATINUM => 4

namespace ValidatorInfo

variable (p : Params)

/-- `ValidatorInfo::IsEligibleForStaking`. -/
def isEligibleForStaking (v : ValidatorInfo) : Bool :=
  if v.isActive = false then false
  else if v.meetsMinimumStake p = false then false
  else if v.getTrustTier p = .NONE then false
  else true

/-- An inactive record has no tier. -/
lemma getTrustTier_of_inactive {v : ValidatorInfo} (h : v.isActive = false) :
    v.getTrustTier p = .NONE := by
  simp [getTrustTier, h]

end ValidatorInfo

namespace TrustScoreManager

variable (p : Params) (net : NetApi)

/-! ### The record writers -/

/-- The records in key order, as the loops over `validators` visit them. -/
def records (m : TrustScoreManager) : List ValidatorInfo := m.validators.entries.map Prod.snd

/-- The shape of `UpdateStake`, `UpdatePoolFee` and `DeactivateValidator`: look the validator
up, refuse unless `ok`, and store `f` of its record. -/
def rewriteRecord (m : TrustScoreManager) (validatorId : KeyID) (ok : Bool)
    (f : ValidatorInfo → ValidatorInfo) : Bool × TrustScoreManager :=
  match m.validators.find? validatorId with
  | none => (false, m)
  | some info =>
      if ok then (true, { m with validators := m.validators.insert validatorId (f info) })
      else (false, m)

/-- What `UpdateStake` stores: the new stake, and the record deactivated when the stake is
below the minimum. -/
def restake (newStakeAmount : Int) (info : ValidatorInfo) : ValidatorInfo :=
  if newStakeAmount < p.nMinValidatorStake then
    { info with stakeAmount := newStakeAmount, isActive := false }
  else { info with stakeAmount := newStakeAmount }

/-- `TrustScoreManager::UpdateStake`: a stake at or above the minimum leaves `isActive` as
it was. -/
def updateStake (m : TrustScoreManager) (validatorId : KeyID) (newStakeAmount : Int) :
    Bool × TrustScoreManager :=
  rewriteRecord m validatorId true (restake p newStakeAmount)

/-- `TrustScoreManager::UpdatePoolFee`: the fee check follows the lookup. -/
def updatePoolFee (m : TrustScoreManager) (validatorId : KeyID) (newFeeRate : Int) :
    Bool × TrustScoreManager :=
  rewriteRecord m validatorId (!(decide (newFeeRate < 0) || decide (newFeeRate > 10000)))
    fun info => { info with poolFeeRate := newFeeRate }

/-- `TrustScoreManager::DeactivateValidator`. -/
def deactivateValidator (m : TrustScoreManager) (validatorId : KeyID) : Bool × TrustScoreManager :=
  rewriteRecord m validatorId true fun info => { info with isActive := false }

/-- The loop body of `RecordMissedCheckIns` on one record (`int` arithmetic). -/
def missStep (currentHeight : Int32) (info : ValidatorInfo) : ValidatorInfo :=
  if info.isActive = false then info
  else if p.nHeartbeatInterval * 2 < currentHeight - info.lastHeartbeatHeight then
    { info with missedCheckIns := info.missedCheckIns + 1, consecutiveCheckIns := 0 }
  else info

/-- `TrustScoreManager::RecordMissedCheckIns`: its parameter shadows the member
`currentHeight`, which it leaves alone. -/
def recordMissedCheckIns (m : TrustScoreManager) (currentHeight : Int32) : TrustScoreManager :=
  { m with validators := m.validators.mapVals fun _ => missStep p currentHeight }

/-! ### The roster reads -/

/-- `TrustScoreManager::IsValidatorEligible`. -/
def isValidatorEligible (m : TrustScoreManager) (validatorId : KeyID) : Bool :=
  match m.getValidator validatorId with
  | none => false
  | some info => info.isEligibleForStaking p

/-- `TrustScoreManager::GetActiveValidators`, in key order. -/
def getActiveValidators (m : TrustScoreManager) : List ValidatorInfo :=
  m.records.filter (·.isActive)

/-- `TrustScoreManager::GetValidatorsByTier`, in key order. -/
def getValidatorsByTier (m : TrustScoreManager) (tier : TrustTier) : List ValidatorInfo :=
  m.records.filter fun info => info.isActive && decide (info.getTrustTier p = tier)

/-- `TrustScoreManager::GetValidatorAddresses`. -/
def getValidatorAddresses (m : TrustScoreManager) : List Service :=
  (m.records.filter fun info => info.isActive && net.isValid info.lastKnownAddress).map
    (·.lastKnownAddress)

/-- `TrustScoreManager::GetTrustedValidatorAddresses`: tiers compare as their enumerators. -/
def getTrustedValidatorAddresses (m : TrustScoreManager) (minTier : TrustTier) : List Service :=
  (m.records.filter fun info => info.isActive && net.isValid info.lastKnownAddress &&
    decide (minTier.toInt ≤ (info.getTrustTier p).toInt)).map (·.lastKnownAddress)

/-- `TrustScoreManager::IsValidatorAddress`: no validity check. -/
def isValidatorAddress (m : TrustScoreManager) (address : Service) : Bool :=
  m.records.any fun info => info.isActive && decide (info.lastKnownAddress = address)

/-- `TrustScoreManager::GetValidatorIdByAddress`: the first record in key order with that
address, active or not; `CKeyID()` when there is none. -/
def getValidatorIdByAddress (m : TrustScoreManager) (address : Service) : KeyID :=
  ((m.records.find? fun info => decide (info.lastKnownAddress = address)).map (·.validatorId)).getD 0

/-! ### What a writer can do to a record -/

/-- A record `RegisterValidator` may create at `V`: the minimum stake and a fee in range. -/
def NewRecord (V : KeyID) (info : ValidatorInfo) : Prop :=
  ∃ s f h, p.nMinValidatorStake ≤ s ∧ 0 ≤ f ∧ f ≤ 10000 ∧ info = registeredInfo V s f h

/-- What a writer may do to a record it finds: the id stays, a deactivated record stays
deactivated, a new fee is in range, and a record left active keeps its stake or holds the
minimum. -/
structure Evolves (info info' : ValidatorInfo) : Prop where
  validatorId : info'.validatorId = info.validatorId
  deactivated : info.isActive = false → info'.isActive = false
  fee : info'.poolFeeRate = info.poolFeeRate ∨ 0 ≤ info'.poolFeeRate ∧ info'.poolFeeRate ≤ 10000
  stake : info'.isActive = true →
    info'.stakeAmount = info.stakeAmount ∨ p.nMinValidatorStake ≤ info'.stakeAmount

namespace Evolves

variable {p} {a b c : ValidatorInfo}

lemma refl (a : ValidatorInfo) : Evolves p a a := ⟨rfl, id, .inl rfl, fun _ => .inl rfl⟩

/-- A rewrite of the counters and addresses only. -/
lemma of_eq (h₁ : b.validatorId = a.validatorId) (h₂ : b.isActive = a.isActive)
    (h₃ : b.poolFeeRate = a.poolFeeRate) (h₄ : b.stakeAmount = a.stakeAmount) : Evolves p a b :=
  ⟨h₁, fun h => h₂.trans h, .inl h₃, fun _ => .inl h₄⟩

lemma active (h : Evolves p a b) (hb : b.isActive = true) : a.isActive = true := by
  cases ha : a.isActive
  · simp [h.deactivated ha] at hb
  · rfl

lemma trans (h₁ : Evolves p a b) (h₂ : Evolves p b c) : Evolves p a c where
  validatorId := h₂.validatorId.trans h₁.validatorId
  deactivated := h₂.deactivated ∘ h₁.deactivated
  fee := h₂.fee.elim (fun h => h ▸ h₁.fee) .inr
  stake hc := (h₂.stake hc).elim (fun h => h ▸ h₁.stake (h₂.active hc)) .inr

end Evolves

lemma evolves_restake (s : Int) (info : ValidatorInfo) : Evolves p info (restake p s info) := by
  unfold restake
  split_ifs with h
  · exact ⟨rfl, fun _ => rfl, .inl rfl, fun h' => (Bool.false_ne_true h').elim⟩
  · exact ⟨rfl, id, .inl rfl, fun _ => .inr (not_lt.mp h)⟩

lemma evolves_missStep (h : Int32) (info : ValidatorInfo) : Evolves p info (missStep p h info) := by
  unfold missStep
  split_ifs <;> exact .of_eq rfl rfl rfl rfl

lemma evolves_expectationStep (h : Int32) (info : ValidatorInfo) :
    Evolves p info (expectationStep p h info) := by
  rw [expectationStep_eq]
  exact .of_eq rfl rfl rfl rfl

/-- What one call does to the records: every record it finds evolves, and every record it
leaves was there before, or is a new registration at a free id. -/
structure Grows (vs vs' : StdMap KeyID ValidatorInfo) : Prop where
  keeps : ∀ V info, vs.find? V = some info → ∃ info', vs'.find? V = some info' ∧ Evolves p info info'
  origin : ∀ V info', vs'.find? V = some info' →
    (∃ info, vs.find? V = some info ∧ Evolves p info info') ∨ (vs.find? V = none ∧ NewRecord p V info')

namespace Grows

variable {p} {vs : StdMap KeyID ValidatorInfo} {V : KeyID} {info info' : ValidatorInfo}

lemma refl (vs : StdMap KeyID ValidatorInfo) : Grows p vs vs :=
  ⟨fun _ i h => ⟨i, h, .refl i⟩, fun _ i h => .inl ⟨i, h, .refl i⟩⟩

lemma insert_found (hv : vs.find? V = some info) (he : Evolves p info info') :
    Grows p vs (vs.insert V info') where
  keeps W i hW := by
    rw [StdMap.find?_insert_eq]
    split_ifs with hVW
    · subst hVW
      rw [hv] at hW
      cases hW
      exact ⟨_, rfl, he⟩
    · exact ⟨i, hW, .refl i⟩
  origin W i hW := by
    rw [StdMap.find?_insert_eq] at hW
    split_ifs at hW with hVW
    · subst hVW
      cases hW
      exact .inl ⟨info, hv, he⟩
    · exact .inl ⟨i, hW, .refl i⟩

lemma insert_new (hv : vs.find? V = none) (hn : NewRecord p V info') :
    Grows p vs (vs.insert V info') where
  keeps W i hW := by
    have hVW : V ≠ W := by
      rintro rfl
      rw [hv] at hW
      cases hW
    exact ⟨i, by rw [StdMap.find?_insert_ne _ _ hVW]; exact hW, .refl i⟩
  origin W i hW := by
    rw [StdMap.find?_insert_eq] at hW
    split_ifs at hW with hVW
    · subst hVW
      cases hW
      exact .inr ⟨hv, hn⟩
    · exact .inl ⟨i, hW, .refl i⟩

lemma mapVals {f : KeyID → ValidatorInfo → ValidatorInfo} (hf : ∀ V info, Evolves p info (f V info)) :
    Grows p vs (vs.mapVals f) where
  keeps V i h := ⟨f V i, by simp [h], hf V i⟩
  origin V i h := by
    rw [StdMap.find?_mapVals, Option.map_eq_some'] at h
    obtain ⟨i₀, h, rfl⟩ := h
    exact .inl ⟨i₀, h, hf V i₀⟩

end Grows

lemma rewriteRecord_cases (m : TrustScoreManager) (V : KeyID) (ok : Bool)
    (f : ValidatorInfo → ValidatorInfo) :
    rewriteRecord m V ok f = (false, m) ∨
      ∃ info, m.validators.find? V = some info ∧ ok = true ∧
        rewriteRecord m V ok f = (true, { m with validators := m.validators.insert V (f info) }) := by
  unfold rewriteRecord
  split
  · exact .inl rfl
  · rename_i info hinfo
    cases ok
    · exact .inl rfl
    · exact .inr ⟨info, hinfo, rfl, rfl⟩

lemma grows_rewriteRecord (m : TrustScoreManager) (V : KeyID) (ok : Bool)
    (f : ValidatorInfo → ValidatorInfo) (hf : ∀ info, ok = true → Evolves p info (f info)) :
    Grows p m.validators (rewriteRecord m V ok f).2.validators := by
  rcases rewriteRecord_cases m V ok f with h | ⟨info, hinfo, hok, h⟩ <;> rw [h]
  · exact .refl _
  · exact .insert_found hinfo (hf info hok)

lemma grows_registerValidator (m : TrustScoreManager) (V : KeyID) (s f : Int) (h : Int32) :
    Grows p m.validators (m.registerValidator p V s f h).2.validators := by
  unfold registerValidator
  split_ifs with h₁ h₂ h₃
  · exact .refl _
  · exact .refl _
  · exact .refl _
  · exact .insert_new (by simpa using h₂) ⟨s, f, h, not_lt.mp h₁, by omega, by omega, rfl⟩

lemma grows_processHeartbeat (m : TrustScoreManager) (hb : Heartbeat) (h : Int32) :
    Grows p m.validators (m.processHeartbeat p hb h).2.validators := by
  rcases processHeartbeat_cases p m hb h with hr | ⟨info, hinfo, -, -, hr⟩ <;> rw [hr]
  · exact .refl _
  · exact .insert_found hinfo (.of_eq rfl rfl rfl rfl)

lemma grows_updateValidatorAddress (m : TrustScoreManager) (pd : Option PeerDiscoveryManager)
    (V : KeyID) (a : Service) (t : Int) :
    Grows p m.validators (m.updateValidatorAddress net pd V a t).2.1.validators := by
  rcases updateValidatorAddress_cases net m pd V a t with hr | ⟨info, hinfo, -, hr⟩ <;> rw [hr]
  · exact .refl _
  · exact .insert_found hinfo (.of_eq rfl rfl rfl rfl)

/-- The trust manager `UpdateValidatorAddress` leaves does not depend on `g_peer_discovery`. -/
lemma updateValidatorAddress_trust (m : TrustScoreManager) (pd : Option PeerDiscoveryManager)
    (V : KeyID) (a : Service) (t : Int) :
    (m.updateValidatorAddress net pd V a t).2.1 = (m.updateValidatorAddress net none V a t).2.1 := by
  unfold updateValidatorAddress
  split
  · rfl
  · split_ifs <;> rfl

end TrustScoreManager

/-! ### The roster as a state machine -/

/-- A call of a public writer of `TrustScoreManager`. -/
inductive RosterOp
  | registerValidator (validatorId : KeyID) (stakeAmount poolFeeRate : Int) (height : Int32)
  | updateStake (validatorId : KeyID) (newStakeAmount : Int)
  | updatePoolFee (validatorId : KeyID) (newFeeRate : Int)
  | processHeartbeat (heartbeat : Heartbeat) (height : Int32)
  | updateHeartbeatExpectations (height : Int32)
  | deactivateValidator (validatorId : KeyID)
  | setHeight (height : Int32)
  | updateValidatorAddress (validatorId : KeyID) (address : Service) (timestamp : Int)
  | recordMissedCheckIns (currentHeight : Int32)

namespace TrustScoreManager

variable (p : Params) (net : NetApi)

/-- One call, with the value it returns (`true` for the `void` ones). -/
def apply (m : TrustScoreManager) : RosterOp → Bool × TrustScoreManager
  | .registerValidator V s f h => m.registerValidator p V s f h
  | .updateStake V s => m.updateStake p V s
  | .updatePoolFee V r => m.updatePoolFee V r
  | .processHeartbeat hb h => m.processHeartbeat p hb h
  | .updateHeartbeatExpectations h => (true, m.updateHeartbeatExpectations p h)
  | .deactivateValidator V => m.deactivateValidator V
  | .setHeight h => (true, m.setHeight h)
  | .updateValidatorAddress V a t =>
      let r := m.updateValidatorAddress net none V a t
      (r.1, r.2.1)
  | .recordMissedCheckIns h => (true, m.recordMissedCheckIns p h)

/-- The calls in order. -/
def run (m : TrustScoreManager) (ops : List RosterOp) : TrustScoreManager :=
  ops.foldl (fun m op => (apply p net m op).2) m

/-- The states a freshly constructed manager reaches. -/
inductive Reachable : TrustScoreManager → Prop
  | empty : Reachable empty
  | step {m : TrustScoreManager} (op : RosterOp) : Reachable m → Reachable (apply p net m op).2

/-- **What one call does to the records.** -/
lemma apply_grows (m : TrustScoreManager) : ∀ op : RosterOp,
    Grows p m.validators (apply p net m op).2.validators
  | .registerValidator V s f h => grows_registerValidator p m V s f h
  | .updateStake V s => grows_rewriteRecord p m V _ _ fun info _ => evolves_restake p s info
  | .updatePoolFee V r => grows_rewriteRecord p m V _ _ fun _ hok =>
      ⟨rfl, id, .inr (show 0 ≤ r ∧ r ≤ 10000 by
        simp only [Bool.not_eq_true', Bool.or_eq_false_iff, decide_eq_false_iff_not] at hok; omega),
        fun _ => .inl rfl⟩
  | .processHeartbeat hb h => grows_processHeartbeat p m hb h
  | .updateHeartbeatExpectations h => .mapVals fun _ info => evolves_expectationStep p h info
  | .deactivateValidator V => grows_rewriteRecord p m V _ _ fun _ _ =>
      ⟨rfl, fun _ => rfl, .inl rfl, fun h => (Bool.false_ne_true h).elim⟩
  | .setHeight _ => .refl _
  | .updateValidatorAddress V a t => grows_updateValidatorAddress p net m none V a t
  | .recordMissedCheckIns h => .mapVals fun _ info => evolves_missStep p h info

/-- Every record a run starts with is still there at its end, evolved. -/
lemma run_keeps : ∀ (ops : List RosterOp) (m : TrustScoreManager) (V : KeyID) (info : ValidatorInfo),
    m.validators.find? V = some info →
      ∃ info', (run p net m ops).validators.find? V = some info' ∧ Evolves p info info'
  | [], _, _, info, h => ⟨info, h, .refl info⟩
  | op :: ops, m, V, _, h => by
      obtain ⟨info₁, h₁, he₁⟩ := (apply_grows p net m op).keeps V _ h
      obtain ⟨info₂, h₂, he₂⟩ := run_keeps ops _ V info₁ h₁
      exact ⟨info₂, h₂, he₁.trans he₂⟩

/-! ### The roster laws -/

/-- A record as the roster keeps it: filed under its own id, a fee in `[0, 10000]`, and the
minimum stake while active. -/
structure RecordOk (V : KeyID) (info : ValidatorInfo) : Prop where
  validatorId : info.validatorId = V
  fee_nonneg : 0 ≤ info.poolFeeRate
  fee_le : info.poolFeeRate ≤ 10000
  staked : info.isActive = true → p.nMinValidatorStake ≤ info.stakeAmount

/-- Every record is as the roster keeps it. -/
def RosterWF (m : TrustScoreManager) : Prop :=
  ∀ V info, m.validators.find? V = some info → RecordOk p V info

variable {p net}

lemma RecordOk.evolve {V : KeyID} {info info' : ValidatorInfo} (h : RecordOk p V info)
    (he : Evolves p info info') : RecordOk p V info' where
  validatorId := he.validatorId.trans h.validatorId
  fee_nonneg := he.fee.elim (fun e => e ▸ h.fee_nonneg) (·.1)
  fee_le := he.fee.elim (fun e => e ▸ h.fee_le) (·.2)
  staked ha := (he.stake ha).elim (fun e => e ▸ h.staked (he.active ha)) id

lemma NewRecord.ok {V : KeyID} {info : ValidatorInfo} (h : NewRecord p V info) : RecordOk p V info := by
  obtain ⟨s, f, _, hs, hf₀, hf₁, rfl⟩ := h
  exact ⟨rfl, hf₀, hf₁, fun _ => hs⟩

lemma RosterWF.apply {m : TrustScoreManager} (h : m.RosterWF p) (op : RosterOp) :
    (apply p net m op).2.RosterWF p := fun V info hV =>
  ((apply_grows p net m op).origin V info hV).elim
    (fun ⟨_, h₀, he⟩ => (h V _ h₀).evolve he) (fun ⟨_, hn⟩ => hn.ok)

/-- Every reachable state is well formed. -/
lemma Reachable.wf {m : TrustScoreManager} (hm : Reachable p net m) : m.RosterWF p := by
  induction hm with
  | empty => intro V info h; simp [TrustScoreManager.empty] at h
  | step op _ ih => exact ih.apply op

lemma Reachable.run {m : TrustScoreManager} (h : Reachable p net m) (ops : List RosterOp) :
    Reachable p net (run p net m ops) := by
  induction ops generalizing m with
  | nil => exact h
  | cons op ops ih => exact ih (.step op h)

/-- Validators `1` and `2` register with the minimum stake and a 5% fee and check in from one
address; then `1` is deactivated. -/
def sharedAddressRun : List RosterOp :=
  [.registerValidator 1 Params.sample.nMinValidatorStake 500 0,
    .registerValidator 2 Params.sample.nMinValidatorStake 500 0,
    .updateValidatorAddress 1 ⟨7, 18888⟩ 0, .updateValidatorAddress 2 ⟨7, 18888⟩ 0,
    .deactivateValidator 1]

/-- The roster after `sharedAddressRun`, under `Params.sample` and `NetApi.sample`. -/
def sharedAddress : TrustScoreManager := run Params.sample NetApi.sample empty sharedAddressRun

/-- **No sequence of calls brings a deactivated validator back.** From any state in which
validator `V`'s record is inactive, after any run the record is still there and inactive: `V`
is in no tier, not eligible, its heartbeats and re-registrations are refused, whatever stake
`UpdateStake` has since given it. -/
theorem deactivation_permanent (m : TrustScoreManager) (ops : List RosterOp) {V : KeyID}
    {info : ValidatorInfo} (h : m.validators.find? V = some info) (hoff : info.isActive = false) :
    ∃ info', (run p net m ops).getValidator V = some info' ∧ info'.isActive = false ∧
      (run p net m ops).getValidatorTier p V = .NONE ∧
      (run p net m ops).isValidatorEligible p V = false ∧
      (∀ hb height, hb.validatorId = V →
        (run p net m ops).processHeartbeat p hb height = (false, run p net m ops)) ∧
      ∀ s f height, (run p net m ops).registerValidator p V s f height = (false, run p net m ops) := by
  obtain ⟨info', h', he⟩ := run_keeps p net ops m V info h
  have hoff' := he.deactivated hoff
  have htier := ValidatorInfo.getTrustTier_of_inactive p hoff'
  refine ⟨info', h', hoff', ?_, ?_, fun hb height hV => ?_, fun s f height => ?_⟩
  · simp [getValidatorTier, getValidator, h', htier]
  · simp [isValidatorEligible, getValidator, h', ValidatorInfo.isEligibleForStaking, hoff']
  · subst hV
    simp [processHeartbeat, h', hoff']
  · unfold registerValidator
    split_ifs <;> first | rfl | simp_all

/-- Validator `1`'s record in `sharedAddress`: checked in from `7:18888`, then deactivated. -/
def deactivatedOne : ValidatorInfo :=
  { recordCheckIn ⟨7, 18888⟩ 0 (registeredInfo 1 Params.sample.nMinValidatorStake 500 0) with
    isActive := false }

/-- Validator `1` is given twice the minimum stake, then announces itself again. -/
def restakeOps : List RosterOp :=
  [.updateStake 1 (2 * Params.sample.nMinValidatorStake),
    .registerValidator 1 (2 * Params.sample.nMinValidatorStake) 500 30]

/-- `sharedAddress` after `restakeOps`. -/
def restaked : TrustScoreManager := run Params.sample NetApi.sample sharedAddress restakeOps

theorem deactivation_permanent_restaked :
    sharedAddress.validators.find? 1 = some deactivatedOne ∧ deactivatedOne.isActive = false ∧
      ∃ info', restaked.getValidator 1 = some info' ∧ info'.isActive = false ∧
        restaked.getValidatorTier Params.sample 1 = .NONE ∧
        restaked.isValidatorEligible Params.sample 1 = false ∧
        (∀ hb height, hb.validatorId = 1 →
          restaked.processHeartbeat Params.sample hb height = (false, restaked)) ∧
        ∀ s f height, restaked.registerValidator Params.sample 1 s f height = (false, restaked) :=
  ⟨rfl, rfl, deactivation_permanent sharedAddress restakeOps rfl rfl⟩

/-- On a well-formed roster, the id `GetValidatorIdByAddress` finds for an address in use names
a record holding that address. -/
lemma RosterWF.validatorIdByAddress {m : TrustScoreManager} (hwf : m.RosterWF p) {a : Service}
    (h : m.isValidatorAddress a = true) :
    ∃ info, m.getValidator (m.getValidatorIdByAddress a) = some info ∧ info.lastKnownAddress = a := by
  obtain ⟨info₀, hmem, h₀⟩ := List.any_eq_true.mp h
  have h₀' : info₀.isActive = true ∧ info₀.lastKnownAddress = a := by simpa using h₀
  have hsome : (m.records.find? fun info => decide (info.lastKnownAddress = a)).isSome :=
    List.find?_isSome.mpr ⟨info₀, hmem, by simpa using h₀'.2⟩
  obtain ⟨info, hfind⟩ := Option.isSome_iff_exists.mp hsome
  have ha : info.lastKnownAddress = a := by simpa using List.find?_some hfind
  obtain ⟨⟨V, i⟩, hV, rfl⟩ := List.mem_map.mp (List.mem_of_find?_eq_some hfind)
  have hfound := (StdMap.mem_entries_iff _ _ _).mp hV
  refine ⟨i, ?_, ha⟩
  simp only [getValidatorIdByAddress, hfind, Option.map_some', Option.getD_some, getValidator,
    (hwf V i hfound).validatorId, hfound]

/-- **The roster laws.** In every state the trust manager reaches through its public calls,
in any order, each record is filed under its own id, its pool fee lies in `[0, 10000]`, and an
active record holds the minimum stake (`UpdateStake` deactivates a record whose stake falls
below it); and the id `GetValidatorIdByAddress` finds for an address `IsValidatorAddress`
accepts names a record holding that address, possibly an inactive one, the first in key order. -/
theorem roster_laws {m : TrustScoreManager} (hm : Reachable p net m) :
    m.RosterWF p ∧ ∀ a, m.isValidatorAddress a = true →
      ∃ info, m.getValidator (m.getValidatorIdByAddress a) = some info ∧ info.lastKnownAddress = a :=
  ⟨hm.wf, fun _ h => hm.wf.validatorIdByAddress h⟩

/-- Both validators of `sharedAddress` use `7:18888`; the id found for it is `1`, the
deactivated one. -/
theorem roster_laws_shared :
    Reachable Params.sample NetApi.sample sharedAddress ∧
      sharedAddress.RosterWF Params.sample ∧ ∀ a, sharedAddress.isValidatorAddress a = true →
        ∃ info, sharedAddress.getValidator (sharedAddress.getValidatorIdByAddress a) = some info ∧
          info.lastKnownAddress = a :=
  have hm : Reachable Params.sample NetApi.sample sharedAddress := Reachable.empty.run _
  ⟨hm, roster_laws hm⟩

example : sharedAddress.getValidatorIdByAddress ⟨7, 18888⟩ = 1 ∧
    (sharedAddress.getValidator 1).map (·.isActive) = some false ∧
    sharedAddress.isValidatorAddress ⟨7, 18888⟩ = true := by
  decide

end TrustScoreManager

/-! ### The heartbeat manager drives the roster -/

namespace TrustScoreManager.Reachable

variable {p : Params} {net : NetApi} {m : TrustScoreManager}

lemma registerValidator (h : Reachable p net m) (V : KeyID) (s f : Int) (height : Int32) :
    Reachable p net (m.registerValidator p V s f height).2 :=
  .step (.registerValidator V s f height) h

lemma foldl_listStep (l : List ValidatorInfo) :
    ∀ {m : TrustScoreManager}, Reachable p net m → Reachable p net (l.foldl (HeartbeatManager.listStep p) m) := by
  induction l with
  | nil => exact id
  | cons info l ih =>
      intro m h
      refine ih ?_
      unfold HeartbeatManager.listStep
      split_ifs
      · split
        · exact h.registerValidator _ _ _ _
        · exact h
      · exact h

end TrustScoreManager.Reachable

namespace HeartbeatManager

variable {p : Params} {c : Crypto} {net : NetApi}

/-- The heartbeat manager drives its trust manager through the roster's public calls only:
registrations, the list sync, heartbeats and check-ins, expectation updates and `SetHeight`.
Every roster law holds of the trust manager of every reachable heartbeat manager. -/
lemma Reachable.toRoster {hm : HeartbeatManager} (h : Reachable p c net hm) :
    TrustScoreManager.Reachable p net hm.trustManager := by
  induction h with
  | init => exact .empty
  | @step hm hm' op b _ hst ih =>
      cases op with
      | registration reg =>
          simp only [HeartbeatManager.step, processValidatorRegistration, Option.some.injEq] at hst
          split_ifs at hst <;> cases hst
          · exact ih
          · exact ih
          · exact ih.registerValidator _ _ _ _
      | validatorList l =>
          cases hst
          exact TrustScoreManager.Reachable.foldl_listStep l.validators ih
      | heartbeat hb =>
          rcases processHeartbeat_trustManager hst with e | e | ⟨pd, e⟩ <;> rw [e]
          · exact ih
          · exact .step (.processHeartbeat hb hb.blockHeight) ih
          · rw [TrustScoreManager.updateValidatorAddress_trust]
            exact .step (.updateValidatorAddress hb.validatorId hb.nodeAddress hb.timestamp)
              (.step (.processHeartbeat hb hb.blockHeight) ih)
      | newBlock height =>
          cases hst
          exact .step (.setHeight height) (.step (.updateHeartbeatExpectations height) ih)

end HeartbeatManager

end WattxCore
