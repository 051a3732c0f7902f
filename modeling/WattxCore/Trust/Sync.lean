import WattxCore.Trust.Roster
import WattxCore.Trust.Uptime
import WattxCore.Trust.Wire

/-!
The initial sync of the trust subsystem between two nodes (`heartbeat_net.cpp`): the sender's
`GetValidatorList` is its trust manager's active records, and the receiver's
`ProcessValidatorList` registers each active record with the minimum stake that it does not
know, through `RegisterValidator`.

* `HeartbeatManager.getValidatorList`;
* `listStep_keeps`, `listStep_find?_ne`, `listStep_registers`: what one turn of the receiving
  loop does at an id; `foldl_listStep_find?`: what the loop does at an id;
* `validator_list_sync`: **after a node processes the list of a reachable node, it knows every
  validator the sender holds active; one it did not know it holds as freshly registered, with
  no heartbeat expected, so at 100% uptime and in tier `PLATINUM`, whatever its uptime at the
  sender**;
* `ValidatorList.serialize`, `ValidatorList.unserialize`: the list on the wire, each record read
  back into a fresh `ValidatorInfo()`; `validator_list_wire`: **read back from its wire form, a
  list syncs a node exactly as the list itself, whatever the address functions**, and a list
  whose addresses read back from their texts is read back as itself.
-/

namespace WattxCore

namespace HeartbeatManager

/-- `HeartbeatManager::GetValidatorList`: the trust manager's active records. -/
def getValidatorList (hm : HeartbeatManager) : ValidatorList := ⟨hm.trustManager.getActiveValidators⟩

variable (p : Params) {m : TrustScoreManager} {info : ValidatorInfo} {V : KeyID}

/-! ### One turn of the receiving loop -/

/-- A known record is left as it is. -/
lemma listStep_keeps {r : ValidatorInfo} (h : m.validators.find? V = some r) :
    (listStep p m info).validators.find? V = some r := by
  unfold listStep
  split_ifs
  · split
    · rcases TrustScoreManager.registerValidator_cases p m info.validatorId info.stakeAmount
        info.poolFeeRate info.registrationHeight with hr | ⟨-, hnone, hr⟩ <;> rw [hr]
      · exact h
      · rw [StdMap.find?_insert_ne]
        · exact h
        · rintro rfl
          rw [hnone] at h
          cases h
    · exact h
  · exact h

/-- Other ids are left alone. -/
lemma listStep_find?_ne (hne : info.validatorId ≠ V) :
    (listStep p m info).validators.find? V = m.validators.find? V := by
  unfold listStep
  split_ifs
  · split
    · rcases TrustScoreManager.registerValidator_cases p m info.validatorId info.stakeAmount
        info.poolFeeRate info.registrationHeight with hr | ⟨-, -, hr⟩ <;> rw [hr]
      exact StdMap.find?_insert_ne _ _ hne
    · rfl
  · rfl

/-- An active listed record with the minimum stake and a fee in range is registered afresh at
an id the receiver does not know. -/
lemma listStep_registers (hV : info.validatorId = V) (hnone : m.validators.find? V = none)
    (ha : info.isActive = true) (hs : p.nMinValidatorStake ≤ info.stakeAmount)
    (hf₀ : 0 ≤ info.poolFeeRate) (hf₁ : info.poolFeeRate ≤ 10000) :
    (listStep p m info).validators.find? V = some (TrustScoreManager.registeredInfo V
      info.stakeAmount info.poolFeeRate info.registrationHeight) := by
  subst hV
  have hget : m.getValidator info.validatorId = none := hnone
  simp only [listStep, ha, ValidatorInfo.meetsMinimumStake, hs, decide_True, Bool.and_self,
    ite_true, hget, TrustScoreManager.registerValidator, hnone, Option.isSome_none, not_lt.mpr hs]
  simp [show ¬(info.poolFeeRate < 0 ∨ info.poolFeeRate > 10000) by omega]

/-! ### The receiving loop -/

lemma foldl_listStep_keeps (l : List ValidatorInfo) {r : ValidatorInfo} :
    ∀ {m : TrustScoreManager}, m.validators.find? V = some r →
      (l.foldl (listStep p) m).validators.find? V = some r := by
  induction l with
  | nil => exact id
  | cons e l ih => exact fun h => ih (listStep_keeps p h)

/-- After the loop, a listed record that the list holds for no other entry at its id is known;
if the receiver did not know its id, it holds the record as freshly registered. -/
lemma foldl_listStep_find? (l : List ValidatorInfo) (hmem : info ∈ l)
    (honly : ∀ e ∈ l, e.validatorId = V → e = info) (hV : info.validatorId = V)
    (ha : info.isActive = true) (hs : p.nMinValidatorStake ≤ info.stakeAmount)
    (hf₀ : 0 ≤ info.poolFeeRate) (hf₁ : info.poolFeeRate ≤ 10000) :
    ∀ m : TrustScoreManager, ∃ r, (l.foldl (listStep p) m).validators.find? V = some r ∧
      (m.validators.find? V = none → r = TrustScoreManager.registeredInfo V info.stakeAmount
        info.poolFeeRate info.registrationHeight) := by
  induction l with
  | nil => cases hmem
  | cons e l ih =>
      intro m
      by_cases he : e.validatorId = V
      · obtain rfl := honly e (List.mem_cons_self _ _) he
        cases hm : m.validators.find? V with
        | none =>
            exact ⟨_, foldl_listStep_keeps p l (listStep_registers p hV hm ha hs hf₀ hf₁),
              fun _ => rfl⟩
        | some r => exact ⟨r, foldl_listStep_keeps p l (listStep_keeps p hm), fun h => nomatch h⟩
      · have hmem' : info ∈ l := (List.mem_cons.mp hmem).resolve_left fun h => he (h ▸ hV)
        obtain ⟨r, hr, hnew⟩ := ih hmem' (fun e' he' => honly e' (List.mem_cons_of_mem _ he'))
          (listStep p m e)
        exact ⟨r, hr, fun h => hnew (by rw [listStep_find?_ne p he, h])⟩

/-! ### Two nodes -/

variable {p} {c : Crypto} {net : NetApi}

/-- A record registered from a list has no heartbeat expected: 100% uptime. -/
lemma registeredInfo_uptime (s f : Int) (h : Int32) :
    (TrustScoreManager.registeredInfo V s f h).getUptimePercentage = 1000 := rfl

/-- **The list sync of two nodes.** After a node `B` processes the validator list of a
reachable node `A`, `B` knows every validator `A` holds active. One `B` did not know before it
holds as freshly registered: nothing expected, nothing received, so at 100% uptime and, under a
platinum threshold of at most 1000, in tier `PLATINUM`, whatever its uptime and tier at `A`. -/
theorem validator_list_sync {A : HeartbeatManager} (hA : Reachable p c net A) (B : HeartbeatManager)
    (hplat : p.nPlatinumUptimeThreshold ≤ 1000)
    (hV : A.trustManager.getValidator V = some info) (hact : info.isActive = true) :
    ∃ info', (B.processValidatorList p A.getValidatorList).trustManager.getValidator V = some info' ∧
      (B.trustManager.getValidator V = none →
        info' = TrustScoreManager.registeredInfo V info.stakeAmount info.poolFeeRate
          info.registrationHeight ∧
        info'.getUptimePercentage = 1000 ∧ info'.getTrustTier p = .PLATINUM) := by
  have hwf := hA.toRoster.wf
  have hok := hwf V info hV
  have hmem : info ∈ A.getValidatorList.validators :=
    List.mem_filter.mpr ⟨List.mem_map.mpr ⟨(V, info), (StdMap.mem_entries_iff _ _ _).mpr hV, rfl⟩, hact⟩
  have honly : ∀ e ∈ A.getValidatorList.validators, e.validatorId = V → e = info := fun e he hid => by
    obtain ⟨⟨k, e'⟩, hk, rfl⟩ := List.mem_map.mp (List.mem_filter.mp he).1
    have hfound := (StdMap.mem_entries_iff _ _ _).mp hk
    rw [(hwf k e' hfound).validatorId] at hid
    subst hid
    exact Option.some.inj (hfound.symm.trans hV)
  obtain ⟨r, hr, hnew⟩ := foldl_listStep_find? p _ hmem honly hok.validatorId hact (hok.staked hact)
    hok.fee_nonneg hok.fee_le B.trustManager
  refine ⟨r, hr, fun hnone => ?_⟩
  obtain rfl := hnew hnone
  refine ⟨rfl, rfl, ?_⟩
  rw [ValidatorInfo.getTrustTier, registeredInfo_uptime]
  simp [TrustScoreManager.registeredInfo, not_lt.mpr (hok.staked hact), hplat]

/-- Validator `1` announces itself at height 0 and is silent until block 100. -/
def silentRun : List TrustOp := [.registration (signedRegistration 1 0), .newBlock 100]

/-- The sending node after `silentRun`. -/
def silentSender : HeartbeatManager := ((trustAfter silentRun).map Prod.fst).getD (init none false)

lemma reachable_silentSender : Reachable Params.sample Crypto.toy NetApi.sample silentSender := by
  obtain ⟨⟨hm, rs⟩, hx⟩ := Option.isSome_iff_exists.mp (by decide : (trustAfter silentRun).isSome = true)
  unfold silentSender
  rw [hx]
  exact Reachable.run silentRun (.init none false) hx

/-- Validator `1`'s record at the sender: ten heartbeats expected, none received. -/
def silentRecord : ValidatorInfo :=
  { TrustScoreManager.registeredInfo 1 Params.sample.nMinValidatorStake 0 0 with heartbeatsExpected := 10 }

/-- A fresh node syncs from `silentSender`. -/
theorem validator_list_sync_silent :
    Reachable Params.sample Crypto.toy NetApi.sample silentSender ∧
      Params.sample.nPlatinumUptimeThreshold ≤ 1000 ∧
      silentSender.trustManager.getValidator 1 = some silentRecord ∧ silentRecord.isActive = true ∧
      ∃ info', ((init none false).processValidatorList Params.sample
          silentSender.getValidatorList).trustManager.getValidator 1 = some info' ∧
        ((init none false).trustManager.getValidator 1 = none →
          info' = TrustScoreManager.registeredInfo 1 silentRecord.stakeAmount silentRecord.poolFeeRate
            silentRecord.registrationHeight ∧
          info'.getUptimePercentage = 1000 ∧ info'.getTrustTier Params.sample = .PLATINUM) :=
  have hV : silentSender.trustManager.getValidator 1 = some silentRecord := rfl
  ⟨reachable_silentSender, by decide, hV, rfl,
    validator_list_sync reachable_silentSender _ (by decide) hV rfl⟩

/-- At the sender validator `1` is in no tier: its uptime is `0`. -/
example : silentSender.trustManager.getValidatorTier Params.sample 1 = .NONE := by decide

end HeartbeatManager

/-! ### The list on the wire -/

namespace ValidatorList

variable (net : NetApi)

/-- `ValidatorList::Serialize`: the records, in order. -/
def serialize (l : ValidatorList) : List ValidatorInfoWire := l.validators.map (·.serialize net)

/-- `ValidatorList::Unserialize`: a `std::vector` reads each record into a fresh
`ValidatorInfo()`. -/
def unserialize (ws : List ValidatorInfoWire) : ValidatorList := ⟨ws.map (ValidatorInfo.init.unserialize net)⟩

end ValidatorList

/-- The receiving loop reads no address: a record read back from the wire takes the same turn
as the record. -/
lemma HeartbeatManager.listStep_unserialize (p : Params) (net : NetApi) (m : TrustScoreManager)
    (v : ValidatorInfo) :
    HeartbeatManager.listStep p m (ValidatorInfo.init.unserialize net (v.serialize net)) =
      HeartbeatManager.listStep p m v := rfl

/-- **The initial sync survives the wire.** Read back from its wire form, a validator list
syncs any node exactly as the list itself, whatever the address functions: the receiving loop
reads no address. A list whose addresses read back from their texts is read back as itself. -/
theorem validator_list_wire (p : Params) (net : NetApi) (B : HeartbeatManager) (l : ValidatorList) :
    B.processValidatorList p (ValidatorList.unserialize net (l.serialize net)) =
        B.processValidatorList p l ∧
      ((∀ v ∈ l.validators, net.ReadsBack v.lastKnownAddress) →
        ValidatorList.unserialize net (l.serialize net) = l) := by
  refine ⟨?_, fun hread => ?_⟩
  · simp only [HeartbeatManager.processValidatorList, ValidatorList.unserialize,
      ValidatorList.serialize, List.map_map, List.foldl_map, Function.comp_def,
      HeartbeatManager.listStep_unserialize]
  · obtain ⟨vs⟩ := l
    simp only [ValidatorList.unserialize, ValidatorList.serialize, List.map_map, ValidatorList.mk.injEq]
    exact (List.map_congr_left fun v hv => ValidatorInfo.unserialize_serialize _ v (hread v hv)).trans
      (List.map_id vs)

end WattxCore
