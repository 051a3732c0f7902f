import WattxCore.Prelude.StdMap
import WattxCore.Prelude.Primitives

/-!
The trust scorer of `trustscore.cpp`: per validator, heartbeats expected over the uptime
window against heartbeats received, the trust tier and reward multiplier read off them, and
the auto-peer discovery the heartbeats feed.

* `ValidatorInfo` with `GetUptimePercentage`, `GetTrustTier`, `GetRewardMultiplier`;
* `Heartbeat` and its signed digest `GetHash`;
* `TrustScoreManager` with `RegisterValidator`, `ProcessHeartbeat`,
  `UpdateHeartbeatExpectations`, `UpdateValidatorAddress` and the reads;
* `PeerDiscoveryManager` with `ProcessValidatorAddress` and `MarkPeerAdded`;
* one inversion lemma per writing function (`registerValidator_cases`,
  `processHeartbeat_cases`, `updateValidatorAddress_cases`), and the frame lemmas of each;
* `getTrustTier_eq_NONE_iff`: an active record with the minimum stake is in no tier exactly
  when its uptime is below all four thresholds.
-/

namespace WattxCore

/-- `TrustTier`. -/
inductive TrustTier
  | NONE
  | BRONZE
  | SILVER
  | GOLD
  | PLATINUM
  deriving DecidableEq, Repr

/-- `ValidatorInfo`: a validator as the trust scorer sees it. -/
structure ValidatorInfo where
  validatorId : KeyID
  stakeAmount : Int
  poolFeeRate : Int
  registrationHeight : Int32
  lastHeartbeatHeight : Int32
  heartbeatsExpected : Int32
  heartbeatsReceived : Int32
  isActive : Bool
  lastKnownAddress : Service
  lastCheckInTime : Int
  consecutiveCheckIns : Int32
  missedCheckIns : Int32

namespace ValidatorInfo

variable (p : Params)

/-- `ValidatorInfo::GetUptimePercentage`, in tenths of a per cent: `int` arithmetic. -/
def getUptimePercentage (v : ValidatorInfo) : Int32 :=
  if v.heartbeatsExpected = 0 then 1000
  else v.heartbeatsReceived * 1000 / v.heartbeatsExpected

/-- `ValidatorInfo::GetTrustTier`. -/
def getTrustTier (v : ValidatorInfo) : TrustTier :=
  if v.isActive = false ∨ v.stakeAmount < p.nMinValidatorStake then .NONE
  else if p.nPlatinumUptimeThreshold ≤ v.getUptimePercentage then .PLATINUM
  else if p.nGoldUptimeThreshold ≤ v.getUptimePercentage then .GOLD
  else if p.nSilverUptimeThreshold ≤ v.getUptimePercentage then .SILVER
  else if p.nBronzeUptimeThreshold ≤ v.getUptimePercentage then .BRONZE
  else .NONE

/-- The multiplier `GetRewardMultiplier` reads for a tier. -/
def tierMultiplier : TrustTier → Int32
  | .PLATINUM => p.nPlatinumRewardMultiplier
  | .GOLD => p.nGoldRewardMultiplier
  | .SILVER => p.nSilverRewardMultiplier
  | .BRONZE => p.nBronzeRewardMultiplier
  | .NONE => 0

/-- `ValidatorInfo::GetRewardMultiplier`. -/
def getRewardMultiplier (v : ValidatorInfo) : Int32 := tierMultiplier p (v.getTrustTier p)

/-- `ValidatorInfo::MeetsMinimumStake`. -/
def meetsMinimumStake (v : ValidatorInfo) : Bool := decide (p.nMinValidatorStake ≤ v.stakeAmount)

/-- The uptime lies below all four thresholds. -/
def BelowAllThresholds (v : ValidatorInfo) : Prop :=
  v.getUptimePercentage < p.nPlatinumUptimeThreshold ∧ v.getUptimePercentage < p.nGoldUptimeThreshold ∧
    v.getUptimePercentage < p.nSilverUptimeThreshold ∧ v.getUptimePercentage < p.nBronzeUptimeThreshold

/-- **An active record with the minimum stake is in no tier exactly when its uptime is below
all four thresholds.** -/
lemma getTrustTier_eq_NONE_iff {v : ValidatorInfo} (hact : v.isActive = true)
    (hstake : p.nMinValidatorStake ≤ v.stakeAmount) :
    v.getTrustTier p = .NONE ↔ v.BelowAllThresholds p := by
  unfold getTrustTier BelowAllThresholds
  simp only [Int32.le_iff, Int32.lt_iff] at *
  split_ifs <;> simp_all; omega

end ValidatorInfo

/-- `Heartbeat`: a validator's signed check-in, with the address it is reachable at. -/
structure Heartbeat where
  validatorId : KeyID
  blockHeight : Int32
  blockHash : Digest
  timestamp : Int
  nodeAddress : Service
  nodePort : Nat
  signature : Sig

/-- `Heartbeat::GetHash`: the address enters as its `ip:port` string; the signature does
not enter. -/
def Heartbeat.getHash (c : Crypto) (net : NetApi) (hb : Heartbeat) : Digest :=
  c.hash [.key hb.validatorId, .i32 hb.blockHeight.val, .digest hb.blockHash, .i64 hb.timestamp,
    .str (net.toStringAddrPort hb.nodeAddress), .u16 hb.nodePort]

/-- `Heartbeat::Verify`. -/
def Heartbeat.verify (c : Crypto) (net : NetApi) (hb : Heartbeat) (pubkey : PubKey) : Bool :=
  c.verify pubkey (hb.getHash c net) hb.signature

/-! ### Peer discovery -/

/-- `PeerDiscoveryManager`: the `std::set<CService>`s of known peers and of peers pending
`addnode`. The config path is not modelled. -/
structure PeerDiscoveryManager where
  knownValidatorPeers : StdMap Service Unit
  pendingAdditions : StdMap Service Unit

namespace PeerDiscoveryManager

variable (net : NetApi)

/-- `PeerDiscoveryManager::ProcessValidatorAddress`: true for a new valid address, which
joins both sets. -/
def processValidatorAddress (d : PeerDiscoveryManager) (address : Service) (_validatorId : KeyID) :
    Bool × PeerDiscoveryManager :=
  if net.isValid address = false then (false, d)
  else if (d.knownValidatorPeers.find? address).isSome then (false, d)
  else
    (true, { pendingAdditions := d.pendingAdditions.insert address ()
             knownValidatorPeers := d.knownValidatorPeers.insert address () })

/-- `PeerDiscoveryManager::MarkPeerAdded`. -/
def markPeerAdded (d : PeerDiscoveryManager) (address : Service) : PeerDiscoveryManager :=
  { d with pendingAdditions := d.pendingAdditions.erase address }

/-- A valid address is known afterwards. -/
lemma processValidatorAddress_known (d : PeerDiscoveryManager) {address : Service}
    (h : net.isValid address = true) (V : KeyID) :
    ((d.processValidatorAddress net address V).2.knownValidatorPeers.find? address).isSome := by
  unfold processValidatorAddress
  split_ifs with h₁ h₂ <;> simp_all

/-- A known address is not new again, and changes nothing. -/
lemma processValidatorAddress_of_known (d : PeerDiscoveryManager) {address : Service}
    (h : (d.knownValidatorPeers.find? address).isSome) (V : KeyID) :
    d.processValidatorAddress net address V = (false, d) := by
  unfold processValidatorAddress
  split_ifs <;> rfl

end PeerDiscoveryManager

/-! ### The trust score manager -/

/-- `TrustScoreManager`: the records by id and the height of the last `SetHeight`. -/
structure TrustScoreManager where
  validators : StdMap KeyID ValidatorInfo
  currentHeight : Int32

namespace TrustScoreManager

/-- The manager `TrustScoreManager(params)` constructs. -/
def empty : TrustScoreManager := ⟨StdMap.empty, 0⟩

variable (p : Params) (net : NetApi)

/-- The record `RegisterValidator` creates: active, registered and last heard of at `height`,
nothing expected or received yet, the other fields as `ValidatorInfo()` leaves them. -/
def registeredInfo (validatorId : KeyID) (stakeAmount poolFeeRate : Int) (height : Int32) :
    ValidatorInfo where
  validatorId := validatorId
  stakeAmount := stakeAmount
  poolFeeRate := poolFeeRate
  registrationHeight := height
  lastHeartbeatHeight := height
  heartbeatsExpected := 0
  heartbeatsReceived := 0
  isActive := true
  lastKnownAddress := Service.none
  lastCheckInTime := 0
  consecutiveCheckIns := 0
  missedCheckIns := 0

/-- `TrustScoreManager::RegisterValidator`. -/
def registerValidator (m : TrustScoreManager) (validatorId : KeyID) (stakeAmount poolFeeRate : Int)
    (height : Int32) : Bool × TrustScoreManager :=
  if stakeAmount < p.nMinValidatorStake then (false, m)
  else if (m.validators.find? validatorId).isSome then (false, m)
  else if poolFeeRate < 0 ∨ poolFeeRate > 10000 then (false, m)
  else
    (true, { m with
      validators := m.validators.insert validatorId
        (registeredInfo validatorId stakeAmount poolFeeRate height) })

/-- What an accepted heartbeat records: one more received, last heard of at `height`. -/
def recordHeartbeat (height : Int32) (info : ValidatorInfo) : ValidatorInfo :=
  { info with heartbeatsReceived := info.heartbeatsReceived + 1, lastHeartbeatHeight := height }

/-- `TrustScoreManager::ProcessHeartbeat`: the validator must be known and active, and
`height` at least one interval past its last heartbeat (an `int` sum). -/
def processHeartbeat (m : TrustScoreManager) (heartbeat : Heartbeat) (height : Int32) :
    Bool × TrustScoreManager :=
  match m.validators.find? heartbeat.validatorId with
  | none => (false, m)
  | some info =>
      if info.isActive = false then (false, m)
      else if height < info.lastHeartbeatHeight + p.nHeartbeatInterval then (false, m)
      else
        (true, { m with
          validators := m.validators.insert heartbeat.validatorId (recordHeartbeat height info) })

/-- The loop body of `UpdateHeartbeatExpectations` on one record. -/
def expectationStep (height : Int32) (info : ValidatorInfo) : ValidatorInfo :=
  if info.isActive = false then info
  else
    let blocksSinceRegistration := height - info.registrationHeight
    let info₁ := if 0 < blocksSinceRegistration then
      { info with heartbeatsExpected := blocksSinceRegistration / p.nHeartbeatInterval } else info
    let windowBlocks := min blocksSinceRegistration p.nUptimeWindow
    if 0 < windowBlocks then { info₁ with heartbeatsExpected := windowBlocks / p.nHeartbeatInterval }
    else info₁

/-- `TrustScoreManager::UpdateHeartbeatExpectations`. -/
def updateHeartbeatExpectations (m : TrustScoreManager) (height : Int32) : TrustScoreManager :=
  { currentHeight := height, validators := m.validators.mapVals fun _ => expectationStep p height }

/-- `TrustScoreManager::SetHeight`. -/
def setHeight (m : TrustScoreManager) (height : Int32) : TrustScoreManager :=
  { m with currentHeight := height }

/-- `TrustScoreManager::GetValidator`. -/
def getValidator (m : TrustScoreManager) (validatorId : KeyID) : Option ValidatorInfo :=
  m.validators.find? validatorId

/-- `TrustScoreManager::GetValidatorTier`. -/
def getValidatorTier (m : TrustScoreManager) (validatorId : KeyID) : TrustTier :=
  match m.getValidator validatorId with
  | none => .NONE
  | some info => info.getTrustTier p

/-- `TrustScoreManager::GetValidatorRewardMultiplier`. -/
def getValidatorRewardMultiplier (m : TrustScoreManager) (validatorId : KeyID) : Int32 :=
  match m.getValidator validatorId with
  | none => 0
  | some info => info.getRewardMultiplier p

/-- What a check-in records. -/
def recordCheckIn (address : Service) (timestamp : Int) (info : ValidatorInfo) : ValidatorInfo :=
  { info with
    lastKnownAddress := address
    lastCheckInTime := timestamp
    consecutiveCheckIns := info.consecutiveCheckIns + 1 }

/-- `TrustScoreManager::UpdateValidatorAddress`: records the check-in, then hands the address
to `g_peer_discovery` when there is one. -/
def updateValidatorAddress (m : TrustScoreManager) (pd : Option PeerDiscoveryManager)
    (validatorId : KeyID) (address : Service) (timestamp : Int) :
    Bool × TrustScoreManager × Option PeerDiscoveryManager :=
  match m.validators.find? validatorId with
  | none => (false, m, pd)
  | some info =>
      if net.isValid address = false then (false, m, pd)
      else
        (true, { m with validators := m.validators.insert validatorId (recordCheckIn address timestamp info) },
          pd.map fun d => (d.processValidatorAddress net address validatorId).2)

/-! ### What each writer can do -/

lemma registerValidator_cases (m : TrustScoreManager) (id : KeyID) (stake fee : Int) (h : Int32) :
    m.registerValidator p id stake fee h = (false, m) ∨
      (p.nMinValidatorStake ≤ stake ∧ m.validators.find? id = none ∧
        m.registerValidator p id stake fee h =
          (true, { m with validators := m.validators.insert id (registeredInfo id stake fee h) })) := by
  unfold registerValidator
  split_ifs with h₁ h₂ <;> simp_all

lemma processHeartbeat_cases (m : TrustScoreManager) (hb : Heartbeat) (height : Int32) :
    m.processHeartbeat p hb height = (false, m) ∨
      ∃ info, m.validators.find? hb.validatorId = some info ∧ info.isActive = true ∧
        info.lastHeartbeatHeight + p.nHeartbeatInterval ≤ height ∧
        m.processHeartbeat p hb height =
          (true, { m with validators := m.validators.insert hb.validatorId (recordHeartbeat height info) }) := by
  unfold processHeartbeat
  split
  · exact .inl rfl
  · rename_i info hinfo
    split_ifs with h₁ h₂
    · exact .inl rfl
    · exact .inl rfl
    · exact .inr ⟨info, hinfo, by simpa using h₁, Int.not_lt.mp h₂, rfl⟩

lemma updateValidatorAddress_cases (m : TrustScoreManager) (pd : Option PeerDiscoveryManager)
    (id : KeyID) (address : Service) (t : Int) :
    m.updateValidatorAddress net pd id address t = (false, m, pd) ∨
      ∃ info, m.validators.find? id = some info ∧ net.isValid address = true ∧
        m.updateValidatorAddress net pd id address t =
          (true, { m with validators := m.validators.insert id (recordCheckIn address t info) },
            pd.map fun d => (d.processValidatorAddress net address id).2) := by
  unfold updateValidatorAddress
  split
  · exact .inl rfl
  · rename_i info hinfo
    split_ifs with h₁
    · exact .inl rfl
    · exact .inr ⟨info, hinfo, by simpa using h₁, rfl⟩

@[simp] lemma updateHeartbeatExpectations_find? (m : TrustScoreManager) (height : Int32) (id : KeyID) :
    (m.updateHeartbeatExpectations p height).validators.find? id =
      (m.validators.find? id).map (expectationStep p height) :=
  StdMap.find?_mapVals _ _ _

/-- `expectationStep` rewrites the expected count and nothing else. -/
lemma expectationStep_eq (height : Int32) (info : ValidatorInfo) :
    expectationStep p height info =
      { info with heartbeatsExpected := (expectationStep p height info).heartbeatsExpected } := by
  unfold expectationStep
  dsimp only
  split_ifs <;> rfl

end TrustScoreManager

end WattxCore
