import WattxCore.Trust.TrustScore

/-!
The heartbeat manager of `heartbeat_net.cpp`, and the trust subsystem as a system: inbound
heartbeats, validator-registration announcements, validator lists from peers and new blocks,
in any order.

* `ProcessHeartbeat`: replay check, the trust manager's check, then the check-in and peer
  discovery. It verifies no signature. When the replay set outgrows `MAX_SEEN_HEARTBEATS` it
  calls `CleanupSeenHeartbeats`, which locks `cs_heartbeat` a second time: the call never
  returns (`none`);
* `ProcessValidatorRegistration`, `ProcessValidatorList`, `OnNewBlock`;
* `checkIn_peerDiscovery`: the auto-add branch of `ProcessHeartbeat` is dead code, since
  `UpdateValidatorAddress` has already made the address known;
* `TrustOp`, `step`, `run`, `Reachable`: the runs from a freshly started manager;
* `recordsActive_of_reachable`: **in every reachable state, every record of the trust
  manager is active and holds the minimum stake**.
-/

namespace WattxCore

/-- `ValidatorRegistration`: a validator's signed announcement. -/
structure ValidatorRegistration where
  validatorPubKey : PubKey
  stakeAmount : Int
  poolFeeRate : Int
  registrationHeight : Int32
  signature : Sig

/-- `ValidatorRegistration::GetHash`. -/
def ValidatorRegistration.getHash (c : Crypto) (r : ValidatorRegistration) : Digest :=
  c.hash [.pubKey r.validatorPubKey, .i64 r.stakeAmount, .i64 r.poolFeeRate,
    .i32 r.registrationHeight.val]

/-- `ValidatorRegistration::Verify`: against the key the announcement carries. -/
def ValidatorRegistration.verify (c : Crypto) (r : ValidatorRegistration) : Bool :=
  c.verify r.validatorPubKey (r.getHash c) r.signature

/-- `ValidatorList`: the records a peer sends for the initial sync. -/
structure ValidatorList where
  validators : List ValidatorInfo

/-- `HeartbeatManager::MAX_SEEN_HEARTBEATS`. -/
def MAX_SEEN_HEARTBEATS : Nat := 10000

/-- The state the heartbeat manager reads and writes: its replay set, the trust manager it
holds by reference, the global `g_peer_discovery` (null or not), whether `m_connman` is set,
and the addresses handed to `m_connman->AddNode` so far, oldest first. -/
structure HeartbeatManager where
  seenHeartbeats : StdMap Digest Unit
  trustManager : TrustScoreManager
  peerDiscovery : Option PeerDiscoveryManager
  connman : Bool
  addedNodes : List Service

namespace HeartbeatManager

/-- A manager as `InitHeartbeatManager` starts it: nothing seen, an empty trust manager. -/
def init (pd : Option PeerDiscoveryManager) (connman : Bool) : HeartbeatManager :=
  ⟨StdMap.empty, TrustScoreManager.empty, pd, connman, []⟩

variable (p : Params) (c : Crypto) (net : NetApi)

/-- The tail of `ProcessHeartbeat` for a valid address: `UpdateValidatorAddress`, then the
address is offered to `g_peer_discovery` and, when new and `m_connman` is set, added with
`AddNode` and marked added. -/
def checkIn (hm : HeartbeatManager) (hb : Heartbeat) : HeartbeatManager :=
  let r := hm.trustManager.updateValidatorAddress net hm.peerDiscovery hb.validatorId
    hb.nodeAddress hb.timestamp
  match r.2.2 with
  | none => { hm with trustManager := r.2.1, peerDiscovery := none }
  | some d =>
      let q := d.processValidatorAddress net hb.nodeAddress hb.validatorId
      if q.1 && hm.connman then
        { hm with
          trustManager := r.2.1
          peerDiscovery := some (q.2.markPeerAdded hb.nodeAddress)
          addedNodes := hm.addedNodes ++ [hb.nodeAddress] }
      else { hm with trustManager := r.2.1, peerDiscovery := some q.2 }

/-- `HeartbeatManager::ProcessHeartbeat`. -/
def processHeartbeat (hm : HeartbeatManager) (heartbeat : Heartbeat) :
    Option (Bool × HeartbeatManager) :=
  let hbHash := heartbeat.getHash c net
  if (hm.seenHeartbeats.find? hbHash).isSome then some (false, hm)
  else
    let hm := { hm with seenHeartbeats := hm.seenHeartbeats.insert hbHash () }
    if MAX_SEEN_HEARTBEATS < hm.seenHeartbeats.size then none
    else
      let r := hm.trustManager.processHeartbeat p heartbeat heartbeat.blockHeight
      if r.1 = false then some (false, hm)
      else
        let hm := { hm with trustManager := r.2 }
        if net.isValid heartbeat.nodeAddress = false then some (true, hm)
        else some (true, checkIn net hm heartbeat)

/-- `HeartbeatManager::ProcessValidatorRegistration`: verified against the announced key,
registered under that key's id at the announced height. -/
def processValidatorRegistration (hm : HeartbeatManager) (reg : ValidatorRegistration) :
    Bool × HeartbeatManager :=
  if reg.verify c = false then (false, hm)
  else if reg.stakeAmount < p.nMinValidatorStake then (false, hm)
  else
    let r := hm.trustManager.registerValidator p (c.getID reg.validatorPubKey) reg.stakeAmount
      reg.poolFeeRate reg.registrationHeight
    (r.1, { hm with trustManager := r.2 })

/-- The loop body of `ProcessValidatorList`: an active record with the minimum stake that the
trust manager does not know is registered. -/
def listStep (m : TrustScoreManager) (info : ValidatorInfo) : TrustScoreManager :=
  if info.isActive && info.meetsMinimumStake p then
    match m.getValidator info.validatorId with
    | none =>
        (m.registerValidator p info.validatorId info.stakeAmount info.poolFeeRate
          info.registrationHeight).2
    | some _ => m
  else m

/-- `HeartbeatManager::ProcessValidatorList`. -/
def processValidatorList (hm : HeartbeatManager) (list : ValidatorList) : HeartbeatManager :=
  { hm with trustManager := list.validators.foldl (listStep p) hm.trustManager }

/-- `HeartbeatManager::OnNewBlock`; the broadcast check only logs. -/
def onNewBlock (hm : HeartbeatManager) (height : Int32) : HeartbeatManager :=
  { hm with trustManager := (hm.trustManager.updateHeartbeatExpectations p height).setHeight height }

end HeartbeatManager

/-- The inbound events of the trust subsystem. -/
inductive TrustOp
  | registration (reg : ValidatorRegistration)
  | validatorList (list : ValidatorList)
  | heartbeat (hb : Heartbeat)
  | newBlock (height : Int32)

namespace HeartbeatManager

variable (p : Params) (c : Crypto) (net : NetApi)

/-- One event, with the value the source returns (`true` for the `void` ones); `none` when
the call does not return. -/
def step (hm : HeartbeatManager) : TrustOp → Option (Bool × HeartbeatManager)
  | .registration reg => some (hm.processValidatorRegistration p c reg)
  | .validatorList l => some (true, hm.processValidatorList p l)
  | .heartbeat hb => hm.processHeartbeat p c net hb
  | .newBlock h => some (true, hm.onNewBlock p h)

/-- Run the events in order, collecting the replies; `none` when one of them does not
return. -/
def run (hm : HeartbeatManager) : List TrustOp → Option (HeartbeatManager × List Bool)
  | [] => some (hm, [])
  | op :: ops =>
      match step p c net hm op with
      | none => none
      | some (b, hm') => (run hm' ops).map fun r => (r.1, b :: r.2)

/-- The states reached from a freshly started manager. -/
inductive Reachable : HeartbeatManager → Prop
  | init (pd : Option PeerDiscoveryManager) (connman : Bool) : Reachable (init pd connman)
  | step {hm hm' : HeartbeatManager} {op : TrustOp} {b : Bool} :
      Reachable hm → step p c net hm op = some (b, hm') → Reachable hm'

variable {p c net}

/-- An invariant of the fresh managers that every returning step keeps holds in every
reachable state. -/
lemma Reachable.induction {I : HeartbeatManager → Prop}
    (h₀ : ∀ pd cm, I (HeartbeatManager.init pd cm))
    (hs : ∀ hm op b hm', I hm → HeartbeatManager.step p c net hm op = some (b, hm') → I hm')
    {hm : HeartbeatManager} (h : Reachable p c net hm) : I hm := by
  induction h with
  | init pd cm => exact h₀ pd cm
  | step _ hst ih => exact hs _ _ _ _ ih hst

/-- A run that returns ends in a reachable state. -/
lemma Reachable.run : ∀ {hm hm' : HeartbeatManager} (ops : List TrustOp) {rs : List Bool},
    Reachable p c net hm → run p c net hm ops = some (hm', rs) → Reachable p c net hm'
  | _, _, [], _, h, hr => by cases hr; exact h
  | hm, _, op :: ops, _, h, hr => by
      unfold HeartbeatManager.run at hr
      split at hr
      · cases hr
      · rename_i b hm₁ hst
        obtain ⟨⟨hm₂, rs₂⟩, hr₂, hr⟩ := Option.map_eq_some'.mp hr
        cases hr
        exact Reachable.run ops (.step h hst) hr₂

/-! ### What the trust manager can become -/

@[simp] lemma checkIn_trustManager (hm : HeartbeatManager) (hb : Heartbeat) :
    (checkIn net hm hb).trustManager =
      (hm.trustManager.updateValidatorAddress net hm.peerDiscovery hb.validatorId hb.nodeAddress
        hb.timestamp).2.1 := by
  unfold checkIn
  dsimp only
  split
  · rfl
  · split_ifs <;> rfl

/-- **The auto-add branch of `ProcessHeartbeat` is dead.** For a validator the trust manager
knows and a valid address, `UpdateValidatorAddress` has already handed the address to
`g_peer_discovery`; the manager's own `ProcessValidatorAddress` then finds it known, so
nothing is added with `AddNode` and nothing is marked added. -/
lemma checkIn_peerDiscovery (hm : HeartbeatManager) (hb : Heartbeat)
    (hknown : (hm.trustManager.validators.find? hb.validatorId).isSome)
    (hvalid : net.isValid hb.nodeAddress = true) :
    (checkIn net hm hb).peerDiscovery =
      hm.peerDiscovery.map fun d => (d.processValidatorAddress net hb.nodeAddress hb.validatorId).2 := by
  obtain ⟨info, hinfo⟩ := Option.isSome_iff_exists.mp hknown
  have hupd : (hm.trustManager.updateValidatorAddress net hm.peerDiscovery hb.validatorId
      hb.nodeAddress hb.timestamp).2.2 =
      hm.peerDiscovery.map fun d => (d.processValidatorAddress net hb.nodeAddress hb.validatorId).2 := by
    simp [TrustScoreManager.updateValidatorAddress, hinfo, hvalid]
  unfold checkIn
  dsimp only
  rw [hupd]
  cases hm.peerDiscovery with
  | none => rfl
  | some d =>
      dsimp only [Option.map_some']
      rw [PeerDiscoveryManager.processValidatorAddress_of_known net _
        (PeerDiscoveryManager.processValidatorAddress_known net d hvalid _)]
      rfl

/-- The trust manager after a heartbeat: unchanged, or the trust manager's own update,
possibly followed by the check-in. -/
lemma processHeartbeat_trustManager {hm hm' : HeartbeatManager} {hb : Heartbeat} {b : Bool}
    (h : hm.processHeartbeat p c net hb = some (b, hm')) :
    hm'.trustManager = hm.trustManager ∨
      hm'.trustManager = (hm.trustManager.processHeartbeat p hb hb.blockHeight).2 ∨
      ∃ pd, hm'.trustManager = ((hm.trustManager.processHeartbeat p hb hb.blockHeight).2.updateValidatorAddress
        net pd hb.validatorId hb.nodeAddress hb.timestamp).2.1 := by
  unfold processHeartbeat at h
  dsimp only at h
  split_ifs at h <;> cases h
  · exact .inl rfl
  · exact .inl rfl
  · exact .inr (.inl rfl)
  · exact .inr (.inr ⟨_, checkIn_trustManager _ _⟩)

end HeartbeatManager

/-! ### Every record is active with the minimum stake -/

/-- Every record of the trust manager is active and holds the minimum stake. -/
def TrustScoreManager.RecordsActive (p : Params) (m : TrustScoreManager) : Prop :=
  ∀ id info, m.validators.find? id = some info →
    info.isActive = true ∧ p.nMinValidatorStake ≤ info.stakeAmount

namespace TrustScoreManager.RecordsActive

variable {p : Params} {net : NetApi} {m : TrustScoreManager}

lemma empty : TrustScoreManager.empty.RecordsActive p := fun _ _ h => by
  simp [TrustScoreManager.empty] at h

lemma insert (h : m.RecordsActive p) {id : KeyID} {v : ValidatorInfo} (hv : v.isActive = true)
    (hs : p.nMinValidatorStake ≤ v.stakeAmount) :
    RecordsActive p { m with validators := m.validators.insert id v } := by
  intro id' info hinfo
  rw [StdMap.find?_insert_eq] at hinfo
  split_ifs at hinfo
  · cases hinfo; exact ⟨hv, hs⟩
  · exact h id' info hinfo

lemma registerValidator (h : m.RecordsActive p) (id : KeyID) (stake fee : Int) (height : Int32) :
    (m.registerValidator p id stake fee height).2.RecordsActive p := by
  rcases TrustScoreManager.registerValidator_cases p m id stake fee height with hr | ⟨hs, -, hr⟩ <;>
    rw [hr]
  · exact h
  · exact h.insert rfl hs

lemma processHeartbeat (h : m.RecordsActive p) (hb : Heartbeat) (height : Int32) :
    (m.processHeartbeat p hb height).2.RecordsActive p := by
  rcases TrustScoreManager.processHeartbeat_cases p m hb height with hr | ⟨info, hinfo, -, -, hr⟩ <;>
    rw [hr]
  · exact h
  · exact h.insert (h _ _ hinfo).1 (h _ _ hinfo).2

lemma updateValidatorAddress (h : m.RecordsActive p) (pd : Option PeerDiscoveryManager) (id : KeyID)
    (address : Service) (t : Int) :
    (m.updateValidatorAddress net pd id address t).2.1.RecordsActive p := by
  rcases TrustScoreManager.updateValidatorAddress_cases net m pd id address t with hr | ⟨info, hinfo, -, hr⟩ <;>
    rw [hr]
  · exact h
  · exact h.insert (h _ _ hinfo).1 (h _ _ hinfo).2

lemma updateHeartbeatExpectations (h : m.RecordsActive p) (height : Int32) :
    (m.updateHeartbeatExpectations p height).RecordsActive p := fun id info hinfo => by
  rw [TrustScoreManager.updateHeartbeatExpectations_find?, Option.map_eq_some'] at hinfo
  obtain ⟨info₀, h₀, rfl⟩ := hinfo
  rw [TrustScoreManager.expectationStep_eq]
  exact h id info₀ h₀

lemma listStep (h : m.RecordsActive p) (info : ValidatorInfo) :
    (HeartbeatManager.listStep p m info).RecordsActive p := by
  unfold HeartbeatManager.listStep
  split_ifs
  · split
    · exact h.registerValidator _ _ _ _
    · exact h
  · exact h

end TrustScoreManager.RecordsActive

namespace HeartbeatManager

variable {p : Params} {c : Crypto} {net : NetApi}

open TrustScoreManager in
/-- One event keeps every record active with the minimum stake. -/
lemma step_recordsActive {hm hm' : HeartbeatManager} {op : TrustOp} {b : Bool}
    (h : hm.trustManager.RecordsActive p) (hst : step p c net hm op = some (b, hm')) :
    hm'.trustManager.RecordsActive p := by
  cases op with
  | registration reg =>
      obtain rfl := congrArg Prod.snd (Option.some.inj hst)
      unfold processValidatorRegistration
      split_ifs
      · exact h
      · exact h
      · exact h.registerValidator _ _ _ _
  | validatorList l =>
      obtain rfl := congrArg Prod.snd (Option.some.inj hst)
      show (l.validators.foldl (listStep p) hm.trustManager).RecordsActive p
      generalize hm.trustManager = m at h ⊢
      induction l.validators generalizing m with
      | nil => exact h
      | cons info rest ih => exact ih _ (h.listStep info)
  | heartbeat hb =>
      rcases processHeartbeat_trustManager hst with he | he | ⟨pd, he⟩ <;> rw [he]
      · exact h
      · exact h.processHeartbeat hb _
      · exact (h.processHeartbeat hb _).updateValidatorAddress pd _ _ _
  | newBlock height =>
      obtain rfl := congrArg Prod.snd (Option.some.inj hst)
      exact h.updateHeartbeatExpectations height

/-- **In every reachable state, every record of the trust manager is active and holds the
minimum stake**: nothing among these events deactivates a record or lowers its stake. -/
lemma recordsActive_of_reachable {hm : HeartbeatManager} (h : Reachable p c net hm) :
    hm.trustManager.RecordsActive p :=
  Reachable.induction (I := fun hm => hm.trustManager.RecordsActive p)
    (fun _ _ => TrustScoreManager.RecordsActive.empty) (fun _ _ _ _ hi hst => step_recordsActive hi hst) h

end HeartbeatManager

end WattxCore
