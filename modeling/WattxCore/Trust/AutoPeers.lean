import WattxCore.Trust.Uptime

/-!
The auto-add path of `HeartbeatManager::ProcessHeartbeat`: an accepted heartbeat from a valid
address that `g_peer_discovery` does not know is meant to be handed to `m_connman->AddNode`
and marked added. `TrustScoreManager::UpdateValidatorAddress` runs first, and it already
offers the address to `g_peer_discovery`, which records it as known and pending; the
manager's own offer then finds nothing new.

* `checkIn_addedNodes`: for a validator the trust manager knows, the check-in hands no
  address to `AddNode`;
* `processHeartbeat_addedNodes`, `addedNodes_of_reachable`: **no heartbeat ever reaches
  `AddNode`**, so in every reachable state the connection manager was handed nothing;
* `processHeartbeat_pending`: an accepted heartbeat from a valid address peer discovery did
  not know leaves that address pending, where `MarkPeerAdded` never takes it out;
* `new_peer_left_pending`: a registered validator's heartbeat from a new address, with a
  connection manager set, adds no node and leaves the address pending.
-/

namespace WattxCore

namespace HeartbeatManager

variable {p : Params} {c : Crypto} {net : NetApi}

/-- For a validator the trust manager knows, the check-in calls no `AddNode`: a valid address
is known to peer discovery once `UpdateValidatorAddress` has offered it, and an invalid one is
never new. -/
lemma checkIn_addedNodes (hm : HeartbeatManager) (hb : Heartbeat)
    (hknown : (hm.trustManager.validators.find? hb.validatorId).isSome) :
    (checkIn net hm hb).addedNodes = hm.addedNodes := by
  obtain ⟨info, hinfo⟩ := Option.isSome_iff_exists.mp hknown
  unfold checkIn
  simp only [TrustScoreManager.updateValidatorAddress, hinfo]
  cases hm.peerDiscovery with
  | none => split_ifs <;> rfl
  | some d =>
      by_cases hv : net.isValid hb.nodeAddress = true
      · simp [hv, PeerDiscoveryManager.processValidatorAddress_of_known net _
          (PeerDiscoveryManager.processValidatorAddress_known net d hv _)]
      · simp [hv, PeerDiscoveryManager.processValidatorAddress]

/-- The trust manager accepts a heartbeat only from a validator it knows, and still knows it
afterwards. -/
lemma processHeartbeat_known {m : TrustScoreManager} {hb : Heartbeat} {height : Int32}
    (h : (m.processHeartbeat p hb height).1 = true) :
    ((m.processHeartbeat p hb height).2.validators.find? hb.validatorId).isSome := by
  rcases TrustScoreManager.processHeartbeat_cases p m hb height with hr | ⟨_, -, -, -, hr⟩ <;>
    rw [hr] at h ⊢
  · cases h
  · simp

/-- **`ProcessHeartbeat` never calls `AddNode`.** -/
lemma processHeartbeat_addedNodes {hm hm' : HeartbeatManager} {hb : Heartbeat} {b : Bool}
    (h : hm.processHeartbeat p c net hb = some (b, hm')) : hm'.addedNodes = hm.addedNodes := by
  unfold processHeartbeat at h
  dsimp only at h
  split_ifs at h with h₁ h₂ h₃ <;> cases h
  · rfl
  · rfl
  · rfl
  · exact checkIn_addedNodes _ _ (processHeartbeat_known (by simpa using h₃))

/-- No event hands an address to `AddNode`. -/
lemma step_addedNodes {hm hm' : HeartbeatManager} {op : TrustOp} {b : Bool}
    (h : step p c net hm op = some (b, hm')) : hm'.addedNodes = hm.addedNodes := by
  cases op with
  | heartbeat hb => exact processHeartbeat_addedNodes h
  | registration reg =>
      obtain rfl := congrArg Prod.snd (Option.some.inj h)
      unfold processValidatorRegistration
      split_ifs <;> rfl
  | validatorList | newBlock =>
      obtain rfl := congrArg Prod.snd (Option.some.inj h)
      rfl

/-- **In every reachable state, the connection manager was handed no address.** -/
lemma addedNodes_of_reachable {hm : HeartbeatManager} (h : Reachable p c net hm) :
    hm.addedNodes = [] :=
  Reachable.induction (I := fun hm => hm.addedNodes = []) (fun _ _ => rfl)
    (fun _ _ _ _ hi hst => (step_addedNodes hst).trans hi) h

/-- An accepted heartbeat from a valid address that peer discovery did not know leaves the
address known and pending. -/
lemma processHeartbeat_pending {hm hm' : HeartbeatManager} {hb : Heartbeat} {d : PeerDiscoveryManager}
    (hd : hm.peerDiscovery = some d) (hv : net.isValid hb.nodeAddress = true)
    (hnew : d.knownValidatorPeers.find? hb.nodeAddress = none)
    (h : hm.processHeartbeat p c net hb = some (true, hm')) :
    ∃ d', hm'.peerDiscovery = some d' ∧ (d'.knownValidatorPeers.find? hb.nodeAddress).isSome ∧
      (d'.pendingAdditions.find? hb.nodeAddress).isSome := by
  unfold processHeartbeat at h
  dsimp only at h
  split_ifs at h with h₁ h₂ h₃ h₄ <;> cases h
  · simp [hv] at h₄
  · rw [checkIn_peerDiscovery _ _ (processHeartbeat_known (by simpa using h₃)) hv]
    refine ⟨_, by rw [hd]; rfl, ?_⟩
    simp [PeerDiscoveryManager.processValidatorAddress, hv, hnew]

end HeartbeatManager

open HeartbeatManager

/-- Validator `1` registered by its own announcement at height 0, with an empty peer
discovery and a connection manager set. -/
def connectedOne : HeartbeatManager :=
  ((init (some ⟨StdMap.empty, StdMap.empty⟩) true).processValidatorRegistration Params.sample
    Crypto.toy (signedRegistration 1 0)).2

/-- Validator `1`'s heartbeat for height 10 from the new, valid address `1:18888` is accepted
with a connection manager set; no node is added and the address stays pending. -/
theorem new_peer_left_pending :
    connectedOne.connman = true ∧ NetApi.sample.isValid ⟨1, 18888⟩ = true ∧
      connectedOne.peerDiscovery.map (fun d => (d.knownValidatorPeers.find? ⟨1, 18888⟩).isSome) =
        some false ∧
      (connectedOne.processHeartbeat Params.sample Crypto.toy NetApi.sample (heartbeatAt 1 10)).map
          (fun r => (r.1, r.2.addedNodes,
            r.2.peerDiscovery.map fun d => (d.pendingAdditions.find? ⟨1, 18888⟩).isSome)) =
        some (true, [], some true) := by
  decide

end WattxCore
