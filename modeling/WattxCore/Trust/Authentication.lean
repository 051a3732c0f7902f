import WattxCore.Trust.Uptime

/-!
What the heartbeat path authenticates. `Heartbeat::Verify` exists, but
`HeartbeatManager::ProcessHeartbeat` never calls it, and `ValidatorInfo` keeps no key it
could be called with.

* `processHeartbeat_signature`: **in every state a heartbeat has the same reply and the same
  effect whatever signature it carries**;
* `processHeartbeat_unknown`: a heartbeat in the name of a validator the trust manager does
  not know is rejected and changes neither the trust manager nor peer discovery;
* `forged_heartbeat_accepted`: an unsigned heartbeat in a registered validator's name is
  counted, moves the validator's address and adds it to the known peers.
-/

namespace WattxCore

open HeartbeatManager

variable {p : Params} {c : Crypto} {net : NetApi}

/-- **The heartbeat path never reads the signature**: in every state, the same heartbeat with
any other signature has the same reply and the same effect. -/
lemma processHeartbeat_signature (hm : HeartbeatManager) (hb : Heartbeat) (s : Sig) :
    hm.processHeartbeat p c net { hb with signature := s } = hm.processHeartbeat p c net hb := rfl

/-- A heartbeat in the name of a validator the trust manager does not know is rejected, and
leaves the trust manager and peer discovery as they were; only the replay set records it. -/
lemma processHeartbeat_unknown {hm hm' : HeartbeatManager} {hb : Heartbeat} {b : Bool}
    (hV : hm.trustManager.getValidator hb.validatorId = none)
    (h : hm.processHeartbeat p c net hb = some (b, hm')) :
    b = false ∧ hm'.trustManager = hm.trustManager ∧ hm'.peerDiscovery = hm.peerDiscovery := by
  have hrej : hm.trustManager.processHeartbeat p hb hb.blockHeight = (false, hm.trustManager) := by
    unfold TrustScoreManager.processHeartbeat
    rw [show hm.trustManager.validators.find? hb.validatorId = none from hV]
  unfold HeartbeatManager.processHeartbeat at h
  dsimp only at h
  simp only [hrej] at h
  split_ifs at h <;> cases h <;> exact ⟨rfl, rfl, rfl⟩

/-! ### A heartbeat no key of the validator signed -/

/-- Validator `1` registered by its own announcement at height 0, with an empty peer
discovery and no connection manager. -/
def registeredOne : HeartbeatManager :=
  ((init (some ⟨StdMap.empty, StdMap.empty⟩) false).processValidatorRegistration Params.sample
    Crypto.toy (signedRegistration 1 0)).2

/-- A heartbeat in validator `1`'s name for height 10, from address `7:18888`, carrying no
signature. -/
def unsignedHeartbeat : Heartbeat := ⟨1, 10, 0, 0, ⟨7, 18888⟩, 18888, []⟩

/-- Validator `1`'s received count and address, and whether `7:18888` is a known peer. -/
def checkInOfOne (hm : HeartbeatManager) : Option (Int × Service) × Bool :=
  ((hm.trustManager.getValidator 1).map fun v => (v.heartbeatsReceived.val, v.lastKnownAddress),
    hm.peerDiscovery.any fun d => (d.knownValidatorPeers.find? ⟨7, 18888⟩).isSome)

/-- No key of validator `1` signed `unsignedHeartbeat`, yet it is accepted: validator `1`'s
received count goes from 0 to 1, its address becomes `7:18888`, and peer discovery learns
that address. -/
theorem forged_heartbeat_accepted :
    ¬ SignedBy Crypto.toy 1 (unsignedHeartbeat.getHash Crypto.toy NetApi.sample)
        unsignedHeartbeat.signature ∧
      checkInOfOne registeredOne = (some (0, Service.none), false) ∧
      (registeredOne.processHeartbeat Params.sample Crypto.toy NetApi.sample unsignedHeartbeat).map
          (fun r => (r.1, checkInOfOne r.2)) =
        some (true, some (1, ⟨7, 18888⟩), true) :=
  ⟨fun ⟨_, _, h⟩ => Bool.false_ne_true h, by decide, by decide⟩

end WattxCore
