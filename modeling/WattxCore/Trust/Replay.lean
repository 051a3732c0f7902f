import WattxCore.Trust.Uptime

/-!
Replay protection of `HeartbeatManager::ProcessHeartbeat`. A heartbeat's hash enters the
seen set before the trust manager looks at it, and nothing ever takes a hash out:
`CleanupSeenHeartbeats`, the only code that would, is reached through a second lock of
`cs_heartbeat` and never returns.

* `processHeartbeat_seen`: a heartbeat that returns either leaves the seen set as it was,
  with reply `false`, or adds its own hash, which was new, and the set stays within
  `MAX_SEEN_HEARTBEATS`;
* `processHeartbeat_rejected`: a heartbeat rejected with `false` leaves the trust manager, peer
  discovery and the added nodes as they were, and the seen set as it was or with the
  heartbeat's hash added;
* `run_seen`: over a run the seen set only grows, and each accepted heartbeat's hash was new
  when it arrived;
* `heartbeat_counted_once`: **from a fresh manager, over every run that returns, each
  distinct heartbeat is accepted at most once, a validator's received count is the number
  of its accepted heartbeats, and the seen set never outgrows the limit**: a run that would
  make `CleanupSeenHeartbeats` evict anything does not return.
-/

namespace WattxCore

/-- The hash of an event that is an accepted heartbeat. -/
def TrustOp.acceptedHash (c : Crypto) (net : NetApi) : TrustOp → Bool → List Digest
  | .heartbeat hb, b => if b then [hb.getHash c net] else []
  | .registration _, _ | .validatorList _, _ | .newBlock _, _ => []

/-- The hashes of the heartbeats a run accepted, in order. -/
def acceptedHashes (c : Crypto) (net : NetApi) : List TrustOp → List Bool → List Digest
  | op :: ops, b :: bs => op.acceptedHash c net b ++ acceptedHashes c net ops bs
  | _, _ => []

namespace HeartbeatManager

variable {p : Params} {c : Crypto} {net : NetApi}

@[simp] lemma checkIn_seenHeartbeats (hm : HeartbeatManager) (hb : Heartbeat) :
    (checkIn net hm hb).seenHeartbeats = hm.seenHeartbeats := by
  unfold checkIn
  dsimp only
  split
  · rfl
  · split_ifs <;> rfl

/-- **A heartbeat that returns** leaves the seen set as it was, with reply `false`, or adds
its hash, which was not there, and the set is then within `MAX_SEEN_HEARTBEATS`. -/
lemma processHeartbeat_seen {hm hm' : HeartbeatManager} {hb : Heartbeat} {b : Bool}
    (h : hm.processHeartbeat p c net hb = some (b, hm')) :
    (b = false ∧ hm'.seenHeartbeats = hm.seenHeartbeats) ∨
      (hm.seenHeartbeats.find? (hb.getHash c net) = none ∧
        hm'.seenHeartbeats = hm.seenHeartbeats.insert (hb.getHash c net) () ∧
        hm'.seenHeartbeats.size ≤ MAX_SEEN_HEARTBEATS) := by
  unfold processHeartbeat at h
  dsimp only at h
  split_ifs at h with h₁ h₂ <;> cases h
  · exact .inl ⟨rfl, rfl⟩
  all_goals exact .inr ⟨Option.not_isSome_iff_eq_none.mp h₁, by simp, by simpa using h₂⟩

/-- **A heartbeat rejected with `false`** leaves the trust manager, peer discovery and the added
nodes as they were; the seen set is as it was, or has gained the heartbeat's hash, when the
trust manager is the one that rejects. -/
theorem processHeartbeat_rejected {hm hm' : HeartbeatManager} {hb : Heartbeat}
    (h : hm.processHeartbeat p c net hb = some (false, hm')) :
    hm'.trustManager = hm.trustManager ∧ hm'.peerDiscovery = hm.peerDiscovery ∧
      hm'.addedNodes = hm.addedNodes ∧
      (hm'.seenHeartbeats = hm.seenHeartbeats ∨
        hm'.seenHeartbeats = hm.seenHeartbeats.insert (hb.getHash c net) ()) := by
  unfold processHeartbeat at h
  dsimp only at h
  split_ifs at h <;> cases h
  · exact ⟨rfl, rfl, rfl, .inl rfl⟩
  · exact ⟨rfl, rfl, rfl, .inr rfl⟩

/-- The manager after validator `1` announced itself at height 0 and checked in at height 10. -/
def checkedInAt10 : HeartbeatManager :=
  ((trustAfter [.registration (signedRegistration 1 0), .heartbeat (heartbeatAt 1 10)]).map
    Prod.fst).getD (init none false)

/-- Validator `1` checks in again at height 15, half an interval after its heartbeat at 10:
the trust manager rejects it, and only its hash enters the seen set. -/
theorem processHeartbeat_rejected_early :
    ∃ hm', checkedInAt10.processHeartbeat Params.sample Crypto.toy NetApi.sample (heartbeatAt 1 15) =
        some (false, hm') ∧
      hm'.trustManager = checkedInAt10.trustManager ∧
      hm'.peerDiscovery = checkedInAt10.peerDiscovery ∧
      hm'.addedNodes = checkedInAt10.addedNodes ∧
      (hm'.seenHeartbeats = checkedInAt10.seenHeartbeats ∨
        hm'.seenHeartbeats = checkedInAt10.seenHeartbeats.insert
          ((heartbeatAt 1 15).getHash Crypto.toy NetApi.sample) ()) :=
  have h : checkedInAt10.processHeartbeat Params.sample Crypto.toy NetApi.sample (heartbeatAt 1 15) =
      some (false, { checkedInAt10 with
        seenHeartbeats := checkedInAt10.seenHeartbeats.insert
          ((heartbeatAt 1 15).getHash Crypto.toy NetApi.sample) () }) := by rfl
  ⟨_, h, processHeartbeat_rejected h⟩

/-- One event either accepts no heartbeat and leaves the seen set alone, or adds one new hash,
within `MAX_SEEN_HEARTBEATS`, and accepts at most the heartbeat of that hash. -/
lemma step_seen {hm hm' : HeartbeatManager} {op : TrustOp} {b : Bool}
    (h : step p c net hm op = some (b, hm')) :
    (op.acceptedHash c net b = [] ∧ hm'.seenHeartbeats = hm.seenHeartbeats) ∨
      ∃ H, hm.seenHeartbeats.find? H = none ∧ hm'.seenHeartbeats = hm.seenHeartbeats.insert H () ∧
        hm'.seenHeartbeats.size ≤ MAX_SEEN_HEARTBEATS ∧
        (op.acceptedHash c net b = [] ∨ op.acceptedHash c net b = [H]) := by
  cases op with
  | heartbeat hb =>
      rcases processHeartbeat_seen h with ⟨rfl, hs⟩ | ⟨hn, hs, hsz⟩
      · exact .inl ⟨rfl, hs⟩
      · exact .inr ⟨_, hn, hs, hsz, by cases b <;> simp [TrustOp.acceptedHash]⟩
  | registration reg =>
      obtain rfl := congrArg Prod.snd (Option.some.inj h)
      refine .inl ⟨rfl, ?_⟩
      unfold processValidatorRegistration
      split_ifs <;> rfl
  | validatorList | newBlock =>
      obtain rfl := congrArg Prod.snd (Option.some.inj h)
      exact .inl ⟨rfl, rfl⟩

/-- **Over a run that returns**, the seen set only grows and stays within the limit, and the
accepted heartbeats have pairwise distinct hashes, each new when it arrived and seen at the
end. -/
lemma run_seen : ∀ (ops : List TrustOp) {hm hm' : HeartbeatManager} {rs : List Bool},
    hm.seenHeartbeats.size ≤ MAX_SEEN_HEARTBEATS → run p c net hm ops = some (hm', rs) →
      hm'.seenHeartbeats.size ≤ MAX_SEEN_HEARTBEATS ∧
      (∀ H, (hm.seenHeartbeats.find? H).isSome → (hm'.seenHeartbeats.find? H).isSome) ∧
      (acceptedHashes c net ops rs).Nodup ∧
      ∀ H ∈ acceptedHashes c net ops rs,
        hm.seenHeartbeats.find? H = none ∧ (hm'.seenHeartbeats.find? H).isSome
  | [], _, _, _, hsz, hr => by cases hr; exact ⟨hsz, fun _ h => h, List.nodup_nil, by simp [acceptedHashes]⟩
  | op :: ops, hm, _, _, hsz, hr => by
      unfold HeartbeatManager.run at hr
      split at hr
      · cases hr
      · rename_i b hm₁ hst
        obtain ⟨⟨hm₂, rs₂⟩, hr₂, hr⟩ := Option.map_eq_some'.mp hr
        cases hr
        rcases step_seen hst with ⟨hacc, hs⟩ | ⟨H, hn, hs, hsz₁, hacc⟩
        · obtain ⟨hsz', hmono, hnd, hnew⟩ := run_seen ops (hs ▸ hsz) hr₂
          rw [hs] at hmono hnew
          simp only [acceptedHashes, hacc, List.nil_append]
          exact ⟨hsz', hmono, hnd, hnew⟩
        · obtain ⟨hsz', hmono, hnd, hnew⟩ := run_seen ops hsz₁ hr₂
          have grow : ∀ H', (hm.seenHeartbeats.find? H').isSome → (hm₁.seenHeartbeats.find? H').isSome :=
            fun H' h => by rw [hs, StdMap.find?_insert_eq]; split_ifs <;> simp_all
          have hH : (hm₁.seenHeartbeats.find? H).isSome := by simp [hs]
          have fresh : ∀ H' ∈ acceptedHashes c net ops rs₂,
              hm.seenHeartbeats.find? H' = none ∧ (hm₂.seenHeartbeats.find? H').isSome := fun H' h' => by
            have hn' := (hnew H' h').1
            rw [hs, StdMap.find?_insert_eq] at hn'
            split_ifs at hn'
            exact ⟨hn', (hnew H' h').2⟩
          refine ⟨hsz', fun H' h => hmono H' (grow H' h), ?_⟩
          rcases hacc with hacc | hacc <;> simp only [acceptedHashes, hacc, List.nil_append]
          · exact ⟨hnd, fresh⟩
          · refine ⟨List.nodup_cons.mpr ⟨fun hm' => by simp [(hnew H hm').1] at hH, hnd⟩, fun H' h' => ?_⟩
            rcases List.mem_cons.mp h' with rfl | h'
            · exact ⟨hn, hmono _ hH⟩
            · exact fresh H' h'

end HeartbeatManager

open HeartbeatManager

variable {p : Params} {c : Crypto} {net : NetApi}

/-- **Each distinct heartbeat is counted at most once.** Over every run from a fresh manager
that returns (heartbeats duplicated, in any order, at any claimed height, interleaved with
announcements, peer lists and new blocks): no hash is among the accepted heartbeats twice,
each validator's received count is the number of its accepted heartbeats, and the seen set
never outgrows `MAX_SEEN_HEARTBEATS`, so `CleanupSeenHeartbeats` never evicts a hash. -/
theorem heartbeat_counted_once {pd : Option PeerDiscoveryManager} {cm : Bool} {ops : List TrustOp}
    {hm : HeartbeatManager} {rs : List Bool} (hr : run p c net (init pd cm) ops = some (hm, rs)) :
    (∀ H, (acceptedHashes c net ops rs).count H ≤ 1) ∧
      (∀ V info, hm.trustManager.getValidator V = some info →
        info.heartbeatsReceived = Int32.ofInt (acceptedCount V ops rs)) ∧
      hm.seenHeartbeats.size ≤ MAX_SEEN_HEARTBEATS := by
  obtain ⟨hsz, -, hnd, -⟩ := run_seen ops (Nat.zero_le _) hr
  exact ⟨List.nodup_iff_count_le_one.mp hnd, fun V info hV => heartbeatsReceived_of_run hr hV, hsz⟩

/-- Validator `1` announces itself; its heartbeat for height 10 arrives twice, then a block,
then the same heartbeat a third time. -/
def replayRun : List TrustOp :=
  [.registration (signedRegistration 1 0), .heartbeat (heartbeatAt 1 10),
    .heartbeat (heartbeatAt 1 10), .newBlock 10, .heartbeat (heartbeatAt 1 10)]

/-- The manager and replies after `replayRun`. -/
def replayAfter : HeartbeatManager × List Bool := (trustAfter replayRun).getD (init none false, [])

theorem heartbeat_counted_once_replayed :
    run Params.sample Crypto.toy NetApi.sample (init none false) replayRun = some replayAfter ∧
      (∀ H, (acceptedHashes Crypto.toy NetApi.sample replayRun replayAfter.2).count H ≤ 1) ∧
      (∀ V info, replayAfter.1.trustManager.getValidator V = some info →
        info.heartbeatsReceived = Int32.ofInt (acceptedCount V replayRun replayAfter.2)) ∧
      replayAfter.1.seenHeartbeats.size ≤ MAX_SEEN_HEARTBEATS :=
  have hr : run Params.sample Crypto.toy NetApi.sample (init none false) replayRun = some replayAfter := by
    obtain ⟨x, hx⟩ := Option.isSome_iff_exists.mp (by decide : (trustAfter replayRun).isSome = true)
    show trustAfter replayRun = some replayAfter
    rw [replayAfter, hx, Option.getD_some]
  ⟨hr, heartbeat_counted_once hr⟩

/-- Validator `1`'s heartbeat for height 10 before its announcement, the announcement, and the
same heartbeat again. -/
def earlyHeartbeatRun : List TrustOp :=
  [.heartbeat (heartbeatAt 1 10), .registration (signedRegistration 1 0), .heartbeat (heartbeatAt 1 10)]

/-- A heartbeat that arrives before its validator's announcement is rejected, and its hash
still enters the seen set: once the validator is registered, the same heartbeat is refused as
a replay, where without the early delivery it is accepted. -/
theorem rejected_heartbeat_marked_seen :
    (trustAfter [.heartbeat (heartbeatAt 1 10)]).map (fun r => (r.2, r.1.seenHeartbeats.size)) =
        some ([false], 1) ∧
      (trustAfter earlyHeartbeatRun).map Prod.snd = some [false, true, false] ∧
      (trustAfter earlyHeartbeatRun.tail).map Prod.snd = some [true, true] := by
  decide

end WattxCore
