import WattxCore.Validators.Aggregates
import WattxCore.Trust.Node

/-!
The locks of the validator core. `ValidatorDB`, `DelegationDB`, `HeartbeatManager` and
`PeerDiscoveryManager` each guard their state with one non-recursive `Mutex`
(`cs_validators`, `cs_delegations`, `cs_heartbeat`, `cs_peers`); `TrustScoreManager` has none.
A `LOCK` is an acquire event and the end of its scope a release. The lock history of a call is
the list of events its call chain performs, and `nestedAcquisitions` pairs each acquisition
with every mutex the chain holds when it is made.

* `CoreCall.locks`: the history of every public operation of the five components, with the
  branches that decide which callees run taken from the model of the call;
* `nestedAcquisitions_locked_leafCalls`: a scope whose callees each take only their own mutex
  nests exactly those mutexes under it;
* `distributeBlockReward_relocks`, `processHeartbeat_eq_none_iff_relocks`: `DistributeBlockReward`
  with a nonzero share, and `ProcessHeartbeat` once the seen set passes its limit, take their
  own mutex a second time (in `GetTotalDelegationForValidator` and `CleanupSeenHeartbeats`);
  the second happens exactly when the heartbeat model does not return;
* `lock_order_of_calls`: **one mutex is taken under another only as `cs_validators` under
  `cs_delegations` (`ProcessDelegation`, `ProcessUndelegation`) or `cs_peers` under
  `cs_heartbeat` (`ProcessHeartbeat`)**, so no two calls take two mutexes in opposite orders
  (`no_lock_inversion`);
* `delegation_locks_registry`: a delegation that passes its checks takes `cs_validators` twice
  inside `cs_delegations`.
-/

namespace WattxCore

/-- The mutexes the validator core owns. -/
inductive CoreMutex
  | cs_validators
  | cs_delegations
  | cs_heartbeat
  | cs_peers
  deriving DecidableEq, Repr

/-- A `LOCK`, or the end of its scope. -/
inductive LockEvent
  | acquire (m : CoreMutex)
  | release (m : CoreMutex)
  deriving DecidableEq, Repr

/-- A scope of `LOCK(m)` around `body`. -/
def locked (m : CoreMutex) (body : List LockEvent) : List LockEvent :=
  .acquire m :: body ++ [.release m]

/-- Calls, in order, into methods that each lock their own component's mutex and call nothing
that locks. -/
def leafCalls : List CoreMutex → List LockEvent
  | [] => []
  | m :: ms => locked m [] ++ leafCalls ms

@[simp] lemma leafCalls_cons (m : CoreMutex) (ms : List CoreMutex) :
    leafCalls (m :: ms) = .acquire m :: .release m :: leafCalls ms := rfl

/-- `LOCK(m)` and, inside its scope, a second `LOCK(m)`: on a non-recursive mutex the second
never returns, so the history ends there. -/
def relocked (m : CoreMutex) : List LockEvent := [.acquire m, .acquire m]

/-- Each acquisition of a history, paired with every mutex the chain holds when it is made;
`held` is what the chain holds when the history starts. -/
def nestedAcquisitions : List CoreMutex → List LockEvent → List (CoreMutex × CoreMutex)
  | _, [] => []
  | held, .acquire m :: es => held.map (·, m) ++ nestedAcquisitions (m :: held) es
  | held, .release m :: es => nestedAcquisitions (held.erase m) es

/-- Leaf calls nest their mutexes under what is held, and leave it held as it was. -/
lemma nestedAcquisitions_leafCalls (held ms : List CoreMutex) (es : List LockEvent) :
    nestedAcquisitions held (leafCalls ms ++ es) =
      ms.flatMap (fun m => held.map (·, m)) ++ nestedAcquisitions held es := by
  induction ms with
  | nil => rfl
  | cons m ms ih => simp [nestedAcquisitions, ih]

@[simp] lemma nestedAcquisitions_leafCalls_nil (ms : List CoreMutex) :
    nestedAcquisitions [] (leafCalls ms) = [] := by
  induction ms with
  | nil => rfl
  | cons m ms ih => simp [nestedAcquisitions, ih]

@[simp] lemma nestedAcquisitions_locked_leafCalls (m : CoreMutex) (ms : List CoreMutex) :
    nestedAcquisitions [] (locked m (leafCalls ms)) = ms.map (m, ·) := by
  simp [locked, nestedAcquisitions, nestedAcquisitions_leafCalls, List.map_eq_flatMap]

@[simp] lemma nestedAcquisitions_locked_nil (m : CoreMutex) :
    nestedAcquisitions [] (locked m []) = [] :=
  nestedAcquisitions_locked_leafCalls m []

@[simp] lemma nestedAcquisitions_relocked (m : CoreMutex) :
    nestedAcquisitions [] (relocked m) = [(m, m)] := rfl

/-- A scope of leaf calls into one component nests only that component's mutex under its own. -/
lemma mem_nested_locked_leafCalls {m m' held k : CoreMutex} {ms : List CoreMutex}
    (hms : ∀ k ∈ ms, k = m') (h : (held, k) ∈ nestedAcquisitions [] (locked m (leafCalls ms))) :
    held = m ∧ k = m' := by
  obtain ⟨k', hk', hk⟩ := List.mem_map.mp ((nestedAcquisitions_locked_leafCalls m ms).symm ▸ h)
  cases hk
  exact ⟨rfl, hms _ hk'⟩

/-! ### The ledger -/

namespace DelegationDB

variable (c : Crypto)

/-- The registry calls `ProcessDelegation` makes inside `cs_delegations`: `GetValidator` once
the signature and the amount pass, and `AddDelegation` once the record is written, which is
exactly when the call returns `true`. -/
def processDelegationCalls (vdb : ValidatorDB) (db : DelegationDB) (r : DelegationRequest)
    (outpoint : OutPoint) : List CoreMutex :=
  if r.verify c = false ∨ r.amount < MIN_DELEGATION_AMOUNT then []
  else if (processDelegation c vdb db r outpoint).1 then [.cs_validators, .cs_validators]
  else [.cs_validators]

/-- The `RemoveDelegation` calls of `undelegateLoop`, one for each record it moves to
`UNBONDING`. -/
def undelegateCalls (r : UndelegationRequest) (height : Int32) :
    List Digest → Int → StdMap Digest DelegationEntry → List CoreMutex
  | [], _, _ => []
  | id :: ids, remaining, ds =>
      match ds.find? id with
      | none => undelegateCalls r height ids remaining ds
      | some e =>
          if e.validatorId ≠ r.validatorId ∨ e.status ≠ .ACTIVE then
            undelegateCalls r height ids remaining ds
          else
            let share := undelegationShare r.amount remaining e.amount
            .cs_validators :: if share.2 = 0 then [] else
              undelegateCalls r height ids share.2
                (ds.insert id { e with status := .UNBONDING, unbondingStartHeight := height })

/-- The registry calls `ProcessUndelegation` makes inside `cs_delegations`. -/
def processUndelegationCalls (db : DelegationDB) (r : UndelegationRequest) : List CoreMutex :=
  match db.delegatorIndex.find? r.delegatorId with
  | none => []
  | some ids => undelegateCalls r db.currentHeight ids r.amount db.delegations

lemma processDelegationCalls_registry (vdb : ValidatorDB) (db : DelegationDB)
    (r : DelegationRequest) (o : OutPoint) :
    ∀ m ∈ processDelegationCalls c vdb db r o, m = .cs_validators := by
  unfold processDelegationCalls
  split_ifs <;> simp

lemma undelegateCalls_registry (r : UndelegationRequest) (h : Int32) :
    ∀ ids remaining ds, ∀ m ∈ undelegateCalls r h ids remaining ds, m = .cs_validators
  | [], _, _, _, hm => nomatch hm
  | id :: ids, remaining, ds, m, hm => by
      unfold undelegateCalls at hm
      split at hm
      · exact undelegateCalls_registry r h ids _ _ m hm
      · split_ifs at hm
        · exact undelegateCalls_registry r h ids _ _ m hm
        · rcases List.mem_cons.mp hm with rfl | hm
          · rfl
          · split_ifs at hm
            · cases hm
            · exact undelegateCalls_registry r h ids _ _ m hm

lemma processUndelegationCalls_registry (db : DelegationDB) (r : UndelegationRequest) :
    ∀ m ∈ processUndelegationCalls db r, m = .cs_validators := by
  unfold processUndelegationCalls
  split
  · simp
  · exact undelegateCalls_registry r _ _ _ _

end DelegationDB

/-- The lock history of a writer of `ValidatorDB` or `DelegationDB`. Every registry writer,
and every ledger writer but three, locks its own mutex and calls nothing that locks;
`ProcessDelegation` and `ProcessUndelegation` call the registry inside `cs_delegations`, and
`DistributeBlockReward` with a nonzero share calls `GetTotalDelegationForValidator`, which
locks `cs_delegations` again. -/
def LedgerOp.locks (c : Crypto) (L : Ledger) : LedgerOp → List LockEvent
  | .registerValidator _ | .processUpdate _ | .updateStakeOutpoint _ _ | .setValidatorStatus _ _
  | .jailValidator _ _ | .unjailValidator _ | .addDelegation _ _ | .removeDelegation _ _
  | .validatorBlock _ => locked .cs_validators []
  | .processDelegation r o =>
      locked .cs_delegations (leafCalls (DelegationDB.processDelegationCalls c L.vdb L.ddb r o))
  | .processUndelegation r =>
      locked .cs_delegations (leafCalls (L.ddb.processUndelegationCalls r))
  | .distributeBlockReward _ s =>
      if s = 0 then locked .cs_delegations [] else relocked .cs_delegations
  | .processRewardClaim _ | .addRewards _ _ | .setDelegationStatus _ _
  | .updateDelegationOutpoint _ _ | .delegationBlock _ => locked .cs_delegations []

/-- A ledger writer takes a mutex under another only inside `cs_delegations`: `cs_validators`,
or `cs_delegations` itself. -/
lemma LedgerOp.nested_locks (c : Crypto) (L : Ledger) (op : LedgerOp) {held m : CoreMutex}
    (h : (held, m) ∈ nestedAcquisitions [] (op.locks c L)) :
    held = .cs_delegations ∧ (m = .cs_validators ∨ m = .cs_delegations) := by
  cases op with
  | processDelegation r o =>
      obtain ⟨rfl, rfl⟩ := mem_nested_locked_leafCalls
        (DelegationDB.processDelegationCalls_registry c _ _ r o) h
      exact ⟨rfl, .inl rfl⟩
  | processUndelegation r =>
      obtain ⟨rfl, rfl⟩ := mem_nested_locked_leafCalls
        (DelegationDB.processUndelegationCalls_registry _ r) h
      exact ⟨rfl, .inl rfl⟩
  | distributeBlockReward v s =>
      by_cases hs : s = 0
      · simp [locks, hs] at h
      · simp [locks, hs] at h
        exact ⟨h.1, .inr h.2⟩
  | _ => simp [locks] at h

/-- **`DistributeBlockReward` with a nonzero share locks `cs_delegations` twice**: the read of
the validator's total in `GetTotalDelegationForValidator` takes the mutex the call holds. -/
lemma distributeBlockReward_relocks (c : Crypto) (L : Ledger) (V : KeyID) {S : Int} (hS : S ≠ 0) :
    nestedAcquisitions [] ((LedgerOp.distributeBlockReward V S).locks c L) =
      [(.cs_delegations, .cs_delegations)] := by
  simp [LedgerOp.locks, hS]

/-! ### The trust subsystem -/

namespace HeartbeatManager

variable (p : Params) (c : Crypto) (net : NetApi)

/-- The peer-discovery calls of `checkIn`: the `ProcessValidatorAddress` inside
`UpdateValidatorAddress` when that records the check-in, the manager's own
`ProcessValidatorAddress`, and `MarkPeerAdded` for a new peer when `m_connman` is set; each
only when `g_peer_discovery` is set. -/
def checkInCalls (hm : HeartbeatManager) (hb : Heartbeat) : List CoreMutex :=
  let r := hm.trustManager.updateValidatorAddress net hm.peerDiscovery hb.validatorId
    hb.nodeAddress hb.timestamp
  (if r.1 && hm.peerDiscovery.isSome then [.cs_peers] else []) ++
    match r.2.2 with
    | none => []
    | some d =>
        .cs_peers ::
          if (d.processValidatorAddress net hb.nodeAddress hb.validatorId).1 && hm.connman then
            [.cs_peers]
          else []

/-- The lock history of `HeartbeatManager::ProcessHeartbeat`, branch by branch as
`ProcessHeartbeat`: past the seen-set limit, `CleanupSeenHeartbeats` locks `cs_heartbeat`
again; a check-in calls peer discovery inside `cs_heartbeat`. -/
def heartbeatLocks (hm : HeartbeatManager) (hb : Heartbeat) : List LockEvent :=
  let hbHash := hb.getHash c net
  if (hm.seenHeartbeats.find? hbHash).isSome then locked .cs_heartbeat []
  else
    let hm := { hm with seenHeartbeats := hm.seenHeartbeats.insert hbHash () }
    if MAX_SEEN_HEARTBEATS < hm.seenHeartbeats.size then relocked .cs_heartbeat
    else
      let r := hm.trustManager.processHeartbeat p hb hb.blockHeight
      if r.1 = false then locked .cs_heartbeat []
      else
        let hm := { hm with trustManager := r.2 }
        if net.isValid hb.nodeAddress = false then locked .cs_heartbeat []
        else locked .cs_heartbeat (leafCalls (checkInCalls net hm hb))

lemma checkInCalls_peers (hm : HeartbeatManager) (hb : Heartbeat) :
    ∀ m ∈ checkInCalls net hm hb, m = .cs_peers := by
  intro m hm
  unfold checkInCalls at hm
  rcases List.mem_append.mp hm with hm | hm
  · split_ifs at hm <;> simp_all
  · split at hm
    · cases hm
    · split_ifs at hm <;> simp_all

/-- **The heartbeat model does not return exactly when the call locks `cs_heartbeat` twice.** -/
lemma processHeartbeat_eq_none_iff_relocks (hm : HeartbeatManager) (hb : Heartbeat) :
    hm.processHeartbeat p c net hb = none ↔
      (.cs_heartbeat, .cs_heartbeat) ∈ nestedAcquisitions [] (hm.heartbeatLocks p c net hb) := by
  unfold processHeartbeat heartbeatLocks
  dsimp only
  split_ifs
  all_goals simp
  exact fun h => nomatch checkInCalls_peers net _ hb _ h

end HeartbeatManager

/-- The lock history of an inbound event of the heartbeat manager: `OnNewBlock` takes
`cs_heartbeat` in `ShouldBroadcastHeartbeat` only; announcements and peer lists take none. -/
def TrustOp.locks (p : Params) (c : Crypto) (net : NetApi) (hm : HeartbeatManager) :
    TrustOp → List LockEvent
  | .heartbeat hb => hm.heartbeatLocks p c net hb
  | .newBlock _ => locked .cs_heartbeat []
  | .registration _ | .validatorList _ => []

/-- An event of the heartbeat manager takes a mutex under another only inside `cs_heartbeat`:
`cs_peers`, or `cs_heartbeat` itself. -/
lemma TrustOp.nested_locks (p : Params) (c : Crypto) (net : NetApi) (hm : HeartbeatManager)
    (op : TrustOp) {held m : CoreMutex} (h : (held, m) ∈ nestedAcquisitions [] (op.locks p c net hm)) :
    held = .cs_heartbeat ∧ (m = .cs_peers ∨ m = .cs_heartbeat) := by
  cases op with
  | heartbeat hb =>
      simp only [locks] at h
      unfold HeartbeatManager.heartbeatLocks at h
      dsimp only at h
      split_ifs at h
      · simp at h
      · simp only [nestedAcquisitions_relocked, List.mem_singleton, Prod.mk.injEq] at h
        exact ⟨h.1, .inr h.2⟩
      · simp at h
      · simp at h
      · obtain ⟨rfl, rfl⟩ := mem_nested_locked_leafCalls (HeartbeatManager.checkInCalls_peers net _ hb) h
        exact ⟨rfl, .inl rfl⟩
  | _ => simp [locks, nestedAcquisitions] at h

/-! ### Every call -/

/-- The public operations of the five components, grouped by lock history. -/
inductive CoreCall
  /-- A writer of `ValidatorDB` or `DelegationDB`. -/
  | ledger (op : LedgerOp)
  /-- An inbound event of `HeartbeatManager`. -/
  | trust (op : TrustOp)
  /-- `TrustScoreManager::UpdateValidatorAddress`, called on the heartbeat manager's trust
  manager. -/
  | updateValidatorAddress (validatorId : KeyID) (address : Service) (timestamp : Int)
  /-- A method that locks its own component's mutex `m` and calls nothing that locks: every
  reader of `ValidatorDB` (`cs_validators`) and of `DelegationDB` (`cs_delegations`), both with
  `Serialize` and `Unserialize`; `SetValidatorKey`, `IsValidator`, `GetValidatorId`,
  `ShouldBroadcastHeartbeat`, `BroadcastHeartbeat`, `CreateRegistration` and `GetStats`
  (`cs_heartbeat`); every method of `PeerDiscoveryManager` but `GetAddNodeCommand`
  (`cs_peers`). -/
  | own (m : CoreMutex)
  /-- A method that takes no lock: `GetValidatorList`, the other methods of
  `TrustScoreManager`, and `GetAddNodeCommand`. -/
  | lockFree

/-- The lock history of a call on a node. -/
def CoreCall.locks (p : Params) (c : Crypto) (net : NetApi) (N : Node) : CoreCall → List LockEvent
  | .ledger op => op.locks c N.ledger
  | .trust op => op.locks p c net N.trust
  | .updateValidatorAddress id a t =>
      leafCalls (if (N.trust.trustManager.updateValidatorAddress net N.trust.peerDiscovery id a t).1
        && N.trust.peerDiscovery.isSome then [.cs_peers] else [])
  | .own m => locked m []
  | .lockFree => []

variable {p : Params} {c : Crypto} {net : NetApi}

/-- Every nesting a call makes: a second lock of the held mutex, `cs_validators` under
`cs_delegations`, or `cs_peers` under `cs_heartbeat`. -/
lemma CoreCall.nested_locks (N : Node) (call : CoreCall) {held m : CoreMutex}
    (h : (held, m) ∈ nestedAcquisitions [] (call.locks p c net N)) :
    held = m ∨ (held = .cs_delegations ∧ m = .cs_validators) ∨
      (held = .cs_heartbeat ∧ m = .cs_peers) := by
  cases call with
  | ledger op =>
      obtain ⟨rfl, rfl | rfl⟩ := op.nested_locks c N.ledger h
      exacts [.inr (.inl ⟨rfl, rfl⟩), .inl rfl]
  | trust op =>
      obtain ⟨rfl, rfl | rfl⟩ := op.nested_locks p c net N.trust h
      exacts [.inr (.inr ⟨rfl, rfl⟩), .inl rfl]
  | _ => simp [locks, nestedAcquisitions] at h

/-- **The lock order of the core.** For every call of a public operation of `ValidatorDB`,
`DelegationDB`, `HeartbeatManager`, `TrustScoreManager` and `PeerDiscoveryManager`, on every
node state and input, a mutex is taken while the call chain holds a different one only as
`cs_validators` inside `cs_delegations` or `cs_peers` inside `cs_heartbeat`. -/
theorem lock_order_of_calls (N : Node) (call : CoreCall) (held m : CoreMutex)
    (h : (held, m) ∈ nestedAcquisitions [] (call.locks p c net N)) (hne : held ≠ m) :
    (held = .cs_delegations ∧ m = .cs_validators) ∨ (held = .cs_heartbeat ∧ m = .cs_peers) :=
  (call.nested_locks N h).resolve_left hne

/-- No two calls take two distinct mutexes in opposite orders, so no interleaving of calls
deadlocks on a pair of them. -/
lemma no_lock_inversion (N N' : Node) (call call' : CoreCall) {a b : CoreMutex} (hab : a ≠ b)
    (h : (a, b) ∈ nestedAcquisitions [] (call.locks p c net N)) :
    (b, a) ∉ nestedAcquisitions [] (call'.locks p c net N') := fun h' => by
  rcases call.nested_locks N h with rfl | ⟨rfl, rfl⟩ | ⟨rfl, rfl⟩
  · exact hab rfl
  all_goals rcases call'.nested_locks N' h' with h₁ | ⟨h₁, -⟩ | ⟨h₁, -⟩ <;> cases h₁

/-- Validator `1` made active by a jail of length 0 and an unjail. -/
def activeValidatorNode : Node :=
  ⟨ledgerAfter [.registerValidator (rpcEntry 1 0), .jailValidator 1 0, .unjailValidator 1],
    HeartbeatManager.init none false⟩

/-- Delegator `2`'s signed delegation of the minimum to validator `1`. -/
def delegationCall : CoreCall :=
  .ledger (.processDelegation (signedDelegation 2 1 MIN_DELEGATION_AMOUNT 0) OutPoint.null)

/-- The delegation takes `cs_validators` twice inside `cs_delegations`: in `GetValidator` and in
`AddDelegation`. -/
theorem delegation_locks_registry :
    nestedAcquisitions [] (delegationCall.locks Params.sample Crypto.toy NetApi.sample activeValidatorNode) =
      [(.cs_delegations, .cs_validators), (.cs_delegations, .cs_validators)] := by
  decide

theorem lock_order_of_calls_at_delegation :
    (CoreMutex.cs_delegations, CoreMutex.cs_validators) ∈
        nestedAcquisitions [] (delegationCall.locks Params.sample Crypto.toy NetApi.sample activeValidatorNode) ∧
      CoreMutex.cs_delegations ≠ CoreMutex.cs_validators ∧
      ((CoreMutex.cs_delegations = .cs_delegations ∧ CoreMutex.cs_validators = .cs_validators) ∨
        (CoreMutex.cs_delegations = .cs_heartbeat ∧ CoreMutex.cs_validators = .cs_peers)) :=
  have h : (CoreMutex.cs_delegations, CoreMutex.cs_validators) ∈
      nestedAcquisitions [] (delegationCall.locks Params.sample Crypto.toy NetApi.sample activeValidatorNode) := by
    decide
  ⟨h, by decide, lock_order_of_calls _ _ _ _ h (by decide)⟩

end WattxCore
