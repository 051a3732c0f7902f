import WattxCore.Validators.Lifecycle
import WattxCore.Trust.Authentication

/-!
The node as one system: the registry and delegation ledger (`g_validator_db`,
`g_delegation_db`) next to the trust subsystem (`g_heartbeat_manager` and the trust manager
it holds). The two never call into each other: announcements and peer lists register with
the trust manager only, and no registry operation touches a trust record.

* `Node`, `NodeOp`, `Node.step`, `Node.Reachable`: any interleaving of the two;
* `Node.Reachable.trust`: the trust subsystem of a reachable node is a reachable one;
* `tier_follows_trust_record`: **a validator's tier and multiplier are read off its trust
  record alone**: no registry operation moves them, the tier is `NONE` exactly when there is
  no record or its uptime is below all four thresholds, and the multiplier is the tier's;
* `tier_without_active_registration`: a jailed validator and one the registry does not know
  both hold `PLATINUM`.
-/

namespace WattxCore

/-- A node's validator core: the registry and ledger, and the trust subsystem. -/
structure Node where
  ledger : Ledger
  trust : HeartbeatManager

/-- An operation of either part. -/
inductive NodeOp
  | ledger (op : LedgerOp)
  | trust (op : TrustOp)

namespace Node

/-- A node as it starts: empty databases and a fresh heartbeat manager. -/
def init (pd : Option PeerDiscoveryManager) (connman : Bool) : Node :=
  ⟨Ledger.empty, HeartbeatManager.init pd connman⟩

variable (p : Params) (c : Crypto) (net : NetApi)

/-- One operation; `none` when it does not return. -/
def step (N : Node) : NodeOp → Option Node
  | .ledger op => (Ledger.step p c N.ledger op).map fun r => { N with ledger := r.2 }
  | .trust op => (HeartbeatManager.step p c net N.trust op).map fun r => { N with trust := r.2 }

/-- Run the operations in order; `none` when one of them does not return. -/
def run (N : Node) : List NodeOp → Option Node
  | [] => some N
  | op :: ops => (step p c net N op).bind fun N' => run N' ops

/-- The nodes reached from a starting node by any interleaving. -/
inductive Reachable : Node → Prop
  | init (pd : Option PeerDiscoveryManager) (connman : Bool) : Reachable (init pd connman)
  | step {N N' : Node} {op : NodeOp} : Reachable N → step p c net N op = some N' → Reachable N'

variable {p c net}

/-- The trust subsystem of a reachable node is reachable on its own: registry operations
leave it as it was. -/
lemma Reachable.trust {N : Node} (h : Reachable p c net N) : HeartbeatManager.Reachable p c net N.trust := by
  induction h with
  | init pd cm => exact .init pd cm
  | @step N N' op _ hst ih =>
      cases op with
      | ledger op => obtain ⟨_, _, rfl⟩ := Option.map_eq_some'.mp hst; exact ih
      | trust op =>
          obtain ⟨⟨b, hm⟩, hr, rfl⟩ := Option.map_eq_some'.mp hst
          exact .step ih hr

lemma Reachable.run : ∀ {N N' : Node} (ops : List NodeOp), Reachable p c net N →
    Node.run p c net N ops = some N' → Reachable p c net N'
  | _, _, [], h, hr => by cases hr; exact h
  | _, _, _ :: ops, h, hr => by
      obtain ⟨N₁, h₁, hr⟩ := Option.bind_eq_some.mp hr
      exact Reachable.run ops (.step h h₁) hr

/-- A run that returns ends in a reachable node. -/
lemma Reachable.run_getD {N : Node} (ops : List NodeOp) (N₀ : Node) (h : Reachable p c net N)
    (hs : (Node.run p c net N ops).isSome = true) :
    Reachable p c net ((Node.run p c net N ops).getD N₀) := by
  obtain ⟨N', hN'⟩ := Option.isSome_iff_exists.mp hs
  rw [hN']
  exact h.run ops hN'

end Node

/-! ### Tiers follow the trust records -/

variable {p : Params} {c : Crypto} {net : NetApi}

/-- **A validator's tier and multiplier are read off its trust record alone.** In every
reachable node: no registry or ledger operation changes them; the tier is `NONE` exactly
when the trust manager has no record of the validator or the record's uptime is below all
four thresholds; and the multiplier is the tier's, `0` for `NONE`. -/
theorem tier_follows_trust_record {N : Node} (hN : Node.Reachable p c net N) (V : KeyID) :
    (∀ op N', Node.step p c net N (.ledger op) = some N' →
      N'.trust.trustManager.getValidatorTier p V = N.trust.trustManager.getValidatorTier p V ∧
      N'.trust.trustManager.getValidatorRewardMultiplier p V =
        N.trust.trustManager.getValidatorRewardMultiplier p V) ∧
    (N.trust.trustManager.getValidatorTier p V = .NONE ↔
      ∀ info, N.trust.trustManager.getValidator V = some info → info.BelowAllThresholds p) ∧
    N.trust.trustManager.getValidatorRewardMultiplier p V =
      ValidatorInfo.tierMultiplier p (N.trust.trustManager.getValidatorTier p V) := by
  have hact := HeartbeatManager.recordsActive_of_reachable hN.trust
  refine ⟨fun op N' hst => by
    obtain ⟨_, _, rfl⟩ := Option.map_eq_some'.mp hst; exact ⟨rfl, rfl⟩, ?_, ?_⟩
  · unfold TrustScoreManager.getValidatorTier
    split
    · rename_i hnone
      simp [hnone]
    · rename_i info hinfo
      obtain ⟨ha, hs⟩ := hact V info hinfo
      rw [ValidatorInfo.getTrustTier_eq_NONE_iff p ha hs]
      simp [hinfo]
  · unfold TrustScoreManager.getValidatorRewardMultiplier TrustScoreManager.getValidatorTier
    split <;> rfl

/-- Validator `1` is registered (`PENDING`) and jailed in the registry; validators `1` and `2`
announce themselves to the trust subsystem. -/
def twoRegistriesRun : List NodeOp :=
  [.ledger (.registerValidator (rpcEntry 1 0)), .ledger (.jailValidator 1 DEFAULT_JAIL_BLOCKS),
    .trust (.registration (signedRegistration 1 0)), .trust (.registration (signedRegistration 2 0))]

/-- The node after a run from a fresh one, under `Params.sample`, `Crypto.toy`, `NetApi.sample`. -/
def nodeAfter (ops : List NodeOp) : Option Node :=
  Node.run Params.sample Crypto.toy NetApi.sample (Node.init none false) ops

/-- A validator's registry status, trust tier and multiplier after a run. -/
def standingOf (V : KeyID) (ops : List NodeOp) : Option (Option ValidatorStatus × TrustTier × Int) :=
  (nodeAfter ops).map fun N => ((N.ledger.vdb.getValidator V).map (·.status),
    N.trust.trustManager.getValidatorTier Params.sample V,
    (N.trust.trustManager.getValidatorRewardMultiplier Params.sample V).val)

/-- The jailed validator `1` and validator `2`, unknown to the registry, both hold `PLATINUM`
and the multiplier 200. -/
theorem tier_without_active_registration :
    standingOf 1 twoRegistriesRun = some (some .JAILED, .PLATINUM, 200) ∧
      standingOf 2 twoRegistriesRun = some (none, .PLATINUM, 200) := by
  constructor <;> decide

/-- The node after `twoRegistriesRun`. -/
def twoRegistries : Node := (nodeAfter twoRegistriesRun).getD (Node.init none false)

theorem tier_follows_trust_record_sample :
    Node.Reachable Params.sample Crypto.toy NetApi.sample twoRegistries ∧
      (twoRegistries.trust.trustManager.getValidatorTier Params.sample 1 = .NONE ↔
        ∀ info, twoRegistries.trust.trustManager.getValidator 1 = some info →
          info.BelowAllThresholds Params.sample) :=
  have hN : Node.Reachable Params.sample Crypto.toy NetApi.sample twoRegistries :=
    Node.Reachable.run_getD twoRegistriesRun _ (.init none false) (by decide)
  ⟨hN, (tier_follows_trust_record hN 1).2.1⟩

end WattxCore
