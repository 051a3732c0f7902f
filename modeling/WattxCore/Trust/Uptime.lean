import WattxCore.Trust.HeartbeatManager

/-!
Uptime accounting. `OnNewBlock(h)` sets a record's expected count from the uptime window:
`⌊min(h - registrationHeight, nUptimeWindow) / nHeartbeatInterval⌋`. The received count is
never windowed: it counts every heartbeat accepted since registration.

* `expectationStep_expected`, `onNewBlock_heartbeatsExpected`: **the expected count is the
  window's**;
* `CountsFrom`, `step_countsFrom`, `run_countsFrom`, `heartbeatsReceived_of_run`: **over
  every run, a record's received count is the number of heartbeats in its name accepted
  since the run began** (modulo the `int` wrap), however far behind the window they lie;
* `uptime_outruns_window`: two honest runs in which the uptime leaves `[0, 1000]`, and in
  which a validator with no heartbeat in the last window is `PLATINUM`.
-/

namespace WattxCore

open TrustScoreManager

variable {p : Params} {c : Crypto} {net : NetApi}

/-! ### Expected heartbeats -/

/-- **The expected count is the window's.** For an active record registered `b` blocks before
`height`, `0 < b < 2^31`, a positive interval and a positive window, `OnNewBlock(height)`
expects `⌊min(b, nUptimeWindow) / nHeartbeatInterval⌋` heartbeats. -/
lemma expectationStep_expected (info : ValidatorInfo) (height : Int32) (hact : info.isActive = true)
    (hb₀ : 0 < height.val - info.registrationHeight.val)
    (hb₁ : height.val - info.registrationHeight.val < 2147483648)
    (hI : 0 < p.nHeartbeatInterval.val) (hW : 0 < p.nUptimeWindow.val) :
    (expectationStep p height info).heartbeatsExpected.val =
      min (height.val - info.registrationHeight.val) p.nUptimeWindow.val / p.nHeartbeatInterval.val := by
  have hsub : (height - info.registrationHeight).val = height.val - info.registrationHeight.val :=
    Int32.val_sub_of_mem (by omega) hb₁
  have hmin : (min (height - info.registrationHeight) p.nUptimeWindow).val =
      min (height.val - info.registrationHeight.val) p.nUptimeWindow.val := by
    rw [Int32.val_min, hsub]
  have hpos : 0 < height - info.registrationHeight := by
    rw [Int32.lt_iff, hsub]; exact hb₀
  have hwpos : 0 < min (height - info.registrationHeight) p.nUptimeWindow := by
    rw [Int32.lt_iff, hmin]; simp only [Int32.val_zero, lt_min_iff]; exact ⟨hb₀, hW⟩
  unfold expectationStep
  simp only [hact, Bool.true_eq_false, if_false, if_pos hpos, if_pos hwpos, Int32.val_div, hmin,
    Int.tdiv_eq_ediv (le_min hb₀.le hW.le) hI.le]
  have hq₀ := Int.ediv_nonneg (le_min hb₀.le hW.le) hI.le
  have hq := Int.ediv_le_self p.nHeartbeatInterval.val (le_min hb₀.le hW.le)
  have hm := min_le_left (height.val - info.registrationHeight.val) p.nUptimeWindow.val
  exact Int32.wrap_of_mem (by omega) (by omega)

@[simp] lemma onNewBlock_getValidator (hm : HeartbeatManager) (height : Int32) (V : KeyID) :
    (hm.onNewBlock p height).trustManager.getValidator V =
      (hm.trustManager.getValidator V).map (expectationStep p height) :=
  updateHeartbeatExpectations_find? p _ _ _

/-- **After `OnNewBlock(height)`, a validator's expected count is the window's**, for an
active record registered `b` blocks earlier, `0 < b < 2^31`. -/
lemma onNewBlock_heartbeatsExpected (hm : HeartbeatManager) (height : Int32) {V : KeyID}
    {info : ValidatorInfo} (hV : hm.trustManager.getValidator V = some info)
    (hact : info.isActive = true) (hb₀ : 0 < height.val - info.registrationHeight.val)
    (hb₁ : height.val - info.registrationHeight.val < 2147483648)
    (hI : 0 < p.nHeartbeatInterval.val) (hW : 0 < p.nUptimeWindow.val) :
    ((hm.onNewBlock p height).trustManager.getValidator V).map (·.heartbeatsExpected.val) =
      some (min (height.val - info.registrationHeight.val) p.nUptimeWindow.val /
        p.nHeartbeatInterval.val) := by
  rw [onNewBlock_getValidator, hV, Option.map_some', Option.map_some',
    expectationStep_expected info height hact hb₀ hb₁ hI hW]

/-! ### Received heartbeats -/

/-- Whether an event with reply `b` is an accepted heartbeat in `V`'s name. -/
def TrustOp.acceptedFor (V : KeyID) : TrustOp → Bool → Bool
  | .heartbeat hb, b => b && hb.validatorId == V
  | .registration _, _ | .validatorList _, _ | .newBlock _, _ => false

/-- The heartbeats in `V`'s name that a run accepted. -/
def acceptedCount (V : KeyID) : List TrustOp → List Bool → Nat
  | op :: ops, b :: bs => (if op.acceptedFor V b then 1 else 0) + acceptedCount V ops bs
  | _, _ => 0

/-- Each record's received count is `f V` (wrapped), and `f V = 0` for an unknown `V`. -/
def CountsFrom (f : KeyID → Nat) (m : TrustScoreManager) : Prop :=
  ∀ V, match m.getValidator V with
    | none => f V = 0
    | some info => info.heartbeatsReceived = Int32.ofInt (f V)

namespace CountsFrom

variable {f : KeyID → Nat} {m : TrustScoreManager}

lemma empty : CountsFrom (fun _ => 0) TrustScoreManager.empty := fun _ => rfl

/-- Rewriting a record without touching its received count keeps the counts. -/
lemma insert_same (h : CountsFrom f m) {id : KeyID} {info info' : ValidatorInfo}
    (hinfo : m.validators.find? id = some info) (hr : info'.heartbeatsReceived = info.heartbeatsReceived) :
    CountsFrom f { m with validators := m.validators.insert id info' } := fun V => by
  have hV := h V
  simp only [getValidator, StdMap.find?_insert_eq] at hV ⊢
  split_ifs with hi
  · subst hi; rw [hinfo] at hV; dsimp only at hV ⊢; rw [hr]; exact hV
  · exact hV

lemma registerValidator (h : CountsFrom f m) (id : KeyID) (stake fee : Int) (height : Int32) :
    CountsFrom f (m.registerValidator p id stake fee height).2 := by
  rcases registerValidator_cases p m id stake fee height with hr | ⟨-, hnone, hr⟩ <;> rw [hr]
  · exact h
  · intro V
    have hV := h V
    simp only [getValidator, StdMap.find?_insert_eq] at hV ⊢
    split_ifs with hi
    · subst hi; rw [hnone] at hV; dsimp only at hV ⊢; rw [hV]; rfl
    · exact hV

lemma updateHeartbeatExpectations (h : CountsFrom f m) (height : Int32) :
    CountsFrom f (m.updateHeartbeatExpectations p height) := fun V => by
  have hV := h V
  simp only [getValidator, updateHeartbeatExpectations_find?] at hV ⊢
  cases hf : m.validators.find? V with
  | none => rw [hf] at hV; exact hV
  | some info => rw [hf] at hV; rw [Option.map_some', expectationStep_eq]; exact hV

lemma updateValidatorAddress (net : NetApi) (h : CountsFrom f m) (pd : Option PeerDiscoveryManager)
    (id : KeyID) (a : Service) (t : Int) : CountsFrom f (m.updateValidatorAddress net pd id a t).2.1 := by
  rcases updateValidatorAddress_cases net m pd id a t with hr | ⟨info, hinfo, -, hr⟩ <;> rw [hr]
  · exact h
  · exact h.insert_same hinfo rfl

/-- An accepted heartbeat adds one to the count of its validator. -/
lemma processHeartbeat (h : CountsFrom f m) (hb : Heartbeat) (height : Int32) :
    CountsFrom (fun V => f V + if (m.processHeartbeat p hb height).1 && hb.validatorId == V then 1 else 0)
      (m.processHeartbeat p hb height).2 := by
  rcases processHeartbeat_cases p m hb height with hr | ⟨info, hinfo, -, -, hr⟩ <;> rw [hr]
  · simpa using h
  · intro V
    have hV := h V
    simp only [getValidator, StdMap.find?_insert_eq, Bool.true_and, beq_iff_eq] at hV ⊢
    split_ifs with hi
    · subst hi
      rw [hinfo] at hV
      simp only [recordHeartbeat, hV]
      ext
      simp only [Int32.val_add, Int32.val_ofInt, Int32.val_one, Nat.cast_add, Nat.cast_one,
        Int32.wrap]
      omega
    · simpa using hV

end CountsFrom

open HeartbeatManager

/-- **One event adds one to a validator's received count exactly when it is an accepted
heartbeat in its name.** -/
lemma step_countsFrom {f : KeyID → Nat} {hm hm' : HeartbeatManager} {op : TrustOp} {b : Bool}
    (h : CountsFrom f hm.trustManager) (hst : step p c net hm op = some (b, hm')) :
    CountsFrom (fun V => f V + if op.acceptedFor V b then 1 else 0) hm'.trustManager := by
  cases op with
  | registration reg =>
      obtain rfl := congrArg Prod.snd (Option.some.inj hst)
      simp only [TrustOp.acceptedFor, Bool.false_eq_true, if_false, add_zero]
      unfold processValidatorRegistration
      split_ifs
      · exact h
      · exact h
      · exact h.registerValidator _ _ _ _
  | validatorList l =>
      obtain rfl := congrArg Prod.snd (Option.some.inj hst)
      simp only [TrustOp.acceptedFor, Bool.false_eq_true, if_false, add_zero]
      show CountsFrom f (l.validators.foldl (listStep p) hm.trustManager)
      generalize hm.trustManager = m at h ⊢
      induction l.validators generalizing m with
      | nil => exact h
      | cons info rest ih =>
          refine ih _ ?_
          unfold listStep
          split_ifs
          · split
            · exact h.registerValidator _ _ _ _
            · exact h
          · exact h
  | newBlock height =>
      obtain rfl := congrArg Prod.snd (Option.some.inj hst)
      simp only [TrustOp.acceptedFor, Bool.false_eq_true, if_false, add_zero]
      exact h.updateHeartbeatExpectations height
  | heartbeat hb =>
      have key := h.processHeartbeat (p := p) hb hb.blockHeight
      unfold HeartbeatManager.step HeartbeatManager.processHeartbeat at hst
      dsimp only at hst
      split_ifs at hst with h₁ h₂ h₃ h₄ <;> cases hst
      · simpa [TrustOp.acceptedFor] using h
      · simpa [TrustOp.acceptedFor] using h
      · simpa [TrustOp.acceptedFor, h₃] using key
      · rw [checkIn_trustManager]
        simpa [TrustOp.acceptedFor, h₃] using CountsFrom.updateValidatorAddress net key _ _ _ _

/-- **Over every run, each record's received count is the number of heartbeats in its name
that the run accepted**, from the first event on and however far behind the uptime window
they lie. -/
lemma run_countsFrom : ∀ (ops : List TrustOp) {f : KeyID → Nat} {hm hm' : HeartbeatManager}
    {rs : List Bool}, CountsFrom f hm.trustManager → run p c net hm ops = some (hm', rs) →
      CountsFrom (fun V => f V + acceptedCount V ops rs) hm'.trustManager
  | [], _, _, _, _, h, hr => by cases hr; simpa [acceptedCount] using h
  | op :: ops, f, hm, _, _, h, hr => by
      unfold HeartbeatManager.run at hr
      split at hr
      · cases hr
      · rename_i b hm₁ hst
        obtain ⟨⟨hm₂, rs₂⟩, hr₂, hr⟩ := Option.map_eq_some'.mp hr
        cases hr
        have := run_countsFrom ops (step_countsFrom h hst) hr₂
        simpa [acceptedCount, add_assoc] using this

/-- From a freshly started manager, a validator's received count is the number of its
heartbeats the run accepted (wrapped to an `int`). -/
lemma heartbeatsReceived_of_run {pd : Option PeerDiscoveryManager} {cm : Bool} {ops : List TrustOp}
    {hm : HeartbeatManager} {rs : List Bool} (hr : run p c net (init pd cm) ops = some (hm, rs))
    {V : KeyID} {info : ValidatorInfo} (hV : hm.trustManager.getValidator V = some info) :
    info.heartbeatsReceived = Int32.ofInt (acceptedCount V ops rs) := by
  have := run_countsFrom ops CountsFrom.empty hr V
  rw [hV] at this
  simpa using this

/-! ### Where the window is not honoured -/

/-- Validator `k`'s announcement with the minimum stake and no fee at height `h`, signed with
`k`'s key under `Crypto.toy`. -/
def signedRegistration (k : PubKey) (h : Int32) : ValidatorRegistration :=
  let r : ValidatorRegistration := ⟨k, Params.sample.nMinValidatorStake, 0, h, []⟩
  { r with signature := [k, r.getHash Crypto.toy] }

/-- Validator `k`'s heartbeat for height `h` from address `k:18888`, signed with `k`'s key. -/
def heartbeatAt (k : KeyID) (h : Int32) : Heartbeat :=
  let hb : Heartbeat := ⟨k, h, 0, 0, ⟨k, 18888⟩, 18888, []⟩
  { hb with signature := [k, hb.getHash Crypto.toy NetApi.sample] }

/-- For `n` intervals of 10 blocks, validator `1`'s heartbeat and then the block. -/
def heartbeatsUpTo : Nat → List TrustOp
  | 0 => []
  | n + 1 =>
      heartbeatsUpTo n ++
        [.heartbeat (heartbeatAt 1 (Int32.ofInt (10 * (n + 1)))), .newBlock (Int32.ofInt (10 * (n + 1)))]

/-- The manager after a run from a fresh one, under `Params.sample`, `Crypto.toy`,
`NetApi.sample`, with no peer discovery and no connection manager. -/
def trustAfter (ops : List TrustOp) : Option (HeartbeatManager × List Bool) :=
  run Params.sample Crypto.toy NetApi.sample (init none false) ops

/-- Validator `1`'s record after a run. -/
def oneAfter (ops : List TrustOp) : Option ValidatorInfo :=
  (trustAfter ops).bind fun r => r.1.trustManager.getValidator 1

/-- The heartbeats a run accepted, in order. -/
def acceptedHeartbeats (ops : List TrustOp) : List Heartbeat :=
  match trustAfter ops with
  | none => []
  | some (_, rs) => (ops.zip rs).filterMap fun
      | (.heartbeat hb, true) => some hb
      | _ => none

/-- Validator `1` announces itself at height 0 and checks in on time for eleven intervals. -/
def windowOverrunRun : List TrustOp := .registration (signedRegistration 1 0) :: heartbeatsUpTo 11

/-- Validator `1` checks in on time for ten intervals, then falls silent until height 200. -/
def staleRun : List TrustOp :=
  .registration (signedRegistration 1 0) :: heartbeatsUpTo 10 ++ [.newBlock 200]

/-- In `windowOverrunRun` the eleventh heartbeat is counted against a window of ten: uptime
1100. In `staleRun` the window at height 200 is `(100, 200]`, with `E = 10` heartbeats
expected, and no heartbeat of validator `1` accepted in it; yet the ten heartbeats of the
first window keep it `PLATINUM`. -/
theorem uptime_outruns_window :
    (oneAfter windowOverrunRun).map (fun v =>
        (v.heartbeatsReceived.val, v.heartbeatsExpected.val, v.getUptimePercentage.val)) =
      some (11, 10, 1100) ∧
    (oneAfter staleRun).map (fun v => (v.getTrustTier Params.sample, v.heartbeatsExpected.val)) =
      some (.PLATINUM, 10) ∧
    (acceptedHeartbeats staleRun).map (fun hb => (hb.validatorId, hb.blockHeight.val)) =
      [(1, 10), (1, 20), (1, 30), (1, 40), (1, 50), (1, 60), (1, 70), (1, 80), (1, 90), (1, 100)] := by
  refine ⟨by decide, by decide, by decide⟩

end WattxCore
