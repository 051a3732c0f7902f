import WattxCore.Concurrency.Broadcast
import WattxCore.Trust.Replay

/-!
A validator node's announcements reaching a peer (`heartbeat_net.cpp`). The node sets its key
(`SetValidatorKey`), announces itself with a signed registration (`CreateRegistration`) and, on
each block notification, checks and broadcasts a heartbeat (`ShouldBroadcastHeartbeat`,
`BroadcastHeartbeat`); the peer processes what it receives (`ProcessValidatorRegistration`,
`ProcessHeartbeat`). The relay between them is a TODO of the source: here each signed message
is handed to the peer as it is.

* `SetValidatorKey`, `GetValidatorId`, `ValidatorRegistration.sign`, `CreateRegistration`: the
  node's side of the announcement;
* `Crypto.SignVerifies`: every signature `CKey::Sign` makes verifies under the key's public key;
* `own_registration_processed`: **under such signatures, a peer processes the node's own
  registration exactly as a direct `RegisterValidator` under the node's key id, so it accepts
  it exactly when the stake is at least the minimum, the fee is in `[0, 10000]` and the peer
  does not know the id yet**;
* `notify`, `heartbeatsSigned`: block notifications handled one at a time, and the heartbeats
  signed over them; `Spaced`, `heartbeatsSigned_spaced`: each signed height is at least one
  interval past the previous one, the node's last broadcast height first;
* `processHeartbeat_of_active`, `Trails`, `run_spaced`: what a peer does with one heartbeat of
  a known active validator, where the record's last heartbeat height stays meanwhile, and what
  the peer does with spaced heartbeats of one validator;
* `own_heartbeats_counted`: **a peer that holds the node's record active accepts exactly the
  node's heartbeats at least one interval past the record's last heartbeat height, and counts
  each of them once**; a node registered off an interval boundary loses its first heartbeat.
-/

namespace WattxCore

/-- `ValidatorRegistration::Sign`: the signature over `GetHash`; `none` when signing fails. -/
def ValidatorRegistration.sign (c : Crypto) (r : ValidatorRegistration) (key : PrivKey) :
    Option ValidatorRegistration :=
  (c.sign key (r.getHash c)).map fun sig => { r with signature := sig }

/-- Every signature `CKey::Sign` makes verifies under the key's public key. -/
def Crypto.SignVerifies (c : Crypto) : Prop :=
  ∀ key d sig, c.sign key d = some sig → c.verify (c.getPubKey key) d sig = true

lemma Crypto.toy_signVerifies : Crypto.toy.SignVerifies := by
  rintro key d _ ⟨⟩
  simp [Crypto.toy]

namespace BroadcastState

variable (c : Crypto)

/-- `HeartbeatManager::SetValidatorKey`: the key, and with it `m_is_validator`. -/
def setValidatorKey (s : BroadcastState) (key : PrivKey) : BroadcastState :=
  { s with validatorKey := some key }

/-- `HeartbeatManager::GetValidatorId`: the id of the key's public key; the null id without a
key. -/
def getValidatorId (s : BroadcastState) : KeyID :=
  match s.validatorKey with
  | none => 0
  | some key => c.getID (c.getPubKey key)

/-- `HeartbeatManager::CreateRegistration`: the key's public key with the given stake, fee and
height, signed with the key; `none` without a key or when signing fails. -/
def createRegistration (s : BroadcastState) (stakeAmount poolFeeRate : Int) (height : Int32) :
    Option ValidatorRegistration :=
  match s.validatorKey with
  | none => none
  | some key => ValidatorRegistration.sign c ⟨c.getPubKey key, stakeAmount, poolFeeRate, height, []⟩ key

variable {c}

/-- A created registration carries the key's public key and the given fields, and a signature
that `Sign` made over its digest. -/
lemma createRegistration_eq_some {s : BroadcastState} {stake fee : Int} {height : Int32}
    {reg : ValidatorRegistration} (h : s.createRegistration c stake fee height = some reg) :
    ∃ key, s.validatorKey = some key ∧ reg.validatorPubKey = c.getPubKey key ∧
      reg.stakeAmount = stake ∧ reg.poolFeeRate = fee ∧ reg.registrationHeight = height ∧
      c.sign key (reg.getHash c) = some reg.signature := by
  unfold createRegistration at h
  split at h
  · cases h
  · rename_i key hkey
    obtain ⟨sig, hsig, rfl⟩ := Option.map_eq_some'.mp h
    exact ⟨key, hkey, rfl, rfl, rfl, rfl, hsig⟩

end BroadcastState

/-- `RegisterValidator` accepts exactly a stake of at least the minimum, an unknown id and a
fee in `[0, 10000]`. -/
lemma TrustScoreManager.registerValidator_fst_iff (p : Params) (m : TrustScoreManager) (id : KeyID)
    (stake fee : Int) (h : Int32) :
    (m.registerValidator p id stake fee h).1 = true ↔
      p.nMinValidatorStake ≤ stake ∧ m.getValidator id = none ∧ 0 ≤ fee ∧ fee ≤ 10000 := by
  unfold registerValidator getValidator
  cases m.validators.find? id
  · simp only [Option.isSome_none, Bool.false_eq_true, if_false, true_and]
    split_ifs <;> simp only [true_iff, false_iff] <;> omega
  · simp [apply_ite Prod.fst]

variable {p : Params} {c : Crypto} {net : NetApi}

open BroadcastState in
/-- **A peer processes a node's own registration as a direct registration.** Under signatures
that verify, a registration the node created passes the peer's signature check, and the peer's
own stake check repeats `RegisterValidator`'s: processing it is `RegisterValidator` under the
node's key id, with the stake, fee and height the node gave. It is accepted exactly when the
stake is at least the minimum, the peer does not know the id and the fee is in `[0, 10000]`. -/
theorem own_registration_processed (hc : c.SignVerifies) {s : BroadcastState} {stake fee : Int}
    {height : Int32} {reg : ValidatorRegistration}
    (hreg : s.createRegistration c stake fee height = some reg) (hm : HeartbeatManager) :
    hm.processValidatorRegistration p c reg =
        ((hm.trustManager.registerValidator p (s.getValidatorId c) stake fee height).1,
          { hm with
            trustManager := (hm.trustManager.registerValidator p (s.getValidatorId c) stake fee height).2 }) ∧
      ((hm.processValidatorRegistration p c reg).1 = true ↔
        p.nMinValidatorStake ≤ stake ∧ hm.trustManager.getValidator (s.getValidatorId c) = none ∧
          0 ≤ fee ∧ fee ≤ 10000) := by
  obtain ⟨key, hkey, hpk, rfl, rfl, rfl, hsig⟩ := createRegistration_eq_some hreg
  have hver : reg.verify c = true := by
    unfold ValidatorRegistration.verify
    rw [hpk]
    exact hc key _ _ hsig
  have hid : s.getValidatorId c = c.getID reg.validatorPubKey := by
    rw [getValidatorId, hkey, hpk]
  have heq : hm.processValidatorRegistration p c reg =
      ((hm.trustManager.registerValidator p (s.getValidatorId c) reg.stakeAmount reg.poolFeeRate
          reg.registrationHeight).1,
        { hm with trustManager := (hm.trustManager.registerValidator p (s.getValidatorId c)
          reg.stakeAmount reg.poolFeeRate reg.registrationHeight).2 }) := by
    unfold HeartbeatManager.processValidatorRegistration
    rw [if_neg (by simp [hver]), hid]
    split_ifs with hlt
    · simp [TrustScoreManager.registerValidator, hlt]
    · rfl
  exact ⟨heq, by rw [heq]; exact TrustScoreManager.registerValidator_fst_iff p _ _ _ _ _⟩

/-- Key `3` of `Crypto.toy`, set on a node that has broadcast nothing. -/
def keyThree : BroadcastState := BroadcastState.setValidatorKey ⟨none, 0, StdMap.empty, []⟩ 3

/-- A fresh peer registers the node's announcement of the minimum stake at a 5% fee from
height 95. -/
theorem own_registration_processed_fresh :
    Crypto.toy.SignVerifies ∧
      ∃ reg, keyThree.createRegistration Crypto.toy Params.sample.nMinValidatorStake 500 95 = some reg ∧
        ((HeartbeatManager.init none false).processValidatorRegistration Params.sample Crypto.toy reg =
            (((HeartbeatManager.init none false).trustManager.registerValidator Params.sample
                (keyThree.getValidatorId Crypto.toy) Params.sample.nMinValidatorStake 500 95).1,
              { HeartbeatManager.init none false with
                trustManager := ((HeartbeatManager.init none false).trustManager.registerValidator
                  Params.sample (keyThree.getValidatorId Crypto.toy) Params.sample.nMinValidatorStake
                  500 95).2 }) ∧
          (((HeartbeatManager.init none false).processValidatorRegistration Params.sample Crypto.toy
              reg).1 = true ↔
            Params.sample.nMinValidatorStake ≤ Params.sample.nMinValidatorStake ∧
              (HeartbeatManager.init none false).trustManager.getValidator
                (keyThree.getValidatorId Crypto.toy) = none ∧
              0 ≤ (500 : Int) ∧ (500 : Int) ≤ 10000)) := by
  obtain ⟨reg, hreg⟩ : ∃ reg, keyThree.createRegistration Crypto.toy Params.sample.nMinValidatorStake
      500 95 = some reg := ⟨_, rfl⟩
  exact ⟨Crypto.toy_signVerifies, reg, hreg, own_registration_processed Crypto.toy_signVerifies hreg _⟩

/-! ### The node's heartbeats -/

/-- A block notification at a validator node: the height, the block's hash, and the clock's
reading when the node broadcasts. -/
structure BlockNotice where
  height : Int32
  hash : Digest
  time : Int

/-- `b` is at least one interval `I` past `a`, in exact arithmetic. -/
def Spaced (I a b : Int32) : Prop := a.val + I.val ≤ b.val

namespace BroadcastState

variable (p c net)

/-- One block notification handled by one thread alone: the check, then the broadcast when the
check says yes. -/
def notify (s : BroadcastState) (n : BlockNotice) : BroadcastState :=
  if s.shouldBroadcastHeartbeat p n.height then (s.broadcastHeartbeat c net n.height n.hash n.time).2
  else s

/-- The heartbeats the node signs over notifications handled one after another. -/
def heartbeatsSigned (s : BroadcastState) (ns : List BlockNotice) : List Heartbeat :=
  (ns.foldl (notify p c net) s).signed.drop s.signed.length

variable {p c net}

/-- A check that says yes, at a non-negative height after a non-negative last broadcast, is one
interval past the last broadcast. -/
lemma spaced_of_shouldBroadcastHeartbeat {s : BroadcastState} {h : Int32}
    (hs : s.shouldBroadcastHeartbeat p h = true) (h₀ : 0 ≤ s.lastHeartbeatHeight.val) (h₁ : 0 ≤ h.val) :
    Spaced p.nHeartbeatInterval s.lastHeartbeatHeight h := by
  unfold shouldBroadcastHeartbeat at hs
  split at hs
  · cases hs
  · split_ifs at hs with hlt
    have hb := h.val_mem
    have hl := s.lastHeartbeatHeight.val_mem
    rw [Int32.lt_iff, Int32.val_sub_of_mem (by omega) (by omega)] at hlt
    unfold Spaced
    omega

/-- A notification keeps the key. -/
lemma notify_validatorKey (s : BroadcastState) (n : BlockNotice) :
    (s.notify p c net n).validatorKey = s.validatorKey := by
  unfold notify broadcastHeartbeat
  split_ifs
  · split
    · rfl
    · dsimp only
      split <;> rfl
  · rfl

/-- A notification signs nothing and leaves the last broadcast height, or signs one heartbeat
in the node's name at the notified height, one interval past the last broadcast, which it
becomes. -/
lemma notify_cases (s : BroadcastState) (n : BlockNotice) (hs : 0 ≤ s.lastHeartbeatHeight.val)
    (hn : 0 ≤ n.height.val) :
    ((s.notify p c net n).signed = s.signed ∧
        (s.notify p c net n).lastHeartbeatHeight = s.lastHeartbeatHeight) ∨
      ∃ hb : Heartbeat, (s.notify p c net n).signed = s.signed ++ [hb] ∧
        hb.validatorId = s.getValidatorId c ∧ hb.blockHeight = n.height ∧
        Spaced p.nHeartbeatInterval s.lastHeartbeatHeight n.height ∧
        (s.notify p c net n).lastHeartbeatHeight = n.height := by
  unfold notify
  split_ifs with hsb
  · have hsp := spaced_of_shouldBroadcastHeartbeat hsb hs hn
    unfold broadcastHeartbeat
    split
    · exact .inl ⟨rfl, rfl⟩
    · rename_i key hkey
      dsimp only
      split
      · exact .inl ⟨rfl, rfl⟩
      · exact .inr ⟨_, rfl, by rw [getValidatorId, hkey]; rfl, rfl, hsp, rfl⟩
  · exact .inl ⟨rfl, rfl⟩

/-- Over notifications at non-negative heights, the node appends heartbeats in its own name
whose heights are spaced one interval apart, from its last broadcast height on. -/
lemma foldl_notify (ns : List BlockNotice) (hns : ∀ n ∈ ns, 0 ≤ n.height.val) :
    ∀ s : BroadcastState, 0 ≤ s.lastHeartbeatHeight.val →
      ∃ sent : List Heartbeat, (ns.foldl (notify p c net) s).signed = s.signed ++ sent ∧
        (∀ hb ∈ sent, hb.validatorId = s.getValidatorId c) ∧
        List.Chain (Spaced p.nHeartbeatInterval) s.lastHeartbeatHeight (sent.map (·.blockHeight)) := by
  induction ns with
  | nil =>
    intro s _
    refine ⟨[], ?_, ?_, ?_⟩
    · simp
    · simp
    · exact .nil
  | cons n ns ih =>
      intro s hs
      have hn := hns n (List.mem_cons_self _ _)
      have hid : (s.notify p c net n).getValidatorId c = s.getValidatorId c := by
        rw [getValidatorId, getValidatorId, notify_validatorKey]
      rcases notify_cases s n hs hn with ⟨hsig, hlast⟩ | ⟨hb, hsig, hbid, hbh, hsp, hlast⟩
      · obtain ⟨sent, hsent, hids, hch⟩ :=
          ih (fun n' h' => hns n' (List.mem_cons_of_mem _ h')) _ (hlast ▸ hs)
        rw [hsig, hlast, hid] at *
        exact ⟨sent, hsent, hids, hch⟩
      · obtain ⟨sent, hsent, hids, hch⟩ :=
          ih (fun n' h' => hns n' (List.mem_cons_of_mem _ h')) _ (hlast ▸ hn)
        rw [hsig, hlast, hid] at *
        refine ⟨hb :: sent, by simpa using hsent, ?_, ?_⟩
        · rintro hb' (_ | ⟨_, hb'm⟩)
          · exact hbid
          · exact hids hb' hb'm
        · rw [List.map_cons, hbh]
          exact .cons hsp hch

/-- The heartbeats signed over notifications at non-negative heights are in the node's name,
with heights spaced one interval apart from its last broadcast height on. -/
lemma heartbeatsSigned_spaced {s : BroadcastState} (hs : 0 ≤ s.lastHeartbeatHeight.val)
    {ns : List BlockNotice} (hns : ∀ n ∈ ns, 0 ≤ n.height.val) :
    (∀ hb ∈ s.heartbeatsSigned p c net ns, hb.validatorId = s.getValidatorId c) ∧
      List.Chain (Spaced p.nHeartbeatInterval) s.lastHeartbeatHeight
        ((s.heartbeatsSigned p c net ns).map (·.blockHeight)) := by
  obtain ⟨sent, hsent, hids, hch⟩ := foldl_notify ns hns s hs
  rw [heartbeatsSigned, hsent, List.drop_left]
  exact ⟨hids, hch⟩

end BroadcastState

/-! ### The peer -/

/-- A count that grows by one grows the wrapped total by one. -/
lemma Int32.ofInt_succ_val_add (x : Int32) (k : Nat) :
    Int32.ofInt ((x + 1).val + k) = Int32.ofInt (x.val + ↑(k + 1)) := by
  ext
  simp only [Int32.val_ofInt, Int32.val_add, Int32.val_one, Int32.wrap, Nat.cast_add, Nat.cast_one]
  omega

namespace HeartbeatManager

/-- A heartbeat of a known active validator, new to a manager with room in its seen set, is
marked seen; it is accepted exactly when its height is at least one interval past the record's
last heartbeat, and then it is counted and its height becomes the last one. -/
lemma processHeartbeat_of_active {hm : HeartbeatManager} {hb : Heartbeat} {info : ValidatorInfo}
    (hV : hm.trustManager.getValidator hb.validatorId = some info) (hact : info.isActive = true)
    (hnew : hm.seenHeartbeats.find? (hb.getHash c net) = none)
    (hroom : hm.seenHeartbeats.size < MAX_SEEN_HEARTBEATS) :
    ∃ hm' info', hm.processHeartbeat p c net hb =
        some (decide (info.lastHeartbeatHeight + p.nHeartbeatInterval ≤ hb.blockHeight), hm') ∧
      hm'.seenHeartbeats = hm.seenHeartbeats.insert (hb.getHash c net) () ∧
      hm'.trustManager.getValidator hb.validatorId = some info' ∧ info'.isActive = true ∧
      (if info.lastHeartbeatHeight + p.nHeartbeatInterval ≤ hb.blockHeight then
        info'.heartbeatsReceived = info.heartbeatsReceived + 1 ∧ info'.lastHeartbeatHeight = hb.blockHeight
      else info' = info) := by
  have hsize : ¬MAX_SEEN_HEARTBEATS < (hm.seenHeartbeats.insert (hb.getHash c net) ()).size := by
    rw [StdMap.size_insert_of_find?_none hnew]
    omega
  have hfind : hm.trustManager.validators.find? hb.validatorId = some info := hV
  unfold processHeartbeat
  simp only [hnew, Option.isSome_none, Bool.false_eq_true, if_false, hsize]
  by_cases hle : info.lastHeartbeatHeight + p.nHeartbeatInterval ≤ hb.blockHeight
  · have htm : hm.trustManager.processHeartbeat p hb hb.blockHeight =
        (true, { hm.trustManager with
          validators := hm.trustManager.validators.insert hb.validatorId
            (TrustScoreManager.recordHeartbeat hb.blockHeight info) }) := by
      simp [TrustScoreManager.processHeartbeat, hfind, hact,
        show ¬hb.blockHeight < info.lastHeartbeatHeight + p.nHeartbeatInterval from Int.not_lt.mpr hle]
    simp only [htm, decide_eq_true hle, if_pos hle, Bool.true_eq_false, ↓reduceIte]
    split
    · exact ⟨_, TrustScoreManager.recordHeartbeat hb.blockHeight info, rfl, rfl,
        StdMap.find?_insert _ _ _, hact, rfl, rfl⟩
    · rcases TrustScoreManager.updateValidatorAddress_cases net _ hm.peerDiscovery hb.validatorId
        hb.nodeAddress hb.timestamp with hu | ⟨r, hr, -, hu⟩
      · refine ⟨_, TrustScoreManager.recordHeartbeat hb.blockHeight info, rfl,
          checkIn_seenHeartbeats .., ?_, hact, rfl, rfl⟩
        rw [checkIn_trustManager, hu]
        exact StdMap.find?_insert _ _ _
      · rw [StdMap.find?_insert] at hr
        cases hr
        refine ⟨_, TrustScoreManager.recordCheckIn hb.nodeAddress hb.timestamp
          (TrustScoreManager.recordHeartbeat hb.blockHeight info), rfl, checkIn_seenHeartbeats .., ?_,
          hact, rfl, rfl⟩
        rw [checkIn_trustManager, hu]
        exact StdMap.find?_insert _ _ _
  · have htm : hm.trustManager.processHeartbeat p hb hb.blockHeight = (false, hm.trustManager) := by
      simp [TrustScoreManager.processHeartbeat, hfind, hact,
        show hb.blockHeight < info.lastHeartbeatHeight + p.nHeartbeatInterval from Int.not_le.mp hle]
    simp only [htm, decide_eq_false hle, if_neg hle, ↓reduceIte]
    exact ⟨_, info, rfl, rfl, hV, hact, rfl⟩

/-- Where a record's last heartbeat height `L` can be while a peer takes heartbeats spaced one
interval `I` apart after `prev`: still at `L₀`, or at least one interval past `L₀` and not past
`prev`. -/
def Trails (I L₀ prev L : Int32) : Prop :=
  L = L₀ ∨ (L₀ + I ≤ L ∧ L.val ≤ prev.val)

namespace Trails

variable {I L₀ prev L h : Int32}

/-- At a height spaced after `prev`, the peer's test against the record's height agrees with
the test against `L₀`. -/
lemma test_iff (hI : 0 ≤ I.val) (hT : Trails I L₀ prev L) (hsp : Spaced I prev h) :
    L + I ≤ h ↔ L₀ + I ≤ h := by
  rcases hT with rfl | ⟨hL₁, hL₂⟩
  · rfl
  · have hl := L.val_mem
    have hh := h.val_mem
    unfold Spaced at hsp
    rw [Int32.le_iff] at hL₁ ⊢
    rw [Int32.le_iff, Int32.val_add_of_mem (by omega) (by omega)]
    omega

/-- An accepted heartbeat's height is where the record trails next. -/
lemma accept (hh : L₀ + I ≤ h) : Trails I L₀ h h := .inr ⟨hh, le_refl _⟩

/-- A refused heartbeat leaves the record where it was, still trailing. -/
lemma reject (hI : 0 ≤ I.val) (hT : Trails I L₀ prev L) (hsp : Spaced I prev h) : Trails I L₀ h L := by
  unfold Spaced at hsp
  exact hT.imp_right fun h' => ⟨h'.1, by omega⟩

end Trails

/-- **A peer fed spaced heartbeats of one validator.** Heartbeats in the name of a validator
the peer holds active, with heights spaced one interval apart after `prev`, new digests and
room for them in the seen set: the peer accepts exactly those at least one interval past the
record's height `L₀` at the start, counting each once. -/
lemma run_spaced {V : KeyID} {L₀ : Int32} (hI : 0 ≤ p.nHeartbeatInterval.val) :
    ∀ (hbs : List Heartbeat) (prev : Int32) (hm : HeartbeatManager) (info : ValidatorInfo),
      hm.trustManager.getValidator V = some info → info.isActive = true →
      Trails p.nHeartbeatInterval L₀ prev info.lastHeartbeatHeight →
      List.Chain (Spaced p.nHeartbeatInterval) prev (hbs.map (·.blockHeight)) →
      (∀ hb ∈ hbs, hb.validatorId = V) → (hbs.map (·.getHash c net)).Nodup →
      (∀ hb ∈ hbs, hm.seenHeartbeats.find? (hb.getHash c net) = none) →
      hm.seenHeartbeats.size + hbs.length ≤ MAX_SEEN_HEARTBEATS →
      ∃ hm' info', run p c net hm (hbs.map .heartbeat) =
          some (hm', hbs.map fun hb => decide (L₀ + p.nHeartbeatInterval ≤ hb.blockHeight)) ∧
        hm'.trustManager.getValidator V = some info' ∧
        info'.heartbeatsReceived = Int32.ofInt (info.heartbeatsReceived.val +
          (hbs.filter fun hb => decide (L₀ + p.nHeartbeatInterval ≤ hb.blockHeight)).length)
  | [], _, hm, info, hV, _, _, _, _, _, _, _ => ⟨hm, info, rfl, hV, by
      ext; simp [Int32.wrap_of_mem info.heartbeatsReceived.min_le info.heartbeatsReceived.lt_max]⟩
  | hb :: hbs, prev, hm, info, hV, hact, hT, hch, hids, hnd, hnew, hroom => by
      obtain ⟨hsp, hch⟩ := List.chain_cons.mp hch
      have hsp : Spaced p.nHeartbeatInterval prev hb.blockHeight := hsp
      have hid := hids hb (List.mem_cons_self _ _)
      have hmem : hb ∈ hb :: hbs := List.mem_cons_self _ _
      simp only [List.map_cons, List.nodup_cons, List.length_cons] at hnd hroom
      have hdec := hT.test_iff hI hsp
      obtain ⟨hm₁, info₁, hstep, hseen, hV₁, hact₁, hrec⟩ :=
        processHeartbeat_of_active (hid ▸ hV) hact (hnew hb hmem) (by omega)
      have hT₁ : Trails p.nHeartbeatInterval L₀ hb.blockHeight info₁.lastHeartbeatHeight := by
        split_ifs at hrec with hle
        · rw [hrec.2]
          exact Trails.accept (hdec.mp hle)
        · rw [hrec]
          exact hT.reject hI hsp
      obtain ⟨hm₂, info₂, hrun, hV₂, hcount⟩ := run_spaced hI hbs hb.blockHeight hm₁ info₁
        (hid ▸ hV₁) hact₁ hT₁ hch (fun hb' h' => hids hb' (List.mem_cons_of_mem _ h')) hnd.2
        (fun hb' h' => by
          rw [hseen, StdMap.find?_insert_ne _ _ fun he => hnd.1 (by rw [he]; exact List.mem_map_of_mem _ h')]
          exact hnew hb' (List.mem_cons_of_mem _ h'))
        (by rw [hseen, StdMap.size_insert_of_find?_none (hnew hb hmem)]; omega)
      refine ⟨hm₂, info₂, ?_, hV₂, ?_⟩
      · simp only [List.map_cons, run, step, hstep, hrun, Option.map_some', decide_eq_decide.mpr hdec]
      · rw [hcount, List.filter_cons]
        split_ifs at hrec with hle
        · rw [if_pos (decide_eq_true (hdec.mp hle)), List.length_cons, hrec.1, Int32.ofInt_succ_val_add]
        · rw [if_neg (by simpa using mt hdec.mpr hle), hrec]

end HeartbeatManager

open BroadcastState in
/-- **A node's heartbeats reach a peer.** A validator node handles block notifications at
non-negative heights one at a time, from a non-negative last broadcast height; each heartbeat
it signs is handed to a peer that holds the node's record `r` active. If the heartbeats' digests
are distinct, new to the peer and fit in its seen set, the peer returns for each heartbeat, it
accepts exactly those at least one interval past `r`'s last heartbeat height, and it counts each
of them once. -/
theorem own_heartbeats_counted (hI : 0 ≤ p.nHeartbeatInterval.val) {s : BroadcastState}
    (hs : 0 ≤ s.lastHeartbeatHeight.val) {ns : List BlockNotice} (hns : ∀ n ∈ ns, 0 ≤ n.height.val)
    {hm : HeartbeatManager} {r : ValidatorInfo}
    (hr : hm.trustManager.getValidator (s.getValidatorId c) = some r) (hact : r.isActive = true)
    (hnodup : ((s.heartbeatsSigned p c net ns).map (·.getHash c net)).Nodup)
    (hnew : ∀ hb ∈ s.heartbeatsSigned p c net ns, hm.seenHeartbeats.find? (hb.getHash c net) = none)
    (hroom : hm.seenHeartbeats.size + (s.heartbeatsSigned p c net ns).length ≤ MAX_SEEN_HEARTBEATS) :
    ∃ hm' r', HeartbeatManager.run p c net hm ((s.heartbeatsSigned p c net ns).map .heartbeat) =
        some (hm', (s.heartbeatsSigned p c net ns).map fun hb =>
          decide (r.lastHeartbeatHeight + p.nHeartbeatInterval ≤ hb.blockHeight)) ∧
      hm'.trustManager.getValidator (s.getValidatorId c) = some r' ∧
      r'.heartbeatsReceived = Int32.ofInt (r.heartbeatsReceived.val +
        ((s.heartbeatsSigned p c net ns).filter fun hb =>
          decide (r.lastHeartbeatHeight + p.nHeartbeatInterval ≤ hb.blockHeight)).length) :=
  HeartbeatManager.run_spaced hI (s.heartbeatsSigned p c net ns) _ hm r hr hact (.inl rfl)
    (heartbeatsSigned_spaced hs hns).2 (heartbeatsSigned_spaced hs hns).1 hnodup hnew hroom

/-- `keyThree` registered at height 95 with a fresh peer. -/
def peerOfThree : HeartbeatManager :=
  ((keyThree.createRegistration Crypto.toy Params.sample.nMinValidatorStake 500 95).elim
    (HeartbeatManager.init none false) fun reg =>
      ((HeartbeatManager.init none false).processValidatorRegistration Params.sample Crypto.toy reg).2)

/-- Blocks 100 and 110 reach `keyThree`. -/
def blocksToThree : List BlockNotice := [⟨100, 5, 1000⟩, ⟨110, 6, 1010⟩]

/-- The record `peerOfThree` holds for `keyThree`. -/
def recordOfThree : ValidatorInfo :=
  TrustScoreManager.registeredInfo 3 Params.sample.nMinValidatorStake 500 95

/-- `keyThree`'s heartbeats for blocks 100 and 110 reach `peerOfThree`. -/
theorem own_heartbeats_counted_three :
    0 ≤ Params.sample.nHeartbeatInterval.val ∧ 0 ≤ keyThree.lastHeartbeatHeight.val ∧
      (∀ n ∈ blocksToThree, 0 ≤ n.height.val) ∧
      peerOfThree.trustManager.getValidator (keyThree.getValidatorId Crypto.toy) = some recordOfThree ∧
      recordOfThree.isActive = true ∧
      ((keyThree.heartbeatsSigned Params.sample Crypto.toy NetApi.sample blocksToThree).map
        (·.getHash Crypto.toy NetApi.sample)).Nodup ∧
      (∀ hb ∈ keyThree.heartbeatsSigned Params.sample Crypto.toy NetApi.sample blocksToThree,
        peerOfThree.seenHeartbeats.find? (hb.getHash Crypto.toy NetApi.sample) = none) ∧
      peerOfThree.seenHeartbeats.size +
          (keyThree.heartbeatsSigned Params.sample Crypto.toy NetApi.sample blocksToThree).length ≤
        MAX_SEEN_HEARTBEATS ∧
      ∃ hm' r', HeartbeatManager.run Params.sample Crypto.toy NetApi.sample peerOfThree
          ((keyThree.heartbeatsSigned Params.sample Crypto.toy NetApi.sample blocksToThree).map .heartbeat) =
          some (hm', (keyThree.heartbeatsSigned Params.sample Crypto.toy NetApi.sample blocksToThree).map
            fun hb => decide (recordOfThree.lastHeartbeatHeight + Params.sample.nHeartbeatInterval ≤
              hb.blockHeight)) ∧
        hm'.trustManager.getValidator (keyThree.getValidatorId Crypto.toy) = some r' ∧
        r'.heartbeatsReceived = Int32.ofInt (recordOfThree.heartbeatsReceived.val +
          ((keyThree.heartbeatsSigned Params.sample Crypto.toy NetApi.sample blocksToThree).filter
            fun hb => decide (recordOfThree.lastHeartbeatHeight + Params.sample.nHeartbeatInterval ≤
              hb.blockHeight)).length) :=
  have hr : peerOfThree.trustManager.getValidator (keyThree.getValidatorId Crypto.toy) =
      some recordOfThree := rfl
  have hns : ∀ n ∈ blocksToThree, 0 ≤ n.height.val := by decide
  have hnd : ((keyThree.heartbeatsSigned Params.sample Crypto.toy NetApi.sample blocksToThree).map
      (·.getHash Crypto.toy NetApi.sample)).Nodup := by decide
  have hnew : ∀ hb ∈ keyThree.heartbeatsSigned Params.sample Crypto.toy NetApi.sample blocksToThree,
      peerOfThree.seenHeartbeats.find? (hb.getHash Crypto.toy NetApi.sample) = none := by decide
  have hroom : peerOfThree.seenHeartbeats.size +
      (keyThree.heartbeatsSigned Params.sample Crypto.toy NetApi.sample blocksToThree).length ≤
        MAX_SEEN_HEARTBEATS := by decide
  ⟨by decide, by decide, hns, hr, rfl, hnd, hnew, hroom,
    own_heartbeats_counted (by decide) (by decide) hns hr rfl hnd hnew hroom⟩

/-- Registered at 95, off the 10-block boundary, `keyThree` broadcasts at 100 and 110; the peer
refuses the first, which is not one interval past 95, and accepts the second. -/
example : (HeartbeatManager.run Params.sample Crypto.toy NetApi.sample peerOfThree
    ((keyThree.heartbeatsSigned Params.sample Crypto.toy NetApi.sample blocksToThree).map
      .heartbeat)).map Prod.snd = some [false, true] := by
  decide

end WattxCore
