import WattxCore.Trust.TrustScore

/-!
Heartbeat broadcasting under concurrent block notifications. A validator node decides to
broadcast in `ShouldBroadcastHeartbeat(h)` (reached from `OnNewBlock(h)`) and broadcasts in
`BroadcastHeartbeat(h, hash)`. Each is one critical section of `cs_heartbeat`, and the second
does not repeat the first's check. A thread notified of height `h` runs the check and, when it
says yes, the broadcast; any number of threads run, with any heights, in any interleaving of
these critical sections.

* `BroadcastState`, `ShouldBroadcastHeartbeat`, `BroadcastHeartbeat`: the fields the two calls
  read and write, and the calls, with the heartbeats signed so far kept as a history;
* `Broadcasts.step`, `Broadcasts.run`: one critical section of one thread, and a schedule;
* `broadcast_heights_aligned`: over every schedule, every signed heartbeat is at a height that
  is a multiple of `nHeartbeatInterval`;
* `duplicate_heartbeat_at_height`: two threads notified of height 10 that both pass the check
  before either broadcasts sign two heartbeats for height 10.
-/

namespace WattxCore

/-- C++ `%` is at most its dividend in magnitude. -/
lemma natAbs_tmod_le : ∀ a b : Int, (a.tmod b).natAbs ≤ a.natAbs
  | .ofNat m, .ofNat n => Nat.mod_le m n
  | .ofNat m, .negSucc _ => Nat.mod_le m _
  | .negSucc _, .ofNat n => (Int.natAbs_neg _).trans_le (Nat.mod_le _ n)
  | .negSucc _, .negSucc _ => (Int.natAbs_neg _).trans_le (Nat.mod_le _ _)

/-- An `int` whose remainder by `d` is zero is a multiple of `d` (`d = 0` included: the
remainder by zero is the dividend). -/
lemma Int32.dvd_of_mod_eq_zero {a d : Int32} (h : a % d = 0) : d.val ∣ a.val := by
  have hb := natAbs_tmod_le a.val d.val
  have hr := a.val_mem
  have hv : Int32.wrap (a.val.tmod d.val) = 0 := congrArg Int32.val h
  unfold Int32.wrap at hv
  exact Int.dvd_of_tmod_eq_zero (by omega)

/-- The fields of `HeartbeatManager` its broadcasting reads and writes: the validator key
(`m_is_validator` with `m_validator_key`, which `SetValidatorKey` sets together), the height of
the last broadcast and the seen set. `signed` is the history of the heartbeats signed so far,
not a field of the source. -/
structure BroadcastState where
  validatorKey : Option PrivKey
  lastHeartbeatHeight : Int32
  seenHeartbeats : StdMap Digest Unit
  signed : List Heartbeat

namespace BroadcastState

variable (p : Params) (c : Crypto) (net : NetApi)

/-- `HeartbeatManager::ShouldBroadcastHeartbeat`. -/
def shouldBroadcastHeartbeat (s : BroadcastState) (currentHeight : Int32) : Bool :=
  match s.validatorKey with
  | none => false
  | some _ =>
      if currentHeight - s.lastHeartbeatHeight < p.nHeartbeatInterval then false
      else decide (currentHeight % p.nHeartbeatInterval = 0)

/-- The heartbeat `BroadcastHeartbeat` builds before signing: the key's id, the height and block
hash it is given, the clock's reading, the default address and port 18888. -/
def unsignedHeartbeat (key : PrivKey) (blockHeight : Int32) (blockHash : Digest) (time : Int) :
    Heartbeat where
  validatorId := c.getID (c.getPubKey key)
  blockHeight := blockHeight
  blockHash := blockHash
  timestamp := time
  nodeAddress := Service.none
  nodePort := 18888
  signature := []

/-- `HeartbeatManager::BroadcastHeartbeat`; `time` is what `GetTime()` returns. -/
def broadcastHeartbeat (s : BroadcastState) (blockHeight : Int32) (blockHash : Digest) (time : Int) :
    Bool × BroadcastState :=
  match s.validatorKey with
  | none => (false, s)
  | some key =>
      let hb := unsignedHeartbeat c key blockHeight blockHash time
      match c.sign key (hb.getHash c net) with
      | none => (false, s)
      | some sig =>
          let hb := { hb with signature := sig }
          (true, { s with
            seenHeartbeats := s.seenHeartbeats.insert (hb.getHash c net) ()
            lastHeartbeatHeight := blockHeight
            signed := s.signed ++ [hb] })

variable {p c net}

/-- A check that says yes was made at a multiple of the interval. -/
lemma dvd_of_shouldBroadcastHeartbeat {s : BroadcastState} {h : Int32}
    (hs : s.shouldBroadcastHeartbeat p h = true) : p.nHeartbeatInterval.val ∣ h.val := by
  unfold shouldBroadcastHeartbeat at hs
  split at hs
  · cases hs
  · split_ifs at hs
    exact Int32.dvd_of_mod_eq_zero (of_decide_eq_true hs)

/-- A broadcast signs nothing, or one heartbeat at the height it is given. -/
lemma broadcastHeartbeat_signed (s : BroadcastState) (h : Int32) (hash : Digest) (time : Int) :
    (s.broadcastHeartbeat c net h hash time).2.signed = s.signed ∨
      ∃ hb : Heartbeat, hb.blockHeight = h ∧
        (s.broadcastHeartbeat c net h hash time).2.signed = s.signed ++ [hb] := by
  unfold broadcastHeartbeat
  split
  · exact .inl rfl
  · dsimp only
    split
    · exact .inl rfl
    · exact .inr ⟨_, rfl, rfl⟩

end BroadcastState

/-- Where a notified thread is: before its check, past a check that said yes, or done. -/
inductive ThreadPhase
  | notified
  | approved
  | finished
  deriving DecidableEq

/-- A thread notified of a block: its height and hash, and its phase. -/
structure BroadcastThread where
  height : Int32
  blockHash : Digest
  phase : ThreadPhase

/-- One critical section: thread `i`'s check, or its broadcast with the clock reading `time`. -/
inductive BroadcastEvent
  | check (i : Nat)
  | broadcast (i : Nat) (time : Int)

/-- The manager and the notified threads. -/
structure Broadcasts where
  manager : BroadcastState
  threads : List BroadcastThread

namespace Broadcasts

variable (p : Params) (c : Crypto) (net : NetApi)

/-- One critical section; `none` when thread `i` does not exist or is not at that point. -/
def step (S : Broadcasts) : BroadcastEvent → Option Broadcasts
  | .check i =>
      match S.threads[i]? with
      | some t =>
          if t.phase = .notified then
            some { S with threads := S.threads.set i { t with
              phase := if S.manager.shouldBroadcastHeartbeat p t.height then .approved else .finished } }
          else none
      | none => none
  | .broadcast i time =>
      match S.threads[i]? with
      | some t =>
          if t.phase = .approved then
            some ⟨(S.manager.broadcastHeartbeat c net t.height t.blockHash time).2,
              S.threads.set i { t with phase := .finished }⟩
          else none
      | none => none

/-- A schedule of critical sections; `none` when one of them is not possible. -/
def run (S : Broadcasts) : List BroadcastEvent → Option Broadcasts
  | [] => some S
  | e :: es => (step p c net S e).bind fun S' => run S' es

/-- Every signed heartbeat, and every thread past a check that said yes, is at a multiple of
`I`. -/
structure Aligned (I : Int) (S : Broadcasts) : Prop where
  signed : ∀ hb ∈ S.manager.signed, I ∣ hb.blockHeight.val
  approved : ∀ t ∈ S.threads, t.phase = .approved → I ∣ t.height.val

variable {p c net}

/-- What a critical section does: a check moves a notified thread on by the manager's answer; a
broadcast runs `BroadcastHeartbeat` for an approved thread and finishes it. -/
lemma step_cases {S S' : Broadcasts} {e : BroadcastEvent} (h : step p c net S e = some S') :
    ∃ i t, S.threads[i]? = some t ∧
      (S' = { S with threads := S.threads.set i { t with
          phase := if S.manager.shouldBroadcastHeartbeat p t.height then .approved else .finished } } ∨
        t.phase = .approved ∧ ∃ time, S' = ⟨(S.manager.broadcastHeartbeat c net t.height t.blockHash time).2,
          S.threads.set i { t with phase := .finished }⟩) := by
  cases e with
  | check i =>
    simp only [step] at h
    split at h <;> [rename_i t ht; cases h]
    obtain ⟨-, ⟨⟩⟩ := Option.ite_none_right_eq_some.mp h
    exact ⟨i, t, ht, .inl rfl⟩
  | broadcast i time =>
    simp only [step] at h
    split at h <;> [rename_i t ht; cases h]
    obtain ⟨hph, ⟨⟩⟩ := Option.ite_none_right_eq_some.mp h
    exact ⟨i, t, ht, .inr ⟨hph, time, rfl⟩⟩

/-- Replacing a thread by one that is not approved, or is approved at a multiple of `I`, keeps
the approved threads at multiples of `I`. -/
lemma approved_set {I : Int} {ts : List BroadcastThread}
    (h : ∀ t ∈ ts, t.phase = .approved → I ∣ t.height.val) {i : Nat} {t' : BroadcastThread}
    (ht' : t'.phase = .approved → I ∣ t'.height.val) :
    ∀ t ∈ ts.set i t', t.phase = .approved → I ∣ t.height.val :=
  fun t ht => (List.mem_or_eq_of_mem_set ht).elim (h t) fun e => e ▸ ht'

/-- Every critical section keeps the heights aligned to the interval. -/
lemma Aligned.step {S S' : Broadcasts} {e : BroadcastEvent} (hA : Aligned p.nHeartbeatInterval.val S)
    (h : step p c net S e = some S') : Aligned p.nHeartbeatInterval.val S' := by
  obtain ⟨i, t, ht, rfl | ⟨hph, time, rfl⟩⟩ := step_cases h
  · refine ⟨hA.signed, approved_set hA.approved fun hp => ?_⟩
    dsimp only at hp
    split_ifs at hp with hs
    exact BroadcastState.dvd_of_shouldBroadcastHeartbeat hs
  · refine ⟨?_, approved_set hA.approved nofun⟩
    have hdvd := hA.approved t (List.getElem?_mem ht) hph
    rcases BroadcastState.broadcastHeartbeat_signed S.manager t.height t.blockHash time with
      hs | ⟨hb, hh, hs⟩ <;> rw [hs]
    · exact hA.signed
    · intro hb' hb'm
      rcases List.mem_append.mp hb'm with hb'm | hb'm
      · exact hA.signed hb' hb'm
      · rw [List.mem_singleton.mp hb'm, hh]; exact hdvd

/-- A schedule keeps the heights aligned to the interval. -/
lemma Aligned.run : ∀ {S S' : Broadcasts} (es : List BroadcastEvent),
    Aligned p.nHeartbeatInterval.val S → run p c net S es = some S' →
      Aligned p.nHeartbeatInterval.val S'
  | _, _, [], hA, h => by cases h; exact hA
  | _, _, e :: es, hA, h => by
      obtain ⟨S₁, h₁, h⟩ := Option.bind_eq_some.mp h
      exact Aligned.run es (hA.step h₁) h

end Broadcasts

/-- **Every broadcast height is a multiple of `nHeartbeatInterval`.** From a manager that has
signed nothing and threads that are all before their check, over every schedule of their
critical sections, each signed heartbeat is at such a height. -/
lemma broadcast_heights_aligned {p : Params} {c : Crypto} {net : NetApi} {S S' : Broadcasts}
    (hS : S.manager.signed = []) (hT : ∀ t ∈ S.threads, t.phase = .notified)
    (es : List BroadcastEvent) (h : S.run p c net es = some S') :
    ∀ hb ∈ S'.manager.signed, p.nHeartbeatInterval.val ∣ hb.blockHeight.val :=
  (Broadcasts.Aligned.run es ⟨by simp [hS], fun t ht hp => by cases (hT t ht).symm.trans hp⟩ h).signed

/-- A validator with key `1` that has broadcast nothing, and two threads notified of height 10
with block hash 5. -/
def twoNotifications : Broadcasts :=
  ⟨⟨some 1, 0, StdMap.empty, []⟩, [⟨10, 5, .notified⟩, ⟨10, 5, .notified⟩]⟩

/-- Both threads check before either broadcasts; the clock reads 100, then 101. -/
def checkThenActSchedule : List BroadcastEvent :=
  [.check 0, .check 1, .broadcast 0 100, .broadcast 1 101]

/-- The schedule signs two heartbeats for height 10, and both enter the seen set. -/
theorem duplicate_heartbeat_at_height :
    (twoNotifications.run Params.sample Crypto.toy NetApi.sample checkThenActSchedule).map
        (fun S => (S.manager.signed.map (·.blockHeight), S.manager.seenHeartbeats.size)) =
      some ([10, 10], 2) := by
  decide

end WattxCore
