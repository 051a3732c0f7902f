import WattxCore.Rpc.Wallet

/-!
The two loops of `claimrewards`: over the wallet's address book, and over a copy of each key's
delegations taken when the outer loop reaches the key. Every claim they make goes to
`ProcessRewardClaim`, which only zeroes pending rewards, so a whole call is a chain of such
rewrites.

* `Settles`, `ClaimsOnly`: a claim's rewrite of one record, and a ledger that differs from
  another only by such rewrites, the registry and the indices being the same;
* `ClaimRun`: the accumulator of the loops, whose claimed total and pending rewards together
  stay what the ledger held pending, one claim (`claimStep_run`), one delegation
  (`claimOne_run`) and one key (`claimKey_run`) at a time;
* `claimrewards_accounts`: **`claimrewards` throws exactly at its first checks (the
  delegation database is not set, the wallet is locked), touching nothing; what it reports
  claimed is exactly what left the ledger's pending rewards, and the registry and the indices
  are untouched**;
* `claimrewards_clears`: **when the database is set, the wallet unlocked and able to sign for
  each of its keys, every active delegation of its keys that the call covers ends with no
  pending rewards**, even where a claim for an earlier delegation to the same validator emptied
  it before the loop reached it.
-/

namespace WattxCore

open DelegationDB

/-- A claim's rewrite of a record: its pending rewards are zeroed, its validator and status
kept. -/
def Settles (_ : Digest) (e e' : DelegationEntry) : Prop :=
  e'.validatorId = e.validatorId ∧ e'.status = e.status ∧ e'.pendingRewards = 0

/-- `L'` is `L` with some pending rewards zeroed: the registry, the indices and the height are
the same. -/
def ClaimsOnly (L L' : Ledger) : Prop :=
  L'.vdb = L.vdb ∧
    ∃ ds, L'.ddb = { L.ddb with delegations := ds } ∧ StdMap.Updates Settles L.ddb.delegations ds

namespace ClaimsOnly

lemma refl (L : Ledger) : ClaimsOnly L L := ⟨rfl, L.ddb.delegations, rfl, .refl _⟩

lemma trans {L L' L'' : Ledger} (h₁ : ClaimsOnly L L') (h₂ : ClaimsOnly L' L'') :
    ClaimsOnly L L'' := by
  obtain ⟨hv₁, ds₁, hd₁, hu₁⟩ := h₁
  obtain ⟨hv₂, ds₂, hd₂, hu₂⟩ := h₂
  have hds : L'.ddb.delegations = ds₁ := by rw [hd₁]
  refine ⟨hv₂.trans hv₁, ds₂, by rw [hd₂, hd₁], hu₁.trans (hds ▸ hu₂)⟩

/-- The index lists are those of the first ledger. -/
lemma delegatorIndex {L L' : Ledger} (h : ClaimsOnly L L') :
    L'.ddb.delegatorIndex = L.ddb.delegatorIndex := by
  obtain ⟨-, ds, hd, -⟩ := h
  rw [hd]

/-- Records the claims of `L'` covers are still cleared after more claims. -/
lemma cleared {L L' : Ledger} {r : RewardClaimRequest} (h : ClaimsOnly L L')
    (hc : Cleared r L.ddb) : Cleared r L'.ddb := by
  obtain ⟨-, ds, hd, hu⟩ := h
  rw [hd]
  exact hc.of_updates hu fun _ _ _ h => ⟨h.1, .inr h.2.2⟩

/-- A record of `L'` is the record of `L` under the same id, or it with its pending rewards
zeroed. -/
lemma find? {L L' : Ledger} (h : ClaimsOnly L L') {id : Digest} {e' : DelegationEntry}
    (he' : L'.ddb.delegations.find? id = some e') :
    ∃ e, L.ddb.delegations.find? id = some e ∧ e'.validatorId = e.validatorId ∧
      e'.status = e.status ∧ (e'.pendingRewards = e.pendingRewards ∨ e'.pendingRewards = 0) := by
  obtain ⟨-, ds, hd, hu⟩ := h
  rw [hd] at he'
  obtain ⟨e, he, hrel⟩ := hu.find?_rel he'
  refine ⟨e, he, ?_⟩
  clear he'
  induction hrel with
  | refl => exact ⟨rfl, rfl, .inl rfl⟩
  | tail _ hs ih =>
      obtain ⟨hv, hst, -⟩ := ih
      exact ⟨hs.1.trans hv, hs.2.1.trans hst, .inr hs.2.2⟩

end ClaimsOnly

/-! ### One claim -/

namespace DelegationDB

/-- The claim loop pays out at least what it started with. -/
lemma claimLoop_ge (r : RewardClaimRequest) (h : Int32) :
    ∀ (ids : List Digest) (total : Int) (ds : StdMap Digest DelegationEntry),
      total ≤ (claimLoop r h ids total ds).1
  | [], _, _ => le_rfl
  | id :: ids, total, ds => by
      unfold claimLoop
      split
      · exact claimLoop_ge r h ids total ds
      · rename_i e _
        split_ifs with _ hpos
        · exact claimLoop_ge r h ids total ds
        · exact le_trans (by omega) (claimLoop_ge r h ids _ _)
        · exact claimLoop_ge r h ids total ds

/-- A claim pays out a non-negative amount, exactly the pending rewards it zeroes, and only
zeroes pending rewards. -/
lemma processRewardClaim_settles (db : DelegationDB) (r : RewardClaimRequest) :
    0 ≤ (db.processRewardClaim r).1 ∧
      (db.processRewardClaim r).1 + pendingTotal (db.processRewardClaim r).2.delegations =
        pendingTotal db.delegations ∧
      ∃ ds, (db.processRewardClaim r).2 = { db with delegations := ds } ∧
        StdMap.Updates Settles db.delegations ds := by
  obtain ⟨ds, hds, hu⟩ := processRewardClaim_updates db r
  refine ⟨?_, ?_, ds, hds, hu.mono fun _ e e' he => by subst he; exact ⟨rfl, rfl, rfl⟩⟩ <;>
    unfold processRewardClaim <;> split
  · exact le_rfl
  · exact claimLoop_ge r _ _ 0 _
  · simp
  · simpa using claimLoop_accounts r db.currentHeight _ 0 db.delegations

end DelegationDB

variable {c : Crypto} {w : Wallet}

/-- The loops' accumulator moved on by claims: the ledger by `ClaimsOnly`, with the claimed
total and the pending rewards together unchanged. -/
def ClaimRun (acc acc' : Int × Nat × Ledger) : Prop :=
  ClaimsOnly acc.2.2 acc'.2.2 ∧
    acc'.1 + pendingTotal acc'.2.2.ddb.delegations = acc.1 + pendingTotal acc.2.2.ddb.delegations

lemma ClaimRun.refl (acc : Int × Nat × Ledger) : ClaimRun acc acc := ⟨.refl _, rfl⟩

lemma ClaimRun.trans {acc acc' acc'' : Int × Nat × Ledger} (h₁ : ClaimRun acc acc')
    (h₂ : ClaimRun acc' acc'') : ClaimRun acc acc'' :=
  ⟨h₁.1.trans h₂.1, h₂.2.trans h₁.2⟩

/-- The ledger after one claim of the loop. -/
lemma claimStep_ledger (acc : Int × Nat × Ledger) (r : RewardClaimRequest) :
    (claimStep acc r).2.2 = { acc.2.2 with ddb := (acc.2.2.ddb.processRewardClaim r).2 } := by
  obtain ⟨t, n, L⟩ := acc
  simp only [claimStep]
  split_ifs <;> rfl

/-- One claim keeps the books of the loop: the amount it adds to the total, when positive, is
what it zeroed. -/
lemma claimStep_run (acc : Int × Nat × Ledger) (r : RewardClaimRequest) :
    ClaimRun acc (claimStep acc r) := by
  obtain ⟨t, n, L⟩ := acc
  obtain ⟨hnn, hacc, ds, hds, hu⟩ := processRewardClaim_settles L.ddb r
  refine ⟨⟨by rw [claimStep_ledger], ds, by rw [claimStep_ledger, hds], hu⟩, ?_⟩
  rw [claimStep_ledger]
  simp only [claimStep]
  split_ifs <;> dsimp only <;> omega

/-! ### The inner loop -/

/-- The body of the inner loop skips the delegation or makes one claim of the key from the
delegation's validator. -/
lemma claimOne_cases (V k : KeyID) (acc : Int × Nat × Ledger) (d : DelegationEntry) :
    claimOne c w V k acc d = acc ∨ ∃ r : RewardClaimRequest, r.delegatorId = k ∧
      r.validatorId = d.validatorId ∧ claimOne c w V k acc d = claimStep acc r := by
  unfold claimOne
  split_ifs
  · exact .inl rfl
  · exact .inl rfl
  · dsimp only
    split
    · exact .inl rfl
    · exact .inr ⟨_, rfl, rfl, rfl⟩

/-- An active delegation with pending rewards that the call covers, of a key the wallet can
sign for, makes a claim. -/
lemma claimOne_claims {V k : KeyID}
    {key : PrivKey} (hkey : w.keyOf k = some key) (hsign : ∀ d, (c.sign key d).isSome)
    (acc : Int × Nat × Ledger) {d : DelegationEntry} (hd : d.status = .ACTIVE)
    (hp : d.pendingRewards ≠ 0) (hV : V = 0 ∨ d.validatorId = V) :
    ∃ r : RewardClaimRequest, r.delegatorId = k ∧ r.validatorId = d.validatorId ∧
      claimOne c w V k acc d = claimStep acc r := by
  obtain ⟨sig, hsig⟩ := Option.isSome_iff_exists.mp (hsign (RewardClaimRequest.getHash c
    ⟨k, d.validatorId, w.height, []⟩))
  unfold claimOne
  rw [if_neg (by simp [DelegationEntry.isActive, hd, hp]), if_neg (by tauto)]
  simp only [hkey, Option.some_bind, hsig]
  exact ⟨_, rfl, rfl, rfl⟩

lemma claimOne_run (V k : KeyID) (acc : Int × Nat × Ledger) (d : DelegationEntry) :
    ClaimRun acc (claimOne c w V k acc d) := by
  rcases claimOne_cases V k acc d with h | ⟨r, -, -, h⟩ <;> rw [h]
  · exact .refl _
  · exact claimStep_run acc r

lemma claimOne_fold_run (V k : KeyID) :
    ∀ (ds : List DelegationEntry) (acc : Int × Nat × Ledger),
      ClaimRun acc (ds.foldl (claimOne c w V k) acc)
  | [], _ => .refl _
  | d :: ds, acc => (claimOne_run V k acc d).trans (claimOne_fold_run V k ds _)

/-- The inner loop over a list of delegations leaves cleared, for each active one with pending
rewards that the call covers, the claim of the key from its validator. -/
lemma claimOne_fold_clears {V k : KeyID}
    {key : PrivKey} (hkey : w.keyOf k = some key) (hsign : ∀ d, (c.sign key d).isSome) :
    ∀ (ds : List DelegationEntry) (acc : Int × Nat × Ledger), ∀ d ∈ ds, d.status = .ACTIVE →
      d.pendingRewards ≠ 0 → (V = 0 ∨ d.validatorId = V) →
      ∃ r : RewardClaimRequest, r.delegatorId = k ∧ r.validatorId = d.validatorId ∧
        Cleared r (ds.foldl (claimOne c w V k) acc).2.2.ddb
  | [], _, _, hd, _, _, _ => absurd hd (List.not_mem_nil _)
  | d' :: ds, acc, d, hd, hst, hp, hV => by
      rcases List.mem_cons.mp hd with rfl | hd
      · obtain ⟨r, hk, hr, hone⟩ := claimOne_claims hkey hsign acc hst hp hV
        refine ⟨r, hk, hr, (claimOne_fold_run V k ds _).1.cleared ?_⟩
        rw [hone, claimStep_ledger]
        exact processRewardClaim_clears _ r
      · exact claimOne_fold_clears hkey hsign ds _ d hd hst hp hV

/-! ### The outer loop -/

lemma claimKey_run (V : KeyID) (acc : Int × Nat × Ledger) (k : KeyID) :
    ClaimRun acc (claimKey c w V acc k) :=
  claimOne_fold_run V k _ acc

lemma claimKey_fold_run (V : KeyID) :
    ∀ (book : List KeyID) (acc : Int × Nat × Ledger),
      ClaimRun acc (book.foldl (claimKey c w V) acc)
  | [], _ => .refl _
  | k :: book, acc => (claimKey_run V acc k).trans (claimKey_fold_run V book _)

/-- Every active delegation of key `k` that a claim of validator `V` covers holds no pending
rewards. -/
def KeySettled (V k : KeyID) (L : Ledger) : Prop :=
  ∀ id ∈ idsAt L.ddb.delegatorIndex k, ∀ e, L.ddb.delegations.find? id = some e →
    e.status = .ACTIVE → (V = 0 ∨ e.validatorId = V) → e.pendingRewards ≤ 0

/-- More claims keep a key settled. -/
lemma KeySettled.of_claimsOnly {V k : KeyID} {L L' : Ledger} (h : ClaimsOnly L L')
    (hs : KeySettled V k L) : KeySettled V k L' := by
  intro id hid e' he' hst hV
  obtain ⟨e, he, hv, hs', hp⟩ := h.find? he'
  rcases hp with hp | hp
  · rw [hp]
    exact hs id (h.delegatorIndex ▸ hid) e he (hs' ▸ hst) (hv ▸ hV)
  · omega

/-- One pass of the outer loop settles its key. -/
lemma claimKey_settles {V k : KeyID}
    {key : PrivKey} (hkey : w.keyOf k = some key) (hsign : ∀ d, (c.sign key d).isSome)
    (acc : Int × Nat × Ledger) : KeySettled V k (claimKey c w V acc k).2.2 := by
  have hrun : ClaimsOnly acc.2.2 (claimKey c w V acc k).2.2 := (claimKey_run V acc k).1
  intro id hid e' he' hst hV
  obtain ⟨e, he, hv, hs, hp⟩ := hrun.find? he'
  rcases hp with hp | hp
  · rw [hp]
    by_cases h0 : e.pendingRewards = 0
    · exact h0.le
    have hmem : e ∈ acc.2.2.ddb.getDelegationsForDelegator k :=
      List.mem_filterMap.mpr ⟨id, hrun.delegatorIndex ▸ hid, he⟩
    obtain ⟨r, hk, hr, hc⟩ := claimOne_fold_clears hkey hsign _ acc e hmem (hs ▸ hst) h0
      (hv ▸ hV)
    rw [← hp]
    exact hc id (hk ▸ hid) e' he' (.inr (hr ▸ hv))
  · omega

/-! ### Whole calls -/

/-- With its database set and the wallet unlocked, `claimrewards` runs its two loops. -/
lemma claimrewards_ready {g : DbGlobals} {L : Ledger} (hdb : g.delegationDb = true)
    (hun : w.locked = false) (validatorId : Option KeyID) :
    claimrewards c g L (some w) validatorId =
      (.ok (some ⟨(w.addressBook.foldl (claimKey c w (validatorId.getD 0)) (0, 0, L)).1,
          (w.addressBook.foldl (claimKey c w (validatorId.getD 0)) (0, 0, L)).2.1⟩),
        (w.addressBook.foldl (claimKey c w (validatorId.getD 0)) (0, 0, L)).2.2) := by
  have hr : dbAndWalletReady g.delegationDb "Delegation database not initialized" w = .ok () :=
    dbAndWalletReady_eq_ok.mpr ⟨hdb, hun⟩
  simp only [claimrewards, withWallet, hr]
  rfl

/-- With its database not set or the wallet locked, `claimrewards` throws and touches
nothing. -/
lemma claimrewards_of_error {g : DbGlobals} {L : Ledger} {validatorId : Option KeyID} {e : RPCError}
    (hr : dbAndWalletReady g.delegationDb "Delegation database not initialized" w = .error e) :
    claimrewards c g L (some w) validatorId = (.error e, L) := by
  simp only [claimrewards, withWallet, hr]
  rfl

/-- A `claimrewards` that throws threw at its first checks and touched nothing. -/
lemma claimrewards_error {g : DbGlobals} {L : Ledger} {pw : Option Wallet} {validatorId : Option KeyID}
    {e : RPCError} (h : (claimrewards c g L pw validatorId).1 = .error e) :
    ∃ w, pw = some w ∧ dbAndWalletReady g.delegationDb "Delegation database not initialized" w = .error e ∧
      (claimrewards c g L pw validatorId).2 = L := by
  obtain _ | w := pw
  · cases h
  rcases hr : dbAndWalletReady g.delegationDb "Delegation database not initialized" w with e' | u
  · rw [claimrewards_of_error hr] at h ⊢
    cases h
    exact ⟨w, rfl, hr, rfl⟩
  · obtain ⟨hdb, hun⟩ := dbAndWalletReady_eq_ok.mp hr
    rw [claimrewards_ready hdb hun] at h
    cases h

/-- A property of the databases that every reward claim keeps holds after `claimrewards`. -/
lemma claimrewards_preserves {P : Ledger → Prop}
    (hP : ∀ L r, P L → P { L with ddb := (L.ddb.processRewardClaim r).2 }) {L : Ledger} (hL : P L)
    (g : DbGlobals) (pw : Option Wallet) (validatorId : Option KeyID) :
    P (claimrewards c g L pw validatorId).2 := by
  obtain _ | w := pw
  · exact hL
  have one : ∀ V k acc d, P acc.2.2 → P (claimOne c w V k acc d).2.2 := fun V k acc d h => by
    rcases claimOne_cases V k acc d with e | ⟨r, -, -, e⟩ <;> rw [e]
    · exact h
    · rw [claimStep_ledger]; exact hP _ r h
  have inner : ∀ V k (ds : List DelegationEntry) acc, P acc.2.2 →
      P (ds.foldl (claimOne c w V k) acc).2.2 := fun V k ds => by
    induction ds with
    | nil => exact fun _ h => h
    | cons d ds ih => exact fun acc h => ih _ (one V k acc d h)
  have outer : ∀ V (book : List KeyID) acc, P acc.2.2 →
      P (book.foldl (claimKey c w V) acc).2.2 := fun V book => by
    induction book with
    | nil => exact fun _ h => h
    | cons k book ih => exact fun acc h => ih _ (inner V k _ acc h)
  simp only [claimrewards, withWallet]
  split
  · exact hL
  · exact outer _ _ (0, 0, L) hL

/-- **`claimrewards` accounts for what it claims**: it throws exactly when it has a wallet and
the delegation database is not set, or the wallet is locked, and then touches nothing; when it
returns an object, the amount reported is exactly what left the pending rewards of the ledger,
and the registry and the indices are as they were. -/
theorem claimrewards_accounts (g : DbGlobals) (L : Ledger) (pw : Option Wallet)
    (validatorId : Option KeyID) :
    (∀ e, (claimrewards c g L pw validatorId).1 = .error e ↔ ∃ w, pw = some w ∧
      (g.delegationDb = false ∧ e = ⟨.RPC_INTERNAL_ERROR, "Delegation database not initialized"⟩ ∨
        g.delegationDb = true ∧ w.locked = true ∧ e = ⟨.RPC_WALLET_UNLOCK_NEEDED, walletLocked⟩)) ∧
    (∀ e, (claimrewards c g L pw validatorId).1 = .error e → (claimrewards c g L pw validatorId).2 = L) ∧
    ∀ res, (claimrewards c g L pw validatorId).1 = .ok (some res) →
      res.claimed + pendingTotal (claimrewards c g L pw validatorId).2.ddb.delegations =
        pendingTotal L.ddb.delegations ∧
      (claimrewards c g L pw validatorId).2.vdb = L.vdb ∧
      (claimrewards c g L pw validatorId).2.ddb.delegatorIndex = L.ddb.delegatorIndex ∧
      (claimrewards c g L pw validatorId).2.ddb.validatorIndex = L.ddb.validatorIndex := by
  refine ⟨fun e => ⟨fun h => ?_, ?_⟩, fun e h => ?_, fun res h => ?_⟩
  · obtain ⟨w, rfl, hr, -⟩ := claimrewards_error h
    exact ⟨w, rfl, dbAndWalletReady_eq_error.mp hr⟩
  · rintro ⟨w, rfl, hr⟩
    rw [claimrewards_of_error (dbAndWalletReady_eq_error.mpr hr)]
  · obtain ⟨-, -, -, hL⟩ := claimrewards_error h
    exact hL
  obtain _ | w := pw
  · cases h
  rcases hr : dbAndWalletReady g.delegationDb "Delegation database not initialized" w with e' | u
  · rw [claimrewards_of_error hr] at h
    cases h
  obtain ⟨hdb, hun⟩ := dbAndWalletReady_eq_ok.mp hr
  obtain ⟨⟨hv, ds, hd, -⟩, hacc⟩ : ClaimRun (0, 0, L)
      (w.addressBook.foldl (claimKey c w (validatorId.getD 0)) (0, 0, L)) :=
    claimKey_fold_run _ _ _
  rw [claimrewards_ready hdb hun] at h ⊢
  cases h
  exact ⟨by simpa using hacc, hv, by simp only [hd], by simp only [hd]⟩

/-- **`claimrewards` claims everything it covers**: when the delegation database is set and
the wallet is unlocked and can sign for each of its keys, every active delegation of every key
of the wallet that the call covers (all of them, or those to the validator asked for) ends with
no pending rewards. -/
theorem claimrewards_clears (g : DbGlobals) (L : Ledger) (hdb : g.delegationDb = true)
    (hun : w.locked = false)
    (hsign : ∀ k ∈ w.addressBook, ∃ key, w.keyOf k = some key ∧ ∀ d, (c.sign key d).isSome)
    (validatorId : Option KeyID) :
    ∀ k ∈ w.addressBook,
      ∀ d ∈ (claimrewards c g L (some w) validatorId).2.ddb.getDelegationsForDelegator k,
        d.status = .ACTIVE → (validatorId.getD 0 = 0 ∨ d.validatorId = validatorId.getD 0) →
        d.pendingRewards ≤ 0 := by
  suffices h : ∀ (book : List KeyID) (acc : Int × Nat × Ledger), (∀ k ∈ book, k ∈ w.addressBook) →
      ∀ k ∈ book, KeySettled (validatorId.getD 0) k
        (book.foldl (claimKey c w (validatorId.getD 0)) acc).2.2 by
    rw [claimrewards_ready hdb hun]
    intro k hk d hd hst hV
    obtain ⟨id, hid, he⟩ := List.mem_filterMap.mp hd
    exact h w.addressBook (0, 0, L) (fun _ h => h) k hk id hid d he hst hV
  intro book
  induction book with
  | nil => intro _ _ k hk; exact absurd hk (List.not_mem_nil k)
  | cons k₀ book ih =>
      intro acc hbook k hk
      rcases List.mem_cons.mp hk with rfl | hk
      · obtain ⟨key, hkey, hs⟩ := hsign k (hbook k (List.mem_cons_self k book))
        exact (claimKey_settles hkey hs acc).of_claimsOnly (claimKey_fold_run _ book _).1
      · exact ih _ (fun k' hk' => hbook k' (List.mem_cons_of_mem k₀ hk')) k hk

/-- Key `2` claims the `100` credited to its mature delegation. -/
theorem claimrewards_clears_sample :
    DbGlobals.loaded.delegationDb = true ∧ (Wallet.sample 2).locked = false ∧
      (∀ k ∈ (Wallet.sample 2).addressBook, ∃ key, (Wallet.sample 2).keyOf k = some key ∧
        ∀ d, (Crypto.toy.sign key d).isSome) ∧
      ∀ k ∈ (Wallet.sample 2).addressBook, ∀ d ∈ (claimrewards Crypto.toy DbGlobals.loaded
          (ledgerAfter creditedRun) (some (Wallet.sample 2)) none).2.ddb.getDelegationsForDelegator k,
        d.status = .ACTIVE → ((none : Option KeyID).getD 0 = 0 ∨
          d.validatorId = (none : Option KeyID).getD 0) → d.pendingRewards ≤ 0 :=
  have hsign : ∀ k ∈ (Wallet.sample 2).addressBook, ∃ key, (Wallet.sample 2).keyOf k = some key ∧
      ∀ d, (Crypto.toy.sign key d).isSome := fun k _ => ⟨k, rfl, fun _ => rfl⟩
  ⟨rfl, rfl, hsign, claimrewards_clears DbGlobals.loaded (ledgerAfter creditedRun) rfl rfl hsign none⟩

end WattxCore
