import WattxCore.Validators.Indices
import WattxCore.Validators.Lifecycle

/-!
The delegation aggregates of the registry, `totalDelegated` and `delegatorCount`, which
`ValidatorDB::AddDelegation` and `RemoveDelegation` update on the ledger's calls, against
the records of the delegation ledger.

* `recordsTo`: the records of a validator whose status passes a test; `IsBonded`: `PENDING`
  or `ACTIVE`, the records `ProcessDelegation` has counted and `ProcessUndelegation` has not
  released;
* `Books`: the aggregates are the sums over the bonded records, every record's validator is
  registered, amounts are non-negative;
* `Books.bond`, `Books.retire`: the ledger's two writes into the registry keep the books, a
  retirement provided it releases the record's whole amount; `undelegateLoop_books`: the
  undelegation loop releases whole records when asked for everything (`0`) or for a budget
  that `CoversWhole` the records it reaches;
* `books_of_reachable`: **the books hold in every state of an admitted run**;
* `totalDelegated_counts_pending`, `delegatorCount_counts_delegations`: where the registry
  departs from `GetTotalDelegationForValidator` and `GetDelegatorCountForValidator`, which
  count `ACTIVE` records and distinct delegators: a `PENDING` record is already counted, a
  partial undelegation retires a record and releases less than it, and a delegator with two
  delegations is counted twice.
-/

namespace WattxCore

/-- `PENDING` or `ACTIVE`: counted by the aggregates from `ProcessDelegation` on, until
`ProcessUndelegation` releases the record. -/
def DelegationStatus.IsBonded (s : DelegationStatus) : Prop := s = .PENDING ∨ s = .ACTIVE

instance : DecidablePred DelegationStatus.IsBonded := fun s =>
  inferInstanceAs (Decidable (s = .PENDING ∨ s = .ACTIVE))

/-- `ProcessBlock` matures `PENDING` records and completes unbonding ones: it never moves a
record into or out of the bonded ones. -/
lemma blockStep_isBonded (h : Int32) (e : DelegationEntry) :
    (DelegationDB.blockStep h e).status.IsBonded ↔ e.status.IsBonded := by
  unfold DelegationDB.blockStep
  dsimp only
  cases hs : e.status <;> split_ifs <;> simp_all [DelegationStatus.IsBonded]

namespace DelegationDB

/-- The records of validator `V` whose status satisfies `P`, in id order. -/
def recordsTo (P : DelegationStatus → Prop) [DecidablePred P] (V : KeyID)
    (ds : StdMap Digest DelegationEntry) : List DelegationEntry :=
  (ds.entries.map Prod.snd).filter fun e => e.validatorId = V ∧ P e.status

/-- The sum of `w` over the bonded records of validator `V`. -/
def bondedSum (w : DelegationEntry → Int) (V : KeyID) (ds : StdMap Digest DelegationEntry) : Int :=
  ds.sumBy fun _ e => if e.validatorId = V ∧ e.status.IsBonded then w e else 0

/-- A sum over the records of `V` whose status satisfies `P`. -/
lemma sumBy_recordsTo (P : DelegationStatus → Prop) [DecidablePred P] (w : DelegationEntry → Int)
    (V : KeyID) (ds : StdMap Digest DelegationEntry) :
    ds.sumBy (fun _ e => if e.validatorId = V ∧ P e.status then w e else 0) =
      ((recordsTo P V ds).map w).sum := by
  simp only [StdMap.sumBy, recordsTo]
  induction ds.entries with
  | nil => rfl
  | cons p rest ih =>
      by_cases h : p.2.validatorId = V ∧ P p.2.status <;> simp [List.filter_cons, h, ih]

lemma bondedSum_eq (w : DelegationEntry → Int) (V : KeyID) (ds : StdMap Digest DelegationEntry) :
    bondedSum w V ds = ((recordsTo DelegationStatus.IsBonded V ds).map w).sum :=
  sumBy_recordsTo _ w V ds

lemma bondedSum_le_size (V : KeyID) (ds : StdMap Digest DelegationEntry) :
    bondedSum (fun _ => 1) V ds ≤ ds.size := by
  rw [StdMap.size_eq_sumBy, bondedSum, StdMap.sumBy, StdMap.sumBy]
  exact List.sum_le_sum fun _ _ => by split_ifs <;> omega

/-! ### Undelegation budgets -/

/-- The amounts of the `ACTIVE` records of validator `V` among `ids`, in list order: the
records the undelegation loop reaches. -/
def activeAmounts (ds : StdMap Digest DelegationEntry) (V : KeyID) (ids : List Digest) :
    List Int :=
  ids.filterMap fun id => (ds.find? id).bind fun e =>
    if e.validatorId = V ∧ e.status = .ACTIVE then some e.amount else none

/-- A budget the undelegation loop spends on whole records: every record it reaches fits in
what is left, and the loop stops at zero or at the end of the list. -/
def CoversWhole : Int → List Int → Prop
  | _, [] => True
  | rem, a :: as => a ≤ rem ∧ (rem - a = 0 ∨ CoversWhole (rem - a) as)

instance CoversWhole.decidable : ∀ rem as, Decidable (CoversWhole rem as)
  | _, [] => isTrue trivial
  | rem, a :: as =>
      have := CoversWhole.decidable (rem - a) as
      inferInstanceAs (Decidable (a ≤ rem ∧ (rem - a = 0 ∨ CoversWhole (rem - a) as)))

lemma activeAmounts_insert_of_not_mem {ds : StdMap Digest DelegationEntry} {id : Digest}
    {ids : List Digest} (h : id ∉ ids) (V : KeyID) (e : DelegationEntry) :
    activeAmounts (ds.insert id e) V ids = activeAmounts ds V ids :=
  List.filterMap_congr fun id' hid' => by
    rw [StdMap.find?_insert_ne _ _ (ne_of_mem_of_not_mem hid' h).symm]

/-! ### The books -/

/-- The registry's aggregates agree with the ledger's bonded records. -/
structure Books (vdb : ValidatorDB) (ds : StdMap Digest DelegationEntry) : Prop where
  registered : ∀ id e, ds.find? id = some e → (vdb.validators.find? e.validatorId).isSome
  amount_nonneg : ∀ id e, ds.find? id = some e → 0 ≤ e.amount
  total : vdb.AllEntries fun V v => v.totalDelegated = bondedSum (·.amount) V ds
  count : ds.size < 2 ^ 31 →
    vdb.AllEntries fun V v => v.delegatorCount.val = bondedSum (fun _ => 1) V ds

/-- A record rewrite that keeps the validator, the amount and whether the record is bonded. -/
def SameBond (e e' : DelegationEntry) : Prop :=
  e'.validatorId = e.validatorId ∧ (e'.status.IsBonded ↔ e.status.IsBonded) ∧ e'.amount = e.amount

namespace Books

variable {vdb : ValidatorDB} {ds : StdMap Digest DelegationEntry}

lemma empty : Books ValidatorDB.empty StdMap.empty :=
  ⟨by simp, by simp, fun _ _ h => by simp [ValidatorDB.empty] at h,
    fun _ _ _ h => by simp [ValidatorDB.empty] at h⟩

/-- A validator the registry does not know has no bonded records. -/
lemma bondedSum_eq_zero (hB : Books vdb ds) {V : KeyID} (hV : vdb.validators.find? V = none)
    (w : DelegationEntry → Int) : bondedSum w V ds = 0 := by
  rw [bondedSum, StdMap.sumBy_congr ds (g := fun _ _ => 0), StdMap.sumBy_zero]
  intro id e he
  have := hB.registered id e he
  split_ifs with h
  · rw [h.1, hV] at this; simp at this
  · rfl

/-- The registry may change as long as it keeps every validator and its aggregates. -/
lemma of_vdb {vdb' : ValidatorDB} (hB : Books vdb ds) (hk : vdb.Keeps vdb')
    (hs : vdb'.AllEntries fun V v' => ∃ v, vdb.validators.find? V = some v ∧
      v'.totalDelegated = v.totalDelegated ∧ v'.delegatorCount = v.delegatorCount) :
    Books vdb' ds :=
  ⟨fun id e he => hk _ (hB.registered id e he), hB.amount_nonneg,
    fun V v' hv' => by
      obtain ⟨v, hv, ht, -⟩ := hs V v' hv'
      rw [ht]; exact hB.total V v hv,
    fun hsize V v' hv' => by
      obtain ⟨v, hv, -, hc⟩ := hs V v' hv'
      rw [hc]; exact hB.count hsize V v hv⟩

/-- The records may change as long as each keeps its validator, amount and bondedness. -/
lemma of_updates {R : Digest → DelegationEntry → DelegationEntry → Prop}
    {ds' : StdMap Digest DelegationEntry} (hB : Books vdb ds) (hu : StdMap.Updates R ds ds')
    (hR : ∀ k e e', R k e e' → SameBond e e') : Books vdb ds' := by
  have hsum : ∀ w : DelegationEntry → Int, (∀ e e', SameBond e e' → w e' = w e) →
      ∀ V, bondedSum w V ds' = bondedSum w V ds := fun w hw V =>
    hu.sumBy_eq fun k e e' hr => by
      obtain ⟨hv, hb, -⟩ := hR k e e' hr
      simp only [hv, hb, hw e e' (hR k e e' hr)]
  have hview := hu.map_find? (g := fun e => (e.validatorId, e.amount))
    fun k e e' hr => by simp [(hR k e e' hr).1, (hR k e e' hr).2.2]
  have hfound : ∀ id e', ds'.find? id = some e' → ∃ e, ds.find? id = some e ∧
      e'.validatorId = e.validatorId ∧ e'.amount = e.amount := fun id e' he' => by
    have := hview id
    rw [he'] at this
    obtain ⟨e, he, heq⟩ := Option.map_eq_some'.mp this.symm
    exact ⟨e, he, (Prod.ext_iff.mp heq).1.symm, (Prod.ext_iff.mp heq).2.symm⟩
  refine ⟨fun id e' he' => ?_, fun id e' he' => ?_, fun V v hv => ?_, fun hsize V v hv => ?_⟩
  · obtain ⟨e, he, hv, -⟩ := hfound id e' he'
    rw [hv]; exact hB.registered id e he
  · obtain ⟨e, he, -, ha⟩ := hfound id e' he'
    rw [ha]; exact hB.amount_nonneg id e he
  · show _ = _
    rw [hsum (·.amount) fun _ _ h => h.2.2]; exact hB.total V v hv
  · show _ = _
    rw [hsum (fun _ => 1) fun _ _ _ => rfl]; exact hB.count (hu.size_eq ▸ hsize) V v hv

lemma mapVals {f : Digest → DelegationEntry → DelegationEntry} (hB : Books vdb ds)
    (hf : ∀ id e, SameBond e (f id e)) : Books vdb (ds.mapVals f) := by
  have hsum : ∀ w : DelegationEntry → Int, (∀ e e', SameBond e e' → w e' = w e) →
      ∀ V, bondedSum w V (ds.mapVals f) = bondedSum w V ds := fun w hw V => by
    rw [bondedSum, StdMap.sumBy_mapVals]
    refine StdMap.sumBy_congr ds fun id e _ => ?_
    obtain ⟨hv, hb, -⟩ := hf id e
    simp only [hv, hb, hw e _ (hf id e)]
  refine ⟨fun id e' he' => ?_, fun id e' he' => ?_, fun V v hv => ?_, fun hsize V v hv => ?_⟩
  · obtain ⟨e, he, rfl⟩ := Option.map_eq_some'.mp (by simpa using he')
    rw [(hf id e).1]; exact hB.registered id e he
  · obtain ⟨e, he, rfl⟩ := Option.map_eq_some'.mp (by simpa using he')
    rw [(hf id e).2.2]; exact hB.amount_nonneg id e he
  · show _ = _
    rw [hsum (·.amount) fun _ _ h => h.2.2]; exact hB.total V v hv
  · show _ = _
    rw [hsum (fun _ => 1) fun _ _ _ => rfl]; exact hB.count (by simpa using hsize) V v hv

/-- **`ProcessDelegation`'s write**: a bonded record under a fresh id, and `AddDelegation` of
its amount on its (registered) validator. -/
lemma bond (hB : Books vdb ds) {id : Digest} (hid : ds.find? id = none) {e : DelegationEntry}
    {v : ValidatorEntry} (hv : vdb.validators.find? e.validatorId = some v)
    (hb : e.status.IsBonded) (ha : 0 ≤ e.amount) :
    Books (vdb.addDelegation e.validatorId e.amount).2 (ds.insert id e) := by
  have hins : ∀ w V, bondedSum w V (ds.insert id e) =
      bondedSum w V ds + if e.validatorId = V ∧ e.status.IsBonded then w e else 0 :=
    fun w V => StdMap.sumBy_insert_of_find?_none _ hid e
  rw [ValidatorDB.addDelegation_of_find? hv]
  refine ⟨fun id' e' he' => ?_, fun id' e' he' => ?_, fun V v' hv' => ?_, fun hsize V v' hv' => ?_⟩
  · rw [StdMap.find?_insert_eq] at he'
    simp only [ValidatorDB.setEntry_find?]
    split_ifs at he' with h
    · cases he'; simp
    · split_ifs <;> simp [hB.registered id' e' he']
  · rw [StdMap.find?_insert_eq] at he'
    split_ifs at he' with h
    · cases he'; exact ha
    · exact hB.amount_nonneg id' e' he'
  · rw [ValidatorDB.setEntry_find?] at hv'
    split_ifs at hv' with hV
    · cases hv'; subst hV
      simp only [hins, hb, and_self, if_true, hB.total _ v hv]
    · show _ = _
      rw [hins, if_neg (fun h => hV h.1), add_zero]; exact hB.total V v' hv'
  · have hsize₀ : ds.size + 1 < 2 ^ 31 := StdMap.size_insert_of_find?_none hid e ▸ hsize
    have hcount := hB.count (by omega)
    rw [ValidatorDB.setEntry_find?] at hv'
    split_ifs at hv' with hV
    · cases hv'; subst hV
      have hle := bondedSum_le_size e.validatorId ds
      have hc := hcount _ v hv
      have hm := v.delegatorCount.val_mem
      simp only [hins, hb, and_self, if_true, Int32.val_add, Int32.val_one]
      rw [Int32.wrap_of_mem (by omega) (by omega), hc]
    · show _ = _
      rw [hins, if_neg (fun h => hV h.1), add_zero]; exact hcount V v' hv'

/-- **`ProcessUndelegation`'s write**: a bonded record starts unbonding, and
`RemoveDelegation` releases its whole amount. -/
lemma retire (hB : Books vdb ds) {id : Digest} {e : DelegationEntry} (he : ds.find? id = some e)
    (hb : e.status.IsBonded) (h : Int32) :
    Books (vdb.removeDelegation e.validatorId e.amount).2
      (ds.insert id { e with status := .UNBONDING, unbondingStartHeight := h }) := by
  have hins : ∀ w V,
      bondedSum w V (ds.insert id { e with status := .UNBONDING, unbondingStartHeight := h }) =
        bondedSum w V ds - (if e.validatorId = V ∧ e.status.IsBonded then w e else 0) := fun w V => by
    have : ¬DelegationStatus.UNBONDING.IsBonded := by simp [DelegationStatus.IsBonded]
    rw [bondedSum, StdMap.sumBy_insert_of_find? _ he]
    simp only [this, and_false, if_false, add_zero]
    rfl
  have hnn : ∀ (w : DelegationEntry → Int), (∀ id e, ds.find? id = some e → 0 ≤ w e) →
      w e ≤ bondedSum w e.validatorId ds := fun w hw =>
    (if_pos ⟨rfl, hb⟩ : (if e.validatorId = e.validatorId ∧ e.status.IsBonded then w e else 0) = _) ▸
      StdMap.le_sumBy ds he fun id' e' he' => by split_ifs <;> simp [hw id' e' he']
  obtain ⟨v, hv⟩ := Option.isSome_iff_exists.mp (hB.registered id e he)
  have hamt : e.amount ≤ v.totalDelegated :=
    (hB.total _ v hv).symm ▸ hnn (·.amount) hB.amount_nonneg
  rw [ValidatorDB.removeDelegation_of_le hv hamt]
  refine ⟨fun id' e' he' => ?_, fun id' e' he' => ?_, fun V v' hv' => ?_, fun hsize V v' hv' => ?_⟩
  · rw [StdMap.find?_insert_eq] at he'
    simp only [ValidatorDB.setEntry_find?]
    split_ifs at he' with hi
    · cases he'; simp
    · split_ifs <;> simp [hB.registered id' e' he']
  · rw [StdMap.find?_insert_eq] at he'
    split_ifs at he' with hi
    · cases he'; exact hB.amount_nonneg id e he
    · exact hB.amount_nonneg id' e' he'
  · rw [ValidatorDB.setEntry_find?] at hv'
    by_cases hV : e.validatorId = V
    · rw [if_pos hV] at hv'
      cases hv'; subst hV
      simp only [hins, hb, and_self, if_true, hB.total _ v hv]
    · rw [if_neg hV] at hv'
      show _ = _
      rw [hins, if_neg (fun h => hV h.1), sub_zero]; exact hB.total V v' hv'
  · have hcount := hB.count (StdMap.size_insert_of_find? he _ ▸ hsize)
    rw [ValidatorDB.setEntry_find?] at hv'
    by_cases hV : e.validatorId = V
    · rw [if_pos hV] at hv'
      cases hv'; subst hV
      have hc := hcount _ v hv
      have hone : 1 ≤ bondedSum (fun _ => 1) e.validatorId ds := hnn (fun _ => 1) fun _ _ _ => by simp
      have hpos : v.delegatorCount > 0 := by
        rw [gt_iff_lt, Int32.lt_iff, Int32.val_zero]; omega
      have hm := v.delegatorCount.val_mem
      simp only [hins, hb, and_self, if_true, if_pos hpos, Int32.val_sub, Int32.val_one]
      rw [Int32.wrap_of_mem (by omega) (by omega), hc]
    · rw [if_neg hV] at hv'
      show _ = _
      rw [hins, if_neg (fun h => hV h.1), sub_zero]; exact hcount V v' hv'

end Books

/-- The share the undelegation loop releases from a record it reaches, when asked for
everything or for a budget that covers the record. -/
lemma undelegationShare_fst {requested rem a : Int}
    (h : requested = 0 ∨ requested ≠ 0 ∧ a ≤ rem) : (undelegationShare requested rem a).1 = a := by
  unfold undelegationShare
  split_ifs <;> simp_all

/-- **The undelegation loop keeps the books** when every record it reaches is released whole:
everything is asked for (`amount = 0`, and the loop stops after the first record), or the
budget `CoversWhole` the active records it reaches. -/
lemma undelegateLoop_books (r : UndelegationRequest) (h : Int32) :
    ∀ (ids : List Digest) (rem : Int) (any : Bool) ds vdb, ids.Nodup → Books vdb ds →
      (r.amount = 0 ∧ rem = 0 ∨ r.amount ≠ 0 ∧ CoversWhole rem (activeAmounts ds r.validatorId ids)) →
      Books (undelegateLoop r h ids rem any ds vdb).2.2 (undelegateLoop r h ids rem any ds vdb).2.1
  | [], _, _, _, _, _, hB, _ => hB
  | id :: ids, rem, any, ds, vdb, hnd, hB, hw => by
      have hnd' := List.nodup_cons.mp hnd
      unfold undelegateLoop
      dsimp only
      split
      · rename_i hnone
        refine undelegateLoop_books r h ids rem any ds vdb hnd'.2 hB ?_
        simpa [activeAmounts, hnone] using hw
      · rename_i e he
        split_ifs with hskip hstop
        · refine undelegateLoop_books r h ids rem any ds vdb hnd'.2 hB ?_
          have : ¬(e.validatorId = r.validatorId ∧ e.status = .ACTIVE) := by tauto
          simpa [activeAmounts, he, this] using hw
        all_goals
          obtain ⟨hV, hact⟩ := not_skip hskip
          have hcons : activeAmounts ds r.validatorId (id :: ids) =
              e.amount :: activeAmounts ds r.validatorId ids := by
            simp [activeAmounts, he, hV, hact]
          rw [hcons] at hw
          have hshare : (undelegationShare r.amount rem e.amount).1 = e.amount :=
            undelegationShare_fst (by rcases hw with hw | hw; exact .inl hw.1; exact .inr ⟨hw.1, hw.2.1⟩)
          have hB' : Books (vdb.removeDelegation r.validatorId
              (undelegationShare r.amount rem e.amount).1).2
              (ds.insert id { e with status := .UNBONDING, unbondingStartHeight := h }) := by
            rw [hshare, ← hV]; exact hB.retire he (.inr hact) h
        · exact hB'
        · refine undelegateLoop_books r h ids _ true _ _ hnd'.2 hB' ?_
          rw [activeAmounts_insert_of_not_mem hnd'.1]
          unfold undelegationShare at hstop ⊢
          rcases hw with ⟨h0, hr⟩ | ⟨h0, hle, hw⟩
          · simp [h0, hr] at hstop
          · right
            simp only [h0, if_false, if_pos hle] at hstop ⊢
            exact ⟨h0, hw.resolve_left hstop⟩

end DelegationDB

open DelegationDB ValidatorDB

/-! ### Every admitted run -/

/-- The runs the aggregate laws are stated for: registrations with zero aggregates, as the
`registervalidator` RPC builds them; no raw `AddDelegation`, `RemoveDelegation` or
`SetDelegationStatus`; and undelegations that release whole records, asking for everything
(`amount = 0`) or for a budget that `CoversWhole` the delegator's active records to the
validator. -/
def AggregateAdmissible (L : Ledger) : LedgerOp → Prop
  | .registerValidator e => e.totalDelegated = 0 ∧ e.delegatorCount = 0
  | .addDelegation _ _ | .removeDelegation _ _ | .setDelegationStatus _ _ => False
  | .processUndelegation r => r.amount = 0 ∨ CoversWhole r.amount
      (activeAmounts L.ddb.delegations r.validatorId (idsAt L.ddb.delegatorIndex r.delegatorId))
  | _ => True

instance (L : Ledger) : (op : LedgerOp) → Decidable (AggregateAdmissible L op)
  | .registerValidator e =>
      inferInstanceAs (Decidable (e.totalDelegated = 0 ∧ e.delegatorCount = 0))
  | .addDelegation _ _ | .removeDelegation _ _ | .setDelegationStatus _ _ => isFalse id
  | .processUndelegation r => inferInstanceAs (Decidable (r.amount = 0 ∨ CoversWhole r.amount
      (activeAmounts L.ddb.delegations r.validatorId (idsAt L.ddb.delegatorIndex r.delegatorId))))
  | .processUpdate _ | .updateStakeOutpoint _ _ | .setValidatorStatus _ _ | .jailValidator _ _
  | .unjailValidator _ | .validatorBlock _ | .processDelegation _ _ | .processRewardClaim _
  | .addRewards _ _ | .distributeBlockReward _ _ | .updateDelegationOutpoint _ _
  | .delegationBlock _ => isTrue trivial

/-- Signed updates leave the delegation aggregates alone. -/
lemma applyUpdate_aggregates {p : Params} {db : ValidatorDB} {e e' : ValidatorEntry}
    {u : ValidatorUpdate} (h : applyUpdate p db e u = some e') :
    e'.totalDelegated = e.totalDelegated ∧ e'.delegatorCount = e.delegatorCount := by
  unfold applyUpdate at h
  split at h <;> (try split_ifs at h) <;> cases h <;> exact ⟨rfl, rfl⟩

variable {p : Params} {c : Crypto}

/-- One admitted operation keeps the books. -/
lemma DelegationDB.Books.step {L : Ledger} {op : LedgerOp} (hB : Books L.vdb L.ddb.delegations)
    (hI : L.ddb.IndexWF) (hop : AggregateAdmissible L op) :
    ∀ x ∈ Ledger.step p c L op, Books x.2.vdb x.2.ddb.delegations := by
  intro x hx
  have same : L.vdb.AllEntries fun V v' => ∃ v, L.vdb.validators.find? V = some v ∧
      v'.totalDelegated = v.totalDelegated ∧ v'.delegatorCount = v.delegatorCount :=
    fun V v h => ⟨v, h, rfl, rfl⟩
  have keeps := Ledger.step_keeps (p := p) (c := c) L op x hx
  have plain : ∀ k e e', Claims L.ddb.currentHeight k e e' ∨
      (∃ a, e' = { e with pendingRewards := e.pendingRewards + a }) ∨
      (∃ o, e' = { e with delegationOutpoint := o }) → SameBond e e' := by
    rintro k e e' (rfl | ⟨a, rfl⟩ | ⟨o, rfl⟩) <;> exact ⟨rfl, Iff.rfl, rfl⟩
  cases op with
  | registerValidator e =>
      cases hx
      refine ⟨fun id d hd => keeps _ (hB.registered id d hd), hB.amount_nonneg,
        AllEntries_registerValidator hB.total fun hnone _ => ?_,
        fun hsize => AllEntries_registerValidator (hB.count hsize) fun hnone _ => ?_⟩
      · rw [hop.1]; exact (hB.bondedSum_eq_zero hnone _).symm
      · rw [hop.2, Int32.val_zero]; exact (hB.bondedSum_eq_zero hnone _).symm
  | processUpdate u =>
      cases hx
      exact hB.of_vdb keeps (AllEntries_processUpdate same fun e _ he h' =>
        ⟨e, he, applyUpdate_aggregates h'⟩)
  | updateStakeOutpoint id o =>
      cases hx
      exact hB.of_vdb keeps (AllEntries_updateStakeOutpoint same fun e he => ⟨e, he, rfl, rfl⟩)
  | setValidatorStatus id s =>
      cases hx
      exact hB.of_vdb keeps (AllEntries_of_rewrite same (setValidatorStatus_rewrite _ id s)
        fun e he => ⟨e, he, rfl, rfl⟩)
  | jailValidator id b =>
      cases hx
      exact hB.of_vdb keeps (AllEntries_of_rewrite same (jailValidator_rewrite _ id b)
        fun e he => ⟨e, he, rfl, rfl⟩)
  | unjailValidator id =>
      cases hx
      exact hB.of_vdb keeps (AllEntries_of_rewrite same (unjailValidator_rewrite _ id)
        fun e he => ⟨e, he, rfl, rfl⟩)
  | validatorBlock h =>
      cases hx
      exact hB.of_vdb keeps (AllEntries_processBlock same fun V e he => by
        rw [unbondStep_eq]; exact he)
  | processDelegation r o =>
      cases hx
      show Books (processDelegation c L.vdb L.ddb r o).2.2
        (processDelegation c L.vdb L.ddb r o).2.1.delegations
      rcases processDelegation_cases c L.vdb L.ddb r o with hpd | ⟨-, hmin, ⟨v, hv, -⟩, hid, hpd⟩
      · rw [hpd]; exact hB
      · rw [hpd]
        exact hB.bond (e := newEntry r o) hid hv (.inl rfl)
          (le_trans (by unfold MIN_DELEGATION_AMOUNT; omega) hmin)
  | processUndelegation r =>
      cases hx
      show Books (processUndelegation L.vdb L.ddb r).2.2
        (processUndelegation L.vdb L.ddb r).2.1.delegations
      unfold processUndelegation
      split
      · exact hB
      · rename_i ids hids
        have hnd : ids.Nodup := by simpa [idsAt, hids] using hI.delegators.nodup r.delegatorId
        refine undelegateLoop_books r _ ids _ false _ _ hnd hB ?_
        by_cases h0 : r.amount = 0
        · exact .inl ⟨h0, h0⟩
        · exact .inr ⟨h0, by simpa [AggregateAdmissible, idsAt, hids, h0] using hop⟩
  | processRewardClaim r =>
      cases hx
      obtain ⟨ds, hds, hu⟩ := processRewardClaim_updates L.ddb r
      show Books L.vdb (L.ddb.processRewardClaim r).2.delegations
      rw [hds]
      exact hB.of_updates hu fun k e e' he => plain k e e' (.inl he)
  | addRewards id a =>
      cases hx
      obtain ⟨ds, hds, hu⟩ := addRewards_updates L.ddb id a
      show Books L.vdb (L.ddb.addRewards id a).2.delegations
      rw [hds]
      exact hB.of_updates hu fun k e e' he => plain k e e' (.inr (.inl ⟨a, he⟩))
  | distributeBlockReward V S =>
      obtain ⟨-, rfl⟩ := Ledger.step_distributeBlockReward hx; exact hB
  | updateDelegationOutpoint id o =>
      cases hx
      obtain ⟨ds, oi, hds, hu⟩ := updateDelegationOutpoint_updates L.ddb id o
      show Books L.vdb (L.ddb.updateDelegationOutpoint id o).2.delegations
      rw [hds]
      exact hB.of_updates hu fun k e e' he => plain k e e' (.inr (.inr ⟨o, he⟩))
  | delegationBlock h =>
      cases hx
      exact hB.mapVals (f := fun _ => blockStep h) fun _ e =>
        ⟨congrArg (·.validatorId) (blockStep_eq h e), blockStep_isBonded h e,
          congrArg (·.amount) (blockStep_eq h e)⟩
  | addDelegation | removeDelegation | setDelegationStatus => exact hop.elim

/-- **The books hold in every state of an admitted run.** -/
lemma books_of_reachable {L : Ledger} (hL : Ledger.Reachable p c AggregateAdmissible L) :
    Books L.vdb L.ddb.delegations :=
  (Ledger.Reachable.induction (I := fun L => Books L.vdb L.ddb.delegations ∧ L.ddb.IndexWF)
    ⟨Books.empty, IndexWF.empty⟩
    (fun _ _ h hop x hx => ⟨h.1.step h.2 hop x hx, h.2.step _ x hx⟩) hL).1

/-! ### Where the aggregates depart from the ledger's own counts -/

/-- A request of delegator `d` to delegate `a` to validator `V` at height `h`, signed with
`d`'s key under `Crypto.toy`. -/
def signedDelegation (d V : KeyID) (a : Int) (h : Int32) : DelegationRequest :=
  let r : DelegationRequest := ⟨d, d, V, a, h, []⟩
  { r with signature := [d, r.getHash Crypto.toy] }

/-- Validator `1` is activated by a jail of length 0 and an unjail, and delegator `2`
delegates the minimum to it at height 0. -/
def pendingDelegationRun : List LedgerOp :=
  [.registerValidator (rpcEntry 1 0), .jailValidator 1 0, .unjailValidator 1,
    .processDelegation (signedDelegation 2 1 MIN_DELEGATION_AMOUNT 0) OutPoint.null]

/-- Then the delegation matures at height 500 and delegator `2` undelegates half of it. -/
def partialUndelegationRun : List LedgerOp :=
  pendingDelegationRun ++
    [.delegationBlock 500, .processUndelegation ⟨2, 1, MIN_DELEGATION_AMOUNT / 2, 500, []⟩]

/-- Validator `1`'s `totalDelegated`, the amount of its `ACTIVE` delegations and that of its
`PENDING` and `ACTIVE` ones, after a run. -/
def delegatedToOne (ops : List LedgerOp) : Option (Int × Int × Int) :=
  ((ledgerAfter ops).vdb.getValidator 1).map fun v => (v.totalDelegated,
    ((recordsTo (· = .ACTIVE) 1 (ledgerAfter ops).ddb.delegations).map (·.amount)).sum,
    ((recordsTo DelegationStatus.IsBonded 1 (ledgerAfter ops).ddb.delegations).map (·.amount)).sum)

/-- A `PENDING` delegation is already in `totalDelegated`, and a partial undelegation retires
the whole record but releases only part of it. -/
theorem totalDelegated_counts_pending :
    Ledger.Reachable Params.sample Crypto.toy (fun _ op => op.isRaw = false)
        (ledgerAfter pendingDelegationRun) ∧
      delegatedToOne pendingDelegationRun = some (MIN_DELEGATION_AMOUNT, 0, MIN_DELEGATION_AMOUNT) ∧
      Ledger.Reachable Params.sample Crypto.toy (fun _ op => op.isRaw = false)
        (ledgerAfter partialUndelegationRun) ∧
      delegatedToOne partialUndelegationRun = some (MIN_DELEGATION_AMOUNT / 2, 0, 0) :=
  ⟨reachable_ledgerAfter (by decide) (by decide), by decide,
    reachable_ledgerAfter (by decide) (by decide), by decide⟩

/-- Validator `1` is activated; delegator `2` delegates to it at heights 0 and 1, and both
delegations mature at height 501. -/
def twoDelegationsRun : List LedgerOp :=
  [.registerValidator (rpcEntry 1 0), .jailValidator 1 0, .unjailValidator 1,
    .processDelegation (signedDelegation 2 1 MIN_DELEGATION_AMOUNT 0) OutPoint.null,
    .processDelegation (signedDelegation 2 1 MIN_DELEGATION_AMOUNT 1) OutPoint.null,
    .delegationBlock 501]

/-- One delegator with two active delegations is counted twice. -/
theorem delegatorCount_counts_delegations :
    Ledger.Reachable Params.sample Crypto.toy (fun _ op => op.isRaw = false)
        (ledgerAfter twoDelegationsRun) ∧
      ((registryAfter twoDelegationsRun).getValidator 1).map (·.delegatorCount.val) = some 2 ∧
      ((recordsTo (· = .ACTIVE) 1 (ledgerAfter twoDelegationsRun).ddb.delegations).map
        (·.delegatorId)).dedup.length = 1 ∧
      (ledgerAfter twoDelegationsRun).ddb.getDelegatorCountForValidator 1 = 1 :=
  ⟨reachable_ledgerAfter (by decide) (by decide), by decide, by decide, by decide⟩

end WattxCore
