import WattxCore.Validators.Refusals
import WattxCore.Validators.Aggregates

/-!
`DelegationDB::ProcessUndelegation` for a positive request. With `L` the delegator's `ACTIVE`
records to the requested validator, in the order of its index list, the loop moves the shortest
prefix of `L` whose amounts reach the request (all of `L` if none does) to `UNBONDING`, and
calls `RemoveDelegation` once per record moved. A request of `0`, which the source comments as
"undelegate all", stops after the first record, the budget it keeps being `0`; a record the
budget ends inside is moved whole while only the rest of the budget is released.

* `activeTo`, `undelegable`, `coverPrefix`, `unbondAll`: the records an undelegation can move,
  the prefix of them it moves, and the rewrite of the moved records;
* `coverPrefix_shortest`: `coverPrefix L t` is the shortest prefix of `L` whose amounts reach
  `t`, or all of `L`;
* `undelegateLoop_cover`: the loop over a duplicate-free id list, one record at a time;
* `removeAll_eq`: `RemoveDelegation` calls that the aggregate covers lower it by their sum, and
  move the delegator count;
* `processUndelegation_spec`: **the undelegation answers `false`, and changes nothing, exactly
  when `L` is empty; it moves exactly `coverPrefix L amount`; and when no record is split and
  the registry covers the amounts, the validator's `totalDelegated` drops by their sum, its
  `delegatorCount` drops by one per record moved while it is positive, and nothing else in the
  registry changes**;
* `undelegation_moves_count`: the delegator count does move.
-/

namespace WattxCore

namespace DelegationDB

/-- The `ACTIVE` records of validator `V` among `ids`, in order: what an undelegation from `V`
through these ids can move. -/
def activeTo (ds : StdMap Digest DelegationEntry) (V : KeyID) (ids : List Digest) :
    List (Digest × DelegationEntry) :=
  ids.filterMap fun id => (ds.find? id).bind fun e =>
    if e.validatorId = V ∧ e.status = .ACTIVE then some (id, e) else none

/-- The shortest prefix of `L` whose amounts reach `t > 0`; all of `L` if none does. -/
def coverPrefix : List (Digest × DelegationEntry) → Int → List (Digest × DelegationEntry)
  | [], _ => []
  | x :: L, t => if t ≤ x.2.amount then [x] else x :: coverPrefix L (t - x.2.amount)

/-- The records `P` moved to `UNBONDING` from height `h`. -/
def unbondAll (h : Int32) (P : List (Digest × DelegationEntry)) (ds : StdMap Digest DelegationEntry) :
    StdMap Digest DelegationEntry :=
  P.foldl (fun ds x => ds.insert x.1 { x.2 with status := .UNBONDING, unbondingStartHeight := h }) ds

/-- The sum of the amounts of a list of records. -/
def amountOf (P : List (Digest × DelegationEntry)) : Int := (P.map (·.2.amount)).sum

@[simp] lemma amountOf_nil : amountOf [] = 0 := rfl

@[simp] lemma amountOf_cons (x : Digest × DelegationEntry) (P : List (Digest × DelegationEntry)) :
    amountOf (x :: P) = x.2.amount + amountOf P := by
  simp [amountOf]

/-- **`coverPrefix` is the shortest prefix that reaches the target**, or all of `L` when no
prefix does. -/
lemma coverPrefix_shortest : ∀ (L : List (Digest × DelegationEntry)) (t : Int), 0 < t →
    ∃ k, coverPrefix L t = L.take k ∧ (t ≤ amountOf (L.take k) ∨ k = L.length) ∧
      ∀ j < k, amountOf (L.take j) < t
  | [], _, _ => ⟨0, rfl, .inr rfl, fun _ h => absurd h (Nat.not_lt_zero _)⟩
  | x :: L, t, ht => by
      unfold coverPrefix
      split_ifs with hx
      · refine ⟨1, rfl, .inl (by simpa using hx), fun j hj => ?_⟩
        obtain rfl : j = 0 := by omega
        simpa using ht
      · obtain ⟨k, hk, hreach, hshort⟩ := coverPrefix_shortest L (t - x.2.amount) (by omega)
        refine ⟨k + 1, by rw [hk]; rfl, ?_, fun j hj => ?_⟩
        · rcases hreach with h | h
          · exact .inl (by simp only [List.take_succ_cons, amountOf_cons]; omega)
          · exact .inr (by simp [h])
        · cases j with
          | zero => simpa using ht
          | succ j =>
              have := hshort j (by omega)
              simp only [List.take_succ_cons, amountOf_cons]
              omega

lemma activeTo_cons (ds : StdMap Digest DelegationEntry) (V : KeyID) (id : Digest) (ids : List Digest) :
    activeTo ds V (id :: ids) =
      match ds.find? id with
      | some e => if e.validatorId = V ∧ e.status = .ACTIVE then (id, e) :: activeTo ds V ids
          else activeTo ds V ids
      | none => activeTo ds V ids := by
  unfold activeTo
  rw [List.filterMap_cons]
  cases ds.find? id with
  | none => rfl
  | some e => by_cases he : e.validatorId = V ∧ e.status = .ACTIVE <;> simp [he]

/-- Rewriting a record that is not among `ids` does not change what they list. -/
lemma activeTo_insert {ds : StdMap Digest DelegationEntry} {V : KeyID} {ids : List Digest} {id : Digest}
    (hid : id ∉ ids) (e : DelegationEntry) : activeTo (ds.insert id e) V ids = activeTo ds V ids := by
  unfold activeTo
  refine List.filterMap_congr fun id' hid' => ?_
  rw [StdMap.find?_insert_ne _ _ (by rintro rfl; exact hid hid')]

variable (r : UndelegationRequest) (h : Int32)

/-- **The undelegation loop, for a positive budget `rem`** over a duplicate-free id list: it
answers `true` exactly when it met a record, it moves exactly `coverPrefix` of the records it
meets, and, when no record is split, it calls `RemoveDelegation` with each moved amount in
turn. -/
lemma undelegateLoop_cover (hr : r.amount ≠ 0) :
    ∀ (ids : List Digest) (rem : Int) (any : Bool) ds vdb, ids.Nodup → 0 < rem →
      (undelegateLoop r h ids rem any ds vdb).1 = (any || !(activeTo ds r.validatorId ids).isEmpty) ∧
      (undelegateLoop r h ids rem any ds vdb).2.1 =
        unbondAll h (coverPrefix (activeTo ds r.validatorId ids) rem) ds ∧
      (amountOf (coverPrefix (activeTo ds r.validatorId ids) rem) ≤ rem →
        (undelegateLoop r h ids rem any ds vdb).2.2 =
          ((coverPrefix (activeTo ds r.validatorId ids) rem).map (·.2.amount)).foldl
            (fun v a => (v.removeDelegation r.validatorId a).2) vdb)
  | [], _, any, _, _, _, _ => by simp [undelegateLoop, activeTo, coverPrefix, unbondAll]
  | id :: ids, rem, any, ds, vdb, hnd, hrem => by
      obtain ⟨hid, hnd⟩ := List.nodup_cons.mp hnd
      rw [activeTo_cons]
      unfold undelegateLoop
      cases hf : ds.find? id with
      | none => exact undelegateLoop_cover hr ids rem any ds vdb hnd hrem
      | some e =>
          dsimp only
          by_cases hm : e.validatorId = r.validatorId ∧ e.status = .ACTIVE
          · rw [if_pos hm, if_neg (by simpa using hm)]
            simp only [undelegationShare, if_neg hr]
            by_cases hle : rem ≤ e.amount
            · -- the budget ends in this record: it is moved and the loop stops
              have hstop : ¬ (rem ≥ e.amount ∧ rem - e.amount ≠ 0) := by omega
              simp only [coverPrefix, if_pos hle, unbondAll, List.foldl_cons, List.foldl_nil,
                List.map_cons, List.map_nil, amountOf_cons, amountOf_nil]
              refine ⟨by split_ifs <;> simp_all, by split_ifs <;> simp_all, fun hsplit => ?_⟩
              rw [if_pos (by omega : rem ≥ e.amount), if_pos (by omega : rem - e.amount = 0)]
            · -- the whole record is released and the loop goes on
              have ih := undelegateLoop_cover hr ids (rem - e.amount) true
                (ds.insert id { e with status := .UNBONDING, unbondingStartHeight := h })
                (vdb.removeDelegation r.validatorId e.amount).2 hnd (by omega)
              rw [activeTo_insert hid] at ih
              simp only [if_pos (by omega : rem ≥ e.amount), if_neg (by omega : rem - e.amount ≠ 0)]
              simp only [coverPrefix, if_neg hle, unbondAll, List.foldl_cons, List.map_cons,
                amountOf_cons]
              exact ⟨by simpa using ih.1, ih.2.1, fun hsplit => ih.2.2 (by omega)⟩
          · rw [if_neg hm, if_pos (not_and_or.mp hm)]
            exact undelegateLoop_cover hr ids rem any ds vdb hnd hrem

end DelegationDB

namespace ValidatorDB

/-- **`RemoveDelegation` calls that the aggregate covers** lower `totalDelegated` by their sum
and the delegator count by one per call while it is positive, and change nothing else. -/
lemma removeAll_eq (V : KeyID) : ∀ (as : List Int) (vdb : ValidatorDB) (e : ValidatorEntry),
    vdb.validators.find? V = some e → (∀ a ∈ as, 0 ≤ a) → as.sum ≤ e.totalDelegated →
    ∃ c : Int32, as.foldl (fun v a => (v.removeDelegation V a).2) vdb =
        vdb.setEntry V { e with totalDelegated := e.totalDelegated - as.sum, delegatorCount := c } ∧
      c.val = if e.delegatorCount.val ≤ 0 then e.delegatorCount.val
        else max (e.delegatorCount.val - as.length) 0
  | [], vdb, e, he, _, _ =>
      ⟨e.delegatorCount, by simp [setEntry_self he], by simp only [List.length_nil]; split_ifs <;> omega⟩
  | a :: as, vdb, e, he, hnn, hsum => by
      have ha := hnn a (List.mem_cons_self a as)
      have has : 0 ≤ as.sum := List.sum_nonneg fun b hb => hnn b (List.mem_cons_of_mem a hb)
      simp only [List.sum_cons] at hsum
      let e₁ : ValidatorEntry := { e with
        totalDelegated := e.totalDelegated - a
        delegatorCount := if e.delegatorCount > 0 then e.delegatorCount - 1 else e.delegatorCount }
      have h₁ : (vdb.removeDelegation V a).2 = vdb.setEntry V e₁ := by
        rw [removeDelegation_of_le he (by omega)]
      -- one call lowers a positive count by one, with no wrap
      have hc₁ : e₁.delegatorCount.val =
          if 0 < e.delegatorCount.val then e.delegatorCount.val - 1 else e.delegatorCount.val := by
        have hm := e.delegatorCount.val_mem
        have hgt : e.delegatorCount > 0 ↔ 0 < e.delegatorCount.val := Int32.lt_iff _ _
        by_cases hp : 0 < e.delegatorCount.val
        · simp only [e₁, if_pos (hgt.mpr hp), if_pos hp]
          exact Int32.val_sub_of_mem (by simp only [Int32.val_one]; omega)
            (by simp only [Int32.val_one]; omega)
        · simp only [e₁, if_neg (mt hgt.mp hp), if_neg hp]
      obtain ⟨c, hc, hcv⟩ := removeAll_eq V as (vdb.setEntry V e₁) e₁ (by simp)
        (fun b hb => hnn b (List.mem_cons_of_mem a hb)) (by simp only [e₁]; omega)
      refine ⟨c, ?_, ?_⟩
      · rw [List.foldl_cons, h₁, hc, setEntry_setEntry, List.sum_cons, sub_add_eq_sub_sub]
      · rw [hcv, hc₁, List.length_cons, Nat.cast_succ]
        split_ifs <;> omega

end ValidatorDB

namespace DelegationDB

open ValidatorDB

/-- `L` of an undelegation request: the delegator's `ACTIVE` records to the requested
validator, in the order of the delegator's index list. -/
def undelegable (db : DelegationDB) (r : UndelegationRequest) : List (Digest × DelegationEntry) :=
  activeTo db.delegations r.validatorId (idsAt db.delegatorIndex r.delegatorId)

/-- **A positive undelegation.** With `L = undelegable db r` and `P = coverPrefix L amount`:
the call answers `false` exactly when `L` is empty, and then changes nothing; it moves exactly
the records of `P` to `UNBONDING` from the ledger's height and changes nothing else in the
ledger; and when `P` splits no record and the registry holds the validator with a
`totalDelegated` covering `P`'s non-negative amounts, that total drops by `P`'s amount, the
validator's delegator count drops by one per record of `P` while it is positive, and nothing
else in the registry changes. -/
theorem processUndelegation_spec (vdb : ValidatorDB) (db : DelegationDB) (r : UndelegationRequest)
    (hWF : db.IndexWF) (hr : 0 < r.amount) :
    ((processUndelegation vdb db r).1 = false ↔ undelegable db r = []) ∧
      ((processUndelegation vdb db r).1 = false → (processUndelegation vdb db r).2 = (db, vdb)) ∧
      (processUndelegation vdb db r).2.1 =
        { db with delegations :=
            unbondAll db.currentHeight (coverPrefix (undelegable db r) r.amount) db.delegations } ∧
      ∀ e, vdb.validators.find? r.validatorId = some e → (∀ x ∈ undelegable db r, 0 ≤ x.2.amount) →
        amountOf (coverPrefix (undelegable db r) r.amount) ≤ r.amount →
        amountOf (coverPrefix (undelegable db r) r.amount) ≤ e.totalDelegated →
        ∃ c : Int32, (processUndelegation vdb db r).2.2 = vdb.setEntry r.validatorId
            { e with
              totalDelegated := e.totalDelegated - amountOf (coverPrefix (undelegable db r) r.amount)
              delegatorCount := c } ∧
          c.val = if e.delegatorCount.val ≤ 0 then e.delegatorCount.val
            else max (e.delegatorCount.val - (coverPrefix (undelegable db r) r.amount).length) 0 := by
  obtain ⟨hcall, hmove, hremove⟩ := undelegateLoop_cover r db.currentHeight hr.ne'
    (idsAt db.delegatorIndex r.delegatorId) r.amount false db.delegations vdb
    (hWF.delegators.nodup r.delegatorId) hr
  have hPU : processUndelegation vdb db r =
      ((undelegateLoop r db.currentHeight (idsAt db.delegatorIndex r.delegatorId) r.amount false
          db.delegations vdb).1,
        { db with delegations := (undelegateLoop r db.currentHeight
          (idsAt db.delegatorIndex r.delegatorId) r.amount false db.delegations vdb).2.1 },
        (undelegateLoop r db.currentHeight (idsAt db.delegatorIndex r.delegatorId) r.amount false
          db.delegations vdb).2.2) := by
    unfold processUndelegation idsAt
    cases db.delegatorIndex.find? r.delegatorId <;> rfl
  refine ⟨?_, processUndelegation_atomic vdb db r, by rw [hPU, hmove]; rfl, ?_⟩
  · rw [hPU, hcall, Bool.false_or, Bool.not_eq_false', List.isEmpty_iff]
    rfl
  · intro e he hnn hsplit hcover
    obtain ⟨k, hk, -⟩ := coverPrefix_shortest (undelegable db r) r.amount hr
    rw [hPU, hremove hsplit]
    obtain ⟨c, hc, hcv⟩ := removeAll_eq r.validatorId _ vdb e he
      (fun a ha => by
        obtain ⟨x, hx, rfl⟩ := List.mem_map.mp ha
        exact hnn x (List.mem_of_mem_take (hk ▸ hx)))
      hcover
    exact ⟨c, hc, by rw [hcv, List.length_map]⟩

end DelegationDB

open DelegationDB

/-- Delegator `2`'s delegation of the minimum to validator `1` matures at height 500. -/
def maturedDelegationRun : List LedgerOp := pendingDelegationRun ++ [.delegationBlock 500]

/-- Delegator `2` undelegates the minimum from validator `1`. -/
def minimumUndelegation : UndelegationRequest := ⟨2, 1, MIN_DELEGATION_AMOUNT, 500, []⟩

/-- The databases after `maturedDelegationRun`. -/
def matured : Ledger := ledgerAfter maturedDelegationRun

/-- The databases after `twoDelegationsRun`: delegator `2` holds two matured delegations of the
minimum to validator `1`. -/
def twoDelegated : Ledger := ledgerAfter twoDelegationsRun

/-- Undelegating the minimum from two delegations of the minimum moves the first of them. -/
theorem processUndelegation_spec_two :
    let vdb := twoDelegated.vdb
    let db := twoDelegated.ddb
    let r := minimumUndelegation
    (undelegable db r).length = 2 ∧ (coverPrefix (undelegable db r) r.amount).length = 1 ∧
      db.IndexWF ∧ 0 < r.amount ∧
      (((processUndelegation vdb db r).1 = false ↔ undelegable db r = []) ∧
        ((processUndelegation vdb db r).1 = false → (processUndelegation vdb db r).2 = (db, vdb)) ∧
        (processUndelegation vdb db r).2.1 =
          { db with delegations :=
              unbondAll db.currentHeight (coverPrefix (undelegable db r) r.amount) db.delegations } ∧
        ∀ e, vdb.validators.find? r.validatorId = some e → (∀ x ∈ undelegable db r, 0 ≤ x.2.amount) →
          amountOf (coverPrefix (undelegable db r) r.amount) ≤ r.amount →
          amountOf (coverPrefix (undelegable db r) r.amount) ≤ e.totalDelegated →
          ∃ c : Int32, (processUndelegation vdb db r).2.2 = vdb.setEntry r.validatorId
              { e with
                totalDelegated := e.totalDelegated - amountOf (coverPrefix (undelegable db r) r.amount)
                delegatorCount := c } ∧
            c.val = if e.delegatorCount.val ≤ 0 then e.delegatorCount.val
              else max (e.delegatorCount.val - (coverPrefix (undelegable db r) r.amount).length) 0) := by
  intro vdb db r
  have hR : Ledger.Reachable Params.sample Crypto.toy (fun _ op => op.isRaw = false) twoDelegated :=
    reachable_ledgerAfter (by decide) (by decide)
  have hWF := indexWF_of_reachable hR
  exact ⟨by decide, by decide, hWF, by decide, processUndelegation_spec vdb db r hWF (by decide)⟩

/-- Validator `1`'s `totalDelegated` and delegator count. -/
def delegationOfOne (vdb : ValidatorDB) : Option (Int × Int) :=
  (vdb.getValidator 1).map fun v => (v.totalDelegated, v.delegatorCount.val)

/-- Undelegating delegator `2`'s one matured record of the minimum moves that record, which
splits nothing, and lowers validator `1`'s `totalDelegated` by its amount; the delegator
count goes from 1 to 0 as well. -/
theorem undelegation_moves_count :
    (undelegable matured.ddb minimumUndelegation).map (·.2.amount) = [MIN_DELEGATION_AMOUNT] ∧
      delegationOfOne matured.vdb = some (MIN_DELEGATION_AMOUNT, 1) ∧
      delegationOfOne (processUndelegation matured.vdb matured.ddb minimumUndelegation).2.2 =
        some (0, 0) := by
  decide

end WattxCore
