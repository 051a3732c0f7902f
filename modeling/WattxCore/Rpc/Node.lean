import WattxCore.Rpc.Claims

/-!
A node whose databases are driven by the wallet RPCs of any number of wallets, interleaved
with the node's own operations (blocks, distributions, registry calls). Each wallet call is a
run of ledger operations, so what is proved of the ledger's admitted runs holds of the node the
RPCs drive.

* `WalletCall`, `WalletCall.exec`: the five calls, made with or without a wallet and with
  the database globals set or not, with the error a call throws, if any, and the databases
  after it;
* `WalletCall.exec_error`: **a wallet call that throws leaves both databases as they were**;
* `WalletIssued`: the database calls the handlers make, in the state where they make them:
  registrations of `registervalidator`'s entries at a chain height, fee updates, delegations
  on a null outpoint, undelegations of exactly the first record they can move, and claims;
* `RpcReachable ok`: the states reached from the empty databases by any calls of any wallet,
  with `undelegatestake` asking for everything, and by node operations that `ok` admits;
* `RpcReachable.refines`: **each such state is reached by a run of ledger operations that `ok`
  admits, as soon as `ok` admits what the handlers issue**;
* `rpc_node_invariants`: **in every state reached so, with the node's operations admitted by
  the aggregate, reward and stake laws, the registry's delegation aggregates equal the bonded
  records, records are sound, every validator holds the minimum stake and the ledger's indices
  are exact**.
-/

namespace WattxCore

open DelegationDB

/-- The wallet RPCs that write to the databases, with their parsed arguments. -/
inductive WalletCall
  | registervalidator (fee_rate : Option Int) (name : Option String)
  | setvalidatorpoolfee (fee_rate : Int)
  | delegatestake (validatorId : KeyID) (amount : Int)
  | undelegatestake (validatorId : KeyID) (amount : Option Int)
  | claimrewards (validatorId : Option KeyID)

/-- `undelegatestake` asking for everything: no amount, or `0`. Every other call qualifies. -/
def WalletCall.asksAll : WalletCall → Bool
  | .undelegatestake _ amount => amount.getD 0 == 0
  | _ => true

/-- A handler's outcome with its result object dropped. -/
def dropResult {α : Type} (r : Except RPCError α × Ledger) : Except RPCError Unit × Ledger :=
  ((fun _ => ()) <$> r.1, r.2)

variable (p : Params) (c : Crypto) (fmt : Int → String)

/-- One call, with the database globals `g` and the request's wallet, if any: the error it
throws, if any, and the databases after it. (The handlers' full names keep them apart from the
constructors of the same names.) -/
def WalletCall.exec (g : DbGlobals) (pw : Option Wallet) (L : Ledger) :
    WalletCall → Except RPCError Unit × Ledger
  | .registervalidator fee_rate name =>
      dropResult (WattxCore.registervalidator p c fmt g L pw fee_rate name)
  | .setvalidatorpoolfee fee_rate => dropResult (WattxCore.setvalidatorpoolfee p c g L pw fee_rate)
  | .delegatestake validatorId amount =>
      dropResult (WattxCore.delegatestake p c fmt g L pw validatorId amount)
  | .undelegatestake validatorId amount =>
      dropResult (WattxCore.undelegatestake p c fmt g L pw validatorId amount)
  | .claimrewards validatorId => dropResult (WattxCore.claimrewards c g L pw validatorId)

/-- The database calls the handlers make, in the state where they make them. -/
def WalletIssued (L : Ledger) : LedgerOp → Prop
  | .registerValidator e => e.FromRpc ∧ 0 ≤ e.registrationHeight.val
  | .processUpdate u => u.updateType = .UPDATE_FEE
  | .processDelegation _ o => o = OutPoint.null
  | .processUndelegation r => (undelegable L.ddb r).head?.map (·.2.amount) = some r.amount
  | .processRewardClaim _ => True
  | _ => False

/-- The states a node reaches from the empty databases by wallet calls, with `undelegatestake`
asking for everything, and by node operations that `ok` admits and that return. -/
inductive RpcReachable (ok : Ledger → LedgerOp → Prop) : Ledger → Prop
  | empty : RpcReachable ok Ledger.empty
  | call {L : Ledger} (g : DbGlobals) (pw : Option Wallet) (call : WalletCall) :
      RpcReachable ok L → call.asksAll = true → RpcReachable ok (call.exec p c fmt g pw L).2
  | node {L : Ledger} {op : LedgerOp} {x : Reply × Ledger} :
      RpcReachable ok L → ok L op → x ∈ Ledger.step p c L op → RpcReachable ok x.2

variable {p c fmt}

/-! ### Errors -/

lemma dropResult_error {α : Type} {r : Except RPCError α × Ledger} {e : RPCError}
    (h : (dropResult r).1 = .error e) : r.1 = .error e := by
  obtain ⟨_ | _, _⟩ := r <;> simp_all [dropResult, Functor.map, Except.map]

/-- **A wallet call that throws leaves both databases as they were**: the handlers check before
their one database call, and a refused call wrote nothing. -/
theorem WalletCall.exec_error {g : DbGlobals} {pw : Option Wallet} {L : Ledger} {call : WalletCall}
    {e : RPCError} (h : (call.exec p c fmt g pw L).1 = .error e) : (call.exec p c fmt g pw L).2 = L := by
  cases call with
  | registervalidator fee_rate name =>
      obtain ⟨x, hdef, -⟩ := registervalidator_checks p c fmt g L pw fee_rate name
      rw [WalletCall.exec, hdef] at h ⊢
      exact walletCall_error (dropResult_error h)
  | setvalidatorpoolfee fee_rate =>
      obtain ⟨x, hdef, -⟩ := setvalidatorpoolfee_checks p c g L pw fee_rate
      rw [WalletCall.exec, hdef] at h ⊢
      exact walletCall_error (dropResult_error h)
  | delegatestake validatorId amount =>
      obtain ⟨x, hdef, -⟩ := delegatestake_checks p c fmt g L pw validatorId amount
      rw [WalletCall.exec, hdef] at h ⊢
      exact walletCall_error (dropResult_error h)
  | undelegatestake validatorId amount =>
      obtain ⟨x, hdef, -⟩ := undelegatestake_checks p c fmt g L pw validatorId amount
      rw [WalletCall.exec, hdef] at h ⊢
      exact walletCall_error (dropResult_error h)
  | claimrewards validatorId =>
      obtain ⟨-, -, -, hL⟩ := claimrewards_error (dropResult_error h)
      exact hL

/-- An unlocked wallet delegates to validator `1` while it is still `PENDING`: the call is
refused by `ProcessDelegation`, after every check of the handler passed. -/
theorem exec_error_sample :
    (WalletCall.exec Params.sample Crypto.toy toString DbGlobals.loaded (some (Wallet.sample 2))
        pendingOne (.delegatestake 1 MIN_DELEGATION_AMOUNT)).1 =
      .error ⟨.RPC_INTERNAL_ERROR, "Failed to process delegation"⟩ ∧
    (WalletCall.exec Params.sample Crypto.toy toString DbGlobals.loaded (some (Wallet.sample 2))
        pendingOne (.delegatestake 1 MIN_DELEGATION_AMOUNT)).2 = pendingOne :=
  have h : (WalletCall.exec Params.sample Crypto.toy toString DbGlobals.loaded
      (some (Wallet.sample 2)) pendingOne (.delegatestake 1 MIN_DELEGATION_AMOUNT)).1 =
      .error ⟨.RPC_INTERNAL_ERROR, "Failed to process delegation"⟩ := by rfl
  ⟨h, WalletCall.exec_error h⟩

/-! ### Refinement -/

/-- The amounts an undelegation can release are those of the records it can move. -/
lemma activeAmounts_eq_map (ds : StdMap Digest DelegationEntry) (V : KeyID) (ids : List Digest) :
    activeAmounts ds V ids = (activeTo ds V ids).map (·.2.amount) := by
  rw [activeAmounts, activeTo, List.map_filterMap]
  refine List.filterMap_congr fun id _ => ?_
  cases ds.find? id with
  | none => rfl
  | some e => by_cases h : e.validatorId = V ∧ e.status = .ACTIVE <;> simp [h]

/-- The aggregate laws admit what the handlers issue. -/
lemma WalletIssued.aggregateAdmissible {L : Ledger} {op : LedgerOp} (h : WalletIssued L op) :
    AggregateAdmissible L op := by
  cases op with
  | registerValidator e => exact ⟨h.1.totalDelegated, h.1.delegatorCount⟩
  | processUndelegation r =>
      refine .inr ?_
      obtain ⟨x, hx, hamt⟩ := Option.map_eq_some'.mp h
      obtain ⟨rest, hrest⟩ : ∃ rest, undelegable L.ddb r = x :: rest := by
        cases hu : undelegable L.ddb r with
        | nil => rw [hu] at hx; cases hx
        | cons y rest => rw [hu] at hx; cases hx; exact ⟨rest, rfl⟩
      rw [activeAmounts_eq_map, show activeTo L.ddb.delegations r.validatorId
        (idsAt L.ddb.delegatorIndex r.delegatorId) = x :: rest from hrest, List.map_cons, hamt]
      exact ⟨le_rfl, .inl (sub_self _)⟩
  | processUpdate | processDelegation | processRewardClaim => trivial
  | updateStakeOutpoint | setValidatorStatus | jailValidator | unjailValidator | addDelegation
  | removeDelegation | validatorBlock | addRewards | distributeBlockReward | setDelegationStatus
  | updateDelegationOutpoint | delegationBlock => exact h.elim

/-- The reward laws admit what the handlers issue. -/
lemma WalletIssued.rewardAdmissible {L : Ledger} {op : LedgerOp} (h : WalletIssued L op) :
    RewardAdmissible L op := by
  cases op with
  | addRewards | distributeBlockReward => exact h.elim
  | _ => trivial

/-- The stake floor admits what the handlers issue. -/
lemma WalletIssued.stakeAdmissible {L : Ledger} {op : LedgerOp} (h : WalletIssued L op) :
    StakeAdmissible L op := by
  cases op with
  | registerValidator e => exact h.2
  | processUpdate u => exact fun hu => absurd (h.symm.trans hu) (by decide)
  | _ => trivial

/-- `registervalidator` registers the entries the laws are stated for. -/
lemma walletEntry_fromRpc (k : KeyID) (pk : PubKey) (stake feeRate : Int) (height : Int32)
    (name : String) : (walletEntry k pk stake feeRate height name).FromRpc :=
  ⟨rfl, rfl, rfl, rfl, rfl, rfl⟩

variable {ok : Ledger → LedgerOp → Prop}

/-- One wallet call from a state reached by admitted runs ends in such a state. -/
lemma WalletCall.exec_reachable (hok : ∀ L op, WalletIssued L op → ok L op) {g : DbGlobals}
    {pw : Option Wallet} {L : Ledger} (call : WalletCall) (hask : call.asksAll = true)
    (hL : Ledger.Reachable p c ok L) : Ledger.Reachable p c ok (call.exec p c fmt g pw L).2 := by
  cases call with
  | registervalidator fee_rate name =>
      obtain ⟨x, hdef, hx⟩ := registervalidator_checks p c fmt g L pw fee_rate name
      rw [WalletCall.exec, dropResult, hdef]
      refine walletCall_reachable hL fun w call res failure h => hok _ _ ?_
      obtain ⟨k, pk, n, -, -, -, -, -, rfl, -⟩ := (hx w).2 call res failure h
      exact ⟨walletEntry_fromRpc _ _ _ _ _ _, w.height_nonneg⟩
  | setvalidatorpoolfee fee_rate =>
      obtain ⟨x, hdef, hx⟩ := setvalidatorpoolfee_checks p c g L pw fee_rate
      rw [WalletCall.exec, dropResult, hdef]
      refine walletCall_reachable hL fun w call res failure h => hok _ _ ?_
      obtain ⟨V, old, sig, -, -, -, -, rfl, -⟩ := hx w call res failure h
      rfl
  | delegatestake validatorId amount =>
      obtain ⟨x, hdef, hx⟩ := delegatestake_checks p c fmt g L pw validatorId amount
      rw [WalletCall.exec, dropResult, hdef]
      refine walletCall_reachable hL fun w call res failure h => hok _ _ ?_
      obtain ⟨v, r, -, -, -, -, rfl, -⟩ := hx w call res failure h
      rfl
  | undelegatestake validatorId amount =>
      obtain ⟨x, hdef, hx⟩ := undelegatestake_checks p c fmt g L pw validatorId amount
      have hall : amount.getD 0 = 0 := by simpa [WalletCall.asksAll] using hask
      rw [WalletCall.exec, dropResult, hdef]
      refine walletCall_reachable hL fun w call res failure h => hok _ _ ?_
      obtain ⟨k, a, sig, hfirst, -, rfl, -⟩ := hx w call res failure h
      obtain ⟨id, e, rest, hto, rfl⟩ := firstDelegation_head hfirst
      show (undelegable L.ddb _).head?.map (·.2.amount) = _
      rw [undelegable, if_pos hall]
      exact congrArg (Option.map (·.2.amount)) (congrArg List.head? hto)
  | claimrewards validatorId =>
      exact claimrewards_preserves (fun L' r h => .step (x := (_, _)) h (hok _ (.processRewardClaim r) trivial) rfl) hL g pw
        validatorId

/-- **Refinement**: every state a node reaches by wallet calls and admitted node operations is
reached by a run of ledger operations that `ok` admits, as soon as `ok` admits what the
handlers issue. -/
theorem RpcReachable.refines (hok : ∀ L op, WalletIssued L op → ok L op) {L : Ledger}
    (hL : RpcReachable p c fmt ok L) : Ledger.Reachable p c ok L := by
  induction hL with
  | empty => exact .empty
  | call g pw call _ hask ih => exact call.exec_reachable hok hask ih
  | node _ hop hx ih => exact .step ih hop hx

/-- The laws the node's own operations are admitted by. -/
def NodeAdmissible (L : Ledger) (op : LedgerOp) : Prop :=
  AggregateAdmissible L op ∧ RewardAdmissible L op ∧ StakeAdmissible L op

/-- **The laws of the ledger hold of the node the RPCs drive**: with node operations admitted
by the aggregate, reward and stake laws, every reachable state keeps the delegation aggregates
equal to the bonded records, sound records (positive amounts, non-negative pending rewards),
the minimum stake of every validator and exact indices. -/
theorem rpc_node_invariants {L : Ledger} (hL : RpcReachable p c fmt NodeAdmissible L) :
    Books L.vdb L.ddb.delegations ∧ RecordsOk L.ddb.delegations ∧ StakeFloor p L ∧
      L.ddb.IndexWF := by
  have hR := hL.refines fun _ _ h => ⟨h.aggregateAdmissible, h.rewardAdmissible, h.stakeAdmissible⟩
  exact ⟨books_of_reachable (hR.mono fun _ _ h => h.1),
    recordsOk_of_reachable (hR.mono fun _ _ h => h.2.1),
    stakeFloor_of_reachable (hR.mono fun _ _ h => h.2.2), indexWF_of_reachable hR⟩

/-- Key `1` registers through its wallet. -/
def rpcRegistered : Ledger :=
  (WalletCall.exec Params.sample Crypto.toy toString DbGlobals.loaded (some (Wallet.sample 1))
    Ledger.empty (.registervalidator none none)).2

/-- Then the node activates validator `1`. -/
def rpcActivated : Ledger :=
  { rpcRegistered with vdb := (rpcRegistered.vdb.setValidatorStatus 1 .ACTIVE).2 }

/-- Then key `2` delegates the minimum to validator `1` through another wallet. -/
def rpcSample : Ledger :=
  (WalletCall.exec Params.sample Crypto.toy toString DbGlobals.loaded (some (Wallet.sample 2))
    rpcActivated (.delegatestake 1 MIN_DELEGATION_AMOUNT)).2

lemma rpcSample_reachable : RpcReachable Params.sample Crypto.toy toString NodeAdmissible rpcSample :=
  have registered : RpcReachable Params.sample Crypto.toy toString NodeAdmissible rpcRegistered :=
    .call DbGlobals.loaded (some (Wallet.sample 1)) (.registervalidator none none) .empty rfl
  have admitted : NodeAdmissible rpcRegistered (.setValidatorStatus 1 .ACTIVE) :=
    ⟨trivial, trivial, trivial⟩
  .call DbGlobals.loaded (some (Wallet.sample 2)) (.delegatestake 1 MIN_DELEGATION_AMOUNT)
    (.node (x := (_, rpcActivated)) registered admitted rfl) rfl

theorem rpc_node_invariants_sample :
    RpcReachable Params.sample Crypto.toy toString NodeAdmissible rpcSample ∧
      (Books rpcSample.vdb rpcSample.ddb.delegations ∧ RecordsOk rpcSample.ddb.delegations ∧
        StakeFloor Params.sample rpcSample ∧ rpcSample.ddb.IndexWF) :=
  ⟨rpcSample_reachable, rpc_node_invariants rpcSample_reachable⟩

end WattxCore
