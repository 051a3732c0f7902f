import WattxCore.Validators.Undelegation
import WattxCore.Validators.Authorization

/-!
The wallet RPCs of `rpcwallet` that write to the node's databases: `registervalidator`,
`setvalidatorpoolfee`, `delegatestake`, `undelegatestake` and `claimrewards`, the callers
through which a user drives the registry and the delegation ledger.

The wallet is an input: what the handlers read of `CWallet` and its chain (whether it is
locked, the `PKHash` keys of the address book in the book's order, the stake weight, the
trusted balance, the chain height, the next destination of the key pool, the keys it holds) is
a `Wallet`, and a request may come without one. Whether the globals `g_validator_db` and
`g_delegation_db` are set is `DbGlobals`. `FormatMoney` is a parameter. Arguments arrive
parsed: `ParseValidatorKeyID` and `AmountFromValue` have done their work.

* `RPCError`, `throwIf`, `orThrow`: a thrown `JSONRPCError`, and the two shapes of check the
  handlers make;
* `Wallet`, `DbGlobals`, `dbAndWalletReady`: the wallet, the database globals, and the checks
  each handler makes first (its databases are set, `EnsureWalletIsUnlocked`);
* `DbCall`, `callOnce`, `walletCall`: the flag-answering database calls the handlers make, and
  a handler that returns null without a wallet and otherwise checks, makes one database call
  and throws when it answers `false`; what the call wrote stays written;
* `registervalidator`, `setvalidatorpoolfee`, `delegatestake`, `undelegatestake`: each one
  `walletCall`, with the source's checks, codes and texts in the source's order;
* `claimStep`, `claimOne`, `claimKey`, `claimrewards`: one `ProcessRewardClaim` per active
  delegation with pending rewards, over a copy of each key's delegations taken when the loop
  reaches the key.
-/

namespace WattxCore

/-- The `RPCErrorCode`s of `rpc/protocol.h` that the validator RPCs throw. -/
inductive RPCErrorCode
  | RPC_INTERNAL_ERROR
  | RPC_INVALID_PARAMETER
  | RPC_INVALID_ADDRESS_OR_KEY
  | RPC_WALLET_ERROR
  | RPC_WALLET_INSUFFICIENT_FUNDS
  | RPC_WALLET_KEYPOOL_RAN_OUT
  | RPC_WALLET_UNLOCK_NEEDED
  deriving DecidableEq, Repr

/-- `JSONRPCError(code, message)`. -/
structure RPCError where
  code : RPCErrorCode
  message : String
  deriving DecidableEq

/-- What the handlers read of `CWallet` and its chain. `newDestination` is the answer of
`GetNewDestination(OutputType::LEGACY, ...)` as `std::get_if<PKHash>` reads it: the key pool's
error text, or the destination's key id when it is a `PKHash` (`none` for any other kind). The
height is `chain().getHeight().value_or(0)`, never negative. -/
structure Wallet where
  locked : Bool
  addressBook : List KeyID
  stakeWeight : Int
  trustedBalance : Int
  height : Int32
  height_nonneg : 0 ≤ height.val
  newDestination : Except String (Option KeyID)
  pubKeyOf : KeyID → Option PubKey
  keyOf : KeyID → Option PrivKey

/-- An unlocked wallet holding key `k` alone, whose key pool hands out `k` and whose keys sign
under `Crypto.toy`, with the minimum validator stake of `Params.sample` as stake weight and the
minimum delegation as balance, at height 500. -/
def Wallet.sample (k : KeyID) : Wallet where
  locked := false
  addressBook := [k]
  stakeWeight := Params.sample.nMinValidatorStake
  trustedBalance := MIN_DELEGATION_AMOUNT
  height := 500
  height_nonneg := by decide
  newDestination := .ok (some k)
  pubKeyOf k := some k
  keyOf k := some k

/-- Whether the node's globals `g_validator_db` and `g_delegation_db` are set. -/
structure DbGlobals where
  validatorDb : Bool
  delegationDb : Bool

/-- Both databases set, as after start-up. -/
def DbGlobals.loaded : DbGlobals := ⟨true, true⟩

/-- `if (failed) throw JSONRPCError(code, message);` -/
def throwIf (failed : Prop) [Decidable failed] (code : RPCErrorCode) (message : String) :
    Except RPCError Unit :=
  if failed then throw ⟨code, message⟩ else pure ()

/-- `if (!found) throw JSONRPCError(code, message);` for a lookup that fills in its result. -/
def orThrow {α : Type} (o : Option α) (code : RPCErrorCode) (message : String) :
    Except RPCError α :=
  match o with
  | none => throw ⟨code, message⟩
  | some a => pure a

/-- The text `EnsureWalletIsUnlocked` throws. -/
def walletLocked : String :=
  "Error: Please enter the wallet passphrase with walletpassphrase first."

/-- `EnsureWalletIsUnlocked(*pwallet)`, of `wallet/rpc/util.cpp` (not among the sources): a
locked wallet throws `RPC_WALLET_UNLOCK_NEEDED`. -/
def ensureWalletIsUnlocked (w : Wallet) : Except RPCError Unit :=
  throwIf (w.locked = true) .RPC_WALLET_UNLOCK_NEEDED walletLocked

/-- The checks each handler makes once it has a wallet: `if (!db) throw
JSONRPCError(RPC_INTERNAL_ERROR, text);` over the databases it uses (`ready` when they are
set), then `EnsureWalletIsUnlocked(*pwallet)`. -/
def dbAndWalletReady (ready : Bool) (text : String) (w : Wallet) : Except RPCError Unit := do
  throwIf (ready = false) .RPC_INTERNAL_ERROR text
  ensureWalletIsUnlocked w

@[simp] lemma throwIf_eq_ok {failed : Prop} [Decidable failed] {code : RPCErrorCode} {message : String}
    {u : Unit} : throwIf failed code message = .ok u ↔ ¬failed := by
  unfold throwIf; split_ifs with h <;> simp [h, throw, throwThe, MonadExceptOf.throw]

@[simp] lemma orThrow_eq_ok {α : Type} {o : Option α} {code : RPCErrorCode} {message : String} {a : α} :
    orThrow o code message = .ok a ↔ o = some a := by
  cases o <;> simp [orThrow, throw, throwThe, MonadExceptOf.throw]

@[simp] lemma mapError_eq_ok {ε ε' α : Type} {f : ε → ε'} {x : Except ε α} {a : α} :
    x.mapError f = .ok a ↔ x = .ok a := by
  cases x <;> simp [Except.mapError]

@[simp] lemma throwIf_eq_error {failed : Prop} [Decidable failed] {code : RPCErrorCode}
    {message : String} {e : RPCError} :
    throwIf failed code message = .error e ↔ failed ∧ e = ⟨code, message⟩ := by
  unfold throwIf; split_ifs with h <;> simp [h, throw, throwThe, MonadExceptOf.throw, eq_comm]

@[simp] lemma orThrow_eq_error {α : Type} {o : Option α} {code : RPCErrorCode} {message : String}
    {e : RPCError} : orThrow o code message = .error e ↔ o = none ∧ e = ⟨code, message⟩ := by
  cases o <;> simp [orThrow, throw, throwThe, MonadExceptOf.throw, eq_comm]

@[simp] lemma mapError_eq_error {ε ε' α : Type} {f : ε → ε'} {x : Except ε α} {e : ε'} :
    x.mapError f = .error e ↔ ∃ e', x = .error e' ∧ f e' = e := by
  cases x <;> simp [Except.mapError]

@[simp] lemma dbAndWalletReady_eq_ok {ready : Bool} {text : String} {w : Wallet} {u : Unit} :
    dbAndWalletReady ready text w = .ok u ↔ ready = true ∧ w.locked = false := by
  simp [dbAndWalletReady, ensureWalletIsUnlocked, bind_eq_ok]

@[simp] lemma dbAndWalletReady_eq_error {ready : Bool} {text : String} {w : Wallet} {e : RPCError} :
    dbAndWalletReady ready text w = .error e ↔ ready = false ∧ e = ⟨.RPC_INTERNAL_ERROR, text⟩ ∨
      ready = true ∧ w.locked = true ∧ e = ⟨.RPC_WALLET_UNLOCK_NEEDED, walletLocked⟩ := by
  cases ready <;> simp [dbAndWalletReady, ensureWalletIsUnlocked, bind_eq_error]

/-- The database calls the wallet RPCs make that answer a success flag. -/
inductive DbCall
  | registerValidator (entry : ValidatorEntry)
  | processUpdate (update : ValidatorUpdate)
  | processDelegation (request : DelegationRequest) (outpoint : OutPoint)
  | processUndelegation (request : UndelegationRequest)

/-- The ledger operation a call is. -/
def DbCall.op : DbCall → LedgerOp
  | .registerValidator e => .registerValidator e
  | .processUpdate u => .processUpdate u
  | .processDelegation r o => .processDelegation r o
  | .processUndelegation r => .processUndelegation r

variable (p : Params) (c : Crypto) (fmt : Int → String) (g : DbGlobals) (L : Ledger)

/-- The flag a call answers and the databases it leaves. -/
def DbCall.exec : DbCall → Bool × Ledger
  | .registerValidator e => let r := L.vdb.registerValidator p e; (r.1, { L with vdb := r.2 })
  | .processUpdate u => let r := L.vdb.processUpdate p c u; (r.1, { L with vdb := r.2 })
  | .processDelegation r o =>
      let res := DelegationDB.processDelegation c L.vdb L.ddb r o; (res.1, ⟨res.2.2, res.2.1⟩)
  | .processUndelegation r =>
      let res := DelegationDB.processUndelegation L.vdb L.ddb r; (res.1, ⟨res.2.2, res.2.1⟩)

/-- `GetWalletForJSONRPCRequest(request)`, then `if (!pwallet) return UniValue::VNULL;`: a
request without a wallet returns null (`none`) and touches nothing. -/
def withWallet {α : Type} (pwallet : Option Wallet) (handler : Wallet → Except RPCError α × Ledger) :
    Except RPCError (Option α) × Ledger :=
  match pwallet with
  | none => (.ok none, L)
  | some w => let r := handler w; (r.1.map some, r.2)

/-- A handler body that makes one database call: its checks, which throw with the databases
untouched, then the call, then `if (!call) throw JSONRPCError(RPC_INTERNAL_ERROR, failure)`;
the databases are as the call left them. -/
def callOnce {α : Type} : Except RPCError (DbCall × α × String) → Except RPCError α × Ledger
  | .error e => (.error e, L)
  | .ok (call, result, failure) =>
      let r := call.exec p c L
      (if r.1 then .ok result else .error ⟨.RPC_INTERNAL_ERROR, failure⟩, r.2)

/-- A wallet RPC that makes one database call, with the checks `x` makes on the wallet. -/
def walletCall {α : Type} (pwallet : Option Wallet) (x : Wallet → Except RPCError (DbCall × α × String)) :
    Except RPCError (Option α) × Ledger :=
  withWallet L pwallet fun w => callOnce p c L (x w)

/-- The text both fee checks throw. -/
def feeRateRange : String :=
  "Fee rate must be between " ++ toString MIN_POOL_FEE ++ " and " ++ toString MAX_POOL_FEE ++
    " basis points"

/-! ### What a handler leaves -/

section Handler

variable {p c L}

/-- Each call is one step of the ledger, which returns. -/
lemma DbCall.step_op (call : DbCall) :
    Ledger.step p c L call.op = some (.ok (call.exec p c L).1, (call.exec p c L).2) := by
  cases call <;> rfl

/-- A refused database call wrote nothing. -/
lemma DbCall.refused (call : DbCall) (h : (call.exec p c L).1 = false) : (call.exec p c L).2 = L := by
  cases call <;> simp only [DbCall.exec] at h ⊢
  case registerValidator e => rw [ValidatorDB.registerValidator_atomic p _ e h]
  case processUpdate u => rw [ValidatorDB.processUpdate_atomic p c _ u h]
  case processDelegation r o => rw [DelegationDB.processDelegation_atomic c _ _ r o h]
  case processUndelegation r => rw [DelegationDB.processUndelegation_atomic _ _ r h]

/-- A handler that throws leaves the databases as they were. -/
lemma walletCall_error {α : Type} {pw : Option Wallet} {x : Wallet → Except RPCError (DbCall × α × String)}
    {e : RPCError} (h : (walletCall p c L pw x).1 = .error e) : (walletCall p c L pw x).2 = L := by
  obtain _ | w := pw
  · rfl
  simp only [walletCall, withWallet] at h ⊢
  rcases hx : x w with _ | ⟨call, res, failure⟩ <;> simp only [hx, callOnce] at h ⊢
  split_ifs at h with hc
  · simp [Except.map] at h
  · exact DbCall.refused call (by simpa using hc)

/-- A handler that returns an object passed its checks, and its database call answered
`true`. -/
lemma walletCall_ok {α : Type} {w : Wallet} {x : Wallet → Except RPCError (DbCall × α × String)} {res : α}
    (h : (walletCall p c L (some w) x).1 = .ok (some res)) :
    ∃ call failure, x w = .ok (call, res, failure) ∧ (call.exec p c L).1 = true ∧
      (walletCall p c L (some w) x).2 = (call.exec p c L).2 := by
  simp only [walletCall, withWallet] at h ⊢
  rcases hx : x w with _ | ⟨call, res', failure⟩ <;> simp only [hx, callOnce] at h ⊢
  · simp [Except.map] at h
  split_ifs at h with hc <;> simp only [Except.map, Except.ok.injEq, Option.some.injEq, reduceCtorEq] at h
  subst h
  exact ⟨call, failure, rfl, hc, rfl⟩

/-- A handler's databases are reached from the ones it started from by its one call, if it
made the call. -/
lemma walletCall_reachable {α : Type} {ok : Ledger → LedgerOp → Prop} {pw : Option Wallet}
    {x : Wallet → Except RPCError (DbCall × α × String)} (hL : Ledger.Reachable p c ok L)
    (hx : ∀ w call res failure, x w = .ok (call, res, failure) → ok L call.op) :
    Ledger.Reachable p c ok (walletCall p c L pw x).2 := by
  obtain _ | w := pw
  · exact hL
  simp only [walletCall, withWallet]
  rcases hxw : x w with _ | ⟨call, res, failure⟩
  · exact hL
  · exact .step hL (hx w call res failure hxw) (DbCall.step_op call)

/-- A handler that throws had a wallet, and threw at one of its checks, or its call was
refused and it threw `RPC_INTERNAL_ERROR` with its failure text. -/
lemma walletCall_error_cases {α : Type} {pw : Option Wallet}
    {x : Wallet → Except RPCError (DbCall × α × String)} {e : RPCError}
    (h : (walletCall p c L pw x).1 = .error e) : ∃ w, pw = some w ∧ (x w = .error e ∨
      ∃ call res failure, x w = .ok (call, res, failure) ∧ (call.exec p c L).1 = false ∧
        e = ⟨.RPC_INTERNAL_ERROR, failure⟩) := by
  obtain _ | w := pw
  · cases h
  refine ⟨w, rfl, ?_⟩
  simp only [walletCall, withWallet] at h
  rcases hx : x w with e' | ⟨call, res, failure⟩ <;> simp only [hx, callOnce] at h
  · simp only [Except.map, Except.error.injEq] at h
    exact .inl (congrArg _ h)
  split_ifs at h with hc <;> simp only [Except.map, Except.error.injEq, reduceCtorEq] at h
  exact .inr ⟨call, res, failure, rfl, by simpa using hc, h.symm⟩

end Handler

/-! ### `registervalidator` -/

/-- The result object of `registervalidator`. -/
structure RegisterResult where
  validatorId : KeyID
  stake : Int
  feeRate : Int
  name : String
  status : String

/-- The entry `registervalidator` registers: a default entry with the id, key, stake, fee,
height, status `PENDING` and name set. -/
def walletEntry (validatorKeyId : KeyID) (pubkey : PubKey) (stake feeRate : Int) (height : Int32)
    (name : String) : ValidatorEntry where
  validatorId := validatorKeyId
  validatorPubKey := pubkey
  stakeAmount := stake
  poolFeeRate := feeRate
  registrationHeight := height
  lastActiveHeight := 0
  status := .PENDING
  validatorName := name
  stakeOutpoint := OutPoint.null
  jailReleaseHeight := 0
  totalDelegated := 0
  delegatorCount := 0

/-- `registervalidator(fee_rate, name)`: the wallet's stake weight becomes the stake of a new
key's registration. -/
def registervalidator (pwallet : Option Wallet) (fee_rate : Option Int) (name : Option String) :
    Except RPCError (Option RegisterResult) × Ledger :=
  walletCall p c L pwallet fun w => do
    dbAndWalletReady g.validatorDb "Validator database not initialized" w
    let feeRate := fee_rate.getD DEFAULT_POOL_FEE
    throwIf (feeRate < MIN_POOL_FEE ∨ feeRate > MAX_POOL_FEE) .RPC_INVALID_PARAMETER feeRateRange
    let validatorName ← match name with
      | none => pure ""
      | some n => do
          throwIf (n.utf8ByteSize > MAX_VALIDATOR_NAME) .RPC_INVALID_PARAMETER
            ("Validator name too long (max " ++ toString MAX_VALIDATOR_NAME ++ " characters)")
          pure n
    throwIf (w.stakeWeight < p.nMinValidatorStake) .RPC_WALLET_INSUFFICIENT_FUNDS
      ("Insufficient stake. Have " ++ fmt w.stakeWeight ++ ", need " ++ fmt p.nMinValidatorStake ++
        " WATTx minimum")
    let stakeDest ← w.newDestination.mapError (⟨.RPC_WALLET_KEYPOOL_RAN_OUT, ·⟩)
    let validatorKeyId ← orThrow stakeDest .RPC_INTERNAL_ERROR "Failed to get valid staking address"
    let pubkey ← orThrow (w.pubKeyOf validatorKeyId) .RPC_WALLET_ERROR
      "Failed to get public key for validator registration"
    pure (.registerValidator
        (walletEntry validatorKeyId pubkey w.stakeWeight feeRate w.height validatorName),
      ⟨validatorKeyId, w.stakeWeight, feeRate, validatorName, "pending"⟩,
      "Failed to register validator (may already be registered)")

section

variable {p c fmt g L}

variable (p c fmt g L) in
/-- The checks of `registervalidator`: the two that throw `RPC_INTERNAL_ERROR` are the
database check and the staking address check, and past them all the handler registers the
entry of the new key, having checked fee, name and stake as `RegisterValidator` does. -/
lemma registervalidator_checks (pw : Option Wallet) (fee_rate : Option Int) (name : Option String) :
    ∃ x, registervalidator p c fmt g L pw fee_rate name = walletCall p c L pw x ∧ ∀ w,
      (∀ m, x w = .error ⟨.RPC_INTERNAL_ERROR, m⟩ →
        g.validatorDb = false ∧ m = "Validator database not initialized" ∨
          w.newDestination = .ok none ∧ m = "Failed to get valid staking address") ∧
      ∀ call res failure, x w = .ok (call, res, failure) →
        ∃ k pk validatorName, w.newDestination = .ok (some k) ∧
          MIN_POOL_FEE ≤ fee_rate.getD DEFAULT_POOL_FEE ∧ fee_rate.getD DEFAULT_POOL_FEE ≤ MAX_POOL_FEE ∧
          validatorName.utf8ByteSize ≤ MAX_VALIDATOR_NAME ∧ p.nMinValidatorStake ≤ w.stakeWeight ∧
          call = .registerValidator
            (walletEntry k pk w.stakeWeight (fee_rate.getD DEFAULT_POOL_FEE) w.height validatorName) ∧
          res = ⟨k, w.stakeWeight, fee_rate.getD DEFAULT_POOL_FEE, validatorName, "pending"⟩ ∧
          failure = "Failed to register validator (may already be registered)" := by
  refine ⟨_, rfl, fun w => ⟨fun m hx => ?_, fun call res failure hx => ?_⟩⟩ <;> cases name <;>
    simp only [bind_eq_error, bind_eq_ok, throwIf_eq_error, throwIf_eq_ok, orThrow_eq_error,
      orThrow_eq_ok, mapError_eq_error, mapError_eq_ok, dbAndWalletReady_eq_error,
      dbAndWalletReady_eq_ok, except_pure, Except.ok.injEq, Prod.mk.injEq, RPCError.mk.injEq,
      reduceCtorEq, false_and, and_false, exists_false, or_false, false_or] at hx
  · rcases hx with ⟨h, -, rfl⟩ | ⟨_, -, _, -, _, -, _, -, d, hd, rfl, -, rfl⟩
    exacts [.inl ⟨h, rfl⟩, .inr ⟨hd, rfl⟩]
  · rcases hx with ⟨h, -, rfl⟩ | ⟨_, -, _, -, _, -, _, -, _, -, d, hd, rfl, -, rfl⟩
    exacts [.inl ⟨h, rfl⟩, .inr ⟨hd, rfl⟩]
  · obtain ⟨_, -, _, hfee, _, rfl, _, hstake, d, hd, k, rfl, pk, -, rfl, rfl, rfl⟩ := hx
    exact ⟨k, pk, "", hd, by omega, by omega, by decide, by omega, rfl, rfl, rfl⟩
  · obtain ⟨_, -, _, hfee, _, hname, _, rfl, _, hstake, d, hd, k, rfl, pk, -, rfl, rfl, rfl⟩ := hx
    exact ⟨k, pk, _, hd, by omega, by omega, by omega, by omega, rfl, rfl, rfl⟩

/-- A registration refused although its fee, stake and name pass names an id already
registered. -/
lemma registerValidator_refused_registered {db : ValidatorDB} {entry : ValidatorEntry}
    (hf₁ : MIN_POOL_FEE ≤ entry.poolFeeRate) (hf₂ : entry.poolFeeRate ≤ MAX_POOL_FEE)
    (hs : p.nMinValidatorStake ≤ entry.stakeAmount)
    (hn : entry.validatorName.utf8ByteSize ≤ MAX_VALIDATOR_NAME)
    (h : (db.registerValidator p entry).1 = false) : (db.getValidator entry.validatorId).isSome := by
  unfold ValidatorDB.registerValidator at h
  split_ifs at h with h₁ h₂ h₃ h₄
  · exact h₁
  · omega
  · omega
  · omega

/-- **What a registration's internal error means**: `registervalidator` throws
`RPC_INTERNAL_ERROR` only when the validator database is not set, when the key pool hands out a
destination that is not a `PKHash`, or with "may already be registered", and then the new key
was already registered, since its own checks of fee, name and stake are those of
`RegisterValidator`. -/
theorem registervalidator_internal_error {pw : Option Wallet} {fee_rate : Option Int}
    {name : Option String} {m : String}
    (h : (registervalidator p c fmt g L pw fee_rate name).1 = .error ⟨.RPC_INTERNAL_ERROR, m⟩) :
    ∃ w, pw = some w ∧
      (g.validatorDb = false ∧ m = "Validator database not initialized" ∨
        w.newDestination = .ok none ∧ m = "Failed to get valid staking address" ∨
        m = "Failed to register validator (may already be registered)" ∧
          ∃ k, w.newDestination = .ok (some k) ∧ (L.vdb.getValidator k).isSome) := by
  obtain ⟨x, hdef, hx⟩ := registervalidator_checks p c fmt g L pw fee_rate name
  rw [hdef] at h
  obtain ⟨w, rfl, hcase⟩ := walletCall_error_cases h
  refine ⟨w, rfl, ?_⟩
  rcases hcase with hw | ⟨call, res, failure, hw, hrefused, he⟩
  · rcases (hx w).1 m hw with hdb | hdest
    exacts [.inl hdb, .inr (.inl hdest)]
  obtain ⟨k, pk, n, hk, hf₁, hf₂, hn, hs, rfl, -, rfl⟩ := (hx w).2 call res failure hw
  cases he
  exact .inr (.inr ⟨rfl, k, hk, registerValidator_refused_registered hf₁ hf₂ hs hn hrefused⟩)

/-- The databases after validator `2` registered. -/
def registeredTwo : Ledger := ledgerAfter [.registerValidator (rpcEntry 2 0)]

/-- A wallet whose key pool hands out key `2` again. -/
theorem registervalidator_internal_error_sample :
    (registervalidator Params.sample Crypto.toy toString DbGlobals.loaded registeredTwo
        (some (Wallet.sample 2)) none none).1 =
      .error ⟨.RPC_INTERNAL_ERROR, "Failed to register validator (may already be registered)"⟩ ∧
    ∃ w, some (Wallet.sample 2) = some w ∧
      (DbGlobals.loaded.validatorDb = false ∧
          "Failed to register validator (may already be registered)" =
            "Validator database not initialized" ∨
        w.newDestination = .ok none ∧
          "Failed to register validator (may already be registered)" =
            "Failed to get valid staking address" ∨
        "Failed to register validator (may already be registered)" =
            "Failed to register validator (may already be registered)" ∧
          ∃ k, w.newDestination = .ok (some k) ∧ (registeredTwo.vdb.getValidator k).isSome) :=
  have h : (registervalidator Params.sample Crypto.toy toString DbGlobals.loaded registeredTwo
      (some (Wallet.sample 2)) none none).1 =
      .error ⟨.RPC_INTERNAL_ERROR, "Failed to register validator (may already be registered)"⟩ := by
    rfl
  ⟨h, registervalidator_internal_error h⟩

end

/-! ### `setvalidatorpoolfee` -/

/-- The result object of `setvalidatorpoolfee`. -/
structure FeeResult where
  validatorId : KeyID
  oldFeeRate : Int
  newFeeRate : Int

/-- The first address-book key the registry holds, with its fee. -/
def firstValidator (vdb : ValidatorDB) (book : List KeyID) : Option (KeyID × Int) :=
  book.findSome? fun keyId => (vdb.getValidator keyId).map fun v => (keyId, v.poolFeeRate)

/-- `setvalidatorpoolfee(fee_rate)`: a signed `UPDATE_FEE` for the wallet's first registered
key. -/
def setvalidatorpoolfee (pwallet : Option Wallet) (fee_rate : Int) :
    Except RPCError (Option FeeResult) × Ledger :=
  walletCall p c L pwallet fun w => do
    dbAndWalletReady g.validatorDb "Validator database not initialized" w
    throwIf (fee_rate < MIN_POOL_FEE ∨ fee_rate > MAX_POOL_FEE) .RPC_INVALID_PARAMETER feeRateRange
    let (validatorId, oldFeeRate) ← orThrow (firstValidator L.vdb w.addressBook) .RPC_WALLET_ERROR
      "No validator registration found for this wallet"
    let update : ValidatorUpdate := ⟨validatorId, .UPDATE_FEE, fee_rate, "", w.height, []⟩
    let key ← orThrow (w.keyOf validatorId) .RPC_WALLET_ERROR "Failed to get validator key for signing"
    let signature ← orThrow (c.sign key (update.getHash c)) .RPC_WALLET_ERROR "Failed to sign update"
    pure (.processUpdate { update with signature }, ⟨validatorId, oldFeeRate, fee_rate⟩,
      "Failed to process fee update")

section

variable {p c g L}

variable (p c g L) in
/-- The checks of `setvalidatorpoolfee`: past them the handler sends a signed `UPDATE_FEE` of
the wallet's first registered key. -/
lemma setvalidatorpoolfee_checks (pw : Option Wallet) (fee_rate : Int) :
    ∃ x, setvalidatorpoolfee p c g L pw fee_rate = walletCall p c L pw x ∧
      ∀ w call res failure, x w = .ok (call, res, failure) →
        ∃ validatorId oldFeeRate sig,
          g.validatorDb = true ∧ firstValidator L.vdb w.addressBook = some (validatorId, oldFeeRate) ∧
          MIN_POOL_FEE ≤ fee_rate ∧ fee_rate ≤ MAX_POOL_FEE ∧
          call = .processUpdate ⟨validatorId, .UPDATE_FEE, fee_rate, "", w.height, sig⟩ ∧
          res = ⟨validatorId, oldFeeRate, fee_rate⟩ ∧ failure = "Failed to process fee update" := by
  refine ⟨_, rfl, fun w call res failure hx => ?_⟩
  simp only [bind_eq_ok, throwIf_eq_ok, orThrow_eq_ok, dbAndWalletReady_eq_ok, except_pure,
    Except.ok.injEq, Prod.mk.injEq] at hx
  obtain ⟨_, ⟨hdb, -⟩, _, hfee, ⟨validatorId, oldFeeRate⟩, hfirst, _, -, sig, -, rfl, rfl, rfl⟩ := hx
  exact ⟨validatorId, oldFeeRate, sig, hdb, hfirst, by omega, by omega, rfl, rfl, rfl⟩

/-- `firstValidator` finds a registered key of the book, with its fee. -/
lemma firstValidator_spec {vdb : ValidatorDB} {book : List KeyID} {k : KeyID} {fee : Int}
    (h : firstValidator vdb book = some (k, fee)) :
    k ∈ book ∧ ∃ v, vdb.getValidator k = some v ∧ v.poolFeeRate = fee := by
  obtain ⟨k', hk', hf⟩ := List.exists_of_findSome?_eq_some h
  obtain ⟨v, hv, hkv⟩ := Option.map_eq_some'.mp hf
  cases hkv
  exact ⟨hk', v, hv, rfl⟩

/-- The spec of `setvalidatorpoolfee`: a call that returns an object found the validator
database set and the wallet's first registered key, reports the fee it had, and rewrites that
fee, and nothing else, in the registry. -/
lemma setvalidatorpoolfee_ok {w : Wallet} {fee_rate : Int} {res : FeeResult}
    (h : (setvalidatorpoolfee p c g L (some w) fee_rate).1 = .ok (some res)) :
    g.validatorDb = true ∧ firstValidator L.vdb w.addressBook = some (res.validatorId, res.oldFeeRate) ∧
      res.newFeeRate = fee_rate ∧ ∃ v, L.vdb.getValidator res.validatorId = some v ∧
        v.poolFeeRate = res.oldFeeRate ∧
        (setvalidatorpoolfee p c g L (some w) fee_rate).2 =
          ⟨L.vdb.setEntry res.validatorId { v with poolFeeRate := fee_rate }, L.ddb⟩ := by
  obtain ⟨x, hdef, hok⟩ := setvalidatorpoolfee_checks p c g L (some w) fee_rate
  rw [hdef] at h ⊢
  obtain ⟨call, failure, hx, hstep, hL⟩ := walletCall_ok h
  obtain ⟨V, old, sig, hdb, hfirst, hf₁, hf₂, rfl, rfl, -⟩ := hok w call res failure hx
  obtain ⟨-, v, hv, rfl⟩ := firstValidator_spec hfirst
  simp only [DbCall.exec] at hstep hL
  obtain ⟨e, e', he, -, happly, hpu⟩ := ValidatorDB.processUpdate_accepted hstep
  rw [ValidatorDB.getValidator, he] at hv
  cases hv
  simp only [ValidatorDB.applyUpdate, if_neg (show ¬(fee_rate < MIN_POOL_FEE ∨ fee_rate > MAX_POOL_FEE) by omega),
    Option.some.injEq] at happly
  subst happly
  exact ⟨hdb, hfirst, rfl, v, he, rfl, by rw [hL, hpu]⟩

end

/-! ### `delegatestake` -/

/-- The result object of `delegatestake`. -/
structure DelegateResult where
  delegationId : Digest
  delegatorId : KeyID
  validatorId : KeyID
  amount : Int
  validatorName : String
  validatorFee : Int

/-- `delegatestake(validatorId, amount)`: a signed request from a new key, with a null
outpoint. The reported id is `GetDelegationId` of an entry holding the request's delegator,
validator, amount and height, the three fields the id reads being those of `newEntry`. -/
def delegatestake (pwallet : Option Wallet) (validatorId : KeyID) (amount : Int) :
    Except RPCError (Option DelegateResult) × Ledger :=
  walletCall p c L pwallet fun w => do
    dbAndWalletReady (g.validatorDb && g.delegationDb) "Validator/delegation database not initialized" w
    let validator ← orThrow (L.vdb.getValidator validatorId) .RPC_INVALID_ADDRESS_OR_KEY
      "Validator not found"
    throwIf (validator.status ≠ .ACTIVE ∧ validator.status ≠ .PENDING) .RPC_INVALID_PARAMETER
      "Validator is not accepting delegations"
    throwIf (amount < MIN_DELEGATION_AMOUNT) .RPC_INVALID_PARAMETER
      ("Minimum delegation is " ++ fmt MIN_DELEGATION_AMOUNT ++ " WATTx")
    throwIf (w.trustedBalance < amount) .RPC_WALLET_INSUFFICIENT_FUNDS
      ("Insufficient funds. Have " ++ fmt w.trustedBalance ++ ", need " ++ fmt amount ++ " WATTx")
    let delegateDest ← w.newDestination.mapError (⟨.RPC_WALLET_KEYPOOL_RAN_OUT, ·⟩)
    let delegatorId ← orThrow delegateDest .RPC_INTERNAL_ERROR "Failed to get valid delegation address"
    let pubkey ← orThrow (w.pubKeyOf delegatorId) .RPC_WALLET_ERROR
      "Failed to get public key for delegation"
    let key ← orThrow (w.keyOf delegatorId) .RPC_WALLET_ERROR
      "Failed to get private key for signing delegation"
    let delegationReq : DelegationRequest := ⟨delegatorId, pubkey, validatorId, amount, w.height, []⟩
    let signature ← orThrow (c.sign key (delegationReq.getHash c)) .RPC_WALLET_ERROR
      "Failed to sign delegation request"
    pure (.processDelegation { delegationReq with signature } OutPoint.null,
      ⟨(DelegationDB.newEntry delegationReq OutPoint.null).getDelegationId c, delegatorId, validatorId, amount,
        validator.validatorName, validator.poolFeeRate⟩,
      "Failed to process delegation")

section

variable {p c fmt g L}

variable (p c fmt g L) in
/-- The checks of `delegatestake`: past them the handler sends a request of `amount` to the
validator found, at the wallet's height, and reports the id of the record that request
creates. -/
lemma delegatestake_checks (pw : Option Wallet) (validatorId : KeyID) (amount : Int) :
    ∃ x, delegatestake p c fmt g L pw validatorId amount = walletCall p c L pw x ∧
      ∀ w call res failure, x w = .ok (call, res, failure) →
        ∃ v r, L.vdb.getValidator validatorId = some v ∧ r.validatorId = validatorId ∧
          r.amount = amount ∧ r.height = w.height ∧ call = .processDelegation r OutPoint.null ∧
          res = ⟨(DelegationDB.newEntry r OutPoint.null).getDelegationId c, r.delegatorId, validatorId,
            amount, v.validatorName, v.poolFeeRate⟩ ∧ failure = "Failed to process delegation" := by
  refine ⟨_, rfl, fun w call res failure hx => ?_⟩
  simp only [bind_eq_ok, throwIf_eq_ok, orThrow_eq_ok, mapError_eq_ok, dbAndWalletReady_eq_ok,
    except_pure, Except.ok.injEq, Prod.mk.injEq] at hx
  obtain ⟨_, -, v, hv, -, -, -, -, -, -, _, -, k, -, pk, -, -, -, sig, -, rfl, rfl, rfl⟩ := hx
  exact ⟨v, _, hv, rfl, rfl, rfl, rfl, rfl, rfl⟩

/-- A delegation to a validator that is not `ACTIVE` is refused. -/
lemma processDelegation_refused {r : DelegationRequest} {o : OutPoint} {v : ValidatorEntry}
    (hv : L.vdb.getValidator r.validatorId = some v) (hs : v.status ≠ .ACTIVE) :
    (DbCall.exec p c L (.processDelegation r o)).1 = false := by
  rcases DelegationDB.processDelegation_cases c L.vdb L.ddb r o with hpd | ⟨-, -, ⟨v', hv', ha⟩, -, -⟩
  · simp [DbCall.exec, hpd]
  · rw [ValidatorDB.getValidator, hv'] at hv
    cases hv
    exact absurd ha hs

/-- With a wallet, a handler returns an object or throws, never null. -/
lemma walletCall_ne_null {α : Type} {w : Wallet} {x : Wallet → Except RPCError (DbCall × α × String)} :
    (walletCall p c L (some w) x).1 ≠ .ok none := by
  simp only [walletCall, withWallet]
  cases (callOnce p c L (x w)).1 <;> simp [Except.map]

/-- **The id `delegatestake` reports names the record it created**: a call that returns an
object went to an `ACTIVE` validator, and the reported id was free before the call and holds
after it the new key's `PENDING` record of the amount, whose fields the result reports. -/
theorem delegatestake_ok {w : Wallet} {V : KeyID} {amount : Int} {res : DelegateResult}
    (h : (delegatestake p c fmt g L (some w) V amount).1 = .ok (some res)) :
    ∃ v r, L.vdb.getValidator V = some v ∧ v.status = .ACTIVE ∧
      r.delegatorId = res.delegatorId ∧ r.validatorId = V ∧ r.amount = amount ∧ r.height = w.height ∧
      res.validatorId = V ∧ res.amount = amount ∧ res.validatorName = v.validatorName ∧
      res.validatorFee = v.poolFeeRate ∧ L.ddb.delegations.find? res.delegationId = none ∧
      (delegatestake p c fmt g L (some w) V amount).2.ddb.delegations.find? res.delegationId =
        some (DelegationDB.newEntry r OutPoint.null) := by
  obtain ⟨x, hdef, hok⟩ := delegatestake_checks p c fmt g L (some w) V amount
  rw [hdef] at h ⊢
  obtain ⟨call, failure, hx, hstep, hL⟩ := walletCall_ok h
  obtain ⟨v, r, hv, rfl, rfl, hh, rfl, rfl, -⟩ := hok w call res failure hx
  simp only [DbCall.exec] at hstep hL
  rcases DelegationDB.processDelegation_cases c L.vdb L.ddb r OutPoint.null with
    hpd | ⟨-, -, ⟨v', hv', hactive⟩, hid, hpd⟩
  · rw [hpd] at hstep; cases hstep
  rw [ValidatorDB.getValidator, hv'] at hv
  cases hv
  refine ⟨v, r, hv', hactive, rfl, rfl, rfl, hh, rfl, rfl, rfl, rfl, hid, ?_⟩
  rw [hL, hpd]
  exact StdMap.find?_insert _ _ _

/-- **A delegation to a `PENDING` validator always fails**: the RPC's own status check lets
`PENDING` validators through, but `ProcessDelegation` refuses them, so the call never returns
an object and leaves the databases as they were; with both databases set, an unlocked wallet
with the funds and the keys gets the generic "Failed to process delegation". -/
theorem delegatestake_pending {w : Wallet} {V : KeyID} {v : ValidatorEntry} {amount : Int}
    (hv : L.vdb.getValidator V = some v) (hp : v.status = .PENDING) :
    (∀ res, (delegatestake p c fmt g L (some w) V amount).1 ≠ .ok (some res)) ∧
      (delegatestake p c fmt g L (some w) V amount).2 = L ∧
      (g.validatorDb = true → g.delegationDb = true → w.locked = false →
        MIN_DELEGATION_AMOUNT ≤ amount → amount ≤ w.trustedBalance → ∀ k pk key,
        w.newDestination = .ok (some k) → w.pubKeyOf k = some pk → w.keyOf k = some key →
        (∀ d, (c.sign key d).isSome) →
        (delegatestake p c fmt g L (some w) V amount).1 =
          .error ⟨.RPC_INTERNAL_ERROR, "Failed to process delegation"⟩) := by
  obtain ⟨x, hdef, hok⟩ := delegatestake_checks p c fmt g L (some w) V amount
  have never : ∀ res, (walletCall p c L (some w) x).1 ≠ .ok (some res) := fun res h => by
    obtain ⟨call, failure, hx, hstep, -⟩ := walletCall_ok h
    obtain ⟨v', r, hv', rfl, -, -, rfl, -, -⟩ := hok w call res failure hx
    rw [hv] at hv'
    cases hv'
    rw [processDelegation_refused hv (by rw [hp]; decide)] at hstep
    cases hstep
  rw [hdef]
  refine ⟨never, ?_, fun hdb₁ hdb₂ hun hmin hbal k pk key hk hpk hkey hsig => ?_⟩
  · cases hres : (walletCall p c L (some w) x).1 with
    | error e => exact walletCall_error hres
    | ok res =>
        obtain _ | res := res
        · exact absurd hres walletCall_ne_null
        · exact absurd hres (never res)
  · obtain ⟨sig, hs⟩ := Option.isSome_iff_exists.mp
      (hsig (DelegationRequest.getHash c ⟨k, pk, V, amount, w.height, []⟩))
    rw [← hdef]
    simp only [delegatestake, walletCall, withWallet, callOnce, dbAndWalletReady,
      ensureWalletIsUnlocked, hdb₁, hdb₂, hun, orThrow, hv, except_pure, throwIf, ne_eq,
      not_lt.mpr hmin, ↓reduceIte, not_lt.mpr hbal, Except.mapError, hk, ok_bind, hpk, hkey, hs, hp,
      reduceCtorEq, not_false_eq_true, not_true_eq_false, and_false, Bool.and_self, ite_eq_right_iff,
      imp_false]
    rw [processDelegation_refused hv (by rw [hp]; decide)]
    rfl

/-- The databases with validator `1` registered. -/
def pendingOne : Ledger := ledgerAfter [.registerValidator (rpcEntry 1 0)]

/-- The databases with validator `1` registered and activated. -/
def activeOne : Ledger := ledgerAfter [.registerValidator (rpcEntry 1 0), .setValidatorStatus 1 .ACTIVE]

/-- Key `2` delegates the minimum to the active validator `1`. -/
theorem delegatestake_ok_sample :
    ∃ res, (delegatestake Params.sample Crypto.toy toString DbGlobals.loaded activeOne
        (some (Wallet.sample 2)) 1 MIN_DELEGATION_AMOUNT).1 = .ok (some res) ∧
      ∃ v r, activeOne.vdb.getValidator 1 = some v ∧ v.status = .ACTIVE ∧
        r.delegatorId = res.delegatorId ∧ r.validatorId = 1 ∧ r.amount = MIN_DELEGATION_AMOUNT ∧
        r.height = (Wallet.sample 2).height ∧ res.validatorId = 1 ∧
        res.amount = MIN_DELEGATION_AMOUNT ∧ res.validatorName = v.validatorName ∧
        res.validatorFee = v.poolFeeRate ∧ activeOne.ddb.delegations.find? res.delegationId = none ∧
        (delegatestake Params.sample Crypto.toy toString DbGlobals.loaded activeOne
          (some (Wallet.sample 2)) 1 MIN_DELEGATION_AMOUNT).2.ddb.delegations.find? res.delegationId =
          some (DelegationDB.newEntry r OutPoint.null) :=
  have h : (delegatestake Params.sample Crypto.toy toString DbGlobals.loaded activeOne
      (some (Wallet.sample 2)) 1 MIN_DELEGATION_AMOUNT).1 =
      .ok (some ⟨7000065000202000710, 2, 1, MIN_DELEGATION_AMOUNT, "", DEFAULT_POOL_FEE⟩) := by rfl
  ⟨_, h, delegatestake_ok h⟩

/-- Key `2` delegates the minimum to validator `1` while it is `PENDING`. -/
theorem delegatestake_pending_sample :
    pendingOne.vdb.getValidator 1 = some (rpcEntry 1 0) ∧ (rpcEntry 1 0).status = .PENDING ∧
      ((∀ res, (delegatestake Params.sample Crypto.toy toString DbGlobals.loaded pendingOne
          (some (Wallet.sample 2)) 1 MIN_DELEGATION_AMOUNT).1 ≠ .ok (some res)) ∧
        (delegatestake Params.sample Crypto.toy toString DbGlobals.loaded pendingOne
          (some (Wallet.sample 2)) 1 MIN_DELEGATION_AMOUNT).2 = pendingOne ∧
        (DbGlobals.loaded.validatorDb = true → DbGlobals.loaded.delegationDb = true →
          (Wallet.sample 2).locked = false → MIN_DELEGATION_AMOUNT ≤ MIN_DELEGATION_AMOUNT →
          MIN_DELEGATION_AMOUNT ≤ (Wallet.sample 2).trustedBalance → ∀ k pk key,
          (Wallet.sample 2).newDestination = .ok (some k) → (Wallet.sample 2).pubKeyOf k = some pk →
          (Wallet.sample 2).keyOf k = some key → (∀ d, (Crypto.toy.sign key d).isSome) →
          (delegatestake Params.sample Crypto.toy toString DbGlobals.loaded pendingOne
            (some (Wallet.sample 2)) 1 MIN_DELEGATION_AMOUNT).1 =
            .error ⟨.RPC_INTERNAL_ERROR, "Failed to process delegation"⟩)) :=
  have hv : pendingOne.vdb.getValidator 1 = some (rpcEntry 1 0) := by rfl
  ⟨hv, rfl, delegatestake_pending hv rfl⟩

end

/-! ### `undelegatestake` -/

/-- The result object of `undelegatestake`. -/
structure UndelegateResult where
  validatorId : KeyID
  undelegatedAmount : Int
  unbondingBlocks : Int32

/-- The first address-book key with an active delegation to `validatorId`, and the amount of
its first such delegation, in `GetDelegationsForDelegator` order. -/
def firstDelegation (ddb : DelegationDB) (validatorId : KeyID) (book : List KeyID) :
    Option (KeyID × Int) :=
  book.findSome? fun keyId =>
    ((ddb.getDelegationsForDelegator keyId).find? fun d => d.validatorId == validatorId && d.isActive).map
      fun d => (keyId, d.amount)

/-- `undelegatestake(validatorId, amount)`; an absent or zero amount becomes the amount of the
delegation found. -/
def undelegatestake (pwallet : Option Wallet) (validatorId : KeyID) (amount : Option Int) :
    Except RPCError (Option UndelegateResult) × Ledger :=
  walletCall p c L pwallet fun w => do
    dbAndWalletReady g.delegationDb "Delegation database not initialized" w
    let amount := amount.getD 0
    let (delegatorId, delegatedAmount) ← orThrow (firstDelegation L.ddb validatorId w.addressBook)
      .RPC_WALLET_ERROR "No active delegation found to this validator"
    let undelegateAmount := if amount = 0 then delegatedAmount else amount
    throwIf (undelegateAmount > delegatedAmount) .RPC_INVALID_PARAMETER
      ("Cannot undelegate more than delegated (" ++ fmt delegatedAmount ++ " WATTx)")
    let undelegateReq : UndelegationRequest := ⟨delegatorId, validatorId, undelegateAmount, w.height, []⟩
    let key ← orThrow (w.keyOf delegatorId) .RPC_WALLET_ERROR "Failed to get delegation key"
    let signature ← orThrow (c.sign key (undelegateReq.getHash c)) .RPC_WALLET_ERROR
      "Failed to sign undelegation request"
    pure (.processUndelegation { undelegateReq with signature },
      ⟨validatorId, undelegateAmount, DELEGATION_UNBONDING_PERIOD⟩, "Failed to process undelegation")

section

variable {p c fmt g L}

variable (p c fmt g L) in
/-- The checks of `undelegatestake`: past them the handler sends, for the first key with an
active delegation to the validator, a request of the amount asked for, or of the first such
delegation's amount when none or zero was asked for. -/
lemma undelegatestake_checks (pw : Option Wallet) (validatorId : KeyID) (amount : Option Int) :
    ∃ x, undelegatestake p c fmt g L pw validatorId amount = walletCall p c L pw x ∧
      ∀ w call res failure, x w = .ok (call, res, failure) →
        ∃ delegatorId delegatedAmount sig,
          firstDelegation L.ddb validatorId w.addressBook = some (delegatorId, delegatedAmount) ∧
          (if amount.getD 0 = 0 then delegatedAmount else amount.getD 0) ≤ delegatedAmount ∧
          call = .processUndelegation ⟨delegatorId, validatorId,
            if amount.getD 0 = 0 then delegatedAmount else amount.getD 0, w.height, sig⟩ ∧
          res = ⟨validatorId, if amount.getD 0 = 0 then delegatedAmount else amount.getD 0,
            DELEGATION_UNBONDING_PERIOD⟩ ∧ failure = "Failed to process undelegation" := by
  refine ⟨_, rfl, fun w call res failure hx => ?_⟩
  simp only [bind_eq_ok, throwIf_eq_ok, orThrow_eq_ok, dbAndWalletReady_eq_ok, except_pure,
    Except.ok.injEq, Prod.mk.injEq] at hx
  obtain ⟨_, -, ⟨k, a⟩, hfirst, _, hle, _, -, sig, -, rfl, rfl, rfl⟩ := hx
  exact ⟨k, a, sig, hfirst, not_lt.mp hle, rfl, rfl, rfl⟩

namespace DelegationDB

/-- A budget equal to the amount of the record it meets is used up by that record. -/
lemma undelegationShare_self (a : Int) : undelegationShare a a a = (a, 0) := by
  unfold undelegationShare; split_ifs <;> simp_all

/-- **The undelegation loop with the budget of the first record it can move** moves that
record and stops. -/
lemma undelegateLoop_first (r : UndelegationRequest) (height : Int32) {id : Digest}
    {e : DelegationEntry} {rest : List (Digest × DelegationEntry)} (hr : r.amount = e.amount) :
    ∀ (ids : List Digest) (any : Bool) ds vdb, activeTo ds r.validatorId ids = (id, e) :: rest →
      undelegateLoop r height ids r.amount any ds vdb =
        (true, ds.insert id { e with status := .UNBONDING, unbondingStartHeight := height },
          (vdb.removeDelegation r.validatorId e.amount).2)
  | [], _, _, _, h => by simp [activeTo] at h
  | id' :: ids, any, ds, vdb, h => by
      rw [activeTo_cons] at h
      unfold undelegateLoop
      cases hf : ds.find? id' with
      | none =>
          simp only [hf] at h
          exact undelegateLoop_first r height hr ids any ds vdb h
      | some e' =>
          simp only [hf] at h
          dsimp only
          by_cases hm : e'.validatorId = r.validatorId ∧ e'.status = .ACTIVE
          · rw [if_pos hm] at h
            obtain ⟨rfl, rfl⟩ := Prod.mk.inj (List.cons.inj h).1
            rw [if_neg (by simpa using hm), hr, undelegationShare_self, if_pos rfl]
          · rw [if_neg hm] at h
            rw [if_pos (not_and_or.mp hm)]
            exact undelegateLoop_first r height hr ids any ds vdb h

/-- **An undelegation asking for exactly its first movable record** moves that record, and
only it, and releases its amount. -/
lemma processUndelegation_first (vdb : ValidatorDB) (db : DelegationDB) (r : UndelegationRequest)
    {id : Digest} {e : DelegationEntry} {rest : List (Digest × DelegationEntry)}
    (h : undelegable db r = (id, e) :: rest) (hr : r.amount = e.amount) :
    processUndelegation vdb db r =
      (true, { db with delegations := (db.delegations.insert id
          { e with status := .UNBONDING, unbondingStartHeight := db.currentHeight }) },
        (vdb.removeDelegation r.validatorId e.amount).2) := by
  unfold processUndelegation
  unfold undelegable idsAt at h
  cases hids : db.delegatorIndex.find? r.delegatorId with
  | none => simp [hids, activeTo] at h
  | some ids =>
      rw [hids, Option.getD_some] at h
      simp only
      rw [undelegateLoop_first r _ hr ids false _ vdb h]

end DelegationDB

open DelegationDB

/-- What `undelegatestake` looks for is the head of what the undelegation can move. -/
lemma activeTo_of_find? {db : DelegationDB} {V : KeyID} {d : DelegationEntry} :
    ∀ ids, (db.recordsOf ids).find? (fun d => d.validatorId == V && d.isActive) = some d →
      ∃ id rest, activeTo db.delegations V ids = (id, d) :: rest
  | [], h => by simp [recordsOf] at h
  | id :: ids, h => by
      cases hf : db.delegations.find? id with
      | none =>
          simp only [recordsOf, List.filterMap_cons, hf] at h
          simp only [activeTo_cons, hf]
          exact activeTo_of_find? ids h
      | some e =>
          simp only [recordsOf, List.filterMap_cons, hf] at h
          simp only [activeTo_cons, hf]
          by_cases hm : e.validatorId = V ∧ e.status = .ACTIVE
          · rw [List.find?_cons_of_pos _ (by simp [hm.1, hm.2, DelegationEntry.isActive]),
              Option.some.injEq] at h
            rw [if_pos hm, h]
            exact ⟨id, _, rfl⟩
          · rw [List.find?_cons_of_neg _ (by simpa [DelegationEntry.isActive] using hm)] at h
            rw [if_neg hm]
            exact activeTo_of_find? ids h

/-- The delegation `undelegatestake` finds is the first record an undelegation of that key
from that validator can move. -/
lemma firstDelegation_head {ddb : DelegationDB} {V k : KeyID} {book : List KeyID} {a : Int}
    (h : firstDelegation ddb V book = some (k, a)) :
    ∃ id e rest, activeTo ddb.delegations V (idsAt ddb.delegatorIndex k) = (id, e) :: rest ∧
      e.amount = a := by
  obtain ⟨k', -, hf⟩ := List.exists_of_findSome?_eq_some h
  obtain ⟨d, hd, hkd⟩ := Option.map_eq_some'.mp hf
  cases hkd
  obtain ⟨id, rest, hrest⟩ := activeTo_of_find? _ hd
  exact ⟨id, d, rest, hrest, rfl⟩

/-- **Asking `undelegatestake` for everything moves one delegation**: with no amount or `0`
("0 = all"), a call that returns an object moves to `UNBONDING` the first active delegation of
the first key holding one, and nothing else, even when that key holds more active delegations
to the validator, and releases only that delegation's amount from the registry. -/
theorem undelegatestake_all {w : Wallet} {V : KeyID} {amount : Option Int} (hall : amount.getD 0 = 0)
    {res : UndelegateResult} (h : (undelegatestake p c fmt g L (some w) V amount).1 = .ok (some res)) :
    ∃ k id e rest, firstDelegation L.ddb V w.addressBook = some (k, e.amount) ∧
      activeTo L.ddb.delegations V (idsAt L.ddb.delegatorIndex k) = (id, e) :: rest ∧
      res.undelegatedAmount = e.amount ∧
      (undelegatestake p c fmt g L (some w) V amount).2 =
        ⟨(L.vdb.removeDelegation V e.amount).2, { L.ddb with delegations := (L.ddb.delegations.insert id
          { e with status := .UNBONDING, unbondingStartHeight := L.ddb.currentHeight }) }⟩ := by
  obtain ⟨x, hdef, hok⟩ := undelegatestake_checks p c fmt g L (some w) V amount
  rw [hdef] at h ⊢
  obtain ⟨call, failure, hx, -, hL⟩ := walletCall_ok h
  obtain ⟨k, a, sig, hfirst, -, rfl, rfl, -⟩ := hok w call res failure hx
  obtain ⟨id, e, rest, hto, rfl⟩ := firstDelegation_head hfirst
  refine ⟨k, id, e, rest, hfirst, hto, if_pos hall, ?_⟩
  rw [hL]
  simp only [DbCall.exec, if_pos hall]
  rw [processUndelegation_first L.vdb L.ddb ⟨k, V, e.amount, w.height, sig⟩ hto rfl]

/-- Key `2` undelegates everything from validator `1`, where it holds one mature delegation. -/
theorem undelegatestake_all_sample :
    (none : Option Int).getD 0 = 0 ∧
      ∃ res, (undelegatestake Params.sample Crypto.toy toString DbGlobals.loaded matured
          (some (Wallet.sample 2)) 1 none).1 = .ok (some res) ∧
        ∃ k id e rest, firstDelegation matured.ddb 1 (Wallet.sample 2).addressBook = some (k, e.amount) ∧
          activeTo matured.ddb.delegations 1 (idsAt matured.ddb.delegatorIndex k) = (id, e) :: rest ∧
          res.undelegatedAmount = e.amount ∧
          (undelegatestake Params.sample Crypto.toy toString DbGlobals.loaded matured
              (some (Wallet.sample 2)) 1 none).2 =
            ⟨(matured.vdb.removeDelegation 1 e.amount).2,
              { matured.ddb with delegations := (matured.ddb.delegations.insert id
                { e with status := .UNBONDING, unbondingStartHeight := matured.ddb.currentHeight }) }⟩ :=
  have h : (undelegatestake Params.sample Crypto.toy toString DbGlobals.loaded matured
      (some (Wallet.sample 2)) 1 none).1 =
      .ok (some ⟨1, MIN_DELEGATION_AMOUNT, DELEGATION_UNBONDING_PERIOD⟩) := by rfl
  ⟨rfl, _, h, undelegatestake_all (show (none : Option Int).getD 0 = 0 from rfl) h⟩

end

/-! ### `claimrewards` -/

/-- The result object of `claimrewards`. -/
structure ClaimResult where
  claimed : Int
  delegationsCount : Nat

/-- A claim made by the inner loop: `ProcessRewardClaim`'s answer is added to the total, and
counted, when it is positive. -/
def claimStep (acc : Int × Nat × Ledger) (claimReq : RewardClaimRequest) : Int × Nat × Ledger :=
  let (totalClaimed, claimedCount, L) := acc
  let r := L.ddb.processRewardClaim claimReq
  if r.1 > 0 then (totalClaimed + r.1, claimedCount + 1, { L with ddb := r.2 })
  else (totalClaimed, claimedCount, { L with ddb := r.2 })

/-- The body of the inner loop of `claimrewards` on one delegation of key `keyId`: an active
delegation with pending rewards, to the requested validator (any when the id is null), makes
the key claim from its validator; a key the wallet cannot sign with is skipped. -/
def claimOne (w : Wallet) (specificValidatorId keyId : KeyID) (acc : Int × Nat × Ledger)
    (d : DelegationEntry) : Int × Nat × Ledger :=
  if !d.isActive || d.pendingRewards == 0 then acc
  else if specificValidatorId ≠ 0 ∧ d.validatorId ≠ specificValidatorId then acc
  else
    let claimReq : RewardClaimRequest := ⟨keyId, d.validatorId, w.height, []⟩
    match (w.keyOf keyId).bind fun key => c.sign key (claimReq.getHash c) with
    | none => acc
    | some signature => claimStep acc { claimReq with signature }

/-- One pass of the outer loop: the key's delegations are copied when the loop reaches it, and
the inner loop runs over the copy. -/
def claimKey (w : Wallet) (specificValidatorId : KeyID) (acc : Int × Nat × Ledger) (keyId : KeyID) :
    Int × Nat × Ledger :=
  (acc.2.2.ddb.getDelegationsForDelegator keyId).foldl (claimOne c w specificValidatorId keyId) acc

/-- `claimrewards(validatorId)`; an absent id claims from every validator. It throws only at
the checks it makes first. -/
def claimrewards (pwallet : Option Wallet) (validatorId : Option KeyID) :
    Except RPCError (Option ClaimResult) × Ledger :=
  withWallet L pwallet fun w =>
    match dbAndWalletReady g.delegationDb "Delegation database not initialized" w with
    | .error e => (.error e, L)
    | .ok () =>
        let r := w.addressBook.foldl (claimKey c w (validatorId.getD 0)) (0, 0, L)
        (.ok ⟨r.1, r.2.1⟩, r.2.2)

end WattxCore
