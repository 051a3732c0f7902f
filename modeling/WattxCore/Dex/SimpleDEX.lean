import WattxCore.Dex.Pool

/-!
`SimpleDEX` (`contracts/dex/SimpleDEX.sol`): a constant-product pool of two tokens with a 0.3%
fee. Its storage is one `Pool`; the owner the constructor records is read by no function.

* `constructor`, `addLiquidity`, `removeLiquidity`, `swap`, `getAmountOut`: the contract's
  functions, each reverting with the reason of the `require` that fails;
* `Reachable`: the states a deployment reaches by calls from any accounts but `address(0)`, each
  call with its own answers of the tokens;
* `books_of_reachable`: **every reachable state keeps the LP books**; so once a deposit was made,
  `Σ liquidity = totalLiquidity + MIN_LIQUIDITY` (`lpSum_of_reachable`);
* `addLiquidity_first`, `removeLiquidity_whole`: the first provider holds the whole LP total, and
  whoever holds it can withdraw the whole reserves.
-/

namespace WattxCore

namespace SimpleDEX

/-- `FEE_BPS`: the 0.3% fee. -/
def FEE_BPS : Nat := 30

/-- `BPS`. -/
def BPS : Nat := 10000

/-- `MIN_LIQUIDITY`. -/
def MIN_LIQUIDITY : Nat := 1000

/-- `constructor(_token0, _token1)`: the tokens, distinct and not `address(0)`, in address order. -/
def constructor (_token0 _token1 : Address) : Except Revert Pool := do
  require (_token0 ≠ _token1) "IDENTICAL"
  require (_token0 ≠ 0 ∧ _token1 ≠ 0) "ZERO"
  pure (if _token0 < _token1 then Pool.empty _token0 _token1 else Pool.empty _token1 _token0)

section Calls

variable (tok : Erc20) (dex : Pool) (sender : Address)

/-- `addLiquidity(amount0, amount1)`, returning the LP minted. -/
def addLiquidity (amount0 amount1 : Nat) : Except Revert (Nat × Pool) := do
  require (amount0 > 0 ∧ amount1 > 0) "ZERO_AMOUNT"
  require (tok.transferFrom dex.token0 sender amount0) "TF0"
  require (tok.transferFrom dex.token1 sender amount1) "TF1"
  dex.mint MIN_LIQUIDITY "LP_ZERO" sender amount0 amount1

/-- `removeLiquidity(lpAmount)`, returning the amounts paid out. -/
def removeLiquidity (lpAmount : Nat) : Except Revert ((Nat × Nat) × Pool) := do
  require (lpAmount > 0 ∧ lpOf dex.liquidity sender ≥ lpAmount) "INSUFF_LP"
  let (amount0, amount1) ← dex.burnAmounts lpAmount
  let dex' ← dex.burn sender lpAmount amount0 amount1
  require (tok.transfer dex.token0 sender amount0) "T0"
  require (tok.transfer dex.token1 sender amount1) "T1"
  pure ((amount0, amount1), dex')

/-- `swap(tokenIn, amountIn, minOut)`, returning the amount paid out. -/
def swap (tokenIn amountIn minOut : Nat) : Except Revert (Nat × Pool) := do
  require (tokenIn = dex.token0 ∨ tokenIn = dex.token1) "INVALID_TOKEN"
  require (amountIn > 0) "ZERO_IN"
  let isToken0 := tokenIn == dex.token0
  let resIn := if isToken0 then dex.reserve0 else dex.reserve1
  let resOut := if isToken0 then dex.reserve1 else dex.reserve0
  let tokenOut := if isToken0 then dex.token1 else dex.token0
  let amountOut ← Pool.quoteOut BPS FEE_BPS amountIn resIn resOut
  require (amountOut ≥ minOut) "SLIPPAGE"
  require (tok.transferFrom tokenIn sender amountIn) "TIN"
  require (tok.transfer tokenOut sender amountOut) "TOUT"
  let dex' ← dex.settleSwap isToken0 amountIn amountOut
  pure (amountOut, dex')

/-- `getAmountOut(amountIn, resIn, resOut)`: the quote of `swap`, for positive amounts. -/
def getAmountOut (amountIn resIn resOut : Nat) : Except Revert Nat := do
  require (amountIn > 0 ∧ resIn > 0 ∧ resOut > 0) "ZERO"
  Pool.quoteOut BPS FEE_BPS amountIn resIn resOut

end Calls

/-- A call of the contract, by `sender`. -/
inductive Op
  | addLiquidity (sender amount0 amount1 : Nat)
  | removeLiquidity (sender lpAmount : Nat)
  | swap (sender tokenIn amountIn minOut : Nat)
  deriving DecidableEq, Repr

/-- The caller, `msg.sender`. -/
def Op.sender : Op → Address
  | .addLiquidity s .. | .removeLiquidity s .. | .swap s .. => s

/-- The storage a call that returns leaves. -/
def step (tok : Erc20) (dex : Pool) : Op → Except Revert Pool
  | .addLiquidity s amount0 amount1 => Prod.snd <$> addLiquidity tok dex s amount0 amount1
  | .removeLiquidity s lpAmount => Prod.snd <$> removeLiquidity tok dex s lpAmount
  | .swap s tokenIn amountIn minOut => Prod.snd <$> swap tok dex s tokenIn amountIn minOut

/-- The states of a deployed `SimpleDEX`: the constructor's, and those that returning calls lead
to. No call comes from `address(0)`, and each call meets its own answers of the tokens. -/
inductive Reachable : Pool → Prop
  | deploy {t0 t1 : Address} {dex : Pool} (h : constructor t0 t1 = .ok dex) : Reachable dex
  | call {dex dex' : Pool} (tok : Erc20) (op : Op) (hr : Reachable dex) (hs : op.sender ≠ 0)
      (h : step tok dex op = .ok dex') : Reachable dex'

/-- A deployment followed by calls that all return, with the same answers of the tokens. -/
def run (tok : Erc20) (_token0 _token1 : Address) (ops : List Op) : Except Revert Pool :=
  constructor _token0 _token1 >>= fun dex => ops.foldlM (step tok) dex

/-! ### The books over every run -/

variable {tok dex sender} {dex' : Pool}

lemma constructor_ok {t0 t1 : Address} (h : constructor t0 t1 = .ok dex) :
    ∃ a b, dex = Pool.empty a b := by
  simp only [constructor, bind_eq_ok, require_eq_ok, except_pure, Except.ok.injEq] at h
  obtain ⟨_, -, _, -, rfl⟩ := h
  split_ifs <;> exact ⟨_, _, rfl⟩

lemma addLiquidity_ok {amount0 amount1 lp : Nat}
    (h : addLiquidity tok dex sender amount0 amount1 = .ok (lp, dex')) :
    dex.mint MIN_LIQUIDITY "LP_ZERO" sender amount0 amount1 = .ok (lp, dex') := by
  simp only [addLiquidity, bind_eq_ok, require_eq_ok] at h
  obtain ⟨_, -, _, -, _, -, h⟩ := h
  exact h

lemma removeLiquidity_ok {lpAmount : Nat} {amounts : Nat × Nat}
    (h : removeLiquidity tok dex sender lpAmount = .ok (amounts, dex')) :
    dex.burn sender lpAmount amounts.1 amounts.2 = .ok dex' := by
  simp only [removeLiquidity, bind_eq_ok, require_eq_ok] at h
  obtain ⟨_, -, ⟨a0, a1⟩, -, h⟩ := h
  simp only [bind_eq_ok, require_eq_ok, except_pure, Except.ok.injEq, Prod.mk.injEq] at h
  obtain ⟨_, hb, _, -, _, -, rfl, rfl⟩ := h
  exact hb

lemma swap_ok {tokenIn amountIn minOut amountOut : Nat}
    (h : swap tok dex sender tokenIn amountIn minOut = .ok (amountOut, dex')) :
    ∃ isToken0 amountOut, dex.settleSwap isToken0 amountIn amountOut = .ok dex' := by
  simp only [swap, bind_eq_ok, require_eq_ok, except_pure, Except.ok.injEq, Prod.mk.injEq] at h
  obtain ⟨_, -, _, -, _, -, _, -, _, -, _, -, _, hs, -, rfl⟩ := h
  exact ⟨_, _, hs⟩

/-- **One call keeps the books.** -/
lemma step_books {op : Op} (hB : dex.LpBooks MIN_LIQUIDITY) (hs : op.sender ≠ 0)
    (h : step tok dex op = .ok dex') : dex'.LpBooks MIN_LIQUIDITY := by
  cases op <;> obtain ⟨⟨_, _⟩, hcall, rfl⟩ := map_eq_ok.mp h
  case addLiquidity => exact hB.mint hs (addLiquidity_ok hcall)
  case removeLiquidity => exact hB.burn hs (removeLiquidity_ok hcall)
  case swap =>
    obtain ⟨_, _, hsettle⟩ := swap_ok hcall
    exact hB.settleSwap hsettle

/-- **Every reachable state keeps the LP books.** -/
lemma books_of_reachable (h : Reachable dex) : dex.LpBooks MIN_LIQUIDITY := by
  induction h with
  | deploy h =>
    obtain ⟨a, b, rfl⟩ := constructor_ok h
    exact Pool.LpBooks.empty _ a b
  | call tok op _ hs h ih => exact step_books ih hs h

lemma foldlM_reachable {ops : List Op} (hs : ∀ op ∈ ops, op.sender ≠ 0) :
    ∀ {dex₀}, Reachable dex₀ → ops.foldlM (step tok) dex₀ = .ok dex → Reachable dex := by
  induction ops with
  | nil => intro dex₀ hr h; cases h; exact hr
  | cons op ops ih =>
    intro dex₀ hr h
    obtain ⟨dex₁, h₁, h⟩ := bind_eq_ok.mp h
    exact ih (fun o ho => hs o (List.mem_cons_of_mem _ ho)) (.call tok op hr (hs op (List.mem_cons_self _ _)) h₁) h

/-- A run whose calls come from accounts other than `address(0)` ends in a reachable state. -/
lemma run_reachable {t0 t1 : Address} {ops : List Op} (hs : ∀ op ∈ ops, op.sender ≠ 0)
    (h : run tok t0 t1 ops = .ok dex) : Reachable dex := by
  obtain ⟨dex₀, hd, h⟩ := bind_eq_ok.mp h
  exact foldlM_reachable hs (.deploy hd) h

/-- Once a deposit was made, the LP balances sum to the LP total plus `MIN_LIQUIDITY`. -/
lemma lpSum_of_reachable (h : Reachable dex) (ht : 0 < dex.totalLiquidity) :
    lpSum dex.liquidity = dex.totalLiquidity + MIN_LIQUIDITY :=
  (books_of_reachable h).lpSum_eq ht

/-! ### The first provider -/

/-- **The first provider holds the whole LP total**: `address(0)`'s `MIN_LIQUIDITY` is not part
of it. -/
lemma addLiquidity_first {t0 t1 : Address} (hd : constructor t0 t1 = .ok dex) (hs : sender ≠ 0)
    {amount0 amount1 lp : Nat} (h : addLiquidity tok dex sender amount0 amount1 = .ok (lp, dex')) :
    lpOf dex'.liquidity sender = dex'.totalLiquidity := by
  obtain ⟨a, b, rfl⟩ := constructor_ok hd
  obtain ⟨liq, hshares, -, hc⟩ := Pool.mint_ok (addLiquidity_ok h)
  obtain ⟨hliq, htot, -, -⟩ := Pool.credit_eq hc
  rcases Pool.mintShares_cases hshares with ⟨-, rfl⟩ | ⟨h0, -⟩
  · simp [hliq, htot, hs, Ne.symm hs, Pool.empty]
  · exact absurd rfl h0

/-- **Whoever holds the whole LP total withdraws the whole reserves**, when the tokens pay out
and the products `totalLiquidity * reserve` fit in a `uint256`. -/
lemma removeLiquidity_whole (hs : lpOf dex.liquidity sender = dex.totalLiquidity)
    (ht : 0 < dex.totalLiquidity) (h0 : dex.totalLiquidity * dex.reserve0 ≤ UINT256_MAX)
    (h1 : dex.totalLiquidity * dex.reserve1 ≤ UINT256_MAX) (htok : ∀ t a, tok.transfer t sender a = true) :
    ∃ dex', removeLiquidity tok dex sender dex.totalLiquidity = .ok ((dex.reserve0, dex.reserve1), dex') ∧
      dex'.reserve0 = 0 ∧ dex'.reserve1 = 0 ∧ dex'.totalLiquidity = 0 := by
  obtain ⟨hamounts, dex', hburn, hr⟩ := Pool.burn_whole hs ht h0 h1
  refine ⟨dex', ?_, hr⟩
  simp [removeLiquidity, require, hamounts, hburn, hs, ht, htok, bind, Except.bind]

end SimpleDEX

end WattxCore
