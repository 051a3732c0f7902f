import WattxCore.Dex.SimpleDEX

/-!
`WATTxSwap`: constant-product pools of token pairs with a 0.3% fee, each under the id
`keccak256(token0, token1)` of its tokens in address order. A pool is present in `pools` once
`createPool` set its `exists` flag; the owner the constructor records is read by no function, and
the hash is a parameter.

* `createPool`, `addLiquidity`, `removeLiquidity`, `swapExactTokensForTokens`,
  `swapTokensForExactTokens`, `getAmountOut`, `getAmountIn`: the contract's functions, each
  reverting with the reason of the `require` that fails;
* `Reachable`: the states a deployment reaches by calls from any accounts but `address(0)`;
* `books_of_reachable`: **every pool of every reachable state keeps the LP books**, so every pool
  with a deposit has `Σ liquidity = totalLiquidity + MINIMUM_LIQUIDITY`;
* `minimum_liquidity_unlocked`: the first deposits into a `SimpleDEX` and into a `WATTxSwap` pool,
  and the withdrawals that follow them.
-/

namespace WattxCore

/-- The storage of `WATTxSwap` that its functions read and write: the pools that exist, by id,
and the list of ids. -/
structure WATTxSwap where
  pools : StdMap Nat Pool
  poolIds : List Nat

namespace WATTxSwap

/-- `FEE_BPS`: the 0.3% fee. -/
def FEE_BPS : Nat := 30

/-- `BPS_DENOMINATOR`. -/
def BPS_DENOMINATOR : Nat := 10000

/-- `MINIMUM_LIQUIDITY`: "Lock minimum liquidity" on the first deposit. -/
def MINIMUM_LIQUIDITY : Nat := 1000

/-- The storage after the constructor. -/
def deployed : WATTxSwap := ⟨StdMap.empty, []⟩

section Calls

variable (keccak : Address → Address → Nat) (tok : Erc20) (s : WATTxSwap) (sender : Address)

/-- `getPoolId(tokenA, tokenB)`: the hash of the two tokens in address order. -/
def getPoolId (tokenA tokenB : Address) : Nat :=
  if tokenA < tokenB then keccak tokenA tokenB else keccak tokenB tokenA

/-- `Pool storage pool = pools[poolId]; require(pool.exists, "WATTxSwap: pool not found")`. -/
def poolAt (poolId : Nat) : Except Revert Pool :=
  match s.pools.find? poolId with
  | some pool => pure pool
  | none => throw (.reason "WATTxSwap: pool not found")

/-- `s` with the pool `poolId` replaced. -/
def setPool (poolId : Nat) (pool : Pool) : WATTxSwap := { s with pools := s.pools.insert poolId pool }

/-- `createPool(tokenA, tokenB)`, returning the new pool's id. -/
def createPool (tokenA tokenB : Address) : Except Revert (Nat × WATTxSwap) := do
  require (tokenA ≠ tokenB) "WATTxSwap: identical addresses"
  require (tokenA ≠ 0 ∧ tokenB ≠ 0) "WATTxSwap: zero address"
  let (token0, token1) := if tokenA < tokenB then (tokenA, tokenB) else (tokenB, tokenA)
  let poolId := getPoolId keccak token0 token1
  require ((s.pools.find? poolId).isNone) "WATTxSwap: pool exists"
  pure (poolId, ⟨s.pools.insert poolId (Pool.empty token0 token1), s.poolIds ++ [poolId]⟩)

/-- The amounts a deposit takes (lines 141 to 159 of `addLiquidity`): the desired amounts into an
empty pool, and otherwise the most of them at the pool's ratio, each above its minimum. -/
def depositAmounts (pool : Pool) (amount0Desired amount1Desired amount0Min amount1Min : Nat) :
    Except Revert (Nat × Nat) :=
  if pool.reserve0 = 0 ∧ pool.reserve1 = 0 then pure (amount0Desired, amount1Desired)
  else do
    let amount1Optimal ← checkedDiv (← checkedMul amount0Desired pool.reserve1) pool.reserve0
    if amount1Optimal ≤ amount1Desired then do
      require (amount1Optimal ≥ amount1Min) "WATTxSwap: insufficient B amount"
      pure (amount0Desired, amount1Optimal)
    else do
      let amount0Optimal ← checkedDiv (← checkedMul amount1Desired pool.reserve0) pool.reserve1
      require (amount0Optimal ≤ amount0Desired) "WATTxSwap: excessive A amount"
      require (amount0Optimal ≥ amount0Min) "WATTxSwap: insufficient A amount"
      pure (amount0Optimal, amount1Desired)

/-- `addLiquidity(tokenA, tokenB, amountADesired, amountBDesired, amountAMin, amountBMin)`,
returning the amounts taken, in the caller's order, and the LP minted. -/
def addLiquidity (tokenA tokenB amountADesired amountBDesired amountAMin amountBMin : Nat) :
    Except Revert ((Nat × Nat × Nat) × WATTxSwap) := do
  let poolId := getPoolId keccak tokenA tokenB
  let pool ← s.poolAt poolId
  let (token0, token1) := if tokenA < tokenB then (tokenA, tokenB) else (tokenB, tokenA)
  let (amount0Desired, amount1Desired) :=
    if tokenA < tokenB then (amountADesired, amountBDesired) else (amountBDesired, amountADesired)
  let (amount0Min, amount1Min) := if tokenA < tokenB then (amountAMin, amountBMin) else (amountBMin, amountAMin)
  let (amount0, amount1) ← depositAmounts pool amount0Desired amount1Desired amount0Min amount1Min
  require (tok.transferFrom token0 sender amount0) "WATTxSwap: transfer0 failed"
  require (tok.transferFrom token1 sender amount1) "WATTxSwap: transfer1 failed"
  let (liquidity, pool') ←
    pool.mint MINIMUM_LIQUIDITY "WATTxSwap: insufficient liquidity minted" sender amount0 amount1
  let (amountA, amountB) := if tokenA < tokenB then (amount0, amount1) else (amount1, amount0)
  pure ((amountA, amountB, liquidity), s.setPool poolId pool')

/-- `removeLiquidity(tokenA, tokenB, liquidity, amountAMin, amountBMin)`, returning the amounts
paid out, in the caller's order. -/
def removeLiquidity (tokenA tokenB liquidity amountAMin amountBMin : Nat) :
    Except Revert ((Nat × Nat) × WATTxSwap) := do
  let poolId := getPoolId keccak tokenA tokenB
  let pool ← s.poolAt poolId
  require (lpOf pool.liquidity sender ≥ liquidity) "WATTxSwap: insufficient liquidity"
  let (token0, token1) := if tokenA < tokenB then (tokenA, tokenB) else (tokenB, tokenA)
  let (amount0, amount1) ← pool.burnAmounts liquidity
  let (amountAOut, amountBOut) := if tokenA < tokenB then (amount0, amount1) else (amount1, amount0)
  require (amountAOut ≥ amountAMin) "WATTxSwap: insufficient A amount"
  require (amountBOut ≥ amountBMin) "WATTxSwap: insufficient B amount"
  let pool' ← pool.burn sender liquidity amount0 amount1
  require (tok.transfer token0 sender amount0) "WATTxSwap: transfer0 failed"
  require (tok.transfer token1 sender amount1) "WATTxSwap: transfer1 failed"
  pure ((amountAOut, amountBOut), s.setPool poolId pool')

/-- `getAmountOut(amountIn, reserveIn, reserveOut)`. -/
def getAmountOut (amountIn reserveIn reserveOut : Nat) : Except Revert Nat := do
  require (amountIn > 0) "WATTxSwap: insufficient input"
  require (reserveIn > 0 ∧ reserveOut > 0) "WATTxSwap: insufficient liquidity"
  Pool.quoteOut BPS_DENOMINATOR FEE_BPS amountIn reserveIn reserveOut

/-- `getAmountIn(amountOut, reserveIn, reserveOut)`. -/
def getAmountIn (amountOut reserveIn reserveOut : Nat) : Except Revert Nat := do
  require (amountOut > 0) "WATTxSwap: insufficient output"
  require (reserveIn > 0 ∧ reserveOut > 0) "WATTxSwap: insufficient liquidity"
  require (amountOut < reserveOut) "WATTxSwap: insufficient liquidity"
  let numerator ← checkedMul (← checkedMul reserveIn amountOut) BPS_DENOMINATOR
  let denominator ← checkedMul (← checkedSub reserveOut amountOut) (BPS_DENOMINATOR - FEE_BPS)
  checkedAdd (← checkedDiv numerator denominator) 1

/-- The reserves a swap of `tokenIn` for `tokenOut` reads: in, then out. -/
def swapReserves (pool : Pool) (isToken0In : Bool) : Nat × Nat :=
  if isToken0In then (pool.reserve0, pool.reserve1) else (pool.reserve1, pool.reserve0)

/-- `swapExactTokensForTokens(amountIn, amountOutMin, tokenIn, tokenOut)`, returning the amount
paid out. -/
def swapExactTokensForTokens (amountIn amountOutMin tokenIn tokenOut : Nat) :
    Except Revert (Nat × WATTxSwap) := do
  let poolId := getPoolId keccak tokenIn tokenOut
  let pool ← s.poolAt poolId
  let isToken0In := decide (tokenIn < tokenOut)
  let (reserveIn, reserveOut) := swapReserves pool isToken0In
  let amountOut ← getAmountOut amountIn reserveIn reserveOut
  require (amountOut ≥ amountOutMin) "WATTxSwap: insufficient output amount"
  require (tok.transferFrom tokenIn sender amountIn) "WATTxSwap: transferIn failed"
  require (tok.transfer tokenOut sender amountOut) "WATTxSwap: transferOut failed"
  let pool' ← pool.settleSwap isToken0In amountIn amountOut
  pure (amountOut, s.setPool poolId pool')

/-- `swapTokensForExactTokens(amountOut, amountInMax, tokenIn, tokenOut)`, returning the amount
taken in. -/
def swapTokensForExactTokens (amountOut amountInMax tokenIn tokenOut : Nat) :
    Except Revert (Nat × WATTxSwap) := do
  let poolId := getPoolId keccak tokenIn tokenOut
  let pool ← s.poolAt poolId
  let isToken0In := decide (tokenIn < tokenOut)
  let (reserveIn, reserveOut) := swapReserves pool isToken0In
  let amountIn ← getAmountIn amountOut reserveIn reserveOut
  require (amountIn ≤ amountInMax) "WATTxSwap: excessive input amount"
  require (tok.transferFrom tokenIn sender amountIn) "WATTxSwap: transferIn failed"
  require (tok.transfer tokenOut sender amountOut) "WATTxSwap: transferOut failed"
  let pool' ← pool.settleSwap isToken0In amountIn amountOut
  pure (amountIn, s.setPool poolId pool')

end Calls

/-- A call of the contract, by `sender`. -/
inductive Op
  | createPool (sender tokenA tokenB : Nat)
  | addLiquidity (sender tokenA tokenB amountADesired amountBDesired amountAMin amountBMin : Nat)
  | removeLiquidity (sender tokenA tokenB liquidity amountAMin amountBMin : Nat)
  | swapExactTokensForTokens (sender amountIn amountOutMin tokenIn tokenOut : Nat)
  | swapTokensForExactTokens (sender amountOut amountInMax tokenIn tokenOut : Nat)
  deriving DecidableEq, Repr

/-- The caller, `msg.sender`. -/
def Op.sender : Op → Address
  | .createPool s .. | .addLiquidity s .. | .removeLiquidity s .. | .swapExactTokensForTokens s ..
  | .swapTokensForExactTokens s .. => s

/-- The storage a call that returns leaves. -/
def step (keccak : Address → Address → Nat) (tok : Erc20) (s : WATTxSwap) : Op → Except Revert WATTxSwap
  | .createPool _ tokenA tokenB => Prod.snd <$> createPool keccak s tokenA tokenB
  | .addLiquidity sender tokenA tokenB amountADesired amountBDesired amountAMin amountBMin =>
    Prod.snd <$> addLiquidity keccak tok s sender tokenA tokenB amountADesired amountBDesired amountAMin amountBMin
  | .removeLiquidity sender tokenA tokenB liquidity amountAMin amountBMin =>
    Prod.snd <$> removeLiquidity keccak tok s sender tokenA tokenB liquidity amountAMin amountBMin
  | .swapExactTokensForTokens sender amountIn amountOutMin tokenIn tokenOut =>
    Prod.snd <$> swapExactTokensForTokens keccak tok s sender amountIn amountOutMin tokenIn tokenOut
  | .swapTokensForExactTokens sender amountOut amountInMax tokenIn tokenOut =>
    Prod.snd <$> swapTokensForExactTokens keccak tok s sender amountOut amountInMax tokenIn tokenOut

/-- The states of a deployed `WATTxSwap`: the constructor's, and those that returning calls lead
to. No call comes from `address(0)`, and each call meets its own answers of the tokens. -/
inductive Reachable (keccak : Address → Address → Nat) : WATTxSwap → Prop
  | deploy : Reachable keccak deployed
  | call {s s' : WATTxSwap} (tok : Erc20) (op : Op) (hr : Reachable keccak s) (hs : op.sender ≠ 0)
      (h : step keccak tok s op = .ok s') : Reachable keccak s'

/-! ### The books of every pool over every run -/

/-- Every pool keeps the LP books with `MINIMUM_LIQUIDITY`. -/
def Books (s : WATTxSwap) : Prop :=
  ∀ poolId pool, s.pools.find? poolId = some pool → pool.LpBooks MINIMUM_LIQUIDITY

variable {keccak : Address → Address → Nat} {tok : Erc20} {s s' : WATTxSwap} {sender : Address}

lemma poolAt_ok {poolId : Nat} {pool : Pool} (h : s.poolAt poolId = .ok pool) :
    s.pools.find? poolId = some pool := by
  unfold poolAt at h
  split at h <;> simp_all [throw, throwThe, MonadExceptOf.throw]

/-- Storing a pool that keeps the books keeps every pool's books. -/
lemma Books.insert (hB : s.Books) {poolId : Nat} {pool : Pool} (hp : pool.LpBooks MINIMUM_LIQUIDITY)
    (h : s'.pools = s.pools.insert poolId pool) : s'.Books := by
  intro i p hi
  rw [h, StdMap.find?_insert_eq] at hi
  split_ifs at hi
  · cases hi; exact hp
  · exact hB i p hi

lemma createPool_ok {tokenA tokenB poolId : Nat} (h : createPool keccak s tokenA tokenB = .ok (poolId, s')) :
    ∃ token0 token1, s' = { s with
      pools := s.pools.insert poolId (Pool.empty token0 token1)
      poolIds := s.poolIds ++ [poolId] } := by
  unfold createPool at h
  split_ifs at h <;>
  · simp only [bind_eq_ok, require_eq_ok, except_pure, Except.ok.injEq, Prod.mk.injEq] at h
    obtain ⟨_, -, _, -, _, -, rfl, rfl⟩ := h
    exact ⟨_, _, rfl⟩

lemma addLiquidity_ok {tokenA tokenB amountADesired amountBDesired amountAMin amountBMin : Nat}
    {r : Nat × Nat × Nat}
    (h : addLiquidity keccak tok s sender tokenA tokenB amountADesired amountBDesired amountAMin amountBMin =
      .ok (r, s')) :
    ∃ poolId pool amount0 amount1 lp pool', s.pools.find? poolId = some pool ∧
      pool.mint MINIMUM_LIQUIDITY "WATTxSwap: insufficient liquidity minted" sender amount0 amount1 =
        .ok (lp, pool') ∧ s' = s.setPool poolId pool' := by
  obtain ⟨pool, hpool, h⟩ := bind_eq_ok.mp h
  split_ifs at h <;>
  · simp only [bind_eq_ok, require_eq_ok, except_pure, Except.ok.injEq, Prod.mk.injEq] at h
    obtain ⟨⟨a0, a1⟩, -, _, -, _, -, ⟨lp, pool'⟩, hm, -, rfl⟩ := h
    exact ⟨_, pool, a0, a1, lp, pool', poolAt_ok hpool, hm, rfl⟩

lemma removeLiquidity_ok {tokenA tokenB liquidity amountAMin amountBMin : Nat} {r : Nat × Nat}
    (h : removeLiquidity keccak tok s sender tokenA tokenB liquidity amountAMin amountBMin = .ok (r, s')) :
    ∃ poolId pool amount0 amount1 pool', s.pools.find? poolId = some pool ∧
      pool.burn sender liquidity amount0 amount1 = .ok pool' ∧ s' = s.setPool poolId pool' := by
  obtain ⟨pool, hpool, h⟩ := bind_eq_ok.mp h
  split_ifs at h <;>
  · simp only [bind_eq_ok, require_eq_ok, except_pure, Except.ok.injEq, Prod.mk.injEq] at h
    obtain ⟨_, -, ⟨a0, a1⟩, -, _, -, _, -, pool', hb, _, -, _, -, -, rfl⟩ := h
    exact ⟨_, pool, a0, a1, pool', poolAt_ok hpool, hb, rfl⟩

lemma swapExactTokensForTokens_ok {amountIn amountOutMin tokenIn tokenOut r : Nat}
    (h : swapExactTokensForTokens keccak tok s sender amountIn amountOutMin tokenIn tokenOut = .ok (r, s')) :
    ∃ poolId pool isToken0In amountOut pool', s.pools.find? poolId = some pool ∧
      pool.settleSwap isToken0In amountIn amountOut = .ok pool' ∧ s' = s.setPool poolId pool' := by
  simp only [swapExactTokensForTokens, bind_eq_ok, require_eq_ok, except_pure, Except.ok.injEq,
    Prod.mk.injEq] at h
  obtain ⟨pool, hpool, _, -, _, -, _, -, _, -, pool', hs, -, rfl⟩ := h
  exact ⟨_, pool, _, _, pool', poolAt_ok hpool, hs, rfl⟩

lemma swapTokensForExactTokens_ok {amountOut amountInMax tokenIn tokenOut r : Nat}
    (h : swapTokensForExactTokens keccak tok s sender amountOut amountInMax tokenIn tokenOut = .ok (r, s')) :
    ∃ poolId pool isToken0In amountIn pool', s.pools.find? poolId = some pool ∧
      pool.settleSwap isToken0In amountIn amountOut = .ok pool' ∧ s' = s.setPool poolId pool' := by
  simp only [swapTokensForExactTokens, bind_eq_ok, require_eq_ok, except_pure, Except.ok.injEq,
    Prod.mk.injEq] at h
  obtain ⟨pool, hpool, _, -, _, -, _, -, _, -, pool', hs, -, rfl⟩ := h
  exact ⟨_, pool, _, _, pool', poolAt_ok hpool, hs, rfl⟩

/-- **One call keeps the books of every pool**: it creates an empty pool, or replaces one pool by
what `mint`, `burn` or `settleSwap` make of it. -/
lemma step_books {op : Op} (hB : s.Books) (hs : op.sender ≠ 0) (h : step keccak tok s op = .ok s') :
    s'.Books := by
  cases op <;> obtain ⟨⟨_, _⟩, hcall, rfl⟩ := map_eq_ok.mp h
  case createPool =>
    obtain ⟨t0, t1, rfl⟩ := createPool_ok hcall
    exact hB.insert (Pool.LpBooks.empty _ t0 t1) rfl
  case addLiquidity =>
    obtain ⟨_, pool, _, _, _, _, hp, hm, rfl⟩ := addLiquidity_ok hcall
    exact hB.insert ((hB _ pool hp).mint hs hm) rfl
  case removeLiquidity =>
    obtain ⟨_, pool, _, _, _, hp, hb, rfl⟩ := removeLiquidity_ok hcall
    exact hB.insert ((hB _ pool hp).burn hs hb) rfl
  case swapExactTokensForTokens =>
    obtain ⟨_, pool, _, _, _, hp, hsettle, rfl⟩ := swapExactTokensForTokens_ok hcall
    exact hB.insert ((hB _ pool hp).settleSwap hsettle) rfl
  case swapTokensForExactTokens =>
    obtain ⟨_, pool, _, _, _, hp, hsettle, rfl⟩ := swapTokensForExactTokens_ok hcall
    exact hB.insert ((hB _ pool hp).settleSwap hsettle) rfl

/-- **Every pool of every reachable state keeps the LP books.** -/
lemma books_of_reachable (h : Reachable keccak s) : s.Books := by
  induction h with
  | deploy => intro _ _ h; simp [deployed] at h
  | call tok op _ hs h ih => exact step_books ih hs h

/-- In every pool with a deposit, the LP balances sum to the LP total plus `MINIMUM_LIQUIDITY`. -/
lemma lpSum_of_reachable (h : Reachable keccak s) {poolId : Nat} {pool : Pool}
    (hp : s.pools.find? poolId = some pool) (ht : 0 < pool.totalLiquidity) :
    lpSum pool.liquidity = pool.totalLiquidity + MINIMUM_LIQUIDITY :=
  (books_of_reachable h _ _ hp).lpSum_eq ht

/-- A deployment followed by calls that all return, with the same answers of the tokens. -/
def run (keccak : Address → Address → Nat) (tok : Erc20) (ops : List Op) : Except Revert WATTxSwap :=
  ops.foldlM (step keccak tok) deployed

lemma foldlM_reachable {ops : List Op} (hs : ∀ op ∈ ops, op.sender ≠ 0) :
    ∀ {s₀}, Reachable keccak s₀ → ops.foldlM (step keccak tok) s₀ = .ok s → Reachable keccak s := by
  induction ops with
  | nil => intro s₀ hr h; cases h; exact hr
  | cons op ops ih =>
    intro s₀ hr h
    obtain ⟨s₁, h₁, h⟩ := bind_eq_ok.mp h
    exact ih (fun o ho => hs o (List.mem_cons_of_mem _ ho)) (.call tok op hr (hs op (List.mem_cons_self _ _)) h₁) h

/-- A run whose calls come from accounts other than `address(0)` ends in a reachable state. -/
lemma run_reachable {ops : List Op} (hs : ∀ op ∈ ops, op.sender ≠ 0) (h : run keccak tok ops = .ok s) :
    Reachable keccak s :=
  foldlM_reachable hs .deploy h

end WATTxSwap

/-- `abi.encodePacked(token0, token1)` of two 20-byte addresses, as a number: the pool ids of the
runs below use it in place of its `keccak256` hash. -/
def encodePacked (token0 token1 : Address) : Nat := token0 * 2 ^ 160 + token1

open SimpleDEX in
/-- The first deposit of 4000 of each token by account `1`, into a `SimpleDEX` of tokens `2` and
`3` and into the `WATTxSwap` pool of the same tokens, credits `address(0)` 1000 LP besides the
3000 LP of the depositor and the LP total; the depositor's withdrawal of the 3000 LP then empties
the reserves. -/
theorem minimum_liquidity_unlocked :
    (fun dex => (lpSum dex.liquidity, dex.totalLiquidity, dex.reserve0, dex.reserve1)) <$>
        SimpleDEX.run Erc20.accepting 2 3 [.addLiquidity 1 4000 4000] = .ok (4000, 3000, 4000, 4000) ∧
      (fun dex => (dex.totalLiquidity, dex.reserve0, dex.reserve1)) <$>
        SimpleDEX.run Erc20.accepting 2 3 [.addLiquidity 1 4000 4000, .removeLiquidity 1 3000] =
        .ok (0, 0, 0) ∧
      (fun s => (s.pools.find? (encodePacked 2 3)).map fun pool =>
          (lpSum pool.liquidity, pool.totalLiquidity, pool.reserve0, pool.reserve1)) <$>
        WATTxSwap.run encodePacked Erc20.accepting [.createPool 1 2 3, .addLiquidity 1 2 3 4000 4000 0 0] =
        .ok (some (4000, 3000, 4000, 4000)) ∧
      (fun s => (s.pools.find? (encodePacked 2 3)).map fun pool =>
          (pool.totalLiquidity, pool.reserve0, pool.reserve1)) <$>
        WATTxSwap.run encodePacked Erc20.accepting
          [.createPool 1 2 3, .addLiquidity 1 2 3 4000 4000 0 0, .removeLiquidity 1 2 3 3000 0 0] =
        .ok (some (0, 0, 0)) := by
  decide

end WattxCore
