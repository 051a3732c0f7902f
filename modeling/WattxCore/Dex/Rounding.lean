import WattxCore.Dex.ConstantProduct

/-!
Which way the divisions of `SimpleDEX` and `WATTxSwap` round. Every share a deposit mints, every
payout of a withdrawal and every price is a floor division, and each floor is taken on the
pool's side.

* `Pool.mintShares_mul_le`: into a pool with LP outstanding, or with empty reserves, a deposit
  mints at most its share of either reserve, `lp * reserve ≤ amount * totalLiquidity`;
* `Pool.payout_le`, `Pool.mint_burnAmounts_le`: so the payout of the LP a deposit minted, against
  the reserves and LP total it left, is at most the deposit;
* `SimpleDEX.deposit_withdraw_no_gain`: **an `addLiquidity` followed by a `removeLiquidity` of
  the LP it minted pays out at most the amounts deposited**, in a pool with LP outstanding or
  with empty reserves;
* `WATTxSwap.EmptyOrFunded`, `WATTxSwap.pools_empty_or_funded`: **every pool of every reachable
  `WATTxSwap` is empty (no LP, no reserves) or funded (LP and both reserves positive)**: a first
  deposit brings both tokens, the last withdrawal takes the whole reserves, and a swap needs
  positive reserves and pays out less than the output reserve;
* `WATTxSwap.deposit_withdraw_no_gain_reachable`: **so a deposit withdrawn at once returns no
  more than it put in, for every pool of every reachable `WATTxSwap`**, whichever pair and
  order of tokens the calls name;
* `WATTxSwap.getAmountIn_tight`: **the input `getAmountIn` asks for buys at least the output
  through `getAmountOut`, and no input smaller by two or more does**.

`SimpleDEX` quotes a swap into a pool without LP as `0`, and the swap is accepted: its input
stays in the reserves of a pool without LP, and the next first deposit withdraws it. Hence the
hypothesis of `SimpleDEX.deposit_withdraw_no_gain`.
-/

namespace WattxCore

namespace Pool

variable {minimum : Nat} {pool pool' : Pool} {sender : Address}

/-- A payout that returns is `lp * reserve / totalLiquidity` of each token, over a positive
total. -/
lemma burnAmounts_eq {lp amount0 amount1 : Nat} (h : pool.burnAmounts lp = .ok (amount0, amount1)) :
    0 < pool.totalLiquidity ∧ amount0 = lp * pool.reserve0 / pool.totalLiquidity ∧
      amount1 = lp * pool.reserve1 / pool.totalLiquidity := by
  simp only [burnAmounts, bind_eq_ok, except_pure, Except.ok.injEq, Prod.mk.injEq] at h
  obtain ⟨m0, hm0, a0, ha0, m1, hm1, a1, ha1, rfl, rfl⟩ := h
  obtain ⟨hT, rfl⟩ := checkedDiv_eq_ok ha0
  obtain ⟨-, rfl⟩ := checkedDiv_eq_ok ha1
  rw [checkedMul_eq_ok hm0, checkedMul_eq_ok hm1]
  exact ⟨hT, rfl, rfl⟩

/-- The proportional share `⌊amount * total / reserve⌋` is at most the deposit's part of the
reserve. -/
lemma share_mul_le {amount total reserve lp : Nat} {m : Nat} (hm : checkedMul amount total = .ok m)
    (hd : checkedDiv m reserve = .ok lp) : lp * reserve ≤ amount * total := by
  obtain ⟨-, rfl⟩ := checkedDiv_eq_ok hd
  rw [← checkedMul_eq_ok hm]
  exact Nat.div_mul_le_self _ _

/-- **A deposit mints at most its share of either reserve**, into a pool with LP outstanding
(the smaller of the two proportional shares) or with empty reserves (where both sides are
`0`). -/
lemma mintShares_mul_le {amount0 amount1 lp : Nat} {liq : StdMap Address Nat}
    (hT : 0 < pool.totalLiquidity ∨ pool.reserve0 = 0 ∧ pool.reserve1 = 0)
    (h : pool.mintShares minimum amount0 amount1 = .ok (lp, liq)) :
    lp * pool.reserve0 ≤ amount0 * pool.totalLiquidity ∧
      lp * pool.reserve1 ≤ amount1 * pool.totalLiquidity := by
  unfold mintShares at h
  split_ifs at h with h0
  · obtain ⟨hr0, hr1⟩ := hT.resolve_left (by omega)
    simp only [hr0, hr1, Nat.mul_zero, Nat.zero_le, and_self]
  · simp only [bind_eq_ok, except_pure, Except.ok.injEq, Prod.mk.injEq] at h
    obtain ⟨m0, hm0, l0, hl0, m1, hm1, l1, hl1, rfl, -⟩ := h
    have k0 := share_mul_le hm0 hl0
    have k1 := share_mul_le hm1 hl1
    split_ifs with hlt
    · exact ⟨k0, (Nat.mul_le_mul_right _ hlt.le).trans k1⟩
    · exact ⟨(Nat.mul_le_mul_right _ (Nat.le_of_not_lt hlt)).trans k0, k1⟩

/-- Paying `lp` out of `reserve + amount` over `total + lp` gives at most `amount` when the
share was at most the deposit's part, `lp * reserve ≤ amount * total`. -/
lemma payout_le {lp reserve amount total : Nat} (h : lp * reserve ≤ amount * total) :
    lp * (reserve + amount) / (total + lp) ≤ amount :=
  Nat.div_le_of_le_mul (by rw [Nat.mul_add, Nat.add_mul, Nat.mul_comm total amount,
    Nat.mul_comm lp amount]; omega)

/-- **Burning what a deposit minted pays out at most the deposit**, in a pool with LP
outstanding or with empty reserves. -/
lemma mint_burnAmounts_le {lpZero : String} {amount0 amount1 lp out0 out1 : Nat}
    (hT : 0 < pool.totalLiquidity ∨ pool.reserve0 = 0 ∧ pool.reserve1 = 0)
    (hm : pool.mint minimum lpZero sender amount0 amount1 = .ok (lp, pool'))
    (hb : pool'.burnAmounts lp = .ok (out0, out1)) : out0 ≤ amount0 ∧ out1 ≤ amount1 := by
  obtain ⟨liq, hs, -, hc⟩ := mint_ok hm
  obtain ⟨k0, k1⟩ := mintShares_mul_le hT hs
  obtain ⟨-, ht, h0, h1⟩ := credit_eq hc
  obtain ⟨-, rfl, rfl⟩ := burnAmounts_eq hb
  rw [ht, h0, h1]
  exact ⟨payout_le k0, payout_le k1⟩

end Pool

namespace SimpleDEX

variable {tok tok' : Erc20} {dex dex₁ dex₂ : Pool} {sender : Address}

/-- A withdrawal that returns pays out `burnAmounts` of the LP withdrawn. -/
lemma removeLiquidity_amounts {lpAmount : Nat} {amounts : Nat × Nat}
    (h : removeLiquidity tok dex sender lpAmount = .ok (amounts, dex₁)) :
    dex.burnAmounts lpAmount = .ok amounts := by
  simp only [removeLiquidity, bind_eq_ok, require_eq_ok] at h
  obtain ⟨_, -, ⟨a0, a1⟩, hb, h⟩ := h
  simp only [bind_eq_ok, require_eq_ok, except_pure, Except.ok.injEq, Prod.mk.injEq] at h
  obtain ⟨_, -, _, -, _, -, rfl, -⟩ := h
  exact hb

/-- **A deposit withdrawn at once returns no more than it put in.** In a `SimpleDEX` pool with LP
outstanding, or with empty reserves, an `addLiquidity` of `amount0` and `amount1` minting `lp`,
followed by the caller's `removeLiquidity` of those `lp`, pays out at most `amount0` and
`amount1`, whatever the tokens answer: the share and both payouts round down. -/
theorem deposit_withdraw_no_gain {amount0 amount1 lp out0 out1 : Nat}
    (hT : 0 < dex.totalLiquidity ∨ dex.reserve0 = 0 ∧ dex.reserve1 = 0)
    (hadd : addLiquidity tok dex sender amount0 amount1 = .ok (lp, dex₁))
    (hrem : removeLiquidity tok' dex₁ sender lp = .ok ((out0, out1), dex₂)) :
    out0 ≤ amount0 ∧ out1 ≤ amount1 :=
  Pool.mint_burnAmounts_le hT (addLiquidity_ok hadd) (removeLiquidity_amounts hrem)

/-- Provider `1` holds the 3000 LP of a first deposit of 4000 of each token `2` and `3`,
`address(0)` the locked 1000. -/
def depositedPool : Pool := ⟨2, 3, 4000, 4000, 3000, (StdMap.empty.insert 0 1000).insert 1 3000⟩

/-- What account `2`'s deposit of 999 of each token leaves: its 749 LP. -/
def roundedPool : Pool :=
  ⟨2, 3, 4999, 4999, 3749, depositedPool.liquidity.insert 2 749⟩

/-- Account `2` deposits 999 of each token into `depositedPool` and is minted `⌊999·3000/4000⌋ =
749` LP; withdrawing them pays `⌊749·4999/3749⌋ = 998` of each. -/
theorem deposit_withdraw_rounded :
    (0 < depositedPool.totalLiquidity ∨ depositedPool.reserve0 = 0 ∧ depositedPool.reserve1 = 0) ∧
      ∃ dex₂, addLiquidity Erc20.accepting depositedPool 2 999 999 = .ok (749, roundedPool) ∧
        removeLiquidity Erc20.accepting roundedPool 2 749 = .ok ((998, 998), dex₂) ∧
        998 ≤ 999 ∧ 998 ≤ 999 := by
  have h₁ : addLiquidity Erc20.accepting depositedPool 2 999 999 = .ok (749, roundedPool) := rfl
  obtain ⟨dex₂, h₂⟩ : ∃ d, removeLiquidity Erc20.accepting roundedPool 2 749 = .ok ((998, 998), d) :=
    ⟨_, rfl⟩
  exact ⟨.inl (by decide), dex₂, h₁, h₂, deposit_withdraw_no_gain (.inl (by decide)) h₁ h₂⟩

/-- The hypothesis is needed: a swap of 1000 of token `2` into a fresh pool is quoted `0` and
accepted, and the first deposit of 4000 of each token then withdraws 5000 of token `2`. -/
example : (fun r : (Nat × Nat) × Pool => r.1) <$> (do
      let dex ← constructor 2 3
      let (_, dex) ← swap Erc20.accepting dex 1 2 1000 0
      let (lp, dex) ← addLiquidity Erc20.accepting dex 1 4000 4000
      removeLiquidity Erc20.accepting dex 1 lp) = .ok (5000, 4000) := by
  decide

end SimpleDEX

namespace WATTxSwap

variable {keccak : Address → Address → Nat} {tok : Erc20} {s s' : WATTxSwap} {sender : Address}

/-- **Inversion of `addLiquidity`**: the pool of the pair, the deposit in address order, and the
amounts reported back in the caller's order. -/
lemma addLiquidity_mint {tokenA tokenB amountADesired amountBDesired amountAMin amountBMin : Nat}
    {amountA amountB lp : Nat}
    (h : addLiquidity keccak tok s sender tokenA tokenB amountADesired amountBDesired amountAMin
      amountBMin = .ok ((amountA, amountB, lp), s')) :
    ∃ pool amount0 amount1 pool', s.pools.find? (getPoolId keccak tokenA tokenB) = some pool ∧
      pool.mint MINIMUM_LIQUIDITY "WATTxSwap: insufficient liquidity minted" sender amount0 amount1 =
        .ok (lp, pool') ∧
      (amountA, amountB) = (if tokenA < tokenB then (amount0, amount1) else (amount1, amount0)) ∧
      s' = s.setPool (getPoolId keccak tokenA tokenB) pool' := by
  obtain ⟨pool, hpool, h⟩ := bind_eq_ok.mp h
  split_ifs at h with hlt <;>
  · simp only [bind_eq_ok, require_eq_ok, except_pure, Except.ok.injEq, Prod.mk.injEq] at h
    obtain ⟨⟨a0, a1⟩, -, _, -, _, -, ⟨lp', pool'⟩, hm, ⟨rfl, rfl, rfl⟩, rfl⟩ := h
    exact ⟨pool, a0, a1, pool', poolAt_ok hpool, hm, by simp only [hlt, if_true, if_false], rfl⟩

/-- **Inversion of `removeLiquidity`**: the pool of the pair, its payout in address order and
its burn, and the payout reported back in the caller's order. -/
lemma removeLiquidity_payout {tokenA tokenB liquidity amountAMin amountBMin amountA amountB : Nat}
    (h : removeLiquidity keccak tok s sender tokenA tokenB liquidity amountAMin amountBMin =
      .ok ((amountA, amountB), s')) :
    ∃ pool amount0 amount1 pool', s.pools.find? (getPoolId keccak tokenA tokenB) = some pool ∧
      pool.burnAmounts liquidity = .ok (amount0, amount1) ∧
      pool.burn sender liquidity amount0 amount1 = .ok pool' ∧
      (amountA, amountB) = (if tokenA < tokenB then (amount0, amount1) else (amount1, amount0)) ∧
      s' = s.setPool (getPoolId keccak tokenA tokenB) pool' := by
  obtain ⟨pool, hpool, h⟩ := bind_eq_ok.mp h
  split_ifs at h with hlt <;>
  · simp only [bind_eq_ok, require_eq_ok, except_pure, Except.ok.injEq, Prod.mk.injEq] at h
    obtain ⟨_, -, ⟨a0, a1⟩, ha, _, -, _, -, pool', hb, _, -, _, -, ⟨rfl, rfl⟩, rfl⟩ := h
    exact ⟨pool, a0, a1, pool', poolAt_ok hpool, ha, hb, by simp only [hlt, if_true, if_false], rfl⟩

/-- A pool is empty, without LP or reserves, or funded, with LP and both reserves positive. -/
def EmptyOrFunded (pool : Pool) : Prop :=
  pool.totalLiquidity = 0 ∧ pool.reserve0 = 0 ∧ pool.reserve1 = 0 ∨
    0 < pool.totalLiquidity ∧ 0 < pool.reserve0 ∧ 0 < pool.reserve1

/-- Every pool of `s` satisfies `P`. -/
def AllPools (P : Pool → Prop) (s : WATTxSwap) : Prop :=
  ∀ poolId pool, s.pools.find? poolId = some pool → P pool

/-- Storing a pool that satisfies `P` keeps every pool satisfying it. -/
lemma AllPools.insert {P : Pool → Prop} (hS : AllPools P s) {poolId : Nat} {pool : Pool} (hp : P pool)
    (h : s'.pools = s.pools.insert poolId pool) : AllPools P s' := by
  intro i q hi
  rw [h, StdMap.find?_insert_eq] at hi
  split_ifs at hi
  · cases hi; exact hp
  · exact hS i q hi

/-- A first deposit that mints LP takes some of each token: `sqrt(amount0 * amount1)` exceeds
the minimum. -/
lemma mintShares_first_pos {pool : Pool} {minimum amount0 amount1 lp : Nat}
    {liq : StdMap Address Nat} (h0 : pool.totalLiquidity = 0)
    (h : pool.mintShares minimum amount0 amount1 = .ok (lp, liq)) (hlp : 0 < lp) :
    0 < amount0 ∧ 0 < amount1 := by
  simp only [Pool.mintShares, h0, if_true, bind_eq_ok, except_pure, Except.ok.injEq,
    Prod.mk.injEq] at h
  obtain ⟨m, hm, r, hr, _, hs, rfl, -⟩ := h
  obtain ⟨-, rfl⟩ := checkedSub_eq_ok hs
  have hle : m ≤ UINT256_MAX := by
    unfold checkedMul at hm; split_ifs at hm with h'; cases hm; exact h'
  rw [sqrt_eq_ok hle, Except.ok.injEq] at hr
  rw [checkedMul_eq_ok hm] at hr
  exact CanonicallyOrderedCommSemiring.mul_pos.mp (Nat.sqrt_pos.mp (hr ▸ by omega))

/-- **A deposit leaves its pool funded**: LP is minted, and a first deposit brings both
tokens. -/
lemma mint_funded {pool pool' : Pool} {lpZero : String} {amount0 amount1 lp : Nat}
    (hp : EmptyOrFunded pool)
    (h : pool.mint MINIMUM_LIQUIDITY lpZero sender amount0 amount1 = .ok (lp, pool')) :
    EmptyOrFunded pool' := by
  obtain ⟨liq, hs, hlp, hc⟩ := Pool.mint_ok h
  obtain ⟨-, ht, h0, h1⟩ := Pool.credit_eq hc
  rw [EmptyOrFunded, ht, h0, h1]
  rcases hp with ⟨hT, -, -⟩ | ⟨-, hr0, hr1⟩
  · obtain ⟨ha0, ha1⟩ := mintShares_first_pos hT hs hlp
    omega
  · omega

/-- **A withdrawal leaves its pool empty or funded**: the last LP takes the whole reserves, and
any less leaves part of each. -/
lemma burn_funded {pool pool' : Pool} {lp amount0 amount1 : Nat} (hp : EmptyOrFunded pool)
    (ha : pool.burnAmounts lp = .ok (amount0, amount1)) (hb : pool.burn sender lp amount0 amount1 = .ok pool') :
    EmptyOrFunded pool' := by
  obtain ⟨hT, rfl, rfl⟩ := Pool.burnAmounts_eq ha
  obtain ⟨-, hr0, hr1⟩ := hp.resolve_left (by omega)
  simp only [Pool.burn, bind_eq_ok, except_pure, Except.ok.injEq] at hb
  obtain ⟨_, -, t, ht, r0, h0, r1, h1, rfl⟩ := hb
  obtain ⟨hle, rfl⟩ := checkedSub_eq_ok ht
  obtain ⟨-, rfl⟩ := checkedSub_eq_ok h0
  obtain ⟨-, rfl⟩ := checkedSub_eq_ok h1
  rcases Nat.lt_or_ge lp pool.totalLiquidity with hlt | hge
  · have k0 := Nat.div_lt_of_lt_mul (Nat.mul_lt_mul_of_pos_right hlt hr0)
    have k1 := Nat.div_lt_of_lt_mul (Nat.mul_lt_mul_of_pos_right hlt hr1)
    refine .inr ⟨?_, ?_, ?_⟩ <;> dsimp only <;> omega
  · obtain rfl : lp = pool.totalLiquidity := by omega
    simp only [Nat.mul_div_cancel_left _ hT, Nat.sub_self]
    exact .inl ⟨rfl, rfl, rfl⟩

/-- A positive reserve on either side of a swap is a positive reserve of the pool, which is
then funded. -/
lemma funded_of_swapReserves {pool : Pool} {b : Bool} (hp : EmptyOrFunded pool)
    (h : 0 < (swapReserves pool b).1 ∨ 0 < (swapReserves pool b).2) :
    0 < pool.totalLiquidity ∧ 0 < pool.reserve0 ∧ 0 < pool.reserve1 := by
  refine hp.resolve_left fun ⟨_, h0, h1⟩ => ?_
  cases b <;> simp only [swapReserves, Bool.false_eq_true, if_true, if_false, h0, h1] at h <;> omega

/-- **A swap leaves a funded pool funded** when it pays out less than the output reserve. -/
lemma settleSwap_funded {pool pool' : Pool} {b : Bool} {amountIn amountOut : Nat}
    (hp : 0 < pool.totalLiquidity ∧ 0 < pool.reserve0 ∧ 0 < pool.reserve1)
    (hlt : amountOut < (swapReserves pool b).2) (h : pool.settleSwap b amountIn amountOut = .ok pool') :
    EmptyOrFunded pool' := by
  rw [EmptyOrFunded, (Pool.settleSwap_books h).2]
  unfold Pool.settleSwap at h
  cases b <;> simp only [Bool.false_eq_true, if_false, if_true, bind_eq_ok, except_pure,
    Except.ok.injEq, swapReserves] at h hlt <;> obtain ⟨x, hx, y, hy, rfl⟩ := h
  all_goals
    obtain ⟨-, rfl⟩ := checkedSub_eq_ok hy
    rw [checkedAdd_eq_ok hx]
    dsimp only
    omega

/-- **One call keeps every pool empty or funded.** A new pool is empty; a deposit funds its
pool; a withdrawal takes all or part of each reserve as it takes all or part of the LP; a swap
needs a positive reserve, so its pool is funded, and pays out less than the output reserve. -/
lemma step_emptyOrFunded {op : Op} (hS : AllPools EmptyOrFunded s) (h : step keccak tok s op = .ok s') :
    AllPools EmptyOrFunded s' := by
  cases op <;> obtain ⟨⟨_, _⟩, hcall, rfl⟩ := map_eq_ok.mp h
  case createPool =>
    obtain ⟨t0, t1, rfl⟩ := createPool_ok hcall
    exact hS.insert (.inl ⟨rfl, rfl, rfl⟩) rfl
  case addLiquidity =>
    obtain ⟨_, pool, _, _, _, _, hp, hm, rfl⟩ := addLiquidity_ok hcall
    exact hS.insert (mint_funded (hS _ _ hp) hm) rfl
  case removeLiquidity =>
    obtain ⟨pool, _, _, _, hp, ha, hb, -, rfl⟩ := removeLiquidity_payout hcall
    exact hS.insert (burn_funded (hS _ _ hp) ha hb) rfl
  case swapExactTokensForTokens =>
    obtain ⟨pool, _, hp, hq, hs, rfl⟩ := swapExact_quote hcall
    obtain ⟨hIn, hOut, hq⟩ := getAmountOut_eq hq
    obtain ⟨-, rfl⟩ := Pool.quoteOut_eq hq
    exact hS.insert (settleSwap_funded (funded_of_swapReserves (hS _ _ hp) (.inl hIn))
      (Pool.quote_lt (by decide) hIn hOut) hs) rfl
  case swapTokensForExactTokens =>
    obtain ⟨pool, _, hp, hq, hs, rfl⟩ := swapForExact_quote hcall
    have hlt := (getAmountIn_eq hq).1
    have hF := funded_of_swapReserves (hS _ _ hp) (.inr (Nat.zero_lt_of_lt hlt))
    exact hS.insert (settleSwap_funded hF hlt hs) rfl

/-- In every reachable state every pool is empty or funded. -/
lemma emptyOrFunded_of_reachable (h : Reachable keccak s) : AllPools EmptyOrFunded s := by
  induction h with
  | deploy => intro _ _ h; simp [deployed] at h
  | call tok op _ _ h ih => exact step_emptyOrFunded ih h

/-- **Every pool of every reachable `WATTxSwap` is empty or funded**: either it has no LP and no
reserves, or it has LP and both reserves are positive. A pool without LP is never left holding
tokens, and no swap of a pool with LP fails for an empty reserve. (`SimpleDEX` differs: a swap into its empty
pool is accepted and leaves the input in the reserves.) -/
theorem pools_empty_or_funded (h : Reachable keccak s) {poolId : Nat} {pool : Pool}
    (hp : s.pools.find? poolId = some pool) :
    pool.totalLiquidity = 0 ∧ pool.reserve0 = 0 ∧ pool.reserve1 = 0 ∨
      0 < pool.totalLiquidity ∧ 0 < pool.reserve0 ∧ 0 < pool.reserve1 :=
  emptyOrFunded_of_reachable h _ _ hp

/-- The `WATTxSwap` in which account `1` created the pool of tokens `2` and `3` and deposited
4000 of each: its one pool is `SimpleDEX.depositedPool`. -/
def depositedSwap : WATTxSwap :=
  ⟨StdMap.empty.insert (encodePacked 2 3) SimpleDEX.depositedPool, [encodePacked 2 3]⟩

/-- `depositedSwap` is reached by those two calls. -/
lemma depositedSwap_reachable : Reachable encodePacked depositedSwap :=
  run_reachable (by decide) (show run encodePacked Erc20.accepting
    [.createPool 1 2 3, .addLiquidity 1 2 3 4000 4000 0 0] = .ok depositedSwap by rfl)

/-- The pool of `depositedSwap` is funded. -/
theorem pools_empty_or_funded_deposited :
    Reachable encodePacked depositedSwap ∧
      depositedSwap.pools.find? (encodePacked 2 3) = some SimpleDEX.depositedPool ∧
      (SimpleDEX.depositedPool.totalLiquidity = 0 ∧ SimpleDEX.depositedPool.reserve0 = 0 ∧
          SimpleDEX.depositedPool.reserve1 = 0 ∨
        0 < SimpleDEX.depositedPool.totalLiquidity ∧ 0 < SimpleDEX.depositedPool.reserve0 ∧
          0 < SimpleDEX.depositedPool.reserve1) :=
  have hp : depositedSwap.pools.find? (encodePacked 2 3) = some SimpleDEX.depositedPool :=
    StdMap.find?_insert _ _ _
  ⟨depositedSwap_reachable, hp, pools_empty_or_funded depositedSwap_reachable hp⟩

/-- **In every reachable `WATTxSwap`, a deposit withdrawn at once returns no more than it put
in.** An `addLiquidity` of a pair taking `amountA` and `amountB` and minting `lp`, followed by
the caller's `removeLiquidity` of those `lp` from the same pair, pays out at most `amountA` and
`amountB`, whatever the tokens answer and the minimum amounts asked. -/
theorem deposit_withdraw_no_gain_reachable (hr : Reachable keccak s) {tok' : Erc20} {s₂ : WATTxSwap}
    {tokenA tokenB amountADesired amountBDesired amountAMin amountBMin amountA amountB lp : Nat}
    {outAMin outBMin outA outB : Nat}
    (hadd : addLiquidity keccak tok s sender tokenA tokenB amountADesired amountBDesired amountAMin
      amountBMin = .ok ((amountA, amountB, lp), s'))
    (hrem : removeLiquidity keccak tok' s' sender tokenA tokenB lp outAMin outBMin =
      .ok ((outA, outB), s₂)) :
    outA ≤ amountA ∧ outB ≤ amountB := by
  obtain ⟨pool, a0, a1, pool', hp, hm, hA, rfl⟩ := addLiquidity_mint hadd
  obtain ⟨q, o0, o1, -, hq, ho, -, hO, -⟩ := removeLiquidity_payout hrem
  obtain rfl : q = pool' := by
    simpa only [setPool, StdMap.find?_insert, Option.some.injEq] using hq.symm
  have hT : 0 < pool.totalLiquidity ∨ pool.reserve0 = 0 ∧ pool.reserve1 = 0 := by
    rcases emptyOrFunded_of_reachable hr _ _ hp with ⟨-, h0, h1⟩ | ⟨hT, -⟩
    exacts [.inr ⟨h0, h1⟩, .inl hT]
  obtain ⟨k0, k1⟩ := Pool.mint_burnAmounts_le hT hm ho
  split_ifs at hA hO <;> simp only [Prod.mk.injEq] at hA hO <;> omega

/-- Account `2` deposits 999 of each token, naming the pair in the other order, and withdraws
the 749 LP minted: 998 of each. -/
theorem deposit_withdraw_rounded_reachable :
    Reachable encodePacked depositedSwap ∧ ∃ s₂,
      addLiquidity encodePacked Erc20.accepting depositedSwap 2 3 2 999 999 0 0 =
        .ok ((999, 999, 749), depositedSwap.setPool (encodePacked 2 3) SimpleDEX.roundedPool) ∧
      removeLiquidity encodePacked Erc20.accepting
          (depositedSwap.setPool (encodePacked 2 3) SimpleDEX.roundedPool) 2 3 2 749 0 0 =
        .ok ((998, 998), s₂) ∧ 998 ≤ 999 ∧ 998 ≤ 999 := by
  have hr := depositedSwap_reachable
  have h₁ : addLiquidity encodePacked Erc20.accepting depositedSwap 2 3 2 999 999 0 0 =
      .ok ((999, 999, 749), depositedSwap.setPool (encodePacked 2 3) SimpleDEX.roundedPool) := rfl
  obtain ⟨s₂, h₂⟩ : ∃ s₂, removeLiquidity encodePacked Erc20.accepting
      (depositedSwap.setPool (encodePacked 2 3) SimpleDEX.roundedPool) 2 3 2 749 0 0 = .ok ((998, 998), s₂) :=
    ⟨_, rfl⟩
  exact ⟨hr, s₂, h₁, h₂, deposit_withdraw_no_gain_reachable hr h₁ h₂⟩

/-- With `m + 1` of the output reserve left over, an input `a` quotes at least `out` exactly
when it covers the price's numerator, `rIn·out·bps ≤ (m + 1)·f·a`. -/
lemma quote_covers_iff {bps f rIn out m a : Nat} :
    out * (rIn * bps + a * f) ≤ a * f * (out + m + 1) ↔ rIn * out * bps ≤ (m + 1) * f * a := by
  constructor <;> intro h <;> linarith

/-- **`getAmountIn` asks for at most one more than the least input that buys the output.** The
input it prices for `amountOut`, quoted back through `getAmountOut`, buys at least `amountOut`;
and any input that `getAmountOut` quotes at `amountOut` or more is at least the price less one.
The price is `⌊rIn·out·10000 / ((rOut - out)·9970)⌋ + 1`, so it is the least such input, or one
more when that division is exact. -/
theorem getAmountIn_tight {amountOut reserveIn reserveOut amountIn : Nat}
    (h : getAmountIn amountOut reserveIn reserveOut = .ok amountIn) :
    (∀ o, getAmountOut amountIn reserveIn reserveOut = .ok o → amountOut ≤ o) ∧
      ∀ a o, getAmountOut a reserveIn reserveOut = .ok o → amountOut ≤ o → amountIn ≤ a + 1 := by
  obtain ⟨hlt, rfl⟩ := getAmountIn_eq h
  obtain ⟨m, rfl⟩ := Nat.exists_eq_add_of_lt hlt
  rw [show amountOut + m + 1 - amountOut = m + 1 by omega]
  have hD : 0 < (m + 1) * (BPS_DENOMINATOR - FEE_BPS) := by simp only [BPS_DENOMINATOR, FEE_BPS]; omega
  refine ⟨fun o ho => ?_, fun a o ho hle => ?_⟩
  · obtain ⟨hpos, rfl⟩ := Pool.quoteOut_eq (getAmountOut_eq ho).2.2
    exact (Nat.le_div_iff_mul_le hpos).2 (quote_covers_iff.2 (Nat.lt_mul_div_succ _ hD).le)
  · obtain ⟨hpos, rfl⟩ := Pool.quoteOut_eq (getAmountOut_eq ho).2.2
    exact Nat.succ_le_succ (Nat.div_le_of_le_mul (quote_covers_iff.1 ((Nat.le_div_iff_mul_le hpos).1 hle)))

/-- The price of 100 out of reserves of 1000 each is `⌊10⁹ / 8973000⌋ + 1 = 112`. -/
theorem getAmountIn_tight_hundred :
    getAmountIn 100 1000 1000 = .ok 112 ∧
      (∀ o, getAmountOut 112 1000 1000 = .ok o → 100 ≤ o) ∧
      ∀ a o, getAmountOut a 1000 1000 = .ok o → 100 ≤ o → 112 ≤ a + 1 :=
  ⟨rfl, getAmountIn_tight rfl⟩

/-- When the division is exact the price is one more than needed: 101 for 1 out of 997 and 11,
where 100 buys it. -/
example : getAmountIn 1 997 11 = .ok 101 ∧ getAmountOut 100 997 11 = .ok 1 := by decide

end WATTxSwap

end WattxCore
