import WattxCore.Dex.WATTxSwap

/-!
The constant-product law of the swaps of `SimpleDEX` and `WATTxSwap`. Both quote an exact-input
swap as `⌊a·f·rOut / (rIn·bps + a·f)⌋` with `f = bps - feeBps`, and `WATTxSwap` prices an
exact-output swap as `⌊rIn·out·bps / ((rOut - out)·f)⌋ + 1`; `settleSwap` then moves the
reserves.

* `quoteOut_eq`, `getAmountIn_eq`, `settleSwap_product`: what a quote, a price and a
  settlement that return compute;
* `quote_lt`, `product_le_of_quote`, `product_le_of_amountIn`: the floor-division facts, that the
  quote stays below the output reserve and that neither rounding lowers `rIn·rOut`;
* `swap_keeps_product`: **every swap of either contract that returns, against positive reserves,
  pays out less than the output reserve and leaves `reserve0·reserve1` at least as large**.
-/

namespace WattxCore

namespace Pool

variable {pool pool' : Pool}

/-- A quote that returns is the floor `a·f·rOut / (rIn·bps + a·f)`, `f = bps - feeBps`, over a
positive denominator. -/
lemma quoteOut_eq {bps feeBps a rIn rOut out : Nat} (h : quoteOut bps feeBps a rIn rOut = .ok out) :
    0 < rIn * bps + a * (bps - feeBps) ∧
      out = a * (bps - feeBps) * rOut / (rIn * bps + a * (bps - feeBps)) := by
  simp only [quoteOut, bind_eq_ok] at h
  obtain ⟨w, hw, n, hn, x, hx, d, hd, hq⟩ := h
  obtain ⟨hpos, rfl⟩ := checkedDiv_eq_ok hq
  rw [checkedMul_eq_ok hw] at hn hd
  rw [checkedMul_eq_ok hn, checkedAdd_eq_ok hd, checkedMul_eq_ok hx] at *
  exact ⟨hpos, rfl⟩

/-- Against positive reserves the quote is below the output reserve. -/
lemma quote_lt {bps f a rIn rOut : Nat} (hbps : 0 < bps) (hIn : 0 < rIn) (hOut : 0 < rOut) :
    a * f * rOut / (rIn * bps + a * f) < rOut := by
  apply Nat.div_lt_of_lt_mul
  rw [Nat.add_mul]
  have := Nat.mul_pos (Nat.mul_pos hIn hbps) hOut
  omega

/-- Paying out `out` with `out·(rIn·bps + a·f) ≤ a·f·rOut` and `f ≤ bps` for an input `a`
leaves `(rIn + a)·(rOut - out) ≥ rIn·rOut`. -/
lemma product_le_of_quote {bps f a rIn rOut out : Nat} (hbps : 0 < bps) (hf : f ≤ bps)
    (hout : out ≤ rOut) (hq : out * (rIn * bps + a * f) ≤ a * f * rOut) :
    rIn * rOut ≤ (rIn + a) * (rOut - out) := by
  obtain ⟨m, rfl⟩ := Nat.exists_eq_add_of_le hout
  rw [Nat.add_sub_cancel_left]
  have h1 : out * rIn * bps ≤ a * m * bps := by linarith [Nat.mul_le_mul_left (a * m) hf]
  have h2 := Nat.le_of_mul_le_mul_right h1 hbps
  linarith

/-- Taking in `⌊rIn·out·bps / (m·f)⌋ + 1` for `out`, with `m` left of the output reserve,
leaves `(rIn + aIn)·m ≥ rIn·(out + m)`. -/
lemma product_le_of_amountIn {bps f rIn m out : Nat} (hf0 : 0 < f) (hf : f ≤ bps) (hm : 0 < m) :
    rIn * (out + m) ≤ (rIn + (rIn * out * bps / (m * f) + 1)) * m := by
  have h1 := Nat.lt_mul_div_succ (rIn * out * bps) (Nat.mul_pos hm hf0)
  have h2 : rIn * out * f < m * (rIn * out * bps / (m * f) + 1) * f := by
    linarith [Nat.mul_le_mul_left (rIn * out) hf]
  have h3 := Nat.lt_of_mul_lt_mul_right h2
  linarith

/-- A settlement that returns: the output fits in the output reserve, and the reserve products
before and after are those of the input and output reserves. -/
lemma settleSwap_product {b : Bool} {a out : Nat} (h : pool.settleSwap b a out = .ok pool') :
    out ≤ (WATTxSwap.swapReserves pool b).2 ∧
      pool'.reserve0 * pool'.reserve1 =
        ((WATTxSwap.swapReserves pool b).1 + a) * ((WATTxSwap.swapReserves pool b).2 - out) ∧
      pool.reserve0 * pool.reserve1 = (WATTxSwap.swapReserves pool b).1 * (WATTxSwap.swapReserves pool b).2 := by
  unfold settleSwap at h
  cases b <;> simp only [Bool.false_eq_true, if_false, if_true, bind_eq_ok, except_pure,
    Except.ok.injEq] at h <;> obtain ⟨x, hx, y, hy, rfl⟩ := h
  · obtain ⟨hle, rfl⟩ := checkedSub_eq_ok hy
    rw [checkedAdd_eq_ok hx]
    simp only [WATTxSwap.swapReserves, Bool.false_eq_true, if_false]
    exact ⟨hle, Nat.mul_comm _ _, Nat.mul_comm _ _⟩
  · obtain ⟨hle, rfl⟩ := checkedSub_eq_ok hy
    rw [checkedAdd_eq_ok hx]
    exact ⟨hle, rfl, rfl⟩

lemma swapReserves_pos (h0 : 0 < pool.reserve0) (h1 : 0 < pool.reserve1) (b : Bool) :
    0 < (WATTxSwap.swapReserves pool b).1 ∧ 0 < (WATTxSwap.swapReserves pool b).2 := by
  cases b <;> exact ⟨by assumption, by assumption⟩

/-- An exact-input swap quoted and settled against positive reserves pays out less than the
output reserve and does not lower the reserve product. -/
lemma quoted_swap {bps feeBps a out : Nat} {b : Bool} (hbps : 0 < bps)
    (h0 : 0 < pool.reserve0) (h1 : 0 < pool.reserve1)
    (hq : quoteOut bps feeBps a (WATTxSwap.swapReserves pool b).1 (WATTxSwap.swapReserves pool b).2 = .ok out)
    (hs : pool.settleSwap b a out = .ok pool') :
    out < (WATTxSwap.swapReserves pool b).2 ∧ pool.reserve0 * pool.reserve1 ≤ pool'.reserve0 * pool'.reserve1 := by
  obtain ⟨hIn, hOut⟩ := swapReserves_pos h0 h1 b
  obtain ⟨-, rfl⟩ := quoteOut_eq hq
  obtain ⟨hle, hafter, hbefore⟩ := settleSwap_product hs
  refine ⟨quote_lt hbps hIn hOut, ?_⟩
  rw [hafter, hbefore]
  exact product_le_of_quote hbps (Nat.sub_le _ _) hle (Nat.div_mul_le_self _ _)

/-- An exact-output swap priced and settled does not lower the reserve product. -/
lemma exact_out_swap {bps f a out : Nat} {b : Bool} (hf0 : 0 < f) (hf : f ≤ bps)
    (hlt : out < (WATTxSwap.swapReserves pool b).2)
    (ha : a = (WATTxSwap.swapReserves pool b).1 * out * bps / (((WATTxSwap.swapReserves pool b).2 - out) * f) + 1)
    (hs : pool.settleSwap b a out = .ok pool') :
    pool.reserve0 * pool.reserve1 ≤ pool'.reserve0 * pool'.reserve1 := by
  obtain ⟨-, hafter, hbefore⟩ := settleSwap_product hs
  rw [hafter, hbefore, ha]
  obtain ⟨m, hm⟩ := Nat.exists_eq_add_of_lt hlt
  rw [hm, Nat.add_assoc, Nat.add_sub_cancel_left]
  exact product_le_of_amountIn hf0 hf (Nat.succ_pos m)

end Pool

namespace WATTxSwap

variable {keccak : Address → Address → Nat} {tok : Erc20} {s s' : WATTxSwap} {sender : Address}

/-- **Inversion of `swapExactTokensForTokens`**: the pool of the pair, its quote and its
settlement. -/
lemma swapExact_quote {amountIn amountOutMin tokenIn tokenOut r : Nat}
    (h : swapExactTokensForTokens keccak tok s sender amountIn amountOutMin tokenIn tokenOut = .ok (r, s')) :
    ∃ pool pool', s.pools.find? (getPoolId keccak tokenIn tokenOut) = some pool ∧
      getAmountOut amountIn (swapReserves pool (decide (tokenIn < tokenOut))).1
        (swapReserves pool (decide (tokenIn < tokenOut))).2 = .ok r ∧
      pool.settleSwap (decide (tokenIn < tokenOut)) amountIn r = .ok pool' ∧
      s' = s.setPool (getPoolId keccak tokenIn tokenOut) pool' := by
  simp only [swapExactTokensForTokens, bind_eq_ok, require_eq_ok, except_pure, Except.ok.injEq,
    Prod.mk.injEq] at h
  obtain ⟨pool, hpool, q, hq, _, -, _, -, _, -, pool', hs, hr, rfl⟩ := h
  subst hr
  exact ⟨pool, pool', poolAt_ok hpool, hq, hs, rfl⟩


lemma getAmountOut_eq {a rIn rOut out : Nat} (h : getAmountOut a rIn rOut = .ok out) :
    0 < rIn ∧ 0 < rOut ∧ Pool.quoteOut BPS_DENOMINATOR FEE_BPS a rIn rOut = .ok out := by
  simp only [getAmountOut, bind_eq_ok, require_eq_ok] at h
  obtain ⟨_, -, _, ⟨h0, h1⟩, hq⟩ := h
  exact ⟨h0, h1, hq⟩

/-- A price that returns: the output is below the output reserve and the input is
`⌊rIn·out·10000 / ((rOut - out)·9970)⌋ + 1`. -/
lemma getAmountIn_eq {out rIn rOut a : Nat} (h : getAmountIn out rIn rOut = .ok a) :
    out < rOut ∧ a = rIn * out * BPS_DENOMINATOR / ((rOut - out) * (BPS_DENOMINATOR - FEE_BPS)) + 1 := by
  simp only [getAmountIn, bind_eq_ok, require_eq_ok] at h
  obtain ⟨_, -, _, -, _, hlt, x, hx, n, hn, y, hy, d, hd, q, hq, ha⟩ := h
  obtain ⟨-, rfl⟩ := checkedDiv_eq_ok hq
  obtain ⟨-, rfl⟩ := checkedSub_eq_ok hy
  rw [checkedAdd_eq_ok ha, checkedMul_eq_ok hn, checkedMul_eq_ok hx, checkedMul_eq_ok hd]
  exact ⟨hlt, rfl⟩

/-- **Inversion of `swapTokensForExactTokens`**: the pool of the pair, its price and its
settlement. -/
lemma swapForExact_quote {amountOut amountInMax tokenIn tokenOut r : Nat}
    (h : swapTokensForExactTokens keccak tok s sender amountOut amountInMax tokenIn tokenOut = .ok (r, s')) :
    ∃ pool pool', s.pools.find? (getPoolId keccak tokenIn tokenOut) = some pool ∧
      getAmountIn amountOut (swapReserves pool (decide (tokenIn < tokenOut))).1
        (swapReserves pool (decide (tokenIn < tokenOut))).2 = .ok r ∧
      pool.settleSwap (decide (tokenIn < tokenOut)) r amountOut = .ok pool' ∧
      s' = s.setPool (getPoolId keccak tokenIn tokenOut) pool' := by
  simp only [swapTokensForExactTokens, bind_eq_ok, require_eq_ok, except_pure, Except.ok.injEq,
    Prod.mk.injEq] at h
  obtain ⟨pool, hpool, q, hq, _, -, _, -, _, -, pool', hs, hr, rfl⟩ := h
  subst hr
  exact ⟨pool, pool', poolAt_ok hpool, hq, hs, rfl⟩

end WATTxSwap

namespace SimpleDEX

/-- **Inversion of `swap`**: the quote against the reserves of `tokenIn`'s side, and the
settlement. -/
lemma swap_quote {tok : Erc20} {dex dex' : Pool} {sender tokenIn amountIn minOut amountOut : Nat}
    (h : swap tok dex sender tokenIn amountIn minOut = .ok (amountOut, dex')) :
    Pool.quoteOut BPS FEE_BPS amountIn (WATTxSwap.swapReserves dex (tokenIn == dex.token0)).1
        (WATTxSwap.swapReserves dex (tokenIn == dex.token0)).2 = .ok amountOut ∧
      dex.settleSwap (tokenIn == dex.token0) amountIn amountOut = .ok dex' := by
  simp only [swap, bind_eq_ok, require_eq_ok, except_pure, Except.ok.injEq, Prod.mk.injEq] at h
  obtain ⟨_, -, _, -, q, hq, _, -, _, -, _, -, _, hs, rfl, rfl⟩ := h
  refine ⟨?_, hs⟩
  revert hq
  cases tokenIn == dex.token0 <;> exact id

end SimpleDEX

open WATTxSwap in
/-- **The constant-product law**: a swap of `SimpleDEX`, and either swap of `WATTxSwap`, that
returns against positive reserves pays out less than the output-side reserve and leaves the
product of the reserves at least as large. -/
theorem swap_keeps_product :
    (∀ (tok : Erc20) (dex dex' : Pool) (sender tokenIn amountIn minOut amountOut : Nat),
      0 < dex.reserve0 → 0 < dex.reserve1 →
      SimpleDEX.swap tok dex sender tokenIn amountIn minOut = .ok (amountOut, dex') →
      amountOut < (if tokenIn = dex.token0 then dex.reserve1 else dex.reserve0) ∧
        dex.reserve0 * dex.reserve1 ≤ dex'.reserve0 * dex'.reserve1) ∧
    (∀ (keccak : Address → Address → Nat) (tok : Erc20) (s s' : WATTxSwap) (pool : Pool)
        (sender amountIn amountOutMin tokenIn tokenOut amountOut : Nat),
      s.pools.find? (getPoolId keccak tokenIn tokenOut) = some pool →
      0 < pool.reserve0 → 0 < pool.reserve1 →
      swapExactTokensForTokens keccak tok s sender amountIn amountOutMin tokenIn tokenOut =
        .ok (amountOut, s') →
      ∃ pool', s'.pools.find? (getPoolId keccak tokenIn tokenOut) = some pool' ∧
        amountOut < (swapReserves pool (decide (tokenIn < tokenOut))).2 ∧
        pool.reserve0 * pool.reserve1 ≤ pool'.reserve0 * pool'.reserve1) ∧
    (∀ (keccak : Address → Address → Nat) (tok : Erc20) (s s' : WATTxSwap) (pool : Pool)
        (sender amountOut amountInMax tokenIn tokenOut amountIn : Nat),
      s.pools.find? (getPoolId keccak tokenIn tokenOut) = some pool →
      0 < pool.reserve0 → 0 < pool.reserve1 →
      swapTokensForExactTokens keccak tok s sender amountOut amountInMax tokenIn tokenOut =
        .ok (amountIn, s') →
      ∃ pool', s'.pools.find? (getPoolId keccak tokenIn tokenOut) = some pool' ∧
        amountOut < (swapReserves pool (decide (tokenIn < tokenOut))).2 ∧
        pool.reserve0 * pool.reserve1 ≤ pool'.reserve0 * pool'.reserve1) := by
  refine ⟨fun tok dex dex' sender tokenIn amountIn minOut amountOut h0 h1 h => ?_,
    fun keccak tok s s' pool sender amountIn amountOutMin tokenIn tokenOut amountOut hp h0 h1 h => ?_,
    fun keccak tok s s' pool sender amountOut amountInMax tokenIn tokenOut amountIn hp h0 h1 h => ?_⟩
  · obtain ⟨hq, hs⟩ := SimpleDEX.swap_quote h
    have := Pool.quoted_swap (by decide) h0 h1 hq hs
    simpa [swapReserves, apply_ite] using this
  · obtain ⟨pool₁, pool', hp₁, hq, hs, rfl⟩ := swapExact_quote h
    obtain rfl : pool₁ = pool := Option.some.inj (hp₁.symm.trans hp)
    obtain ⟨-, -, hq⟩ := getAmountOut_eq hq
    exact ⟨pool', by simp [setPool], Pool.quoted_swap (by decide) h0 h1 hq hs⟩
  · obtain ⟨pool₁, pool', hp₁, ha, hs, rfl⟩ := swapForExact_quote h
    obtain rfl : pool₁ = pool := Option.some.inj (hp₁.symm.trans hp)
    obtain ⟨hlt, ha⟩ := getAmountIn_eq ha
    exact ⟨pool', by simp [setPool], hlt, Pool.exact_out_swap (by decide) (Nat.sub_le _ _) hlt ha hs⟩

/-- A `SimpleDEX` pool of tokens `10` and `20` holding 4000 of each. -/
def fundedPool : Pool := { Pool.empty 10 20 with reserve0 := 4000, reserve1 := 4000 }

/-- `fundedPool` after 1000 of token `10` were swapped for 798 of token `20`. -/
def swappedPool : Pool := { fundedPool with reserve0 := 5000, reserve1 := 3202 }

/-- A `WATTxSwap` whose one pool, of tokens `10` and `20`, is `fundedPool`. -/
def fundedSwap : WATTxSwap := ⟨StdMap.empty.insert (encodePacked 10 20) fundedPool, [encodePacked 10 20]⟩

open WATTxSwap in
/-- 1000 of token `10` buy 798 of token `20` in each contract, by `SimpleDEX.swap` and by
`swapExactTokensForTokens`; `swapTokensForExactTokens` prices those 798 at 1000. -/
theorem swap_keeps_product_funded :
    0 < fundedPool.reserve0 ∧ 0 < fundedPool.reserve1 ∧
      (SimpleDEX.swap Erc20.accepting fundedPool 1 10 1000 0 = .ok (798, swappedPool) ∧
        798 < (if 10 = fundedPool.token0 then fundedPool.reserve1 else fundedPool.reserve0) ∧
        fundedPool.reserve0 * fundedPool.reserve1 ≤ swappedPool.reserve0 * swappedPool.reserve1) ∧
      fundedSwap.pools.find? (getPoolId encodePacked 10 20) = some fundedPool ∧
      (swapExactTokensForTokens encodePacked Erc20.accepting fundedSwap 1 1000 0 10 20 =
          .ok (798, fundedSwap.setPool (encodePacked 10 20) swappedPool) ∧
        ∃ pool', (fundedSwap.setPool (encodePacked 10 20) swappedPool).pools.find?
            (getPoolId encodePacked 10 20) = some pool' ∧
          798 < (swapReserves fundedPool (decide (10 < 20))).2 ∧
          fundedPool.reserve0 * fundedPool.reserve1 ≤ pool'.reserve0 * pool'.reserve1) ∧
      (swapTokensForExactTokens encodePacked Erc20.accepting fundedSwap 1 798 1000 10 20 =
          .ok (1000, fundedSwap.setPool (encodePacked 10 20) swappedPool) ∧
        ∃ pool', (fundedSwap.setPool (encodePacked 10 20) swappedPool).pools.find?
            (getPoolId encodePacked 10 20) = some pool' ∧
          798 < (swapReserves fundedPool (decide (10 < 20))).2 ∧
          fundedPool.reserve0 * fundedPool.reserve1 ≤ pool'.reserve0 * pool'.reserve1) :=
  have h₀ : 0 < fundedPool.reserve0 := by decide
  have h₁ : 0 < fundedPool.reserve1 := by decide
  have hp : fundedSwap.pools.find? (getPoolId encodePacked 10 20) = some fundedPool :=
    StdMap.find?_insert _ _ _
  have hs : SimpleDEX.swap Erc20.accepting fundedPool 1 10 1000 0 = .ok (798, swappedPool) := by rfl
  have hi : swapExactTokensForTokens encodePacked Erc20.accepting fundedSwap 1 1000 0 10 20 =
      .ok (798, fundedSwap.setPool (encodePacked 10 20) swappedPool) := by rfl
  have ho : swapTokensForExactTokens encodePacked Erc20.accepting fundedSwap 1 798 1000 10 20 =
      .ok (1000, fundedSwap.setPool (encodePacked 10 20) swappedPool) := by rfl
  ⟨h₀, h₁, ⟨hs, swap_keeps_product.1 _ _ _ _ _ _ _ _ h₀ h₁ hs⟩, hp,
    ⟨hi, swap_keeps_product.2.1 _ _ _ _ _ _ _ _ _ _ _ hp h₀ h₁ hi⟩,
    ⟨ho, swap_keeps_product.2.2 _ _ _ _ _ _ _ _ _ _ _ hp h₀ h₁ ho⟩⟩

end WattxCore
