import WattxCore.Prelude.StdMap
import WattxCore.Dex.Checked

/-!
The liquidity books of the two DEX contracts, `SimpleDEX` and a `WATTxSwap` pool. Both keep two
reserves, an LP total and LP balances, mint LP on a deposit, burn it on a withdrawal and move
the reserves on a swap with the same statements; `Pool.mint`, `Pool.burn` and
`Pool.settleSwap` are those statements, shared by both contracts' functions.

* `Erc20`: the answers of the token calls, which every transfer `require`s;
* `Pool.LpBooks`: **the LP balances sum to the LP total plus `liquidity[address(0)]`, and that
  balance is the minimum from the first deposit on**; `mint`, `burn` and `settleSwap` keep it,
  for callers other than `address(0)`;
* `Pool.burn_whole`: a provider who holds the whole LP total withdraws the whole reserves.
-/

namespace WattxCore

/-- An EVM address; `0` is `address(0)`. -/
abbrev Address := Nat

/-- The answers of the token calls a contract makes: `transferFrom(from, address(this), amount)`
and `transfer(to, amount)` on a token. The token contracts' balances are not modelled; a call
the token refuses makes the contract revert. -/
structure Erc20 where
  transferFrom : Address → Address → Nat → Bool
  transfer : Address → Address → Nat → Bool

/-- Tokens that accept every transfer. -/
def Erc20.accepting : Erc20 := ⟨fun _ _ _ => true, fun _ _ _ => true⟩

/-- An LP balance, `liquidity[a]`: zero for an address never credited. -/
def lpOf (liquidity : StdMap Address Nat) (a : Address) : Nat := (liquidity.find? a).getD 0

/-- `Σ_a liquidity[a]`. -/
def lpSum (liquidity : StdMap Address Nat) : Int := liquidity.sumBy fun (_ : Address) (v : Nat) => (v : Int)

lemma lpSum_insert (liquidity : StdMap Address Nat) (a : Address) (v : Nat) :
    lpSum (liquidity.insert a v) = lpSum liquidity - lpOf liquidity a + v := by
  have h : lpSum (liquidity.insert a v) + (liquidity.find? a).elim 0 (fun w => (w : Int)) =
      lpSum liquidity + v := StdMap.sumBy_insert _ liquidity a v
  unfold lpOf
  cases hf : liquidity.find? a <;> rw [hf] at h <;> simp only [Option.elim, Option.getD_none, Option.getD_some] at h ⊢ <;> omega

@[simp] lemma lpOf_empty (a : Address) : lpOf StdMap.empty a = 0 := rfl

@[simp] lemma lpOf_insert (liquidity : StdMap Address Nat) (a b : Address) (v : Nat) :
    lpOf (liquidity.insert a v) b = if a = b then v else lpOf liquidity b := by
  unfold lpOf; rw [StdMap.find?_insert_eq]; split_ifs <;> rfl

/-- The books of a pool: its tokens, reserves, LP total and LP balances. -/
structure Pool where
  token0 : Address
  token1 : Address
  reserve0 : Nat
  reserve1 : Nat
  totalLiquidity : Nat
  liquidity : StdMap Address Nat

namespace Pool

/-- The LP a deposit mints, and the balances it starts from: the first deposit mints
`sqrt(amount0 * amount1) - minimum` and sets `liquidity[address(0)] = minimum`; a later one mints
in proportion to the smaller side. -/
def mintShares (pool : Pool) (minimum amount0 amount1 : Nat) : Except Revert (Nat × StdMap Address Nat) :=
  if pool.totalLiquidity = 0 then do
    let lp ← checkedSub (← sqrt (← checkedMul amount0 amount1)) minimum
    pure (lp, pool.liquidity.insert 0 minimum)
  else do
    let lp0 ← checkedDiv (← checkedMul amount0 pool.totalLiquidity) pool.reserve0
    let lp1 ← checkedDiv (← checkedMul amount1 pool.totalLiquidity) pool.reserve1
    pure (if lp0 < lp1 then lp0 else lp1, pool.liquidity)

/-- The updates of a deposit: the caller's credit, the LP total and the reserves. -/
def credit (pool : Pool) (liq : StdMap Address Nat) (sender : Address) (lp amount0 amount1 : Nat) :
    Except Revert Pool := do
  let balance ← checkedAdd (lpOf liq sender) lp
  let total ← checkedAdd pool.totalLiquidity lp
  let r0 ← checkedAdd pool.reserve0 amount0
  let r1 ← checkedAdd pool.reserve1 amount1
  pure { pool with
    liquidity := liq.insert sender balance
    totalLiquidity := total
    reserve0 := r0
    reserve1 := r1 }

/-- The LP minting of both `addLiquidity`s once the tokens are in: `mintShares`, then
`require(lp > 0, lpZero)` and `credit`. -/
def mint (pool : Pool) (minimum : Nat) (lpZero : String) (sender : Address) (amount0 amount1 : Nat) :
    Except Revert (Nat × Pool) := do
  let (lp, liq) ← pool.mintShares minimum amount0 amount1
  require (lp > 0) lpZero
  let pool' ← pool.credit liq sender lp amount0 amount1
  pure (lp, pool')

/-- What a withdrawal of `lp` pays out: `lp * reserve / totalLiquidity` of each token. -/
def burnAmounts (pool : Pool) (lp : Nat) : Except Revert (Nat × Nat) := do
  let amount0 ← checkedDiv (← checkedMul lp pool.reserve0) pool.totalLiquidity
  let amount1 ← checkedDiv (← checkedMul lp pool.reserve1) pool.totalLiquidity
  pure (amount0, amount1)

/-- The updates of both `removeLiquidity`s. -/
def burn (pool : Pool) (sender : Address) (lp amount0 amount1 : Nat) : Except Revert Pool := do
  let balance ← checkedSub (lpOf pool.liquidity sender) lp
  let total ← checkedSub pool.totalLiquidity lp
  let r0 ← checkedSub pool.reserve0 amount0
  let r1 ← checkedSub pool.reserve1 amount1
  pure { pool with
    liquidity := pool.liquidity.insert sender balance
    totalLiquidity := total
    reserve0 := r0
    reserve1 := r1 }

/-- The output quote of both contracts: with a fee of `feeBps` out of `bps`,
`amountIn * (bps - feeBps) * resOut / (resIn * bps + amountIn * (bps - feeBps))`. -/
def quoteOut (bps feeBps amountIn resIn resOut : Nat) : Except Revert Nat := do
  let amountInWithFee ← checkedMul amountIn (bps - feeBps)
  let numerator ← checkedMul amountInWithFee resOut
  let denominator ← checkedAdd (← checkedMul resIn bps) amountInWithFee
  checkedDiv numerator denominator

/-- The reserve updates of a swap: the input side grows, the output side shrinks. -/
def settleSwap (pool : Pool) (isToken0In : Bool) (amountIn amountOut : Nat) : Except Revert Pool :=
  if isToken0In then do
    let r0 ← checkedAdd pool.reserve0 amountIn
    let r1 ← checkedSub pool.reserve1 amountOut
    pure { pool with reserve0 := r0, reserve1 := r1 }
  else do
    let r1 ← checkedAdd pool.reserve1 amountIn
    let r0 ← checkedSub pool.reserve0 amountOut
    pure { pool with reserve0 := r0, reserve1 := r1 }

/-- An empty pool of two tokens. -/
def empty (token0 token1 : Address) : Pool := ⟨token0, token1, 0, 0, 0, StdMap.empty⟩

/-! ### The LP books -/

/-- The LP balances sum to the LP total plus the balance of `address(0)`, which is the minimum
once anything was minted. -/
structure LpBooks (minimum : Nat) (pool : Pool) : Prop where
  sum : lpSum pool.liquidity = pool.totalLiquidity + lpOf pool.liquidity 0
  zero : 0 < pool.totalLiquidity → lpOf pool.liquidity 0 = minimum

lemma LpBooks.empty (minimum : Nat) (t0 t1 : Address) : (Pool.empty t0 t1).LpBooks minimum :=
  ⟨by simp [Pool.empty, lpSum, lpOf], fun h => absurd h (by simp [Pool.empty])⟩

variable {minimum : Nat} {pool pool' : Pool} {sender : Address}

lemma mintShares_cases {amount0 amount1 lp : Nat} {liq : StdMap Address Nat}
    (h : pool.mintShares minimum amount0 amount1 = .ok (lp, liq)) :
    (pool.totalLiquidity = 0 ∧ liq = pool.liquidity.insert 0 minimum) ∨
      (pool.totalLiquidity ≠ 0 ∧ liq = pool.liquidity) := by
  unfold mintShares at h
  split_ifs at h with h0 <;> simp only [bind_eq_ok, except_pure, Except.ok.injEq, Prod.mk.injEq] at h
  · obtain ⟨_, -, _, -, _, -, -, rfl⟩ := h; exact .inl ⟨h0, rfl⟩
  · obtain ⟨_, -, _, -, _, -, _, -, -, rfl⟩ := h; exact .inr ⟨h0, rfl⟩

/-- A deposit credits the caller and the LP total with the share, and adds the amounts to the
reserves. -/
lemma credit_eq {liq : StdMap Address Nat} {lp amount0 amount1 : Nat}
    (h : pool.credit liq sender lp amount0 amount1 = .ok pool') :
    pool'.liquidity = liq.insert sender (lpOf liq sender + lp) ∧
      pool'.totalLiquidity = pool.totalLiquidity + lp ∧
      pool'.reserve0 = pool.reserve0 + amount0 ∧ pool'.reserve1 = pool.reserve1 + amount1 := by
  simp only [credit, bind_eq_ok, except_pure, Except.ok.injEq] at h
  obtain ⟨_, hb, _, ht, _, h0, _, h1, rfl⟩ := h
  exact ⟨by rw [checkedAdd_eq_ok hb], checkedAdd_eq_ok ht, checkedAdd_eq_ok h0, checkedAdd_eq_ok h1⟩

/-- What a deposit does to the books: the shares it starts from and the credit. -/
lemma mint_ok {lpZero : String} {amount0 amount1 lp : Nat}
    (h : pool.mint minimum lpZero sender amount0 amount1 = .ok (lp, pool')) :
    ∃ liq, pool.mintShares minimum amount0 amount1 = .ok (lp, liq) ∧ 0 < lp ∧
      pool.credit liq sender lp amount0 amount1 = .ok pool' := by
  obtain ⟨⟨lp', liq⟩, hshares, h⟩ := bind_eq_ok.mp h
  simp only [bind_eq_ok, require_eq_ok, except_pure, Except.ok.injEq, Prod.mk.injEq] at h
  obtain ⟨_, hpos, _, hc, rfl, rfl⟩ := h
  exact ⟨liq, hshares, hpos, hc⟩

/-- **Minting keeps the books**, for a caller other than `address(0)`. -/
lemma LpBooks.mint (hB : pool.LpBooks minimum) (hs : sender ≠ 0) {lpZero : String}
    {amount0 amount1 lp : Nat} (h : pool.mint minimum lpZero sender amount0 amount1 = .ok (lp, pool')) :
    pool'.LpBooks minimum := by
  obtain ⟨liq, hshares, -, hc⟩ := mint_ok h
  obtain ⟨hliq, htot, -, -⟩ := credit_eq hc
  have hB0 := hB.sum
  rcases mintShares_cases hshares with ⟨h0, rfl⟩ | ⟨h0, rfl⟩
  · refine ⟨?_, fun _ => by simp [hliq, hs]⟩
    rw [hliq, htot]
    simp only [lpSum_insert, lpOf_insert, if_neg hs, if_neg (Ne.symm hs), if_pos rfl, h0] at hB0 ⊢
    push_cast; omega
  · refine ⟨?_, fun _ => by simpa [hliq, hs] using hB.zero (Nat.pos_of_ne_zero h0)⟩
    rw [hliq, htot]
    simp only [lpSum_insert, lpOf_insert, if_neg hs]
    push_cast; omega

lemma burn_books {lp amount0 amount1 : Nat} (h : pool.burn sender lp amount0 amount1 = .ok pool') :
    lp ≤ lpOf pool.liquidity sender ∧ lp ≤ pool.totalLiquidity ∧
      pool'.liquidity = pool.liquidity.insert sender (lpOf pool.liquidity sender - lp) ∧
      pool'.totalLiquidity = pool.totalLiquidity - lp := by
  simp only [Pool.burn, bind_eq_ok, except_pure, Except.ok.injEq] at h
  obtain ⟨bal, hbal, tot, htot, _, -, _, -, rfl⟩ := h
  obtain ⟨hle, rfl⟩ := checkedSub_eq_ok hbal
  obtain ⟨hle', rfl⟩ := checkedSub_eq_ok htot
  exact ⟨hle, hle', rfl, rfl⟩

/-- **Burning keeps the books**, for a caller other than `address(0)`. -/
lemma LpBooks.burn (hB : pool.LpBooks minimum) (hs : sender ≠ 0) {lp amount0 amount1 : Nat}
    (h : pool.burn sender lp amount0 amount1 = .ok pool') : pool'.LpBooks minimum := by
  obtain ⟨hle, hle', hliq, htot⟩ := burn_books h
  have hB0 := hB.sum
  constructor
  · rw [hliq, htot]
    simp only [lpSum_insert, lpOf_insert, if_neg hs]
    push_cast [hle, hle']; omega
  · intro ht; rw [htot] at ht; simp only [hliq, lpOf_insert, if_neg hs]; exact hB.zero (by omega)

/-- A swap moves only the reserves. -/
lemma settleSwap_books {isToken0In : Bool} {amountIn amountOut : Nat}
    (h : pool.settleSwap isToken0In amountIn amountOut = .ok pool') :
    pool'.liquidity = pool.liquidity ∧ pool'.totalLiquidity = pool.totalLiquidity := by
  unfold settleSwap at h
  split at h <;>
    · simp only [bind_eq_ok, except_pure, Except.ok.injEq] at h
      obtain ⟨_, -, _, -, rfl⟩ := h
      exact ⟨rfl, rfl⟩

lemma LpBooks.settleSwap (hB : pool.LpBooks minimum) {isToken0In : Bool} {amountIn amountOut : Nat}
    (h : pool.settleSwap isToken0In amountIn amountOut = .ok pool') : pool'.LpBooks minimum := by
  obtain ⟨hl, ht⟩ := settleSwap_books h
  exact ⟨hl ▸ ht ▸ hB.sum, hl ▸ ht ▸ hB.zero⟩

/-- With the books kept, the LP balances sum to the LP total plus the minimum once anything was
minted: never to the LP total alone. -/
lemma LpBooks.lpSum_eq (hB : pool.LpBooks minimum) (ht : 0 < pool.totalLiquidity) :
    lpSum pool.liquidity = pool.totalLiquidity + minimum := by
  rw [hB.sum, hB.zero ht]

/-! ### Withdrawing everything -/

/-- **A provider holding the whole LP total withdraws the whole reserves**: the payout of the
whole total is the reserves, and the pool is left with none. -/
lemma burn_whole (hs : lpOf pool.liquidity sender = pool.totalLiquidity) (ht : 0 < pool.totalLiquidity)
    (h0 : pool.totalLiquidity * pool.reserve0 ≤ UINT256_MAX)
    (h1 : pool.totalLiquidity * pool.reserve1 ≤ UINT256_MAX) :
    pool.burnAmounts pool.totalLiquidity = .ok (pool.reserve0, pool.reserve1) ∧
      ∃ pool', pool.burn sender pool.totalLiquidity pool.reserve0 pool.reserve1 = .ok pool' ∧
        pool'.reserve0 = 0 ∧ pool'.reserve1 = 0 ∧ pool'.totalLiquidity = 0 := by
  refine ⟨?_, { pool with
      liquidity := pool.liquidity.insert sender 0
      totalLiquidity := 0
      reserve0 := 0
      reserve1 := 0 }, ?_, rfl, rfl, rfl⟩
  · simp [burnAmounts, checkedMul, checkedDiv, h0, h1, ht.ne', Nat.mul_div_cancel_left _ ht, bind,
      Except.bind]
  · simp [burn, checkedSub, hs, bind, Except.bind]

end Pool

end WattxCore
