import WattxCore.Dex.ConstantProduct

/-!
`TinyDEX` (`contracts/dex/SimpleTest.sol`): a smaller constant-product pool of two tokens with a
0.3% fee, written as `997/1000`. Its storage is one `Pool` (`totalLP` is `totalLiquidity`, `lp`
is `liquidity`); the owner the constructor records is read by no function. Unlike `SimpleDEX` it
checks no amount and no minted share, locks no minimum, and has no function that takes
liquidity out.

* `constructor`, `lpShares`, `addLiq`, `swap`: the contract's functions, each reverting with the
  reason of the `require` that fails; `lpShares` is the share computation of `addLiq`;
* `Op`, `step`, `run`, `Reachable`: calls from any accounts but `address(0)`, each call with its
  own answers of the tokens;
* `Books`, `Grows`: the LP balances sum to the LP total; from one state to a later one no LP
  balance, not the LP total and not the reserve product decreases. `step_books`, `step_grows`:
  one call keeps the first and makes the second;
* `tiny_dex_runs`: **in every reachable state the LP balances sum to `totalLP`, and over every
  run no LP balance, the LP total or the reserve product decreases: what a provider deposits
  leaves the pool only as a swap's output**;
* `zero_share_deposit_drained`: **a first deposit with nothing of token 0 mints no LP, and the
  next swap of any amount of token 0 pays out the whole deposit of token 1**.
-/

namespace WattxCore

namespace TinyDEX

/-- `constructor(_t0, _t1)`: the tokens as given. -/
def constructor (_t0 _t1 : Address) : Pool := Pool.empty _t0 _t1

section Calls

variable (tok : Erc20) (dex : Pool) (sender : Address)

/-- The share `addLiq` mints: `sqrt(a0 * a1)` into a pool without LP, else the smaller of the
two proportional shares. -/
def lpShares (a0 a1 : Nat) : Except Revert Nat :=
  if dex.totalLiquidity = 0 then do sqrt (← checkedMul a0 a1)
  else do
    let lp0 ← checkedDiv (← checkedMul a0 dex.totalLiquidity) dex.reserve0
    let lp1 ← checkedDiv (← checkedMul a1 dex.totalLiquidity) dex.reserve1
    pure (if lp0 < lp1 then lp0 else lp1)

/-- `addLiq(a0, a1)`, returning the LP minted. -/
def addLiq (a0 a1 : Nat) : Except Revert (Nat × Pool) := do
  require (tok.transferFrom dex.token0 sender a0) "tf0"
  require (tok.transferFrom dex.token1 sender a1) "tf1"
  let lpAmt ← lpShares dex a0 a1
  let dex' ← dex.credit dex.liquidity sender lpAmt a0 a1
  pure (lpAmt, dex')

/-- `swap(tin, ain, minOut)`, returning the amount paid out. -/
def swap (tin ain minOut : Nat) : Except Revert (Nat × Pool) := do
  require (tin = dex.token0 ∨ tin = dex.token1) "bad"
  let is0 := tin == dex.token0
  let ri := if is0 then dex.reserve0 else dex.reserve1
  let ro := if is0 then dex.reserve1 else dex.reserve0
  let tout := if is0 then dex.token1 else dex.token0
  let aout ← Pool.quoteOut 1000 3 ain ri ro
  require (aout ≥ minOut) "slip"
  require (tok.transferFrom tin sender ain) "ti"
  require (tok.transfer tout sender aout) "to"
  let dex' ← dex.settleSwap is0 ain aout
  pure (aout, dex')

end Calls

/-- A call of the contract, by `sender`. -/
inductive Op
  | addLiq (sender a0 a1 : Nat)
  | swap (sender tin ain minOut : Nat)
  deriving DecidableEq, Repr

/-- The caller, `msg.sender`. -/
def Op.sender : Op → Address
  | .addLiq s .. | .swap s .. => s

/-- The storage a call that returns leaves. -/
def step (tok : Erc20) (dex : Pool) : Op → Except Revert Pool
  | .addLiq s a0 a1 => Prod.snd <$> addLiq tok dex s a0 a1
  | .swap s tin ain minOut => Prod.snd <$> swap tok dex s tin ain minOut

/-- Calls from `dex` on that all return, with the same answers of the tokens. -/
def run (tok : Erc20) (dex : Pool) (ops : List Op) : Except Revert Pool :=
  ops.foldlM (step tok) dex

/-- The states of a deployed `TinyDEX`: the constructor's, and those that returning calls lead
to. No call comes from `address(0)`, and each call meets its own answers of the tokens. -/
inductive Reachable : Pool → Prop
  | deploy (t0 t1 : Address) : Reachable (constructor t0 t1)
  | call {dex dex' : Pool} (tok : Erc20) (op : Op) (hr : Reachable dex) (hs : op.sender ≠ 0)
      (h : step tok dex op = .ok dex') : Reachable dex'

/-- The LP balances sum to the LP total, and `address(0)` holds none. -/
structure Books (dex : Pool) : Prop where
  sum : lpSum dex.liquidity = dex.totalLiquidity
  zero : lpOf dex.liquidity 0 = 0

/-- From `dex` to `dex'` no LP balance, not the LP total and not the reserve product
decreases. -/
structure Grows (dex dex' : Pool) : Prop where
  lp : ∀ a, lpOf dex.liquidity a ≤ lpOf dex'.liquidity a
  total : dex.totalLiquidity ≤ dex'.totalLiquidity
  product : dex.reserve0 * dex.reserve1 ≤ dex'.reserve0 * dex'.reserve1

namespace Grows

lemma refl (dex : Pool) : Grows dex dex := ⟨fun _ => le_rfl, le_rfl, le_rfl⟩

lemma trans {dex₁ dex₂ dex₃ : Pool} (h₁ : Grows dex₁ dex₂) (h₂ : Grows dex₂ dex₃) :
    Grows dex₁ dex₃ :=
  ⟨fun a => (h₁.lp a).trans (h₂.lp a), h₁.total.trans h₂.total, h₁.product.trans h₂.product⟩

end Grows

/-! ### One call -/

variable {tok : Erc20} {dex dex' : Pool} {sender : Address}

/-- **Inversion of `addLiq`**: the share and the credit. -/
lemma addLiq_ok {a0 a1 lp : Nat} (h : addLiq tok dex sender a0 a1 = .ok (lp, dex')) :
    lpShares dex a0 a1 = .ok lp ∧ dex.credit dex.liquidity sender lp a0 a1 = .ok dex' := by
  simp only [addLiq, bind_eq_ok, require_eq_ok, except_pure, Except.ok.injEq, Prod.mk.injEq] at h
  obtain ⟨_, -, _, -, _, hs, _, hc, rfl, rfl⟩ := h
  exact ⟨hs, hc⟩

/-- **Inversion of `swap`**: the quote against the reserves of `tin`'s side, and the
settlement. -/
lemma swap_ok {tin ain minOut aout : Nat} (h : swap tok dex sender tin ain minOut = .ok (aout, dex')) :
    Pool.quoteOut 1000 3 ain (WATTxSwap.swapReserves dex (tin == dex.token0)).1
        (WATTxSwap.swapReserves dex (tin == dex.token0)).2 = .ok aout ∧
      dex.settleSwap (tin == dex.token0) ain aout = .ok dex' := by
  simp only [swap, bind_eq_ok, require_eq_ok, except_pure, Except.ok.injEq, Prod.mk.injEq] at h
  obtain ⟨_, -, q, hq, _, -, _, -, _, -, _, hs, rfl, rfl⟩ := h
  refine ⟨?_, hs⟩
  revert hq
  cases tin == dex.token0 <;> exact id

/-- A quoted swap does not lower the reserve product, whatever the reserves. -/
lemma swap_product {tin ain minOut aout : Nat} (h : swap tok dex sender tin ain minOut = .ok (aout, dex')) :
    dex.reserve0 * dex.reserve1 ≤ dex'.reserve0 * dex'.reserve1 := by
  obtain ⟨hq, hs⟩ := swap_ok h
  obtain ⟨hd, rfl⟩ := Pool.quoteOut_eq hq
  obtain ⟨hle, hafter, hbefore⟩ := Pool.settleSwap_product hs
  rw [hafter, hbefore]
  exact Pool.product_le_of_quote (show 0 < 1000 by decide) (show 1000 - 3 ≤ 1000 by decide) hle
    (Nat.div_mul_le_self _ _)

/-- **One call keeps the books**, for a caller other than `address(0)`. -/
lemma step_books {op : Op} (hB : Books dex) (hs : op.sender ≠ 0) (h : step tok dex op = .ok dex') :
    Books dex' := by
  cases op with
  | addLiq s a0 a1 =>
      obtain ⟨⟨lp, d⟩, hadd, hd⟩ := map_eq_ok.mp h
      obtain rfl : d = dex' := hd
      obtain ⟨hl, ht, -, -⟩ := Pool.credit_eq (addLiq_ok hadd).2
      have hs : s ≠ 0 := hs
      refine ⟨?_, ?_⟩
      · rw [hl, ht, lpSum_insert, hB.sum]
        push_cast
        omega
      · rw [hl, lpOf_insert, if_neg hs, hB.zero]
  | swap s tin ain minOut =>
      obtain ⟨⟨aout, d⟩, hsw, hd⟩ := map_eq_ok.mp h
      obtain rfl : d = dex' := hd
      obtain ⟨hl, ht⟩ := Pool.settleSwap_books (swap_ok hsw).2
      exact ⟨hl ▸ ht ▸ hB.sum, hl ▸ hB.zero⟩

/-- **One call only adds**: to LP balances, to the LP total and to the reserve product. -/
lemma step_grows {op : Op} (h : step tok dex op = .ok dex') : Grows dex dex' := by
  cases op with
  | addLiq s a0 a1 =>
      obtain ⟨⟨lp, d⟩, hadd, hd⟩ := map_eq_ok.mp h
      obtain rfl : d = dex' := hd
      obtain ⟨hl, ht, h0, h1⟩ := Pool.credit_eq (addLiq_ok hadd).2
      refine ⟨fun a => ?_, by omega, ?_⟩
      · rw [hl, lpOf_insert]
        split_ifs with ha
        · subst ha; omega
        · exact le_rfl
      · rw [h0, h1]
        exact Nat.mul_le_mul (Nat.le_add_right _ _) (Nat.le_add_right _ _)
  | swap s tin ain minOut =>
      obtain ⟨⟨aout, d⟩, hsw, hd⟩ := map_eq_ok.mp h
      obtain rfl : d = dex' := hd
      obtain ⟨hl, ht⟩ := Pool.settleSwap_books (swap_ok hsw).2
      exact ⟨fun a => by rw [hl], ht.ge, swap_product hsw⟩

/-! ### Every run -/

/-- A run only adds, from any state on. -/
lemma run_grows (tok : Erc20) : ∀ (ops : List Op) {dex dex' : Pool},
    run tok dex ops = .ok dex' → Grows dex dex'
  | [], _, _, h => by cases h; exact Grows.refl _
  | op :: ops, _, _, h => by
      obtain ⟨d, hst, hrun⟩ := bind_eq_ok.mp h
      exact (step_grows hst).trans (run_grows tok ops hrun)

lemma books_of_reachable (h : Reachable dex) : Books dex := by
  induction h with
  | deploy t0 t1 => exact ⟨by simp [constructor, Pool.empty, lpSum], rfl⟩
  | call tok op _ hs hst ih => exact step_books ih hs hst

/-- **`TinyDEX` never gives liquidity back.** In every reachable state the LP balances sum to
`totalLP`; and from any state on, over every run of calls that return, no LP balance, not the
LP total and not the reserve product decreases. There is no call that burns LP, so what a
provider deposits leaves the pool only as the output of a swap, priced so that the product of
the reserves does not drop. -/
theorem tiny_dex_runs :
    (∀ dex : Pool, Reachable dex → lpSum dex.liquidity = dex.totalLiquidity) ∧
      ∀ (tok : Erc20) (dex dex' : Pool) (ops : List Op), run tok dex ops = .ok dex' → Grows dex dex' :=
  ⟨fun _ h => (books_of_reachable h).sum, fun tok _ _ ops => run_grows tok ops⟩

/-- A run of calls from accounts other than `address(0)` from a reachable state ends in one. -/
lemma run_reachable (tok : Erc20) : ∀ (ops : List Op) {dex dex' : Pool}, Reachable dex →
    (∀ op ∈ ops, op.sender ≠ 0) → run tok dex ops = .ok dex' → Reachable dex'
  | [], _, _, hr, _, h => by cases h; exact hr
  | op :: ops, _, _, hr, hs, h => by
      obtain ⟨d, hst, hrun⟩ := bind_eq_ok.mp h
      exact run_reachable tok ops (.call tok op hr (hs op (List.mem_cons_self _ _)) hst)
        (fun o ho => hs o (List.mem_cons_of_mem _ ho)) hrun

/-- Account `1` deposits 1000 of each token into a deployment of tokens `10` and `11`, and
account `2` swaps 100 of token `10`. -/
def depositSwapRun : List Op := [.addLiq 1 1000 1000, .swap 2 10 100 0]

/-- The pool after `depositSwapRun`. -/
def afterDepositSwap : Pool :=
  ((run Erc20.accepting (constructor 10 11) depositSwapRun).toOption).getD (constructor 10 11)

/-- The pool `depositSwapRun` leaves is reachable, its LP balances sum to its LP total, and it
grew from the deployment. -/
theorem tiny_dex_runs_deposit_swap :
    Reachable afterDepositSwap ∧
      run Erc20.accepting (constructor 10 11) depositSwapRun = .ok afterDepositSwap ∧
      lpSum afterDepositSwap.liquidity = afterDepositSwap.totalLiquidity ∧
      Grows (constructor 10 11) afterDepositSwap :=
  have hrun : run Erc20.accepting (constructor 10 11) depositSwapRun = .ok afterDepositSwap := by rfl
  have hR : Reachable afterDepositSwap := run_reachable _ _ (.deploy 10 11) (by decide) hrun
  ⟨hR, hrun, tiny_dex_runs.1 _ hR, tiny_dex_runs.2 _ _ _ _ hrun⟩

/-! ### A deposit without a share -/

/-- **A zero-share first deposit is drained by the next swap.** Into a freshly deployed pool, a
deposit of nothing of token 0 and `a1 > 0` of token 1 is accepted and mints no LP: the
depositor holds none and `totalLP` stays `0`. A following swap of any `ain > 0` of token 0
(with the quote's product fitting in 256 bits and the tokens accepting the transfers) is
quoted against an empty input reserve: it pays out all `a1` and leaves no token 1. `SimpleDEX`
refuses both the one-sided deposit and the empty share. -/
theorem zero_share_deposit_drained (t0 t1 provider taker a1 ain : Nat) (ha1 : 0 < a1)
    (hain : 0 < ain) (hfit : ain * 997 * a1 ≤ UINT256_MAX) :
    ∃ dex₁ dex₂, addLiq Erc20.accepting (constructor t0 t1) provider 0 a1 = .ok (0, dex₁) ∧
      lpOf dex₁.liquidity provider = 0 ∧ dex₁.totalLiquidity = 0 ∧ dex₁.reserve1 = a1 ∧
      swap Erc20.accepting dex₁ taker t0 ain a1 = .ok (a1, dex₂) ∧ dex₂.reserve1 = 0 := by
  have hw : ain * 997 ≤ UINT256_MAX := le_trans (Nat.le_mul_of_pos_right _ ha1) hfit
  have ha1' : a1 ≤ UINT256_MAX := le_trans (Nat.le_mul_of_pos_left _ (by omega)) hfit
  have hain' : ain ≤ UINT256_MAX := by omega
  refine ⟨⟨t0, t1, 0, a1, 0, StdMap.empty.insert provider 0⟩, ⟨t0, t1, ain, 0, 0,
    StdMap.empty.insert provider 0⟩, ?_, by simp, rfl, rfl, ?_, rfl⟩
  · simp [addLiq, lpShares, constructor, Pool.empty, Erc20.accepting, require, checkedMul,
      sqrt_eq_ok, Pool.credit, checkedAdd, ha1', lpOf]
  · have hq : (ain * 997 * a1) / (ain * 997) = a1 := by
      rw [Nat.mul_comm (ain * 997) a1, Nat.mul_div_cancel _ (by omega)]
    simp [swap, Erc20.accepting, require, Pool.quoteOut, checkedMul, checkedAdd, checkedDiv,
      Pool.settleSwap, checkedSub, hw, hfit, hain', hq, Nat.pos_iff_ne_zero.mp hain]

/-- Provider `1` deposits `0` and `1000`; taker `2` swaps in `1` of token `10`. -/
theorem zero_share_deposit_drained_thousand :
    0 < 1000 ∧ 0 < 1 ∧ 1 * 997 * 1000 ≤ UINT256_MAX ∧
      ∃ dex₁ dex₂, addLiq Erc20.accepting (constructor 10 11) 1 0 1000 = .ok (0, dex₁) ∧
        lpOf dex₁.liquidity 1 = 0 ∧ dex₁.totalLiquidity = 0 ∧ dex₁.reserve1 = 1000 ∧
        swap Erc20.accepting dex₁ 2 10 1 1000 = .ok (1000, dex₂) ∧ dex₂.reserve1 = 0 :=
  ⟨by decide, by decide, by decide, zero_share_deposit_drained 10 11 1 2 1000 1 (by decide)
    (by decide) (by decide)⟩

end TinyDEX

end WattxCore
