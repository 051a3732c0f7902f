import Mathlib.Data.Nat.Sqrt
import Mathlib.Tactic.Linarith
import Mathlib.Tactic.Ring
import WattxCore.Prelude.Primitives

/-!
The arithmetic of the DEX contracts, which are Solidity 0.8: a call either returns or reverts,
and `uint256` arithmetic out of range reverts with a panic.

* `Revert`, `require`, `checkedAdd`, `checkedSub`, `checkedMul`, `checkedDiv`: a `require`'s
  reason, the panics of checked arithmetic (or a division by zero), and running out of gas;
* `sqrt`: the Babylonian square root that `SimpleDEX`, `WATTxSwap` and the test contracts'
  `TinyDEX` share, its loop run on fuel;
* `sqrt_floor_root`: **for every `uint256` the loop ends, no step overflows or divides by zero,
  and the result is the floor root**. Every estimate after the first lies at or above the floor
  root (`sqrt_le_next`, the AM-GM step) and at most `y / 2 + 1`, where `y / x + x` stays in range
  (`div_add_le`); the loop then computes Mathlib's `Nat.sqrt.iter` (`sqrtLoop_eq_iter`).
-/

namespace WattxCore

/-- `type(uint256).max`. -/
def UINT256_MAX : Nat := 2 ^ 256 - 1

/-- Why a contract call reverts: a `require` with its reason, a panic of checked arithmetic
(`0x11` for an overflow or underflow, `0x12` for a division by zero), or running out of gas. -/
inductive Revert
  | reason (text : String)
  | panic (code : Nat)
  | outOfGas
  deriving DecidableEq, Repr

/-- Two outcomes of a call are equal when both revert for equal reasons or both return equal
values. -/
instance decEqExcept {ε α : Type} [DecidableEq ε] [DecidableEq α] : DecidableEq (Except ε α)
  | .error a, .error b => decidable_of_iff (a = b) (by rw [Except.error.injEq])
  | .ok a, .ok b => decidable_of_iff (a = b) (by rw [Except.ok.injEq])
  | .error _, .ok _ => isFalse Except.noConfusion
  | .ok _, .error _ => isFalse Except.noConfusion

/-- `require(c, text)`. -/
def require (c : Prop) [Decidable c] (text : String) : Except Revert Unit :=
  if c then pure () else throw (.reason text)

/-- Checked `a + b`. -/
def checkedAdd (a b : Nat) : Except Revert Nat :=
  if a + b ≤ UINT256_MAX then pure (a + b) else throw (.panic 0x11)

/-- Checked `a - b`. -/
def checkedSub (a b : Nat) : Except Revert Nat := if b ≤ a then pure (a - b) else throw (.panic 0x11)

/-- Checked `a * b`. -/
def checkedMul (a b : Nat) : Except Revert Nat :=
  if a * b ≤ UINT256_MAX then pure (a * b) else throw (.panic 0x11)

/-- `a / b`, which panics on `b = 0`. -/
def checkedDiv (a b : Nat) : Except Revert Nat := if b = 0 then throw (.panic 0x12) else pure (a / b)

@[simp] lemma require_eq_ok {c : Prop} [Decidable c] {text : String} {u : Unit} :
    require c text = .ok u ↔ c := by
  unfold require; split_ifs with h <;> simp [h, throw, throwThe, MonadExceptOf.throw]

lemma checkedAdd_eq_ok {a b c : Nat} (h : checkedAdd a b = .ok c) : c = a + b := by
  unfold checkedAdd at h; split_ifs at h; cases h; rfl

lemma checkedSub_eq_ok {a b c : Nat} (h : checkedSub a b = .ok c) : b ≤ a ∧ c = a - b := by
  unfold checkedSub at h; split_ifs at h with hb; cases h; exact ⟨hb, rfl⟩

lemma checkedMul_eq_ok {a b c : Nat} (h : checkedMul a b = .ok c) : c = a * b := by
  unfold checkedMul at h; split_ifs at h; cases h; rfl

lemma checkedDiv_eq_ok {a b c : Nat} (h : checkedDiv a b = .ok c) : 0 < b ∧ c = a / b := by
  unfold checkedDiv at h; split_ifs at h with hb; cases h; exact ⟨Nat.pos_of_ne_zero hb, rfl⟩

lemma checkedAdd_of_le {a b : Nat} (h : a + b ≤ UINT256_MAX) : checkedAdd a b = .ok (a + b) :=
  if_pos h

lemma checkedDiv_of_pos {a b : Nat} (h : 0 < b) : checkedDiv a b = .ok (a / b) :=
  if_neg h.ne'

/-! ### The Babylonian square root -/

/-- The loop of the contracts' `sqrt`: while `x < z`, `z = x` and `x = (y / x + x) / 2`, in
checked arithmetic. `fuel` counts the rounds the call can still pay for: a loop that would run
longer runs out of gas. -/
def sqrtLoop (y : Nat) : Nat → Nat → Nat → Except Revert Nat
  | 0, _, _ => throw .outOfGas
  | fuel + 1, z, x =>
      if x < z then do sqrtLoop y fuel x ((← checkedAdd (← checkedDiv y x) x) / 2)
      else pure z

/-- `sqrt` of `SimpleDEX`, `WATTxSwap` and `TinyDEX` (Babylonian method), its loop given `y`
rounds. -/
def sqrt (y : Nat) : Except Revert Nat :=
  if y > 3 then do sqrtLoop y y y (← checkedAdd (y / 2) 1)
  else if y ≠ 0 then pure 1 else pure 0

/-- The AM-GM step of the method: from any positive estimate, the next one is at least the floor
root. -/
lemma sqrt_le_next {y x : Nat} (hx : 0 < x) : Nat.sqrt y ≤ (y / x + x) / 2 := by
  rw [Nat.le_div_iff_mul_le two_pos]
  by_contra h
  have hx2 : x ≤ Nat.sqrt y * 2 := by have := Nat.zero_le (y / x); omega
  have hsq : x * (Nat.sqrt y * 2 - x) ≤ Nat.sqrt y * Nat.sqrt y := by
    zify [hx2]; linarith [sq_nonneg ((Nat.sqrt y : ℤ) - x)]
  have : y < y := calc
    y < x * (y / x + 1) := Nat.lt_mul_div_succ y hx
    _ ≤ x * (Nat.sqrt y * 2 - x) := Nat.mul_le_mul_left x (by omega)
    _ ≤ Nat.sqrt y * Nat.sqrt y := hsq
    _ ≤ y := Nat.sqrt_le y
  exact lt_irrefl y this

/-- An estimate in `[2, y / 2 + 1]` keeps `y / x + x` at most `y / 2 + 2`, so a round never
overflows. -/
lemma div_add_le {y x : Nat} (h2 : 2 ≤ x) (hx : x ≤ y / 2 + 1) : y / x + x ≤ y / 2 + 2 := by
  obtain ⟨k, hk⟩ := Nat.exists_eq_add_of_le hx
  obtain ⟨m, rfl⟩ := Nat.exists_eq_add_of_le' h2
  have hlt : y < (k + 2) * (m + 2) := by
    have : (k + 2) * (m + 2) = k * m + 2 * k + 2 * m + 4 := by ring
    omega
  have := (Nat.div_lt_iff_lt_mul (by omega)).2 hlt
  omega

/-- One round of Mathlib's `Nat.sqrt.iter`, with the contracts' order of the sum. -/
lemma iter_eq (y z : Nat) :
    Nat.sqrt.iter y z = if (y / z + z) / 2 < z then Nat.sqrt.iter y ((y / z + z) / 2) else z := by
  rw [Nat.sqrt.iter]; simp only [Nat.add_comm z]; split_ifs <;> rfl

/-- From an estimate `z ≤ y / 2 + 1` with enough fuel, the loop computes `Nat.sqrt.iter y z`. -/
lemma sqrtLoop_eq_iter {y : Nat} (h4 : 4 ≤ y) (hy : y ≤ UINT256_MAX) :
    ∀ fuel z, 0 < z → z ≤ y / 2 + 1 → z ≤ fuel →
      sqrtLoop y fuel z ((y / z + z) / 2) = .ok (Nat.sqrt.iter y z)
  | 0, _, hz, _, hf => absurd hf (by omega)
  | fuel + 1, z, hz, hzy, hf => by
    have hs := sqrt_le_next (y := y) hz
    have h2 : 2 ≤ Nat.sqrt y := Nat.le_sqrt.2 h4
    rw [iter_eq, sqrtLoop]
    split_ifs with hlt
    · have hb := div_add_le (y := y) (by omega : 2 ≤ (y / z + z) / 2) (by omega)
      rw [checkedDiv_of_pos (by omega), ok_bind, checkedAdd_of_le (by unfold UINT256_MAX at *; omega),
        ok_bind]
      exact sqrtLoop_eq_iter h4 hy fuel _ (by omega) (by omega) (by omega)
    · rfl

/-- The contracts' `sqrt` is Mathlib's floor root, for every `uint256`. -/
lemma sqrt_eq_ok {y : Nat} (hy : y ≤ UINT256_MAX) : sqrt y = .ok (Nat.sqrt y) := by
  unfold sqrt
  split_ifs with h3 h0
  · obtain ⟨k, rfl⟩ : ∃ k, y = k + 1 := ⟨y - 1, by omega⟩
    have hb := div_add_le (y := k + 1) (x := (k + 1) / 2 + 1) (by omega) le_rfl
    rw [checkedAdd_of_le (by unfold UINT256_MAX at *; omega), ok_bind, sqrtLoop, if_pos (by omega),
      checkedDiv_of_pos (by omega), ok_bind, checkedAdd_of_le (by unfold UINT256_MAX at *; omega), ok_bind,
      sqrtLoop_eq_iter (by omega) hy k _ (by omega) le_rfl (by omega)]
    refine congrArg Except.ok (Nat.eq_sqrt.2 ⟨Nat.sqrt.iter_sq_le _ _, Nat.sqrt.lt_iter_succ_sq _ _ ?_⟩)
    linarith [Nat.div_add_mod (k + 1) 2, Nat.mod_lt (k + 1) two_pos, Nat.zero_le ((k + 1) / 2 * ((k + 1) / 2))]
  · exact congrArg Except.ok (Nat.eq_sqrt.2 ⟨by omega, by omega⟩)
  · obtain rfl : y = 0 := by omega
    rfl

/-- **`sqrt` of every `uint256` returns, and returns the largest `z` with `z * z ≤ y`.** -/
theorem sqrt_floor_root (y : Nat) (hy : y ≤ UINT256_MAX) :
    ∃ z, sqrt y = .ok z ∧ z * z ≤ y ∧ ∀ w, w * w ≤ y → w ≤ z :=
  ⟨Nat.sqrt y, sqrt_eq_ok hy, Nat.sqrt_le y, fun _ hw => Nat.le_sqrt.2 hw⟩

theorem sqrt_floor_root_ten :
    10 ≤ UINT256_MAX ∧ ∃ z, sqrt 10 = .ok z ∧ z * z ≤ 10 ∧ ∀ w, w * w ≤ 10 → w ≤ z :=
  ⟨by decide, sqrt_floor_root 10 (by decide)⟩

end WattxCore
