/-
  What the shares of a pool are worth.

  The value of a pool counts its user tokens at the rate of rebalance swaps.  Every
  operation rounds in favour of the pool, so the value of a share never falls, and a
  deposit cannot be withdrawn at a profit.
-/
import Monotempo.FeeAmm.Effects
import Mathlib.Tactic.Linarith
import Mathlib.Tactic.Ring

set_option autoImplicit false

namespace Monotempo.FeeAmm

open Chain Foundation

/-! ## Values -/

/-- The value of a pool, in units of `1 / SCALE` validator tokens. -/
def Pool.value (pool : Pool) : ℕ :=
  scale * pool.reserveValidatorToken + N * pool.reserveUserToken

variable {ctx ctx' : Context} {s s' s'' : FeeState} {sender dest dest' : Address} {key : PoolKey}
  {amount liquidity amountIn amountOut user validator : ℕ} {pool : Pool}

@[simp] theorem setPool_self (s : FeeState) (key : PoolKey) (pool : Pool) :
    (s.setPool key pool).pools key = pool := by
  simp [FeeState.setPool]

/-- The output of a fee swap is worth less than its input. -/
theorem Swapped.value_le (h : Swapped s s' key amountIn amountOut) :
    (s.pools key).value ≤ (s'.pools key).value := by
  have houtput := h.output
  rw [h.state, setPool_self]
  simp only [Pool.value, M, N, scale] at *
  omega

/-- The input of a rebalance swap is worth more than its output. -/
theorem Rebalanced.value_le (h : Rebalanced s s' sender key amountOut amountIn dest) :
    (s.pools key).value ≤ (s'.pools key).value := by
  have hinput := h.input
  rw [h.state]
  rw [setPool_self]
  simp only [Pool.value, N, scale] at *
  omega

/-- A withdrawal takes at most its part of each reserve. -/
theorem Withdrawn.value_mul_le
    (h : Withdrawn s s' sender key liquidity user validator dest) :
    (s.pools key).value * (s.totalSupply key - liquidity) ≤
      (s'.pools key).value * s.totalSupply key := by
  have hpool : s'.pools key = ⟨(s.pools key).reserveUserToken - user,
      (s.pools key).reserveValidatorToken - validator⟩ := by
    rw [h.state]
    exact setPool_self _ _ _
  have huser : user * s.totalSupply key ≤ liquidity * (s.pools key).reserveUserToken := by
    rw [h.userShare]
    exact Nat.div_mul_le_self _ _
  have hvalidator : validator * s.totalSupply key ≤
      liquidity * (s.pools key).reserveValidatorToken := by
    rw [h.validatorShare]
    exact Nat.div_mul_le_self _ _
  rw [hpool]
  -- what stays is written as a sum, so that the products are linear
  obtain ⟨userLeft, huserLeft⟩ := Nat.exists_eq_add_of_le h.enoughUser
  obtain ⟨validatorLeft, hvalidatorLeft⟩ := Nat.exists_eq_add_of_le h.enoughValidator
  obtain ⟨supplyLeft, hsupplyLeft⟩ := Nat.exists_eq_add_of_le h.supply
  simp only [Pool.value, scale, N, huserLeft, hvalidatorLeft, hsupplyLeft, Nat.add_sub_cancel_left]
  nlinarith

/-- The value of a pool is less than one token more than what `mint` counts. -/
theorem Pool.value_lt (pool : Pool) : pool.value < scale * (pool.worth + 1) := by
  simp only [Pool.value, Pool.worth, N, scale]
  omega

/-- The shares of a later deposit are worth at most the deposit, up to one token a share. -/
theorem value_mul_shares_le (pool : Pool) {supply : ℕ}
    (hshares : liquidity * pool.worth ≤ amount * supply) :
    pool.value * liquidity ≤ scale * amount * supply + scale * liquidity := by
  calc pool.value * liquidity
      ≤ scale * (pool.worth + 1) * liquidity := Nat.mul_le_mul_right _ (Nat.le_of_lt pool.value_lt)
    _ = scale * (liquidity * pool.worth) + scale * liquidity := by ring
    _ ≤ scale * (amount * supply) + scale * liquidity :=
        Nat.add_le_add_right (Nat.mul_le_mul_left _ hshares) _
    _ = scale * amount * supply + scale * liquidity := by ring

theorem Deposited.after (h : Deposited s s' sender key amount liquidity dest) :
    s'.pools key = { s.pools key with
        reserveValidatorToken := (s.pools key).reserveValidatorToken + amount } ∧
      s'.liquidityBalances key = Function.update (s.liquidityBalances key) dest
        (s.liquidityBalances key dest + liquidity) ∧
      ∃ supply, Shares (s.pools key) (s.totalSupply key) amount supply liquidity ∧
        s'.totalSupply key = supply + liquidity := by
  obtain ⟨supply, hshares, tokens, rfl⟩ := h.minted
  refine ⟨setPool_self _ _ _, ?_, supply, hshares, ?_⟩
  · simp [FeeState.setLiquidityBalances, FeeState.setTotalSupply, FeeState.setPool]
  · simp [FeeState.setLiquidityBalances, FeeState.setTotalSupply]

/-- A later deposit dilutes nobody, up to one token a share. -/
theorem Deposited.value_le (h : Deposited s s' sender key amount liquidity dest)
    (hreserves : ¬ (s.pools key).isEmpty) :
    (s.pools key).value * (s.totalSupply key + liquidity) ≤
      ((s.pools key).value + scale * amount) * s.totalSupply key + scale * liquidity := by
  obtain ⟨-, -, supply, hshares, -⟩ := h.after
  cases hshares with
  | first empty covers => exact absurd empty hreserves
  | later reserves worth =>
    have hvalue := value_mul_shares_le (s.pools key)
      (Nat.div_mul_le_self (amount * s.totalSupply key) (s.pools key).worth)
    calc (s.pools key).value * (s.totalSupply key + _)
        = (s.pools key).value * s.totalSupply key + (s.pools key).value * _ := Nat.mul_add _ _ _
      _ ≤ (s.pools key).value * s.totalSupply key + (scale * amount * s.totalSupply key +
            scale * _) := Nat.add_le_add_left hvalue _
      _ = _ := by ring

/-- What is returned for new shares: each part is rounded down. -/
theorem value_returned_lt (pool : Pool) {supply total : ℕ} (hsupply : 0 < supply)
    (htotal : total = supply + liquidity)
    (hshares : liquidity * pool.worth ≤ amount * supply)
    (huser : user * total ≤ liquidity * pool.reserveUserToken)
    (hvalidator : validator * total ≤ liquidity * (pool.reserveValidatorToken + amount)) :
    scale * validator + N * user < scale * (amount + 1) := by
  have hvalue := value_mul_shares_le pool hshares
  refine Nat.lt_of_mul_lt_mul_right (a := total) ?_
  calc (scale * validator + N * user) * total
      = scale * (validator * total) + N * (user * total) := by ring
    _ ≤ scale * (liquidity * (pool.reserveValidatorToken + amount)) +
          N * (liquidity * pool.reserveUserToken) :=
        Nat.add_le_add (Nat.mul_le_mul_left _ hvalidator) (Nat.mul_le_mul_left _ huser)
    _ = pool.value * liquidity + scale * amount * liquidity := by
        rw [Pool.value]
        ring
    _ < scale * amount * supply + scale * total + scale * amount * liquidity := by
        have hlt : scale * liquidity < scale * total := by
          simp only [scale]
          omega
        omega
    _ = scale * (amount + 1) * total := by
        rw [htotal]
        ring

/-- Shares that are withdrawn at once return at most the deposit. -/
theorem Withdrawn.le_deposit
    (hmint : Deposited s s' sender key amount liquidity dest)
    (hburn : Withdrawn s' s'' dest key liquidity user validator dest') :
    validator + N * user / scale ≤ amount := by
  obtain ⟨hpool, -, supply, hshares, hsupply⟩ := hmint.after
  have huser := hburn.userShare
  have hvalidator := hburn.validatorShare
  rw [hpool, hsupply] at huser hvalidator
  have hliquidity := hmint.shares
  cases hshares with
  | first empty covers =>
    simp only [empty.1, empty.2, Nat.mul_zero, Nat.zero_div, Nat.zero_add] at huser hvalidator
    rw [huser, hvalidator, Nat.mul_zero, Nat.zero_div, Nat.add_zero]
    refine Nat.div_le_of_le_mul ?_
    exact Nat.mul_le_mul_right _ (Nat.le_add_left _ _)
  | later reserves worth =>
    have hsupplied : 0 < s.totalSupply key := by
      rcases Nat.eq_zero_or_pos (s.totalSupply key) with hzero | hpositive
      · rw [hzero, Nat.mul_zero, Nat.zero_div] at hliquidity
        exact absurd rfl hliquidity
      · exact hpositive
    have hlt : scale * validator + N * user < scale * (amount + 1) := by
      refine value_returned_lt (s.pools key) hsupplied rfl
        (Nat.div_mul_le_self (amount * s.totalSupply key) (s.pools key).worth) ?_ ?_
      · rw [huser]
        exact Nat.div_mul_le_self _ _
      · rw [hvalidator]
        exact Nat.div_mul_le_self _ _
    simp only [scale, N] at hlt ⊢
    omega

/-- The value of a share never falls.  Withdrawals, fee swaps and rebalance swaps keep it, a
later deposit keeps it up to one token a share, and a deposit that is withdrawn at once
returns at most what was deposited. -/
theorem share_value_never_falls (ctx ctx' : Context) (s s' : FeeState)
    (userToken validatorToken : Address) :
    let key : PoolKey := ⟨userToken, validatorToken⟩
    let value := (s.pools key).value
    let supply := s.totalSupply key
    (∀ sender liquidity dest amounts,
      burn ctx sender userToken validatorToken liquidity dest s = .ok amounts s' →
      value * s'.totalSupply key ≤ (s'.pools key).value * supply) ∧
    (∀ amountIn amountOut,
      executeFeeSwap userToken validatorToken amountIn s = .ok amountOut s' →
      value * s'.totalSupply key ≤ (s'.pools key).value * supply) ∧
    (∀ sender amountOut dest amountIn,
      rebalanceSwap ctx sender userToken validatorToken amountOut dest s = .ok amountIn s' →
      value * s'.totalSupply key ≤ (s'.pools key).value * supply) ∧
    (∀ sender amount dest liquidity,
      ¬ (s.pools key).isEmpty →
      mint ctx sender userToken validatorToken amount dest s = .ok liquidity s' →
      value * (supply + liquidity) ≤ (value + scale * amount) * supply + scale * liquidity) ∧
    (∀ sender amount dest liquidity dest' amounts s'',
      mint ctx sender userToken validatorToken amount dest s = .ok liquidity s' →
      burn ctx' dest userToken validatorToken liquidity dest' s' = .ok amounts s'' →
      amounts.2 + N * amounts.1 / scale ≤ amount) := by
  intro key value supply
  refine ⟨?_, ?_, ?_, ?_, ?_⟩
  · intro sender liquidity dest amounts hburn
    have hwithdrawn := burn_ok hburn
    have hsupply : s'.totalSupply key = supply - liquidity := by
      rw [hwithdrawn.state]
      simp [FeeState.setPool, FeeState.setTotalSupply, key, supply]
    rw [hsupply]
    exact hwithdrawn.value_mul_le
  · intro amountIn amountOut hswap
    have hswapped := executeFeeSwap_ok hswap
    have hsupply : s'.totalSupply key = supply := by
      rw [hswapped.state]
      rfl
    rw [hsupply]
    exact Nat.mul_le_mul_right _ hswapped.value_le
  · intro sender amountOut dest amountIn hrebalance
    have hrebalanced := rebalanceSwap_ok hrebalance
    have hsupply : s'.totalSupply key = supply := by
      rw [hrebalanced.state]
      rfl
    rw [hsupply]
    exact Nat.mul_le_mul_right _ hrebalanced.value_le
  · intro sender amount dest liquidity hreserves hmint
    exact (mint_ok hmint).value_le hreserves
  · intro sender amount dest liquidity dest' amounts s'' hmint hburn
    exact (burn_ok hburn).le_deposit (mint_ok hmint)

/-- Account seven deposits ten thousand tokens and withdraws its shares. -/
theorem share_value_never_falls_deposit :
    ∃ s₁ s₂ liquidity amounts,
      mint (.permissive .T8) 7 (pathUsdAddress + 1) pathUsdAddress 10000 7 sampleState =
        .ok liquidity s₁ ∧
      burn (.permissive .T8) 7 (pathUsdAddress + 1) pathUsdAddress liquidity 7 s₁ =
        .ok amounts s₂ ∧
      amounts.2 + N * amounts.1 / scale ≤ 10000 := by
  have hreturned : returned ((mint (.permissive .T8) 7 (pathUsdAddress + 1) pathUsdAddress 10000 7
      >>= fun liquidity => burn (.permissive .T8) 7 (pathUsdAddress + 1) pathUsdAddress liquidity
        7) sampleState) = true := by
    decide +kernel
  obtain ⟨amounts, s₂, hrun⟩ := returned_iff.mp hreturned
  obtain ⟨liquidity, s₁, hmint, hburn⟩ := bind_ok.mp hrun
  exact ⟨s₁, s₂, liquidity, amounts, hmint, hburn,
    (share_value_never_falls (.permissive .T8) (.permissive .T8) sampleState s₁
      (pathUsdAddress + 1) pathUsdAddress).2.2.2.2 7 10000 7 liquidity 7 amounts s₂ hmint hburn⟩

end Monotempo.FeeAmm
