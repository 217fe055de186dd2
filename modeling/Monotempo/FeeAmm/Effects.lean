/-
  What the calls on pools and fees do.

  Each operation is taken apart once: the state it leads to, and the checks it passed.
-/
import Monotempo.FeeAmm.State
import Monotempo.Tip20.Effects

set_option autoImplicit false

namespace Monotempo.FeeAmm

open Chain Foundation Function

variable {amountIn amountOut liquidity amount : ℕ}
  {userToken validatorToken sender dest token recipient : Address} {u : Unit} {pool : Pool}
  {ctx : Context} {s s' : FeeState} {key : PoolKey}

/-! ## Tokens -/

theorem fromToken_ok {α : Type} {value : Except TokenError α} {a : α} :
    fromToken value s = .ok a s' ↔ value = .ok a ∧ s = s' := by
  unfold fromToken
  rw [fromExcept_ok]
  cases value with
  | ok | error => simp [Except.mapError]

theorem fromToken_bind_ok {α β : Type} {value : Except TokenError α} {f : α → FeeM β} {b : β} :
    (fromToken value >>= f) s = .ok b s' ↔ ∃ a, value = .ok a ∧ f a s = .ok b s' := by
  rw [bind_ok]
  constructor
  · rintro ⟨a, t, hread, h⟩
    obtain ⟨hvalue, rfl⟩ := fromToken_ok.mp hread
    exact ⟨a, hvalue, h⟩
  · rintro ⟨a, hvalue, h⟩
    exact ⟨a, s, fromToken_ok.mpr ⟨hvalue, rfl⟩, h⟩

theorem onToken_ok {α : Type} {x : Tip20.TokenM α} {a : α} :
    onToken token x s = .ok a s' ↔
      ∃ st, x (s.tokens token) = .ok a st ∧ s' = s.setToken token st := by
  unfold onToken
  cases x (s.tokens token) with
  | ok b st => simp [eq_comm]
  | error e st => simp

/-- The balances after a token moved an amount. -/
theorem balancesOf_moved {tokens : Address → Tip20.TokenState} {st : Tip20.TokenState}
    (h : Tip20.Moved (tokens token) st sender recipient amount) :
    balancesOf (update tokens token st) =
      (balancesOf tokens).move token sender recipient amount := by
  funext other account
  by_cases htoken : other = token
  · subst htoken
    simp only [balancesOf, Ledger.move, update_self, h.balances]
    rfl
  · simp [balancesOf, Ledger.move, htoken]

/-- A payment of an amount. -/
structure Paid (tokens tokens' : Address → Tip20.TokenState)
    (token sender recipient : Address) (amount : ℕ) : Prop where
  enough : amount ≤ balancesOf tokens token sender
  ledger : balancesOf tokens' = (balancesOf tokens).move token sender recipient amount

theorem moveTokens_ok (h : moveTokens ctx token sender recipient amount s = .ok u s') :
    ∃ tokens, s' = { s with tokens := tokens } ∧
      Paid s.tokens tokens token sender recipient amount := by
  obtain ⟨_, -, h⟩ := fromToken_bind_ok.mp h
  obtain ⟨st, hrun, rfl⟩ := onToken_ok.mp h
  obtain ⟨_, hvalid, htransfer⟩ := fromExcept_bind_ok.mp hrun
  have hrecipient : recipient ≠ 0 := (Tip20.validate_ok hvalid).1
  have hmoved := Tip20.innerTransfer_moved hrecipient htransfer
  exact ⟨_, rfl, hmoved.enough, balancesOf_moved hmoved⟩

/-! ## Swaps -/

theorem computeAmountOut_eq_some :
    computeAmountOut amountIn = some amountOut ↔
      amountOut = amountIn * M / scale ∧ amountIn * M ≤ u256Max := by
  unfold computeAmountOut
  rw [Option.map_eq_some_iff]
  constructor
  · rintro ⟨product, hmul, rfl⟩
    obtain ⟨rfl, hfits⟩ := checkedMul256_eq_some.mp hmul
    exact ⟨rfl, hfits⟩
  · rintro ⟨rfl, hfits⟩
    exact ⟨_, checkedMul256_eq_some.mpr ⟨rfl, hfits⟩, rfl⟩

/-- A fee swap on a pool. -/
structure Swapped (s s' : FeeState) (key : PoolKey) (amountIn amountOut : ℕ) : Prop where
  output : amountOut = amountIn * M / scale
  enough : amountOut ≤ (s.pools key).reserveValidatorToken
  state : s' = s.setPool key ⟨(s.pools key).reserveUserToken + amountIn,
    (s.pools key).reserveValidatorToken - amountOut⟩

theorem applySwap_ok {pool' : Pool} (h : applySwap pool amountIn amountOut s = .ok pool' s') :
    amountOut ≤ pool.reserveValidatorToken ∧ s = s' ∧
      pool' = ⟨pool.reserveUserToken + amountIn, pool.reserveValidatorToken - amountOut⟩ := by
  obtain ⟨henough, h⟩ := require_bind_ok.mp h
  replace h := require_rest h
  replace h := require_rest h
  obtain ⟨user, ⟨rfl, -⟩, h⟩ := value_bind_ok checkedAdd128_eq_some.mp h
  obtain ⟨validator, ⟨-, rfl⟩, h⟩ := value_bind_ok checkedSub_eq_some.mp h
  obtain ⟨rfl, rfl⟩ := pure_ok.mp h
  exact ⟨henough, rfl, rfl⟩

theorem executeFeeSwap_ok
    (h : executeFeeSwap userToken validatorToken amountIn s = .ok amountOut s') :
    Swapped s s' ⟨userToken, validatorToken⟩ amountIn amountOut := by
  obtain ⟨out, ⟨rfl, -⟩, h⟩ := value_bind_ok computeAmountOut_eq_some.mp h
  rw [get_bind_ok] at h
  obtain ⟨pool, t, ⟨henough, rfl, rfl⟩, h⟩ := step_bind_ok applySwap_ok h
  rw [modify_bind_ok] at h
  obtain ⟨rfl, rfl⟩ := pure_ok.mp h
  exact ⟨rfl, henough, rfl⟩

theorem checkReservation_ok {available : ℕ} (h : checkReservation ctx key available s = .ok u s') :
    s = s' :=
  (require_ok.mp h).2

theorem rebalanceInput_eq_some (h : rebalanceInput amountOut = some amountIn) :
    amountIn = amountOut * N / scale + 1 := by
  obtain ⟨product, hmul, hadd⟩ := Option.bind_eq_some_iff.mp h
  obtain ⟨rfl, -⟩ := checkedMul256_eq_some.mp hmul
  exact (checkedAdd256_eq_some.mp hadd).1

/-- A rebalance swap on a pool: the sender pays the validator token, and `dest` gets the user
token. -/
structure Rebalanced (s s' : FeeState) (sender : Address) (key : PoolKey)
    (amountOut amountIn : ℕ) (dest : Address) : Prop where
  nonzero : amountOut ≠ 0
  input : amountIn = amountOut * N / scale + 1
  enough : amountOut ≤ (s.pools key).reserveUserToken
  funded : amountOut ≤ s.ledger.move key.validatorToken sender tipFeeManagerAddress amountIn
    key.userToken tipFeeManagerAddress
  state : s' = { s.setPool key ⟨(s.pools key).reserveUserToken - amountOut,
    (s.pools key).reserveValidatorToken + amountIn⟩ with tokens := s'.tokens }
  ledger : s'.ledger = (s.ledger.move key.validatorToken sender tipFeeManagerAddress
    amountIn).move key.userToken tipFeeManagerAddress dest amountOut

theorem rebalanceSwap_ok
    (h : rebalanceSwap ctx sender userToken validatorToken amountOut dest s = .ok amountIn s') :
    Rebalanced s s' sender ⟨userToken, validatorToken⟩ amountOut amountIn dest := by
  obtain ⟨hnonzero, h⟩ := require_bind_ok.mp h
  obtain ⟨input, rfl, h⟩ := value_bind_ok rebalanceInput_eq_some h
  replace h := require_rest h
  replace h := require_rest h
  obtain ⟨validator, ⟨rfl, -⟩, h⟩ := value_bind_ok checkedAdd128_eq_some.mp h
  obtain ⟨user, ⟨henough, rfl⟩, h⟩ := value_bind_ok checkedSub_eq_some.mp h
  obtain ⟨_, t, rfl, h⟩ := step_bind_ok checkReservation_ok h
  rw [modify_bind_ok] at h
  obtain ⟨_, -, h⟩ := fromToken_bind_ok.mp h
  obtain ⟨_, t, ⟨tokens, rfl, hpaid⟩, h⟩ := step_bind_ok moveTokens_ok h
  obtain ⟨_, -, h⟩ := fromToken_bind_ok.mp h
  obtain ⟨_, t, ⟨tokens', rfl, hfunded⟩, h⟩ := step_bind_ok moveTokens_ok h
  obtain ⟨rfl, rfl⟩ := pure_ok.mp h
  exact ⟨hnonzero, rfl, henough, hpaid.ledger ▸ hfunded.enough, rfl,
    hpaid.ledger ▸ hfunded.ledger⟩

/-! ## Liquidity -/

/-- What `mint` counts a pool for. -/
def Pool.worth (pool : Pool) : ℕ :=
  pool.reserveValidatorToken + N * pool.reserveUserToken / scale

/-- A pool without reserves. -/
def Pool.isEmpty (pool : Pool) : Prop :=
  pool.reserveUserToken = 0 ∧ pool.reserveValidatorToken = 0

/-- The new shares of a deposit, on top of a supply that includes the locked liquidity. -/
inductive Shares (pool : Pool) (supply amount : ℕ) : ℕ → ℕ → Prop where
  | first (empty : pool.isEmpty) (covers : minLiquidity < amount / 2) :
      Shares pool supply amount (supply + minLiquidity) (amount / 2 - minLiquidity)
  | later (reserves : ¬ pool.isEmpty) (worth : pool.worth ≠ 0) :
      Shares pool supply amount supply (amount * supply / pool.worth)

theorem poolWorth_ok {worth : ℕ} (h : poolWorth pool s = .ok worth s') :
    s = s' ∧ worth = pool.worth := by
  obtain ⟨product, ⟨rfl, -⟩, h⟩ := value_bind_ok checkedMul256_eq_some.mp h
  obtain ⟨hadd, rfl⟩ := okOr_ok.mp h
  exact ⟨rfl, (checkedAdd256_eq_some.mp hadd).1⟩

theorem mintedLiquidity_ok {supply : ℕ} {minted : ℕ × ℕ}
    (h : mintedLiquidity pool supply amount s = .ok minted s') :
    s = s' ∧ Shares pool supply amount minted.1 minted.2 := by
  unfold mintedLiquidity at h
  split at h
  · rename_i hempty
    obtain ⟨hcovers, h⟩ := require_bind_ok.mp h
    obtain ⟨locked, ⟨rfl, -⟩, h⟩ := value_bind_ok checkedAdd256_eq_some.mp h
    obtain ⟨rfl, rfl⟩ := pure_ok.mp h
    exact ⟨rfl, .first hempty hcovers⟩
  · rename_i hreserves
    obtain ⟨denom, t, ⟨rfl, rfl⟩, h⟩ := step_bind_ok poolWorth_ok h
    obtain ⟨hnonzero, h⟩ := require_bind_ok.mp h
    obtain ⟨product, ⟨rfl, -⟩, h⟩ := value_bind_ok checkedMul256_eq_some.mp h
    obtain ⟨rfl, rfl⟩ := pure_ok.mp h
    exact ⟨rfl, .later hreserves hnonzero⟩

/-- A deposit of the validator token. -/
structure Deposited (s s' : FeeState) (sender : Address) (key : PoolKey)
    (amount liquidity : ℕ) (dest : Address) : Prop where
  nonzero : amount ≠ 0
  shares : liquidity ≠ 0
  minted : ∃ supply, Shares (s.pools key) (s.totalSupply key) amount supply liquidity ∧
    ∃ tokens, s' = (({ s with tokens := tokens }.setPool key
      { s.pools key with
        reserveValidatorToken := (s.pools key).reserveValidatorToken + amount }).setTotalSupply
      key (supply + liquidity)).setLiquidityBalances key dest
        (s.liquidityBalances key dest + liquidity)
  ledger : s'.ledger = s.ledger.move key.validatorToken sender tipFeeManagerAddress amount

theorem checkPair_ok (h : checkPair ctx userToken validatorToken amount s = .ok u s') :
    amount ≠ 0 ∧ s = s' := by
  replace h := require_rest h
  obtain ⟨hnonzero, h⟩ := require_bind_ok.mp h
  obtain ⟨_, -, h⟩ := fromToken_bind_ok.mp h
  obtain ⟨-, rfl⟩ := fromToken_ok.mp h
  exact ⟨hnonzero, rfl⟩

theorem mint_ok (h : mint ctx sender userToken validatorToken amount dest s = .ok liquidity s') :
    Deposited s s' sender ⟨userToken, validatorToken⟩ amount liquidity dest := by
  obtain ⟨_, t, ⟨hnonzero, rfl⟩, h⟩ := step_bind_ok checkPair_ok h
  obtain ⟨_, -, h⟩ := fromToken_bind_ok.mp h
  rw [get_bind_ok] at h
  obtain ⟨minted, t, ⟨rfl, hshares⟩, h⟩ := step_bind_ok mintedLiquidity_ok h
  obtain ⟨hliquidity, h⟩ := require_bind_ok.mp h
  obtain ⟨_, t, ⟨tokens, rfl, hpaid⟩, h⟩ := step_bind_ok moveTokens_ok h
  replace h := require_rest h
  obtain ⟨validator, ⟨rfl, -⟩, h⟩ := value_bind_ok checkedAdd128_eq_some.mp h
  rw [modify_bind_ok] at h
  obtain ⟨supply, ⟨rfl, -⟩, h⟩ := value_bind_ok checkedAdd256_eq_some.mp h
  rw [modify_bind_ok] at h
  obtain ⟨balance, ⟨rfl, -⟩, h⟩ := value_bind_ok checkedAdd256_eq_some.mp h
  rw [modify_bind_ok] at h
  obtain ⟨rfl, rfl⟩ := pure_ok.mp h
  exact ⟨hnonzero, hliquidity, ⟨minted.1, hshares, tokens, rfl⟩, hpaid.ledger⟩

/-- A withdrawal of both tokens. -/
structure Withdrawn (s s' : FeeState) (sender : Address) (key : PoolKey)
    (liquidity user validator : ℕ) (dest : Address) : Prop where
  owned : liquidity ≤ s.liquidityBalances key sender
  supply : liquidity ≤ s.totalSupply key
  supplied : s.totalSupply key ≠ 0
  userShare : user = liquidity * (s.pools key).reserveUserToken / s.totalSupply key
  validatorShare : validator = liquidity * (s.pools key).reserveValidatorToken / s.totalSupply key
  enoughUser : user ≤ (s.pools key).reserveUserToken
  enoughValidator : validator ≤ (s.pools key).reserveValidatorToken
  fundedUser : user ≤ s.ledger key.userToken tipFeeManagerAddress
  fundedValidator : validator ≤ s.ledger.move key.userToken tipFeeManagerAddress dest user
    key.validatorToken tipFeeManagerAddress
  state : s' = { (((s.setLiquidityBalances key sender
      (s.liquidityBalances key sender - liquidity)).setTotalSupply key
      (s.totalSupply key - liquidity)).setPool key
      ⟨(s.pools key).reserveUserToken - user,
        (s.pools key).reserveValidatorToken - validator⟩) with tokens := s'.tokens }
  ledger : s'.ledger = (s.ledger.move key.userToken tipFeeManagerAddress dest user).move
    key.validatorToken tipFeeManagerAddress dest validator

theorem checkedShare_eq_some {reserve supply share : ℕ}
    (h : checkedShare liquidity reserve supply = some share) :
    supply ≠ 0 ∧ share = liquidity * reserve / supply := by
  obtain ⟨product, hmul, h⟩ := Option.bind_eq_some_iff.mp h
  obtain ⟨rfl, -⟩ := checkedMul256_eq_some.mp hmul
  split at h
  · exact nomatch h
  · rename_i hsupply
    exact ⟨hsupply, (Option.some.inj h).symm⟩

theorem burn_ok {amounts : ℕ × ℕ}
    (h : burn ctx sender userToken validatorToken liquidity dest s = .ok amounts s') :
    Withdrawn s s' sender ⟨userToken, validatorToken⟩ liquidity amounts.1 amounts.2 dest := by
  obtain ⟨_, t, ⟨-, rfl⟩, h⟩ := step_bind_ok checkPair_ok h
  obtain ⟨_, -, h⟩ := fromToken_bind_ok.mp h
  obtain ⟨howned, h⟩ := require_bind_ok.mp h
  obtain ⟨calculated, t, ⟨user, huser, hamounts⟩, h⟩ := step_bind_ok okOr_bind_ok.mp h
  obtain ⟨validator, hvalidator, hamounts⟩ := okOr_bind_ok.mp hamounts
  obtain ⟨rfl, rfl⟩ := pure_ok.mp hamounts
  obtain ⟨hsupplied, huser⟩ := checkedShare_eq_some huser
  obtain ⟨-, hvalidator⟩ := checkedShare_eq_some hvalidator
  replace h := require_rest h
  obtain ⟨available, ⟨henough, rfl⟩, h⟩ := value_bind_ok checkedSub_eq_some.mp h
  obtain ⟨_, t, rfl, h⟩ := step_bind_ok checkReservation_ok h
  obtain ⟨balance, ⟨-, rfl⟩, h⟩ := value_bind_ok checkedSub_eq_some.mp h
  rw [modify_bind_ok] at h
  obtain ⟨supply, ⟨hcovered, rfl⟩, h⟩ := value_bind_ok checkedSub_eq_some.mp h
  rw [modify_bind_ok] at h
  replace h := require_rest h
  obtain ⟨rest, ⟨henoughUser, rfl⟩, h⟩ := value_bind_ok checkedSub_eq_some.mp h
  rw [modify_bind_ok] at h
  obtain ⟨_, t, ⟨tokens, rfl, hpaidUser⟩, h⟩ := step_bind_ok moveTokens_ok h
  obtain ⟨_, t, ⟨tokens', rfl, hpaid⟩, h⟩ := step_bind_ok moveTokens_ok h
  obtain ⟨rfl, rfl⟩ := pure_ok.mp h
  exact ⟨howned, hcovered, hsupplied, huser, hvalidator, henoughUser, henough, hpaidUser.enough,
    hpaidUser.ledger ▸ hpaid.enough, rfl, hpaidUser.ledger ▸ hpaid.ledger⟩

end Monotempo.FeeAmm
