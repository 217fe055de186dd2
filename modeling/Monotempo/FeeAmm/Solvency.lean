/-
  The fee manager has what it owes.

  One balance of a token backs the reserves of every pool that holds the token on either
  side and the collected fees of every validator.  While a transaction runs, it also backs
  what the transaction was charged.
-/
import Monotempo.FeeAmm.Calls

set_option autoImplicit false

namespace Monotempo.FeeAmm

open Chain Foundation Function FeeState

variable {ctx : Context} {s s' t : FeeState} {sender dest token recipient : Address}
  {key : PoolKey} {amount liquidity amountIn amountOut user validator : ℕ}
  {reserve reserve' : Address → ℤ}

/-! ## What is owed -/

/-- What a token can be owed for. -/
inductive Claim where
  | userReserve (key : PoolKey)
  | validatorReserve (key : PoolKey)
  | fees (validator : Address)
  deriving DecidableEq

/-- What the fee manager owes of a token. -/
def FeeState.owes (s : FeeState) (token : Address) : Claim → ℕ
  | .userReserve key => if key.userToken = token then (s.pools key).reserveUserToken else 0
  | .validatorReserve key =>
    if key.validatorToken = token then (s.pools key).reserveValidatorToken else 0
  | .fees validator => s.collectedFees validator token

/-- An amount of one token. -/
def amountAt (token : Address) (amount : ℕ) (other : Address) : ℤ :=
  if token = other then amount else 0

theorem amountAt_add (token : Address) (a b : ℕ) (other : Address) :
    amountAt token (a + b) other = amountAt token a other + amountAt token b other := by
  unfold amountAt
  split
  · exact Nat.cast_add a b
  · rfl

/-- What is owed of every token is covered. -/
def Covered (s : FeeState) (reserve : Address → ℤ) : Prop :=
  ∀ token, Backed (s.owes token) (reserve token)

theorem Covered.mono (h : Covered s reserve) (hle : ∀ token, reserve token ≤ reserve' token) :
    Covered s reserve' :=
  fun token => (h token).mono (hle token)

theorem Covered.same (h : Covered s reserve) (hpools : s'.pools = s.pools)
    (hfees : s'.collectedFees = s.collectedFees) : Covered s' reserve := by
  intro token
  have howes : s'.owes token = s.owes token := by
    funext claim
    cases claim with
    | userReserve | validatorReserve => rw [owes, owes, hpools]
    | fees validator => rw [owes, owes, hfees]
  rw [howes]
  exact h token

theorem owes_setPool (s : FeeState) (key : PoolKey) (pool : Pool) (token : Address) :
    (s.setPool key pool).owes token = update (update (s.owes token)
      (.userReserve key) (if key.userToken = token then pool.reserveUserToken else 0))
      (.validatorReserve key)
      (if key.validatorToken = token then pool.reserveValidatorToken else 0) := by
  funext claim
  cases claim with
  | userReserve other | validatorReserve other =>
    by_cases heq : other = key
    · subst heq
      simp [owes, setPool]
    · simp [owes, setPool, heq]
  | fees validator => simp [owes, setPool]

/-- New reserves of a pool move the reserve by as much on either side. -/
theorem Covered.setPool {pool : Pool} (h : Covered s reserve)
    (hreserve : ∀ token,
      reserve token + amountAt key.userToken pool.reserveUserToken token +
          amountAt key.validatorToken pool.reserveValidatorToken token ≤
        reserve' token + amountAt key.userToken (s.pools key).reserveUserToken token +
          amountAt key.validatorToken (s.pools key).reserveValidatorToken token) :
    Covered (s.setPool key pool) reserve' := by
  intro token
  rw [owes_setPool]
  have hle := hreserve token
  unfold amountAt at hle
  have huser : Backed (update (s.owes token) (.userReserve key)
      (if key.userToken = token then pool.reserveUserToken else 0))
      (reserve token + (if key.userToken = token then pool.reserveUserToken else 0 : ℕ) -
        (if key.userToken = token then (s.pools key).reserveUserToken else 0 : ℕ)) := by
    refine (h token).update _ ?_
    rw [owes]
    omega
  refine huser.update _ ?_
  rw [update_of_ne (by simp), owes]
  push_cast
  omega

theorem owes_setCollectedFees (s : FeeState) (validator token other : Address) (amount : ℕ) :
    (s.setCollectedFees validator token amount).owes other = update (s.owes other)
      (.fees validator) (if token = other then amount else s.collectedFees validator other) := by
  funext claim
  cases claim with
  | userReserve | validatorReserve => simp [owes, setCollectedFees]
  | fees account =>
    by_cases heq : account = validator
    · subst heq
      by_cases htoken : token = other
      · subst htoken
        simp [owes, setCollectedFees]
      · simp [owes, setCollectedFees, htoken, Ne.symm htoken]
    · simp [owes, setCollectedFees, heq]

/-- New collected fees of a validator move the reserve by as much. -/
theorem Covered.setCollectedFees {account : Address} (h : Covered s reserve)
    (hreserve : ∀ other, reserve other + amountAt token amount other ≤
      reserve' other + amountAt token (s.collectedFees account token) other) :
    Covered (s.setCollectedFees account token amount) reserve' := by
  intro other
  rw [owes_setCollectedFees]
  refine (h other).update _ ?_
  have hle := hreserve other
  unfold amountAt at hle
  rw [owes]
  by_cases htoken : token = other
  · subst htoken
    simp only [if_true] at hle ⊢
    exact hle
  · simp only [if_neg htoken] at hle ⊢
    omega

/-! ## What is held -/

/-- The balances of the fee manager. -/
def FeeState.held (s : FeeState) (token : Address) : ℤ := s.ledger token tipFeeManagerAddress

theorem held_receive (ledger : Ledger) (token : Address) (amount : ℕ)
    (hsender : sender ≠ tipFeeManagerAddress) (other : Address) :
    (ledger.move token sender tipFeeManagerAddress amount other tipFeeManagerAddress : ℤ) =
      ledger other tipFeeManagerAddress + amountAt token amount other := by
  unfold amountAt
  by_cases htoken : token = other
  · subst htoken
    rw [Ledger.move_recipient (Ne.symm hsender), if_pos rfl]
    rfl
  · rw [Ledger.move_other_token (Ne.symm htoken), if_neg htoken, add_zero]

theorem held_send {ledger : Ledger} (recipient : Address)
    (hfunded : amount ≤ ledger token tipFeeManagerAddress) (other : Address) :
    (ledger other tipFeeManagerAddress : ℤ) - amountAt token amount other ≤
      ledger.move token tipFeeManagerAddress recipient amount other tipFeeManagerAddress := by
  unfold amountAt
  by_cases htoken : token = other
  · subst htoken
    have hle : ledger token tipFeeManagerAddress - amount ≤
        ledger.move token tipFeeManagerAddress recipient amount token tipFeeManagerAddress :=
      Ledger.le_move_sender hfunded
    rw [if_pos rfl]
    omega
  · rw [Ledger.move_other_token (Ne.symm htoken), if_neg htoken, sub_zero]

/-! ## Steps -/

/-- What a step adds to the reserve it needs. -/
theorem Swapped.covered (h : Swapped s s' key amountIn amountOut) (hcovered : Covered s reserve) :
    Covered s' fun token => reserve token + amountAt key.userToken amountIn token -
      amountAt key.validatorToken amountOut token := by
  have henough := h.enough
  rw [h.state]
  refine hcovered.setPool fun token => ?_
  unfold amountAt
  split <;> split <;> push_cast [Nat.cast_sub henough] <;> omega

theorem Deposited.covered (h : Deposited s s' sender key amount liquidity dest)
    (hcovered : Covered s reserve) :
    Covered s' fun token => reserve token + amountAt key.validatorToken amount token := by
  obtain ⟨supply, -, tokens, rfl⟩ := h.minted
  have hpool : Covered (s.setPool key { s.pools key with
      reserveValidatorToken := (s.pools key).reserveValidatorToken + amount })
      fun token => reserve token + amountAt key.validatorToken amount token := by
    refine hcovered.setPool fun token => ?_
    unfold amountAt
    split <;> split <;> push_cast <;> omega
  exact hpool.same rfl rfl

theorem Withdrawn.covered (h : Withdrawn s s' sender key liquidity user validator dest)
    (hcovered : Covered s reserve) :
    Covered s' fun token => reserve token - amountAt key.userToken user token -
      amountAt key.validatorToken validator token := by
  have huser := h.enoughUser
  have hvalidator := h.enoughValidator
  rw [h.state]
  have hpool : Covered (s.setPool key ⟨(s.pools key).reserveUserToken - user,
      (s.pools key).reserveValidatorToken - validator⟩)
      fun token => reserve token - amountAt key.userToken user token -
        amountAt key.validatorToken validator token := by
    refine hcovered.setPool fun token => ?_
    unfold amountAt
    split <;> split <;> push_cast [Nat.cast_sub huser, Nat.cast_sub hvalidator] <;> omega
  exact hpool.same rfl rfl

theorem Rebalanced.covered (h : Rebalanced s s' sender key amountOut amountIn dest)
    (hcovered : Covered s reserve) :
    Covered s' fun token => reserve token - amountAt key.userToken amountOut token +
      amountAt key.validatorToken amountIn token := by
  have henough := h.enough
  rw [h.state]
  have hpool : Covered (s.setPool key ⟨(s.pools key).reserveUserToken - amountOut,
      (s.pools key).reserveValidatorToken + amountIn⟩)
      fun token => reserve token - amountAt key.userToken amountOut token +
        amountAt key.validatorToken amountIn token := by
    refine hcovered.setPool fun token => ?_
    unfold amountAt
    split <;> split <;> push_cast [Nat.cast_sub henough] <;> omega
  exact hpool.same rfl rfl

/-- The tokens of the pending charge. -/
def pendingOf : Option Charge → Address → ℤ
  | none => fun _ => 0
  | some charge => amountAt charge.feeToken charge.maxAmount

/-- The balances of the fee manager cover what it owes and the pending charge. -/
def Solvent (charged : Option Charge) (s : FeeState) : Prop :=
  Covered s fun token => s.held token - pendingOf charged token

/-- A call that is not paid by the fee manager itself. -/
def PaidOutside (_ : Option Charge) (_ : FeeState) : Action → Prop
  | .call call => call.payer ≠ some tipFeeManagerAddress
  | .preTx charge _ => charge.payer ≠ tipFeeManagerAddress
  | .postTx _ => True

variable {charged charged' : Option Charge}

theorem Solvent.call {call : Call} (h : Solvent charged s)
    (hpayer : call.payer ≠ some tipFeeManagerAddress) (hstep : CallStep s call s') :
    Solvent charged s' := by
  cases hstep with
  | @minted sender userToken validatorToken dest amount liquidity _ deposited =>
    have hsender : sender ≠ tipFeeManagerAddress := fun heq => hpayer (congrArg some heq)
    refine (deposited.covered h).mono fun token => ?_
    have hheld := held_receive s.ledger validatorToken amount hsender token
    simp only [held, deposited.ledger]
    omega
  | @burned sender userToken validatorToken dest liquidity user validator _ withdrawn =>
    refine (withdrawn.covered h).mono fun token => ?_
    have hfirst := held_send dest withdrawn.fundedUser token
    have hsecond := held_send dest withdrawn.fundedValidator token
    simp only [held, withdrawn.ledger] at hfirst hsecond ⊢
    omega
  | @rebalanced sender userToken validatorToken dest amountOut amountIn _ rebalanced =>
    have hsender : sender ≠ tipFeeManagerAddress := fun heq => hpayer (congrArg some heq)
    refine (rebalanced.covered h).mono fun token => ?_
    have hfirst := held_receive s.ledger validatorToken amountIn hsender token
    have hsecond := held_send dest rebalanced.funded token
    simp only [held, rebalanced.ledger] at hsecond ⊢
    omega
  | @distributed validator token _ paid =>
    have hzero : Covered (s.setCollectedFees validator token 0) fun other =>
        s.held other - pendingOf charged other -
          amountAt token (s.collectedFees validator token) other := by
      refine Covered.setCollectedFees h fun other => ?_
      have hnothing : amountAt token 0 other = 0 := by simp [amountAt]
      omega
    have hsent := held_send validator paid.funded
    have hsame : Covered s' fun other => s.held other - pendingOf charged other -
        amountAt token (s.collectedFees validator token) other := by
      rw [paid.state]
      exact hzero.same rfl rfl
    refine hsame.mono fun other => ?_
    have hle := hsent other
    simp only [held, paid.ledger]
    omega
  | nothing none => exact h
  | chosen other => exact Covered.same h rfl rfl

variable {actualSpending : ℕ}

variable {credited : ℕ}

/-- A fee is swapped within the reserve. -/
theorem Settlement.covered {feeToken hopToken validatorToken : Address}
    (h : Settlement feeToken hopToken validatorToken actualSpending s credited s')
    (hcovered : Covered s reserve) :
    Covered s' fun token => reserve token + amountAt feeToken actualSpending token -
      amountAt validatorToken credited token := by
  cases h with
  | sameToken same =>
    subst same
    exact hcovered.mono fun token => by omega
  | unspent other unspent =>
    subst unspent
    refine hcovered.mono fun token => ?_
    simp [amountAt]
  | direct other hop spent swap => exact swap.covered hcovered
  | twoHop other hop spent first second =>
    exact (second.covered (first.covered hcovered)).mono fun token => by
      dsimp only
      omega

theorem Settlement.tokens {feeToken hopToken validatorToken : Address}
    (h : Settlement feeToken hopToken validatorToken actualSpending s credited s') :
    s'.tokens = s.tokens := by
  cases h with
  | sameToken | unspent => rfl
  | direct other hop spent swap =>
    rw [swap.state]
    rfl
  | twoHop other hop spent first second =>
    rw [second.state, first.state]
    rfl

variable {charge : Charge}

theorem Solvent.collected {refund : ℕ} (h : Solvent (some charge) s)
    (hspent : actualSpending + refund = charge.maxAmount)
    (hcollected : Collected s s' charge actualSpending refund credited) : Solvent none s' := by
  obtain ⟨t, t', hrefunded, hsettlement, hcredit⟩ := hcollected.steps
  have hrefund : Covered t (fun token => s.held token - pendingOf (some charge) token) ∧
      ∀ token, s.held token - amountAt charge.feeToken refund token ≤ t.held token := by
    cases hrefunded with
    | nothing =>
      refine ⟨h, fun token => ?_⟩
      simp [amountAt]
    | paid funded ledger =>
      refine ⟨Covered.same h rfl rfl, fun token => ?_⟩
      show _ ≤ (balancesOf _ token tipFeeManagerAddress : ℤ)
      rw [ledger]
      exact held_send charge.payer funded token
  have hsettled := hsettlement.covered hrefund.1
  have hcredited : Covered s' fun token => s.held token - pendingOf (some charge) token +
      amountAt charge.feeToken actualSpending token := by
    rcases hcredit with ⟨hnothing, rfl⟩ | rfl
    · refine hsettled.mono fun token => ?_
      subst hnothing
      simp [amountAt]
    · refine hsettled.setCollectedFees fun token => ?_
      rw [amountAt_add]
      omega
  have hledger : s'.held = t.held := by
    have hsame : s'.tokens = t.tokens := by
      rcases hcredit with ⟨-, rfl⟩ | rfl
      · exact hsettlement.tokens
      · exact hsettlement.tokens
    funext token
    simp only [held, FeeState.ledger, hsame]
  refine hcredited.mono fun token => ?_
  have hheld := hrefund.2 token
  rw [hledger]
  simp only [pendingOf]
  rw [← hspent, amountAt_add]
  omega

theorem Solvent.afterCharge (h : Solvent none s) (hpayer : charge.payer ≠ tipFeeManagerAddress)
    (hcharged : Charged s.clearTransient s' charge) : Solvent (some charge) s' := by
  refine (Covered.same h hcharged.pools hcharged.collectedFees).mono fun token => ?_
  have hheld := held_receive s.clearTransient.ledger charge.feeToken charge.maxAmount hpayer token
  have hsame : s.clearTransient.ledger = s.ledger := rfl
  simp only [held, pendingOf, hcharged.ledger, hsame] at hheld ⊢
  omega

theorem Solvent.step {action : Action} (h : Solvent charged s)
    (hpaid : PaidOutside charged s action) (hstep : Step ctx charged s action charged' s') :
    Solvent charged' s' := by
  cases hstep with
  | call run => exact h.call hpaid (Call.step run)
  | @preTx _ _ charge skipLiquidityCheck token run =>
    exact h.afterCharge hpaid (collectFeePreTx_ok run)
  | postTx spent run => exact h.collected spent (collectFeePostTx_ok run)

theorem Solvent.run {start : FeeState} {charged₀ : Option Charge} (h : Solvent charged₀ start)
    (run : Run PaidOutside charged₀ start charged s) : Solvent charged s := by
  induction run with
  | start => exact h
  | step run allows step ih => exact ih.step allows step

theorem solvent_fresh (tokens : Address → Tip20.TokenState) : Solvent none (.fresh tokens) := by
  intro token
  refine Backed.of_le (backed_zero ?_) fun claim => ?_
  · simp [held, pendingOf]
  · cases claim with
    | userReserve | validatorReserve | fees => simp [owes, fresh]

/-- In every reachable state the balance of the fee manager in a token is at least the reserves
that all pools hold of it on either side and the fees that validators have collected in it.
While a transaction is charged, the charge is covered as well. -/
theorem fee_manager_solvent {tokens : Address → Tip20.TokenState}
    (run : Run PaidOutside none (.fresh tokens) charged s) (token : Address) :
    Backed (s.owes token)
      ((s.ledger token tipFeeManagerAddress : ℤ) - pendingOf charged token) :=
  (solvent_fresh tokens).run run token

/-- A deposit, and a transaction that pays its fee through the pool. -/
theorem fee_manager_solvent_cycle :
    ∃ s, Run PaidOutside none sampleState none s ∧ s.collectedFees 9 pathUsdAddress = 498 ∧
      498 ≤ s.ledger pathUsdAddress tipFeeManagerAddress := by
  have hreturned : returned ((do
      (Call.mint 7 (pathUsdAddress + 1) pathUsdAddress 10000 7).run (.permissive .T8)
      modify clearTransient
      let _ ← collectFeePreTx (.permissive .T8) 7 (pathUsdAddress + 1) 600 9 false
      let _ ← collectFeePostTx (.permissive .T8) 7 500 100 (pathUsdAddress + 1) 9
      let s ← get
      require (s.collectedFees 9 pathUsdAddress = 498) .underOverflow : FeeM Unit)
      sampleState) = true := by
    decide +kernel
  obtain ⟨_, s, hrun⟩ := returned_iff.mp hreturned
  obtain ⟨_, s₁, hmint, hrun⟩ := bind_ok.mp hrun
  rw [modify_bind_ok] at hrun
  obtain ⟨_, s₂, hpre, hrun⟩ := bind_ok.mp hrun
  obtain ⟨_, s₃, hpost, hrun⟩ := bind_ok.mp hrun
  obtain ⟨hfees, rfl⟩ := require_ok.mp hrun
  let charge : Charge := ⟨7, pathUsdAddress + 1, 600, 9⟩
  have hoff : (7 : Address) ≠ tipFeeManagerAddress := by decide
  have hdeposit : PaidOutside none sampleState
      (.call (.mint 7 (pathUsdAddress + 1) pathUsdAddress 10000 7)) :=
    fun heq => hoff (Option.some.inj heq)
  have hcharge : PaidOutside none s₁ (.preTx charge false) := hoff
  have hsettle : PaidOutside (some charge) s₂ (.postTx 500) := trivial
  have hreach : Run PaidOutside none sampleState none s₃ :=
    .step (.step (.step .start hdeposit (.call hmint)) hcharge (.preTx hpre)) hsettle
      (.postTx rfl hpost)
  refine ⟨s₃, hreach, hfees, ?_⟩
  have hcovered := (fee_manager_solvent hreach pathUsdAddress).le (.fees 9)
  simp only [owes, hfees, pendingOf] at hcovered
  omega

end Monotempo.FeeAmm
