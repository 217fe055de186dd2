/-
  The calls on the fee manager, and the fee cycle of a transaction.

  A transaction is charged its largest fee before it runs and settled after it has run;
  in between, and between transactions, pools and fees can be called.
-/
import Monotempo.FeeAmm.Effects

set_option autoImplicit false

namespace Monotempo.FeeAmm

open Chain Foundation

variable {token : Address} {u : Unit} {P : FeeState → Prop} {refund : ℕ}

/-! ## Calls -/

/-- The calls on the fee manager. -/
inductive Call where
  | mint (sender userToken validatorToken : Address) (amount : ℕ) (dest : Address)
  | burn (sender userToken validatorToken : Address) (liquidity : ℕ) (dest : Address)
  | rebalanceSwap (sender userToken validatorToken : Address) (amountOut : ℕ) (dest : Address)
  | distributeFees (validator token : Address)
  | setValidatorToken (sender token beneficiary : Address)

/-- Run a call. -/
def Call.run (ctx : Context) : Call → FeeM Unit
  | .mint sender userToken validatorToken amount dest => do
    let _ ← FeeAmm.mint ctx sender userToken validatorToken amount dest
    pure ()
  | .burn sender userToken validatorToken liquidity dest => do
    let _ ← FeeAmm.burn ctx sender userToken validatorToken liquidity dest
    pure ()
  | .rebalanceSwap sender userToken validatorToken amountOut dest => do
    let _ ← FeeAmm.rebalanceSwap ctx sender userToken validatorToken amountOut dest
    pure ()
  | .distributeFees validator token => FeeAmm.distributeFees ctx validator token
  | .setValidatorToken sender token beneficiary =>
    FeeAmm.setValidatorToken ctx sender token beneficiary

/-- The account that pays tokens in a call. -/
def Call.payer : Call → Option Address
  | .mint sender _ _ _ _ => some sender
  | .rebalanceSwap sender _ _ _ _ => some sender
  | _ => none

variable {ctx : Context} {s s' : FeeState}

/-- Collected fees were paid out. -/
structure FeesPaid (s s' : FeeState) (validator token : Address) : Prop where
  funded : s.collectedFees validator token ≤ s.ledger token tipFeeManagerAddress
  state : s' = { s.setCollectedFees validator token 0 with tokens := s'.tokens }
  ledger : s'.ledger = s.ledger.move token tipFeeManagerAddress validator
    (s.collectedFees validator token)

/-- What a successful call did. -/
inductive CallStep (s : FeeState) : Call → FeeState → Prop where
  | minted {sender userToken validatorToken dest : Address} {amount liquidity : ℕ}
      {s' : FeeState}
      (deposited : Deposited s s' sender ⟨userToken, validatorToken⟩ amount liquidity dest) :
      CallStep s (.mint sender userToken validatorToken amount dest) s'
  | burned {sender userToken validatorToken dest : Address} {liquidity user validator : ℕ}
      {s' : FeeState}
      (withdrawn : Withdrawn s s' sender ⟨userToken, validatorToken⟩ liquidity user validator
        dest) :
      CallStep s (.burn sender userToken validatorToken liquidity dest) s'
  | rebalanced {sender userToken validatorToken dest : Address} {amountOut amountIn : ℕ}
      {s' : FeeState}
      (rebalanced : Rebalanced s s' sender ⟨userToken, validatorToken⟩ amountOut amountIn dest) :
      CallStep s (.rebalanceSwap sender userToken validatorToken amountOut dest) s'
  | distributed {validator token : Address} {s' : FeeState}
      (paid : FeesPaid s s' validator token) :
      CallStep s (.distributeFees validator token) s'
  | nothing {validator token : Address} (none : s.collectedFees validator token = 0) :
      CallStep s (.distributeFees validator token) s
  | chosen {sender token beneficiary : Address} (other : sender ≠ beneficiary) :
      CallStep s (.setValidatorToken sender token beneficiary)
        { s with validatorTokens := Function.update s.validatorTokens sender token }

variable {validator : Address}

theorem distributeFees_ok (h : distributeFees ctx validator token s = .ok u s') :
    CallStep s (.distributeFees validator token) s' := by
  unfold distributeFees at h
  obtain ⟨-, h⟩ | ⟨hnone, rfl⟩ := onlyIf_ok.mp h
  · have h := modify_bind_ok.mp h
    obtain ⟨_, -, h⟩ := fromToken_bind_ok.mp h
    obtain ⟨tokens, rfl, hpaid⟩ := moveTokens_ok h
    exact .distributed ⟨hpaid.enough, rfl, hpaid.ledger⟩
  · exact .nothing (not_not.mp hnone)

theorem Call.step {call : Call} (h : call.run ctx s = .ok u s') :
    CallStep s call s' := by
  cases call with
  | mint sender userToken validatorToken amount dest =>
    obtain ⟨liquidity, t, hmint, h⟩ := bind_ok.mp h
    obtain ⟨-, rfl⟩ := pure_ok.mp h
    exact .minted (mint_ok hmint)
  | burn sender userToken validatorToken liquidity dest =>
    obtain ⟨amounts, t, hburn, h⟩ := bind_ok.mp h
    obtain ⟨-, rfl⟩ := pure_ok.mp h
    exact .burned (burn_ok hburn)
  | rebalanceSwap sender userToken validatorToken amountOut dest =>
    obtain ⟨amountIn, t, hrebalance, h⟩ := bind_ok.mp h
    obtain ⟨-, rfl⟩ := pure_ok.mp h
    exact .rebalanced (rebalanceSwap_ok hrebalance)
  | distributeFees validator token => exact distributeFees_ok h
  | setValidatorToken sender token beneficiary =>
    replace h := require_rest h
    obtain ⟨hother, h⟩ := require_bind_ok.mp h
    obtain ⟨_, -, h⟩ := fromToken_bind_ok.mp h
    obtain rfl := modify_ok.mp h
    exact .chosen hother

/-! ## The fee cycle -/

/-- What `collect_fee_pre_tx` charged. -/
structure Charge where
  payer : Address
  feeToken : Address
  maxAmount : ℕ
  beneficiary : Address

/-- The tokens of a payer move to the fee manager. -/
structure Charged (s s' : FeeState) (charge : Charge) : Prop where
  ledger : s'.ledger = s.ledger.move charge.feeToken charge.payer tipFeeManagerAddress
    charge.maxAmount
  collectedFees : s'.collectedFees = s.collectedFees
  pools : s'.pools = s.pools
  totalSupply : s'.totalSupply = s.totalSupply
  liquidityBalances : s'.liquidityBalances = s.liquidityBalances

/-- Only transient storage differs. -/
structure SameStorage (s s' : FeeState) : Prop where
  tokens : s'.tokens = s.tokens
  collectedFees : s'.collectedFees = s.collectedFees
  pools : s'.pools = s.pools
  totalSupply : s'.totalSupply = s.totalSupply
  liquidityBalances : s'.liquidityBalances = s.liquidityBalances

theorem SameStorage.refl : SameStorage s s := ⟨rfl, rfl, rfl, rfl, rfl⟩

variable {userToken validatorToken : Address} {maxAmount : ℕ}

theorem keeps_reservedOut {amountIn : ℕ} :
    Keeps P (reservedOut amountIn) :=
  keeps_okOr_bind fun _ _ => keeps_require_bind fun _ => keeps_pure _

variable {amountOut : ℕ}

theorem keeps_planTwoHop :
    Keeps P (planTwoHop ctx userToken validatorToken amountOut) :=
  keeps_bind (keeps_fromExcept _) fun _ => keeps_get_bind fun _ _ =>
    keeps_ite (fun _ => keeps_pure _) fun _ => keeps_okOr_bind fun _ _ => keeps_pure _

theorem keeps_planFeeRoute :
    Keeps P (planFeeRoute ctx userToken validatorToken maxAmount) :=
  keeps_ite (fun _ => keeps_pure _) fun _ => keeps_okOr_bind fun _ _ =>
    keeps_get_bind fun _ _ => keeps_ite (fun _ => keeps_pure _) fun _ =>
      keeps_ite (fun _ => keeps_planTwoHop) fun _ => keeps_pure _

theorem keeps_reserveFeeLiquidity {route : FeeRoute} :
    Keeps (SameStorage s) (reserveFeeLiquidity ctx userToken validatorToken maxAmount route) := by
  have hreserve : ∀ (key : PoolKey) (amount : ℕ), Keeps (SameStorage s)
      (modify fun s => s.reservePoolLiquidity key amount : FeeM Unit) :=
    fun _ _ => keeps_modify fun _ h => ⟨h.tokens, h.collectedFees, h.pools, h.totalSupply,
      h.liquidityBalances⟩
  cases route with
  | sameToken => exact keeps_pure _
  | direct => exact keeps_onlyIf fun _ => keeps_bind keeps_reservedOut fun _ => hreserve _ _
  | twoHop intermediate =>
    exact keeps_bind keeps_reservedOut fun _ => keeps_bind keeps_reservedOut fun _ =>
      keeps_modify fun _ h => ⟨h.tokens, h.collectedFees, h.pools, h.totalSupply,
        h.liquidityBalances⟩

theorem keeps_reserveRoute :
    Keeps (SameStorage s) (reserveRoute ctx userToken validatorToken maxAmount) :=
  keeps_bind keeps_planFeeRoute fun _ => keeps_okOr_bind fun _ _ => keeps_reserveFeeLiquidity

variable {payer : Address}

theorem transferFeePreTx_ok {amount : ℕ}
    (h : transferFeePreTx ctx token payer amount s = .ok u s') :
    s'.ledger = s.ledger.move token payer tipFeeManagerAddress amount ∧
      ∃ st, s' = s.setToken token st := by
  obtain ⟨st, hrun, rfl⟩ := onToken_ok.mp h
  have hmoved := Tip20.transferFeePreTx_ok hrun
  exact ⟨balancesOf_moved hmoved, st, rfl⟩

theorem collectFeePreTx_ok {beneficiary : Address} {skipLiquidityCheck : Bool} {paidToken : Address}
    (h : collectFeePreTx ctx payer userToken maxAmount beneficiary skipLiquidityCheck s =
      .ok paidToken s') :
    Charged s s' ⟨payer, userToken, maxAmount, beneficiary⟩ := by
  unfold collectFeePreTx at h
  obtain ⟨_, -, h⟩ := fromToken_bind_ok.mp h
  obtain ⟨_, -, h⟩ := fromToken_bind_ok.mp h
  obtain ⟨_, t, ⟨hledger, st, rfl⟩, h⟩ := step_bind_ok transferFeePreTx_ok h
  obtain ⟨_, t, hreserve, h⟩ := bind_ok.mp h
  have hsame := (keeps_onlyIf fun _ => keeps_reserveRoute).ok .refl hreserve
  obtain ⟨-, rfl⟩ := pure_ok.mp h
  exact ⟨(congrArg balancesOf hsame.tokens).trans hledger, hsame.collectedFees, hsame.pools,
    hsame.totalSupply, hsame.liquidityBalances⟩

/-! ## Settlement -/

/-- How a fee was swapped, and what the validator is credited. -/
inductive Settlement (feeToken hopToken validatorToken : Address) (actualSpending : ℕ)
    (s : FeeState) : ℕ → FeeState → Prop where
  | sameToken (same : feeToken = validatorToken) :
      Settlement feeToken hopToken validatorToken actualSpending s actualSpending s
  | unspent (other : feeToken ≠ validatorToken) (unspent : actualSpending = 0) :
      Settlement feeToken hopToken validatorToken actualSpending s 0 s
  | direct {credited : ℕ} {s' : FeeState} (other : feeToken ≠ validatorToken) (hop : hopToken = 0)
      (spent : actualSpending ≠ 0)
      (swap : Swapped s s' ⟨feeToken, validatorToken⟩ actualSpending credited) :
      Settlement feeToken hopToken validatorToken actualSpending s credited s'
  | twoHop {out1 credited : ℕ} {t s' : FeeState} (other : feeToken ≠ validatorToken)
      (hop : hopToken ≠ 0) (spent : actualSpending ≠ 0)
      (first : Swapped s t ⟨feeToken, hopToken⟩ actualSpending out1)
      (second : Swapped t s' ⟨hopToken, validatorToken⟩ out1 credited) :
      Settlement feeToken hopToken validatorToken actualSpending s credited s'

theorem computeAmountOut_zero (h : computeAmountOut 0 = some amountOut) :
    amountOut = 0 := by
  rw [(computeAmountOut_eq_some.mp h).1]
  decide

theorem settleFee_ok {feeToken hopToken : Address} {actualSpending credited : ℕ}
    (h : settleFee feeToken hopToken validatorToken actualSpending s = .ok credited s') :
    Settlement feeToken hopToken validatorToken actualSpending s credited s' := by
  unfold settleFee at h
  split at h
  · rename_i hsame
    obtain ⟨rfl, rfl⟩ := pure_ok.mp h
    exact .sameToken hsame
  · rename_i hother
    split at h
    · rename_i hhop
      obtain ⟨_, t, hswap, h⟩ := bind_ok.mp h
      obtain ⟨hcredited, rfl⟩ := okOr_ok.mp h
      obtain ⟨hspent, hswap⟩ | ⟨hunspent, rfl⟩ := onlyIf_ok.mp hswap
      · obtain ⟨out, t, hexecute, hswap⟩ := bind_ok.mp hswap
        obtain ⟨-, rfl⟩ := pure_ok.mp hswap
        have hswapped := executeFeeSwap_ok hexecute
        rw [(computeAmountOut_eq_some.mp hcredited).1, ← hswapped.output]
        exact .direct hother hhop hspent hswapped
      · rw [not_not.mp hunspent] at hcredited
        rw [computeAmountOut_zero hcredited]
        exact .unspent hother (not_not.mp hunspent)
    · rename_i hhop
      obtain ⟨_, t, hswap, h⟩ := bind_ok.mp h
      obtain ⟨out, hout, h⟩ := okOr_bind_ok.mp h
      obtain ⟨hcredited, rfl⟩ := okOr_ok.mp h
      obtain ⟨hspent, hswap⟩ | ⟨hunspent, rfl⟩ := onlyIf_ok.mp hswap
      · obtain ⟨out1, t₁, hfirst, hswap⟩ := bind_ok.mp hswap
        obtain ⟨out2, t₂, hsecond, hswap⟩ := bind_ok.mp hswap
        obtain ⟨-, rfl⟩ := pure_ok.mp hswap
        have hswapped := executeFeeSwap_ok hfirst
        have hswapped' := executeFeeSwap_ok hsecond
        have hout1 : out = out1 := (computeAmountOut_eq_some.mp hout).1.trans hswapped.output.symm
        rw [hout1] at hcredited
        rw [(computeAmountOut_eq_some.mp hcredited).1, ← hswapped'.output]
        exact .twoHop hother hhop hspent hswapped hswapped'
      · rw [not_not.mp hunspent] at hout
        rw [computeAmountOut_zero hout] at hcredited
        rw [computeAmountOut_zero hcredited]
        exact .unspent hother (not_not.mp hunspent)

/-- The refund of a charge. -/
inductive Refunded (s : FeeState) (token payer : Address) : ℕ → FeeState → Prop where
  | nothing : Refunded s token payer 0 s
  | paid {refund : ℕ} {tokens : Address → Tip20.TokenState}
      (funded : refund ≤ s.ledger token tipFeeManagerAddress)
      (ledger : balancesOf tokens = s.ledger.move token tipFeeManagerAddress payer refund) :
      Refunded s token payer refund { s with tokens := tokens }

theorem transferFeePostTx_ok (h : transferFeePostTx ctx token payer refund s = .ok u s') :
    Refunded s token payer refund s' := by
  obtain ⟨st, hrun, rfl⟩ := onToken_ok.mp h
  have heffect := Tip20.transferFeePostTx_ok hrun
  split at heffect
  · rename_i hnone
    have hsame : s.setToken token st = s := by
      rw [← heffect]
      simp [FeeState.setToken]
    rw [hnone, hsame]
    exact .nothing
  · exact .paid heffect.enough (balancesOf_moved heffect)

theorem incrementCollectedFees_ok {amount : ℕ}
    (h : incrementCollectedFees validator token amount s = .ok u s') :
    (amount = 0 ∧ s = s') ∨
      s' = s.setCollectedFees validator token (s.collectedFees validator token + amount) := by
  obtain ⟨-, h⟩ | ⟨hnone, rfl⟩ := onlyIf_ok.mp h
  · rw [get_bind_ok] at h
    obtain ⟨fees, ⟨rfl, -⟩, h⟩ := value_bind_ok checkedAdd256_eq_some.mp h
    exact .inr (modify_ok.mp h)
  · exact .inl ⟨not_not.mp hnone, rfl⟩

/-- A refund, a settlement and a credit. -/
structure Collected (s s' : FeeState) (charge : Charge) (actualSpending refund credited : ℕ) :
    Prop where
  steps : ∃ t t', Refunded s charge.feeToken charge.payer refund t ∧
    Settlement charge.feeToken s.twoHopIntermediate (s.getValidatorToken charge.beneficiary)
      actualSpending t credited t' ∧
    ((credited = 0 ∧ t' = s') ∨ s' = t'.setCollectedFees charge.beneficiary
      (s.getValidatorToken charge.beneficiary)
      (t'.collectedFees charge.beneficiary (s.getValidatorToken charge.beneficiary) + credited))

theorem Refunded.preferences {t : FeeState} (h : Refunded s token payer refund t) :
    t.twoHopIntermediate = s.twoHopIntermediate ∧ t.validatorTokens = s.validatorTokens := by
  cases h with
  | nothing | paid => exact ⟨rfl, rfl⟩

theorem collectFeePostTx_ok {charge : Charge} {actualSpending credited : ℕ}
    (h : collectFeePostTx ctx charge.payer actualSpending refund charge.feeToken
      charge.beneficiary s = .ok credited s') :
    Collected s s' charge actualSpending refund credited := by
  obtain ⟨_, -, h⟩ := fromToken_bind_ok.mp h
  obtain ⟨_, t, hrefund, h⟩ := bind_ok.mp h
  have hrefunded := transferFeePostTx_ok hrefund
  obtain ⟨hhop, htokens⟩ := hrefunded.preferences
  have hvalidator : t.getValidatorToken charge.beneficiary =
      s.getValidatorToken charge.beneficiary := by
    unfold FeeState.getValidatorToken
    rw [htokens]
  rw [get_bind_ok] at h
  obtain ⟨amount, t', hsettle, h⟩ := bind_ok.mp h
  rw [hhop, hvalidator] at hsettle
  obtain ⟨_, t'', hcredit, h⟩ := bind_ok.mp h
  rw [hvalidator] at hcredit
  obtain ⟨rfl, rfl⟩ := pure_ok.mp h
  exact ⟨t, t', hrefunded, settleFee_ok hsettle, incrementCollectedFees_ok hcredit⟩

/-! ## Runs -/

/-- What happens to the fee manager. -/
inductive Action where
  | call (call : Call)
  /-- a transaction starts -/
  | preTx (charge : Charge) (skipLiquidityCheck : Bool)
  /-- the charged transaction has spent this -/
  | postTx (actualSpending : ℕ)

/-- One successful action; a transaction is charged or not. -/
inductive Step (ctx : Context) :
    Option Charge → FeeState → Action → Option Charge → FeeState → Prop where
  | call {charged : Option Charge} {s s' : FeeState} {call : Call}
      (run : call.run ctx s = .ok () s') : Step ctx charged s (.call call) charged s'
  | preTx {s s' : FeeState} {charge : Charge} {skipLiquidityCheck : Bool} {token : Address}
      (run : collectFeePreTx ctx charge.payer charge.feeToken charge.maxAmount charge.beneficiary
        skipLiquidityCheck s.clearTransient = .ok token s') :
      Step ctx none s (.preTx charge skipLiquidityCheck) (some charge) s'
  | postTx {s s' : FeeState} {charge : Charge} {actualSpending refund credited : ℕ}
      (spent : actualSpending + refund = charge.maxAmount)
      (run : collectFeePostTx ctx charge.payer actualSpending refund charge.feeToken
        charge.beneficiary s = .ok credited s') :
      Step ctx (some charge) s (.postTx actualSpending) none s'

/-- Any number of allowed actions; failed calls are reverted. -/
inductive Run (allowed : Option Charge → FeeState → Action → Prop) (charged₀ : Option Charge)
    (start : FeeState) : Option Charge → FeeState → Prop where
  | start : Run allowed charged₀ start charged₀ start
  | step {charged charged' : Option Charge} {s s' : FeeState} {ctx : Context} {action : Action}
      (run : Run allowed charged₀ start charged s) (allows : allowed charged s action)
      (step : Step ctx charged s action charged' s') : Run allowed charged₀ start charged' s'

/-- The fee swaps of a settlement, with their inputs. -/
def feeSwaps (feeToken hopToken validatorToken : Address) (actualSpending : ℕ) :
    List (PoolKey × ℕ) :=
  if feeToken = validatorToken ∨ actualSpending = 0 then []
  else if hopToken = 0 then [(⟨feeToken, validatorToken⟩, actualSpending)]
  else [(⟨feeToken, hopToken⟩, actualSpending),
    (⟨hopToken, validatorToken⟩, actualSpending * M / scale)]

end Monotempo.FeeAmm
