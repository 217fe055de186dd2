/-
  The fee manager and its liquidity pools.

  Source: `crates/precompiles/src/tip_fee_manager/mod.rs`, `tip_fee_manager/amm.rs`, and
  `tip20/mod.rs` (`transfer_fee_pre_tx`, `transfer_fee_post_tx`).

  A pool is directional: fees paid in the user token are swapped into the validator token
  at a fixed rate, and anyone may swap back at a better one.  Pools are stored under the
  hash of their two tokens, which has no collisions: here they are stored under the tokens.
  The tokens are those of `Tip20/State.lean`: payments and fees settle rewards and change the
  opted-in supply as `_transfer` and the fee transfers do.  Recipient resolution, allowances
  and spending limits of payments are one answer of the token layer.  Token preferences of
  users, storage credits and events are left out.
-/
import Monotempo.Chain.Token
import Monotempo.Tip20.State

set_option autoImplicit false

namespace Monotempo.FeeAmm

open Chain Foundation Function

/-! ## Errors -/

/-- `TIPFeeAMMError`. -/
inductive TIPFeeAMMError where
  | identicalAddresses
  | invalidAmount
  | insufficientLiquidity
  | insufficientReserves
  | invalidSwapCalculation
  | divisionByZero
  deriving DecidableEq, Repr

/-- `FeeManagerError`. -/
inductive FeeManagerError where
  | invalidToken
  | cannotChangeWithinBlock
  deriving DecidableEq, Repr

/-- What a call fails with. -/
inductive Error where
  | amm (error : TIPFeeAMMError)
  | feeManager (error : FeeManagerError)
  | token (error : TokenError)
  /-- an error of the storage of a token -/
  | tip20 (error : Tip20.Error)
  | underOverflow
  deriving DecidableEq, Repr

/-! ## Storage -/

/-- `M`: the rate of fee swaps, 0.9970. -/
def M : ℕ := 9970

/-- `N`: the rate of rebalance swaps, 0.9985. -/
def N : ℕ := 9985

/-- `SCALE`. -/
def scale : ℕ := 10000

/-- `MIN_LIQUIDITY`. -/
def minLiquidity : ℕ := 1000

/-- `Pool`. -/
structure Pool where
  reserveUserToken : ℕ
  reserveValidatorToken : ℕ
  deriving DecidableEq, Repr

/-- `PoolKey`. -/
structure PoolKey where
  userToken : Address
  validatorToken : Address
  deriving DecidableEq, Repr

/-- `FeeRoute`. -/
inductive FeeRoute where
  | sameToken
  | direct
  | twoHop (intermediate : Address)
  deriving DecidableEq, Repr

/-- `TipFeeManager`, with the TIP-20 tokens.  The last two fields of the source are
transient: they are cleared when a transaction starts. -/
structure FeeState where
  validatorTokens : Address → Address
  collectedFees : Address → Address → ℕ
  pools : PoolKey → Pool
  totalSupply : PoolKey → ℕ
  liquidityBalances : PoolKey → Address → ℕ
  pendingFeeSwapReservation : PoolKey → ℕ
  twoHopIntermediate : Address
  tokens : Address → Tip20.TokenState

/-- The balances of tokens. -/
def balancesOf (tokens : Address → Tip20.TokenState) : Ledger := fun token =>
  (tokens token).balances

/-- The TIP-20 balances. -/
def FeeState.ledger (s : FeeState) : Ledger := balancesOf s.tokens

/-- No pools and no fees. -/
def FeeState.fresh (tokens : Address → Tip20.TokenState) : FeeState where
  validatorTokens _ := 0
  collectedFees _ _ := 0
  pools _ := ⟨0, 0⟩
  totalSupply _ := 0
  liquidityBalances _ _ := 0
  pendingFeeSwapReservation _ := 0
  twoHopIntermediate := 0
  tokens := tokens

/-- What a call runs under. -/
structure Context where
  spec : TempoHardfork
  env : TokenEnv
  /-- `AccountKeychain::authorize_transfer`: account, token and amount -/
  authorizeTransfer : Address → Address → ℕ → Except ℕ Unit
  /-- `AccountKeychain::refund_spending_limit`: account, token and amount -/
  refundSpendingLimit : Address → Address → ℕ → Except ℕ Unit

/-- What `_transfer` and the fee transfers of a token run under.  They ask for the fork, the
pause and the keychain only. -/
def Context.tip20 (ctx : Context) : Tip20.Context where
  spec := ctx.spec
  timestamp := 0
  paused := ctx.env.paused
  hasRole _ _ _ := false
  authorizedAs _ _ _ := .ok false
  receivePolicies account := ⟨false, fun _ => .ok true, fun _ => .ok true, .receiver, account⟩
  master _ := none
  authorizeTransfer := ctx.authorizeTransfer
  authorizeApprove _ _ _ _ := .ok ()
  refundSpendingLimit := ctx.refundSpendingLimit
  recoverSigner _ := none

abbrev FeeM := EStateM Error FeeState

/-! ## Writes -/

/-- Write a pool. -/
def FeeState.setPool (s : FeeState) (key : PoolKey) (pool : Pool) : FeeState :=
  { s with pools := update s.pools key pool }

/-- `set_total_supply`. -/
def FeeState.setTotalSupply (s : FeeState) (key : PoolKey) (supply : ℕ) : FeeState :=
  { s with totalSupply := update s.totalSupply key supply }

/-- `set_liquidity_balances`. -/
def FeeState.setLiquidityBalances (s : FeeState) (key : PoolKey) (account : Address)
    (balance : ℕ) : FeeState :=
  { s with
    liquidityBalances := update s.liquidityBalances key
      (update (s.liquidityBalances key) account balance) }

/-- Write the collected fees of a validator. -/
def FeeState.setCollectedFees (s : FeeState) (validator token : Address) (amount : ℕ) :
    FeeState :=
  { s with
    collectedFees := update s.collectedFees validator
      (update (s.collectedFees validator) token amount) }

/-- `reserve_pool_liquidity`. -/
def FeeState.reservePoolLiquidity (s : FeeState) (key : PoolKey) (amount : ℕ) : FeeState :=
  { s with
    pendingFeeSwapReservation := update s.pendingFeeSwapReservation key amount }

/-- Write the storage of a token. -/
def FeeState.setToken (s : FeeState) (token : Address) (st : Tip20.TokenState) : FeeState :=
  { s with tokens := update s.tokens token st }

/-- Transient storage at the start of a transaction. -/
def FeeState.clearTransient (s : FeeState) : FeeState :=
  { s with pendingFeeSwapReservation := fun _ => 0, twoHopIntermediate := 0 }

/-! ## Tokens -/

/-- An answer of the token layer. -/
def fromToken {α : Type} (value : Except TokenError α) : FeeM α :=
  fromExcept (value.mapError .token)

/-- An operation on the storage of a token. -/
def onToken {α : Type} (token : Address) (x : Tip20.TokenM α) : FeeM α := fun s =>
  match x (s.tokens token) with
  | .ok a st => .ok a (s.setToken token st)
  | .error e st => .error (.tip20 e) (s.setToken token st)

/-- `validate_transfer`. -/
def validateTransfer (ctx : Context) (token sender recipient : Address) (amount : ℕ) :
    Except TokenError Unit := do
  checkNotPaused ctx.env token
  ensureTransferAuthorized ctx.spec ctx.env token sender recipient
  ctx.env.transferGate token sender recipient amount

/-- `system_transfer_from` and `transfer`. -/
def moveTokens (ctx : Context) (token sender recipient : Address) (amount : ℕ) :
    FeeM Unit := do
  fromToken (validateTransfer ctx token sender recipient amount)
  onToken token do
    fromExcept (Tip20.Recipient.direct recipient).validate
    Tip20.innerTransfer ctx.tip20 token sender (.direct recipient) amount

/-- `transfer_fee_pre_tx`. -/
def transferFeePreTx (ctx : Context) (token payer : Address) (amount : ℕ) : FeeM Unit :=
  onToken token (Tip20.transferFeePreTx ctx.tip20 token payer amount)

/-- `transfer_fee_post_tx`. -/
def transferFeePostTx (ctx : Context) (token payer : Address) (refund : ℕ) : FeeM Unit :=
  onToken token (Tip20.transferFeePostTx ctx.tip20 token payer refund)

/-! ## Swaps -/

/-- `compute_amount_out`. -/
def computeAmountOut (amountIn : ℕ) : Option ℕ := (checkedMul256 amountIn M).map (· / scale)

/-- `apply_swap`. -/
def applySwap (pool : Pool) (amountIn amountOut : ℕ) : FeeM Pool := do
  require (amountOut ≤ pool.reserveValidatorToken) (.amm .insufficientLiquidity)
  require (amountIn ≤ u128Max) .underOverflow
  require (amountOut ≤ u128Max) .underOverflow
  let user ← okOr (checkedAdd128 pool.reserveUserToken amountIn) .underOverflow
  let validator ← okOr (checkedSub pool.reserveValidatorToken amountOut) .underOverflow
  pure ⟨user, validator⟩

/-- `execute_fee_swap`. -/
def executeFeeSwap (userToken validatorToken : Address) (amountIn : ℕ) : FeeM ℕ := do
  let amountOut ← okOr (computeAmountOut amountIn) .underOverflow
  let s ← get
  let pool ← applySwap (s.pools ⟨userToken, validatorToken⟩) amountIn amountOut
  modify fun s => s.setPool ⟨userToken, validatorToken⟩ pool
  pure amountOut

/-- From T1C on a pool keeps what a pending fee swap needs. -/
def checkReservation (ctx : Context) (key : PoolKey) (available : ℕ) : FeeM Unit := do
  let s ← get
  require (¬ (ctx.spec.isT1C = true ∧ available < s.pendingFeeSwapReservation key))
    (.amm .insufficientLiquidity)

/-- What a rebalance swap costs. -/
def rebalanceInput (amountOut : ℕ) : Option ℕ :=
  (checkedMul256 amountOut N).bind fun product => checkedAdd256 (product / scale) 1

/-- `rebalance_swap`. -/
def rebalanceSwap (ctx : Context) (sender userToken validatorToken : Address) (amountOut : ℕ)
    (dest : Address) : FeeM ℕ := do
  require (amountOut ≠ 0) (.amm .invalidAmount)
  let s ← get
  let pool := s.pools ⟨userToken, validatorToken⟩
  let amountIn ← okOr (rebalanceInput amountOut) .underOverflow
  require (amountIn ≤ u128Max) (.amm .invalidAmount)
  require (amountOut ≤ u128Max) (.amm .invalidAmount)
  let validator ← okOr (checkedAdd128 pool.reserveValidatorToken amountIn)
    (.amm .insufficientReserves)
  let user ← okOr (checkedSub pool.reserveUserToken amountOut) (.amm .invalidAmount)
  checkReservation ctx ⟨userToken, validatorToken⟩ validator
  modify fun s => s.setPool ⟨userToken, validatorToken⟩ ⟨user, validator⟩
  fromToken (fromAddress validatorToken)
  moveTokens ctx validatorToken sender tipFeeManagerAddress amountIn
  fromToken (fromAddress userToken)
  moveTokens ctx userToken tipFeeManagerAddress dest amountOut
  pure amountIn

/-! ## Liquidity -/

/-- The checks that `mint` and `burn` begin with. -/
def checkPair (ctx : Context) (userToken validatorToken : Address) (amount : ℕ) : FeeM Unit := do
  require (userToken ≠ validatorToken) (.amm .identicalAddresses)
  require (amount ≠ 0) (.amm .invalidAmount)
  fromToken (validateUsdCurrency ctx.env userToken)
  fromToken (validateUsdCurrency ctx.env validatorToken)

/-- The policies that `mint` asks from T8 on. -/
def authorizeMint (ctx : Context) (sender userToken validatorToken dest : Address) :
    Except TokenError Unit :=
  if ctx.spec.isT8 then do
    ensureAuthorizedAs ctx.env userToken
      [(sender, .sender), (tipFeeManagerAddress, .recipient), (dest, .recipient)]
    ensureAuthorizedAs ctx.env validatorToken [(dest, .recipient)]
  else .ok ()

/-- The policies that `burn` asks from T8 on. -/
def authorizeBurn (ctx : Context) (sender userToken validatorToken : Address) :
    Except TokenError Unit :=
  if ctx.spec.isT8 then do
    ensureAuthorizedAs ctx.env userToken [(sender, .sender)]
    ensureAuthorizedAs ctx.env validatorToken [(sender, .sender)]
  else .ok ()

/-- The first deposit: the supply with the locked liquidity, and the new shares. -/
def firstLiquidity (supply amount : ℕ) : FeeM (ℕ × ℕ) := do
  require (minLiquidity < amount / 2) (.amm .insufficientLiquidity)
  let locked ← okOr (checkedAdd256 supply minLiquidity) .underOverflow
  pure (locked, amount / 2 - minLiquidity)

/-- What a pool is worth in the validator token, as `mint` counts it. -/
def poolWorth (pool : Pool) : FeeM ℕ := do
  let product ← okOr (checkedMul256 N pool.reserveUserToken) (.amm .invalidSwapCalculation)
  okOr (checkedAdd256 pool.reserveValidatorToken (product / scale)) (.amm .invalidAmount)

/-- A later deposit: the supply, and the new shares. -/
def laterLiquidity (pool : Pool) (supply amount : ℕ) : FeeM (ℕ × ℕ) := do
  let denom ← poolWorth pool
  require (denom ≠ 0) (.amm .divisionByZero)
  let product ← okOr (checkedMul256 amount supply) (.amm .invalidSwapCalculation)
  pure (supply, product / denom)

/-- The supply before the new shares, and the new shares. -/
def mintedLiquidity (pool : Pool) (supply amount : ℕ) : FeeM (ℕ × ℕ) :=
  if pool.reserveUserToken = 0 ∧ pool.reserveValidatorToken = 0 then firstLiquidity supply amount
  else laterLiquidity pool supply amount

/-- `mint`.  The source writes the supply of a first deposit twice; the second write is the one
below. -/
def mint (ctx : Context) (sender userToken validatorToken : Address) (amount : ℕ)
    (dest : Address) : FeeM ℕ := do
  checkPair ctx userToken validatorToken amount
  fromToken (authorizeMint ctx sender userToken validatorToken dest)
  let s ← get
  let key : PoolKey := ⟨userToken, validatorToken⟩
  let pool := s.pools key
  let minted ← mintedLiquidity pool (s.totalSupply key) amount
  require (minted.2 ≠ 0) (.amm .insufficientLiquidity)
  moveTokens ctx validatorToken sender tipFeeManagerAddress amount
  require (amount ≤ u128Max) (.amm .invalidAmount)
  let validator ← okOr (checkedAdd128 pool.reserveValidatorToken amount) (.amm .invalidAmount)
  modify fun s => s.setPool key { pool with reserveValidatorToken := validator }
  let supply ← okOr (checkedAdd256 minted.1 minted.2) .underOverflow
  modify fun s => s.setTotalSupply key supply
  let balance ← okOr (checkedAdd256 (s.liquidityBalances key dest) minted.2) .underOverflow
  modify fun s => s.setLiquidityBalances key dest balance
  pure minted.2

/-- `checked_div` of a checked product. -/
def checkedShare (liquidity reserve supply : ℕ) : Option ℕ :=
  (checkedMul256 liquidity reserve).bind fun product =>
    if supply = 0 then none else some (product / supply)

/-- `calculate_burn_amounts`. -/
def calculateBurnAmounts (pool : Pool) (supply liquidity : ℕ) : FeeM (ℕ × ℕ) := do
  let user ← okOr (checkedShare liquidity pool.reserveUserToken supply) .underOverflow
  let validator ← okOr (checkedShare liquidity pool.reserveValidatorToken supply) .underOverflow
  pure (user, validator)

/-- `burn`. -/
def burn (ctx : Context) (sender userToken validatorToken : Address) (liquidity : ℕ)
    (dest : Address) : FeeM (ℕ × ℕ) := do
  checkPair ctx userToken validatorToken liquidity
  fromToken (authorizeBurn ctx sender userToken validatorToken)
  let s ← get
  let key : PoolKey := ⟨userToken, validatorToken⟩
  let pool := s.pools key
  require (liquidity ≤ s.liquidityBalances key sender) (.amm .insufficientLiquidity)
  let amounts ← calculateBurnAmounts pool (s.totalSupply key) liquidity
  require (amounts.2 ≤ u128Max) (.amm .invalidAmount)
  let available ← okOr (checkedSub pool.reserveValidatorToken amounts.2)
    (.amm .insufficientReserves)
  checkReservation ctx key available
  let balance ← okOr (checkedSub (s.liquidityBalances key sender) liquidity) .underOverflow
  modify fun s => s.setLiquidityBalances key sender balance
  let supply ← okOr (checkedSub (s.totalSupply key) liquidity) .underOverflow
  modify fun s => s.setTotalSupply key supply
  require (amounts.1 ≤ u128Max) (.amm .invalidAmount)
  let user ← okOr (checkedSub pool.reserveUserToken amounts.1) (.amm .insufficientReserves)
  modify fun s => s.setPool key ⟨user, available⟩
  moveTokens ctx userToken tipFeeManagerAddress dest amounts.1
  moveTokens ctx validatorToken tipFeeManagerAddress dest amounts.2
  pure amounts

/-! ## Fees -/

/-- `get_validator_token`. -/
def FeeState.getValidatorToken (s : FeeState) (beneficiary : Address) : Address :=
  if s.validatorTokens beneficiary = 0 then pathUsdAddress else s.validatorTokens beneficiary

/-- `set_validator_token`. -/
def setValidatorToken (ctx : Context) (sender token beneficiary : Address) : FeeM Unit := do
  require (ctx.env.deployed token = true) (.feeManager .invalidToken)
  require (sender ≠ beneficiary) (.feeManager .cannotChangeWithinBlock)
  fromToken (validateUsdCurrency ctx.env token)
  modify fun s => { s with validatorTokens := update s.validatorTokens sender token }

/-- The fallback of `plan_fee_route` through the quote token of the user token. -/
def planTwoHop (ctx : Context) (userToken validatorToken : Address) (amountOut : ℕ) :
    FeeM (Option FeeRoute) := do
  fromToken (fromAddress userToken)
  let midToken := ctx.env.quoteToken userToken
  let s ← get
  if midToken = 0 ∨ midToken = validatorToken ∨
      (s.pools ⟨userToken, midToken⟩).reserveValidatorToken < amountOut then pure none
  else do
    let amountOut2 ← okOr (computeAmountOut amountOut) .underOverflow
    pure (if amountOut2 ≤ (s.pools ⟨midToken, validatorToken⟩).reserveValidatorToken then
      some (.twoHop midToken) else none)

/-- `plan_fee_route`: the route. -/
def planFeeRoute (ctx : Context) (userToken validatorToken : Address) (maxAmount : ℕ) :
    FeeM (Option FeeRoute) :=
  if userToken = validatorToken then pure (some .sameToken)
  else do
    let amountOut ← okOr (computeAmountOut maxAmount) .underOverflow
    let s ← get
    if amountOut ≤ (s.pools ⟨userToken, validatorToken⟩).reserveValidatorToken then
      pure (some .direct)
    else if ctx.spec.isT5 then planTwoHop ctx userToken validatorToken amountOut
    else pure none

/-- The output of a swap, if it fits. -/
def reservedOut (amountIn : ℕ) : FeeM ℕ := do
  let amountOut ← okOr (computeAmountOut amountIn) .underOverflow
  require (amountOut ≤ u128Max) .underOverflow
  pure amountOut

/-- `reserve_fee_liquidity`. -/
def reserveFeeLiquidity (ctx : Context) (userToken validatorToken : Address) (maxAmount : ℕ) :
    FeeRoute → FeeM Unit
  | .sameToken => pure ()
  | .direct =>
    onlyIf (ctx.spec.isT1C = true) do
      let amountOut ← reservedOut maxAmount
      modify fun s => s.reservePoolLiquidity ⟨userToken, validatorToken⟩ amountOut
  | .twoHop intermediate => do
    let out1 ← reservedOut maxAmount
    let out2 ← reservedOut out1
    modify fun s => s.reservePoolLiquidity ⟨userToken, intermediate⟩ out1
    modify fun s => s.reservePoolLiquidity ⟨intermediate, validatorToken⟩ out2
    modify fun s => { s with twoHopIntermediate := intermediate }

/-- The policy that a fee payment asks.  From T8 on the fee manager needs no authorization. -/
def authorizeFee (ctx : Context) (payer userToken : Address) : Except TokenError Unit :=
  if ctx.spec.isT8 then ensureAuthorizedAs ctx.env userToken [(payer, .sender)]
  else ensureTransferAuthorized ctx.spec ctx.env userToken payer tipFeeManagerAddress

/-- Plan the route of a fee and reserve what it needs. -/
def reserveRoute (ctx : Context) (userToken validatorToken : Address) (maxAmount : ℕ) :
    FeeM Unit := do
  let planned ← planFeeRoute ctx userToken validatorToken maxAmount
  let route ← okOr planned (.amm .insufficientLiquidity)
  reserveFeeLiquidity ctx userToken validatorToken maxAmount route

/-- `collect_fee_pre_tx`. -/
def collectFeePreTx (ctx : Context) (payer userToken : Address) (maxAmount : ℕ)
    (beneficiary : Address) (skipLiquidityCheck : Bool) : FeeM Address := do
  let s ← get
  fromToken (fromAddress userToken)
  fromToken (authorizeFee ctx payer userToken)
  transferFeePreTx ctx userToken payer maxAmount
  onlyIf (skipLiquidityCheck = false)
    (reserveRoute ctx userToken (s.getValidatorToken beneficiary) maxAmount)
  pure userToken

/-- The swap of a direct route. -/
def settleDirect (feeToken validatorToken : Address) (actualSpending : ℕ) : FeeM Unit :=
  onlyIf (actualSpending ≠ 0) do
    let _ ← executeFeeSwap feeToken validatorToken actualSpending
    pure ()

/-- The swaps of a two-hop route. -/
def settleTwoHop (feeToken hopToken validatorToken : Address) (actualSpending : ℕ) : FeeM Unit :=
  onlyIf (actualSpending ≠ 0) do
    let out1 ← executeFeeSwap feeToken hopToken actualSpending
    let _ ← executeFeeSwap hopToken validatorToken out1
    pure ()

/-- The swap of a fee: what the validator is credited. -/
def settleFee (feeToken hopToken validatorToken : Address) (actualSpending : ℕ) : FeeM ℕ :=
  if feeToken = validatorToken then pure actualSpending
  else if hopToken = 0 then do
    settleDirect feeToken validatorToken actualSpending
    okOr (computeAmountOut actualSpending) .underOverflow
  else do
    settleTwoHop feeToken hopToken validatorToken actualSpending
    let out1 ← okOr (computeAmountOut actualSpending) .underOverflow
    okOr (computeAmountOut out1) .underOverflow

/-- `increment_collected_fees`. -/
def incrementCollectedFees (validator token : Address) (amount : ℕ) : FeeM Unit :=
  onlyIf (amount ≠ 0) do
    let s ← get
    let fees ← okOr (checkedAdd256 (s.collectedFees validator token) amount) .underOverflow
    modify fun s => s.setCollectedFees validator token fees

/-- `collect_fee_post_tx`. -/
def collectFeePostTx (ctx : Context) (payer : Address) (actualSpending refundAmount : ℕ)
    (feeToken beneficiary : Address) : FeeM ℕ := do
  fromToken (fromAddress feeToken)
  transferFeePostTx ctx feeToken payer refundAmount
  let s ← get
  let validatorToken := s.getValidatorToken beneficiary
  let amount ← settleFee feeToken s.twoHopIntermediate validatorToken actualSpending
  incrementCollectedFees beneficiary validatorToken amount
  pure amount

/-- Pay out collected fees. -/
def payFees (ctx : Context) (validator token : Address) (amount : ℕ) : FeeM Unit := do
  modify fun s => s.setCollectedFees validator token 0
  fromToken (fromAddress token)
  moveTokens ctx token tipFeeManagerAddress validator amount

/-- `distribute_fees`. -/
def distributeFees (ctx : Context) (validator token : Address) : FeeM Unit := do
  let s ← get
  onlyIf (s.collectedFees validator token ≠ 0)
    (payFees ctx validator token (s.collectedFees validator token))

/-! ## A sample -/

/-- Nothing is refused, and every token is quoted in pathUSD. -/
def Context.permissive (spec : TempoHardfork) : Context :=
  ⟨spec, .permissive pathUsdAddress, fun _ _ _ => .ok (), fun _ _ _ => .ok ()⟩

/-- Everyone but the fee manager has a million of every token. -/
def sampleState : FeeState :=
  .fresh fun _ => { Tip20.TokenState.empty with
    balances := fun account => if account = tipFeeManagerAddress then 0 else 10 ^ 6 }

end Monotempo.FeeAmm
