/-
  Routes, swaps and quotes of the stablecoin DEX.

  Source: `crates/precompiles/src/stablecoin_dex/mod.rs` (lines 343-493: swaps and
  quotes over a route; 1279-1308: `next_order_after`; 1489-1625 and 1720-1828:
  quotes over one book; 1627-1718: routes).

  A quote is a program that writes nothing: it is run in the state it quotes.
-/
import Monotempo.Dex.Exchange

set_option autoImplicit false

namespace Monotempo.Dex

open Chain Foundation

variable [BookHash]

/-! ## Routes -/

/-- One hop: the book, and whether it is entered with the base token. -/
abbrev Hop := B256 × Bool

/-- `find_path_to_root`: from a token to pathUSD.  The loop of the source is
bounded by the depth of the quote-token tree, here by `fuel`. -/
def findPathToRoot (ctx : Context) : ℕ → Address → DexM (List Address)
  | 0, _ => throw .unbounded
  | fuel + 1, token =>
    if token = pathUsdAddress then pure [token]
    else do
      liftToken (fromAddress token)
      let rest ← findPathToRoot ctx fuel (ctx.env.quoteToken token)
      pure (token :: rest)

/-- `validate_and_build_route`, one pair of neighbours of the path. -/
def buildHop (ctx : Context) (tokenIn tokenOut : Address) : DexM Hop := do
  liftToken (fromAddress tokenIn)
  onlyIf ctx.spec.isT3 (liftToken (checkNotPaused ctx.env tokenIn))
  let isBaseForQuote := decide (ctx.env.quoteToken tokenIn = tokenOut)
  onlyIf (!isBaseForQuote) do
    liftToken (fromAddress tokenOut)
    require (ctx.env.quoteToken tokenOut = tokenIn) (.dex .pairDoesNotExist)
  let base := if isBaseForQuote then tokenIn else tokenOut
  let quote := if isBaseForQuote then tokenOut else tokenIn
  let bookKey := computeBookKey base quote
  let s ← get
  require ((s.books bookKey).base ≠ 0) (.dex .pairDoesNotExist)
  pure (bookKey, decide (tokenIn = base))

/-- `validate_and_build_route`. -/
def validateAndBuildRoute (ctx : Context) : List Address → DexM (List Hop)
  | [] => pure []
  | [_] => pure []
  | tokenIn :: tokenOut :: rest => do
    let hop ← buildHop ctx tokenIn tokenOut
    let hops ← validateAndBuildRoute ctx (tokenOut :: rest)
    pure (hop :: hops)

/-- `find_trade_path`. -/
def findTradePath (ctx : Context) (tokenIn tokenOut : Address) : DexM (List Hop) := do
  require (tokenIn ≠ tokenOut) (.dex .identicalTokens)
  require (isTip20 tokenIn ∧ isTip20 tokenOut) (.dex .invalidToken)
  if ctx.env.quoteToken tokenIn = tokenOut ∨ ctx.env.quoteToken tokenOut = tokenIn then
    validateAndBuildRoute ctx [tokenIn, tokenOut]
  else do
    let pathIn ← findPathToRoot ctx ctx.routeDepth tokenIn
    let pathOut ← findPathToRoot ctx ctx.routeDepth tokenOut
    -- The lowest common ancestor: the first token of one path on the other.
    let lca ← okOr (pathIn.find? fun token => pathOut.contains token) (.dex .pairDoesNotExist)
    let upwards := pathIn.takeWhile (fun token => token ≠ lca) ++ [lca]
    let downwards := (pathOut.takeWhile fun token => token ≠ lca).reverse
    validateAndBuildRoute ctx (upwards ++ downwards)

/-! ## Swaps -/

/-- Fill one hop after the other, passing on the amounts and the deferred
credits. -/
def fillRoute (fill : StorageCreditDeltas → B256 → Bool → ℕ → DexM (ℕ × StorageCreditDeltas)) :
    List Hop → StorageCreditDeltas → ℕ → DexM (ℕ × StorageCreditDeltas)
  | [], deltas, amount => pure (amount, deltas)
  | (bookKey, baseForQuote) :: rest, deltas, amount => do
    let filled ← fill deltas bookKey baseForQuote amount
    fillRoute fill rest filled.2 filled.1

/-- `swap_exact_amount_in`. -/
def swapExactAmountIn (ctx : Context) (sender tokenIn tokenOut : Address)
    (amountIn minAmountOut : ℕ) : DexM ℕ := do
  let route ← findTradePath ctx tokenIn tokenOut
  decrementBalanceOrTransferFrom ctx sender tokenIn amountIn false
  let filled ← fillRoute (fillOrdersExactIn ctx sender) route [] amountIn
  require (minAmountOut ≤ filled.1) (.dex .insufficientOutput)
  transferTo ctx tokenOut sender filled.1
  flushDeltas ctx.spec filled.2
  pure filled.1

/-- `swap_exact_amount_out`. -/
def swapExactAmountOut (ctx : Context) (sender tokenIn tokenOut : Address)
    (amountOut maxAmountIn : ℕ) : DexM ℕ := do
  let route ← findTradePath ctx tokenIn tokenOut
  let filled ← fillRoute (fillOrdersExactOut ctx sender) route.reverse [] amountOut
  require (filled.1 ≤ maxAmountIn) (.dex .maxInputExceeded)
  decrementBalanceOrTransferFrom ctx sender tokenIn filled.1 false
  transferTo ctx tokenOut sender amountOut
  flushDeltas ctx.spec filled.2
  pure filled.1

/-! ## Quotes order by order -/

/-- `next_order_after`. -/
def nextOrderAfter (ctx : Context) (bookKey : B256) (order : Order) (isBid : Bool) :
    DexM (Option Order) :=
  if order.next ≠ 0 then do
    let next ← readOrderInBook order.next bookKey
    pure (some next)
  else do
    let found ← nextInitializedTick bookKey order.tick isBid
    if !found.2 then pure none
    else do
      let nextLevel ← readLevel ctx.spec bookKey isBid found.1
      let next ← readOrderInBook nextLevel.head bookKey
      pure (some next)

/-- The cursor of a quote: advance without settling. -/
def quoteFill (ctx : Context) (bookKey : B256) (isBid : Bool) (order : Order) :
    Fill → DexM (Option Order)
  | .partially _ => pure none
  | .full => nextOrderAfter ctx bookKey order isBid

/-- `quote_per_order`. -/
def quotePerOrder (ctx : Context) (bookKey : B256) (amount : ℕ) (isBid : Bool)
    (step : ℕ → Order → Bool → Option OrderStep) : DexM ℕ := do
  let level ← getBestPriceLevel ctx bookKey isBid
  let order ← readOrderInBook level.head bookKey
  let s ← get
  walkRestingOrders step isBid (quoteFill ctx bookKey isBid) s.nextOrderId order amount 0

/-! ## Quotes tick by tick, below T12 -/

/-- One level of `quote_exact_out_per_tick`: fill, input and output. -/
def quoteLevelOut (remainingOut totalLiquidity : ℕ) (tick : ℤ) (isBid : Bool) :
    Option (ℕ × ℕ × ℕ) :=
  if isBid then do
    let baseNeeded ← quoteToBase remainingOut tick .up
    let fillAmount := min baseNeeded totalLiquidity
    let quoteOut ← baseToQuote fillAmount tick .down
    some (fillAmount, fillAmount, min quoteOut remainingOut)
  else do
    let fillAmount := min remainingOut totalLiquidity
    let quoteNeeded ← baseToQuote fillAmount tick .up
    some (fillAmount, quoteNeeded, fillAmount)

/-- One level of `quote_exact_in_per_tick`: fill, output and input. -/
def quoteLevelIn (remainingIn totalLiquidity : ℕ) (tick : ℤ) (isBid : Bool) :
    Option (ℕ × ℕ × ℕ) :=
  if isBid then do
    let fill := min remainingIn totalLiquidity
    let quoteOut ← baseToQuote fill tick .down
    some (fill, quoteOut, fill)
  else do
    let baseToGet ← quoteToBase remainingIn tick .down
    let fill := min baseToGet totalLiquidity
    let quoteConsumed ← baseToQuote fill tick .up
    some (fill, fill, quoteConsumed)

/-- The loop of both per-tick quotes.  `level` gives, for what is left of the
amount, the fill, what it adds to the result and what it takes from the amount;
`consume` is how the amount is reduced. -/
def quoteTicks (ctx : Context) (bookKey : B256) (isBid : Bool)
    (level : ℕ → ℕ → ℤ → Bool → Option (ℕ × ℕ × ℕ)) (consume : ℕ → ℕ → Option ℕ) :
    ℕ → ℤ → ℕ → ℕ → DexM ℕ
  | 0, _, remaining, total => if remaining = 0 then pure total else throw .unbounded
  | fuel + 1, tick, remaining, total =>
    if remaining = 0 then pure total
    else do
      let tickLevel ← readLevel ctx.spec bookKey isBid tick
      if tickLevel.totalLiquidity = 0 then do
        let found ← nextInitializedTick bookKey tick isBid
        require found.2 (.dex .insufficientLiquidity)
        quoteTicks ctx bookKey isBid level consume fuel found.1 remaining total
      else do
        let filled ← okOr (level remaining tickLevel.totalLiquidity tick isBid)
          Error.underOverflow
        let remaining ← okOr (consume remaining filled.2.2) Error.underOverflow
        let total ← okOr (checkedAdd128 total filled.2.1) Error.underOverflow
        if filled.1 = tickLevel.totalLiquidity then do
          let found ← nextInitializedTick bookKey tick isBid
          require (found.2 = true ∨ remaining = 0) (.dex .insufficientLiquidity)
          quoteTicks ctx bookKey isBid level consume fuel found.1 remaining total
        else pure total

/-- The number of ticks a side can have, and one for the end of the walk. -/
def tickCount : ℕ := 4002

/-- The start of both per-tick quotes. -/
def quotePerTick (ctx : Context) (bookKey : B256) (amount : ℕ) (isBid : Bool)
    (level : ℕ → ℕ → ℤ → Bool → Option (ℕ × ℕ × ℕ)) (consume : ℕ → ℕ → Option ℕ) :
    DexM ℕ := do
  let s ← get
  let currentTick := (s.books bookKey).bestTick isBid
  require (currentTick ≠ i16Min ∧ currentTick ≠ i16Max) (.dex .insufficientLiquidity)
  quoteTicks ctx bookKey isBid level consume tickCount currentTick amount 0

/-- `quote_exact_out_per_tick`: the remainder is reduced by a saturating
subtraction. -/
def quoteExactOutPerTick (ctx : Context) (bookKey : B256) (amountOut : ℕ) (isBid : Bool) :
    DexM ℕ :=
  quotePerTick ctx bookKey amountOut isBid quoteLevelOut
    (fun remaining amount => some (remaining - amount))

/-- `quote_exact_in_per_tick`. -/
def quoteExactInPerTick (ctx : Context) (bookKey : B256) (amountIn : ℕ) (isBid : Bool) :
    DexM ℕ :=
  quotePerTick ctx bookKey amountIn isBid quoteLevelIn checkedSub

/-! ## Quotes over a route -/

/-- `quote_exact_in`. -/
def quoteExactIn (ctx : Context) (bookKey : B256) (amountIn : ℕ) (isBid : Bool) : DexM ℕ :=
  if ctx.spec.isT12 then quotePerOrder ctx bookKey amountIn isBid stepExactIn
  else quoteExactInPerTick ctx bookKey amountIn isBid

/-- `quote_exact_out`. -/
def quoteExactOut (ctx : Context) (bookKey : B256) (amountOut : ℕ) (isBid : Bool) : DexM ℕ :=
  if ctx.spec.isT12 then quotePerOrder ctx bookKey amountOut isBid stepExactOut
  else quoteExactOutPerTick ctx bookKey amountOut isBid

/-- Quote one hop after the other. -/
def quoteRoute (quote : B256 → ℕ → Bool → DexM ℕ) : List Hop → ℕ → DexM ℕ
  | [], amount => pure amount
  | (bookKey, baseForQuote) :: rest, amount => do
    let amount ← quote bookKey amount baseForQuote
    quoteRoute quote rest amount

/-- `quote_swap_exact_amount_in`. -/
def quoteSwapExactAmountIn (ctx : Context) (tokenIn tokenOut : Address) (amountIn : ℕ) :
    DexM ℕ := do
  let route ← findTradePath ctx tokenIn tokenOut
  quoteRoute (quoteExactIn ctx) route amountIn

/-- `quote_swap_exact_amount_out`. -/
def quoteSwapExactAmountOut (ctx : Context) (tokenIn tokenOut : Address) (amountOut : ℕ) :
    DexM ℕ := do
  let route ← findTradePath ctx tokenIn tokenOut
  quoteRoute (quoteExactOut ctx) route.reverse amountOut

end Monotempo.Dex
