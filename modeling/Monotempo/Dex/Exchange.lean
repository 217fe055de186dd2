/-
  The operations of the stablecoin DEX.

  Source: `crates/precompiles/src/stablecoin_dex/mod.rs` (lines 184-1490).

  Each operation is a `DexM` program with the checks and writes of the source in
  their order.  The walk over resting orders mutates a copy of the current tick
  level and a map of deferred credits next to the storage; `FillState` holds the
  three together.
-/
import Monotempo.Dex.State

set_option autoImplicit false

namespace Monotempo.Dex

open Chain Foundation

variable [BookHash]

/-! ## Pairs -/

/-- `Orderbook::new` and `new_with_index`: `bookId` is zero when unset. -/
def Orderbook.new (base quote : Address) (bookId : ℕ) : Orderbook where
  base := base
  quote := quote
  level := fun _ _ => ⟨0, 0, 0⟩
  bestTick := noTick
  bookId := bookId
  bitmap := fun _ _ => 0#256

/-- The storage of a new pair: its mappings keep what they hold. -/
def Orderbook.created (old : Orderbook) (base quote : Address) (bookId : ℕ) : Orderbook :=
  { Orderbook.new base quote bookId with level := old.level, bitmap := old.bitmap }

/-- `create_pair`. -/
def createPair (ctx : Context) (base : Address) : DexM B256 := do
  require (ctx.env.deployed base) (.dex .invalidBaseToken)
  liftToken (fromAddress base)
  let quote := ctx.env.quoteToken base
  liftToken (validateUsdCurrency ctx.env base)
  liftToken (validateUsdCurrency ctx.env quote)
  let bookKey := computeBookKey base quote
  let s ← get
  let old := s.books bookKey
  require (!old.isInitialized) (.dex .pairAlreadyExists)
  let bookId := if ctx.spec.isT8 then s.bookKeys.length + 1 else 0
  let book := old.created base quote bookId
  modify fun s => s.write ctx.spec (s.setBook bookKey book)
    [(old.base, base), (old.quote, quote), (old.packedWord, book.packedWord)]
  modify fun s => s.pushBookKey ctx.spec bookKey
  pure bookKey

/-- `validate_or_create_pair`. -/
def validateOrCreatePair (ctx : Context) (book : Orderbook) (token : Address) : DexM Unit :=
  onlyIf (!book.isInitialized) do
    let _ ← createPair ctx token
    pure ()

/-- `book_key_for_index`. -/
def bookKeyForIndex (index : ℕ) : DexM B256 := do
  let s ← get
  okOr s.bookKeys[index]? (.dex .pairDoesNotExist)

/-- `book_key_index`. -/
def bookKeyIndex (bookKey : B256) : DexM (Option ℕ) := do
  let s ← get
  require (s.books bookKey).isInitialized (.dex .pairDoesNotExist)
  pure (bookIdIndex (s.books bookKey).bookId)

/-- `set_book_index`. -/
def setBookIndex (ctx : Context) (index : ℕ) : DexM Unit := do
  let bookKey ← bookKeyForIndex index
  let current ← bookKeyIndex bookKey
  match current with
  | some currentIndex => require (index = currentIndex) (.dex .indexAlreadySet)
  | none => modify fun s => s.writeBookId ctx.spec bookKey (index + 1)

/-! ## Placing orders -/

/-- `next_order_id`. -/
def readNextOrderId : DexM ℕ := do
  let s ← get
  pure (max s.nextOrderId 1)

/-- `increment_next_order_id`. -/
def incrementNextOrderId (ctx : Context) : DexM Unit := do
  let orderId ← readNextOrderId
  modify fun s => s.writeNextOrderId ctx.spec (orderId + 1)

/-- What an order escrows, and the token it will receive. -/
structure Escrow where
  token : Address
  amount : ℕ
  nonEscrowToken : Address
  deriving DecidableEq, Repr

/-- The escrow of an order: quote rounded up for bids, base for asks. -/
def escrowFor (base quote : Address) (amount : ℕ) (isBid : Bool) (tick : ℤ) : DexM Escrow :=
  if isBid then do
    let quoteAmount ← okOr (baseToQuote amount tick .up) (.dex .insufficientBalance)
    pure ⟨quote, quoteAmount, base⟩
  else pure ⟨base, amount, quote⟩

/-- `commit_order_to_book`, the list part: append to the level, marking the tick
when the level was empty. -/
def linkAtTail (ctx : Context) (orderbook : Orderbook) (order : Order) (level : TickLevel) :
    DexM (Order × TickLevel) :=
  let prevTail := level.tail
  if prevTail = 0 then do
    setTickBit ctx.spec order.bookKey order.isBid order.tick
    onlyIf (TickBitmap.better order.isBid order.tick (orderbook.bestTick order.isBid))
      (writeBestTick ctx.spec order.bookKey order.isBid order.tick)
    pure (order, { level with head := order.orderId, tail := order.orderId })
  else if ctx.spec.isT8 then do
    writeOrderField ctx.spec prevTail .next order.orderId
    pure ({ order with prev := prevTail }, { level with tail := order.orderId })
  else do
    let prevOrder ← readOrderInBook prevTail order.bookKey
    writeOrderInBook ctx.spec prevTail { prevOrder with next := order.orderId } orderbook.bookId
    pure ({ order with prev := prevTail }, { level with tail := order.orderId })

/-- The aggregate of a level after adding liquidity; not kept from T12 on. -/
def addLiquidity (ctx : Context) (level : TickLevel) (amount : ℕ) : DexM TickLevel :=
  if ctx.spec.isT12 then pure level
  else do
    let total ← okOr (checkedAdd128 level.totalLiquidity amount) Error.underOverflow
    pure { level with totalLiquidity := total }

/-- The aggregate of a level after removing liquidity; not kept from T12 on. -/
def subLiquidity (ctx : Context) (level : TickLevel) (amount : ℕ) : DexM TickLevel :=
  if ctx.spec.isT12 then pure level
  else do
    let total ← okOr (checkedSub level.totalLiquidity amount) Error.underOverflow
    pure { level with totalLiquidity := total }

/-- `commit_order_to_book`, the record: placements spend the maker's credits, and
from T8 on a flip credits what its rewrite frees. -/
def storeCommitted (ctx : Context) (order : Order) (bookId : ℕ) (chargeCredits : Bool) :
    DexM Unit :=
  if chargeCredits && ctx.spec.isT7 then
    writeOrderSpendingDexStorageCredits ctx.spec order bookId
  else if !chargeCredits && ctx.spec.isT8 then do
    let minted ← rewriteOrder ctx.spec order bookId
    creditDexStorageSlots ctx.spec order.maker minted
  else writeOrderInBook ctx.spec order.orderId order bookId

/-- `commit_order_to_book`. -/
def commitOrderToBook (ctx : Context) (order : Order) (chargeCredits : Bool) : DexM Unit := do
  let s ← get
  let orderbook := s.books order.bookKey
  let level ← readLevel ctx.spec order.bookKey order.isBid order.tick
  let linked ← linkAtTail ctx orderbook order level
  let level ← addLiquidity ctx linked.2 order.remaining
  writeLevel ctx.spec order.bookKey order.isBid order.tick level
  storeCommitted ctx linked.1 orderbook.bookId chargeCredits

/-- The checks of a placement on the token its maker will receive. -/
def checkNonEscrowToken (ctx : Context) (token maker : Address) : DexM Unit := do
  liftToken (fromAddress token)
  liftToken (ensureTransferAuthorized ctx.spec ctx.env token stablecoinDexAddress maker)
  onlyIf ctx.spec.isT4 (liftToken (checkNotPaused ctx.env token))

/-- `place`. -/
def place (ctx : Context) (sender token : Address) (amount : ℕ) (isBid : Bool) (tick : ℤ) :
    DexM ℕ := do
  liftToken (fromAddress token)
  let quoteToken := ctx.env.quoteToken token
  let bookKey := computeBookKey token quoteToken
  let s ← get
  validateOrCreatePair ctx (s.books bookKey) token
  require (minTick ≤ tick ∧ tick ≤ maxTick) (.dex (.tickOutOfBounds tick))
  require (tick % tickSpacing = 0) (.dex .invalidTick)
  require (minOrderAmount ≤ amount) (.dex (.belowMinimumOrderSize amount))
  let escrow ← escrowFor token quoteToken amount isBid tick
  checkNonEscrowToken ctx escrow.nonEscrowToken sender
  decrementBalanceOrTransferFrom ctx sender escrow.token escrow.amount true
  let orderId ← readNextOrderId
  incrementNextOrderId ctx
  let order :=
    if isBid then Order.newBid orderId sender bookKey amount tick
    else Order.newAsk orderId sender bookKey amount tick
  commitOrderToBook ctx order true
  pure orderId

/-- The escrow debit of `place_flip`: a flip after a fill only uses the internal
balance of the maker. -/
def debitFlipEscrow (ctx : Context) (sender : Address) (escrow : Escrow)
    (internalBalanceOnly : Bool) : DexM Unit :=
  if internalBalanceOnly then do
    liftToken (fromAddress escrow.token)
    liftToken
      (ensureTransferAuthorized ctx.spec ctx.env escrow.token sender stablecoinDexAddress)
    onlyIf ctx.spec.isT4 (liftToken (checkNotPaused ctx.env escrow.token))
    let userBalance ← balanceOf sender escrow.token
    require (escrow.amount ≤ userBalance) (.dex .insufficientBalance)
    subBalance ctx.spec sender escrow.token escrow.amount
  else decrementBalanceOrTransferFrom ctx sender escrow.token escrow.amount true

/-- `place_flip`. -/
def placeFlip (ctx : Context) (sender token : Address) (amount : ℕ) (isBid : Bool)
    (tick flipTick : ℤ) (internalBalanceOnly : Bool) : DexM ℕ := do
  liftToken (fromAddress token)
  let quoteToken := ctx.env.quoteToken token
  let bookKey := computeBookKey token quoteToken
  atomically ctx.spec.isT1C do
    let s ← get
    validateOrCreatePair ctx (s.books bookKey) token
    require (minTick ≤ tick ∧ tick ≤ maxTick) (.dex (.tickOutOfBounds tick))
    require (tick % tickSpacing = 0) (.dex .invalidTick)
    require (minTick ≤ flipTick ∧ flipTick ≤ maxTick) (.dex (.tickOutOfBounds flipTick))
    require (flipTick % tickSpacing = 0) (.dex .invalidFlipTick)
    require (¬ ((flipTick = tick ∧ ctx.spec.isT5 = false) ∨ (isBid = true ∧ flipTick < tick) ∨
      (isBid = false ∧ tick < flipTick))) (.dex .invalidFlipTick)
    require (minOrderAmount ≤ amount) (.dex (.belowMinimumOrderSize amount))
    let escrow ← escrowFor token quoteToken amount isBid tick
    checkNonEscrowToken ctx escrow.nonEscrowToken sender
    debitFlipEscrow ctx sender escrow internalBalanceOnly
    let orderId ← readNextOrderId
    let order ← okOr
      (Order.newFlip orderId sender bookKey amount tick isBid flipTick ctx.spec)
      (.dex .invalidFlipTick)
    modify fun s => s.writeNextOrderId ctx.spec (orderId + 1)
    commitOrderToBook ctx order true
    pure orderId

/-! ## Filling orders -/

/-- `flip_in_place`. -/
def flipInPlace (ctx : Context) (order : Order) (baseToken quoteToken : Address) :
    DexM Unit :=
  atomically ctx.spec.isT1C do
    let flipped := order.createFlippedOrder order.orderId
    let escrow ← escrowFor baseToken quoteToken flipped.amount flipped.isBid flipped.tick
    let userBalance ← balanceOf flipped.maker escrow.token
    require (escrow.amount ≤ userBalance) (.dex .insufficientBalance)
    liftToken (fromAddress escrow.token)
    liftToken (checkNotPaused ctx.env escrow.token)
    liftToken (ensureTransferAuthorized ctx.spec ctx.env escrow.token flipped.maker
      stablecoinDexAddress)
    liftToken (fromAddress escrow.nonEscrowToken)
    liftToken (checkNotPaused ctx.env escrow.nonEscrowToken)
    liftToken (ensureTransferAuthorized ctx.spec ctx.env escrow.nonEscrowToken
      stablecoinDexAddress flipped.maker)
    subBalance ctx.spec flipped.maker escrow.token escrow.amount
    commitOrderToBook ctx flipped false

/-- Maker settlement: a bid maker receives base, an ask maker quote rounded up. -/
def settleMaker (ctx : Context) (orderbook : Orderbook) (order : Order) (fillAmount : ℕ) :
    DexM Unit :=
  if order.isBid then incrementBalance ctx.spec order.maker orderbook.base fillAmount
  else do
    let quoteAmount ← okOr (baseToQuote fillAmount order.tick .up) Error.underOverflow
    incrementBalance ctx.spec order.maker orderbook.quote quoteAmount

/-- `partial_fill_order`; returns the level with its new aggregate. -/
def partialFillOrder (ctx : Context) (order : Order) (level : TickLevel) (fillAmount : ℕ)
    (taker : Address) : DexM TickLevel := do
  let s ← get
  let orderbook := s.books order.bookKey
  writeOrderField ctx.spec order.orderId .remaining (order.remaining - fillAmount)
  settleMaker ctx orderbook order fillAmount
  let level ← subLiquidity ctx level fillAmount
  onlyIf (!ctx.spec.isT12) (writeLevel ctx.spec order.bookKey order.isBid order.tick level)
  emitOrderFilled ⟨order.orderId, order.maker, taker, fillAmount, true⟩
  pure level

/-- `fill_order`, the flip attempt of a filled flip order. -/
def tryFlip (ctx : Context) (orderbook : Orderbook) (order : Order) : DexM Unit :=
  if ctx.spec.isT5 then flipInPlace ctx order orderbook.base orderbook.quote
  else do
    let _ ← placeFlip ctx order.maker orderbook.base order.amount (!order.isBid)
      order.flipTick order.tick true
    pure ()

/-- `fill_order`, the record: flip it or delete it.  A failed flip is ignored
unless it is a system error. -/
def retireFilledOrder (ctx : Context) (deltas : StorageCreditDeltas) (orderbook : Orderbook)
    (order : Order) : DexM StorageCreditDeltas :=
  if order.isFlip then do
    let result ← attempt (tryFlip ctx orderbook order)
    match result with
    | .ok _ =>
      if ctx.spec.isT5 then pure deltas
      else deleteOrderAndTrackDeltas ctx.spec deltas order
    | .error e =>
      if e.isSystemError && ctx.spec.isT1A then throw e
      else deleteOrderAndTrackDeltas ctx.spec deltas order
  else deleteOrderAndTrackDeltas ctx.spec deltas order

/-- `fill_order`, advancing past an exhausted tick. -/
def advanceTick (ctx : Context) (bookKey : B256) (order : Order) :
    DexM (Option (TickLevel × Order)) := do
  deleteLevel ctx.spec bookKey order.isBid order.tick
  deleteTickBit ctx.spec bookKey order.isBid order.tick
  let found ← nextInitializedTick bookKey order.tick order.isBid
  writeBestTick ctx.spec bookKey order.isBid
    (if found.2 then found.1 else noTick order.isBid)
  if found.2 then do
    let newLevel ← readLevel ctx.spec bookKey order.isBid found.1
    let newOrder ← readOrderInBook newLevel.head bookKey
    pure (some (newLevel, newOrder))
  else pure none

/-- `fill_order`, advancing to the next order of the tick. -/
def advanceOrder (ctx : Context) (deltas : StorageCreditDeltas) (bookKey : B256)
    (order : Order) (level : TickLevel) :
    DexM (StorageCreditDeltas × TickLevel × Order) := do
  let minted ← trackMintedCredits ctx.spec consumedCredits
    (writeOrderField ctx.spec order.next .prev 0)
  let level ← subLiquidity ctx { level with head := order.next } order.remaining
  writeLevel ctx.spec bookKey order.isBid order.tick level
  let newOrder ← readOrderInBook order.next bookKey
  pure (creditSlots deltas newOrder.maker minted.2, level, newOrder)

/-- `fill_order`: the new deferred credits, and the next level and order. -/
def fillOrder (ctx : Context) (deltas : StorageCreditDeltas) (bookKey : B256) (order : Order)
    (level : TickLevel) (taker : Address) :
    DexM (StorageCreditDeltas × Option (TickLevel × Order)) := do
  let s ← get
  let orderbook := s.books bookKey
  settleMaker ctx orderbook order order.remaining
  emitOrderFilled ⟨order.orderId, order.maker, taker, order.remaining, false⟩
  let deltas ← retireFilledOrder ctx deltas orderbook order
  if order.next = 0 then do
    let next ← advanceTick ctx bookKey order
    pure (deltas, next)
  else do
    let next ← advanceOrder ctx deltas bookKey order level
    pure (next.1, some next.2)

/-- What the walk over resting orders mutates. -/
structure FillState where
  dex : DexState
  level : TickLevel
  deltas : StorageCreditDeltas

/-- `settle_fill`. -/
def settleFill (ctx : Context) (bookKey : B256) (taker : Address) (order : Order)
    (fill : Fill) : EStateM Error FillState (Option Order) := fun w =>
  match fill with
  | .partially fillAmount =>
    match partialFillOrder ctx order w.level fillAmount taker w.dex with
    | .ok level s => .ok none { w with dex := s, level := level }
    | .error e s => .error e { w with dex := s }
  | .full =>
    match fillOrder ctx w.deltas bookKey order w.level taker w.dex with
    | .ok (deltas, some (level, newOrder)) s => .ok (some newOrder) ⟨s, level, deltas⟩
    | .ok (deltas, none) s => .ok none ⟨s, w.level, deltas⟩
    | .error e s => .error e { w with dex := s }

/-- `get_best_price_level`. -/
def getBestPriceLevel (ctx : Context) (bookKey : B256) (isBid : Bool) : DexM TickLevel := do
  let s ← get
  let currentTick := (s.books bookKey).bestTick isBid
  require (currentTick ≠ noTick isBid) (.dex .insufficientLiquidity)
  readLevel ctx.spec bookKey isBid currentTick

/-- The call of `walk_resting_orders` in a fill.  No walk can visit more orders than
were ever placed. -/
def settleOrders (ctx : Context) (step : ℕ → Order → Bool → Option OrderStep)
    (taker : Address) (deltas : StorageCreditDeltas) (bookKey : B256) (isBid : Bool)
    (amount : ℕ) (level : TickLevel) (order : Order) : DexM (ℕ × StorageCreditDeltas) := fun s =>
  match walkRestingOrders step isBid (settleFill ctx bookKey taker) s.nextOrderId order
      amount 0 ⟨s, level, deltas⟩ with
  | .ok total w => .ok (total, w.deltas) w.dex
  | .error e w => .error e w.dex

/-- `fill_orders_exact_in` and `fill_orders_exact_out`, for the step they walk with. -/
def fillOrders (ctx : Context) (step : ℕ → Order → Bool → Option OrderStep)
    (taker : Address) (deltas : StorageCreditDeltas) (bookKey : B256) (isBid : Bool)
    (amount : ℕ) : DexM (ℕ × StorageCreditDeltas) := do
  let level ← getBestPriceLevel ctx bookKey isBid
  let order ← readOrderInBook level.head bookKey
  settleOrders ctx step taker deltas bookKey isBid amount level order

/-- `fill_orders_exact_in`. -/
def fillOrdersExactIn (ctx : Context) (taker : Address) (deltas : StorageCreditDeltas)
    (bookKey : B256) (isBid : Bool) (amountIn : ℕ) : DexM (ℕ × StorageCreditDeltas) :=
  fillOrders ctx stepExactIn taker deltas bookKey isBid amountIn

/-- `fill_orders_exact_out`. -/
def fillOrdersExactOut (ctx : Context) (taker : Address) (deltas : StorageCreditDeltas)
    (bookKey : B256) (isBid : Bool) (amountOut : ℕ) : DexM (ℕ × StorageCreditDeltas) :=
  fillOrders ctx stepExactOut taker deltas bookKey isBid amountOut

/-! ## Cancelling and withdrawing -/

/-- `cancel_active_order`, clearing a tick that lost its last order. -/
def retireTick (ctx : Context) (order : Order) : DexM Unit := do
  deleteTickBit ctx.spec order.bookKey order.isBid order.tick
  let s ← get
  onlyIf ((s.books order.bookKey).bestTick order.isBid = order.tick) do
    let found ← nextInitializedTick order.bookKey order.tick order.isBid
    writeBestTick ctx.spec order.bookKey order.isBid
      (if found.2 then found.1 else noTick order.isBid)

/-- `cancel_active_order`, the refund: what the order escrowed. -/
def refundEscrow (ctx : Context) (order : Order) : DexM Unit := do
  let s ← get
  let orderbook := s.books order.bookKey
  if order.isBid then do
    let quoteAmount ← okOr (baseToQuote order.remaining order.tick .up) Error.underOverflow
    incrementBalance ctx.spec order.maker orderbook.quote quoteAmount
  else incrementBalance ctx.spec order.maker orderbook.base order.remaining

/-- `cancel_active_order`. -/
def cancelActiveOrder (ctx : Context) (order : Order) : DexM Unit := do
  let level ← readLevel ctx.spec order.bookKey order.isBid order.tick
  onlyIf (order.prev ≠ 0)
    (unlinkNeighborAndCreditMaker ctx.spec order.prev .next order.next)
  onlyIf (order.next ≠ 0)
    (unlinkNeighborAndCreditMaker ctx.spec order.next .prev order.prev)
  let unlinked := { level with
    head := if order.prev ≠ 0 then level.head else order.next
    tail := if order.next ≠ 0 then level.tail else order.prev }
  let level ← subLiquidity ctx unlinked order.remaining
  onlyIf (level.head = 0) (retireTick ctx order)
  onlyIf (ctx.spec.isT12 = false ∨ order.prev = 0 ∨ order.next = 0)
    (writeLevel ctx.spec order.bookKey order.isBid order.tick level)
  refundEscrow ctx order
  let minted ← deleteOrder ctx.spec order
  creditDexStorageSlots ctx.spec order.maker minted

/-- `cancel`. -/
def cancel (ctx : Context) (sender : Address) (orderId : ℕ) : DexM Unit := do
  let order ← readOrder orderId
  require (order.maker ≠ 0) (.dex .orderDoesNotExist)
  require (order.maker = sender) (.dex .unauthorized)
  require (order.remaining ≠ 0) (.dex .orderDoesNotExist)
  cancelActiveOrder ctx order

/-- `is_authorized_for_token`: a failed policy lookup counts as unauthorized. -/
def isAuthorizedForToken (ctx : Context) (token address : Address) (role : AuthRole) :
    DexM Bool := do
  liftToken (fromAddress token)
  match ctx.env.authorizedAs token address role with
  | .ok authorized => pure authorized
  | .error e => if isPolicyLookupError ctx.spec e then pure false else throw (.token e)

/-- `is_maker_authorized`. -/
def isMakerAuthorized (ctx : Context) (order : Order) : DexM Bool := do
  let s ← get
  let book := s.books order.bookKey
  let tokenIn := if order.isBid then book.quote else book.base
  let tokenOut := if order.isBid then book.base else book.quote
  let senderAuthorized ← isAuthorizedForToken ctx tokenIn order.maker .sender
  if !senderAuthorized then pure false
  else if ctx.spec.isT4 then isAuthorizedForToken ctx tokenOut order.maker .recipient
  else pure true

/-- `cancel_stale_order`. -/
def cancelStaleOrder (ctx : Context) (orderId : ℕ) : DexM Unit := do
  let order ← readOrder orderId
  require (order.maker ≠ 0) (.dex .orderDoesNotExist)
  let authorized ← isMakerAuthorized ctx order
  require (!authorized) (.dex .orderNotStale)
  cancelActiveOrder ctx order

/-- `withdraw`. -/
def withdraw (ctx : Context) (user token : Address) (amount : ℕ) : DexM Unit := do
  let currentBalance ← balanceOf user token
  require (amount ≤ currentBalance) (.dex .insufficientBalance)
  subBalance ctx.spec user token amount
  transferTo ctx token user amount

end Monotempo.Dex
