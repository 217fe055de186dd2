/-
  Orders, errors and the per-order arithmetic of the
  stablecoin DEX.

  Source: `crates/precompiles/src/stablecoin_dex/order/mod.rs`,
  `stablecoin_dex/orderbook.rs` (lines 13-249, 691-717) and
  `crates/contracts/src/precompiles/stablecoin_dex.rs` (the error list).

  Amounts are natural numbers; every conversion that the source narrows to
  `u128` checks the bound.  Ticks are integers: a tick is an `i16` in the source
  and no arithmetic below leaves that range.
-/
import Monotempo.Chain.Token
import Monotempo.Foundation.Program

set_option autoImplicit false

namespace Monotempo.Dex

open Chain Foundation

variable {tick : ℤ} {result : ℕ} {isBid : Bool} {σ : Type}

/-! ## Errors -/

/-- `StablecoinDEXError`. -/
inductive StablecoinDEXError where
  | unauthorized
  | pairDoesNotExist
  | pairAlreadyExists
  | orderDoesNotExist
  | identicalTokens
  | invalidToken
  | tickOutOfBounds (tick : ℤ)
  | invalidTick
  | invalidFlipTick
  | insufficientBalance
  | insufficientLiquidity
  | insufficientOutput
  | maxInputExceeded
  | belowMinimumOrderSize (amount : ℕ)
  | invalidBaseToken
  | orderNotStale
  | indexAlreadySet
  deriving DecidableEq, Repr

/-- The `Fatal` errors the DEX and its storage can raise. -/
inductive FatalError where
  /-- "DEX storage credit bookkeeping spend mismatch: reserved 1, delta .." -/
  | spendMismatch (delta : ℤ)
  /-- "storage credit operation for owner .. consumed credits (before: .., after: ..)" -/
  | consumedCredits (before after : ℕ)
  /-- "unknown stablecoin DEX order storage version .." -/
  | unknownOrderVersion (version : ℕ)
  deriving DecidableEq, Repr

/-- The part of `TempoPrecompileError` that DEX calls return. -/
inductive Error where
  | dex (error : StablecoinDEXError)
  | token (error : TokenError)
  | panic (kind : PanicKind)
  | fatal (error : FatalError)
  /-- not an error of the source: a modelled loop used up its bound -/
  | unbounded
  deriving DecidableEq, Repr

/-- `TempoPrecompileError::under_overflow`. -/
def Error.underOverflow : Error := .panic .underOverflow

/-- `is_system_error`: errors that must propagate instead of being swallowed. -/
def Error.isSystemError : Error → Bool
  | .dex _ => false
  | .token error => error.isSystemError
  | .panic _ => true
  | .fatal _ => true
  | .unbounded => true

/-! ## Orders -/

/-- `Order`: the logical order record. -/
structure Order where
  orderId : ℕ
  maker : Address
  bookKey : B256
  isBid : Bool
  tick : ℤ
  amount : ℕ
  remaining : ℕ
  prev : ℕ
  next : ℕ
  isFlip : Bool
  flipTick : ℤ
  deriving DecidableEq, Repr

namespace Order

/-- What reading an empty order slot gives. -/
def empty : Order where
  orderId := 0
  maker := 0
  bookKey := 0
  isBid := false
  tick := 0
  amount := 0
  remaining := 0
  prev := 0
  next := 0
  isFlip := false
  flipTick := 0

/-- `Order::new`. -/
def new (orderId : ℕ) (maker : Address) (bookKey : B256) (amount : ℕ) (tick : ℤ)
    (isBid isFlip : Bool) (flipTick : ℤ) : Order where
  orderId := orderId
  maker := maker
  bookKey := bookKey
  isBid := isBid
  tick := tick
  amount := amount
  remaining := amount
  prev := 0
  next := 0
  isFlip := isFlip
  flipTick := flipTick

/-- `Order::new_bid`. -/
def newBid (orderId : ℕ) (maker : Address) (bookKey : B256) (amount : ℕ) (tick : ℤ) :
    Order :=
  new orderId maker bookKey amount tick true false 0

/-- `Order::new_ask`. -/
def newAsk (orderId : ℕ) (maker : Address) (bookKey : B256) (amount : ℕ) (tick : ℤ) :
    Order :=
  new orderId maker bookKey amount tick false false 0

/-- `Order::new_flip`: `none` stands for the two `OrderError` flip-tick cases,
which the only caller maps to one error. -/
def newFlip (orderId : ℕ) (maker : Address) (bookKey : B256) (amount : ℕ) (tick : ℤ)
    (isBid : Bool) (flipTick : ℤ) (hardfork : TempoHardfork) : Option Order :=
  let invalid :=
    if isBid then decide (flipTick < tick) || (!hardfork.isT5 && flipTick == tick)
    else decide (tick < flipTick) || (!hardfork.isT5 && flipTick == tick)
  if invalid then none
  else some (new orderId maker bookKey amount tick isBid true flipTick)

theorem newFlip_eq {orderId : ℕ} {maker : Address} {bookKey : B256} {amount : ℕ} {flipTick : ℤ}
    {hardfork : TempoHardfork} {order : Order}
    (h : newFlip orderId maker bookKey amount tick isBid flipTick hardfork = some order) :
    order = new orderId maker bookKey amount tick isBid true flipTick := by
  unfold newFlip at h
  rw [Option.ite_none_left_eq_some] at h
  exact (Option.some.inj h.2).symm

/-- `create_flipped_order`. -/
def createFlippedOrder (order : Order) (newOrderId : ℕ) : Order where
  orderId := newOrderId
  maker := order.maker
  bookKey := order.bookKey
  isBid := !order.isBid
  tick := order.flipTick
  amount := order.amount
  remaining := order.amount
  prev := 0
  next := 0
  isFlip := true
  flipTick := order.tick

/-- The order without its list pointers. -/
def contents (order : Order) : Order := { order with prev := 0, next := 0 }

/-- The order without its back pointer. -/
def forward (order : Order) : Order := { order with prev := 0 }

theorem forward_fields {a b : Order} (h : a.forward = b.forward) :
    a.contents = b.contents ∧ a.next = b.next := by
  have hnext : a.forward.next = b.forward.next := congrArg Order.next h
  have hcontents : a.forward.contents = b.forward.contents := congrArg Order.contents h
  exact ⟨hcontents, hnext⟩

theorem contents_fields {a b : Order} (h : a.contents = b.contents) :
    a.orderId = b.orderId ∧ a.maker = b.maker ∧ a.bookKey = b.bookKey ∧ a.isBid = b.isBid ∧
      a.tick = b.tick ∧ a.amount = b.amount ∧ a.remaining = b.remaining := by
  simp only [contents, Order.mk.injEq] at h
  obtain ⟨hid, hmaker, hbook, hside, htick, hamount, hremaining, _⟩ := h
  exact ⟨hid, hmaker, hbook, hside, htick, hamount, hremaining⟩

end Order

/-! ## Prices -/

/-- `MIN_TICK`. -/
def minTick : ℤ := -2000

/-- `MAX_TICK`. -/
def maxTick : ℤ := 2000

/-- `PRICE_SCALE`. -/
def priceScale : ℕ := 100000

/-- `MIN_ORDER_AMOUNT`. -/
def minOrderAmount : ℕ := 100000000

/-- `TICK_SPACING`. -/
def tickSpacing : ℤ := 10

/-- `RoundingDirection`. -/
inductive RoundingDirection where
  | down
  | up
  deriving DecidableEq, Repr

/-- `tick_to_price`. -/
def tickToPrice (tick : ℤ) : ℕ := (100000 + tick).toNat

/-- `div_ceil`. -/
def divCeil (a b : ℕ) : ℕ := (a + b - 1) / b

/-- `result.try_into().ok()` to `u128`. -/
def toU128 (value : ℕ) : Option ℕ :=
  if value ≤ u128Max then some value else none

/-- `base_to_quote`. -/
def baseToQuote (baseAmount : ℕ) (tick : ℤ) (rounding : RoundingDirection) : Option ℕ :=
  let numerator := baseAmount * tickToPrice tick
  let result :=
    match rounding with
    | .down => numerator / priceScale
    | .up => divCeil numerator priceScale
  toU128 result

/-- `quote_to_base`. -/
def quoteToBase (quoteAmount : ℕ) (tick : ℤ) (rounding : RoundingDirection) : Option ℕ :=
  let numerator := quoteAmount * priceScale
  let result :=
    match rounding with
    | .down => numerator / tickToPrice tick
    | .up => divCeil numerator (tickToPrice tick)
  toU128 result

/-- The quote value of a base amount, rounded up. -/
def quoteCeil (baseAmount : ℕ) (tick : ℤ) : ℕ :=
  divCeil (baseAmount * tickToPrice tick) priceScale

/-- The quote value of a base amount, rounded down. -/
def quoteFloor (baseAmount : ℕ) (tick : ℤ) : ℕ :=
  baseAmount * tickToPrice tick / priceScale

theorem toU128_eq_some {value : ℕ} :
    toU128 value = some result ↔ result = value ∧ value ≤ u128Max :=
  ite_some_eq_some.trans and_comm

variable {baseAmount : ℕ}

theorem baseToQuote_up (h : baseToQuote baseAmount tick .up = some result) :
    result = quoteCeil baseAmount tick :=
  (toU128_eq_some.mp h).1

theorem baseToQuote_down (h : baseToQuote baseAmount tick .down = some result) :
    result = quoteFloor baseAmount tick :=
  (toU128_eq_some.mp h).1

variable {quoteAmount : ℕ}

theorem quoteToBase_down (h : quoteToBase quoteAmount tick .down = some result) :
    result = quoteAmount * priceScale / tickToPrice tick :=
  (toU128_eq_some.mp h).1

theorem quoteToBase_up (h : quoteToBase quoteAmount tick .up = some result) :
    result = divCeil (quoteAmount * priceScale) (tickToPrice tick) :=
  (toU128_eq_some.mp h).1

/-! ## Stepping a trade across one resting order -/

/-- `OrderStep`. -/
structure OrderStep where
  fillAmount : ℕ
  accumulate : ℕ
  nextAmount : ℕ
  deriving DecidableEq, Repr

/-- `Fill`: how the walk consumes the current order. -/
inductive Fill where
  /-- `Fill::Partial`: the order ends the trade with this base amount -/
  | partially (amount : ℕ)
  | full
  deriving DecidableEq, Repr

/-- `taker_output`. -/
def takerOutput (fillAmount : ℕ) (tick : ℤ) (isBid : Bool) : Option ℕ :=
  if isBid then baseToQuote fillAmount tick .down else some fillAmount

/-- `step_exact_in`. -/
def stepExactIn (amountIn : ℕ) (order : Order) (isBid : Bool) : Option OrderStep := do
  let remaining := order.remaining
  let tick := order.tick
  let (fillAmount, nextAmount) ←
    if isBid then
      some (min amountIn remaining, amountIn - remaining)
    else do
      let baseOut ← quoteToBase amountIn tick .down
      let nextAmount ←
        if remaining < baseOut then do
          let quoteNeeded ← baseToQuote remaining tick .up
          checkedSub amountIn quoteNeeded
        else some 0
      some (min baseOut remaining, nextAmount)
  let accumulate ← takerOutput fillAmount tick order.isBid
  some { fillAmount, accumulate, nextAmount }

/-- `step_exact_out`. -/
def stepExactOut (amountOut : ℕ) (order : Order) (isBid : Bool) : Option OrderStep := do
  let remaining := order.remaining
  let tick := order.tick
  let (fillAmount, accumulate, demand) ←
    if isBid then do
      let baseNeeded ← quoteToBase amountOut tick .up
      let fillAmount := min baseNeeded remaining
      some (fillAmount, fillAmount, baseNeeded)
    else do
      let fillAmount := min amountOut remaining
      let amountIn ← baseToQuote fillAmount tick .up
      some (fillAmount, amountIn, amountOut)
  let nextAmount ←
    if remaining < demand then do
      let amountOutReceived ← takerOutput remaining tick order.isBid
      checkedSub amountOut amountOutReceived
    else some 0
  some { fillAmount, accumulate, nextAmount }

/-- `walk_resting_orders`.  The loop of the source has no bound of its own; here
`fuel` counts the orders it may still visit.  `total` is the running total. -/
def walkRestingOrders {σ : Type} (step : ℕ → Order → Bool → Option OrderStep)
    (isBid : Bool) (settle : Order → Fill → EStateM Error σ (Option Order)) :
    ℕ → Order → ℕ → ℕ → EStateM Error σ ℕ
  | 0, _, amount, total => if amount = 0 then pure total else throw .unbounded
  | fuel + 1, order, amount, total =>
    if amount = 0 then pure total
    else do
      let s ← okOr (step amount order isBid) .underOverflow
      if s.fillAmount < order.remaining then do
        let _ ← settle order (.partially s.fillAmount)
        okOr (checkedAdd128 total s.accumulate) .underOverflow
      else do
        let next ← settle order .full
        let total ← okOr (checkedAdd128 total s.accumulate) .underOverflow
        match next with
        | some next => walkRestingOrders step isBid settle fuel next s.nextAmount total
        | none =>
          if 0 < s.nextAmount then throw (.dex .insufficientLiquidity)
          else pure total

variable {settle : Order → Fill → EStateM Error σ (Option Order)}
  {step : ℕ → Order → Bool → Option OrderStep}

/-- The loop rule of the walk: `inv` holds whenever the loop tests its amount, and
`post` when it returns.  The cases are the exits of the loop and its one back edge. -/
theorem walkRestingOrders_rule (inv : ℕ → σ → Order → ℕ → ℕ → Prop) (post : σ → ℕ → Prop)
    (hdone : ∀ fuel w order total, inv fuel w order 0 total → post w total)
    (hpart : ∀ fuel w order amount total next w' st, inv (fuel + 1) w order amount total →
      amount ≠ 0 → step amount order isBid = some st → st.fillAmount < order.remaining →
      settle order (.partially st.fillAmount) w = .ok next w' →
      total + st.accumulate ≤ u128Max → post w' (total + st.accumulate))
    (hnext : ∀ fuel w order amount total next w' st, inv (fuel + 1) w order amount total →
      amount ≠ 0 → step amount order isBid = some st → order.remaining ≤ st.fillAmount →
      settle order .full w = .ok (some next) w' → total + st.accumulate ≤ u128Max →
      inv fuel w' next st.nextAmount (total + st.accumulate))
    (hlast : ∀ fuel w order amount total w' st, inv (fuel + 1) w order amount total →
      amount ≠ 0 → step amount order isBid = some st → order.remaining ≤ st.fillAmount →
      settle order .full w = .ok none w' → total + st.accumulate ≤ u128Max →
      st.nextAmount = 0 → post w' (total + st.accumulate)) :
    ∀ fuel w w' order amount total result, inv fuel w order amount total →
      walkRestingOrders step isBid settle fuel order amount total w = .ok result w' →
      post w' result := by
  intro fuel
  induction fuel with
  | zero =>
    intro w w' order amount total result hinv hrun
    unfold walkRestingOrders at hrun
    split at hrun
    · rename_i hzero
      obtain ⟨rfl, rfl⟩ := hrun
      subst hzero
      exact hdone 0 w order total hinv
    · rw [throw_ok] at hrun
      exact hrun.elim
  | succ fuel ih =>
    intro w w' order amount total result hinv hrun
    unfold walkRestingOrders at hrun
    split at hrun
    · rename_i hzero
      obtain ⟨rfl, rfl⟩ := hrun
      subst hzero
      exact hdone (fuel + 1) w order total hinv
    · rename_i hamount
      simp only [bind_ok, okOr_ok] at hrun
      obtain ⟨st, _, ⟨hstep, rfl⟩, hrun⟩ := hrun
      split at hrun
      · rename_i hless
        simp only [bind_ok, okOr_ok, checkedAdd128_eq_some] at hrun
        obtain ⟨next, w₁, hsettle, ⟨rfl, hbound⟩, rfl⟩ := hrun
        exact hpart fuel w order amount total next w₁ st hinv hamount hstep hless hsettle
          hbound
      · rename_i hfull
        have hfull := Nat.le_of_not_lt hfull
        simp only [bind_ok, okOr_ok, checkedAdd128_eq_some] at hrun
        obtain ⟨next, w₁, hsettle, total', _, ⟨⟨rfl, hbound⟩, rfl⟩, hrun⟩ := hrun
        cases next with
        | some next =>
          exact ih w₁ w' next st.nextAmount _ result
            (hnext fuel w order amount total next w₁ st hinv hamount hstep hfull hsettle
              hbound) hrun
        | none =>
          simp only at hrun
          split at hrun
          · rw [throw_ok] at hrun
            exact hrun.elim
          · rename_i hnone
            rw [pure_ok] at hrun
            obtain ⟨rfl, rfl⟩ := hrun
            exact hlast fuel w order amount total w₁ st hinv hamount hstep hfull hsettle
              hbound (Nat.eq_zero_of_not_pos hnone)

/-- The bound of the walk does not show: if at most `n` orders are left, every bound
from `n` on gives the same outcome, be it a result or an error. -/
theorem walkRestingOrders_bound (left : σ → Order → ℕ → Prop) (hpos : ∀ {w order}, ¬ left w order 0)
    (hnext : ∀ {w w' order next n}, left w order (n + 1) →
      settle order .full w = .ok (some next) w' → left w' next n) :
    ∀ {n fuel w order amount total}, left w order n → n ≤ fuel →
      walkRestingOrders step isBid settle fuel order amount total w =
        walkRestingOrders step isBid settle n order amount total w := by
  intro n
  induction n with
  | zero =>
    intro fuel w order amount total hleft _
    exact absurd hleft hpos
  | succ n ih =>
    intro fuel w order amount total hleft hfuel
    obtain ⟨fuel, rfl⟩ : ∃ m, fuel = m + 1 := ⟨fuel - 1, by omega⟩
    unfold walkRestingOrders
    split
    · rfl
    · refine bind_congr_ok fun st w₁ hstep => ?_
      obtain ⟨_, rfl⟩ := okOr_ok.mp hstep
      split
      · rfl
      · refine bind_congr_ok fun next w₂ hsettle => bind_congr_ok fun total' w₃ htotal => ?_
        obtain ⟨_, rfl⟩ := okOr_ok.mp htotal
        cases next with
        | none => rfl
        | some next => exact ih (hnext hleft hsettle) (Nat.le_of_succ_le_succ hfuel)

/-- A walk avoids what its settlement avoids; its own errors are none of `bad`. -/
theorem walkRestingOrders_avoids {bad : Error → Prop} {P : σ → Prop} (hunbounded : ¬ bad .unbounded)
    (hoverflow : ¬ bad .underOverflow) (hliquidity : ¬ bad (.dex .insufficientLiquidity))
    (hsettle : ∀ order fill, Avoids bad P (settle order fill)) :
    ∀ fuel order amount total,
      Avoids bad P (walkRestingOrders step isBid settle fuel order amount total) := by
  intro fuel
  induction fuel with
  | zero =>
    intro order amount total
    exact avoids_ite (fun _ => avoids_pure _) (fun _ => avoids_throw hunbounded)
  | succ fuel ih =>
    intro order amount total
    refine avoids_ite (fun _ => avoids_pure _) (fun _ => ?_)
    refine avoids_bind (avoids_okOr hoverflow) fun st => ?_
    refine avoids_ite (fun _ => ?_) (fun _ => ?_)
    · exact avoids_bind (hsettle _ _) fun _ => avoids_okOr hoverflow
    · refine avoids_bind (hsettle _ _) fun next => ?_
      refine avoids_bind (avoids_okOr hoverflow) fun total => ?_
      cases next with
      | some next => exact ih next st.nextAmount total
      | none => exact avoids_ite (fun _ => avoids_throw hliquidity) (fun _ => avoids_pure _)

end Monotempo.Dex
