/-
  The DEX can pay everybody.

  The claims on the DEX in a token are the internal balances and what resting
  orders have in escrow.  `Solvent c reserve` says that the reserve covers them.
  Within a call the reserve is the DEX's own token balance, less what the call
  still owes the taker, plus what the taker still has to pay; between calls it is
  the token balance.  All roundings of a fill go the DEX's way: a maker never
  receives more than the taker pays, and the taker never receives more than the
  order releases.
-/
import Monotempo.Dex.Invariant

set_option autoImplicit false

namespace Monotempo.Dex

open Chain Foundation Function

variable {amount fill got paid id : ℕ} {user tokenIn tokenOut token : Address} {tick : ℤ}
  {deltas : StorageCreditDeltas}

/-! ## Rounding -/

/-- What a remaining amount of the order has in escrow. -/
def Order.escrowAmount (order : Order) (remaining : ℕ) : ℕ :=
  if order.isBid then quoteCeil remaining order.tick else remaining

/-- A fill of the order is paid for on both sides: the maker receives at most what
the taker pays, and the taker receives at most what leaves the escrow. -/
structure Settles (order : Order) (fill paid got : ℕ) : Prop where
  maker : makerAmount order fill ≤ paid
  escrow : got + order.escrowAmount (order.remaining - fill) ≤
    order.escrowAmount order.remaining

theorem quoteFloor_add_quoteCeil_le {remaining : ℕ} (tick : ℤ) (hle : fill ≤ remaining) :
    quoteFloor fill tick + quoteCeil (remaining - fill) tick ≤ quoteCeil remaining tick := by
  have hsplit : remaining * tickToPrice tick =
      fill * tickToPrice tick + (remaining - fill) * tickToPrice tick := by
    rw [← Nat.add_mul, Nat.add_sub_cancel' hle]
  unfold quoteFloor quoteCeil divCeil priceScale
  omega

/-- What the taker receives for a fill. -/
def takerAmount (order : Order) (fillAmount : ℕ) : ℕ :=
  if order.isBid then quoteFloor fillAmount order.tick else fillAmount

/-- The base that has to be filled for an output. -/
def baseNeeded (order : Order) (amountOut : ℕ) : ℕ :=
  if order.isBid then divCeil (amountOut * priceScale) (tickToPrice order.tick) else amountOut

/-- The base that an input pays for. -/
def baseAffordable (order : Order) (amountIn : ℕ) : ℕ :=
  if order.isBid then amountIn else amountIn * priceScale / tickToPrice order.tick

variable {order : Order}

/-- What leaves the escrow is taken in whole base units or rounded down. -/
theorem Settles.of_takerAmount (hle : fill ≤ order.remaining)
    (hmaker : makerAmount order fill ≤ paid) (hgot : got ≤ takerAmount order fill) :
    Settles order fill paid got := by
  refine ⟨hmaker, ?_⟩
  unfold takerAmount at hgot
  unfold Order.escrowAmount
  cases hside : order.isBid with
  | true =>
    rw [hside] at hgot
    have hround := quoteFloor_add_quoteCeil_le order.tick hle
    simp only [if_true] at hgot ⊢
    omega
  | false =>
    rw [hside] at hgot
    simp only [Bool.false_eq_true, if_false] at hgot ⊢
    omega

/-- The base that an input pays for costs at most that input. -/
theorem makerAmount_baseAffordable (order : Order) (amountIn : ℕ) :
    makerAmount order (baseAffordable order amountIn) ≤ amountIn := by
  unfold makerAmount baseAffordable
  split
  · exact le_rfl
  · have hmul := Nat.div_mul_le_self (amountIn * priceScale) (tickToPrice order.tick)
    unfold quoteCeil divCeil
    unfold priceScale at *
    omega

/-- The base needed for an output brings at least that output. -/
theorem le_takerAmount_baseNeeded (hprice : 0 < tickToPrice order.tick) (amountOut : ℕ) :
    amountOut ≤ takerAmount order (baseNeeded order amountOut) := by
  unfold takerAmount baseNeeded
  split
  · unfold divCeil quoteFloor
    have hdiv := Nat.div_add_mod (amountOut * priceScale + tickToPrice order.tick - 1)
      (tickToPrice order.tick)
    have hmod := Nat.mod_lt (amountOut * priceScale + tickToPrice order.tick - 1) hprice
    rw [Nat.mul_comm] at hdiv
    rw [Nat.le_div_iff_mul_le (by decide)]
    omega
  · exact le_rfl

theorem makerAmount_mono (order : Order) {a b : ℕ} (h : a ≤ b) :
    makerAmount order a ≤ makerAmount order b := by
  unfold makerAmount
  split
  · exact h
  · exact Nat.div_le_div_right (by have := Nat.mul_le_mul_right (tickToPrice order.tick) h; omega)

/-- A step over `order` that asks `base` of it: what a fill adds to the total is `gain`, and
`value` is what a complete fill takes off the amount. -/
structure Steps (order : Order) (amount base value : ℕ) (gain : ℕ → ℕ) (st : OrderStep) :
    Prop where
  fill : st.fillAmount = min base order.remaining
  accumulate : st.accumulate = gain (min base order.remaining)
  carried : order.remaining < base → value + st.nextAmount = amount
  ended : base ≤ order.remaining → st.nextAmount = 0

variable {st : OrderStep}

/-- An exact-in step fills the order as far as the input goes. -/
theorem stepExactIn_steps (h : stepExactIn amount order order.isBid = some st) :
    Steps order amount (baseAffordable order amount) (makerAmount order order.remaining)
      (takerAmount order) st := by
  unfold stepExactIn takerOutput at h
  unfold baseAffordable makerAmount
  cases hside : order.isBid with
  | true =>
    simp only [hside, if_true, Option.bind_eq_bind, Option.bind_some, Option.bind_eq_some_iff,
      Option.some.injEq] at h ⊢
    obtain ⟨got, houtput, rfl⟩ := h
    refine ⟨rfl, ?_, fun hmore => Nat.add_sub_cancel' hmore.le, Nat.sub_eq_zero_of_le⟩
    rw [baseToQuote_down houtput, takerAmount, if_pos hside]
  | false =>
    simp only [hside, Bool.false_eq_true, if_false, Option.bind_eq_bind,
      Option.bind_eq_some_iff, Option.bind_some] at h ⊢
    obtain ⟨baseOut, hbase, h⟩ := h
    have hgain : ∀ fill, fill = takerAmount order fill := fun fill => by
      rw [takerAmount, if_neg (by rw [hside]; exact Bool.false_ne_true)]
    rw [← quoteToBase_down hbase]
    split at h
    · rename_i hmore
      simp only [Option.bind_eq_some_iff, Option.some.injEq, checkedSub_eq_some] at h
      obtain ⟨needed, hneeded, _, ⟨hle, rfl⟩, rfl⟩ := h
      rw [← baseToQuote_up hneeded]
      exact ⟨rfl, hgain _, fun _ => Nat.add_sub_cancel' hle, fun hless => absurd hmore hless.not_gt⟩
    · rename_i hless
      obtain rfl := Option.some.inj h
      exact ⟨rfl, hgain _, fun hmore => absurd hmore hless, fun _ => rfl⟩

/-- An exact-out step fills the order as far as the output needs it. -/
theorem stepExactOut_steps (h : stepExactOut amount order order.isBid = some st) :
    Steps order amount (baseNeeded order amount) (takerAmount order order.remaining)
      (makerAmount order) st := by
  unfold stepExactOut takerOutput at h
  unfold baseNeeded takerAmount
  cases hside : order.isBid with
  | true =>
    simp only [hside, if_true, Option.bind_eq_bind, Option.bind_eq_some_iff,
      Option.bind_some] at h ⊢
    obtain ⟨needed, hneeded, h⟩ := h
    have hgain : ∀ fill, fill = makerAmount order fill := fun fill => by
      rw [makerAmount, if_pos hside]
    rw [← quoteToBase_up hneeded]
    split at h
    · rename_i hmore
      simp only [Option.bind_eq_some_iff, Option.some.injEq, checkedSub_eq_some] at h
      obtain ⟨received, houtput, _, ⟨hle, rfl⟩, rfl⟩ := h
      rw [← baseToQuote_down houtput]
      exact ⟨rfl, hgain _, fun _ => Nat.add_sub_cancel' hle, fun hless => absurd hmore hless.not_gt⟩
    · rename_i hless
      obtain rfl := Option.some.inj h
      exact ⟨rfl, hgain _, fun hmore => absurd hmore hless, fun _ => rfl⟩
  | false =>
    simp only [hside, Bool.false_eq_true, if_false, Option.bind_eq_bind,
      Option.bind_eq_some_iff, Option.bind_some] at h ⊢
    obtain ⟨amountIn, hamountIn, h⟩ := h
    have hgain : amountIn = makerAmount order (min amount order.remaining) := by
      rw [baseToQuote_up hamountIn, makerAmount, if_neg (by rw [hside]; exact Bool.false_ne_true)]
    split at h
    · rename_i hmore
      simp only [Option.bind_eq_some_iff, Option.some.injEq, checkedSub_eq_some] at h
      obtain ⟨_, ⟨hle, rfl⟩, rfl⟩ := h
      exact ⟨rfl, hgain, fun _ => Nat.add_sub_cancel' hle, fun hless => absurd hmore hless.not_gt⟩
    · rename_i hless
      obtain rfl := Option.some.inj h
      exact ⟨rfl, hgain, fun hmore => absurd hmore hless, fun _ => rfl⟩

/-- An exact-in step: what the taker's amount shrinks by pays the maker, and the
output comes out of the escrow. -/
theorem stepExactIn_settles (h : stepExactIn amount order order.isBid = some st) :
    (st.fillAmount < order.remaining → st.nextAmount = 0) ∧
      ∃ paid, paid + st.nextAmount = amount ∧
        Settles order (min st.fillAmount order.remaining) paid st.accumulate := by
  obtain ⟨hfill, hgain, hcarried, hended⟩ := stepExactIn_steps h
  rw [hfill, hgain]
  rcases Nat.lt_or_ge order.remaining (baseAffordable order amount) with hmore | hless
  · rw [Nat.min_eq_right hmore.le, Nat.min_self]
    exact ⟨fun hlt => absurd hlt (Nat.lt_irrefl _), _, hcarried hmore,
      .of_takerAmount le_rfl le_rfl le_rfl⟩
  · rw [Nat.min_eq_left hless, Nat.min_eq_left hless, hended hless]
    exact ⟨fun _ => rfl, amount, rfl,
      .of_takerAmount hless (makerAmount_baseAffordable order amount) le_rfl⟩

/-- An exact-out step: what the demand shrinks by comes out of the escrow, and the
accumulated input pays the maker. -/
theorem stepExactOut_settles (hprice : 0 < tickToPrice order.tick)
    (h : stepExactOut amount order order.isBid = some st) :
    (st.fillAmount < order.remaining → st.nextAmount = 0) ∧
      ∃ got, got + st.nextAmount = amount ∧
        Settles order (min st.fillAmount order.remaining) st.accumulate got := by
  obtain ⟨hfill, hgain, hcarried, hended⟩ := stepExactOut_steps h
  rw [hfill, hgain]
  rcases Nat.lt_or_ge order.remaining (baseNeeded order amount) with hmore | hless
  · rw [Nat.min_eq_right hmore.le, Nat.min_self]
    exact ⟨fun hlt => absurd hlt (Nat.lt_irrefl _), _, hcarried hmore,
      .of_takerAmount le_rfl le_rfl le_rfl⟩
  · rw [Nat.min_eq_left hless, Nat.min_eq_left hless, hended hless]
    exact ⟨fun _ => rfl, amount, rfl,
      .of_takerAmount hless le_rfl (le_takerAmount_baseNeeded hprice amount)⟩

/-! ## Claims -/

/-- What the order with this id has in escrow in a token: base tokens for an ask,
their quote value rounded up for a bid. -/
def DexCore.escrowed (c : DexCore) (id : ℕ) (token : Address) : ℕ :=
  let order := (c.orders id).order
  let escrow := order.escrow (c.books order.bookKey)
  if escrow.token = token then escrow.amount else 0

/-- The claims on the DEX in a token: of a user, and of an order. -/
def DexCore.claim (c : DexCore) (token : Address) : Address ⊕ ℕ → ℕ
  | .inl user => c.balances user token
  | .inr id => c.escrowed id token

/-- The amount in one token and nothing in the others. -/
def inToken (token : Address) (amount : ℕ) (other : Address) : ℤ :=
  if token = other then amount else 0

theorem inToken_nonneg (token : Address) (amount : ℕ) (other : Address) :
    0 ≤ inToken token amount other := by
  unfold inToken
  split
  · exact Int.natCast_nonneg _
  · exact le_rfl

theorem inToken_zero (token other : Address) : inToken token 0 other = 0 := by
  unfold inToken
  split <;> rfl

theorem inToken_add (token : Address) (a b : ℕ) (other : Address) :
    inToken token (a + b) other = inToken token a other + inToken token b other := by
  unfold inToken
  split
  · exact Int.natCast_add _ _
  · rfl

/-- The payments of a fill, token by token. -/
theorem Settles.covers (h : Settles order fill paid got) (makerToken escrowToken token : Address) :
    inToken makerToken (makerAmount order fill) token +
        inToken escrowToken (order.escrowAmount (order.remaining - fill)) token -
        inToken escrowToken (order.escrowAmount order.remaining) token ≤
      inToken makerToken paid token - inToken escrowToken got token := by
  have hmaker := h.maker
  have hescrow := h.escrow
  unfold inToken
  split
  · split <;> omega
  · split <;> omega

/-- The reserve covers all claims, and what is in escrow belongs to a pair that
exists. -/
structure Solvent (c : DexCore) (reserve : Address → ℤ) : Prop where
  backed : ∀ token, Backed (c.claim token) (reserve token)
  created : ∀ id, 0 < (c.orders id).order.remaining →
    (c.books (c.orders id).order.bookKey).isInitialized = true

theorem Order.escrow_amount (order : Order) (book : Orderbook) :
    (order.escrow book).amount = order.escrowAmount order.remaining := by
  unfold Order.escrow escrowOf Order.escrowAmount
  split <;> rfl

/-- The token an order escrows. -/
def escrowToken (book : Orderbook) (order : Order) : Address :=
  if order.isBid then book.quote else book.base

theorem Order.escrow_token (order : Order) (book : Orderbook) :
    (order.escrow book).token = escrowToken book order := by
  unfold Order.escrow escrowOf escrowToken
  split <;> rfl

variable {c : DexCore}

/-- What an order with these contents has in escrow. -/
theorem DexCore.escrowed_eq (h : (c.orders id).order.contents = order.contents) (token : Address) :
    (c.escrowed id token : ℤ) =
      inToken (escrowToken (c.books order.bookKey) order)
        (order.escrowAmount order.remaining) token := by
  obtain ⟨_, _, hkey, hside, htick, _, hremaining⟩ := Order.contents_fields h
  unfold escrowed inToken
  simp only [Order.escrow_amount, Order.escrow_token]
  unfold Order.escrowAmount escrowToken
  rw [hkey, hside, htick, hremaining]
  exact Nat.cast_ite _ _ _

theorem DexCore.escrowed_zero (h : (c.orders id).order.remaining = 0) (token : Address) :
    c.escrowed id token = 0 := by
  have hzero : ((c.orders id).order.escrow (c.books (c.orders id).order.bookKey)).amount = 0 := by
    rw [Order.escrow_amount, h]
    unfold Order.escrowAmount
    split
    · simp [quoteCeil, divCeil, priceScale]
    · rfl
  unfold escrowed
  simp only [hzero, ite_self]

/-- The claim of an order is read from its contents and the tokens of its book. -/
theorem DexCore.escrowed_congr {c' : DexCore}
    (hcontents : (c'.orders id).order.contents = (c.orders id).order.contents)
    (hpair : 0 < (c.orders id).order.remaining → ∀ key, key = (c.orders id).order.bookKey →
      (c'.books key).base = (c.books key).base ∧ (c'.books key).quote = (c.books key).quote)
    (token : Address) : c'.escrowed id token = c.escrowed id token := by
  obtain ⟨_, _, hkey, hside, htick, _, hremaining⟩ := Order.contents_fields hcontents
  by_cases hzero : (c.orders id).order.remaining = 0
  · rw [escrowed_zero hzero, escrowed_zero (hremaining.trans hzero)]
  · obtain ⟨hbase, hquote⟩ := hpair (Nat.pos_of_ne_zero hzero) _ rfl
    unfold escrowed Order.escrow escrowOf
    simp only [hkey, hside, htick, hremaining, hbase, hquote]

namespace Solvent

variable {c c' : DexCore} {reserve reserve' : Address → ℤ}

section Reserves

variable (h : Solvent c reserve)

include h

theorem mono (hle : ∀ token, reserve token ≤ reserve' token) :
    Solvent c reserve' :=
  ⟨fun token => (h.backed token).mono (hle token), h.created⟩

theorem congr (hbalances : c'.balances = c.balances) (horders : c'.orders = c.orders)
    (hpair : ∀ key, (c.books key).isInitialized = true →
      (c'.books key).base = (c.books key).base ∧ (c'.books key).quote = (c.books key).quote) :
    Solvent c' reserve where
  backed := by
    intro token
    refine (h.backed token).of_le fun i => ?_
    cases i with
    | inl user =>
      show c'.balances user token ≤ c.balances user token
      rw [hbalances]
    | inr id =>
      refine (DexCore.escrowed_congr (by rw [horders]) ?_ token).le
      rintro hpos _ rfl
      exact hpair _ (h.created id hpos)
  created := by
    intro id hpos
    rw [horders] at hpos ⊢
    have hold := h.created id hpos
    unfold Orderbook.isInitialized at hold ⊢
    rw [(hpair _ (h.created id hpos)).1]
    exact hold

theorem setBalance (user token : Address) (amount : ℕ) :
    Solvent (c.setBalance user token amount) fun other =>
      reserve other + inToken token amount other - inToken token (c.balances user token) other where
  backed := by
    intro other
    refine (h.backed other).change (.inl user) ?_ ?_
    · intro i hi
      cases i with
      | inl account =>
        have hne : account ≠ user := fun heq => hi (congrArg Sum.inl heq)
        show update c.balances user _ account other ≤ _
        rw [update_of_ne hne]
        exact le_rfl
      | inr id => exact le_rfl
    · show reserve other + (update c.balances user _ user other : ℕ) ≤
        _ + (c.balances user other : ℕ)
      unfold inToken
      rw [update_self]
      by_cases hsame : token = other
      · subst hsame
        rw [update_self, if_pos rfl, if_pos rfl]
        omega
      · rw [update_of_ne (Ne.symm hsame), if_neg hsame, if_neg hsame]
        omega
  created := h.created

theorem addBalance (user token : Address) (amount : ℕ) :
    Solvent (c.addBalance user token amount) fun other =>
      reserve other + inToken token amount other := by
  refine (h.setBalance user token _).mono fun other => ?_
  unfold inToken
  split
  · push_cast
    omega
  · omega

theorem subBalance (hle : amount ≤ c.balances user token) :
    Solvent (c.setBalance user token (c.balances user token - amount)) fun other =>
      reserve other - inToken token amount other := by
  refine (h.setBalance user token _).mono fun other => ?_
  unfold inToken
  split <;> omega

theorem replaceOrder (id : ℕ) (hbalances : c'.balances = c.balances)
    (hpair : ∀ key, (c'.books key).base = (c.books key).base ∧
      (c'.books key).quote = (c.books key).quote)
    (hothers : ∀ other, other ≠ id →
      (c'.orders other).order.contents = (c.orders other).order.contents)
    (hcreated : 0 < (c'.orders id).order.remaining →
      (c'.books (c'.orders id).order.bookKey).isInitialized = true) :
    Solvent c' fun token => reserve token + c'.escrowed id token - c.escrowed id token where
  backed := by
    intro token
    refine (h.backed token).change (.inr id) ?_ ?_
    · intro i hi
      cases i with
      | inl user =>
        show c'.balances user token ≤ c.balances user token
        rw [hbalances]
      | inr other =>
        have hne : other ≠ id := fun heq => hi (congrArg Sum.inr heq)
        exact (DexCore.escrowed_congr (hothers other hne) (fun _ key _ => hpair key) token).le
    · show reserve token + (c'.escrowed id token : ℕ) ≤ _ + (c.escrowed id token : ℕ)
      omega
  created := by
    intro other hpos
    by_cases hother : other = id
    · subst hother
      exact hcreated hpos
    · obtain ⟨_, _, hkey, _, _, _, hremaining⟩ := Order.contents_fields (hothers other hother)
      rw [hremaining] at hpos
      have hold := h.created other hpos
      unfold Orderbook.isInitialized at hold ⊢
      rw [hkey, (hpair _).1]
      exact hold

end Reserves

end Solvent

/-! ## Fills -/

section Fills

variable [BookHash] {spec : TempoHardfork} {c : DexCore} {listing : Listing}
  {reserve : Address → ℤ} {level stored : TickLevel} {order : Order} {rest : List ℕ}

/-- A new order brings its escrow. -/
theorem Solvent.commit (h : Solvent c reserve) (hlisted : Listed c listing)
    (hbook : (c.books order.bookKey).isInitialized = true) (spec : TempoHardfork) :
    Solvent (c.commit spec order) fun token =>
      reserve token + inToken (escrowToken (c.books order.bookKey) order)
        (order.escrowAmount order.remaining) token := by
  have hpairs := samePairs_commit c spec order
  have hself : ((c.commit spec order).orders order.orderId).order.contents = order.contents := by
    rw [DexCore.orders_commit_self, OrderRecord.written_order]
    split <;> rfl
  have hkey := (Order.contents_fields hself).2.2.1
  have hreplaced := @Solvent.replaceOrder c (c.commit spec order) reserve h order.orderId rfl
    (fun key => ⟨hpairs.base key, hpairs.quote key⟩) (fun other hne => by
      rw [hlisted.order_commit hne]
      split
      · rfl
      · rfl) (fun _ => by rw [hkey, hpairs.isInitialized]; exact hbook)
  refine hreplaced.mono fun token => ?_
  have hnew := DexCore.escrowed_eq hself token
  have hsame : escrowToken ((c.commit spec order).books order.bookKey) order =
      escrowToken (c.books order.bookKey) order := by
    unfold escrowToken
    rw [hpairs.base, hpairs.quote]
  rw [hsame] at hnew
  omega

/-- A complete fill: the maker is paid from the taker's input, the taker's output
comes from the escrow. -/
theorem Solvent.retired (h : Solvent c reserve) (hfront : Front spec c listing level order rest)
    (hsettles : Settles order order.remaining paid got) (taker : Address) :
    Solvent (c.retired spec taker order stored) fun token =>
      reserve token + inToken (makerToken (c.books order.bookKey) order) paid token -
        inToken (escrowToken (c.books order.bookKey) order) got token := by
  have hpaid : Solvent (c.settled taker order) _ :=
    (h.addBalance order.maker (makerToken (c.books order.bookKey) order)
      (makerAmount order order.remaining)).congr rfl rfl fun _ _ => ⟨rfl, rfl⟩
  have horders := DexCore.orders_withoutHead
  have habsent : (c.retired spec taker order stored).orders order.orderId =
      OrderRecord.absent := by
    unfold DexCore.retired
    rw [horders, if_neg (fun hsame => hfront.next_ne hsame.1 hsame.2.symm),
      DexCore.orders_setRecord, if_pos rfl]
  have hempty : ((c.retired spec taker order stored).orders order.orderId).order.remaining = 0 := by
    rw [habsent]
    rfl
  have hreplaced := @Solvent.replaceOrder (c.settled taker order)
    (c.retired spec taker order stored) _ hpaid order.orderId
    (DexCore.rest_withoutHead _ _ _ _).2.2.1
    (fun key => ⟨(DexCore.pair_withoutHead _ _ _ _ key).1,
      (DexCore.pair_withoutHead _ _ _ _ key).2.1⟩)
    (fun other hne => by
      unfold DexCore.retired
      rw [horders, DexCore.orders_setRecord, if_neg hne]
      split
      · rfl
      · rfl)
    (fun hpos => absurd hempty hpos.ne')
  refine hreplaced.mono fun token => ?_
  have hold : ((c.settled taker order).escrowed order.orderId token : ℤ) = _ :=
    DexCore.escrowed_eq (congrArg Order.contents hfront.cursor.order_eq) token
  rw [DexCore.escrowed_zero hempty, hold]
  have hcovers := hsettles.covers (makerToken (c.books order.bookKey) order)
    (escrowToken (c.books order.bookKey) order) token
  have hnone := inToken_nonneg (escrowToken (c.books order.bookKey) order)
    (order.escrowAmount (order.remaining - order.remaining)) token
  omega

/-- A flip: the escrow of the flipped order comes out of the maker's balance. -/
theorem Solvent.flip (h : Solvent c reserve) (hlisted : Listed c listing)
    (hflip : Flippable c order) (spec : TempoHardfork) :
    Solvent (c.flip spec order) reserve := by
  have hpaid := h.subBalance hflip.funded
  have hcommitted := @Solvent.commit _ _ listing _ order.flipped hpaid
    (hlisted.congr rfl rfl rfl le_rfl) hflip.created spec
  refine hcommitted.mono fun token => ?_
  have hescrow : (flipEscrow (c.books order.bookKey) order).amount =
      order.flipped.escrowAmount order.flipped.remaining :=
    order.flipped.escrow_amount (c.books order.bookKey)
  have htoken : (flipEscrow (c.books order.bookKey) order).token =
      escrowToken (c.books order.bookKey) order.flipped :=
    order.flipped.escrow_token (c.books order.bookKey)
  show reserve token - inToken _ _ token +
    inToken (escrowToken (c.books order.bookKey) order.flipped) _ token ≤ _
  rw [hescrow, htoken]
  omega

/-- A partial fill: the same, with the rest of the order still in escrow. -/
theorem Solvent.partlyFilled (h : Solvent c reserve)
    (hfront : Front spec c listing level order rest) (hsettles : Settles order fill paid got)
    (event : OrderFilled) :
    Solvent (c.partlyFilled spec order stored fill event) fun token =>
      reserve token + inToken (makerToken (c.books order.bookKey) order) paid token -
        inToken (escrowToken (c.books order.bookKey) order) got token := by
  have hpaid := h.addBalance order.maker (makerToken (c.books order.bookKey) order)
    (makerAmount order fill)
  have hpairs := samePairs_partlyFilled c spec order stored fill event
  have hself : ((c.partlyFilled spec order stored fill event).orders order.orderId).order =
      { order with remaining := order.remaining - fill } := by
    have hset : ∀ (record : OrderRecord) (n : ℕ), record.order = order →
        (record.setField .remaining n).order = { order with remaining := n } := by
      rintro record n rfl
      rfl
    rw [DexCore.orders_partlyFilled, if_pos rfl]
    exact hset _ _ hfront.cursor.order_eq
  have hreplaced := @Solvent.replaceOrder _ (c.partlyFilled spec order stored fill event) _ hpaid
    order.orderId
    (by
      unfold DexCore.partlyFilled
      cases spec.isT12 with
      | true => rfl
      | false => rfl)
    (fun key => ⟨hpairs.base key, hpairs.quote key⟩)
    (fun other hne => by
      rw [DexCore.orders_partlyFilled, if_neg hne]
      rfl)
    (fun _ => by
      rw [hself, hpairs.isInitialized]
      exact hfront.cursor.created)
  refine hreplaced.mono fun token => ?_
  have hold : ((c.addBalance order.maker (makerToken (c.books order.bookKey) order)
      (makerAmount order fill)).escrowed order.orderId token : ℤ) = _ :=
    DexCore.escrowed_eq (congrArg Order.contents hfront.cursor.order_eq) token
  have hsame : escrowToken ((c.partlyFilled spec order stored fill event).books order.bookKey)
      order = escrowToken (c.books order.bookKey) order := by
    unfold escrowToken
    rw [hpairs.base, hpairs.quote]
  have hnew : ((c.partlyFilled spec order stored fill event).escrowed order.orderId token : ℤ) =
      inToken (escrowToken (c.books order.bookKey) order)
        (order.escrowAmount (order.remaining - fill)) token := by
    rw [← hsame]
    exact DexCore.escrowed_eq (congrArg Order.contents hself) token
  have hcovers := hsettles.covers (makerToken (c.books order.bookKey) order)
    (escrowToken (c.books order.bookKey) order) token
  omega

theorem Front.price_pos (h : Front spec c listing level order rest) :
    0 < tickToPrice order.tick := by
  have hrange := h.cursor.side.range order.tick (List.ne_nil_of_mem h.cursor.mem)
  unfold minTick at hrange
  unfold tickToPrice
  omega

/-- What a step function has to guarantee for trades of `tokenIn` against `tokenOut`.
`reserve amount total` is the reserve when `amount` is left and the running total is
`total`. -/
def Trades (step : ℕ → Order → Bool → Option OrderStep) (tokenIn tokenOut : Address)
    (reserve : ℕ → ℕ → Address → ℤ) : Prop :=
  ∀ (amount total : ℕ) (order : Order) (st : OrderStep), 0 < tickToPrice order.tick →
    step amount order order.isBid = some st →
    (st.fillAmount < order.remaining → st.nextAmount = 0) ∧
    ∃ paid got, Settles order (min st.fillAmount order.remaining) paid got ∧
      ∀ token, reserve amount total token + inToken tokenIn paid token -
        inToken tokenOut got token ≤ reserve st.nextAmount (total + st.accumulate) token

/-- A fill keeps the DEX solvent, with the reserve that its amounts stand for. -/
theorem fillInvariant_solvent {taker : Address} {step : ℕ → Order → Bool → Option OrderStep}
    {bookKey : B256} {isBid : Bool} {reserve : ℕ → ℕ → Address → ℤ} (c₀ : DexCore)
    (hin : (if isBid then (c₀.books bookKey).base else (c₀.books bookKey).quote) = tokenIn)
    (hout : (if isBid then (c₀.books bookKey).quote else (c₀.books bookKey).base) = tokenOut)
    (htrades : Trades step tokenIn tokenOut reserve) :
    FillInvariant spec taker step bookKey isBid fun c _ amount total =>
      SamePairs c₀ c ∧ c.ledger = c₀.ledger ∧ Solvent c (reserve amount total) where
  retire := by
    rintro c listing level stored order rest amount total st hfront _ rfl rfl hstep hfull
      ⟨hpairs, hledger, h⟩
    obtain ⟨_, paid, got, hsettles, hreserve⟩ := htrades _ total _ _ hfront.price_pos hstep
    rw [Nat.min_eq_right hfull] at hsettles
    refine ⟨hpairs.trans (samePairs_retired _ _ _ _ _),
      (DexCore.rest_withoutHead _ _ _ _).2.2.2.trans hledger, ?_⟩
    refine (h.retired hfront hsettles taker).mono fun token => ?_
    unfold makerToken escrowToken
    rw [hpairs.base, hpairs.quote, hin, hout]
    exact hreserve token
  flip := by
    rintro c listing order amount total hlisted hflip _ _ ⟨hpairs, hledger, h⟩
    exact ⟨hpairs.trans (samePairs_flip _ _ _), hledger, h.flip hlisted hflip spec⟩
  part := by
    rintro c listing level level' order rest amount total st hfront rfl rfl hstep hless _ _ _
      ⟨hpairs, hledger, h⟩
    obtain ⟨hzero, paid, got, hsettles, hreserve⟩ := htrades _ total _ _ hfront.price_pos hstep
    rw [Nat.min_eq_left hless.le] at hsettles
    rw [hzero hless] at hreserve
    refine ⟨hpairs.trans (samePairs_partlyFilled _ _ _ _ _ _), ?_, ?_⟩
    · unfold DexCore.partlyFilled
      cases spec.isT12 with
      | true | false => exact hledger
    · refine (h.partlyFilled hfront hsettles _).mono fun token => ?_
      unfold makerToken escrowToken
      rw [hpairs.base, hpairs.quote, hin, hout]
      exact hreserve token

omit [BookHash] in
/-- Exact in: the DEX holds the taker's input, and owes what is left of it and the
output so far. -/
theorem trades_exactIn (tokenIn tokenOut : Address) (reserve : Address → ℤ) :
    Trades stepExactIn tokenIn tokenOut fun amount total token =>
      reserve token - inToken tokenIn amount token - inToken tokenOut total token := by
  intro amount total order st _ hstep
  obtain ⟨hzero, paid, rfl, hsettles⟩ := stepExactIn_settles hstep
  refine ⟨hzero, paid, st.accumulate, hsettles, fun token => ?_⟩
  simp only [inToken_add]
  omega

omit [BookHash] in
/-- Exact out: the DEX has set the whole output aside, and is owed what is still to
be bought of it and the input so far. -/
theorem trades_exactOut (tokenIn tokenOut : Address) (reserve : Address → ℤ) :
    Trades stepExactOut tokenIn tokenOut fun amount total token =>
      reserve token + inToken tokenOut amount token + inToken tokenIn total token := by
  intro amount total order st hprice hstep
  obtain ⟨hzero, got, rfl, hsettles⟩ := stepExactOut_settles hprice hstep
  refine ⟨hzero, st.accumulate, got, hsettles, fun token => ?_⟩
  simp only [inToken_add]
  omega

end Fills

/-! ## Routes -/

section Routes

variable [BookHash] {ctx : Context} {taker : Address}

/-- One hop of a route, from what it is given to what it returns. -/
theorem HopOk.solvent (hspec : ctx.spec.isT5 = true) {hop : Hop}
    {step : ℕ → Order → Bool → Option OrderStep} {reserve : ℕ → ℕ → Address → ℤ} {s s' : DexState}
    {listing : Listing} {result : ℕ × StorageCreditDeltas}
    (htrades : Trades step tokenIn tokenOut reserve) (hhop : HopOk s tokenIn tokenOut hop)
    (hlisted : Listed s listing) (h : Solvent s (reserve amount 0))
    (hrun : fillOrders ctx step taker deltas hop.1 hop.2 amount s = .ok result s') :
    ∃ listing', Listed s' listing' ∧ SamePairs s s' ∧
      s'.ledger = s.ledger ∧ Solvent s' (reserve 0 result.1) := by
  obtain ⟨hbase, hquote⟩ := hhop.tokens hlisted
  refine (fillInvariant_solvent s ?_ ?_ htrades).fillOrders hspec hlisted hhop.created
    ⟨.refl _, rfl, h⟩ hrun
  · rw [hbase, hquote]
    split <;> rfl
  · rw [hbase, hquote]
    split <;> rfl

variable {reserve : Address → ℤ}

/-- A route filled hop by hop turns the input the DEX holds into the output it owes. -/
theorem Route.solvent_exactIn (hspec : ctx.spec.isT5 = true) :
    ∀ {hops : List Hop} {deltas : StorageCreditDeltas} {amount : ℕ} {s s' : DexState}
      {listing : Listing} {start stop : Address} {result : ℕ × StorageCreditDeltas},
      Route s start stop hops → Listed s listing →
      Solvent s (fun token => reserve token - inToken start amount token) →
      fillRoute (fillOrdersExactIn ctx taker) hops deltas amount s = .ok result s' →
      ∃ listing', Listed s' listing' ∧ s'.ledger = s.ledger ∧
        Solvent s' fun token => reserve token - inToken stop result.1 token := by
  intro hops
  induction hops with
  | nil =>
    rintro deltas amount s s' listing start stop result rfl hlisted h hrun
    obtain ⟨rfl, rfl⟩ := pure_ok.mp hrun
    exact ⟨listing, hlisted, rfl, h⟩
  | cons hop hops ih =>
    rintro deltas amount s s' listing start stop result ⟨mid, hhop, hroute⟩ hlisted h hrun
    obtain ⟨filled, t, hfill, hrest⟩ := bind_ok.mp hrun
    obtain ⟨listing₁, hlisted₁, hpairs, hledger, h₁⟩ :=
      hhop.solvent hspec (trades_exactIn start mid reserve) hlisted
        (h.mono fun token => by simp only [inToken_zero]; omega) hfill
    obtain ⟨listing₂, hlisted₂, hledger₂, h₂⟩ :=
      ih (hroute.mono fun key hkey => (hpairs.isInitialized key).trans hkey) hlisted₁
        (h₁.mono fun token => by simp only [inToken_zero]; omega) hrest
    exact ⟨listing₂, hlisted₂, hledger₂.trans hledger, h₂⟩

/-- A route filled from its last hop turns the output the DEX is asked for into the
input it is owed. -/
theorem Route.solvent_exactOut (hspec : ctx.spec.isT5 = true) {start : Address} :
    ∀ {hops : List Hop} {deltas : StorageCreditDeltas} {amount : ℕ} {s s' : DexState}
      {listing : Listing} {stop : Address} {result : ℕ × StorageCreditDeltas},
      Route s start stop hops → Listed s listing →
      Solvent s (fun token => reserve token + inToken stop amount token) →
      fillRoute (fillOrdersExactOut ctx taker) hops.reverse deltas amount s = .ok result s' →
      ∃ listing', Listed s' listing' ∧ s'.ledger = s.ledger ∧
        Solvent s' fun token => reserve token + inToken start result.1 token := by
  intro hops
  induction hops using List.reverseRecOn with
  | nil =>
    rintro deltas amount s s' listing stop result rfl hlisted h hrun
    obtain ⟨rfl, rfl⟩ := pure_ok.mp hrun
    exact ⟨listing, hlisted, rfl, h⟩
  | append_singleton hops hop ih =>
    intro deltas amount s s' listing stop result hroute hlisted h hrun
    obtain ⟨mid, hroute, hhop⟩ := hroute.snoc
    rw [List.reverse_append, List.reverse_singleton, List.singleton_append] at hrun
    obtain ⟨filled, t, hfill, hrest⟩ := bind_ok.mp hrun
    obtain ⟨listing₁, hlisted₁, hpairs, hledger, h₁⟩ :=
      hhop.solvent hspec (trades_exactOut mid stop reserve) hlisted
        (h.mono fun token => by simp only [inToken_zero]; omega) hfill
    obtain ⟨listing₂, hlisted₂, hledger₂, h₂⟩ :=
      ih (hroute.mono fun key hkey => (hpairs.isInitialized key).trans hkey) hlisted₁
        (h₁.mono fun token => by simp only [inToken_zero]; omega) hrest
    exact ⟨listing₂, hlisted₂, hledger₂.trans hledger, h₂⟩

end Routes

/-! ## Calls -/

/-- What the DEX holds in each token. -/
def DexCore.holdings (c : DexCore) (token : Address) : ℤ :=
  c.ledger token stablecoinDexAddress

/-- A payment out of the DEX takes no more than its amount from the holdings. -/
theorem DexCore.holdings_payout (hfunds : amount ≤ c.ledger token stablecoinDexAddress)
    (other : Address) :
    c.holdings other - inToken token amount other ≤
      c.ledger.move token stablecoinDexAddress user amount other stablecoinDexAddress := by
  unfold holdings inToken
  by_cases hsame : token = other
  · subst hsame
    have hmove := @Ledger.le_move_sender token stablecoinDexAddress user amount c.ledger hfunds
    rw [if_pos rfl]
    omega
  · rw [if_neg hsame, Ledger.move_other_token (Ne.symm hsame)]
    omega

section Calls

variable [BookHash] {ctx : Context} {s s' : DexState} {c : DexCore} {listing : Listing}
  {reserve : Address → ℤ} {spec : TempoHardfork}

omit [BookHash] in
/-- A payment into the DEX: from the internal balance, the rest from the wallet. -/
theorem Solvent.debit (h : Solvent c reserve) (huser : user ≠ stablecoinDexAddress)
    (token : Address) (amount : ℕ) :
    Solvent (c.debit user token amount) fun other =>
      reserve other + ((c.debit user token amount).holdings other - c.holdings other) -
        inToken token amount other := by
  unfold DexCore.debit
  split
  · rename_i hle
    refine (h.subBalance hle).mono fun other => ?_
    show _ ≤ reserve other + (c.holdings other - c.holdings other) - _
    omega
  · have hzero := h.setBalance user token 0
    refine Solvent.congr (hzero.mono fun other => ?_) rfl rfl fun _ _ => ⟨rfl, rfl⟩
    show reserve other + inToken token 0 other - inToken token (c.balances user token) other ≤
      reserve other + ((c.ledger.move token user stablecoinDexAddress
        (amount - c.balances user token) other stablecoinDexAddress : ℕ) - c.holdings other) -
        inToken token amount other
    unfold inToken DexCore.holdings
    by_cases hsame : token = other
    · subst hsame
      rw [Ledger.move_recipient (Ne.symm huser)]
      simp only [if_true]
      omega
    · rw [Ledger.move_other_token (Ne.symm hsame)]
      simp only [if_neg hsame]
      omega

omit [BookHash] in
theorem Solvent.withPair (h : Solvent c reserve) {base quote : Address} {bookKey : B256}
    (hnew : (c.books bookKey).isInitialized = false) (bookId : ℕ) :
    Solvent (c.withPair bookKey base quote bookId) reserve := by
  refine h.congr rfl rfl fun key hkey => ?_
  have hne : key ≠ bookKey := by
    rintro rfl
    rw [hnew] at hkey
    exact nomatch hkey
  have hbook : (c.withPair bookKey base quote bookId).books key = c.books key :=
    DexCore.books_setBook_of_ne _ hne _
  rw [hbook]
  exact ⟨rfl, rfl⟩

theorem Solvent.ensurePair (h : Solvent c reserve) (base quote : Address) :
    Solvent (c.ensurePair spec base quote) reserve := by
  unfold DexCore.ensurePair
  split
  · exact h
  · rename_i hnew
    exact h.withPair (by simpa using hnew) _

theorem Listed.tokens_ensurePair (h : Listed c listing) (spec : TempoHardfork) {base : Address}
    (quote : Address) (hbase : base ≠ 0) :
    ((c.ensurePair spec base quote).books (computeBookKey base quote)).base = base ∧
      ((c.ensurePair spec base quote).books (computeBookKey base quote)).quote = quote := by
  have hkey := (h.ensurePair spec base quote).pair _
    (c.isInitialized_ensurePair spec quote hbase)
  obtain ⟨hbase', hquote'⟩ := BookHash.injective hkey
  exact ⟨hbase'.symm, hquote'.symm⟩

/-- A placement pays for its escrow. -/
theorem Solvent.placed {p : Placement} (h : Solvent c c.holdings) (hlisted : Listed c listing)
    (hvalid : p.Valid) (hmaker : p.maker ≠ stablecoinDexAddress) :
    Solvent (c.placed spec p) (c.placed spec p).holdings := by
  obtain ⟨hbooks, _⟩ := (c.ensurePair spec p.base p.quote).debit_frame p.maker p.escrow.token
    p.escrow.amount
  obtain ⟨_, _, _, hledger⟩ := c.ensurePair_frame spec p.base p.quote
  have hholdings : (c.ensurePair spec p.base p.quote).holdings = c.holdings := by
    unfold DexCore.holdings
    rw [hledger]
  have hensured : Solvent (c.ensurePair spec p.base p.quote) c.holdings :=
    h.ensurePair p.base p.quote
  have hpaid := hensured.debit hmaker p.escrow.token p.escrow.amount
  have hlisted' := hlisted.charged spec p
  generalize hc' : (c.ensurePair spec p.base p.quote).debit p.maker p.escrow.token
    p.escrow.amount = c' at hbooks hpaid hlisted'
  have hpaid' : Solvent { c' with nextOrderId := c.freshId + 1 } _ :=
    hpaid.congr rfl rfl fun _ _ => ⟨rfl, rfl⟩
  have hbook : (c'.books (computeBookKey p.base p.quote)).isInitialized = true := by
    rw [hbooks]
    exact c.isInitialized_ensurePair spec p.quote hvalid.base_ne_zero
  obtain ⟨hbase, hquote⟩ := hlisted.tokens_ensurePair spec p.quote hvalid.base_ne_zero
  rw [← hbooks] at hbase hquote
  have hescrow : (p.order c.freshId).escrow (c'.books (computeBookKey p.base p.quote)) =
      p.escrow := by
    unfold Order.escrow
    rw [hbase, hquote]
    rfl
  have hcommitted := @Solvent.commit _ _ listing _ (p.order c.freshId) hpaid' hlisted' hbook spec
  unfold DexCore.placed
  rw [hc']
  refine hcommitted.mono fun token => ?_
  have htoken : escrowToken (c'.books (computeBookKey p.base p.quote)) (p.order c.freshId) =
      p.escrow.token := by
    rw [← Order.escrow_token, hescrow]
  have hamount : (p.order c.freshId).escrowAmount (p.order c.freshId).remaining =
      p.escrow.amount := by
    rw [← Order.escrow_amount, hescrow]
  show c.holdings token + (c'.holdings token - (c.ensurePair spec p.base p.quote).holdings token) -
    inToken _ _ token + inToken (escrowToken (c'.books (computeBookKey p.base p.quote))
      (p.order c.freshId)) _ token ≤ c'.holdings token
  rw [htoken, hamount, hholdings]
  omega

omit [BookHash] in
/-- A cancelled order is refunded what it has in escrow. -/
theorem Solvent.cancelled {left right : List ℕ} {level : TickLevel} (h : Solvent c reserve)
    (hq : Queued c listing order left right) :
    Solvent (c.cancelled spec order level) reserve := by
  obtain ⟨_, _, hbalances, _, _⟩ := c.unlinked_frame spec order level
  have hpaid := h.addBalance order.maker (escrowToken (c.books order.bookKey) order)
    (order.escrowAmount order.remaining)
  have hself : (c.cancelled spec order level).orders order.orderId = OrderRecord.absent :=
    (DexCore.orders_setRecord _ _ _ _).trans (if_pos rfl)
  have hempty : ((c.cancelled spec order level).orders order.orderId).order.remaining = 0 := by
    rw [hself]
    rfl
  have hreplaced := @Solvent.replaceOrder _ (c.cancelled spec order level) _ hpaid order.orderId
    (by
      unfold DexCore.cancelled DexCore.addBalance
      simp only [order.escrow_token, order.escrow_amount]
      show (DexCore.setBalance _ _ _ _).balances = (DexCore.setBalance _ _ _ _).balances
      unfold DexCore.setBalance
      rw [hbalances])
    (fun key => ⟨(c.pair_unlinked spec order level key).1,
      (c.pair_unlinked spec order level key).2.1⟩)
    (fun other hne => by
      have hrecord : (c.cancelled spec order level).orders other =
          (c.unlinked spec order level).orders other :=
        (DexCore.orders_setRecord _ _ _ _).trans (if_neg hne)
      rw [hrecord]
      exact (OrderRecord.contents_fields (c.contents_unlinked spec order level other)).2.2)
    (fun hpos => absurd hempty hpos.ne')
  refine hreplaced.mono fun token => ?_
  have hold : ((c.addBalance order.maker (escrowToken (c.books order.bookKey) order)
      (order.escrowAmount order.remaining)).escrowed order.orderId token : ℤ) = _ :=
    DexCore.escrowed_eq (congrArg Order.contents hq.record) token
  rw [DexCore.escrowed_zero hempty, hold]
  omega

omit [BookHash] in
/-- The last step of a swap or a withdrawal: what is owed is paid out. -/
theorem Solvent.payout (h : Solvent c fun other => c.holdings other - inToken token amount other)
    (hfunds : amount ≤ c.ledger token stablecoinDexAddress) :
    Solvent { c with ledger := c.ledger.move token stablecoinDexAddress user amount }
      (DexCore.holdings
        { c with ledger := c.ledger.move token stablecoinDexAddress user amount }) :=
  Solvent.congr (h.mono (DexCore.holdings_payout hfunds)) rfl rfl fun _ _ => ⟨rfl, rfl⟩

variable {sender : Address}

section Swaps

variable (hspec : ctx.spec.isT5 = true) (hsender : sender ≠ stablecoinDexAddress)
  (hlisted : Listed s listing) (h : Solvent s s.holdings)

include hspec hsender hlisted h

theorem swapExactAmountIn_solvent {amountIn minAmountOut amountOut : ℕ}
    (hrun : swapExactAmountIn ctx sender tokenIn tokenOut amountIn minAmountOut s =
      .ok amountOut s') :
    ∃ listing', Listed s' listing' ∧ Solvent s' s'.holdings := by
  obtain ⟨hops, t, t', deltas, hpath, hdebit, hfill, hpayout, hcore⟩ :=
    swapExactAmountIn_ok hrun
  obtain ⟨_, hroute, _⟩ := findTradePath_ok hpath
  obtain ⟨hbooks, horders, hkeys, hnextId⟩ := s.debit_frame sender tokenIn amountIn
  have hpaid := h.debit hsender tokenIn amountIn
  rw [← hdebit] at hbooks horders hkeys hnextId hpaid
  have hroute' : Route t tokenIn tokenOut hops := by
    refine hroute.mono fun key hkey => ?_
    rw [hbooks]
    exact hkey
  obtain ⟨listing', hlisted', hledger, hfilled⟩ := hroute'.solvent_exactIn hspec
    (hlisted.congr hbooks horders hkeys hnextId.ge)
    (hpaid.mono fun token => show _ ≤ t.holdings token - inToken tokenIn amountIn token by omega)
    hfill
  rw [hcore]
  refine ⟨listing', hlisted'.congr rfl rfl rfl le_rfl, Solvent.payout ?_ hpayout⟩
  refine hfilled.mono fun token => le_of_eq ?_
  unfold DexCore.holdings
  rw [hledger]

theorem swapExactAmountOut_solvent {amountOut maxAmountIn amountIn : ℕ}
    (hrun : swapExactAmountOut ctx sender tokenIn tokenOut amountOut maxAmountIn s =
      .ok amountIn s') :
    ∃ listing', Listed s' listing' ∧ Solvent s' s'.holdings := by
  obtain ⟨hops, t, t', deltas, hpath, hfill, hdebit, hpayout, hcore⟩ :=
    swapExactAmountOut_ok hrun
  obtain ⟨_, hroute, _⟩ := findTradePath_ok hpath
  -- The output is set aside first, so the fills are asked for what is already owed.
  have haside : Solvent s fun token =>
      s.holdings token - inToken tokenOut amountOut token + inToken tokenOut amountOut token :=
    h.mono fun token => by omega
  obtain ⟨listing', hlisted', hledger, hfilled⟩ :=
    hroute.solvent_exactOut hspec hlisted haside hfill
  have hpaid := hfilled.debit hsender tokenIn amountIn
  obtain ⟨hbooks, horders, hkeys, hnextId⟩ := t.debit_frame sender tokenIn amountIn
  rw [← hdebit] at hbooks horders hkeys hnextId hpaid
  rw [hcore]
  refine ⟨listing', hlisted'.congr hbooks horders hkeys hnextId.ge, Solvent.payout ?_ hpayout⟩
  refine hpaid.mono fun token => ?_
  have hsame : t.holdings token = s.holdings token := by
    unfold DexCore.holdings
    rw [hledger]
  show s.holdings token - inToken tokenOut amountOut token + inToken tokenIn amountIn token +
    (t'.holdings token - t.holdings token) - inToken tokenIn amountIn token ≤ _
  omega

end Swaps

/-- Both ways of cancelling keep the DEX solvent. -/
theorem Cancelled.solvent {c' : DexCore} (hlisted : Listed c listing) (h : Solvent c c.holdings)
    (hcancelled : Cancelled spec c listing c') :
    ∃ listing', Listed c' listing' ∧ Solvent c' c'.holdings := by
  obtain ⟨order, left, right, level, hqueued, hlevel, rfl⟩ := hcancelled
  refine ⟨_, hqueued.cancelled hlisted hlevel, (h.cancelled hqueued).mono fun token => ?_⟩
  have hledger : (c.cancelled spec order level).ledger = c.ledger :=
    (c.unlinked_frame spec order level).2.2.2.1
  unfold DexCore.holdings
  rw [hledger]

/-- The account that a call takes payments from. -/
def DexCall.payer : DexCall → Option Address
  | .place sender _ _ _ _ => some sender
  | .placeFlip sender _ _ _ _ _ _ => some sender
  | .swapExactAmountIn sender _ _ _ _ => some sender
  | .swapExactAmountOut sender _ _ _ _ => some sender
  | .createPair _ => none
  | .cancel _ _ => none
  | .cancelStaleOrder _ => none
  | .withdraw _ _ _ => none
  | .setBookIndex _ => none

theorem DexCall.keeps_solvent {call : DexCall} (hspec : ctx.spec.isT5 = true)
    (hpayer : call.payer ≠ some stablecoinDexAddress) (hlisted : Listed s listing)
    (h : Solvent s s.holdings) (hrun : call.run ctx s = .ok () s') :
    ∃ listing', Listed s' listing' ∧ Solvent s' s'.holdings := by
  cases call with
  | createPair base =>
    obtain ⟨key, hcreate⟩ := discard_ok.mp hrun
    obtain ⟨rfl, hnew, hcore⟩ := createPair_core hcreate
    rw [hcore]
    exact ⟨listing, hlisted.withPair hnew fun i hi => bookIdIndex_new hi, h.withPair hnew _⟩
  | place sender token amount isBid tick =>
    obtain ⟨orderId, hplace⟩ := discard_ok.mp hrun
    obtain ⟨hvalid, hcore⟩ := place_core hplace
    rw [hcore]
    exact ⟨_, hlisted.placed hvalid ctx.spec,
      h.placed hlisted hvalid fun heq => hpayer (congrArg some heq)⟩
  | placeFlip sender token amount isBid tick flipTick internalBalanceOnly =>
    obtain ⟨orderId, hplace⟩ := discard_ok.mp hrun
    obtain ⟨hvalid, hcore⟩ := placeFlip_core hplace
    rw [hcore]
    exact ⟨_, hlisted.placed hvalid ctx.spec,
      h.placed hlisted hvalid fun heq => hpayer (congrArg some heq)⟩
  | cancel sender orderId => exact (cancel_core hlisted hrun).solvent hlisted h
  | cancelStaleOrder orderId => exact (cancelStaleOrder_core hlisted hrun).solvent hlisted h
  | swapExactAmountIn sender tokenIn tokenOut amountIn minAmountOut =>
    obtain ⟨amountOut, hswap⟩ := discard_ok.mp hrun
    exact swapExactAmountIn_solvent hspec (fun heq => hpayer (congrArg some heq)) hlisted h hswap
  | swapExactAmountOut sender tokenIn tokenOut amountOut maxAmountIn =>
    obtain ⟨amountIn, hswap⟩ := discard_ok.mp hrun
    exact swapExactAmountOut_solvent hspec (fun heq => hpayer (congrArg some heq)) hlisted h
      hswap
  | withdraw user token amount =>
    obtain ⟨hbalance, hfunds, hcore⟩ := withdraw_core hrun
    rw [hcore]
    exact ⟨listing, hlisted.congr rfl rfl rfl le_rfl, (h.subBalance hbalance).payout hfunds⟩
  | setBookIndex index =>
    rcases setBookIndex_core hrun with rfl | ⟨bookKey, hkey, hcore⟩
    · exact ⟨listing, hlisted, h⟩
    · rw [hcore]
      refine ⟨listing, hlisted.setBookId hkey, ?_⟩
      exact h.congr rfl rfl fun key _ => ⟨DexCore.project_setBook _ _ _ Orderbook.base rfl,
        DexCore.project_setBook _ _ _ Orderbook.quote rfl⟩

omit [BookHash] in
theorem solvent_genesis (ledger : Ledger) :
    Solvent (DexCore.genesis ledger) (DexCore.genesis ledger).holdings where
  backed := by
    intro token
    refine (backed_zero (Int.natCast_nonneg _)).of_le fun i => ?_
    cases i with
    | inl user => exact le_rfl
    | inr id => exact (DexCore.escrowed_zero rfl token).le
  created := fun id hpos => absurd hpos (Nat.lt_irrefl 0)

/-- What users can do from T5 on: any call, paid for by an account that is not the
DEX itself. -/
def UserCall (ctx : Context) (call : DexCall) : Prop :=
  ctx.spec.isT5 = true ∧ call.payer ≠ some stablecoinDexAddress

theorem Reachable.solvent (h : Reachable UserCall DexState.Unused s) :
    ∃ listing, Listed s listing ∧ Solvent s s.holdings := by
  induction h with
  | start hs =>
    obtain ⟨ledger, hcore⟩ := hs
    rw [hcore]
    exact ⟨_, listed_genesis ledger, solvent_genesis ledger⟩
  | call _ hallowed hrun ih =>
    obtain ⟨listing, hlisted, hsolvent⟩ := ih
    exact DexCall.keeps_solvent hallowed.1 hallowed.2 hlisted hsolvent hrun
  | transfers _ hledger ih =>
    obtain ⟨listing, hlisted, hsolvent⟩ := ih
    refine ⟨listing, hlisted.congr rfl rfl rfl le_rfl, ?_⟩
    refine Solvent.congr (hsolvent.mono fun token => ?_) rfl rfl fun _ _ => ⟨rfl, rfl⟩
    exact Int.ofNat_le.mpr (hledger token)

/-- Internal balances are never stuck: in every state that users reach from T5 on, a withdrawal
succeeds exactly if the balance covers it and the token layer lets the DEX pay the user. -/
theorem reachable_withdraw_succeeds (hreach : Reachable UserCall DexState.Unused s) :
    (∃ s', withdraw ctx user token amount s = .ok () s') ↔
      amount ≤ s.balances user token ∧ fromAddress token = .ok () ∧ ∃ ledger ledger',
        transfer ctx.spec ctx.env ledger token stablecoinDexAddress user amount = .ok ledger' := by
  obtain ⟨_, _, hsolvent⟩ := hreach.solvent
  have hfunds := Int.ofNat_le.mp ((hsolvent.backed token).le (.inl user))
  simp only [withdraw, balanceOf, subBalance, setBalance, transferTo, moveTokens, transfer,
    bind_assoc, pure_bind, get_bind_ok, require_bind_ok, okOr_bind_ok, modify_bind_ok,
    liftToken_bind_ok, modify_ok, checkedSub_eq_some, except_bind_ok]
  constructor
  · rintro ⟨_, hle, _, -, _, htoken, _, htransfer, -⟩
    exact ⟨hle, htoken, _, _, htransfer⟩
  · rintro ⟨hle, htoken, _, _, _, hpaused, _, hauthorized, _, hgate, -⟩
    exact ⟨_, hle, _, ⟨hle, rfl⟩, _, htoken, _, ⟨_, hpaused, _, hauthorized, _, hgate,
      if_neg (Nat.not_lt.mpr (hle.trans hfunds))⟩, rfl⟩

omit [BookHash] in
/-- The maker of a plain bid takes out what the swap sold it. -/
theorem reachable_withdraw_succeeds_maker :
    letI := BookHash.pairing
    let ctx : Context := ⟨.T12, .permissive pathUsdAddress, 3⟩
    ∃ s s', runCalls ctx (twoBooks ++ [swapSample]) fundedDex = .ok () s ∧
      s.balances 8 (pathUsdAddress + 1) = 150000000 ∧
      withdraw ctx 8 (pathUsdAddress + 1) 150000000 s = .ok () s' := by
  let := BookHash.pairing
  intro ctx
  have hreturned : returned ((do
      runCalls ctx (twoBooks ++ [swapSample])
      let s ← get
      require (s.balances 8 (pathUsdAddress + 1) = 150000000) .underOverflow : DexM Unit)
      fundedDex) = true := by decide +kernel
  obtain ⟨_, _, hrun⟩ := returned_iff.mp hreturned
  obtain ⟨_, s, hcalls, hrun⟩ := bind_ok.mp hrun
  obtain ⟨hbalance, -⟩ := require_ok.mp hrun
  have hreach : Reachable UserCall DexState.Unused s :=
    Reachable.runCalls (.start ⟨_, rfl⟩) (by simp [twoBooks, swapSample, UserCall]; decide) hcalls
  have hwithdraw : ∃ s', withdraw ctx 8 (pathUsdAddress + 1) 150000000 s = .ok () s' :=
    (reachable_withdraw_succeeds hreach).mpr
      ⟨hbalance.ge, rfl, fun _ _ => 150000000, _, rfl⟩
  obtain ⟨s', hwithdraw⟩ := hwithdraw
  exact ⟨s, s', hcalls, hbalance, hwithdraw⟩

/-- Solvency: in every state that users reach from T5 on, and for every token, the
DEX holds at least the internal balances of any set of users and the escrow of any
set of orders together. -/
theorem reachable_dex_solvent (hreach : Reachable UserCall DexState.Unused s) (token : Address)
    (users : Finset Address) (ids : Finset ℕ) :
    ∑ user ∈ users, s.balances user token + ∑ id ∈ ids, s.escrowed id token ≤
      s.ledger token stablecoinDexAddress := by
  obtain ⟨_, _, hsolvent⟩ := hreach.solvent
  have hbacked := hsolvent.backed token (users.disjSum ids)
  rw [Finset.sum_disjSum] at hbacked
  exact Int.ofNat_le.mp hbacked

end Calls

/-- The sample flip order is placed and bought, and flips. -/
theorem reachable_dex_solvent_flip :
    letI := BookHash.pairing
    ∃ s s', placeFlipSample.run ⟨.T5, .permissive pathUsdAddress, 0⟩ fundedDex = .ok () s ∧
      (DexCall.swapExactAmountIn 7 pathUsdAddress (pathUsdAddress + 1) 100010000 0).run
        ⟨.T12, .permissive pathUsdAddress, 0⟩ s = .ok () s' ∧
      s'.balances 9 pathUsdAddress + s'.escrowed 1 pathUsdAddress ≤
        s'.ledger pathUsdAddress stablecoinDexAddress := by
  let := BookHash.pairing
  have hreturned : returned ((placeFlipSample.run ⟨.T5, .permissive pathUsdAddress, 0⟩ >>=
      fun _ => (DexCall.swapExactAmountIn 7 pathUsdAddress (pathUsdAddress + 1) 100010000 0).run
        ⟨.T12, .permissive pathUsdAddress, 0⟩) fundedDex) = true := by decide +kernel
  obtain ⟨_, s', hrun⟩ := returned_iff.mp hreturned
  obtain ⟨_, s, hplace, hswap⟩ := bind_ok.mp hrun
  have hreach : Reachable UserCall DexState.Unused s' :=
    .call (.call (.start ⟨_, rfl⟩) ⟨by decide, by decide⟩ hplace) ⟨by decide, by decide⟩ hswap
  refine ⟨s, s', hplace, hswap, ?_⟩
  have hsolvent := reachable_dex_solvent hreach pathUsdAddress {9} {1}
  exact hsolvent

end Monotempo.Dex
