/-
  What the calls of the DEX do to its storage, from T5 on.

  One lemma for each call that is not a swap: if it succeeds, the core of the new
  state is the named change of the core of the old one.  Each named change keeps
  the state well formed.
-/
import Monotempo.Dex.Settlement
import Monotempo.Dex.Swap

set_option autoImplicit false

namespace Monotempo.Dex

open Chain Foundation Function

variable {orderId id : ℕ} {sender : Address}

/-! ## Payments -/

/-- A payment to the DEX: from the internal balance, or else all of that and the
rest from the wallet. -/
def DexCore.debit (c : DexCore) (user token : Address) (amount : ℕ) : DexCore :=
  if amount ≤ c.balances user token then
    c.setBalance user token (c.balances user token - amount)
  else
    DexCore.setBalance
      { c with
        ledger := c.ledger.move token user stablecoinDexAddress
          (amount - c.balances user token) }
      user token 0

/-- A withdrawal: the internal balance goes to the wallet. -/
def DexCore.paidOut (c : DexCore) (user token : Address) (amount : ℕ) : DexCore :=
  { c.setBalance user token (c.balances user token - amount) with
    ledger := c.ledger.move token stablecoinDexAddress user amount }

theorem DexCore.debit_frame (c : DexCore) (user token : Address) (amount : ℕ) :
    (c.debit user token amount).books = c.books ∧
      (c.debit user token amount).orders = c.orders ∧
      (c.debit user token amount).bookKeys = c.bookKeys ∧
      (c.debit user token amount).nextOrderId = c.nextOrderId := by
  unfold debit
  split <;> exact ⟨rfl, rfl, rfl, rfl⟩

section Payments

variable {ctx : Context} {s s' : DexState} {user token : Address} {amount : ℕ} {u : Unit}

theorem decrementBalanceOrTransferFrom_core {checkPause : Bool}
    (h : decrementBalanceOrTransferFrom ctx user token amount checkPause s = .ok u s') :
    s'.toDexCore = s.debit user token amount := by
  unfold DexCore.debit
  rcases decrementBalanceOrTransferFrom_ok h with ⟨hle, hcore⟩ | ⟨hless, _, hcore⟩
  · rw [if_pos hle]
    exact hcore
  · rw [if_neg (Nat.not_le.mpr hless)]
    exact hcore

theorem withdraw_core [BookHash] (h : withdraw ctx user token amount s = .ok u s') :
    amount ≤ s.balances user token ∧
      amount ≤ s.ledger token stablecoinDexAddress ∧
      s'.toDexCore = s.paidOut user token amount := by
  unfold withdraw balanceOf transferTo at h
  simp only [bind_ok, get_ok, pure_ok, require_ok] at h
  obtain ⟨_, _, ⟨_, _, ⟨rfl, rfl⟩, rfl, rfl⟩, _, _, ⟨hle, rfl⟩, _, t, hsub, hmove⟩ := h
  obtain ⟨_, hcore⟩ := subBalance_ok hsub
  obtain ⟨hfunds, hmoved⟩ := moveTokens_ok hmove
  rw [hcore] at hfunds hmoved
  exact ⟨hle, hfunds, hmoved⟩

end Payments

/-! ## Pairs -/

variable {token : Address} {u : Unit}

section Pairs

theorem ne_zero_of_fromAddress (h : fromAddress token = .ok ()) :
    token ≠ 0 := by
  rintro rfl
  exact nomatch h

theorem bookIdIndex_new {spec : TempoHardfork} {length i : ℕ}
    (h : bookIdIndex (if spec.isT8 then length + 1 else 0) = some i) : i = length := by
  split at h
  · exact (Option.some.inj h).symm
  · exact nomatch h

variable [BookHash] {ctx : Context} {s s' : DexState} {c : DexCore} {listing : Listing}
  {base quote : Address}

/-- The DEX with the pair of the two tokens. -/
def DexCore.ensurePair (c : DexCore) (spec : TempoHardfork) (base quote : Address) : DexCore :=
  if (c.books (computeBookKey base quote)).isInitialized then c
  else c.withPair (computeBookKey base quote) base quote
    (if spec.isT8 then c.bookKeys.length + 1 else 0)

theorem createPair_core {bookKey : B256} (h : createPair ctx base s = .ok bookKey s') :
    bookKey = computeBookKey base (ctx.env.quoteToken base) ∧
      (s.books bookKey).isInitialized = false ∧
      s'.toDexCore = s.withPair bookKey base (ctx.env.quoteToken base)
        (if ctx.spec.isT8 then s.bookKeys.length + 1 else 0) := by
  unfold createPair at h
  simp only [bind_ok, get_ok, pure_ok, require_ok, liftToken_ok, modify_ok] at h
  obtain ⟨_, _, ⟨_, rfl⟩, _, _, ⟨_, rfl⟩, _, _, ⟨_, rfl⟩, _, _, ⟨_, rfl⟩, _, _, ⟨rfl, rfl⟩,
    _, _, ⟨hnew, rfl⟩, _, _, rfl, _, _, rfl, rfl, rfl⟩ := h
  exact ⟨rfl, by simpa using hnew, rfl⟩

theorem validateOrCreatePair_core (h : validateOrCreatePair ctx
      (s.books (computeBookKey token (ctx.env.quoteToken token))) token s = .ok u s') :
    s'.toDexCore = s.ensurePair ctx.spec token (ctx.env.quoteToken token) := by
  unfold validateOrCreatePair at h
  simp only [onlyIf_ok, bind_ok, pure_ok] at h
  unfold DexCore.ensurePair
  rcases h with ⟨hnew, bookKey, t, hcreate, _, rfl⟩ | ⟨hold, rfl⟩
  · obtain ⟨rfl, hnone, hcore⟩ := createPair_core hcreate
    rw [hnone]
    exact hcore
  · rw [if_pos (by simpa using hold)]

theorem Listed.ensurePair (h : Listed c listing) (spec : TempoHardfork) (base quote : Address) :
    Listed (c.ensurePair spec base quote) listing := by
  unfold DexCore.ensurePair
  split
  · exact h
  · rename_i hnew
    exact h.withPair (by simpa using hnew) fun i hi => bookIdIndex_new hi

theorem DexCore.isInitialized_ensurePair (c : DexCore) (spec : TempoHardfork) (quote : Address)
    (hbase : base ≠ 0) :
    ((c.ensurePair spec base quote).books (computeBookKey base quote)).isInitialized = true := by
  unfold ensurePair
  split
  · rename_i hold
    exact hold
  · have hself : (c.withPair (computeBookKey base quote) base quote
        (if spec.isT8 then c.bookKeys.length + 1 else 0)).books (computeBookKey base quote) =
        (c.books (computeBookKey base quote)).created base quote
          (if spec.isT8 then c.bookKeys.length + 1 else 0) :=
      books_setBook _ _ _
    rw [hself]
    simpa [Orderbook.isInitialized, Orderbook.created, Orderbook.new] using hbase

omit [BookHash] in
theorem setBookIndex_core {index : ℕ} (h : setBookIndex ctx index s = .ok u s') :
    s = s' ∨ ∃ bookKey, s.bookKeys[index]? = some bookKey ∧
      s'.toDexCore = s.setBook bookKey { s.books bookKey with bookId := index + 1 } := by
  unfold setBookIndex bookKeyForIndex bookKeyIndex at h
  simp only [bind_ok, get_ok, pure_ok, require_ok, okOr_ok] at h
  obtain ⟨bookKey, _, ⟨_, _, ⟨rfl, rfl⟩, hkey, rfl⟩, current, _, ⟨_, _, ⟨rfl, rfl⟩, _, _,
    ⟨_, rfl⟩, rfl, rfl⟩, h⟩ := h
  cases hindex : bookIdIndex (s.books bookKey).bookId with
  | some currentIndex =>
    simp only [hindex, require_ok] at h
    exact Or.inl h.2
  | none =>
    simp only [hindex, modify_ok] at h
    refine Or.inr ⟨bookKey, hkey, ?_⟩
    rw [h]
    rfl

end Pairs

/-! ## Placements -/

/-- What a placement asks for. -/
structure Placement where
  maker : Address
  base : Address
  quote : Address
  amount : ℕ
  isBid : Bool
  tick : ℤ
  isFlip : Bool
  flipTick : ℤ

namespace Placement

/-- What the order escrows. -/
def escrow (p : Placement) : Escrow := escrowOf p.base p.quote p.amount p.isBid p.tick

/-- The new order. -/
def order [BookHash] (p : Placement) (orderId : ℕ) : Order :=
  Order.new orderId p.maker (computeBookKey p.base p.quote) p.amount p.tick p.isBid p.isFlip
    p.flipTick

/-- The checks of a placement that its effect relies on. -/
structure Valid (p : Placement) : Prop where
  base_ne_zero : p.base ≠ 0
  tick_range : minTick ≤ p.tick ∧ p.tick ≤ maxTick
  amount_pos : 0 < p.amount

end Placement

/-- The id the next order gets. -/
def DexCore.freshId (c : DexCore) : ℕ := max c.nextOrderId 1

/-- The maker pays the escrow and the order is appended. -/
def DexCore.placed [BookHash] (c : DexCore) (spec : TempoHardfork) (p : Placement) : DexCore :=
  DexCore.commit
    { (c.ensurePair spec p.base p.quote).debit p.maker p.escrow.token p.escrow.amount with
      nextOrderId := c.freshId + 1 }
    spec (p.order c.freshId)

section Placements

variable [BookHash] {ctx : Context} {s s' : DexState} {c : DexCore} {listing : Listing}
  {spec : TempoHardfork} {p : Placement}

theorem DexCore.ensurePair_frame (c : DexCore) (spec : TempoHardfork) (base quote : Address) :
    (c.ensurePair spec base quote).orders = c.orders ∧
      (c.ensurePair spec base quote).balances = c.balances ∧
      (c.ensurePair spec base quote).nextOrderId = c.nextOrderId ∧
      (c.ensurePair spec base quote).ledger = c.ledger := by
  unfold ensurePair
  split <;> exact ⟨rfl, rfl, rfl, rfl⟩

omit [BookHash] in
theorem checkNonEscrowToken_ok {maker : Address}
    (h : checkNonEscrowToken ctx token maker s = .ok u s') : s = s' := by
  unfold checkNonEscrowToken at h
  simp only [bind_ok, liftToken_ok, onlyIf_ok] at h
  obtain ⟨_, _, ⟨_, rfl⟩, _, _, ⟨_, rfl⟩, ⟨_, _, rfl⟩ | ⟨_, rfl⟩⟩ := h
  · rfl
  · rfl

variable {internalBalanceOnly : Bool}

omit [BookHash] in
theorem debitFlipEscrow_core {escrow : Escrow}
    (h : debitFlipEscrow ctx sender escrow internalBalanceOnly s = .ok u s') :
    s'.toDexCore = s.debit sender escrow.token escrow.amount := by
  unfold debitFlipEscrow balanceOf at h
  split at h
  · simp only [bind_ok, get_ok, pure_ok, require_ok, liftToken_ok, onlyIf_ok] at h
    obtain ⟨_, _, ⟨_, rfl⟩, _, _, ⟨_, rfl⟩, _, t, hpause, _, _, ⟨_, _, ⟨rfl, rfl⟩, rfl, rfl⟩, _,
      _, ⟨hfunds, rfl⟩, hsub⟩ := h
    have hsame : s = t := by
      rcases hpause with ⟨_, _, hsame⟩ | ⟨_, hsame⟩
      · exact hsame
      · exact hsame
    subst hsame
    unfold DexCore.debit
    rw [if_pos hfunds]
    exact (subBalance_ok hsub).2
  · exact decrementBalanceOrTransferFrom_core h

/-- A placement: the pair is ensured, the maker pays, and the order is committed. -/
theorem placed_of_commit {t₁ t : DexState} (htoken : fromAddress p.base = .ok ())
    (hrange : minTick ≤ p.tick ∧ p.tick ≤ maxTick) (hamount : minOrderAmount ≤ p.amount)
    (hpair : t₁.toDexCore = s.ensurePair ctx.spec p.base p.quote)
    (hpaid : t.toDexCore = t₁.debit p.maker p.escrow.token p.escrow.amount)
    (h : commitOrderToBook ctx (p.order (max t.nextOrderId 1)) true
      (t.writeNextOrderId ctx.spec (max t.nextOrderId 1 + 1)) = .ok u s') :
    p.Valid ∧ s'.toDexCore = s.placed ctx.spec p := by
  refine ⟨⟨ne_zero_of_fromAddress htoken, hrange, Nat.lt_of_lt_of_le (by decide) hamount⟩, ?_⟩
  rw [hpair] at hpaid
  have hfresh : max t.nextOrderId 1 = s.freshId := by
    rw [hpaid, (DexCore.debit_frame _ _ _ _).2.2.2, (s.ensurePair_frame _ _ _).2.2.1]
    rfl
  rw [hfresh] at h
  rw [(commitOrderToBook_core h).1]
  show DexCore.commit { t.toDexCore with nextOrderId := _ } _ _ = _
  rw [hpaid]
  rfl

variable {amount : ℕ} {isBid : Bool}

theorem place_core {tick : ℤ} (h : place ctx sender token amount isBid tick s = .ok orderId s') :
    let p : Placement :=
      ⟨sender, token, ctx.env.quoteToken token, amount, isBid, tick, false, 0⟩
    p.Valid ∧ s'.toDexCore = s.placed ctx.spec p := by
  obtain ⟨_, htoken, h⟩ := liftToken_bind_ok.mp h
  rw [get_bind_ok] at h
  obtain ⟨_, t₁, hpair, h⟩ := bind_ok.mp h
  simp only [require_bind_ok] at h
  obtain ⟨hrange, _, hamount, h⟩ := h
  obtain ⟨escrow, _, hescrow, h⟩ := bind_ok.mp h
  obtain ⟨_, _, hcheck, h⟩ := bind_ok.mp h
  obtain ⟨_, t₂, hdebit, h⟩ := bind_ok.mp h
  simp only [bind_ok, pure_ok] at h
  obtain ⟨_, _, ⟨_, _, ⟨rfl, rfl⟩, rfl, rfl⟩, _, t₃, ⟨_, _, ⟨_, _, ⟨rfl, rfl⟩, rfl, rfl⟩, rfl⟩, _,
    t₄, hcommit, rfl, rfl⟩ := h
  obtain ⟨rfl, rfl⟩ := escrowFor_ok hescrow
  obtain rfl := checkNonEscrowToken_ok hcheck
  have hdebited := decrementBalanceOrTransferFrom_core hdebit
  have hensured := validateOrCreatePair_core hpair
  cases isBid with
  | true | false => exact placed_of_commit htoken hrange hamount hensured hdebited hcommit

theorem placeFlip_core {tick flipTick : ℤ}
    (h : placeFlip ctx sender token amount isBid tick flipTick internalBalanceOnly s =
      .ok orderId s') :
    let p : Placement :=
      ⟨sender, token, ctx.env.quoteToken token, amount, isBid, tick, true, flipTick⟩
    p.Valid ∧ s'.toDexCore = s.placed ctx.spec p := by
  obtain ⟨_, htoken, h⟩ := liftToken_bind_ok.mp h
  rw [atomically_ok, get_bind_ok] at h
  obtain ⟨_, t₁, hpair, h⟩ := bind_ok.mp h
  simp only [require_bind_ok] at h
  obtain ⟨hrange, _, _, _, _, hamount, h⟩ := h
  obtain ⟨escrow, _, hescrow, h⟩ := bind_ok.mp h
  obtain ⟨_, _, hcheck, h⟩ := bind_ok.mp h
  obtain ⟨_, t₂, hdebit, h⟩ := bind_ok.mp h
  simp only [bind_ok, pure_ok, okOr_ok, modify_ok] at h
  obtain ⟨_, _, ⟨_, _, ⟨rfl, rfl⟩, rfl, rfl⟩, order, _, ⟨hnew, rfl⟩, _, t₃, rfl, _, t₄, hcommit,
    rfl, rfl⟩ := h
  obtain ⟨rfl, rfl⟩ := escrowFor_ok hescrow
  obtain rfl := checkNonEscrowToken_ok hcheck
  rw [Order.newFlip_eq hnew] at hcommit
  exact placed_of_commit htoken hrange hamount (validateOrCreatePair_core hpair)
    (debitFlipEscrow_core hdebit) hcommit

/-- The order a placement is about to commit is on no queue. -/
theorem Listed.freshId_notMem (h : Listed c listing) (bookKey : B256) (isBid : Bool)
    (tick : ℤ) : c.freshId ∉ listing bookKey isBid tick := by
  intro hmem
  have hlt := (h.record bookKey isBid tick _ hmem).2
  unfold DexCore.freshId at hlt
  omega

/-- The escrow of a placement leaves the listing as it is. -/
theorem Listed.charged (h : Listed c listing) (spec : TempoHardfork) (p : Placement) :
    Listed { (c.ensurePair spec p.base p.quote).debit p.maker p.escrow.token p.escrow.amount with
      nextOrderId := c.freshId + 1 } listing := by
  have hnextId : (c.ensurePair spec p.base p.quote).nextOrderId ≤ c.freshId + 1 := by
    rw [(c.ensurePair_frame spec p.base p.quote).2.2.1]
    unfold DexCore.freshId
    omega
  obtain ⟨hbooks, horders, hkeys, _⟩ := (c.ensurePair spec p.base p.quote).debit_frame p.maker
    p.escrow.token p.escrow.amount
  exact (h.ensurePair spec p.base p.quote).congr hbooks horders hkeys hnextId

theorem Listed.placed (h : Listed c listing) (hvalid : p.Valid) (spec : TempoHardfork) :
    Listed (c.placed spec p) (listing.append (p.order c.freshId)) := by
  refine (h.charged spec p).commit ?_ h.freshId_notMem (Nat.lt_succ_self _) ?_ hvalid.amount_pos
    le_rfl rfl rfl (fun _ => hvalid.tick_range)
  · show c.freshId ≠ 0
    unfold DexCore.freshId
    omega
  · show (((c.ensurePair spec p.base p.quote).debit _ _ _).books _).isInitialized = true
    rw [(DexCore.debit_frame _ _ _ _).1]
    exact c.isInitialized_ensurePair spec p.quote hvalid.base_ne_zero

end Placements

/-! ## Cancellations -/

/-- Point an order at a new neighbour; the id zero stands for no order. -/
def DexCore.relink (c : DexCore) (id : ℕ) (field : OrderField) (value : ℕ) : DexCore :=
  if id = 0 then c else c.setRecord id ((c.orders id).setField field value)

/-- The book after a tick lost its last order. -/
def Orderbook.clearTick (book : Orderbook) (isBid : Bool) (tick : ℤ) : Orderbook :=
  let bitmap := TickBitmap.deleteTickBit (book.bitmap isBid) tick
  let found := TickBitmap.nextInitializedTick bitmap tick isBid
  { book with
    bitmap := update book.bitmap isBid bitmap
    bestTick :=
      if book.bestTick isBid = tick then
        update book.bestTick isBid (if found.2 then found.1 else noTick isBid)
      else book.bestTick }

/-- An order has been taken out of its queue; `level` is what is left of its level. -/
def DexCore.unlinked (c : DexCore) (spec : TempoHardfork) (order : Order) (level : TickLevel) :
    DexCore :=
  let linked := (c.relink order.prev .next order.next).relink order.next .prev order.prev
  let cleared :=
    if level.head = 0 then
      linked.setBook order.bookKey
        ((linked.books order.bookKey).clearTick order.isBid order.tick)
    else linked
  if spec.isT12 = false ∨ order.prev = 0 ∨ order.next = 0 then
    cleared.setLevel order.bookKey order.isBid order.tick
      (storedLevel spec ((c.books order.bookKey).level order.isBid order.tick) level)
  else cleared

/-- What the order in hand still has in escrow. -/
def Order.escrow (order : Order) (book : Orderbook) : Escrow :=
  escrowOf book.base book.quote order.remaining order.isBid order.tick

/-- A cancelled order has left the DEX and its escrow is refunded. -/
def DexCore.cancelled (c : DexCore) (spec : TempoHardfork) (order : Order) (level : TickLevel) :
    DexCore :=
  let escrow := order.escrow (c.books order.bookKey)
  ((c.unlinked spec order level).addBalance order.maker escrow.token escrow.amount).setRecord
    order.orderId OrderRecord.absent

/-- The level of an order without it. -/
structure LevelWithout (spec : TempoHardfork) (order : Order) (old level : TickLevel) :
    Prop where
  head : level.head = if order.prev ≠ 0 then old.head else order.next
  tail : level.tail = if order.next ≠ 0 then old.tail else order.prev
  total : spec.isT12 = false → level.totalLiquidity + order.remaining = old.totalLiquidity

section Cancellations

variable {ctx : Context} {s s' : DexState} {c : DexCore} {listing : Listing}
  {spec : TempoHardfork} {order : Order} {level : TickLevel}

theorem relink_core {value : ℕ} {field : OrderField}
    (h : onlyIf (id ≠ 0) (unlinkNeighborAndCreditMaker spec id field value) s = .ok u s') :
    s'.toDexCore = s.relink id field value := by
  unfold DexCore.relink
  rw [onlyIf_ok] at h
  rcases h with ⟨hne, hrun⟩ | ⟨hzero, rfl⟩
  · rw [if_neg hne]
    exact unlinkNeighborAndCreditMaker_core hrun
  · rw [if_pos (not_not.mp hzero)]

theorem retireTick_core (h : retireTick ctx order s = .ok u s') :
    s'.toDexCore = s.setBook order.bookKey
      ((s.books order.bookKey).clearTick order.isBid order.tick) := by
  unfold retireTick at h
  simp only [bind_ok, get_ok, onlyIf_ok] at h
  obtain ⟨_, t, hbit, _, _, ⟨rfl, rfl⟩, hbest⟩ := h
  have hcleared := deleteTickBit_core hbit
  have hold : (t.books order.bookKey).bestTick = (s.books order.bookKey).bestTick := by
    rw [hcleared]
    simp [DexCore.setBitmap]
  unfold Orderbook.clearTick
  rw [hold] at hbest
  rcases hbest with ⟨hsame, found, _, hfound, hbest⟩ | ⟨hother, rfl⟩
  · obtain ⟨rfl, rfl⟩ := nextInitializedTick_ok hfound
    rw [writeBestTick_core hbest, hcleared]
    simp [DexCore.setBestTick, DexCore.setBitmap, hsame]
  · rw [hcleared]
    simp [DexCore.setBitmap, hother]

/-- Unlinking keeps the tokens and the index of every book, and everything but the
books and the orders. -/
theorem DexCore.relink_frame (c : DexCore) (id : ℕ) (field : OrderField) (value : ℕ) :
    (c.relink id field value).books = c.books ∧
      (c.relink id field value).bookKeys = c.bookKeys ∧
      (c.relink id field value).nextOrderId = c.nextOrderId ∧
      (c.relink id field value).balances = c.balances ∧
      (c.relink id field value).ledger = c.ledger := by
  unfold relink
  split <;> exact ⟨rfl, rfl, rfl, rfl, rfl⟩

theorem DexCore.orders_relink (c : DexCore) (id : ℕ) (field : OrderField) (value y : ℕ) :
    (c.relink id field value).orders y =
      if id ≠ 0 ∧ y = id then (c.orders y).setField field value else c.orders y := by
  unfold relink
  by_cases hzero : id = 0
  · rw [if_pos hzero, if_neg (fun hboth => hboth.1 hzero)]
  · rw [if_neg hzero, orders_setRecord]
    by_cases hy : y = id
    · subst hy
      rw [if_pos rfl, if_pos ⟨hzero, rfl⟩]
    · rw [if_neg hy, if_neg (fun hboth => hy hboth.2)]

section Unlinking

variable (c spec order level)

theorem DexCore.unlinked_frame :
    (c.unlinked spec order level).bookKeys = c.bookKeys ∧
      (c.unlinked spec order level).nextOrderId = c.nextOrderId ∧
      (c.unlinked spec order level).balances = c.balances ∧
      (c.unlinked spec order level).ledger = c.ledger ∧
      (c.unlinked spec order level).orders =
        ((c.relink order.prev .next order.next).relink order.next .prev order.prev).orders := by
  obtain ⟨_, hkeys₁, hnext₁, hbalances₁, hledger₁⟩ := c.relink_frame order.prev .next order.next
  obtain ⟨_, hkeys₂, hnext₂, hbalances₂, hledger₂⟩ :=
    (c.relink order.prev .next order.next).relink_frame order.next .prev order.prev
  rw [← hkeys₁, ← hkeys₂, ← hnext₁, ← hnext₂, ← hbalances₁, ← hbalances₂, ← hledger₁, ← hledger₂]
  unfold unlinked
  split
  · split <;> exact ⟨rfl, rfl, rfl, rfl, rfl⟩
  · split <;> exact ⟨rfl, rfl, rfl, rfl, rfl⟩

theorem DexCore.books_relinked :
    ((c.relink order.prev .next order.next).relink order.next .prev order.prev).books =
      c.books := by
  rw [(relink_frame _ _ _ _).1, (relink_frame _ _ _ _).1]

theorem DexCore.books_unlinked :
    (c.unlinked spec order level).books order.bookKey =
      let book := c.books order.bookKey
      let cleared := if level.head = 0 then book.clearTick order.isBid order.tick else book
      if spec.isT12 = false ∨ order.prev = 0 ∨ order.next = 0 then
        cleared.setLevel order.isBid order.tick
          (storedLevel spec (book.level order.isBid order.tick) level)
      else cleared := by
  have hbooks := c.books_relinked order
  unfold unlinked
  simp only [hbooks]
  split
  · unfold setLevel
    rw [books_setBook]
    split
    · rw [books_setBook]
    · rw [hbooks]
  · split
    · rw [books_setBook]
    · rw [hbooks]

theorem DexCore.books_unlinked_of_ne {key : B256} (hkey : key ≠ order.bookKey) :
    (c.unlinked spec order level).books key = c.books key := by
  have hbooks := c.books_relinked order
  unfold unlinked
  simp only
  split
  · unfold setLevel
    rw [books_setBook_of_ne _ hkey]
    split
    · rw [books_setBook_of_ne _ hkey, hbooks]
    · rw [hbooks]
  · split
    · rw [books_setBook_of_ne _ hkey, hbooks]
    · rw [hbooks]

theorem DexCore.pair_unlinked (key : B256) :
    ((c.unlinked spec order level).books key).base = (c.books key).base ∧
      ((c.unlinked spec order level).books key).quote = (c.books key).quote ∧
      ((c.unlinked spec order level).books key).bookId = (c.books key).bookId := by
  by_cases hkey : key = order.bookKey
  · subst hkey
    rw [books_unlinked]
    split
    · split <;> exact ⟨rfl, rfl, rfl⟩
    · split <;> exact ⟨rfl, rfl, rfl⟩
  · rw [books_unlinked_of_ne _ _ _ _ hkey]
    exact ⟨rfl, rfl, rfl⟩

theorem DexCore.level_unlinked (key : B256) (side : Bool) (t : ℤ) :
    ((c.unlinked spec order level).books key).level side t =
      if (spec.isT12 = false ∨ order.prev = 0 ∨ order.next = 0) ∧
          key = order.bookKey ∧ side = order.isBid ∧ t = order.tick then
        storedLevel spec ((c.books order.bookKey).level order.isBid order.tick) level
      else (c.books key).level side t := by
  by_cases hkey : key = order.bookKey
  · subst hkey
    rw [books_unlinked]
    have hcleared : (if level.head = 0 then
        (c.books order.bookKey).clearTick order.isBid order.tick
        else c.books order.bookKey).level = (c.books order.bookKey).level := by
      split <;> rfl
    by_cases hwritten : spec.isT12 = false ∨ order.prev = 0 ∨ order.next = 0
    · rw [if_pos hwritten]
      unfold Orderbook.setLevel
      simp only [hcleared, update_apply, hwritten, true_and]
      by_cases hside : side = order.isBid
      · simp [hside, update_apply]
      · simp [hside]
    · rw [if_neg hwritten, hcleared, if_neg (fun hall => hwritten hall.1)]
  · rw [books_unlinked_of_ne _ _ _ _ hkey, if_neg (fun hall => hkey hall.2.1)]

/-- The bitmap and the best tick only change when the level was emptied. -/
theorem DexCore.ticks_unlinked :
    let book := (c.unlinked spec order level).books order.bookKey
    let cleared := if level.head = 0 then
        (c.books order.bookKey).clearTick order.isBid order.tick else c.books order.bookKey
    book.bitmap = cleared.bitmap ∧ book.bestTick = cleared.bestTick := by
  rw [books_unlinked]
  simp only
  split <;> exact ⟨rfl, rfl⟩

theorem DexCore.contents_unlinked (y : ℕ) :
    ((c.unlinked spec order level).orders y).contents = (c.orders y).contents := by
  rw [(c.unlinked_frame spec order level).2.2.2.2, orders_relink, orders_relink]
  split
  · split <;> rfl
  · split <;> rfl

end Unlinking

theorem OrderRecord.read_maker {record : OrderRecord} {bookKeys : List B256}
    (h : record.read bookKeys id none = .ok order) : order.maker = record.order.maker := by
  rcases record with ⟨version, bookIndex, stored⟩
  cases version with
  | legacy | v1 => rw [← Except.ok.inj h]
  | v2 =>
    simp only [OrderRecord.read] at h
    split at h
    · rw [← Except.ok.inj h]
    · exact nomatch h

variable [BookHash]

theorem cancelActiveOrder_core (h : cancelActiveOrder ctx order s = .ok u s') :
    ∃ level, LevelWithout ctx.spec order ((s.books order.bookKey).level order.isBid order.tick)
        level ∧
      s'.toDexCore = s.cancelled ctx.spec order level := by
  unfold cancelActiveOrder at h
  simp only [bind_ok] at h
  obtain ⟨old, _, hread, _, t₁, hprev, _, t₂, hnext, level, _, hliquidity, _, t₃, hretire, _, t₄,
    hwrite, _, t₅, hrefund, minted, t₆, hdelete, hcredit⟩ := h
  obtain ⟨rfl, rfl⟩ := readLevel_ok hread
  obtain ⟨rfl, hhead, htail, htotal⟩ := subLiquidity_ok hliquidity
  refine ⟨level, ⟨?_, ?_, ?_⟩, ?_⟩
  · rw [hhead, levelRead_head]
  · rw [htail, levelRead_tail]
  · intro hspec
    rw [htotal hspec, levelRead_total hspec]
  · have hlinked : t₂.toDexCore =
        (s.relink order.prev .next order.next).relink order.next .prev order.prev := by
      rw [relink_core hnext, relink_core hprev]
    have hcleared : t₃.toDexCore = if level.head = 0 then t₂.setBook order.bookKey
        ((t₂.books order.bookKey).clearTick order.isBid order.tick) else t₂.toDexCore := by
      rcases onlyIf_ok.mp hretire with ⟨hzero, hrun⟩ | ⟨hzero, rfl⟩
      · rw [if_pos hzero]
        exact retireTick_core hrun
      · rw [if_neg hzero]
    have hlevels : (t₃.books order.bookKey).level = (s.books order.bookKey).level := by
      have hbooks : t₂.books = s.books := by
        rw [hlinked, (DexCore.relink_frame _ _ _ _).1, (DexCore.relink_frame _ _ _ _).1]
      rw [hcleared]
      split
      · rw [DexCore.books_setBook, hbooks]
        rfl
      · rw [hbooks]
    have hunlinked : t₄.toDexCore = s.unlinked ctx.spec order level := by
      unfold DexCore.unlinked
      simp only [← hlinked, ← hcleared]
      rcases onlyIf_ok.mp hwrite with ⟨hcond, hrun⟩ | ⟨hcond, rfl⟩
      · rw [if_pos hcond, writeLevel_core hrun, hlevels]
      · rw [if_neg hcond]
    obtain ⟨hbase, hquote, _⟩ := s.pair_unlinked ctx.spec order level order.bookKey
    rw [creditDexStorageSlots_core hcredit, deleteOrder_core hdelete, refundEscrow_core hrefund,
      hunlinked, hbase, hquote]
    rfl

/-- An order that was read and has a maker is on the queue it names. -/
theorem Listed.read_ok (h : Listed c listing)
    (hread : (c.orders id).read c.bookKeys id none = .ok order) (hmaker : order.maker ≠ 0) :
    (c.orders order.orderId).order = order ∧
      order.orderId ∈ listing order.bookKey order.isBid order.tick := by
  rw [OrderRecord.read_maker hread] at hmaker
  have hmem := h.live id hmaker
  have hrecord := (h.record _ _ _ _ hmem).1
  rw [OrderRecord.read_eq hrecord none (fun _ hnone => nomatch hnone)] at hread
  obtain rfl := Except.ok.inj hread
  have hid : (c.orders id).order.orderId = id := hrecord.1
  rw [hid]
  exact ⟨rfl, hmem⟩

/-- Where an order stands in its queue. -/
structure Queued (c : DexCore) (listing : Listing) (order : Order) (left right : List ℕ) :
    Prop where
  record : (c.orders order.orderId).order = order
  queue : listing order.bookKey order.isBid order.tick = left ++ order.orderId :: right

namespace Queued

variable {left right : List ℕ} (hq : Queued c listing order left right) (h : Listed c listing)

include hq h

theorem pointers :
    order.prev = left.getLastD 0 ∧ order.next = right.headD 0 := by
  have hpointers := (h.side order.bookKey order.isBid).pointers hq.queue
  rw [show (c.side order.bookKey order.isBid).order order.orderId = order from hq.record]
    at hpointers
  exact hpointers

theorem mem_left (hprev : order.prev ≠ 0) : order.prev ∈ left := by
  rw [(hq.pointers h).1] at hprev ⊢
  exact getLastD_mem_of_ne hprev

theorem mem_right (hnext : order.next ≠ 0) : order.next ∈ right := by
  rw [(hq.pointers h).2] at hnext ⊢
  exact headD_mem_of_ne hnext

theorem zero_notMem :
    0 ∉ left ++ right := by
  have hzero := (h.side order.bookKey order.isBid).zero_notMem order.tick
  rw [hq.queue] at hzero
  simp only [List.mem_append, List.mem_cons, not_or] at hzero ⊢
  exact ⟨hzero.1, hzero.2.2⟩

theorem prev_eq_zero :
    order.prev = 0 ↔ left = [] := by
  rw [(hq.pointers h).1]
  exact getLastD_eq_iff_nil fun hmem => hq.zero_notMem h (List.mem_append_left _ hmem)

theorem next_eq_zero :
    order.next = 0 ↔ right = [] := by
  rw [(hq.pointers h).2]
  exact headD_eq_iff_nil fun hmem => hq.zero_notMem h (List.mem_append_right _ hmem)

/-- The records of a queue after its order has been taken out. -/
theorem orders_unlinked {y : ℕ} (hy : y ≠ 0) :
    ((c.unlinked spec order level).orders y).order =
      SideOk.relinked order y (c.orders y).order := by
  rw [(c.unlinked_frame spec order level).2.2.2.2, DexCore.orders_relink, DexCore.orders_relink]
  have hnodup := (h.side order.bookKey order.isBid).nodup order.tick
  rw [hq.queue] at hnodup
  unfold SideOk.relinked
  by_cases hprev : y = order.prev
  · have hnext : ¬ (order.next ≠ 0 ∧ y = order.next) := by
      rintro ⟨hzero, hsame⟩
      have hleft := hq.mem_left h (hprev ▸ hy)
      have hright := hq.mem_right h hzero
      rw [← hprev, hsame] at hleft
      exact (List.nodup_append.mp hnodup).2.2 _ hleft _ (List.mem_cons_of_mem _ hright) rfl
    rw [if_neg hnext, if_pos ⟨hprev ▸ hy, hprev⟩, if_pos hprev]
    rfl
  · have hprev' : ¬ (order.prev ≠ 0 ∧ y = order.prev) := fun hboth => hprev hboth.2
    rw [if_neg hprev', if_neg hprev]
    by_cases hnext : y = order.next
    · rw [if_pos ⟨hnext ▸ hy, hnext⟩, if_pos hnext]
      rfl
    · rw [if_neg (fun hboth => hnext hboth.2), if_neg hnext]

variable (hlevel : LevelWithout spec order
  ((c.books order.bookKey).level order.isBid order.tick) level)

include hlevel

theorem ends :
    level.head = (left ++ right).headD 0 ∧ level.tail = (left ++ right).getLastD 0 := by
  have hside := h.side order.bookKey order.isBid
  have hhead : ((c.books order.bookKey).level order.isBid order.tick).head =
      (left ++ order.orderId :: right).headD 0 := by
    rw [← hq.queue]
    exact hside.head order.tick
  have htail : ((c.books order.bookKey).level order.isBid order.tick).tail =
      (left ++ order.orderId :: right).getLastD 0 := by
    rw [← hq.queue]
    exact hside.tail order.tick
  rw [hlevel.head, hlevel.tail, hhead, htail]
  refine ⟨?_, ?_⟩
  · split
    · rename_i hprev
      obtain ⟨x, rest, hleft⟩ := List.exists_cons_of_ne_nil
        (fun hnil => hprev ((hq.prev_eq_zero h).mpr hnil))
      rw [hleft]
      rfl
    · rename_i hprev
      rw [(hq.prev_eq_zero h).mp (not_not.mp hprev), (hq.pointers h).2]
      rfl
  · split
    · rename_i hnext
      obtain ⟨x, rest, hright⟩ := List.exists_cons_of_ne_nil
        (fun hnil => hnext ((hq.next_eq_zero h).mpr hnil))
      rw [hright]
      simp
    · rename_i hnext
      rw [(hq.next_eq_zero h).mp (not_not.mp hnext), (hq.pointers h).1, List.append_nil]

/-- An empty list is recognised by its head. -/
theorem head_eq_zero :
    level.head = 0 ↔ left ++ right = [] := by
  rw [(hq.ends h hlevel).1]
  exact headD_eq_iff_nil (hq.zero_notMem h)

theorem side_cancelled :
    SideOk ((c.cancelled spec order level).side order.bookKey order.isBid) order.bookKey
      order.isBid (update (listing order.bookKey order.isBid) order.tick
        (left ++ right)) := by
  have hside := h.side order.bookKey order.isBid
  obtain ⟨hhead, htail⟩ := hq.ends h hlevel
  have hempty := hq.head_eq_zero h hlevel
  have hbooks : (c.cancelled spec order level).books = (c.unlinked spec order level).books := rfl
  -- A level that is not written has both neighbours, so its ends do not change.
  have hlinks : (((c.unlinked spec order level).books order.bookKey).level order.isBid
      order.tick).head = level.head ∧ (((c.unlinked spec order level).books order.bookKey).level
      order.isBid order.tick).tail = level.tail := by
    rw [DexCore.level_unlinked]
    split
    · exact ⟨storedLevel_head _ _, storedLevel_tail _ _⟩
    · rename_i hkeep
      have hends : order.prev ≠ 0 ∧ order.next ≠ 0 := by
        refine ⟨fun hprev => hkeep ⟨Or.inr (Or.inl hprev), rfl, rfl, rfl⟩,
          fun hnext => hkeep ⟨Or.inr (Or.inr hnext), rfl, rfl, rfl⟩⟩
      rw [hlevel.head, hlevel.tail, if_pos hends.1, if_pos hends.2]
      exact ⟨rfl, rfl⟩
  have hbitmap := (c.ticks_unlinked spec order level).1
  refine hside.unlink hq.queue ?_ ?_ ?_ ?_ ?_
  · intro t y hy hne
    have hzero : y ≠ 0 := (hside.resting t y hy).id_ne_zero
    rw [show (c.side order.bookKey order.isBid).order order.orderId = order from hq.record]
    have hrecord : ((c.unlinked spec order level).orders y).order =
        SideOk.relinked order y (c.orders y).order :=
      hq.orders_unlinked h hzero
    refine Eq.trans ?_ hrecord
    show (((c.unlinked spec order level).setRecord order.orderId _).orders y).order = _
    rw [DexCore.orders_setRecord, if_neg hne]
  · show (((c.cancelled spec order level).books order.bookKey).level _ _).head = _
    rw [hbooks, hlinks.1, hhead]
  · show (((c.cancelled spec order level).books order.bookKey).level _ _).tail = _
    rw [hbooks, hlinks.2, htail]
  · intro t ht
    show (((c.cancelled spec order level).books order.bookKey).level _ t).head = _ ∧
      (((c.cancelled spec order level).books order.bookKey).level _ t).tail = _
    rw [hbooks, DexCore.level_unlinked, if_neg (fun hall => ht hall.2.2.2)]
    exact ⟨rfl, rfl⟩
  · intro t
    show TickBitmap.isTickInitialized
      (((c.cancelled spec order level).books order.bookKey).bitmap order.isBid) t = true ↔ _
    rw [hbooks, hbitmap]
    split
    · rename_i hzero
      rw [hempty.mp hzero]
      simp only [Orderbook.clearTick, update_self]
      exact hside.bit_deleted order.tick t
    · rename_i hzero
      refine hside.bit_shortened ?_ (fun hnil => hzero (hempty.mpr hnil)) t
      rw [hq.queue]
      simp

theorem best_cancelled :
    BestOk order.isBid (((c.cancelled spec order level).books order.bookKey).bestTick order.isBid)
      (update (listing order.bookKey order.isBid) order.tick (left ++ right)) := by
  have hne : listing order.bookKey order.isBid order.tick ≠ [] := by
    rw [hq.queue]
    simp
  have hbest := h.best order.bookKey order.isBid (h.created _ _ _ hne)
  have hside := h.side order.bookKey order.isBid
  show BestOk order.isBid (((c.unlinked spec order level).books order.bookKey).bestTick _) _
  rw [(c.ticks_unlinked spec order level).2]
  split
  · rename_i hzero
    have hnil := (hq.head_eq_zero h hlevel).mp hzero
    rw [hnil]
    unfold Orderbook.clearTick
    simp only
    split
    · rename_i hsame
      rw [update_self]
      rw [hsame] at hbest
      exact hbest.empty_best hne (hside.bit_deleted order.tick) hside.range
    · rename_i hother
      exact hbest.empty_other hne hother
  · rename_i hzero
    exact hbest.shorten hne fun hnil => hzero ((hq.head_eq_zero h hlevel).mpr hnil)

theorem cancelled :
    Listed (c.cancelled spec order level)
      (listing.set order.bookKey order.isBid order.tick (left ++ right)) := by
  obtain ⟨hkeys, hnextId, _⟩ := c.unlinked_frame spec order level
  have horders : ∀ y, y ≠ order.orderId → (c.cancelled spec order level).orders y =
      (c.unlinked spec order level).orders y := by
    intro y hy
    exact (DexCore.orders_setRecord _ _ _ _).trans (if_neg hy)
  refine h.remove hq.queue (hq.side_cancelled h hlevel) (hq.best_cancelled h hlevel)
    ⟨?_, c.pair_unlinked spec order level, hkeys⟩ ?_ ?_ ?_ hnextId
  · intro key side hother
    show ((c.unlinked spec order level).books key).level side = _ ∧
      ((c.unlinked spec order level).books key).bitmap side = _ ∧
      ((c.unlinked spec order level).books key).bestTick side = _
    refine ⟨?_, ?_⟩
    · funext t
      rw [DexCore.level_unlinked, if_neg (fun hall => hother ⟨hall.2.1, hall.2.2.1⟩)]
    · by_cases hkey : key = order.bookKey
      · subst hkey
        have hside : side ≠ order.isBid := fun hsame => hother ⟨rfl, hsame⟩
        obtain ⟨hbitmap, hbest⟩ := c.ticks_unlinked spec order level
        rw [hbitmap, hbest]
        split
        · unfold Orderbook.clearTick
          refine ⟨update_of_ne hside _ _, ?_⟩
          split
          · exact update_of_ne hside _ _
          · rfl
        · exact ⟨rfl, rfl⟩
      · rw [DexCore.books_unlinked_of_ne _ _ _ _ hkey]
        exact ⟨rfl, rfl⟩
  · exact (DexCore.orders_setRecord _ _ _ _).trans (if_pos rfl)
  · intro y hy
    rw [horders y hy]
    exact c.contents_unlinked spec order level y
  · intro y hy
    have hne : y ≠ order.orderId := by
      rintro rfl
      refine hy ?_
      rw [hq.queue]
      simp
    rw [horders y hne, (c.unlinked_frame spec order level).2.2.2.2, DexCore.orders_relink,
      DexCore.orders_relink, if_neg, if_neg]
    · rintro ⟨hprev, rfl⟩
      refine hy ?_
      rw [hq.queue]
      exact List.mem_append_left _ (hq.mem_left h hprev)
    · rintro ⟨hnext, rfl⟩
      refine hy ?_
      rw [hq.queue]
      exact List.mem_append_right _ (List.mem_cons_of_mem _ (hq.mem_right h hnext))

end Queued

variable {authorized : Bool}

omit [BookHash] in
theorem isAuthorizedForToken_ok {address : Address} {role : AuthRole}
    (h : isAuthorizedForToken ctx token address role s = .ok authorized s') : s = s' := by
  unfold isAuthorizedForToken at h
  simp only [bind_ok, liftToken_ok] at h
  obtain ⟨_, _, ⟨_, rfl⟩, h⟩ := h
  cases hanswer : ctx.env.authorizedAs token address role with
  | ok answer =>
    simp only [hanswer, pure_ok] at h
    exact h.2
  | error e =>
    simp only [hanswer] at h
    split at h
    · exact (pure_ok.mp h).2
    · exact (throw_ok.mp h).elim

omit [BookHash] in
theorem isMakerAuthorized_ok (h : isMakerAuthorized ctx order s = .ok authorized s') : s = s' := by
  unfold isMakerAuthorized at h
  simp only [bind_ok, get_ok] at h
  obtain ⟨_, _, ⟨rfl, rfl⟩, sender, t, hsender, h⟩ := h
  obtain rfl := isAuthorizedForToken_ok hsender
  split at h
  · exact (pure_ok.mp h).2
  · split at h
    · exact isAuthorizedForToken_ok h
    · exact (pure_ok.mp h).2

/-- Both ways of cancelling take one listed order out of its queue. -/
def Cancelled (spec : TempoHardfork) (c : DexCore) (listing : Listing) (c' : DexCore) : Prop :=
  ∃ order left right level, Queued c listing order left right ∧
    LevelWithout spec order ((c.books order.bookKey).level order.isBid order.tick) level ∧
    c' = c.cancelled spec order level

theorem cancelled_of_read (h : Listed s listing)
    (hread : (s.orders orderId).read s.bookKeys orderId none = .ok order) (hmaker : order.maker ≠ 0)
    (hrun : cancelActiveOrder ctx order s = .ok u s') :
    Cancelled ctx.spec s.toDexCore listing s'.toDexCore := by
  obtain ⟨hrecord, hmem⟩ := h.read_ok hread hmaker
  obtain ⟨left, right, hqueue⟩ := List.append_of_mem hmem
  obtain ⟨level, hlevel, hcore⟩ := cancelActiveOrder_core hrun
  exact ⟨order, left, right, level, ⟨hrecord, hqueue⟩, hlevel, hcore⟩

theorem cancel_core (h : Listed s listing)
    (hrun : cancel ctx sender orderId s = .ok u s') :
    Cancelled ctx.spec s.toDexCore listing s'.toDexCore := by
  unfold cancel at hrun
  simp only [bind_ok, require_ok] at hrun
  obtain ⟨order, _, hread, _, _, ⟨hmaker, rfl⟩, _, _, ⟨_, rfl⟩, _, _, ⟨_, rfl⟩, hrun⟩ := hrun
  obtain ⟨rfl, hrecord⟩ := readOrder_ok hread
  exact cancelled_of_read h hrecord hmaker hrun

theorem cancelStaleOrder_core (h : Listed s listing)
    (hrun : cancelStaleOrder ctx orderId s = .ok u s') :
    Cancelled ctx.spec s.toDexCore listing s'.toDexCore := by
  unfold cancelStaleOrder at hrun
  simp only [bind_ok, require_ok] at hrun
  obtain ⟨order, _, hread, _, _, ⟨hmaker, rfl⟩, authorized, _, hauth, _, _, ⟨_, rfl⟩, hrun⟩ :=
    hrun
  obtain ⟨rfl, hrecord⟩ := readOrder_ok hread
  obtain rfl := isMakerAuthorized_ok hauth
  exact cancelled_of_read h hrecord hmaker hrun

end Cancellations

end Monotempo.Dex
