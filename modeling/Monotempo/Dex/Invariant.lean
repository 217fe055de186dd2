/-
  The representation invariant of the DEX.

  Every state that calls at T5 or later reach from an unused DEX is well formed.
  Below T12 the levels also keep an aggregate, the remaining amounts of their
  orders; `Liquidity` says that it is exact.
-/
import Monotempo.Dex.Route

set_option autoImplicit false

namespace Monotempo.Dex

open Chain Foundation Function

/-! ## What fills never change -/

/-- Pairs, ids and keys are the same. -/
structure SamePairs (c c' : DexCore) : Prop where
  base : ∀ key, (c'.books key).base = (c.books key).base
  quote : ∀ key, (c'.books key).quote = (c.books key).quote
  bookKeys : c'.bookKeys = c.bookKeys
  nextOrderId : c'.nextOrderId = c.nextOrderId

theorem SamePairs.refl (c : DexCore) : SamePairs c c :=
  ⟨fun _ => rfl, fun _ => rfl, rfl, rfl⟩

variable {c : DexCore}

theorem SamePairs.trans {c' c'' : DexCore} (h : SamePairs c c') (h' : SamePairs c' c'') :
    SamePairs c c'' where
  base := fun key => (h'.base key).trans (h.base key)
  quote := fun key => (h'.quote key).trans (h.quote key)
  bookKeys := h'.bookKeys.trans h.bookKeys
  nextOrderId := h'.nextOrderId.trans h.nextOrderId

theorem SamePairs.isInitialized {c' : DexCore} (h : SamePairs c c') (key : B256) :
    (c'.books key).isInitialized = (c.books key).isInitialized := by
  unfold Orderbook.isInitialized
  rw [h.base key]

theorem samePairs_retired (c : DexCore) (spec : TempoHardfork) (taker : Address)
    (order : Order) (stored : TickLevel) : SamePairs c (c.retired spec taker order stored) where
  base := fun key => (DexCore.pair_withoutHead _ _ _ _ key).1
  quote := fun key => (DexCore.pair_withoutHead _ _ _ _ key).2.1
  bookKeys := (DexCore.rest_withoutHead _ _ _ _).1
  nextOrderId := (DexCore.rest_withoutHead _ _ _ _).2.1

theorem samePairs_commit (c : DexCore) (spec : TempoHardfork) (order : Order) :
    SamePairs c (c.commit spec order) where
  base := by
    intro key
    rw [DexCore.books_commit]
    split <;> rfl
  quote := by
    intro key
    rw [DexCore.books_commit]
    split <;> rfl
  bookKeys := rfl
  nextOrderId := rfl

theorem samePairs_flip (c : DexCore) (spec : TempoHardfork) (order : Order) :
    SamePairs c (c.flip spec order) := by
  have hpaid : ∀ token amount, SamePairs c (c.setBalance order.maker token amount) :=
    fun _ _ => ⟨fun _ => rfl, fun _ => rfl, rfl, rfl⟩
  exact (hpaid _ _).trans (samePairs_commit _ spec order.flipped)

theorem samePairs_partlyFilled (c : DexCore) (spec : TempoHardfork) (order : Order)
    (level : TickLevel) (fillAmount : ℕ) (event : OrderFilled) :
    SamePairs c (c.partlyFilled spec order level fillAmount event) where
  base := fun key => DexCore.project_partlyFilled _ _ _ _ _ key Orderbook.base fun _ _ => rfl
  quote := fun key => DexCore.project_partlyFilled _ _ _ _ _ key Orderbook.quote fun _ _ => rfl
  bookKeys := by
    unfold DexCore.partlyFilled
    cases spec.isT12 with
    | true | false => rfl
  nextOrderId := by
    unfold DexCore.partlyFilled
    cases spec.isT12 with
    | true | false => rfl

section Fills

variable [BookHash] {spec : TempoHardfork} {taker : Address}
  {step : ℕ → Order → Bool → Option OrderStep} {bookKey : B256} {isBid : Bool}

theorem fillInvariant_samePairs (c₀ : DexCore) :
    FillInvariant spec taker step bookKey isBid fun c _ _ _ => SamePairs c₀ c where
  retire := fun _ _ _ _ _ _ h => h.trans (samePairs_retired _ _ _ _ _)
  flip := fun _ _ _ _ h => h.trans (samePairs_flip _ _ _)
  part := fun _ _ _ _ _ _ _ _ h => h.trans (samePairs_partlyFilled _ _ _ _ _ _)

theorem FillInvariant.and {inv inv' : DexCore → Listing → ℕ → ℕ → Prop}
    (h : FillInvariant spec taker step bookKey isBid inv)
    (h' : FillInvariant spec taker step bookKey isBid inv') :
    FillInvariant spec taker step bookKey isBid fun c listing amount total =>
      inv c listing amount total ∧ inv' c listing amount total where
  retire := fun hfront hstored hbook hside hstep hfull hold =>
    ⟨h.retire hfront hstored hbook hside hstep hfull hold.1,
      h'.retire hfront hstored hbook hside hstep hfull hold.2⟩
  flip := fun hlisted hflip hbook hside hold =>
    ⟨h.flip hlisted hflip hbook hside hold.1, h'.flip hlisted hflip hbook hside hold.2⟩
  part := fun hfront hbook hside hstep hless hhead htail htotal hold =>
    ⟨h.part hfront hbook hside hstep hless hhead htail htotal hold.1,
      h'.part hfront hbook hside hstep hless hhead htail htotal hold.2⟩

end Fills

variable {step : ℕ → Order → Bool → Option OrderStep} {taker : Address}

/-- A property that no step of a fill can break, whatever the amounts, holds after a
route. -/
theorem fillRoute_keeps [BookHash] {ctx : Context} {inv : DexCore → Listing → Prop}
    (hspec : ctx.spec.isT5 = true)
    (hinv : ∀ bookKey isBid, FillInvariant ctx.spec taker step bookKey isBid
      fun c listing _ _ => inv c listing) :
    ∀ {hops : List Hop} {deltas : StorageCreditDeltas} {amount : ℕ} {s s' : DexState}
      {listing : Listing} {result : ℕ × StorageCreditDeltas},
      (∀ hop ∈ hops, (s.books hop.1).isInitialized = true) → Listed s listing →
      inv s listing →
      fillRoute (fillOrders ctx step taker) hops deltas amount s = .ok result s' →
      ∃ listing', Listed s' listing' ∧ inv s' listing' := by
  intro hops
  induction hops with
  | nil =>
    intro deltas amount s s' listing result _ hlisted hold hrun
    obtain ⟨_, rfl⟩ := pure_ok.mp hrun
    exact ⟨listing, hlisted, hold⟩
  | cons hop hops ih =>
    intro deltas amount s s' listing result hbooks hlisted hold hrun
    obtain ⟨bookKey, isBid⟩ := hop
    obtain ⟨filled, t, hfill, hrest⟩ := bind_ok.mp hrun
    have hboth := (hinv bookKey isBid).and (fillInvariant_samePairs s)
    obtain ⟨listing₁, hlisted₁, hkept, hsame⟩ := hboth.fillOrders hspec hlisted
      (hbooks _ List.mem_cons_self) ⟨hold, .refl _⟩ hfill
    have hbooks₁ : ∀ hop ∈ hops, (t.books hop.1).isInitialized = true := by
      intro hop hmem
      rw [hsame.isInitialized]
      exact hbooks hop (List.mem_cons_of_mem _ hmem)
    exact ih hbooks₁ hlisted₁ hkept hrest

/-! ## Aggregated liquidity -/

/-- The remaining amount of an order. -/
def DexCore.remaining (c : DexCore) (id : ℕ) : ℕ := (c.orders id).order.remaining

/-- Below T12 every level aggregates the remaining amounts of its queue. -/
def Liquidity (spec : TempoHardfork) (c : DexCore) (listing : Listing) : Prop :=
  spec.isT12 = false → ∀ key side tick, ((c.books key).level side tick).totalLiquidity =
    ((listing key side tick).map c.remaining).sum

variable {bookKey : B256}

section Liquidity

variable [BookHash] {spec : TempoHardfork} {c c' : DexCore} {listing : Listing}

section Aggregates

variable (h : Liquidity spec c listing)

include h

omit [BookHash] in
theorem Liquidity.congr (hlevel : ∀ key, (c'.books key).level = (c.books key).level)
    (horders : c'.orders = c.orders) : Liquidity spec c' listing := by
  intro hspec key side tick
  have hremaining : c'.remaining = c.remaining := by
    unfold DexCore.remaining
    rw [horders]
  rw [hlevel, hremaining]
  exact h hspec key side tick

omit [BookHash] in
theorem Liquidity.set {isBid : Bool} {tick : ℤ} {queue : List ℕ}
    (hothers : ∀ key side t, ¬ (key = bookKey ∧ side = isBid ∧ t = tick) →
      ((c'.books key).level side t).totalLiquidity = ((c.books key).level side t).totalLiquidity ∧
      ∀ id ∈ listing key side t, c'.remaining id = c.remaining id) (hnew : spec.isT12 = false →
      ((c'.books bookKey).level isBid tick).totalLiquidity = (queue.map c'.remaining).sum) :
    Liquidity spec c' (listing.set bookKey isBid tick queue) := by
  intro hspec key side t
  by_cases hsame : key = bookKey ∧ side = isBid ∧ t = tick
  · obtain ⟨rfl, rfl, rfl⟩ := hsame
    rw [Listing.set_self, update_self]
    exact hnew hspec
  · have hqueue : listing.set bookKey isBid tick queue key side t = listing key side t := by
      by_cases hside : key = bookKey ∧ side = isBid
      · obtain ⟨rfl, rfl⟩ := hside
        rw [Listing.set_self, update_of_ne (fun ht => hsame ⟨rfl, rfl, ht⟩)]
      · rw [Listing.set_of_ne _ _ _ hside]
    obtain ⟨htotal, hremaining⟩ := hothers key side t hsame
    rw [hqueue, htotal, h hspec key side t, List.map_congr_left hremaining]

variable {order : Order}

theorem Liquidity.commit (hlisted : Listed c listing)
    (hfresh : ∀ bookKey isBid tick, order.orderId ∉ listing bookKey isBid tick) :
    Liquidity spec (c.commit spec order) (listing.append order) := by
  have hremaining : ∀ key side t, ∀ id ∈ listing key side t,
      (c.commit spec order).remaining id = c.remaining id := by
    intro key side t id hmem
    have hne : id ≠ order.orderId := by
      rintro rfl
      exact hfresh key side t hmem
    unfold DexCore.remaining
    rw [hlisted.order_commit hne]
    split <;> rfl
  refine h.set (fun key side t hother => ⟨?_, hremaining key side t⟩) (fun hspec => ?_)
  · rw [DexCore.books_commit]
    split
    · rename_i hkey
      rw [Orderbook.level_withOrder, if_neg (fun hsame => hother ⟨hkey, hsame⟩)]
    · rfl
  · have hself : (c.commit spec order).remaining order.orderId = order.remaining := by
      unfold DexCore.remaining
      rw [DexCore.orders_commit_self, OrderRecord.written_order]
      split <;> rfl
    rw [DexCore.books_commit, if_pos rfl, Orderbook.level_withOrder, if_pos ⟨rfl, rfl⟩,
      List.map_append, List.sum_append, List.map_congr_left (hremaining _ _ _)]
    unfold TickLevel.withOrder
    simp only [hspec, List.map_cons, List.map_nil, List.sum_cons, List.sum_nil, hself]
    rw [h hspec]
    rfl

variable {rest : List ℕ}

theorem Liquidity.retired {level stored : TickLevel}
    (hfront : Front spec c listing level order rest) (hstored : Shortened spec order level stored)
    (taker : Address) :
    Liquidity spec (c.retired spec taker order stored)
      (listing.set order.bookKey order.isBid order.tick rest) := by
  have hremaining : ∀ id, id ≠ order.orderId →
      (c.retired spec taker order stored).remaining id = c.remaining id := by
    intro id hid
    unfold DexCore.remaining DexCore.retired
    rw [DexCore.orders_withoutHead, DexCore.orders_setRecord, if_neg hid]
    split <;> rfl
  have hnodup := hfront.cursor.side.nodup order.tick
  rw [hfront.queue, List.nodup_cons] at hnodup
  refine h.set (fun key side t hother => ⟨?_, fun id hmem => hremaining id ?_⟩) (fun hspec => ?_)
  · unfold DexCore.retired DexCore.withoutHead
    split
    · by_cases hkey : key = order.bookKey
      · subst hkey
        rw [DexCore.books_setBook, Orderbook.level_withoutTick,
          if_neg (fun hsame => hother ⟨rfl, hsame⟩)]
        rfl
      · rw [DexCore.books_setBook_of_ne _ hkey]
        rfl
    · rw [DexCore.level_setLevel, if_neg hother]
      rfl
  · rintro rfl
    exact hother (hfront.listed.unique hfront.mem hmem)
  · have hsum : ((listing order.bookKey order.isBid order.tick).map c.remaining).sum =
        order.remaining + (rest.map c.remaining).sum := by
      rw [hfront.queue, List.map_cons, List.sum_cons]
      unfold DexCore.remaining
      rw [hfront.cursor.order_eq]
    have hrest : rest.map (c.retired spec taker order stored).remaining =
        rest.map c.remaining := by
      refine List.map_congr_left fun id hmem => hremaining id ?_
      rintro rfl
      exact hnodup.1 hmem
    rw [hrest]
    have hold := h hspec order.bookKey order.isBid order.tick
    rw [hsum, ← hfront.cursor.level_total hspec] at hold
    unfold DexCore.retired DexCore.withoutHead
    split
    · rename_i hzero
      have hnil : rest = [] := by
        rw [hfront.cursor.next_eq hfront.queue] at hzero
        refine (headD_eq_iff_nil fun hmem => ?_).mp hzero
        refine hfront.cursor.side.zero_notMem order.tick ?_
        rw [hfront.queue]
        exact List.mem_cons_of_mem _ hmem
      rw [DexCore.books_setBook, Orderbook.level_withoutTick, if_pos ⟨rfl, rfl⟩, hnil]
      unfold storedLevel
      rw [hspec]
      rfl
    · rename_i hnext
      rw [DexCore.level_setLevel, if_pos ⟨rfl, rfl, rfl⟩]
      have htotal := hstored.total hspec hnext
      omega

theorem Liquidity.partlyFilled {level level' : TickLevel} {fillAmount : ℕ}
    (hfront : Front spec c listing level order rest) (hless : fillAmount < order.remaining)
    (htotal : spec.isT12 = false →
      level'.totalLiquidity + fillAmount = level.totalLiquidity) (event : OrderFilled) :
    Liquidity spec (c.partlyFilled spec order level' fillAmount event) listing := by
  have hremaining : ∀ id, id ≠ order.orderId →
      (c.partlyFilled spec order level' fillAmount event).remaining id = c.remaining id := by
    intro id hid
    unfold DexCore.remaining
    rw [DexCore.orders_partlyFilled, if_neg hid]
  have hself : (c.partlyFilled spec order level' fillAmount event).remaining order.orderId =
      order.remaining - fillAmount := by
    unfold DexCore.remaining
    rw [DexCore.orders_partlyFilled, if_pos rfl]
    rfl
  have hnodup := hfront.cursor.side.nodup order.tick
  rw [hfront.queue, List.nodup_cons] at hnodup
  have hsame : listing.set order.bookKey order.isBid order.tick
      (listing order.bookKey order.isBid order.tick) = listing := by
    unfold Listing.set
    rw [update_eq_self, update_eq_self, update_eq_self]
  rw [← hsame]
  refine h.set (fun key side t hother => ⟨?_, fun id hmem => hremaining id ?_⟩) (fun hspec => ?_)
  · rw [DexCore.level_partlyFilled, if_neg (fun hall => hother hall.2)]
  · rintro rfl
    exact hother (hfront.listed.unique hfront.mem hmem)
  · have hrest : rest.map (c.partlyFilled spec order level' fillAmount event).remaining =
        rest.map c.remaining := by
      refine List.map_congr_left fun id hmem => hremaining id ?_
      rintro rfl
      exact hnodup.1 hmem
    have hold := h hspec order.bookKey order.isBid order.tick
    rw [hfront.queue, List.map_cons, List.sum_cons, ← hfront.cursor.level_total hspec] at hold
    have hfirst : c.remaining order.orderId = order.remaining := by
      unfold DexCore.remaining
      rw [hfront.cursor.order_eq]
    rw [DexCore.level_partlyFilled, if_pos ⟨hspec, rfl, rfl, rfl⟩, hfront.queue, List.map_cons,
      List.sum_cons, hself, hrest]
    have hlevel := htotal hspec
    omega

theorem Liquidity.cancelled {level : TickLevel} {left right : List ℕ} (hlisted : Listed c listing)
    (hq : Queued c listing order left right)
    (hlevel : LevelWithout spec order ((c.books order.bookKey).level order.isBid order.tick)
      level) :
    Liquidity spec (c.cancelled spec order level)
      (listing.set order.bookKey order.isBid order.tick (left ++ right)) := by
  have hremaining : ∀ id, id ≠ order.orderId →
      (c.cancelled spec order level).remaining id = c.remaining id := by
    intro id hid
    have hrecord : (c.cancelled spec order level).orders id =
        (c.unlinked spec order level).orders id :=
      (DexCore.orders_setRecord _ _ _ _).trans (if_neg hid)
    have hcontents := OrderRecord.contents_fields (c.contents_unlinked spec order level id)
    unfold DexCore.remaining
    rw [hrecord]
    exact (Order.contents_fields hcontents.2.2).2.2.2.2.2.2
  have hmem : order.orderId ∈ listing order.bookKey order.isBid order.tick := by
    rw [hq.queue]
    simp
  have hnodup := (hlisted.side order.bookKey order.isBid).nodup order.tick
  rw [hq.queue] at hnodup
  refine h.set (fun key side t hother => ⟨?_, fun id hid => hremaining id ?_⟩) (fun hspec => ?_)
  · show (((c.unlinked spec order level).books key).level side t).totalLiquidity = _
    rw [DexCore.level_unlinked, if_neg (fun hall => hother hall.2)]
  · rintro rfl
    exact hother (hlisted.unique hmem hid)
  · have hrest : (left ++ right).map (c.cancelled spec order level).remaining =
        (left ++ right).map c.remaining := by
      refine List.map_congr_left fun id hid => hremaining id ?_
      rintro rfl
      exact (List.nodup_middle.mp hnodup).notMem hid
    have hself : c.remaining order.orderId = order.remaining := by
      unfold DexCore.remaining
      rw [hq.record]
    have hold := h hspec order.bookKey order.isBid order.tick
    rw [hq.queue, List.map_append, List.sum_append, List.map_cons, List.sum_cons, hself] at hold
    have htotal := hlevel.total hspec
    rw [hrest, List.map_append, List.sum_append]
    show (((c.unlinked spec order level).books _).level _ _).totalLiquidity = _
    rw [DexCore.level_unlinked, if_pos ⟨Or.inl hspec, rfl, rfl, rfl⟩]
    unfold storedLevel
    rw [hspec]
    show level.totalLiquidity = _
    omega

end Aggregates

theorem fillInvariant_liquidity {isBid : Bool} :
    FillInvariant spec taker step bookKey isBid fun c listing _ _ =>
      Liquidity spec c listing where
  retire := fun hfront hstored _ _ _ _ h => h.retired hfront hstored _
  flip := by
    intro c listing order _ _ hlisted hflip _ _ h
    have hpaid : ∀ token amount, Listed (c.setBalance order.maker token amount) listing ∧
        Liquidity spec (c.setBalance order.maker token amount) listing :=
      fun _ _ => ⟨hlisted.congr rfl rfl rfl le_rfl, h.congr (fun _ => rfl) rfl⟩
    exact (hpaid _ _).2.commit (hpaid _ _).1
      (hlisted.notMem_of_absent hflip.absent hflip.id_ne_zero)
  part := fun hfront _ _ _ hless _ _ htotal h => h.partlyFilled hfront hless htotal _

end Liquidity

/-! ## Runs -/

/-- The calls of the DEX. -/
inductive DexCall where
  | createPair (base : Address)
  | place (sender token : Address) (amount : ℕ) (isBid : Bool) (tick : ℤ)
  | placeFlip (sender token : Address) (amount : ℕ) (isBid : Bool) (tick flipTick : ℤ)
      (internalBalanceOnly : Bool)
  | cancel (sender : Address) (orderId : ℕ)
  | cancelStaleOrder (orderId : ℕ)
  | swapExactAmountIn (sender tokenIn tokenOut : Address) (amountIn minAmountOut : ℕ)
  | swapExactAmountOut (sender tokenIn tokenOut : Address) (amountOut maxAmountIn : ℕ)
  | withdraw (user token : Address) (amount : ℕ)
  | setBookIndex (index : ℕ)

/-- Run a call and drop what it returns. -/
def DexCall.run [BookHash] (ctx : Context) : DexCall → DexM Unit
  | createPair base => do
    let _ ← Dex.createPair ctx base
    pure ()
  | place sender token amount isBid tick => do
    let _ ← Dex.place ctx sender token amount isBid tick
    pure ()
  | placeFlip sender token amount isBid tick flipTick internalBalanceOnly => do
    let _ ← Dex.placeFlip ctx sender token amount isBid tick flipTick internalBalanceOnly
    pure ()
  | cancel sender orderId => Dex.cancel ctx sender orderId
  | cancelStaleOrder orderId => Dex.cancelStaleOrder ctx orderId
  | swapExactAmountIn sender tokenIn tokenOut amountIn minAmountOut => do
    let _ ← Dex.swapExactAmountIn ctx sender tokenIn tokenOut amountIn minAmountOut
    pure ()
  | swapExactAmountOut sender tokenIn tokenOut amountOut maxAmountIn => do
    let _ ← Dex.swapExactAmountOut ctx sender tokenIn tokenOut amountOut maxAmountIn
    pure ()
  | withdraw user token amount => Dex.withdraw ctx user token amount
  | setBookIndex index => Dex.setBookIndex ctx index

/-- The states that allowed calls reach.  A failed call is reverted.  Between the
calls other transfers happen; none takes tokens from the DEX. -/
inductive Reachable [BookHash] (allowed : Context → DexCall → Prop) (start : DexState → Prop) :
    DexState → Prop
  | start {s : DexState} (h : start s) : Reachable allowed start s
  | call {s s' : DexState} {ctx : Context} {call : DexCall}
      (hs : Reachable allowed start s) (hallowed : allowed ctx call)
      (hrun : call.run ctx s = .ok () s') : Reachable allowed start s'
  | transfers {s : DexState} {ledger : Ledger} (hs : Reachable allowed start s)
      (hledger : ∀ token,
        s.ledger token stablecoinDexAddress ≤ ledger token stablecoinDexAddress) :
      Reachable allowed start { s with toDexCore := { s.toDexCore with ledger := ledger } }

/-- A DEX that was never used. -/
def DexState.Unused (s : DexState) : Prop := ∃ ledger, s.toDexCore = DexCore.genesis ledger

section Calls

variable [BookHash] {ctx : Context} {s s' : DexState} {c : DexCore} {listing : Listing}
  {spec : TempoHardfork}

theorem DexCore.level_ensurePair (c : DexCore) (spec : TempoHardfork) (base quote : Address)
    (key : B256) : ((c.ensurePair spec base quote).books key).level = (c.books key).level := by
  unfold ensurePair
  split
  · rfl
  · exact project_setBook _ _ _ Orderbook.level rfl

theorem Liquidity.placed {p : Placement} (h : Liquidity spec c listing)
    (hlisted : Listed c listing) :
    Liquidity spec (c.placed spec p) (listing.append (p.order c.freshId)) := by
  obtain ⟨hbooks, horders, _⟩ := (c.ensurePair spec p.base p.quote).debit_frame p.maker
    p.escrow.token p.escrow.amount
  have hensured := (c.ensurePair_frame spec p.base p.quote).1
  refine Liquidity.commit ?_ (hlisted.charged spec p) hlisted.freshId_notMem
  refine h.congr (fun key => ?_) (horders.trans hensured)
  rw [hbooks]
  exact c.level_ensurePair spec p.base p.quote key

theorem Route.created {hops : List Hop} :
    ∀ {start stop : Address}, Route c start stop hops →
      ∀ hop ∈ hops, (c.books hop.1).isInitialized = true := by
  induction hops with
  | nil =>
    intro start stop _ hop hmem
    exact nomatch hmem
  | cons first hops ih =>
    rintro start stop ⟨mid, hhop, hrest⟩ hop hmem
    rcases List.mem_cons.mp hmem with rfl | hmem
    · exact hhop.created
    · exact ih hrest hop hmem

theorem DexCall.keeps_listed {call : DexCall} (hspec : ctx.spec.isT5 = true)
    (hlisted : Listed s listing) (hliquidity : Liquidity ctx.spec s listing)
    (hrun : call.run ctx s = .ok () s') :
    ∃ listing', Listed s' listing' ∧ Liquidity ctx.spec s' listing' := by
  cases call with
  | createPair base =>
    obtain ⟨key, hcreate⟩ := discard_ok.mp hrun
    obtain ⟨rfl, hnew, hcore⟩ := createPair_core hcreate
    rw [hcore]
    refine ⟨listing, hlisted.withPair hnew fun i hi => bookIdIndex_new hi, ?_⟩
    exact hliquidity.congr (fun key => DexCore.project_setBook _ _ _ Orderbook.level rfl) rfl
  | place sender token amount isBid tick =>
    obtain ⟨orderId, hplace⟩ := discard_ok.mp hrun
    obtain ⟨hvalid, hcore⟩ := place_core hplace
    rw [hcore]
    exact ⟨_, hlisted.placed hvalid ctx.spec, hliquidity.placed hlisted⟩
  | placeFlip sender token amount isBid tick flipTick internalBalanceOnly =>
    obtain ⟨orderId, hplace⟩ := discard_ok.mp hrun
    obtain ⟨hvalid, hcore⟩ := placeFlip_core hplace
    rw [hcore]
    exact ⟨_, hlisted.placed hvalid ctx.spec, hliquidity.placed hlisted⟩
  | cancel sender orderId =>
    obtain ⟨order, left, right, level, hqueued, hlevel, hcore⟩ := cancel_core hlisted hrun
    rw [hcore]
    exact ⟨_, hqueued.cancelled hlisted hlevel, hliquidity.cancelled hlisted hqueued hlevel⟩
  | cancelStaleOrder orderId =>
    obtain ⟨order, left, right, level, hqueued, hlevel, hcore⟩ :=
      cancelStaleOrder_core hlisted hrun
    rw [hcore]
    exact ⟨_, hqueued.cancelled hlisted hlevel, hliquidity.cancelled hlisted hqueued hlevel⟩
  | swapExactAmountIn sender tokenIn tokenOut amountIn minAmountOut =>
    obtain ⟨amountOut, hswap⟩ := discard_ok.mp hrun
    obtain ⟨hops, t₁, t₂, deltas, hpath, hdebit, hfill, _, hcore⟩ :=
      swapExactAmountIn_ok hswap
    obtain ⟨_, hroute, _⟩ := findTradePath_ok hpath
    obtain ⟨hbooks, horders, hkeys, hnextId⟩ := s.debit_frame sender tokenIn amountIn
    rw [← hdebit] at hbooks horders hkeys hnextId
    have hcreated : ∀ hop ∈ hops, (t₁.books hop.1).isInitialized = true := by
      rw [hbooks]
      exact hroute.created
    obtain ⟨listing', hlisted', hliquidity'⟩ := fillRoute_keeps hspec
      (fun _ _ => fillInvariant_liquidity) hcreated
      (hlisted.congr hbooks horders hkeys hnextId.ge)
      (hliquidity.congr (fun key => by rw [hbooks]) horders) hfill
    rw [hcore]
    exact ⟨listing', hlisted'.congr rfl rfl rfl le_rfl, hliquidity'.congr (fun _ => rfl) rfl⟩
  | swapExactAmountOut sender tokenIn tokenOut amountOut maxAmountIn =>
    obtain ⟨amountIn, hswap⟩ := discard_ok.mp hrun
    obtain ⟨hops, t₁, t₂, deltas, hpath, hfill, hdebit, _, hcore⟩ :=
      swapExactAmountOut_ok hswap
    obtain ⟨_, hroute, _⟩ := findTradePath_ok hpath
    have hcreated : ∀ hop ∈ hops.reverse, (s.books hop.1).isInitialized = true :=
      fun hop hmem => hroute.created hop (List.mem_reverse.mp hmem)
    obtain ⟨listing', hlisted', hliquidity'⟩ := fillRoute_keeps hspec
      (fun _ _ => fillInvariant_liquidity) hcreated hlisted hliquidity hfill
    obtain ⟨hbooks, horders, hkeys, hnextId⟩ := t₁.debit_frame sender tokenIn amountIn
    rw [← hdebit] at hbooks horders hkeys hnextId
    rw [hcore]
    exact ⟨listing', hlisted'.congr hbooks horders hkeys hnextId.ge,
      hliquidity'.congr (fun key => by rw [← hbooks]) horders⟩
  | withdraw user token amount =>
    obtain ⟨_, _, hcore⟩ := withdraw_core hrun
    rw [hcore]
    exact ⟨listing, hlisted.congr rfl rfl rfl le_rfl, hliquidity.congr (fun _ => rfl) rfl⟩
  | setBookIndex index =>
    rcases setBookIndex_core hrun with rfl | ⟨bookKey, hkey, hcore⟩
    · exact ⟨listing, hlisted, hliquidity⟩
    · rw [hcore]
      exact ⟨listing, hlisted.setBookId hkey,
        hliquidity.congr (fun key => DexCore.project_setBook _ _ _ Orderbook.level rfl) rfl⟩

/-- What holds of every reachable state at T5 and later. -/
theorem Reachable.listed {start : DexState → Prop} (hspec : spec.isT5 = true)
    (hstart : ∀ s, start s → s.Unused)
    (h : Reachable (fun ctx _ => ctx.spec = spec) start s) :
    ∃ listing, Listed s listing ∧ Liquidity spec s listing := by
  induction h with
  | start hs =>
    obtain ⟨ledger, hcore⟩ := hstart _ hs
    rw [hcore]
    exact ⟨fun _ _ _ => [], listed_genesis ledger, fun _ _ _ _ => rfl⟩
  | call _ hallowed hrun ih =>
    obtain ⟨listing, hlisted, hliquidity⟩ := ih
    subst hallowed
    exact DexCall.keeps_listed hspec hlisted hliquidity hrun
  | transfers _ _ ih =>
    obtain ⟨listing, hlisted, hliquidity⟩ := ih
    exact ⟨listing, hlisted.congr rfl rfl rfl le_rfl, hliquidity.congr (fun _ => rfl) rfl⟩

end Calls

/-! ## The invariant, spelled out -/

/-- One tick of one side stands for a queue of orders. -/
structure LevelInvariant (c : DexCore) (bookKey : B256) (isBid : Bool) (tick : ℤ)
    (queue : List ℕ) : Prop where
  /-- from the head, `next` visits the queue and ends; from the tail, `prev` does -/
  links : Segment (fun id => (c.orders id).order.next) (fun id => (c.orders id).order.prev) 0
    queue 0
  head : ((c.books bookKey).level isBid tick).head = queue.headD 0
  tail : ((c.books bookKey).level isBid tick).tail = queue.getLastD 0
  nodup : queue.Nodup
  inverse : ∀ x ∈ queue, ∀ y ∈ queue,
    (c.orders x).order.next = y ↔ (c.orders y).order.prev = x
  orders : ∀ id ∈ queue, id ≠ 0 ∧ (c.orders id).order.bookKey = bookKey ∧
    (c.orders id).order.isBid = isBid ∧ (c.orders id).order.tick = tick ∧
    0 < (c.orders id).order.remaining ∧
    (c.orders id).order.remaining ≤ (c.orders id).order.amount
  ends : ((c.books bookKey).level isBid tick).head = 0 ↔
    ((c.books bookKey).level isBid tick).tail = 0
  bit : ((c.books bookKey).level isBid tick).head = 0 ↔
    TickBitmap.isTickInitialized ((c.books bookKey).bitmap isBid) tick = false

/-- The cached tick of a side is the best one with its bit set, or the marker. -/
def BestTickInvariant (book : Orderbook) (isBid : Bool) : Prop :=
  let bit := TickBitmap.isTickInitialized (book.bitmap isBid)
  let best := book.bestTick isBid
  ((∀ tick, bit tick = false) ∧ best = noTick isBid) ∨
    (bit best = true ∧ ∀ tick, bit tick = true →
      if isBid then tick ≤ best else best ≤ tick)

variable {listing : Listing}

theorem Listed.levelInvariant [BookHash] (h : Listed c listing) (bookKey : B256) (isBid : Bool)
    (tick : ℤ) :
    LevelInvariant c bookKey isBid tick (listing bookKey isBid tick) := by
  have hside := h.side bookKey isBid
  have hzero := hside.zero_notMem tick
  have hhead : ((c.books bookKey).level isBid tick).head =
      (listing bookKey isBid tick).headD 0 := hside.head tick
  have htail : ((c.books bookKey).level isBid tick).tail =
      (listing bookKey isBid tick).getLastD 0 := hside.tail tick
  have hheadNil : ((c.books bookKey).level isBid tick).head = 0 ↔
      listing bookKey isBid tick = [] := by
    rw [hhead]
    exact headD_eq_iff_nil hzero
  have htailNil : ((c.books bookKey).level isBid tick).tail = 0 ↔
      listing bookKey isBid tick = [] := by
    rw [htail]
    exact getLastD_eq_iff_nil hzero
  refine ⟨hside.segment tick, hhead, htail, hside.nodup tick, ?_, ?_, ?_, ?_⟩
  · exact (hside.segment tick).next_eq_iff_prev_eq (hside.nodup tick) hzero hzero
  · intro id hid
    have hrest := hside.resting tick id hid
    exact ⟨hrest.id_ne_zero, hrest.bookKey_eq, hrest.isBid_eq, hrest.tick_eq, hrest.remaining_pos,
      hrest.remaining_le⟩
  · rw [hheadNil, htailNil]
  · have hbit : TickBitmap.isTickInitialized ((c.books bookKey).bitmap isBid) tick = true ↔
        listing bookKey isBid tick ≠ [] := hside.bit tick
    rw [hheadNil, ← Bool.not_eq_true, hbit, not_not]

theorem Listed.bestTickInvariant [BookHash] (h : Listed c listing)
    (hbook : (c.books bookKey).isInitialized = true) (isBid : Bool) :
    BestTickInvariant (c.books bookKey) isBid := by
  have hbit : ∀ tick, TickBitmap.isTickInitialized ((c.books bookKey).bitmap isBid) tick =
      true ↔ listing bookKey isBid tick ≠ [] := (h.side bookKey isBid).bit
  rcases h.best bookKey isBid hbook with ⟨hnone, hbest⟩ | ⟨hsome, hworse⟩
  · refine Or.inl ⟨fun tick => ?_, hbest⟩
    rw [← Bool.not_eq_true, hbit, not_not]
    exact hnone tick
  · refine Or.inr ⟨(hbit _).mpr hsome, fun tick htick => ?_⟩
    rcases hworse tick ((hbit tick).mp htick) with rfl | hbetter
    · split <;> exact le_rfl
    · unfold TickBitmap.better at hbetter
      split
      · rename_i hside
        rw [if_pos hside] at hbetter
        exact hbetter.le
      · rename_i hside
        rw [if_neg hside] at hbetter
        exact hbetter.le

/-- The representation invariant of the order books: in every state reached at one
hardfork from T5 on, every level stands for a queue of orders, the bitmap and the
best ticks agree with the queues, every order with a maker is on exactly one of
them, and below T12 the aggregates are exact. -/
theorem reachable_books_well_formed [BookHash] {spec : TempoHardfork} {s : DexState}
    (hspec : spec.isT5 = true)
    (hreach : Reachable (fun ctx _ => ctx.spec = spec) DexState.Unused s) :
    ∃ listing : Listing,
      (∀ bookKey isBid tick,
        LevelInvariant s bookKey isBid tick (listing bookKey isBid tick)) ∧
      (∀ bookKey isBid, (s.books bookKey).isInitialized = true →
        BestTickInvariant (s.books bookKey) isBid) ∧
      (∀ id, (s.orders id).order.maker ≠ 0 →
        ∃ bookKey isBid tick, id ∈ listing bookKey isBid tick ∧
          ∀ bookKey' isBid' tick', id ∈ listing bookKey' isBid' tick' →
            bookKey' = bookKey ∧ isBid' = isBid ∧ tick' = tick) ∧
      (spec.isT12 = false → ∀ bookKey isBid tick,
        ((s.books bookKey).level isBid tick).totalLiquidity =
          ((listing bookKey isBid tick).map fun id => (s.orders id).order.remaining).sum) := by
  obtain ⟨listing, hlisted, hliquidity⟩ := hreach.listed hspec fun _ h => h
  refine ⟨listing, hlisted.levelInvariant, fun bookKey isBid hbook =>
    hlisted.bestTickInvariant hbook isBid, fun id hmaker => ?_, hliquidity⟩
  have hmem := hlisted.live id hmaker
  exact ⟨_, _, _, hmem, fun _ _ _ hmem' => hlisted.unique hmem hmem'⟩

/-- A DEX that was never used, over wallets with a million tokens of six decimals. -/
def fundedDex : DexState where
  toDexCore := DexCore.genesis fun _ account =>
    if account = stablecoinDexAddress then 0 else 1000000000000
  storageCredits := fun _ => 0
  credits := ⟨0, .preserve, 0, 0⟩

/-- A flip order for the token with the address after pathUSD. -/
def placeFlipSample : DexCall :=
  .placeFlip 9 (pathUsdAddress + 1) 100000000 false 10 (-10) false

/-- Calls one after the other. -/
def runCalls [BookHash] (ctx : Context) (calls : List DexCall) : DexM Unit :=
  calls.forM (DexCall.run ctx)

theorem Reachable.runCalls [BookHash] {allowed : Context → DexCall → Prop} {ctx : Context}
    {start : DexState → Prop} {calls : List DexCall} {s s' : DexState}
    (hs : Reachable allowed start s) (hallowed : ∀ call ∈ calls, allowed ctx call)
    (hrun : Dex.runCalls ctx calls s = .ok () s') : Reachable allowed start s' := by
  induction calls generalizing s with
  | nil =>
    obtain ⟨_, rfl⟩ := EStateM.Result.ok.inj hrun
    exact hs
  | cons call calls ih =>
    obtain ⟨_, t, hcall, hrest⟩ := bind_ok.mp hrun
    exact ih (.call hs (hallowed call List.mem_cons_self) hcall)
      (fun _ h => hallowed _ (List.mem_cons_of_mem _ h)) hrest

/-- Bids for one token and asks of another, in each book a flip order and a plain one. -/
def twoBooks : List DexCall :=
  [.placeFlip 9 (pathUsdAddress + 1) 100000000 true (-10) 10 false,
    .place 8 (pathUsdAddress + 1) 200000000 true (-10),
    .placeFlip 9 (pathUsdAddress + 2) 100000000 false 10 (-10) false,
    .place 8 (pathUsdAddress + 2) 300000000 false 20]

/-- A swap over both books, through pathUSD: it fills both flip orders and a part of the others. -/
def swapSample : DexCall :=
  .swapExactAmountIn 7 (pathUsdAddress + 1) (pathUsdAddress + 2) 250000000 0

/-- After the swap the first order stands on the other side of its book. -/
theorem reachable_books_well_formed_two_hops :
    letI := BookHash.pairing
    ∃ s, runCalls ⟨.T5, .permissive pathUsdAddress, 3⟩ (twoBooks ++ [swapSample]) fundedDex =
        .ok () s ∧ (s.orders 1).order.isBid = false ∧
      ∃ listing : Listing, (∀ bookKey isBid tick,
        LevelInvariant s bookKey isBid tick (listing bookKey isBid tick)) ∧
        ∃ bookKey isBid tick, 1 ∈ listing bookKey isBid tick := by
  let := BookHash.pairing
  have hreturned : returned ((do
      runCalls ⟨.T5, .permissive pathUsdAddress, 3⟩ (twoBooks ++ [swapSample])
      let s ← get
      require ((s.orders 1).order.isBid = false ∧ (s.orders 1).order.maker ≠ 0)
        .underOverflow : DexM Unit) fundedDex) = true := by decide +kernel
  obtain ⟨_, _, hrun⟩ := returned_iff.mp hreturned
  obtain ⟨_, s, hcalls, hrun⟩ := bind_ok.mp hrun
  obtain ⟨⟨hside, hmaker⟩, -⟩ := require_ok.mp hrun
  have hreach : Reachable (fun ctx _ => ctx.spec = .T5) DexState.Unused s :=
    Reachable.runCalls (.start ⟨_, rfl⟩) (fun _ _ => rfl) hcalls
  obtain ⟨listing, hlevel, _, hlive, _⟩ := reachable_books_well_formed (by decide) hreach
  obtain ⟨bookKey, isBid, tick, hmem, _⟩ := hlive 1 hmaker
  exact ⟨s, hcalls, hside, listing, hlevel, bookKey, isBid, tick, hmem⟩

end Monotempo.Dex
