/-
  The walk over resting orders and price-time priority.

  A fill starts at the head of the best tick and settles one order after the
  other.  `Cursor` says where the walk stands: the side still represents its
  queues, and the order in hand is the first one in priority.  Settling it
  completely takes it off the front; the walk then stands at the next one.  From
  these steps the whole walk consumes the orders in price-time priority.
-/
import Monotempo.Dex.Frame
import Monotempo.Dex.Listing

set_option autoImplicit false

namespace Monotempo.Dex

open Chain Foundation Function DexCore

/-! ## Where a walk stands -/

/-- A side that can be walked: it represents its queues, its best tick is exact,
and nothing outside of it leads to its orders. -/
structure Walkable (c : DexCore) (bookKey : B256) (isBid : Bool) (queues : Queues) :
    Prop where
  side : SideOk (c.side bookKey isBid) bookKey isBid queues
  best : BestOk isBid ((c.books bookKey).bestTick isBid) queues
  created : (c.books bookKey).isInitialized = true
  key : ∀ tick, ∀ id ∈ queues tick, (c.orders id).order.orderId = id
  fresh : ∀ tick, ∀ id ∈ queues tick, id < c.nextOrderId
  apart : ∀ key side tick, ¬ (key = bookKey ∧ side = isBid) →
    ∀ t, ((c.books key).level side tick).tail ∉ queues t

/-- The walk stands at the first order of the best tick, with the level it read. -/
structure Cursor (spec : TempoHardfork) (c : DexCore) (bookKey : B256) (isBid : Bool)
    (queues : Queues) (level : TickLevel) (order : Order) : Prop extends
    Walkable c bookKey isBid queues where
  first : ∃ rest, queues order.tick = order.orderId :: rest
  order_eq : (c.orders order.orderId).order = order
  tick_best : (c.books bookKey).bestTick isBid = order.tick
  level_head : level.head = ((c.books bookKey).level isBid order.tick).head
  level_tail : level.tail = ((c.books bookKey).level isBid order.tick).tail
  level_total : spec.isT12 = false →
    level.totalLiquidity = ((c.books bookKey).level isBid order.tick).totalLiquidity

/-- Where a walk arrives after an order: at the next one, or at the end of the
side. -/
def Arrived (spec : TempoHardfork) (c : DexCore) (bookKey : B256) (isBid : Bool)
    (queues : Queues) : Option (TickLevel × Order) → Prop
  | none => ∀ tick, queues tick = []
  | some (level, order) => Cursor spec c bookKey isBid queues level order

/-- The orders of a side other than `id`. -/
def Others (queues : Queues) (id other : ℕ) : Prop :=
  other ≠ id ∧ ∃ tick, other ∈ queues tick

variable {spec : TempoHardfork} {level : TickLevel} {rest : List ℕ} {id : ℕ}

namespace Walkable

variable {c : DexCore} {bookKey : B256} {isBid : Bool} {queues : Queues}

section Walking

variable (h : Walkable c bookKey isBid queues)

include h

variable {tick : ℤ}

theorem inBook_eq (hmem : id ∈ queues tick) :
    (c.orders id).inBook id bookKey = (c.orders id).order :=
  OrderRecord.inBook_eq (h.key tick id hmem) (h.side.resting tick id hmem).bookKey_eq

theorem congr {c' : DexCore} (hbooks : c'.books = c.books) (horders : c'.orders = c.orders)
    (hnext : c'.nextOrderId = c.nextOrderId) : Walkable c' bookKey isBid queues := by
  rcases c with ⟨books, orders, balances, nextOrderId, bookKeys, ledger, filled⟩
  subst hbooks horders hnext
  exact ⟨h.side, h.best, h.created, h.key, h.fresh, h.apart⟩

theorem fenced (id : ℕ) :
    Fenced c bookKey isBid (Others queues id) c where
  level := rfl
  bitmap := rfl
  bestTick := rfl
  base := rfl
  quote := rfl
  created := h.created
  filled := rfl
  record := fun _ _ => rfl
  fresh := by
    rintro y ⟨_, tick, hmem⟩
    exact ⟨(h.side.resting tick y hmem).id_ne_zero, h.fresh tick y hmem⟩
  apart := by
    rintro key side tick hother ⟨_, t, hmem⟩
    exact h.apart key side tick hother t hmem

/-- A walk that holds the first order of the best tick. -/
theorem cursorAt (htick : (c.books bookKey).bestTick isBid = tick)
    (hqueue : queues tick = id :: rest)
    (hhead : level.head = ((c.books bookKey).level isBid tick).head)
    (htail : level.tail = ((c.books bookKey).level isBid tick).tail) (htotal : spec.isT12 = false →
      level.totalLiquidity = ((c.books bookKey).level isBid tick).totalLiquidity) :
    Cursor spec c bookKey isBid queues level ((c.orders id).inBook id bookKey) := by
  have hmem : id ∈ queues tick := by
    rw [hqueue]
    exact List.mem_cons_self
  have hid := h.key tick id hmem
  have hsame : (c.orders id).order.tick = tick := (h.side.resting tick id hmem).tick_eq
  rw [h.inBook_eq hmem]
  refine { toWalkable := h, first := ⟨rest, ?_⟩, order_eq := ?_, tick_best := ?_,
           level_head := ?_, level_tail := ?_, level_total := ?_ }
  · rw [hsame, hid, hqueue]
  · rw [hid]
  · rw [hsame, htick]
  · rw [hsame, hhead]
  · rw [hsame, htail]
  · rw [hsame]
    exact htotal

theorem cursor (spec : TempoHardfork) (htick : (c.books bookKey).bestTick isBid = tick)
    (hne : queues tick ≠ []) :
    let level := levelRead spec ((c.books bookKey).level isBid tick)
    Cursor spec c bookKey isBid queues level
      ((c.orders level.head).inBook level.head bookKey) := by
  intro level
  obtain ⟨id, rest, hqueue⟩ := List.exists_cons_of_ne_nil hne
  have hhead : level.head = id := by
    have hstored : ((c.books bookKey).level isBid tick).head = (queues tick).headD 0 :=
      h.side.head tick
    rw [levelRead_head, hstored, hqueue]
    rfl
  rw [hhead]
  refine h.cursorAt htick hqueue (levelRead_head _) (levelRead_tail _) (fun hspec => ?_)
  show (levelRead spec _).totalLiquidity = _
  rw [levelRead_total hspec]

end Walking

end Walkable

/-! ## Taking the first order off -/

section Pop

variable {c c₂ c' : DexCore} {bookKey : B256} {isBid : Bool} {queues : Queues}
  {tick : ℤ} {id : ℕ} {rest : List ℕ}

section Popping

variable (h : Walkable c bookKey isBid queues)

include h

/-- What stays on the queues when the first order of a tick leaves. -/
theorem Walkable.others_of_mem (hqueue : queues tick = id :: rest) {t : ℤ} {other : ℕ}
    (hmem : other ∈ update queues tick rest t) :
    other ∈ queues t ∧ Others queues id other := by
  by_cases ht : t = tick
  · subst ht
    rw [update_self] at hmem
    have hold : other ∈ queues t := by
      rw [hqueue]
      exact List.mem_cons_of_mem _ hmem
    have hnodup := h.side.nodup t
    rw [hqueue, List.nodup_cons] at hnodup
    refine ⟨hold, ?_, t, hold⟩
    rintro rfl
    exact hnodup.1 hmem
  · rw [update_of_ne ht] at hmem
    refine ⟨hmem, ?_, t, hmem⟩
    rintro rfl
    refine ht (h.side.tick_unique hmem ?_)
    rw [hqueue]
    exact List.mem_cons_self

/-- The first order of a tick leaves: its successor becomes the head, and other
orders and sides keep what they had behind the fence. -/
theorem Walkable.pop (hqueue : queues tick = id :: rest)
    (hfenced : Fenced c bookKey isBid (Others queues id) c₂)
    (hnext : c'.nextOrderId = c₂.nextOrderId)
    (hcreated : (c'.books bookKey).base = (c₂.books bookKey).base)
    (hsides : ∀ key side, ¬ (key = bookKey ∧ side = isBid) →
      (c'.books key).level side = (c₂.books key).level side)
    (horders : ∀ y, Others queues id y → c'.orders y =
      if y = rest.headD 0 then (c.orders y).setField .prev 0 else c.orders y)
    (hlevel : ∀ t, ((c'.books bookKey).level isBid t).head =
        (if t = tick then rest.headD 0 else ((c.books bookKey).level isBid t).head) ∧
      ((c'.books bookKey).level isBid t).tail =
        if t = tick then rest.getLastD 0 else ((c.books bookKey).level isBid t).tail)
    (hbit : ∀ t, TickBitmap.isTickInitialized ((c'.books bookKey).bitmap isBid) t = true ↔
      update queues tick rest t ≠ [])
    (hbest : BestOk isBid ((c'.books bookKey).bestTick isBid)
      (update queues tick rest)) :
    Walkable c' bookKey isBid (update queues tick rest) := by
  have hqueue' : queues tick = [] ++ id :: rest := hqueue
  obtain ⟨hprev, hnextId⟩ := h.side.pointers hqueue'
  constructor
  · refine h.side.unlink hqueue' ?_ ?_ ?_ ?_ hbit
    · intro t y hy hne
      show (c'.orders y).order = SideOk.relinked (c.orders id).order y (c.orders y).order
      have hy0 : y ≠ 0 := (h.side.resting t y hy).id_ne_zero
      have hprev : (c.orders id).order.prev = 0 := hprev
      have hnextId : (c.orders id).order.next = rest.headD 0 := hnextId
      rw [horders y ⟨hne, t, hy⟩]
      unfold SideOk.relinked
      rw [hprev, hnextId, if_neg hy0]
      split <;> rfl
    · show ((c'.books bookKey).level isBid tick).head = rest.headD 0
      rw [(hlevel tick).1, if_pos rfl]
    · show ((c'.books bookKey).level isBid tick).tail = rest.getLastD 0
      rw [(hlevel tick).2, if_pos rfl]
    · intro t ht
      refine ⟨(hlevel t).1.trans (if_neg ht), (hlevel t).2.trans (if_neg ht)⟩
  · exact hbest
  · show (c'.books bookKey).base != 0
    rw [hcreated]
    exact hfenced.created
  · intro t y hy
    obtain ⟨hold, hothers⟩ := h.others_of_mem hqueue hy
    rw [horders y hothers]
    split <;> exact h.key t y hold
  · intro t y hy
    rw [hnext]
    exact (hfenced.fresh y (h.others_of_mem hqueue hy).2).2
  · intro key side t hother t' hmem
    rw [hsides key side hother] at hmem
    exact hfenced.apart key side t hother (h.others_of_mem hqueue hmem).2

/-- The last order of the best tick leaves, and the search moves the best tick. -/
theorem Walkable.popTick (spec : TempoHardfork) (htick : (c.books bookKey).bestTick isBid = tick)
    (hqueue : queues tick = [id]) (hfenced : Fenced c bookKey isBid (Others queues id) c₂) :
    Walkable (c₂.setBook bookKey ((c₂.books bookKey).withoutTick spec isBid tick)) bookKey
      isBid (update queues tick []) := by
  have hbit : ∀ t, TickBitmap.isTickInitialized
      (TickBitmap.deleteTickBit ((c₂.books bookKey).bitmap isBid) tick) t = true ↔
      update queues tick [] t ≠ [] := by
    rw [hfenced.bitmap]
    exact h.side.bit_deleted tick
  have hbest := h.best
  rw [htick] at hbest
  refine h.pop hqueue hfenced rfl ?_ ?_ ?_ ?_ ?_ ?_
  · rw [books_setBook]
    rfl
  · intro key side hother
    by_cases hkey : key = bookKey
    · subst hkey
      funext t
      rw [books_setBook, Orderbook.level_withoutTick,
        if_neg (fun hsame => hother ⟨rfl, hsame.1⟩)]
    · rw [books_setBook_of_ne _ hkey]
  · intro y hy
    have hne : y ≠ ([] : List ℕ).headD 0 := (hfenced.fresh y hy).1
    rw [if_neg hne]
    exact hfenced.record y hy
  · intro t
    rw [books_setBook, Orderbook.level_withoutTick, hfenced.level]
    by_cases ht : t = tick
    · simp [ht, storedLevel_head, storedLevel_tail]
    · simp [ht]
  · intro t
    rw [books_setBook, Orderbook.bitmap_withoutTick]
    exact hbit t
  · rw [books_setBook, Orderbook.bestTick_withoutTick]
    exact hbest.empty_best (by rw [hqueue]; exact List.cons_ne_nil _ _) hbit h.side.range

/-- The first order of the best tick leaves, and the next one becomes the head. -/
theorem Walkable.popOrder {next : ℕ} (hqueue : queues tick = id :: next :: rest)
    (hfenced : Fenced c bookKey isBid (Others queues id) c₂) (hhead : level.head = next)
    (htail : level.tail = ((c.books bookKey).level isBid tick).tail) :
    Walkable ((c₂.setRecord next ((c₂.orders next).setField .prev 0)).setLevel bookKey isBid
      tick level) bookKey isBid (update queues tick (next :: rest)) := by
  have hnextMem : next ∈ update queues tick (next :: rest) tick := by
    rw [update_self]
    exact List.mem_cons_self
  have hnext := (h.others_of_mem hqueue hnextMem).2
  have hne : queues tick ≠ [] := by
    rw [hqueue]
    exact List.cons_ne_nil _ _
  refine h.pop hqueue hfenced rfl ?_ ?_ ?_ ?_ ?_ ?_
  · rw [base_setLevel]
    rfl
  · intro key side hother
    funext t
    rw [level_setLevel, if_neg (fun hsame => hother ⟨hsame.1, hsame.2.1⟩)]
    rfl
  · intro y hy
    show (c₂.setRecord next _).orders y = _
    rw [orders_setRecord]
    show (if y = next then _ else _) = if y = next then _ else _
    split
    · rename_i heq
      subst heq
      rw [hfenced.record y hnext]
    · exact hfenced.record y hy
  · intro t
    rw [level_setLevel]
    by_cases ht : t = tick
    · subst ht
      have hstored : ((c.books bookKey).level isBid t).tail = (queues t).getLastD 0 :=
        h.side.tail t
      rw [hqueue] at hstored
      rw [if_pos ⟨rfl, rfl, rfl⟩, if_pos rfl, if_pos rfl, htail, hstored]
      exact ⟨hhead, rfl⟩
    · rw [if_neg (fun hsame => ht hsame.2.2), if_neg ht, if_neg ht]
      show ((c₂.books bookKey).level isBid t).head = _ ∧
        ((c₂.books bookKey).level isBid t).tail = _
      rw [hfenced.level]
      exact ⟨rfl, rfl⟩
  · intro t
    rw [bitmap_setLevel]
    show TickBitmap.isTickInitialized ((c₂.books bookKey).bitmap isBid) t = true ↔ _
    rw [hfenced.bitmap]
    exact h.side.bit_shortened hne (List.cons_ne_nil _ _) t
  · rw [bestTick_setLevel]
    show BestOk isBid ((c₂.books bookKey).bestTick isBid) _
    rw [hfenced.bestTick]
    exact h.best.shorten hne (List.cons_ne_nil _ _)

end Popping

end Pop

/-! ## One step of the walk -/

/-- The event of a complete fill. -/
def fullFill (taker : Address) (order : Order) : OrderFilled :=
  ⟨order.orderId, order.maker, taker, order.remaining, false⟩

/-- The event of a fill that leaves a remainder. -/
def partialFill (taker : Address) (order : Order) (amount : ℕ) : OrderFilled :=
  ⟨order.orderId, order.maker, taker, amount, true⟩

variable {fillAmount : ℕ} {level' : TickLevel}

namespace Cursor

variable {spec : TempoHardfork} {c : DexCore} {bookKey : B256} {isBid : Bool}
  {queues : Queues} {level : TickLevel} {order : Order} {rest : List ℕ}

section Cursors

variable (h : Cursor spec c bookKey isBid queues level order)

include h

theorem mem :
    order.orderId ∈ queues order.tick := by
  obtain ⟨rest, hqueue⟩ := h.first
  rw [hqueue]
  exact List.mem_cons_self

theorem resting :
    Resting order bookKey isBid order.tick order.orderId := by
  have hrest := h.side.resting order.tick order.orderId h.mem
  rw [show (c.side bookKey isBid).order order.orderId = order from h.order_eq] at hrest
  exact hrest

section FirstOrder

variable (hqueue : queues order.tick = order.orderId :: rest)

include hqueue

theorem next_eq :
    order.next = rest.headD 0 := by
  have hsplit : queues order.tick = [] ++ order.orderId :: rest := hqueue
  have hpointers := h.side.pointers hsplit
  rw [show (c.side bookKey isBid).order order.orderId = order from h.order_eq] at hpointers
  exact hpointers.2

theorem range_rest (tick : ℤ) (hne : update queues order.tick rest tick ≠ []) :
    minTick ≤ tick ∧ tick ≤ maxTick := by
  obtain ⟨id, hmem⟩ := List.exists_mem_of_ne_nil _ hne
  exact h.side.range tick (List.ne_nil_of_mem (h.toWalkable.others_of_mem hqueue hmem).1)

/-- The order in hand is the first one in priority. -/
theorem priority_eq_cons :
    priority isBid queues =
      order.orderId :: priority isBid (update queues order.tick rest) := by
  have hrange := h.side.range order.tick (List.ne_nil_of_mem h.mem)
  refine priority_pop hrange (fun t ht => ?_) hqueue
  have hbest := h.best
  rw [h.tick_best] at hbest
  exact hbest.nil_of_better ht

end FirstOrder

theorem side_partlyFilled (hless : fillAmount < order.remaining) (hhead : level'.head = level.head)
    (htail : level'.tail = level.tail) (event : OrderFilled) :
    SideOk ((c.partlyFilled spec order level' fillAmount event).side bookKey isBid) bookKey isBid
      queues := by
  have hlinks : ∀ t,
      (((c.partlyFilled spec order level' fillAmount event).books bookKey).level isBid t).head =
        ((c.books bookKey).level isBid t).head ∧
      (((c.partlyFilled spec order level' fillAmount event).books bookKey).level isBid t).tail =
        ((c.books bookKey).level isBid t).tail := by
    intro t
    rw [level_partlyFilled]
    split
    · rename_i hsame
      rw [hsame.2.2.2]
      exact ⟨hhead.trans h.level_head, htail.trans h.level_tail⟩
    · exact ⟨rfl, rfl⟩
  have hpos : 0 < order.remaining - fillAmount := Nat.sub_pos_of_lt hless
  refine h.side.setRemaining h.mem hpos ?_ ?_ (fun t => (hlinks t).1) (fun t => (hlinks t).2) ?_
  · rw [show (c.side bookKey isBid).order order.orderId = order from h.order_eq]
    exact Nat.sub_le _ _
  · intro t y _
    show ((c.partlyFilled spec order level' fillAmount event).orders y).order = _
    rw [orders_partlyFilled]
    split
    · rename_i heq
      rw [heq]
      rfl
    · rfl
  · intro t
    show TickBitmap.isTickInitialized
      (((c.partlyFilled spec order level' fillAmount event).books bookKey).bitmap isBid) t = _
    rw [project_partlyFilled _ _ _ _ _ _ Orderbook.bitmap (fun _ _ => rfl)]
    rfl

end Cursors

end Cursor

variable {next : Option (TickLevel × Order)} {c : DexCore}

section Step

variable [BookHash] {ctx : Context} {s s' : DexState} {bookKey : B256} {isBid : Bool}
  {queues : Queues} {level : TickLevel} {order : Order} {rest : List ℕ}
  {deltas deltas' : StorageCreditDeltas} {taker : Address}

/-- Advancing past an exhausted tick, after a retirement behind the fence. -/
theorem advanceTick_step (h : Walkable c bookKey isBid queues)
    (htick : (c.books bookKey).bestTick isBid = order.tick)
    (hqueue : queues order.tick = [order.orderId]) (hside : order.isBid = isBid)
    (hfenced : Fenced c bookKey isBid (Others queues order.orderId) s)
    (hrun : advanceTick ctx bookKey order s = .ok next s') :
    Walkable s' bookKey isBid (update queues order.tick []) ∧
      Arrived ctx.spec s' bookKey isBid (update queues order.tick [])
        next := by
  obtain ⟨hcore, rfl⟩ := advanceTick_ok hrun
  rw [hside] at hcore ⊢
  have hwalk := h.popTick ctx.spec htick hqueue hfenced
  rw [← hcore] at hwalk
  have hbest := @Orderbook.bestTick_withoutTick ctx.spec (s.books bookKey) isBid order.tick
  rw [← books_setBook s bookKey (Orderbook.withoutTick _ _ _ _), ← hcore]
    at hbest
  refine ⟨hwalk, ?_⟩
  simp only at hbest ⊢
  split at hbest
  · rename_i hfound
    rw [if_pos hfound]
    refine hwalk.cursor ctx.spec hbest ?_
    refine (hwalk.side.bit _).mp ?_
    show TickBitmap.isTickInitialized ((s'.books bookKey).bitmap isBid) _ = true
    rw [hcore, books_setBook, Orderbook.bitmap_withoutTick]
    exact (TickBitmap.nextInitializedTick_some (Prod.ext rfl hfound)).2.1
  · rename_i hfound
    rw [if_neg hfound]
    have hnone := hwalk.best
    rw [hbest] at hnone
    exact hnone.nil_of_noTick hwalk.side.range

/-- Advancing to the next order of the tick, after a retirement behind the fence. -/
theorem advanceOrder_step {next : StorageCreditDeltas × TickLevel × Order}
    (h : Walkable c bookKey isBid queues) (htick : (c.books bookKey).bestTick isBid = order.tick)
    (hqueue : queues order.tick = order.orderId :: id :: rest) (hside : order.isBid = isBid)
    (hnext : order.next = id) (htail : level.tail = ((c.books bookKey).level isBid order.tick).tail)
    (hfenced : Fenced c bookKey isBid (Others queues order.orderId) s)
    (hrun : advanceOrder ctx deltas bookKey order level s = .ok next s') :
    Cursor ctx.spec s' bookKey isBid
      (update queues order.tick (id :: rest)) next.2.1 next.2.2 := by
  obtain ⟨hcore, hhead, htail', _, horder⟩ := advanceOrder_ok hrun
  rw [hside, hnext] at hcore
  rw [hnext] at hhead
  have hstoredHead : (storedLevel ctx.spec ((s.books bookKey).level isBid order.tick)
      next.2.1).head = id :=
    (storedLevel_head _ _).trans hhead
  have hstoredTail : (storedLevel ctx.spec ((s.books bookKey).level isBid order.tick)
      next.2.1).tail = ((c.books bookKey).level isBid order.tick).tail := by
    rw [storedLevel_tail, htail', htail]
  have hwalk := h.popOrder hqueue hfenced hstoredHead hstoredTail
  rw [← hcore] at hwalk
  have hlevel : (s'.books bookKey).level isBid order.tick =
      storedLevel ctx.spec ((s.books bookKey).level isBid order.tick) next.2.1 := by
    rw [hcore, level_setLevel, if_pos ⟨rfl, rfl, rfl⟩]
  have hbest : (s'.books bookKey).bestTick isBid = order.tick := by
    rw [hcore, bestTick_setLevel]
    show (s.books bookKey).bestTick isBid = _
    rw [hfenced.bestTick, htick]
  rw [horder, hnext]
  refine hwalk.cursorAt hbest (update_self _ _ _) ?_ ?_ ?_
  · rw [hlevel, storedLevel_head]
  · rw [hlevel, storedLevel_tail]
  · intro hspec
    rw [hlevel]
    unfold storedLevel
    rw [hspec]
    rfl

/-- A complete fill takes the order in hand off the front of the priority
sequence and moves on to the next one. -/
theorem fillOrder_step (h : Cursor ctx.spec s bookKey isBid queues level order)
    (hqueue : queues order.tick = order.orderId :: rest)
    (hrun : fillOrder ctx deltas bookKey order level taker s = .ok (deltas', next) s') :
    Walkable s' bookKey isBid (update queues order.tick rest) ∧
      s'.filled = s.filled ++ [fullFill taker order] ∧
      (∀ y, Others queues order.orderId y → s'.orders y =
        if y = rest.headD 0 then (s.orders y).setField .prev 0 else s.orders y) ∧
      Arrived ctx.spec s' bookKey isBid (update queues order.tick rest)
        next := by
  have hside : order.isBid = isBid := h.resting.isBid_eq
  have hnext := h.next_eq hqueue
  unfold fillOrder at hrun
  simp only [bind_ok, get_ok] at hrun
  obtain ⟨_, _, ⟨rfl, rfl⟩, _, t₁, hsettle, _, t₂, hemit, deltas₁, t₃, hretire, hrun⟩ := hrun
  have hcore := emitOrderFilled_core hemit
  rw [settleMaker_core hsettle] at hcore
  have hbooks : t₂.books = s.books := by rw [hcore]; rfl
  have horders : t₂.orders = s.orders := by rw [hcore]; rfl
  have hfilled : t₂.filled = s.filled ++ [fullFill taker order] := by rw [hcore]; rfl
  have hwalk : Walkable t₂ bookKey isBid queues :=
    h.toWalkable.congr hbooks horders (by rw [hcore]; rfl)
  have hfenced : Fenced t₂ bookKey isBid (Others queues order.orderId)
      t₃.toDexCore := by
    have hkeeps : KeepsCore
        (Fenced t₂ bookKey isBid (Others queues order.orderId))
        (retireFilledOrder ctx deltas (s.books bookKey) order) :=
      fenced_retireFilledOrder hside (fun hothers => hothers.1 rfl)
    exact Keeps.ok hkeeps (hwalk.fenced order.orderId) hretire
  rw [← hfilled, ← hfenced.filled]
  rw [← horders]
  have htick : (t₂.books bookKey).bestTick isBid = order.tick := by
    rw [hbooks]
    exact h.tick_best
  cases rest with
  | nil =>
    have hzero : order.next = 0 := hnext
    rw [if_pos hzero] at hrun
    simp only [bind_ok, pure_ok] at hrun
    obtain ⟨next', t₄, hadvance, heq, rfl⟩ := hrun
    obtain ⟨rfl, rfl⟩ := Prod.mk.inj heq
    obtain ⟨hwalk', hresult⟩ := advanceTick_step hwalk htick hqueue hside hfenced hadvance
    obtain ⟨hcore', _⟩ := advanceTick_ok hadvance
    refine ⟨hwalk', ?_, ?_, hresult⟩
    · rw [hcore']
      rfl
    · intro y hy
      rw [hcore', if_neg (show y ≠ ([] : List ℕ).headD 0 from (hfenced.fresh y hy).1)]
      exact hfenced.record y hy
  | cons id rest =>
    have hid : order.next = id := hnext
    have hmem : id ∈ queues order.tick := by
      rw [hqueue]
      simp
    have hzero : order.next ≠ 0 := by
      rw [hid]
      exact (h.side.resting _ id hmem).id_ne_zero
    rw [if_neg hzero] at hrun
    simp only [bind_ok, pure_ok] at hrun
    obtain ⟨next', t₄, hadvance, heq, rfl⟩ := hrun
    obtain ⟨rfl, rfl⟩ := Prod.mk.inj heq
    have htail : level.tail = ((t₂.books bookKey).level isBid order.tick).tail := by
      rw [hbooks]
      exact h.level_tail
    have hcursor := advanceOrder_step hwalk htick hqueue hside hid htail hfenced hadvance
    obtain ⟨hcore', _⟩ := advanceOrder_ok hadvance
    refine ⟨hcursor.toWalkable, ?_, ?_, hcursor⟩
    · rw [hcore']
      rfl
    · intro y hy
      rw [hcore']
      show (t₃.setRecord order.next _).orders y = _
      rw [orders_setRecord, hid]
      show (if y = id then _ else _) = if y = id then _ else _
      split
      · rename_i heq
        subst heq
        rw [hfenced.record y hy]
      · exact hfenced.record y hy

/-- A partial fill only changes the remaining amount of the order in hand. -/
theorem partialFillOrder_step (h : Cursor ctx.spec s bookKey isBid queues level order)
    (hless : fillAmount < order.remaining)
    (hrun : partialFillOrder ctx order level fillAmount taker s = .ok level' s') :
    SideOk (s'.side bookKey isBid) bookKey isBid queues ∧
      s'.filled = s.filled ++ [partialFill taker order fillAmount] ∧
      ∀ y, s'.orders y = if y = order.orderId then
        (s.orders y).setField .remaining (order.remaining - fillAmount) else s.orders y := by
  obtain ⟨hhead, htail, _, hcore⟩ := partialFillOrder_ok hrun
  refine ⟨?_, ?_, ?_⟩
  · rw [hcore]
    exact h.side_partlyFilled hless hhead htail _
  · rw [hcore]
    rfl
  · intro y
    rw [hcore, orders_partlyFilled]
    split
    · rename_i heq
      rw [heq]
    · rfl

end Step

/-! ## The whole walk -/

/-- What a fill did to its side: the orders in `full` were filled completely, the
one in `last`, if any, in part, and those in `untouched` not at all.  The reported
fills are the orders consumed. -/
structure Consumption (taker : Address) (c c' : DexCore) (bookKey : B256) (isBid : Bool)
    (queues queues' : Queues) (full : List ℕ) (last : Option (ℕ × ℕ)) (untouched : List ℕ) :
    Prop where
  before : priority isBid queues = full ++ (last.map Prod.fst).toList ++ untouched
  after : priority isBid queues' = (last.map Prod.fst).toList ++ untouched
  side : SideOk (c'.side bookKey isBid) bookKey isBid queues'
  reported : c'.filled = c.filled ++
    full.map (fun id => fullFill taker (c.orders id).order) ++
    last.toList.map (fun fill => partialFill taker (c.orders fill.1).order fill.2)
  remainder : ∀ fill, last = some fill → fill.2 < (c.orders fill.1).order.remaining ∧
    (c'.orders fill.1).order.remaining = (c.orders fill.1).order.remaining - fill.2 ∧
    (c'.orders fill.1).order.tick = (c.orders fill.1).order.tick
  kept : ∀ id ∈ untouched, (c'.orders id).order.contents = (c.orders id).order.contents

variable {taker : Address}

theorem fullFill_of_contents {a b : Order} (h : a.contents = b.contents) :
    fullFill taker a = fullFill taker b := by
  obtain ⟨hid, hmaker, _, _, _, _, hremaining⟩ := Order.contents_fields h
  unfold fullFill
  rw [hid, hmaker, hremaining]

theorem partialFill_of_contents {a b : Order} (h : a.contents = b.contents) (amount : ℕ) :
    partialFill taker a amount = partialFill taker b amount := by
  obtain ⟨hid, hmaker, _⟩ := Order.contents_fields h
  unfold partialFill
  rw [hid, hmaker]

/-- The state of a walk over the queues of `c`: the orders in `full` have been taken
off, and it stands at the first of the others, which only lost a back pointer. -/
structure Progress (spec : TempoHardfork) (c : DexCore) (bookKey : B256) (isBid : Bool)
    (queues : Queues) (full : List ℕ) (queues' : Queues) (w : FillState) (order : Order) :
    Prop where
  cursor : Cursor spec w.dex.toDexCore bookKey isBid queues' w.level order
  split : priority isBid queues = full ++ priority isBid queues'
  kept : ∀ tick, ∀ id ∈ queues' tick,
    (w.dex.orders id).order.forward = (c.orders id).order.forward

variable {bookKey : B256} {queues queues' : Queues} {isBid : Bool} {order : Order} {w : FillState}
  {full : List ℕ}

/-- The order in hand is the one the walk started with, but for its back pointer. -/
theorem Progress.forward_eq (h : Progress spec c bookKey isBid queues full queues' w order) :
    order.forward = (c.orders order.orderId).order.forward := by
  have hforward := h.kept order.tick order.orderId h.cursor.mem
  rw [h.cursor.order_eq] at hforward
  exact hforward

theorem Progress.order_eq (h : Progress spec c bookKey isBid queues full queues' w order) :
    order.contents = (c.orders order.orderId).order.contents ∧
      order.next = (c.orders order.orderId).order.next :=
  Order.forward_fields h.forward_eq

variable {amount : ℕ} {ctx : Context}

variable {w' : FillState}

theorem settleFill_partially_ok [BookHash] {next : Option Order}
    (h : settleFill ctx bookKey taker order (.partially amount) w = .ok next w') :
    ∃ level s, partialFillOrder ctx order w.level amount taker w.dex = .ok level s ∧
      w' = { w with dex := s, level := level } := by
  unfold settleFill at h
  simp only at h
  split at h
  · rename_i level s hrun
    exact ⟨level, s, hrun, (EStateM.Result.ok.inj h).2.symm⟩
  · exact nomatch h

theorem settleFill_full_ok [BookHash] {next : Option Order}
    (h : settleFill ctx bookKey taker order .full w = .ok next w') :
    (∃ deltas level order' s, next = some order' ∧ w' = ⟨s, level, deltas⟩ ∧
        fillOrder ctx w.deltas bookKey order w.level taker w.dex =
          .ok (deltas, some (level, order')) s) ∨
      ∃ deltas s, next = none ∧ w' = ⟨s, w.level, deltas⟩ ∧
        fillOrder ctx w.deltas bookKey order w.level taker w.dex = .ok (deltas, none) s := by
  unfold settleFill at h
  simp only at h
  split at h
  · rename_i deltas level order' s hrun
    obtain ⟨rfl, rfl⟩ := EStateM.Result.ok.inj h
    exact Or.inl ⟨deltas, level, order', s, rfl, rfl, hrun⟩
  · rename_i deltas s hrun
    obtain ⟨rfl, rfl⟩ := EStateM.Result.ok.inj h
    exact Or.inr ⟨deltas, s, rfl, rfl, hrun⟩
  · exact nomatch h

variable {step : ℕ → Order → Bool → Option OrderStep} {deltas : StorageCreditDeltas} {s : DexState}

section Walk

variable [BookHash] {ctx : Context} {c : DexCore} {bookKey : B256} {isBid : Bool}
  {queues queues' : Queues} {full : List ℕ} {w w' : FillState} {order : Order}
  {taker : Address}

/-- A complete fill moves the order in hand to the filled ones. -/
theorem Progress.fill (h : Progress ctx.spec c bookKey isBid queues full queues' w order)
    (hqueue : queues' order.tick = order.orderId :: rest)
    (hrun : fillOrder ctx w.deltas bookKey order w.level taker w.dex = .ok (deltas, next) s) :
    priority isBid queues = (full ++ [order.orderId]) ++
        priority isBid (update queues' order.tick rest) ∧
      (∀ tick, ∀ id ∈ update queues' order.tick rest tick,
        (s.orders id).order.forward = (c.orders id).order.forward) ∧
      Walkable s bookKey isBid (update queues' order.tick rest) ∧
      Arrived ctx.spec s bookKey isBid (update queues' order.tick rest)
        next := by
  obtain ⟨hwalk, _, horders, harrived⟩ := fillOrder_step h.cursor hqueue hrun
  refine ⟨?_, ?_, hwalk, harrived⟩
  · rw [h.split, h.cursor.priority_eq_cons hqueue]
    simp
  · intro tick id hid
    obtain ⟨hold, hothers⟩ := h.cursor.toWalkable.others_of_mem hqueue hid
    rw [← h.kept tick id hold, horders id hothers]
    split <;> rfl

/-- The fills reported so far are those of the orders taken off. -/
def Reported (taker : Address) (c : DexCore) (full : List ℕ) (w : FillState) : Prop :=
  w.dex.filled = c.filled ++ full.map (fun id => fullFill taker (c.orders id).order)

section Reported

variable (h : Progress ctx.spec c bookKey isBid queues full queues' w order)
  (hreported : Reported taker c full w)

include h hreported

theorem Progress.reported
    (hrun : fillOrder ctx w.deltas bookKey order w.level taker w.dex = .ok (deltas, next) s) :
    Reported taker c (full ++ [order.orderId]) ⟨s, level, deltas⟩ := by
  obtain ⟨rest, hqueue⟩ := h.cursor.first
  obtain ⟨_, hfilled, _, _⟩ := fillOrder_step h.cursor hqueue hrun
  show s.filled = _
  rw [hfilled, hreported, fullFill_of_contents h.order_eq.1]
  simp

/-- The walk fills orders in priority: from any point of it to its end. -/
theorem walk_consumption {fuel total : ℕ} {result : ℕ}
    (hrun : walkRestingOrders step isBid (settleFill ctx bookKey taker) fuel order amount total w
      = .ok result w') :
    ∃ full last untouched queues', Consumption taker c w'.dex.toDexCore bookKey isBid queues
      queues' full last untouched := by
  refine walkRestingOrders_rule
    (fun _ w order _ _ => ∃ full queues',
      Progress ctx.spec c bookKey isBid queues full queues' w order ∧ Reported taker c full w)
    (fun w' _ => ∃ full last untouched queues', Consumption taker c w'.dex.toDexCore bookKey
      isBid queues queues' full last untouched)
    ?_ ?_ ?_ ?_ fuel w w' order amount total result ⟨full, queues', h, hreported⟩ hrun
  · rintro fuel w order total ⟨full, queues', h, hreported⟩
    refine ⟨full, none, priority isBid queues', queues', ?_, ?_, h.cursor.side, ?_, ?_, ?_⟩
    · simpa using h.split
    · simp
    · simpa [Reported] using hreported
    · intro fill hfill
      exact nomatch hfill
    · intro id hid
      obtain ⟨tick, hmem⟩ := (mem_priority h.cursor.side.range).mp hid
      exact (Order.forward_fields (h.kept tick id hmem)).1
  · rintro fuel w order amount total next w' st ⟨full, queues', h, hreported⟩ _ _ hless hsettle _
    obtain ⟨rest, hqueue⟩ := h.cursor.first
    obtain ⟨level, s, hfill, rfl⟩ := settleFill_partially_ok hsettle
    obtain ⟨hside, hfilled, horders⟩ := partialFillOrder_step h.cursor hless hfill
    have hpriority := h.cursor.priority_eq_cons hqueue
    obtain ⟨_, _, _, _, htick, _, hremaining⟩ := Order.contents_fields h.order_eq.1
    refine ⟨full, some (order.orderId, st.fillAmount),
      priority isBid (update queues' order.tick rest), queues', ?_, ?_, hside, ?_, ?_,
      ?_⟩
    · rw [h.split, hpriority]
      simp
    · rw [hpriority]
      simp
    · show s.filled = _
      rw [hfilled, hreported, partialFill_of_contents h.order_eq.1]
      simp
    · rintro fill hfill
      obtain rfl := Option.some.inj hfill
      rw [horders, if_pos rfl, ← hremaining, ← htick]
      refine ⟨hless, rfl, ?_⟩
      show (w.dex.orders order.orderId).order.tick = order.tick
      rw [h.cursor.order_eq]
    · intro id hid
      obtain ⟨tick, hmem⟩ := (mem_priority (h.cursor.range_rest hqueue)).mp hid
      obtain ⟨hold, hothers⟩ := h.cursor.toWalkable.others_of_mem hqueue hmem
      rw [← (Order.forward_fields (h.kept tick id hold)).1]
      rw [horders, if_neg hothers.1]
  · rintro fuel w order amount total next w' st ⟨full, queues', h, hreported⟩ _ _ _ hsettle _
    obtain ⟨rest, hqueue⟩ := h.cursor.first
    rcases settleFill_full_ok hsettle with ⟨deltas, level, order', s, hnext, rfl, hfill⟩ |
      ⟨deltas, s, hnext, _⟩
    · obtain rfl := Option.some.inj hnext
      obtain ⟨hsplit, hkept, _, hcursor⟩ := h.fill hqueue hfill
      exact ⟨_, _, ⟨hcursor, hsplit, hkept⟩, h.reported hreported hfill⟩
    · exact nomatch hnext
  · rintro fuel w order amount total w' st ⟨full, queues', h, hreported⟩ _ _ _ hsettle _ _
    obtain ⟨rest, hqueue⟩ := h.cursor.first
    rcases settleFill_full_ok hsettle with ⟨_, _, _, _, hnext, _⟩ | ⟨deltas, s, _, rfl, hfill⟩
    · exact nomatch hnext
    · obtain ⟨hsplit, _, hwalk, hempty⟩ := h.fill hqueue hfill
      have hfilled : Reported taker c (full ++ [order.orderId]) ⟨s, w.level, deltas⟩ :=
        h.reported hreported hfill
      rw [priority_eq_nil hempty] at hsplit
      refine ⟨full ++ [order.orderId], none, [], update queues' order.tick rest, ?_, ?_,
        hwalk.side, ?_, ?_, ?_⟩
      · simpa using hsplit
      · rw [priority_eq_nil hempty]
        rfl
      · simpa [Reported] using hfilled
      · intro fill hfill
        exact nomatch hfill
      · intro id hid
        exact nomatch hid

end Reported

end Walk

/-! ## Fills of one book -/

theorem Listed.walkable [BookHash] {listing : Listing} (h : Listed c listing)
    (hbook : (c.books bookKey).isInitialized = true) (isBid : Bool) :
    Walkable c bookKey isBid (listing bookKey isBid) where
  side := h.side bookKey isBid
  best := h.best bookKey isBid hbook
  created := hbook
  key := fun tick id hid => (h.record bookKey isBid tick id hid).1.1
  fresh := fun tick id hid => (h.record bookKey isBid tick id hid).2
  apart := by
    intro key side tick hother t hmem
    have htail : ((c.books key).level side tick).tail = (listing key side tick).getLastD 0 :=
      (h.side key side).tail tick
    have hzero := ((h.side bookKey isBid).resting t _ hmem).id_ne_zero
    rw [htail] at hmem hzero
    have hne : listing key side tick ≠ [] := by
      intro hnil
      rw [hnil] at hzero
      exact hzero rfl
    have hsame := h.unique hmem (getLastD_mem 0 hne)
    exact hother ⟨hsame.1, hsame.2.1⟩

variable {result : ℕ × StorageCreditDeltas}

variable {s' : DexState}

/-- A fill walks the side from the head of its best tick. -/
theorem fillOrders_ok [BookHash]
    (h : fillOrders ctx step taker deltas bookKey isBid amount s = .ok result s') :
    let tick := (s.books bookKey).bestTick isBid
    let level := levelRead ctx.spec ((s.books bookKey).level isBid tick)
    tick ≠ noTick isBid ∧
      ∃ w', walkRestingOrders step isBid (settleFill ctx bookKey taker) s.nextOrderId
          ((s.orders level.head).inBook level.head bookKey) amount 0 ⟨s, level, deltas⟩ =
          .ok result.1 w' ∧ w'.dex = s' ∧ w'.deltas = result.2 := by
  unfold fillOrders getBestPriceLevel at h
  simp only [bind_ok, get_ok, require_ok, readOrderInBook_ok] at h
  obtain ⟨level, _, ⟨_, _, ⟨rfl, rfl⟩, _, _, ⟨htick, rfl⟩, hlevel⟩, _, _, ⟨rfl, rfl⟩, h⟩ := h
  obtain ⟨rfl, rfl⟩ := readLevel_ok hlevel
  unfold settleOrders at h
  split at h
  · rename_i total w' hwalk
    obtain ⟨rfl, rfl⟩ := EStateM.Result.ok.inj h
    exact ⟨htick, w', hwalk, rfl, rfl⟩
  · cases h

/-- No side has more orders than were ever placed. -/
theorem Walkable.length_priority (h : Walkable c bookKey isBid queues) :
    (priority isBid queues).length ≤ c.nextOrderId := by
  have hsub : priority isBid queues ⊆ List.range c.nextOrderId := by
    intro id hid
    obtain ⟨tick, hmem⟩ := (mem_priority h.side.range).mp hid
    exact List.mem_range.mpr (h.fresh tick id hmem)
  have hlength := (h.side.nodup_priority.subperm hsub).length_le
  rw [List.length_range] at hlength
  exact hlength

/-- The bound of `settleOrders` is no restriction: a larger one gives the same
outcome. -/
theorem settleOrders_bound [BookHash] {fuel total : ℕ}
    (h : Cursor ctx.spec w.dex.toDexCore bookKey isBid queues w.level order)
    (hfuel : w.dex.nextOrderId ≤ fuel) :
    walkRestingOrders step isBid (settleFill ctx bookKey taker) fuel order amount total w =
      walkRestingOrders step isBid (settleFill ctx bookKey taker) w.dex.nextOrderId order amount
        total w := by
  refine walkRestingOrders_bound
    (fun w order n => ∃ queues, Cursor ctx.spec w.dex.toDexCore bookKey isBid queues w.level
      order ∧ (priority isBid queues).length ≤ n)
    ?_ ?_ ⟨queues, h, h.toWalkable.length_priority⟩ hfuel
  · rintro w order ⟨queues, hcursor, hlength⟩
    obtain ⟨rest, hqueue⟩ := hcursor.first
    rw [hcursor.priority_eq_cons hqueue] at hlength
    exact Nat.not_succ_le_zero _ hlength
  · rintro w w' order next n ⟨queues, hcursor, hlength⟩ hsettle
    obtain ⟨rest, hqueue⟩ := hcursor.first
    rw [hcursor.priority_eq_cons hqueue] at hlength
    rcases settleFill_full_ok hsettle with ⟨_, level, order', s, hnext, rfl, hfill⟩ |
      ⟨_, _, hnext, _⟩
    · obtain rfl := Option.some.inj hnext
      obtain ⟨_, _, _, harrived⟩ := fillOrder_step hcursor hqueue hfill
      exact ⟨_, harrived, Nat.le_of_succ_le_succ hlength⟩
    · exact nomatch hnext

/-- Price-time priority of any fill: the consumed orders come first in the priority
sequence of the side, and the others keep their places. -/
theorem fillOrders_consumption [BookHash] (hwalk : Walkable s bookKey isBid queues)
    (h : fillOrders ctx step taker deltas bookKey isBid amount s = .ok result s') :
    ∃ full last untouched queues', Consumption taker s s' bookKey isBid
      queues queues' full last untouched := by
  obtain ⟨htick, w', hrun, rfl, _⟩ := fillOrders_ok h
  have hcursor := hwalk.cursor ctx.spec rfl (hwalk.best.ne_nil htick)
  have hstart : Progress ctx.spec s bookKey isBid queues [] queues
      ⟨s, _, deltas⟩ _ :=
    ⟨hcursor, by simp, fun _ _ _ => rfl⟩
  refine walk_consumption hstart ?_ hrun
  show s.filled = _
  simp

/-- Price-time priority: a fill of one book, exact in or exact out, that succeeds
in a well-formed state consumes a front part of the priority sequence, all but
possibly the last of it completely; every other order of the side keeps its tick,
its remaining amount and its position. -/
theorem fill_price_time_priority [BookHash] {ctx : Context} {taker : Address}
    {deltas : StorageCreditDeltas} {bookKey : B256} {isBid : Bool} {amount : ℕ}
    {result : ℕ × StorageCreditDeltas} {s s' : DexState} {listing : Listing}
    (hstate : Listed s listing)
    (hbook : (s.books bookKey).isInitialized = true)
    (hfill : fillOrdersExactIn ctx taker deltas bookKey isBid amount s = .ok result s' ∨
      fillOrdersExactOut ctx taker deltas bookKey isBid amount s = .ok result s') :
    ∃ (full : List ℕ) (last : Option (ℕ × ℕ)) (untouched : List ℕ) (queues' : Queues),
      priority isBid (listing bookKey isBid) =
        full ++ (last.map Prod.fst).toList ++ untouched ∧
      s'.filled = s.filled ++
        full.map (fun id => fullFill taker (s.orders id).order) ++
        last.toList.map (fun fill => partialFill taker (s.orders fill.1).order fill.2) ∧
      (∀ fill, last = some fill → fill.2 < (s.orders fill.1).order.remaining ∧
        (s'.orders fill.1).order.remaining = (s.orders fill.1).order.remaining - fill.2 ∧
        (s'.orders fill.1).order.tick = (s.orders fill.1).order.tick) ∧
      SideOk (s'.side bookKey isBid) bookKey isBid queues' ∧
      priority isBid queues' = (last.map Prod.fst).toList ++ untouched ∧
      ∀ id ∈ untouched, (s'.orders id).order.tick = (s.orders id).order.tick ∧
        (s'.orders id).order.remaining = (s.orders id).order.remaining := by
  have hwalk := hstate.walkable hbook isBid
  obtain ⟨full, last, untouched, queues', hconsumed⟩ : ∃ full last untouched queues',
      Consumption taker s s' bookKey isBid (listing bookKey isBid) queues'
        full last untouched := by
    rcases hfill with hin | hout
    · exact fillOrders_consumption hwalk hin
    · exact fillOrders_consumption hwalk hout
  refine ⟨full, last, untouched, queues', hconsumed.before, hconsumed.reported,
    hconsumed.remainder, hconsumed.side, hconsumed.after, fun id hid => ?_⟩
  obtain ⟨_, _, _, _, htick, _, hremaining⟩ := Order.contents_fields (hconsumed.kept id hid)
  exact ⟨htick, hremaining⟩

/-- A new DEX with one pair and the orders of a list on it, the newest first. -/
def DexCore.stocked [BookHash] (base quote : Address) : List Order → DexCore
  | [] => (genesis fun _ _ => 0).withPair (computeBookKey base quote) base quote 1
  | order :: older =>
    commit { stocked base quote older with nextOrderId := order.orderId + 1 } .T12 order

/-- The queues of a stocked DEX. -/
def Listing.stocked (orders : List Order) : Listing :=
  orders.foldr (fun order listing => Listing.append listing order) fun _ _ _ => []

/-- A DEX that was stocked in the order of the ids is well formed. -/
theorem listed_stocked [BookHash] {base quote : Address} (hbase : base ≠ 0) {orders : List Order}
    (hvalid : ∀ order ∈ orders, order.bookKey = computeBookKey base quote ∧ order.orderId ≠ 0 ∧
      (0 < order.remaining ∧ order.remaining ≤ order.amount) ∧
      (order.prev = 0 ∧ order.next = 0) ∧ minTick ≤ order.tick ∧ order.tick ≤ maxTick)
    (hids : orders.Pairwise fun newer older => older.orderId < newer.orderId) :
    Listed (.stocked base quote orders) (.stocked orders) ∧
      ((DexCore.stocked base quote orders).books (computeBookKey base quote)).isInitialized =
        true ∧
      ∀ bound, (∀ order ∈ orders, order.orderId < bound) →
        (DexCore.stocked base quote orders).nextOrderId ≤ bound := by
  induction orders with
  | nil =>
    refine ⟨(listed_genesis fun _ _ => 0).withPair rfl (by decide), ?_,
      fun bound _ => Nat.zero_le bound⟩
    have hself : ((genesis fun _ _ => 0).withPair (computeBookKey base quote) base quote
        1).books (computeBookKey base quote) = _ := books_setBook _ _ _
    rw [DexCore.stocked, hself]
    exact bne_iff_ne.mpr hbase
  | cons order older ih =>
    obtain ⟨hkey, hid, hamounts, hlinks, hrange⟩ := hvalid order List.mem_cons_self
    obtain ⟨hnewest, hids⟩ := List.pairwise_cons.mp hids
    obtain ⟨hlisted, hbook, hnext⟩ := ih (fun _ h => hvalid _ (List.mem_cons_of_mem _ h)) hids
    have hlast := hnext order.orderId hnewest
    have hplaced : Listed { DexCore.stocked base quote older with
        nextOrderId := order.orderId + 1 } _ := hlisted.congr rfl rfl rfl (Nat.le_succ_of_le hlast)
    refine ⟨hplaced.commit hid (fun _ _ _ hmem => ?_) (Nat.lt_succ_self _) (hkey ▸ hbook)
      hamounts.1 hamounts.2 hlinks.1 hlinks.2 fun _ => hrange, ?_, fun bound hbound => ?_⟩
    · exact Nat.not_lt.mpr hlast (hlisted.record _ _ _ _ hmem).2
    · refine Eq.trans ?_ hbook
      exact congrArg (· != 0) ((DexCore.oneSided_commit _ _ order).pair _).1
    · exact hbound order List.mem_cons_self

/-- A stocked DEX without storage credits. -/
def stockedDex [BookHash] (base quote : Address) (orders : List Order) : DexState where
  toDexCore := .stocked base quote orders
  storageCredits := fun _ => 0
  credits := ⟨0, .preserve, 0, 0⟩

/-- Four asks above par, two at each of two ticks. -/
def ladder (bookKey : B256) : List Order :=
  [.newAsk 4 9 bookKey 700 20, .newAsk 3 8 bookKey 2000 20, .newAsk 2 8 bookKey 500 10,
    .newAsk 1 9 bookKey 1000 10]

/-- Two thousand units of quote buy the first tick and a part of the second. -/
theorem fill_price_time_priority_two_ticks :
    letI := BookHash.pairing
    let key := computeBookKey 5 6
    let s := stockedDex 5 6 (ladder key)
    ∃ result s' full last untouched,
      fillOrdersExactIn ⟨.T12, .permissive 6, 0⟩ 7 [] key false 2000 s = .ok result s' ∧
      s'.filled.map (fun fill => (fill.orderId, fill.partialFill)) =
        [(1, false), (2, false), (3, true)] ∧
      priority false (Listing.stocked (ladder key) key false) =
        full ++ (last.map Prod.fst).toList ++ untouched ∧
      s'.filled = s.filled ++ full.map (fun id => fullFill 7 (s.orders id).order) ++
        (Option.toList last).map (fun fill => partialFill 7 (s.orders fill.1).order fill.2) := by
  let := BookHash.pairing
  intro key s
  have hreturned : returned ((do
      let _ ← fillOrdersExactIn ⟨.T12, .permissive 6, 0⟩ 7 [] key false 2000
      let t ← get
      require (t.filled.map (fun fill => (fill.orderId, fill.partialFill)) =
        [(1, false), (2, false), (3, true)]) .underOverflow : DexM Unit) s) = true := by
    decide +kernel
  obtain ⟨_, _, hrun⟩ := returned_iff.mp hreturned
  obtain ⟨result, s', hfill, hrun⟩ := bind_ok.mp hrun
  obtain ⟨hfilled, -⟩ := require_ok.mp hrun
  obtain ⟨hlisted, hbook, -⟩ := @listed_stocked _ 5 6 (by decide) (ladder key) (by decide)
    (by decide)
  obtain ⟨full, last, untouched, _, hbefore, hreported, -⟩ :=
    fill_price_time_priority hlisted hbook (Or.inl hfill)
  exact ⟨result, s', full, last, untouched, hfill, hfilled, hbefore, hreported⟩

end Monotempo.Dex
