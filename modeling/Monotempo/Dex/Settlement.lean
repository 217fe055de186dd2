/-
  What a complete fill does to the whole DEX, from T5 on.

  A filled order leaves its queue and its maker is paid; a flip order that can
  afford it is then put on the other side of the book.  In the source the flip is
  written before the queue moves on.  The two touch different parts of the book,
  so the result is the same as removing the order first and placing the flipped
  one afterwards, and every invariant of the DEX can be followed through these two
  changes.
-/
import Monotempo.Dex.Fill

set_option autoImplicit false

namespace Monotempo.Dex

open Chain Foundation Function
open Orderbook (base bestTick bestTick_withOrder bitmap bitmap_withOrder bitmap_withoutTick bookId
  quote setLevel side_withOrder side_withoutTick)
open OrderRecord (absent)

/-! ## Removing the order in hand -/

/-- The book after its first order at a tick has gone; `level` is the new level if
the tick has more orders. -/
def DexCore.withoutHead (c : DexCore) (spec : TempoHardfork) (order : Order)
    (level : TickLevel) : DexCore :=
  if order.next = 0 then
    c.setBook order.bookKey
      ((c.books order.bookKey).withoutTick spec order.isBid order.tick)
  else
    (c.setRecord order.next ((c.orders order.next).setField .prev 0)).setLevel order.bookKey
      order.isBid order.tick level

namespace DexCore

variable (c : DexCore) (spec : TempoHardfork) (order : Order) (level : TickLevel)

theorem orders_withoutHead (id : ℕ) :
    (c.withoutHead spec order level).orders id =
      if order.next ≠ 0 ∧ id = order.next then (c.orders id).setField .prev 0
      else c.orders id := by
  unfold withoutHead
  by_cases hzero : order.next = 0
  · rw [if_pos hzero, if_neg (fun h => h.1 hzero)]
    rfl
  · rw [if_neg hzero]
    show (c.setRecord order.next _).orders id = _
    rw [orders_setRecord]
    by_cases hid : id = order.next
    · subst hid
      rw [if_pos rfl, if_pos ⟨hzero, rfl⟩]
    · rw [if_neg hid, if_neg (fun h => hid h.2)]

/-- The other sides keep their levels, bitmaps and best ticks. -/
theorem side_withoutHead {key : B256} {side : Bool}
    (h : ¬ (key = order.bookKey ∧ side = order.isBid)) :
    ((c.withoutHead spec order level).books key).level side = (c.books key).level side ∧
      ((c.withoutHead spec order level).books key).bitmap side = (c.books key).bitmap side ∧
      ((c.withoutHead spec order level).books key).bestTick side =
        (c.books key).bestTick side := by
  unfold withoutHead
  split
  · by_cases hkey : key = order.bookKey
    · subst hkey
      rw [books_setBook]
      exact side_withoutTick _ _ (fun hside => h ⟨rfl, hside⟩)
    · rw [books_setBook_of_ne _ hkey]
      exact ⟨rfl, rfl, rfl⟩
  · refine ⟨?_, ?_, ?_⟩
    · funext t
      rw [level_setLevel, if_neg (fun hsame => h ⟨hsame.1, hsame.2.1⟩)]
      rfl
    · rw [bitmap_setLevel]
      rfl
    · rw [bestTick_setLevel]
      rfl

theorem pair_withoutHead (key : B256) :
    ((c.withoutHead spec order level).books key).base = (c.books key).base ∧
      ((c.withoutHead spec order level).books key).quote = (c.books key).quote ∧
      ((c.withoutHead spec order level).books key).bookId = (c.books key).bookId := by
  unfold withoutHead
  split
  · exact ⟨project_setBook _ _ _ base rfl, project_setBook _ _ _ quote rfl,
      project_setBook _ _ _ bookId rfl⟩
  · rw [base_setLevel, quote_setLevel, bookId_setLevel]
    exact ⟨rfl, rfl, rfl⟩

theorem rest_withoutHead :
    (c.withoutHead spec order level).bookKeys = c.bookKeys ∧
      (c.withoutHead spec order level).nextOrderId = c.nextOrderId ∧
      (c.withoutHead spec order level).balances = c.balances ∧
      (c.withoutHead spec order level).ledger = c.ledger := by
  unfold withoutHead
  split <;> exact ⟨rfl, rfl, rfl, rfl⟩

end DexCore

variable {order : Order} {level : TickLevel} {rest : List ℕ}

/-- A walkable side stays walkable when its first order leaves behind the fence. -/
theorem Walkable.withoutHead {c c₂ : DexCore} {queues : Queues} (spec : TempoHardfork)
    (h : Walkable c order.bookKey order.isBid queues)
    (htick : (c.books order.bookKey).bestTick order.isBid = order.tick)
    (hqueue : queues order.tick = order.orderId :: rest) (hnext : order.next = rest.headD 0)
    (hfenced : Fenced c order.bookKey order.isBid (Others queues order.orderId) c₂)
    (hhead : level.head = order.next)
    (htail : level.tail = ((c.books order.bookKey).level order.isBid order.tick).tail) :
    Walkable (c₂.withoutHead spec order level) order.bookKey order.isBid
      (update queues order.tick rest) := by
  unfold DexCore.withoutHead
  cases rest with
  | nil =>
    rw [if_pos (show order.next = 0 from hnext)]
    exact h.popTick spec htick hqueue hfenced
  | cons id rest =>
    have hmem : id ∈ queues order.tick := by
      rw [hqueue]
      simp
    have hid : order.next = id := hnext
    rw [if_neg (by rw [hid]; exact (h.side.resting _ id hmem).id_ne_zero), hid]
    exact h.popOrder hqueue hfenced (hhead.trans hid) htail

variable {listing : Listing} {spec : TempoHardfork}

/-- The first order of the best tick leaves a well-formed DEX. -/
theorem Listed.withoutHead [BookHash] {c : DexCore} (h : Listed c listing)
    (htick : (c.books order.bookKey).bestTick order.isBid = order.tick)
    (hqueue : listing order.bookKey order.isBid order.tick = order.orderId :: rest)
    (hnext : order.next = rest.headD 0) (hhead : level.head = order.next)
    (htail : level.tail = ((c.books order.bookKey).level order.isBid order.tick).tail) :
    Listed ((c.setRecord order.orderId absent).withoutHead spec order level)
      (listing.set order.bookKey order.isBid order.tick rest) := by
  have hne : listing order.bookKey order.isBid order.tick ≠ [] := by
    rw [hqueue]
    exact List.cons_ne_nil _ _
  have hwalk := h.walkable (h.created _ _ _ hne) order.isBid
  have hfenced := (hwalk.fenced order.orderId).setRecord
    (fun hothers => hothers.1 rfl) absent
  have hwalk' := hwalk.withoutHead spec htick hqueue hnext hfenced hhead htail
  have hnextMem : order.next ≠ 0 → order.next ∈ rest := by
    intro hzero
    rw [hnext] at hzero ⊢
    exact headD_mem_of_ne hzero
  have hnodup := hwalk.side.nodup order.tick
  rw [hqueue, List.nodup_cons] at hnodup
  have horders : ∀ y, ((c.setRecord order.orderId absent).withoutHead spec order
      level).orders y = if y = order.orderId then absent
        else if order.next ≠ 0 ∧ y = order.next then (c.orders y).setField .prev 0
        else c.orders y := by
    intro y
    rw [DexCore.orders_withoutHead, DexCore.orders_setRecord]
    by_cases hy : y = order.orderId
    · subst hy
      have hnot : ¬ (order.next ≠ 0 ∧ order.orderId = order.next) := by
        rintro ⟨hzero, heq⟩
        refine hnodup.1 ?_
        rw [heq]
        exact hnextMem hzero
      rw [if_neg hnot, if_pos rfl, if_pos rfl]
    · simp only [if_neg hy]
  have hsplit : listing order.bookKey order.isBid order.tick = [] ++ order.orderId :: rest :=
    hqueue
  refine h.remove hsplit hwalk'.side hwalk'.best
    ⟨fun _ _ hother => DexCore.side_withoutHead _ _ _ _ hother,
      DexCore.pair_withoutHead _ _ _ _, (DexCore.rest_withoutHead _ _ _ _).1⟩ ?_ ?_ ?_
    (DexCore.rest_withoutHead _ _ _ _).2.1
  · rw [horders, if_pos rfl]
  · intro y hy
    rw [horders, if_neg hy]
    split <;> rfl
  · intro y hy
    rw [hqueue, List.mem_cons, not_or] at hy
    rw [horders, if_neg hy.1, if_neg]
    rintro ⟨hzero, rfl⟩
    exact hy.2 (hnextMem hzero)

/-- The maker has been paid and the fill reported. -/
def DexCore.settled (c : DexCore) (taker : Address) (order : Order) : DexCore :=
  { c.addBalance order.maker (makerToken (c.books order.bookKey) order)
      (makerAmount order order.remaining) with
    filled := c.filled ++ [fullFill taker order] }

/-- A filled order has left the DEX. -/
def DexCore.retired (c : DexCore) (spec : TempoHardfork) (taker : Address) (order : Order)
    (level : TickLevel) : DexCore :=
  ((c.settled taker order).setRecord order.orderId OrderRecord.absent).withoutHead spec order
    level

/-- The order a filled flip order turns into. -/
def Order.flipped (order : Order) : Order := order.createFlippedOrder order.orderId

theorem Order.flipped_side (order : Order) : order.flipped.isBid ≠ order.isBid := by
  show (!order.isBid) ≠ order.isBid
  cases order.isBid with
  | true | false => decide

/-- What the flipped order escrows. -/
def flipEscrow (book : Orderbook) (order : Order) : Escrow :=
  escrowOf book.base book.quote order.flipped.amount order.flipped.isBid order.flipped.tick

/-- The maker pays the escrow of the flipped order, which goes to the book. -/
def DexCore.flip (c : DexCore) (spec : TempoHardfork) (order : Order) : DexCore :=
  let escrow := flipEscrow (c.books order.bookKey) order
  (c.setBalance order.maker escrow.token
    (c.balances order.maker escrow.token - escrow.amount)).commit spec order.flipped

section Flip

variable (c : DexCore) (spec : TempoHardfork) (order : Order)

theorem DexCore.remaining_flip :
    ((c.flip spec order).orders order.orderId).order.remaining = order.amount := by
  refine (congrArg (fun record => record.order.remaining)
    (orders_commit_self _ order.flipped)).trans ?_
  rw [OrderRecord.written_order]
  split <;> rfl

theorem DexCore.balances_flip :
    let escrow := flipEscrow (c.books order.bookKey) order
    (c.flip spec order).balances order.maker escrow.token =
      c.balances order.maker escrow.token - escrow.amount := by
  intro escrow
  show update c.balances order.maker (update _ escrow.token _) order.maker
    escrow.token = _
  rw [update_self, update_self]

end Flip

/-- Neither the payment nor the removal changes what a flip escrows. -/
theorem DexCore.flipEscrow_retired (c : DexCore) (spec : TempoHardfork) (taker : Address)
    (order : Order) (level : TickLevel) :
    flipEscrow ((c.retired spec taker order level).books order.bookKey) order =
      flipEscrow (c.books order.bookKey) order := by
  obtain ⟨hbase, hquote, _⟩ := pair_withoutHead
    ((c.settled taker order).setRecord order.orderId absent) spec order level
    order.bookKey
  unfold flipEscrow retired
  rw [hbase, hquote]
  rfl

/-! ## Flips commute with the removal -/

variable {isBid : Bool} {id : ℕ}

section Commute

variable {spec : TempoHardfork} {c : DexCore} {order flipped : Order} {level : TickLevel}

theorem Orderbook.withOrder_withoutTick (book : Orderbook) {tick : ℤ}
    (hside : flipped.isBid ≠ isBid) :
    (book.withOrder spec flipped).withoutTick spec isBid tick =
      (book.withoutTick spec isBid tick).withOrder spec flipped := by
  have hne : isBid ≠ flipped.isBid := Ne.symm hside
  obtain ⟨hlevel, hbitmap, hbest⟩ := @Orderbook.side_withOrder spec book flipped isBid hne
  obtain ⟨hlevel', hbitmap', hbest'⟩ := @Orderbook.side_withoutTick isBid spec book _ tick hside
  refine Orderbook.ext rfl rfl ?_ ?_ rfl ?_
  · funext side t
    simp only [Orderbook.level_withoutTick, Orderbook.level_withOrder]
    by_cases hsame : side = isBid
    · subst hsame
      simp [hne]
    · simp [hsame, hside]
  · funext side
    by_cases hsame : side = isBid
    · subst hsame
      rw [(side_withOrder _ _ hne).2.2, Orderbook.bestTick_withoutTick,
        Orderbook.bestTick_withoutTick, hbitmap]
    · rw [(side_withoutTick _ _ hsame).2.2, bestTick_withOrder,
        bestTick_withOrder, hlevel', (side_withoutTick _ _ hsame).2.2]
  · funext side
    by_cases hsame : side = isBid
    · subst hsame
      rw [(side_withOrder _ _ hne).2.1, bitmap_withoutTick,
        bitmap_withoutTick, hbitmap]
    · rw [(side_withoutTick _ _ hsame).2.1, bitmap_withOrder,
        bitmap_withOrder, hlevel', (side_withoutTick _ _ hsame).2.1]

theorem Orderbook.withOrder_setLevel (book : Orderbook) {tick : ℤ} (hside : flipped.isBid ≠ isBid) :
    (book.withOrder spec flipped).setLevel isBid tick level =
      (book.setLevel isBid tick level).withOrder spec flipped := by
  have hne : isBid ≠ flipped.isBid := Ne.symm hside
  unfold Orderbook.withOrder setLevel
  simp only [update_of_ne hne, update_of_ne hside]
  rw [update_comm hside]

/-- A commit reads its own side of the book and the records. -/
theorem DexCore.orders_commit_congr {c' : DexCore} (horders : c'.orders = c.orders)
    (hlevel : (c'.books flipped.bookKey).level flipped.isBid =
      (c.books flipped.bookKey).level flipped.isBid)
    (hbookId : (c'.books flipped.bookKey).bookId = (c.books flipped.bookKey).bookId) :
    (c'.commit spec flipped).orders = (c.commit spec flipped).orders := by
  unfold DexCore.commit DexCore.linkedTail
  simp only [horders, hlevel, hbookId]

/-- Placing the flipped order before or after the queue moves on. -/
theorem DexCore.commit_withoutHead (hbook : flipped.bookKey = order.bookKey)
    (hside : flipped.isBid ≠ order.isBid)
    (hnext : order.next ≠ 0 → order.next ≠ flipped.orderId ∧ order.next ≠ c.tailFor flipped) :
    (c.commit spec flipped).withoutHead spec order level =
      (c.withoutHead spec order level).commit spec flipped := by
  unfold withoutHead
  by_cases hzero : order.next = 0
  · rw [if_pos hzero, if_pos hzero]
    refine DexCore.ext ?_ ?_ rfl rfl rfl rfl rfl
    · funext key
      by_cases hkey : key = order.bookKey
      · subst hkey
        rw [books_setBook, books_commit, books_commit, if_pos hbook.symm, if_pos hbook.symm,
          books_setBook, Orderbook.withOrder_withoutTick _ hside]
      · have hkey' : key ≠ flipped.bookKey := fun heq => hkey (heq.trans hbook)
        rw [books_setBook_of_ne _ hkey, books_commit, books_commit, if_neg hkey', if_neg hkey',
          books_setBook_of_ne _ hkey]
    · show (c.commit spec flipped).orders = _
      symm
      refine orders_commit_congr ?_ ?_ ?_
      · rfl
      · rw [hbook, books_setBook]
        exact (side_withoutTick _ _ hside).1
      · rw [hbook, books_setBook]
        rfl
  · rw [if_neg hzero, if_neg hzero]
    obtain ⟨hid, htail⟩ := hnext hzero
    have hrecord : (c.commit spec flipped).orders order.next = c.orders order.next := by
      rw [orders_commit_of_ne c flipped hid, if_neg (fun h => htail h.2)]
    -- The removal does not touch what the commit reads.
    generalize hc' : (c.setRecord order.next ((c.orders order.next).setField .prev 0)).setLevel
      order.bookKey order.isBid order.tick level = c'
    have hlevel : (c'.books flipped.bookKey).level flipped.isBid =
        (c.books flipped.bookKey).level flipped.isBid := by
      funext t
      rw [← hc', level_setLevel, if_neg (fun h => hside h.2.1)]
      rfl
    have hbookId : (c'.books flipped.bookKey).bookId = (c.books flipped.bookKey).bookId := by
      rw [← hc', bookId_setLevel]
      rfl
    have htailFor : c'.tailFor flipped = c.tailFor flipped := by
      unfold tailFor
      rw [hlevel]
    have horders : ∀ y, c'.orders y =
        if y = order.next then (c.orders order.next).setField .prev 0 else c.orders y := by
      intro y
      rw [← hc']
      exact orders_setRecord _ _ _ _
    have hlinked : c'.linkedTail spec flipped = c.linkedTail spec flipped := by
      have hsame : c'.orders (c.tailFor flipped) = c.orders (c.tailFor flipped) := by
        rw [horders, if_neg (Ne.symm htail)]
      unfold linkedTail
      unfold tailFor at hsame
      simp only [hlevel, hbookId, hsame]
    subst hc'
    refine DexCore.ext ?_ ?_ rfl rfl rfl rfl rfl
    · funext key
      by_cases hkey : key = order.bookKey
      · subst hkey
        rw [books_commit, if_pos hbook.symm]
        unfold setLevel
        rw [books_setBook, books_setBook]
        show ((c.commit spec flipped).books order.bookKey).setLevel _ _ _ =
          ((c.books order.bookKey).setLevel _ _ _).withOrder spec flipped
        rw [books_commit, if_pos hbook.symm]
        exact Orderbook.withOrder_setLevel _ hside
      · have hkey' : key ≠ flipped.bookKey := fun heq => hkey (heq.trans hbook)
        rw [books_commit, if_neg hkey']
        unfold setLevel
        rw [books_setBook_of_ne _ hkey, books_setBook_of_ne _ hkey]
        exact (books_commit c flipped key).trans (if_neg hkey')
    · funext y
      show ((c.commit spec flipped).setRecord order.next _).orders y = _
      rw [orders_setRecord, hrecord]
      by_cases hy : y = flipped.orderId
      · subst hy
        rw [if_neg (Ne.symm hid), orders_commit_self, orders_commit_self, htailFor, hbookId]
      · rw [orders_commit_of_ne c flipped hy, orders_commit_of_ne _ flipped hy, htailFor,
          horders]
        by_cases hlast : c.tailFor flipped ≠ 0 ∧ y = c.tailFor flipped
        · have hy' : y ≠ order.next := by
            rintro rfl
            exact htail hlast.2
          rw [if_pos hlast, if_neg hy', hlinked, if_pos hlast]
        · rw [if_neg hlast, if_neg hlast]

theorem DexCore.setBalance_withoutHead (user token : Address) (amount : ℕ) :
    (c.setBalance user token amount).withoutHead spec order level =
      (c.withoutHead spec order level).setBalance user token amount := by
  unfold withoutHead
  split <;> rfl

theorem DexCore.setRecord_withoutHead (record : OrderRecord)
    (hnext : order.next ≠ 0 → order.next ≠ id) :
    (c.setRecord id record).withoutHead spec order level =
      (c.withoutHead spec order level).setRecord id record := by
  unfold withoutHead
  split
  · rfl
  · rename_i hzero
    have hother : (c.setRecord id record).orders order.next = c.orders order.next := by
      rw [orders_setRecord, if_neg (hnext hzero)]
    rw [hother]
    refine DexCore.ext rfl ?_ rfl rfl rfl rfl rfl
    exact update_comm (hnext hzero).symm _ _ _

/-- A commit overwrites the record of its order. -/
theorem DexCore.commit_setRecord (record : OrderRecord)
    (htail : c.tailFor flipped ≠ flipped.orderId) :
    (c.setRecord flipped.orderId record).commit spec flipped = c.commit spec flipped := by
  have hlinked : (c.setRecord flipped.orderId record).linkedTail spec flipped =
      c.linkedTail spec flipped := by
    have hother : (c.setRecord flipped.orderId record).orders (c.tailFor flipped) =
        c.orders (c.tailFor flipped) := by
      rw [orders_setRecord, if_neg htail]
    unfold tailFor at hother
    unfold linkedTail
    simp only [show (c.setRecord flipped.orderId record).books = c.books from rfl, hother]
  refine DexCore.ext rfl ?_ rfl rfl rfl rfl rfl
  funext y
  by_cases hy : y = flipped.orderId
  · subst hy
    rw [orders_commit_self, orders_commit_self]
    rfl
  · rw [orders_commit_of_ne _ flipped hy, orders_commit_of_ne _ flipped hy, hlinked,
      orders_setRecord, if_neg hy]
    rfl

section Commit

variable
  (hnext : order.next ≠ 0 → order.next ≠ order.orderId ∧ order.next ≠ c.tailFor order.flipped)
  (htail : c.tailFor order.flipped ≠ order.orderId)

include hnext htail

/-- Appending the flipped order first or last: in between its record can be
deleted. -/
theorem DexCore.commit_flipped_withoutHead :
    (c.commit spec order.flipped).withoutHead spec order level =
      ((c.setRecord order.orderId absent).withoutHead spec order level).commit spec
        order.flipped := by
  have hbook : order.flipped.bookKey = order.bookKey := rfl
  have hside := order.flipped_side
  have htail' : (c.withoutHead spec order level).tailFor order.flipped ≠
      order.flipped.orderId := by
    unfold tailFor
    rw [(side_withoutHead _ _ _ _ (fun hsame => hside hsame.2)).1]
    exact htail
  rw [commit_withoutHead hbook hside hnext, setRecord_withoutHead _ fun h => (hnext h).1]
  exact (commit_setRecord absent htail').symm

/-- A flip and the removal of the old order: first the order goes, then its maker
pays the new escrow, then the flipped order is appended. -/
theorem DexCore.flip_withoutHead :
    (c.flip spec order).withoutHead spec order level =
      ((c.setRecord order.orderId absent).withoutHead spec order level).flip spec
        order := by
  have hescrow : flipEscrow (((c.setRecord order.orderId absent).withoutHead spec
      order level).books order.bookKey) order = flipEscrow (c.books order.bookKey) order := by
    obtain ⟨hbase, hquote, _⟩ := pair_withoutHead
      (c.setRecord order.orderId absent) spec order level order.bookKey
    unfold flipEscrow
    rw [hbase, hquote]
    rfl
  unfold flip
  simp only [hescrow]
  rw [← setBalance_withoutHead, (rest_withoutHead _ _ _ _).2.2.1]
  exact commit_flipped_withoutHead hnext htail

end Commit

/-- A retired order leaves no record, whatever stood under its id. -/
theorem DexCore.retired_setRecord (record : OrderRecord) (taker : Address) :
    (c.setRecord order.orderId record).retired spec taker order level =
      c.retired spec taker order level := by
  have hdeleted : ((c.setRecord order.orderId record).settled taker order).setRecord
      order.orderId absent =
      (c.settled taker order).setRecord order.orderId absent :=
    DexCore.ext rfl (update_idem _ _ _) rfl rfl rfl rfl rfl
  unfold retired
  rw [hdeleted]

end Commute

/-! ## The effect of a complete fill -/

/-- The first part of `fill_order`: the maker is paid and the fill reported. -/
def payMaker (ctx : Context) (order : Order) (taker : Address) : DexM Unit := do
  let s ← get
  settleMaker ctx (s.books order.bookKey) order order.remaining
  emitOrderFilled ⟨order.orderId, order.maker, taker, order.remaining, false⟩

variable {taker : Address}

theorem payMaker_core {ctx : Context} {s paid : DexState}
    (h : payMaker ctx order taker s = .ok () paid) :
    paid.toDexCore = s.settled taker order := by
  unfold payMaker at h
  simp only [bind_ok, get_ok] at h
  obtain ⟨_, _, ⟨rfl, rfl⟩, _, t, hsettle, hemit⟩ := h
  rw [emitOrderFilled_core hemit, settleMaker_core hsettle]
  rfl

section Effect

variable [BookHash] {ctx : Context} {s s' : DexState} {order : Order} {level : TickLevel}
  {taker : Address} {deltas deltas' : StorageCreditDeltas} {next : Option (TickLevel × Order)}

/-- Both ways of advancing drop the head of the queue. -/
theorem advance_core {t : DexState}
    (h : (if order.next = 0 then do
        let next ← advanceTick ctx order.bookKey order
        pure (deltas, next)
      else do
        let next ← advanceOrder ctx deltas order.bookKey order level
        pure (next.1, some next.2)) t = .ok (deltas', next) s') :
    ∃ stored : TickLevel, stored.head = order.next ∧ stored.tail = level.tail ∧
      (ctx.spec.isT12 = false → order.next ≠ 0 →
        stored.totalLiquidity + order.remaining = level.totalLiquidity) ∧
      s'.toDexCore = t.withoutHead ctx.spec order stored := by
  unfold DexCore.withoutHead
  split at h
  · rename_i hzero
    simp only [bind_ok, pure_ok] at h
    obtain ⟨next', t', hadvance, _, rfl⟩ := h
    refine ⟨⟨order.next, level.tail, 0⟩, rfl, rfl, fun _ hne => absurd hzero hne, ?_⟩
    rw [if_pos hzero]
    exact (advanceTick_ok hadvance).1
  · rename_i hne
    simp only [bind_ok, pure_ok] at h
    obtain ⟨next', t', hadvance, _, rfl⟩ := h
    obtain ⟨hcore, hhead, htail, htotal, _⟩ := advanceOrder_ok hadvance
    refine ⟨storedLevel ctx.spec ((t.books order.bookKey).level order.isBid order.tick) next'.2.1,
      (storedLevel_head _ _).trans hhead, (storedLevel_tail _ _).trans htail,
      fun hspec _ => ?_, ?_⟩
    · unfold storedLevel
      rw [hspec]
      exact htotal hspec
    · rw [if_neg hne]
      exact hcore

/-- The flip of a filled order goes through: `paid` is the state it is tried in. -/
def Flips (ctx : Context) (order : Order) (book : Orderbook) (paid : DexState) : Prop :=
  order.isFlip = true ∧ ∃ t, flipInPlace ctx order book.base book.quote paid = .ok () t

/-- The rest of a fill starts where the maker has been paid. -/
theorem fillOrder_paid {paid : DexState} (hpaid : payMaker ctx order taker s = .ok () paid) :
    fillOrder ctx deltas order.bookKey order level taker s = (do
      let deltas ← retireFilledOrder ctx deltas (s.books order.bookKey) order
      if order.next = 0 then do
        let next ← advanceTick ctx order.bookKey order
        pure (deltas, next)
      else do
        let next ← advanceOrder ctx deltas order.bookKey order level
        pure (next.1, some next.2)) paid := by
  unfold payMaker at hpaid
  simp only [bind_ok, get_ok] at hpaid
  obtain ⟨_, _, ⟨rfl, rfl⟩, _, t, hsettle, hemit⟩ := hpaid
  unfold fillOrder
  rw [bind_eq_of_ok (get_ok.mpr ⟨rfl, rfl⟩), bind_eq_of_ok hsettle, bind_eq_of_ok hemit]

/-- From T5 on a complete fill pays the maker, deletes or flips the order, and
drops the head of its queue. -/
theorem fillOrder_core (hspec : ctx.spec.isT5 = true)
    (h : fillOrder ctx deltas order.bookKey order level taker s = .ok (deltas', next) s') :
    ∃ (paid : DexState) (stored : TickLevel), payMaker ctx order taker s = .ok () paid ∧
      stored.head = order.next ∧ stored.tail = level.tail ∧
      (ctx.spec.isT12 = false → order.next ≠ 0 →
        stored.totalLiquidity + order.remaining = level.totalLiquidity) ∧
      ((¬ Flips ctx order (s.books order.bookKey) paid ∧
          s'.toDexCore = s.retired ctx.spec taker order stored) ∨
        (Flips ctx order (s.books order.bookKey) paid ∧
          (flipEscrow (s.books order.bookKey) order).amount ≤
            (s.settled taker order).balances order.maker
              (flipEscrow (s.books order.bookKey) order).token ∧
          s'.toDexCore =
            ((s.settled taker order).flip ctx.spec order).withoutHead ctx.spec order stored ∧
          (s.tailFor order.flipped = 0 →
            minTick ≤ order.flipped.tick ∧ order.flipped.tick ≤ maxTick))) := by
  unfold fillOrder at h
  simp only [bind_ok, get_ok] at h
  obtain ⟨_, _, ⟨rfl, rfl⟩, _, t₁, hsettle, _, t₂, hemit, deltas₁, t₃, hretire, hadvance⟩ := h
  have hpaid : payMaker ctx order taker s = .ok () t₂ := by
    unfold payMaker
    rw [bind_eq_of_ok (get_ok.mpr ⟨rfl, rfl⟩), bind_eq_of_ok hsettle]
    exact hemit
  have hsettled := payMaker_core hpaid
  obtain ⟨stored, hhead, htail, htotal, hcore⟩ := advance_core hadvance
  refine ⟨t₂, stored, hpaid, hhead, htail, htotal, ?_⟩
  rcases retireFilledOrder_core hspec hretire with ⟨hflip, u, hrun⟩ | ⟨hfailed, hdelete⟩
  · refine Or.inr ⟨⟨hflip, t₃, hrun⟩, ?_⟩
    obtain ⟨hfunds, hflipped, hrange⟩ := flipInPlace_core hrun
    rw [hsettled] at hfunds hflipped hrange
    exact ⟨hfunds, by rw [hcore, hflipped]; rfl, hrange⟩
  · refine Or.inl ⟨?_, ?_⟩
    · rintro ⟨hflip, t, hrun⟩
      obtain ⟨e, t', herror⟩ := hfailed hflip
      exact nomatch hrun.symm.trans herror
    · rw [hcore, hdelete, hsettled]
      rfl

/-- An order without a record is on no queue. -/
theorem Listed.notMem_of_absent {c : DexCore} (h : Listed c listing)
    (habsent : c.orders id = absent) (hid : id ≠ 0) (bookKey : B256) (isBid : Bool) (tick : ℤ) :
    id ∉ listing bookKey isBid tick := by
  intro hmem
  have hrecord := (h.record bookKey isBid tick id hmem).1.1
  rw [habsent] at hrecord
  exact hid hrecord.symm

end Effect

/-! ## Settling the front order of a side -/

/-- The walk stands at an order of a well-formed DEX, the first one of its side. -/
structure Front [BookHash] (spec : TempoHardfork) (c : DexCore) (listing : Listing)
    (level : TickLevel) (order : Order) (rest : List ℕ) : Prop where
  listed : Listed c listing
  cursor : Cursor spec c order.bookKey order.isBid (listing order.bookKey order.isBid) level
    order
  queue : listing order.bookKey order.isBid order.tick = order.orderId :: rest

/-- A level without its first order, as it is stored when the tick has more. -/
structure Shortened (spec : TempoHardfork) (order : Order) (level stored : TickLevel) :
    Prop where
  head : stored.head = order.next
  tail : stored.tail = level.tail
  total : spec.isT12 = false → order.next ≠ 0 →
    stored.totalLiquidity + order.remaining = level.totalLiquidity

/-- A retired order that can be flipped: it has left the book, and its maker can
pay the new escrow. -/
structure Flippable (c : DexCore) (order : Order) : Prop where
  absent : c.orders order.orderId = OrderRecord.absent
  id_ne_zero : order.orderId ≠ 0
  id_lt : order.orderId < c.nextOrderId
  created : (c.books order.bookKey).isInitialized = true
  amount_pos : 0 < order.amount
  funded : (flipEscrow (c.books order.bookKey) order).amount ≤
    c.balances order.maker (flipEscrow (c.books order.bookKey) order).token
  range : c.tailFor order.flipped = 0 →
    minTick ≤ order.flipped.tick ∧ order.flipped.tick ≤ maxTick

namespace Front

variable [BookHash] {spec : TempoHardfork} {c : DexCore} {listing : Listing}
  {level stored : TickLevel} {order : Order} {rest : List ℕ}

theorem of_cursor {bookKey : B256} (h : Listed c listing)
    (hcursor : Cursor spec c bookKey isBid (listing bookKey isBid) level order) :
    ∃ rest, Front spec c listing level order rest ∧ order.bookKey = bookKey ∧
      order.isBid = isBid := by
  obtain ⟨rest, hqueue⟩ := hcursor.first
  obtain ⟨rfl, rfl⟩ : order.bookKey = bookKey ∧ order.isBid = isBid :=
    ⟨hcursor.resting.bookKey_eq, hcursor.resting.isBid_eq⟩
  exact ⟨rest, ⟨h, hcursor, hqueue⟩, rfl, rfl⟩

section Fronts

variable (h : Front spec c listing level order rest)

include h

theorem mem :
    order.orderId ∈ listing order.bookKey order.isBid order.tick := by
  rw [h.queue]
  exact List.mem_cons_self

theorem next_mem (hnext : order.next ≠ 0) :
    order.next ∈ rest := by
  rw [h.cursor.next_eq h.queue] at hnext ⊢
  exact headD_mem_of_ne hnext

/-- The tail of another side is not an order of this one. -/
theorem ne_tailFor {other : Order}
    (hother : ¬ (other.bookKey = order.bookKey ∧ other.isBid = order.isBid))
    (hmem : id ∈ listing order.bookKey order.isBid order.tick) : id ≠ c.tailFor other := by
  rintro rfl
  have htail : c.tailFor other ≠ 0 := ((h.listed.side _ _).resting _ _ hmem).id_ne_zero
  have hsame := h.listed.unique hmem (h.listed.tailFor_mem htail)
  exact hother ⟨hsame.1, hsame.2.1⟩

theorem retired (hstored : Shortened spec order level stored) (taker : Address) :
    Listed (c.retired spec taker order stored)
      (listing.set order.bookKey order.isBid order.tick rest) := by
  have hsettled : Listed (c.settled taker order) listing := h.listed.congr rfl rfl rfl le_rfl
  exact hsettled.withoutHead h.cursor.tick_best h.queue (h.cursor.next_eq h.queue) hstored.head
    (hstored.tail.trans h.cursor.level_tail)

theorem next_ne (hnext : order.next ≠ 0) :
    order.next ≠ order.orderId := by
  intro heq
  have hnodup := h.cursor.side.nodup order.tick
  rw [h.queue, List.nodup_cons] at hnodup
  exact hnodup.1 (heq ▸ h.next_mem hnext)

/-- A retired front order whose maker can pay for the flip. -/
theorem flippable (hfunds : (flipEscrow (c.books order.bookKey) order).amount ≤
      (c.settled taker order).balances order.maker
        (flipEscrow (c.books order.bookKey) order).token) (hrange : c.tailFor order.flipped = 0 →
      minTick ≤ order.flipped.tick ∧ order.flipped.tick ≤ maxTick) :
    Flippable (c.retired spec taker order stored) order := by
  have hescrow := c.flipEscrow_retired spec taker order stored
  obtain ⟨_, hnextId, hbalances, _⟩ := DexCore.rest_withoutHead
    ((c.settled taker order).setRecord order.orderId absent) spec order stored
  constructor
  · unfold DexCore.retired
    rw [DexCore.orders_withoutHead, if_neg (fun hsame => h.next_ne hsame.1 hsame.2.symm),
      DexCore.orders_setRecord, if_pos rfl]
  · exact h.cursor.resting.id_ne_zero
  · unfold DexCore.retired
    rw [hnextId]
    exact h.cursor.fresh order.tick order.orderId h.mem
  · unfold DexCore.retired Orderbook.isInitialized
    rw [(DexCore.pair_withoutHead _ _ _ _ _).1]
    exact h.cursor.created
  · exact Nat.lt_of_lt_of_le h.cursor.resting.remaining_pos h.cursor.resting.remaining_le
  · rw [hescrow]
    unfold DexCore.retired
    rw [hbalances]
    exact hfunds
  · intro htail
    refine hrange ?_
    unfold DexCore.retired DexCore.tailFor at htail
    rw [(DexCore.side_withoutHead _ _ _ _ (fun hsame => order.flipped_side hsame.2)).1] at htail
    exact htail

end Fronts

end Front

section Effects

variable [BookHash] {ctx : Context} {s s' : DexState} {c : DexCore} {listing : Listing}
  {order : Order} {level : TickLevel} {rest : List ℕ} {taker : Address}
  {deltas deltas' : StorageCreditDeltas} {next : Option (TickLevel × Order)}

/-- A complete fill retires the front order, and may then flip it. -/
theorem fillOrder_effect (hspec : ctx.spec.isT5 = true)
    (h : Front ctx.spec s listing level order rest)
    (hrun : fillOrder ctx deltas order.bookKey order level taker s = .ok (deltas', next) s') :
    ∃ paid stored, payMaker ctx order taker s = .ok () paid ∧
      Shortened ctx.spec order level stored ∧
      ((¬ Flips ctx order (s.books order.bookKey) paid ∧
          s'.toDexCore = s.retired ctx.spec taker order stored) ∨
        (Flips ctx order (s.books order.bookKey) paid ∧
          Flippable (s.retired ctx.spec taker order stored) order ∧
          s'.toDexCore = (s.retired ctx.spec taker order stored).flip ctx.spec order)) := by
  obtain ⟨paid, stored, hpaid, hhead, htail, htotal, hcore⟩ := fillOrder_core hspec hrun
  refine ⟨paid, stored, hpaid, ⟨hhead, htail, htotal⟩, ?_⟩
  rcases hcore with hretired | ⟨hflip, hfunds, hcore, hrange⟩
  · exact Or.inl hretired
  · have hother : ¬ (order.flipped.bookKey = order.bookKey ∧
        order.flipped.isBid = order.isBid) :=
      fun hsame => order.flipped_side hsame.2
    have hnext : order.next ≠ 0 → order.next ≠ order.orderId ∧
        order.next ≠ (s.settled taker order).tailFor order.flipped := by
      intro hzero
      refine ⟨h.next_ne hzero, h.ne_tailFor hother ?_⟩
      rw [h.queue]
      exact List.mem_cons_of_mem _ (h.next_mem hzero)
    have htail : (s.settled taker order).tailFor order.flipped ≠ order.orderId :=
      (h.ne_tailFor hother h.mem).symm
    exact Or.inr ⟨hflip, h.flippable hfunds hrange,
      hcore.trans (DexCore.flip_withoutHead hnext htail)⟩

theorem Listed.flip (h : Listed c listing) (hflip : Flippable c order) (spec : TempoHardfork) :
    Listed (c.flip spec order) (listing.append order.flipped) := by
  have hpaid : ∀ amount token, Listed (c.setBalance order.maker token amount) listing :=
    fun amount token => h.congr rfl rfl rfl le_rfl
  exact (hpaid _ _).commit hflip.id_ne_zero
    (h.notMem_of_absent hflip.absent hflip.id_ne_zero) hflip.id_lt hflip.created
    hflip.amount_pos le_rfl rfl rfl hflip.range

/-- A partial fill of the front order keeps every queue. -/
theorem Front.partlyFilled {level' : TickLevel} {fillAmount : ℕ}
    (h : Front spec c listing level order rest) (hless : fillAmount < order.remaining)
    (hhead : level'.head = level.head) (htail : level'.tail = level.tail) (event : OrderFilled) :
    Listed (c.partlyFilled spec order level' fillAmount event) listing := by
  have hkeep : ∀ {β : Type} (project : Orderbook → β) (key : B256),
      (∀ (book : Orderbook) (levels : Bool → ℤ → TickLevel),
        project { book with level := levels } = project book) →
      project ((c.partlyFilled spec order level' fillAmount event).books key) =
        project (c.books key) :=
    fun project key hproject => DexCore.project_partlyFilled _ _ _ _ _ _ project hproject
  have hrest : (c.partlyFilled spec order level' fillAmount event).bookKeys = c.bookKeys ∧
      (c.partlyFilled spec order level' fillAmount event).nextOrderId = c.nextOrderId := by
    unfold DexCore.partlyFilled
    cases spec.isT12 with
    | true | false => exact ⟨rfl, rfl⟩
  refine h.listed.oneSided ⟨fun key side hother => ⟨?_, ?_, ?_⟩, fun key => ⟨?_, ?_, ?_⟩, hrest.1⟩
    (fun _ _ _ => rfl) ?_ (h.cursor.side_partlyFilled hless hhead htail event) ?_
    (h.listed.created _ _) ?_ ?_
  · funext t
    rw [DexCore.level_partlyFilled, if_neg (fun hall => hother ⟨hall.2.1, hall.2.2.1⟩)]
  · rw [hkeep bitmap key fun _ _ => rfl]
  · rw [hkeep bestTick key fun _ _ => rfl]
  · exact hkeep base key fun _ _ => rfl
  · exact hkeep quote key fun _ _ => rfl
  · exact hkeep bookId key fun _ _ => rfl
  · intro key side hother t y hy
    rw [DexCore.orders_partlyFilled, if_neg]
    rintro rfl
    have hboth := h.listed.unique h.mem hy
    exact hother ⟨hboth.1, hboth.2.1⟩
  · rw [hkeep bestTick _ fun _ _ => rfl]
    exact h.listed.best _ _
  · intro y
    rw [DexCore.orders_partlyFilled]
    split
    · rename_i heq
      rw [heq]
      exact h.listed.live order.orderId
    · exact h.listed.live y
  · intro key side tick y hy
    rw [hrest.2, DexCore.orders_partlyFilled]
    have hrecord := h.listed.record key side tick y hy
    split
    · rename_i heq
      rw [heq] at hrecord ⊢
      exact hrecord
    · exact hrecord

end Effects

/-! ## A flip happens completely or not at all -/

/-- From T5 on the flip of a filled order happens completely or not at all.  When it
fails, but not for a system error, the fill is the one of the same order without its flip
flag, and nothing depends on the record it had.  When it succeeds, the order stands at the
end of one queue of the other side with all of its amount, and its maker has paid exactly
the new escrow. -/
theorem flip_all_or_nothing [BookHash] {ctx : Context} {s paid : DexState} {listing : Listing}
    {order : Order} {level : TickLevel} {rest : List ℕ} {taker : Address}
    (hspec : ctx.spec.isT5 = true)
    (h : Front ctx.spec s listing level order rest) (hflip : order.isFlip = true)
    (hpaid : payMaker ctx order taker s = .ok () paid) (deltas : StorageCreditDeltas) :
    let book := s.books order.bookKey
    let escrow := flipEscrow book order
    (∀ e t, flipInPlace ctx order book.base book.quote paid = .error e t →
      e.isSystemError = false →
      fillOrder ctx deltas order.bookKey order level taker s =
        fillOrder ctx deltas order.bookKey { order with isFlip := false } level taker s ∧
      ∀ result s', fillOrder ctx deltas order.bookKey order level taker s = .ok result s' →
        ∃ stored, Shortened ctx.spec order level stored ∧ ∀ record,
          s'.toDexCore =
            (s.setRecord order.orderId record).retired ctx.spec taker order stored) ∧
    (∀ t, flipInPlace ctx order book.base book.quote paid = .ok () t →
      ∀ result s', fillOrder ctx deltas order.bookKey order level taker s = .ok result s' →
      ∃ listing', Listed s' listing' ∧
        listing' order.bookKey (!order.isBid) order.flipTick =
          listing order.bookKey (!order.isBid) order.flipTick ++ [order.orderId] ∧
        (∀ key side tick, order.orderId ∈ listing' key side tick →
          key = order.bookKey ∧ side = !order.isBid ∧ tick = order.flipTick) ∧
        (s'.orders order.orderId).order.remaining = order.amount ∧
        s'.balances order.maker escrow.token + escrow.amount =
          paid.balances order.maker escrow.token) := by
  intro book escrow
  refine ⟨fun e t hfail hbusiness => ⟨?_, fun result s' hrun => ?_⟩,
    fun t hdone result s' hrun => ?_⟩
  · have hplain : payMaker ctx { order with isFlip := false } taker s = .ok () paid := hpaid
    refine (fillOrder_paid hpaid).trans (Eq.trans ?_ (fillOrder_paid hplain).symm)
    show EStateM.bind _ _ paid = EStateM.bind _ _ paid
    unfold EStateM.bind
    rw [retireFilledOrder_failed hspec hflip hfail hbusiness]
    rfl
  · obtain ⟨paid', stored, hpaid', hstored, hcore⟩ := fillOrder_effect hspec h hrun
    obtain ⟨_, rfl⟩ := EStateM.Result.ok.inj (hpaid.symm.trans hpaid')
    refine ⟨stored, hstored, fun record => ?_⟩
    rcases hcore with ⟨_, hcore⟩ | ⟨hflips, _⟩
    · rw [hcore, DexCore.retired_setRecord]
    · obtain ⟨_, _, hdone⟩ := hflips
      exact nomatch hdone.symm.trans hfail
  · obtain ⟨paid', stored, hpaid', hstored, hcore⟩ := fillOrder_effect hspec h hrun
    obtain ⟨_, rfl⟩ := EStateM.Result.ok.inj (hpaid.symm.trans hpaid')
    rcases hcore with ⟨hnot, _⟩ | ⟨_, hflippable, hcore⟩
    · exact absurd ⟨hflip, t, hdone⟩ hnot
    · have hlisted := (h.retired hstored taker).flip hflippable ctx.spec
      rw [← hcore] at hlisted
      have hqueue : ((listing.set order.bookKey order.isBid order.tick rest).append
          order.flipped) order.bookKey (!order.isBid) order.flipTick =
          listing order.bookKey (!order.isBid) order.flipTick ++ [order.orderId] := by
        refine (Listing.append_self _ order.flipped).trans ?_
        rw [Listing.set_of_ne _ _ _ fun hsame => order.flipped_side hsame.2]
        rfl
      have hmem : order.orderId ∈ ((listing.set order.bookKey order.isBid order.tick
          rest).append order.flipped) order.bookKey (!order.isBid) order.flipTick := by
        rw [hqueue]
        exact List.mem_append_right _ (List.mem_singleton_self _)
      refine ⟨_, hlisted, hqueue, fun key side tick => hlisted.unique hmem, ?_, ?_⟩
      · rw [hcore]
        exact DexCore.remaining_flip _ _ _
      · have hbalance := (s.retired ctx.spec taker order stored).balances_flip ctx.spec order
        have hfunded := hflippable.funded
        have hkept : (s.retired ctx.spec taker order stored).balances = paid.balances := by
          rw [payMaker_core hpaid]
          exact (DexCore.rest_withoutHead _ _ _ _).2.2.1
        simp only [DexCore.flipEscrow_retired, hkept] at hbalance hfunded
        rw [hcore, hbalance]
        exact Nat.sub_add_cancel hfunded

/-- A flip ask of 1000 units, to be bought back twenty ticks below, before a plain one. -/
def flipAskBook : DexState :=
  letI := BookHash.pairing
  let bookKey := computeBookKey (pathUsdAddress + 1) pathUsdAddress
  stockedDex (pathUsdAddress + 1) pathUsdAddress
    [.newAsk 2 8 bookKey 500 10, .new 1 9 bookKey 1000 10 false true (-10)]

/-- The flip ask is filled once where it flips and once where its base token is paused. -/
theorem flip_all_or_nothing_ask :
    letI := BookHash.pairing
    let env : TokenEnv := .permissive pathUsdAddress
    let paused : TokenEnv := { env with paused := (· == pathUsdAddress + 1) }
    let bookKey := computeBookKey (pathUsdAddress + 1) pathUsdAddress
    let level := levelRead .T12 ((flipAskBook.books bookKey).level false 10)
    let order := (flipAskBook.orders 1).inBook 1 bookKey
    (∃ result s', fillOrder ⟨.T12, env, 0⟩ [] bookKey order level 7 flipAskBook = .ok result s' ∧
      ∃ listing', Listed s' listing' ∧ listing' bookKey true (-10) = [1] ∧
        (s'.orders 1).order.remaining = 1000) ∧
    ∃ result s', fillOrder ⟨.T12, paused, 0⟩ [] bookKey order level 7 flipAskBook =
        .ok result s' ∧
      fillOrder ⟨.T12, paused, 0⟩ [] bookKey { order with isFlip := false } level 7 flipAskBook =
        .ok result s' ∧
      (s'.orders 1).order.maker = 0 ∧ s'.balances 9 pathUsdAddress = 1001 := by
  let := BookHash.pairing
  intro env paused bookKey level order
  obtain ⟨hlisted, hbook, -⟩ := @listed_stocked _ (pathUsdAddress + 1) pathUsdAddress (by decide)
    [.newAsk 2 8 bookKey 500 10, .new 1 9 bookKey 1000 10 false true (-10)] (by decide) (by decide)
  have hfront : Front .T12 flipAskBook _ level order [2] :=
    ⟨hlisted, (hlisted.walkable hbook false).cursorAt (by decide) rfl rfl rfl
      (fun _ => rfl), rfl⟩
  constructor
  · have hreturned : returned ((do
        payMaker ⟨.T12, env, 0⟩ order 7
        flipInPlace ⟨.T12, env, 0⟩ order (pathUsdAddress + 1) pathUsdAddress : DexM Unit)
        flipAskBook) = true := by decide +kernel
    have hfill : returned (fillOrder ⟨.T12, env, 0⟩ [] bookKey order level 7 flipAskBook) =
        true := by decide +kernel
    obtain ⟨result, s', hfill⟩ := returned_iff.mp hfill
    obtain ⟨_, t, hrun⟩ := returned_iff.mp hreturned
    obtain ⟨_, paid, hpaid, hdone⟩ := bind_ok.mp hrun
    obtain ⟨listing', hlisted', htail, _, hremaining, _⟩ :=
      (flip_all_or_nothing (by decide) hfront (by decide) hpaid []).2 t hdone result s' hfill
    exact ⟨result, s', hfill, listing', hlisted', htail, hremaining⟩
  · have hpay : returned (payMaker ⟨.T12, paused, 0⟩ order 7 flipAskBook) = true := by
      decide +kernel
    have hreturned : returned ((do
        let _ ← fillOrder ⟨.T12, paused, 0⟩ [] bookKey order level 7
        let s ← get
        require ((s.orders 1).order.maker = 0 ∧ s.balances 9 pathUsdAddress = 1001)
          .underOverflow : DexM Unit) flipAskBook) = true := by decide +kernel
    obtain ⟨_, paid, hpaid⟩ := returned_iff.mp hpay
    obtain ⟨_, _, hrun⟩ := returned_iff.mp hreturned
    obtain ⟨result, s', hfill, hrun⟩ := bind_ok.mp hrun
    obtain ⟨hretired, -⟩ := require_ok.mp hrun
    have hfails : (match (payMaker ⟨.T12, paused, 0⟩ order 7 >>= fun _ => flipInPlace
        ⟨.T12, paused, 0⟩ order (pathUsdAddress + 1) pathUsdAddress) flipAskBook with
      | .ok _ _ => true
      | .error e _ => e.isSystemError) = false := by decide +kernel
    rw [bind_eq_of_ok hpaid] at hfails
    split at hfails
    · exact nomatch hfails
    · rename_i e t hflip
      have hplain :=
        ((flip_all_or_nothing (by decide) hfront (by decide) hpaid []).1 e t hflip hfails).1
      exact ⟨result, s', hfill, hplain.symm.trans hfill, hretired⟩

/-! ## Invariants of a fill -/

/-- A property of the state, its listing, the amount left and the running total that
every step of a fill keeps: retiring the front order, flipping a retired order, and
the final partial fill. -/
structure FillInvariant [BookHash] (spec : TempoHardfork) (taker : Address)
    (step : ℕ → Order → Bool → Option OrderStep) (bookKey : B256) (isBid : Bool)
    (inv : DexCore → Listing → ℕ → ℕ → Prop) : Prop where
  retire : ∀ {c listing level stored order rest amount total st},
    Front spec c listing level order rest → Shortened spec order level stored →
    order.bookKey = bookKey → order.isBid = isBid → step amount order isBid = some st →
    order.remaining ≤ st.fillAmount → inv c listing amount total →
    inv (c.retired spec taker order stored)
      (listing.set order.bookKey order.isBid order.tick rest) st.nextAmount
      (total + st.accumulate)
  flip : ∀ {c listing order amount total}, Listed c listing → Flippable c order →
    order.bookKey = bookKey → order.isBid = isBid → inv c listing amount total →
    inv (c.flip spec order) (listing.append order.flipped) amount total
  part : ∀ {c listing level level' order rest amount total st},
    Front spec c listing level order rest → order.bookKey = bookKey → order.isBid = isBid →
    step amount order isBid = some st → st.fillAmount < order.remaining →
    level'.head = level.head → level'.tail = level.tail →
    (spec.isT12 = false → level'.totalLiquidity + st.fillAmount = level.totalLiquidity) →
    inv c listing amount total →
    inv (c.partlyFilled spec order level' st.fillAmount (partialFill taker order st.fillAmount))
      listing 0 (total + st.accumulate)

section Rule

variable [BookHash] {ctx : Context} {taker : Address} {bookKey : B256} {isBid : Bool}
  {step : ℕ → Order → Bool → Option OrderStep} {inv : DexCore → Listing → ℕ → ℕ → Prop}

/-- One complete fill of a walk: the invariant is kept, and the walk stands at the
front again or has emptied the side. -/
theorem FillInvariant.fill (hspec : ctx.spec.isT5 = true)
    (hinv : FillInvariant ctx.spec taker step bookKey isBid inv) {s s' : DexState}
    {deltas deltas' : StorageCreditDeltas} {next : Option (TickLevel × Order)} {amount total : ℕ}
    {st : OrderStep} (hfront : Front ctx.spec s listing level order rest)
    (hbook : order.bookKey = bookKey) (hside : order.isBid = isBid)
    (hstep : step amount order isBid = some st) (hfull : order.remaining ≤ st.fillAmount)
    (hold : inv s listing amount total)
    (hrun : fillOrder ctx deltas bookKey order level taker s = .ok (deltas', next) s') :
    ∃ listing', Listed s' listing' ∧
      inv s' listing' st.nextAmount (total + st.accumulate) ∧
      Arrived ctx.spec s' bookKey isBid (listing' bookKey isBid) next := by
  subst hbook hside
  obtain ⟨_, stored, _, hstored, hcore⟩ := fillOrder_effect hspec hfront hrun
  obtain ⟨_, _, _, harrived⟩ := fillOrder_step hfront.cursor hfront.queue hrun
  have hlisted := hfront.retired hstored taker
  have hretired := hinv.retire hfront hstored rfl rfl hstep hfull hold
  have hself := Listing.set_self listing order.bookKey order.isBid order.tick rest
  rcases hcore with ⟨_, hcore⟩ | ⟨_, hflip, hcore⟩
  · rw [← hcore] at hlisted hretired
    refine ⟨_, hlisted, hretired, ?_⟩
    rw [hself]
    exact harrived
  · have hflipped := hlisted.flip hflip ctx.spec
    have hkept := hinv.flip hlisted hflip rfl rfl hretired
    rw [← hcore] at hflipped hkept
    refine ⟨_, hflipped, hkept, ?_⟩
    unfold Listing.append
    rw [Listing.set_of_ne _ _ _ (fun hsame => order.flipped_side hsame.2.symm), hself]
    exact harrived

/-- What every step keeps, the whole fill keeps. -/
theorem FillInvariant.fillOrders (hspec : ctx.spec.isT5 = true)
    (hinv : FillInvariant ctx.spec taker step bookKey isBid inv) {s s' : DexState}
    {deltas : StorageCreditDeltas} {amount : ℕ} {result : ℕ × StorageCreditDeltas}
    (hlisted : Listed s listing) (hbook : (s.books bookKey).isInitialized = true)
    (hstart : inv s listing amount 0)
    (hrun : fillOrders ctx step taker deltas bookKey isBid amount s = .ok result s') :
    ∃ listing', Listed s' listing' ∧ inv s' listing' 0 result.1 := by
  have hwalk := hlisted.walkable hbook isBid
  obtain ⟨htick, w', hwalked, rfl, _⟩ := fillOrders_ok hrun
  have hcursor := hwalk.cursor ctx.spec rfl (hwalk.best.ne_nil htick)
  refine walkRestingOrders_rule
    (fun _ w order amount total => ∃ listing,
      Listed w.dex.toDexCore listing ∧ inv w.dex.toDexCore listing amount total ∧
      Cursor ctx.spec w.dex.toDexCore bookKey isBid (listing bookKey isBid) w.level order)
    (fun w total => ∃ listing, Listed w.dex.toDexCore listing ∧
      inv w.dex.toDexCore listing 0 total)
    ?_ ?_ ?_ ?_ _ _ _ _ _ _ _ ⟨listing, hlisted, hstart, hcursor⟩ hwalked
  · rintro fuel w order total ⟨listing, hlisted, hold, _⟩
    exact ⟨listing, hlisted, hold⟩
  · rintro fuel w order amount total next w' st ⟨listing, hlisted, hold, hcursor⟩ _ hstep hless
      hsettle _
    obtain ⟨rest, hfront, rfl, rfl⟩ := Front.of_cursor hlisted hcursor
    obtain ⟨level', s₁, hfill, rfl⟩ := settleFill_partially_ok hsettle
    obtain ⟨hhead, htail, htotal, hcore⟩ := partialFillOrder_ok hfill
    have hkept := hinv.part hfront rfl rfl hstep hless hhead htail htotal hold
    have hlisted' := hfront.partlyFilled hless hhead htail
      (partialFill taker order st.fillAmount)
    unfold partialFill at hkept hlisted'
    rw [← hcore] at hkept hlisted'
    exact ⟨listing, hlisted', hkept⟩
  · rintro fuel w order amount total next w' st ⟨listing, hlisted, hold, hcursor⟩ _ hstep hfull
      hsettle _
    obtain ⟨rest, hfront, hbook, hside⟩ := Front.of_cursor hlisted hcursor
    rcases settleFill_full_ok hsettle with ⟨deltas, level, order', s₁, hnext, rfl, hfill⟩ |
      ⟨_, _, hnext, _⟩
    · obtain rfl := Option.some.inj hnext
      obtain ⟨listing', hlisted', hkept, harrived⟩ :=
        hinv.fill hspec hfront hbook hside hstep hfull hold hfill
      exact ⟨listing', hlisted', hkept, harrived⟩
    · exact nomatch hnext
  · rintro fuel w order amount total w' st ⟨listing, hlisted, hold, hcursor⟩ _ hstep hfull
      hsettle _ hzero
    obtain ⟨rest, hfront, hbook, hside⟩ := Front.of_cursor hlisted hcursor
    rcases settleFill_full_ok hsettle with ⟨_, _, _, _, hnext, _⟩ | ⟨deltas, s₁, _, rfl, hfill⟩
    · exact nomatch hnext
    · obtain ⟨listing', hlisted', hkept, _⟩ :=
        hinv.fill hspec hfront hbook hside hstep hfull hold hfill
      rw [hzero] at hkept
      exact ⟨listing', hlisted', hkept⟩

end Rule

end Monotempo.Dex
