/-
  One side of a book as a family of order queues.

  A side is represented in storage by order records that point at each other, by
  the list ends of every tick level, by a bitmap and by a cached best tick.
  `SideOk v bookKey isBid queues` says that this representation stands for the
  queues: for every tick the list of order ids from head to tail.

  The rules of this module say how the queues change when an order is appended,
  unlinked or partly filled.  They speak about views only; that the programs of
  `Dex/Exchange.lean` perform these changes is shown elsewhere.
-/
import Monotempo.Dex.Exchange
import Monotempo.Foundation.LinkedList

set_option autoImplicit false

namespace Monotempo.Dex

open Chain Foundation Function

/-! ## Views -/

/-- What the order queues of one side are read from. -/
structure SideView where
  order : ℕ → Order
  level : ℤ → TickLevel
  bit : ℤ → Bool

/-- The view of one side of a book. -/
def DexCore.side (c : DexCore) (bookKey : B256) (isBid : Bool) : SideView where
  order := fun orderId => (c.orders orderId).order
  level := (c.books bookKey).level isBid
  bit := TickBitmap.isTickInitialized ((c.books bookKey).bitmap isBid)

/-- The order ids resting at every tick, from head to tail. -/
abbrev Queues := ℤ → List ℕ

/-- The order rests under this id on this side of the book at this tick. -/
structure Resting (order : Order) (bookKey : B256) (isBid : Bool) (tick : ℤ)
    (orderId : ℕ) : Prop where
  id_ne_zero : orderId ≠ 0
  bookKey_eq : order.bookKey = bookKey
  isBid_eq : order.isBid = isBid
  tick_eq : order.tick = tick
  remaining_pos : 0 < order.remaining
  remaining_le : order.remaining ≤ order.amount

/-- The stored side represents the queues. -/
structure SideOk (v : SideView) (bookKey : B256) (isBid : Bool) (queues : Queues) :
    Prop where
  segment : ∀ tick, Segment (fun id => (v.order id).next) (fun id => (v.order id).prev)
    0 (queues tick) 0
  head : ∀ tick, (v.level tick).head = (queues tick).headD 0
  tail : ∀ tick, (v.level tick).tail = (queues tick).getLastD 0
  nodup : ∀ tick, (queues tick).Nodup
  bit : ∀ tick, v.bit tick = true ↔ queues tick ≠ []
  range : ∀ tick, queues tick ≠ [] → minTick ≤ tick ∧ tick ≤ maxTick
  resting : ∀ tick, ∀ id ∈ queues tick, Resting (v.order id) bookKey isBid tick id

/-- The cached tick is the best one with orders, or the marker for none. -/
def BestOk (isBid : Bool) (best : ℤ) (queues : Queues) : Prop :=
  ((∀ tick, queues tick = []) ∧ best = noTick isBid) ∨
    (queues best ≠ [] ∧
      ∀ tick, queues tick ≠ [] → tick = best ∨ TickBitmap.better isBid best tick)

namespace SideOk

variable {v v' : SideView} {bookKey : B256} {isBid : Bool} {queues : Queues} {tick : ℤ} {id : ℕ}

section Queues

variable (h : SideOk v bookKey isBid queues)

include h

theorem zero_notMem (tick : ℤ) : 0 ∉ queues tick :=
  fun hmem => (h.resting tick 0 hmem).id_ne_zero rfl

theorem tick_unique {tick' : ℤ} (hmem : id ∈ queues tick) (hmem' : id ∈ queues tick') :
    tick = tick' :=
  (h.resting tick id hmem).tick_eq.symm.trans (h.resting tick' id hmem').tick_eq

/-- The pointers of an order lead to its neighbours in the queue. -/
theorem pointers {left right : List ℕ} (hqueue : queues tick = left ++ id :: right) :
    (v.order id).prev = left.getLastD 0 ∧ (v.order id).next = right.headD 0 := by
  have hsegment := h.segment tick
  rw [hqueue, segment_append, segment_cons] at hsegment
  exact ⟨hsegment.2.1, hsegment.2.2.1⟩

/-- A side only depends on the records of its own orders, the list ends and the
bits. -/
theorem congr (horder : ∀ tick, ∀ id ∈ queues tick, v'.order id = v.order id)
    (hhead : ∀ tick, (v'.level tick).head = (v.level tick).head)
    (htail : ∀ tick, (v'.level tick).tail = (v.level tick).tail)
    (hbit : ∀ tick, v'.bit tick = v.bit tick) : SideOk v' bookKey isBid queues where
  segment := by
    intro tick
    refine (h.segment tick).congr (fun id hid => ?_) (fun id hid => ?_)
    · rw [horder tick id hid]
    · rw [horder tick id hid]
  head := fun tick => (hhead tick).trans (h.head tick)
  tail := fun tick => (htail tick).trans (h.tail tick)
  nodup := h.nodup
  bit := by
    intro tick
    rw [hbit tick]
    exact h.bit tick
  range := h.range
  resting := by
    intro tick id hid
    rw [horder tick id hid]
    exact h.resting tick id hid

/-- The queue of one tick is replaced; the other ticks keep their records and list ends. -/
theorem requeue {queue : List ℕ} (horder : ∀ t, t ≠ tick → ∀ y ∈ queues t, v'.order y = v.order y)
    (hends : ∀ t, t ≠ tick → (v'.level t).head = (v.level t).head ∧
      (v'.level t).tail = (v.level t).tail)
    (hbit : ∀ t, v'.bit t = true ↔ update queues tick queue t ≠ [])
    (hsegment : Segment (fun id => (v'.order id).next) (fun id => (v'.order id).prev) 0 queue 0)
    (hhead : (v'.level tick).head = queue.headD 0) (htail : (v'.level tick).tail = queue.getLastD 0)
    (hnodup : queue.Nodup) (hrange : minTick ≤ tick ∧ tick ≤ maxTick)
    (hresting : ∀ id ∈ queue, Resting (v'.order id) bookKey isBid tick id) :
    SideOk v' bookKey isBid (update queues tick queue) := by
  refine ⟨fun t => ?_, fun t => ?_, fun t => ?_, fun t => ?_, hbit, fun t => ?_, fun t => ?_⟩
    <;> by_cases ht : t = tick
  · rw [ht, update_self]
    exact hsegment
  · rw [update_of_ne ht]
    refine (h.segment t).congr (fun y hy => ?_) (fun y hy => ?_)
    · rw [horder t ht y hy]
    · rw [horder t ht y hy]
  · rw [ht, update_self, hhead]
  · rw [update_of_ne ht, (hends t ht).1, h.head t]
  · rw [ht, update_self, htail]
  · rw [update_of_ne ht, (hends t ht).2, h.tail t]
  · rw [ht, update_self]
    exact hnodup
  · rw [update_of_ne ht]
    exact h.nodup t
  · exact fun _ => ht ▸ hrange
  · rw [update_of_ne ht]
    exact h.range t
  · rw [ht, update_self]
    exact hresting
  · rw [update_of_ne ht]
    intro y hy
    rw [horder t ht y hy]
    exact h.resting t y hy

theorem bit_shortened {queue : List ℕ} (hold : queues tick ≠ []) (hnew : queue ≠ []) (t : ℤ) :
    v.bit t = true ↔ update queues tick queue t ≠ [] := by
  rw [h.bit t]
  by_cases ht : t = tick
  · subst ht
    rw [update_self]
    exact ⟨fun _ => hnew, fun _ => hold⟩
  · rw [update_of_ne ht]

/-! ## Appending -/

theorem append (hfresh : ∀ t, id ∉ queues t) (hrange : minTick ≤ tick ∧ tick ≤ maxTick)
    (hnew : Resting (v'.order id) bookKey isBid tick id)
    (hprev : (v'.order id).prev = (queues tick).getLastD 0) (hnext : (v'.order id).next = 0)
    (horder : ∀ t, ∀ y ∈ queues t, v'.order y =
      if y = (queues tick).getLastD 0 then { v.order y with next := id } else v.order y)
    (hhead : (v'.level tick).head =
      if queues tick = [] then id else (v.level tick).head) (htail : (v'.level tick).tail = id)
    (hothers : ∀ t, t ≠ tick → (v'.level t).head = (v.level t).head ∧
      (v'.level t).tail = (v.level t).tail)
    (hbit : ∀ t, v'.bit t = (decide (t = tick) || v.bit t)) :
    SideOk v' bookKey isBid (update queues tick (queues tick ++ [id])) := by
  refine h.requeue (fun t ht y hy => ?_) hothers (fun t => ?_) ?_ ?_ ?_ ?_ hrange fun y hy => ?_
  · -- Orders of other ticks are not the old tail of this one.
    rw [horder t y hy, if_neg]
    rintro rfl
    exact ht (h.tick_unique hy (getLastD_mem_of_ne (h.resting t _ hy).id_ne_zero))
  · by_cases ht : t = tick
    · simp [ht, hbit tick]
    · simp [ht, hbit t, h.bit t]
  · refine (h.segment tick).snoc (h.nodup tick) ?_ ?_ ?_ hprev hnext
    · intro y hy
      rw [horder tick y hy]
      split <;> rfl
    · intro y hy hne
      rw [horder tick y hy, if_neg hne]
    · intro hne
      rw [horder tick _ (getLastD_mem 0 hne), if_pos rfl]
  · rw [hhead, headD_append]
    split
    · rename_i hnil
      rw [hnil]
      rfl
    · rename_i hne
      rw [h.head tick]
      cases hq : queues tick with
      | nil => exact absurd hq hne
      | cons x rest => rfl
  · rw [getLastD_append_singleton, htail]
  · rw [← List.concat_eq_append]
    exact (h.nodup tick).concat (hfresh tick)
  · rcases List.mem_append.mp hy with hy | hy
    · have hrest := h.resting tick y hy
      rw [horder tick y hy]
      split
      · exact ⟨hrest.1, hrest.2, hrest.3, hrest.4, hrest.5, hrest.6⟩
      · exact hrest
    · rw [List.mem_singleton.mp hy]
      exact hnew

end Queues

theorem bit_deleted {c : DexCore} (h : SideOk (c.side bookKey isBid) bookKey isBid queues)
    (tick t : ℤ) : TickBitmap.isTickInitialized
      (TickBitmap.deleteTickBit ((c.books bookKey).bitmap isBid) tick) t = true ↔
        update queues tick [] t ≠ [] := by
  have hold : TickBitmap.isTickInitialized ((c.books bookKey).bitmap isBid) t = true ↔
    queues t ≠ [] := h.bit t
  rw [TickBitmap.isTickInitialized_deleteTickBit]
  by_cases ht : t = tick
  · subst ht
    simp
  · rw [update_of_ne ht]
    simpa [ht] using hold

/-! ## Unlinking -/

/-- The record of a neighbour after `order` has been taken out between its
pointers. -/
def relinked (order : Order) (id : ℕ) (neighbour : Order) : Order :=
  if id = order.prev then { neighbour with next := order.next }
  else if id = order.next then { neighbour with prev := order.prev }
  else neighbour

/-- Relinking changes pointers only. -/
theorem relinked_resting {order neighbour : Order} (h : Resting neighbour bookKey isBid tick id) :
    Resting (relinked order id neighbour) bookKey isBid tick id := by
  unfold relinked
  split
  · exact ⟨h.1, h.2, h.3, h.4, h.5, h.6⟩
  · split
    · exact ⟨h.1, h.2, h.3, h.4, h.5, h.6⟩
    · exact h

theorem unlink (h : SideOk v bookKey isBid queues) {left right : List ℕ}
    (hqueue : queues tick = left ++ id :: right) (horder : ∀ t, ∀ y ∈ queues t, y ≠ id →
      v'.order y = relinked (v.order id) y (v.order y))
    (hhead : (v'.level tick).head = (left ++ right).headD 0)
    (htail : (v'.level tick).tail = (left ++ right).getLastD 0)
    (hothers : ∀ t, t ≠ tick → (v'.level t).head = (v.level t).head ∧
      (v'.level t).tail = (v.level t).tail)
    (hbit : ∀ t, v'.bit t = true ↔ update queues tick (left ++ right) t ≠ []) :
    SideOk v' bookKey isBid (update queues tick (left ++ right)) := by
  obtain ⟨hprev, hnext⟩ := h.pointers hqueue
  have hnodup := h.nodup tick
  rw [hqueue] at hnodup
  obtain ⟨_, hrightNodup, hdisjoint⟩ := List.nodup_append.mp hnodup
  have hmem : ∀ y, y ∈ left ++ right → y ∈ queues tick ∧ y ≠ id := by
    intro y hy
    rw [hqueue]
    rcases List.mem_append.mp hy with hy | hy
    · exact ⟨by simp [hy], hdisjoint y hy id List.mem_cons_self⟩
    · refine ⟨by simp [hy], ?_⟩
      rintro rfl
      exact (List.nodup_cons.mp hrightNodup).1 hy
  have hid : id ∈ queues tick := by
    rw [hqueue]
    simp
  have hself : ∀ y ∈ left ++ right, v'.order y = relinked (v.order id) y (v.order y) :=
    fun y hy => horder tick y (hmem y hy).1 (hmem y hy).2
  have hnonzero : ∀ y ∈ left ++ right, y ≠ 0 :=
    fun y hy => (h.resting tick y (hmem y hy).1).id_ne_zero
  -- The orders before and after the one that leaves are not its other neighbour.
  have hright : ∀ y ∈ right, y ≠ (v.order id).prev := by
    intro y hy heq
    rw [hprev] at heq
    have hleft := getLastD_mem_of_ne (heq ▸ hnonzero y (List.mem_append_right _ hy))
    exact hdisjoint _ hleft _ (List.mem_cons_of_mem _ hy) heq.symm
  have hleft : ∀ y ∈ left, y ≠ (v.order id).next := by
    intro y hy heq
    rw [hnext] at heq
    have hright := headD_mem_of_ne (heq ▸ hnonzero y (List.mem_append_left _ hy))
    exact hdisjoint _ hy _ (List.mem_cons_of_mem _ hright) heq
  refine h.requeue (fun t ht y hy => ?_) hothers hbit ?_ hhead htail ?_
    (h.range tick (List.ne_nil_of_mem hid)) fun y hy => ?_
  · -- The neighbours are in the same queue, so other ticks keep their records.
    have hzero := (h.resting t y hy).id_ne_zero
    have hfar : y ∉ queues tick := fun hin => ht (h.tick_unique hy hin)
    rw [horder t y hy (fun heq => hfar (heq ▸ hid)), relinked, if_neg, if_neg]
    · rw [hnext]
      rintro rfl
      refine hfar ?_
      rw [hqueue]
      exact List.mem_append_right _ (List.mem_cons_of_mem _ (headD_mem_of_ne hzero))
    · rw [hprev]
      rintro rfl
      refine hfar ?_
      rw [hqueue]
      exact List.mem_append_left _ (getLastD_mem_of_ne hzero)
  · have hsegment := h.segment tick
    rw [hqueue] at hsegment
    refine hsegment.unlink hnodup ?_ ?_ ?_ ?_
    · intro y hy hcase
      rw [hself y hy]
      unfold relinked
      rw [if_neg (hcase.elim (hright y) (hprev ▸ ·))]
      split <;> rfl
    · intro y hy hcase
      rw [hself y hy]
      unfold relinked
      split
      · rfl
      · rw [if_neg (hcase.elim (hleft y) (hnext ▸ ·))]
    · intro hnil
      rw [hself _ (List.mem_append_left _ (getLastD_mem 0 hnil))]
      unfold relinked
      rw [if_pos hprev.symm]
      exact hnext
    · intro hnil
      have hfirst := headD_mem 0 hnil
      rw [hself _ (List.mem_append_right _ hfirst)]
      unfold relinked
      rw [if_neg (hright _ hfirst), if_pos hnext.symm]
      exact hprev
  · exact hnodup.sublist (List.Sublist.append_left (List.sublist_cons_self id right) left)
  · rw [hself y hy]
    exact relinked_resting (h.resting tick y (hmem y hy).1)

theorem setRemaining (h : SideOk v bookKey isBid queues) {remaining : ℕ} (hmem : id ∈ queues tick)
    (hpos : 0 < remaining) (hle : remaining ≤ (v.order id).remaining)
    (horder : ∀ t, ∀ y ∈ queues t, v'.order y =
      if y = id then { v.order y with remaining := remaining } else v.order y)
    (hhead : ∀ t, (v'.level t).head = (v.level t).head)
    (htail : ∀ t, (v'.level t).tail = (v.level t).tail) (hbit : ∀ t, v'.bit t = v.bit t) :
    SideOk v' bookKey isBid queues where
  segment := by
    intro t
    refine (h.segment t).congr (fun y hy => ?_) (fun y hy => ?_)
    · rw [horder t y hy]
      split <;> rfl
    · rw [horder t y hy]
      split <;> rfl
  head := fun t => (hhead t).trans (h.head t)
  tail := fun t => (htail t).trans (h.tail t)
  nodup := h.nodup
  bit := by
    intro t
    rw [hbit t]
    exact h.bit t
  range := h.range
  resting := by
    intro t y hy
    have hrest := h.resting t y hy
    rw [horder t y hy]
    split
    · rename_i heq
      subst heq
      exact ⟨hrest.1, hrest.2, hrest.3, hrest.4, hpos, hle.trans hrest.6⟩
    · exact hrest

end SideOk

end Monotempo.Dex
