/-
  What a flip cannot touch.

  While a side of a book is being walked, a filled flip order puts a new order on
  another side: in place from T5 on, through a full placement before.  The
  placement may fail half-way, and before T1C its partial effects stay.  None of
  this reaches the walked side: its levels, bitmap and best tick and the records
  of its orders are kept by every building block of a flip, whether it returns or
  fails.
-/
import Monotempo.Dex.Effects

set_option autoImplicit false

namespace Monotempo.Dex

open Chain Foundation Function

variable {side : Bool} {order : Order} {key : B256} {tick : ℤ} {book : Orderbook}
  {token user base : Address} {amount id bookId : ℕ} {level : TickLevel}

/-! ## Programs and the core -/

/-- The program keeps a property of the core, whether it returns or fails. -/
def KeepsCore {α : Type} (P : DexCore → Prop) (x : DexM α) : Prop :=
  Keeps (fun s => P s.toDexCore) x

section Credits

variable {P : DexCore → Prop} {spec : TempoHardfork} {α : Type} {f : DexM α}

theorem keepsCore_trackMintedCredits (h : KeepsCore P f) :
    KeepsCore P (trackMintedCredits spec consumedCredits f) := by
  refine keeps_ite (fun _ => keeps_map _ h) (fun _ => ?_)
  refine keeps_get_bind fun s _ => ?_
  refine keeps_bind h fun value => ?_
  refine keeps_get_bind fun t _ => ?_
  exact keeps_require_bind fun _ => keeps_pure _

theorem keepsCore_spendingUpTo {limit : ℕ} (h : KeepsCore P f) :
    KeepsCore P (spendingUpTo limit f) := by
  intro s hs
  unfold spendingUpTo
  have hrun := h (HasCredits.setCredits ((HasCredits.credits s).setBudget limit) s) hs
  cases hf : f (HasCredits.setCredits ((HasCredits.credits s).setBudget limit) s) with
  | ok | error =>
    simp only [hf] at hrun ⊢
    exact hrun

theorem keepsCore_withBudget {limit : ℕ} (h : KeepsCore P f) :
    KeepsCore P (withBudget spec limit f) := by
  refine keeps_ite (fun _ => keeps_map _ h) (fun _ => ?_)
  refine keeps_ite (fun _ => ?_) (fun _ => keepsCore_spendingUpTo h)
  refine keeps_get_bind fun s _ => ?_
  refine keeps_bind h fun value => ?_
  exact keeps_get_bind fun t _ => keeps_pure _

theorem keepsCore_writeStorageCredits {slots : ℕ} :
    KeepsCore P (modify fun s => s.writeStorageCredits spec user slots) :=
  keeps_modify fun _ hs => hs

theorem keepsCore_creditDexStorageSlots {slots : ℕ} :
    KeepsCore P (creditDexStorageSlots spec user slots) := by
  refine keeps_ite (fun _ => keeps_pure _) (fun _ => ?_)
  refine keeps_get_bind fun s _ => ?_
  refine keeps_ite (fun _ => keepsCore_writeStorageCredits) (fun _ => ?_)
  refine keeps_bind (keepsCore_withBudget keepsCore_writeStorageCredits) fun spent => ?_
  exact keeps_require _

theorem keepsCore_liftToken {value : Except TokenError α} : KeepsCore P (liftToken value) := by
  cases value with
  | error e => exact keeps_throw _
  | ok a => exact keeps_pure a

end Credits

/-! ## The fence around a side -/

/-- The side of `c` is the side of `c₀`, the orders in `ids` have the records they
have in `c₀`, and no level of another side ends in one of them. -/
structure Fenced (c₀ : DexCore) (bookKey : B256) (isBid : Bool) (ids : ℕ → Prop)
    (c : DexCore) : Prop where
  level : (c.books bookKey).level isBid = (c₀.books bookKey).level isBid
  bitmap : (c.books bookKey).bitmap isBid = (c₀.books bookKey).bitmap isBid
  bestTick : (c.books bookKey).bestTick isBid = (c₀.books bookKey).bestTick isBid
  base : (c.books bookKey).base = (c₀.books bookKey).base
  quote : (c.books bookKey).quote = (c₀.books bookKey).quote
  created : (c.books bookKey).isInitialized = true
  filled : c.filled = c₀.filled
  record : ∀ id, ids id → c.orders id = c₀.orders id
  fresh : ∀ id, ids id → id ≠ 0 ∧ id < c.nextOrderId
  apart : ∀ key side tick, ¬ (key = bookKey ∧ side = isBid) →
    ¬ ids ((c.books key).level side tick).tail

namespace Fenced

variable {c₀ c c' : DexCore} {bookKey : B256} {isBid : Bool} {ids : ℕ → Prop}

section Writes

variable (h : Fenced c₀ bookKey isBid ids c)

include h

theorem congr (hbooks : c'.books = c.books) (horders : c'.orders = c.orders)
    (hnext : c.nextOrderId ≤ c'.nextOrderId) (hfilled : c'.filled = c.filled) :
    Fenced c₀ bookKey isBid ids c' where
  level := hbooks ▸ h.level
  bitmap := hbooks ▸ h.bitmap
  bestTick := hbooks ▸ h.bestTick
  base := hbooks ▸ h.base
  quote := hbooks ▸ h.quote
  created := hbooks ▸ h.created
  filled := hfilled.trans h.filled
  record := horders ▸ h.record
  fresh := fun id hid => ⟨(h.fresh id hid).1, Nat.lt_of_lt_of_le (h.fresh id hid).2 hnext⟩
  apart := hbooks ▸ h.apart

theorem setRecord (hid : ¬ ids id) (record : OrderRecord) :
    Fenced c₀ bookKey isBid ids (c.setRecord id record) := by
  refine { h with record := fun y hy => ?_ }
  have hne : y ≠ id := by
    rintro rfl
    exact hid hy
  exact (update_of_ne hne _ _).trans (h.record y hy)

theorem setBook
    (hside : key = bookKey → book.level isBid = (c.books key).level isBid ∧
      book.bitmap isBid = (c.books key).bitmap isBid ∧
      book.bestTick isBid = (c.books key).bestTick isBid ∧
      book.base = (c.books key).base ∧ book.quote = (c.books key).quote)
    (htail : ∀ side tick, ¬ (key = bookKey ∧ side = isBid) →
      ¬ ids (book.level side tick).tail) :
    Fenced c₀ bookKey isBid ids (c.setBook key book) := by
  have hapart : ∀ key' side tick, ¬ (key' = bookKey ∧ side = isBid) →
      ¬ ids (((c.setBook key book).books key').level side tick).tail := by
    intro key' side tick hother
    by_cases hkey' : key' = key
    · subst hkey'
      rw [DexCore.books_setBook]
      exact htail side tick hother
    · rw [DexCore.books_setBook_of_ne _ hkey']
      exact h.apart key' side tick hother
  by_cases hkey : key = bookKey
  · subst hkey
    obtain ⟨hlevel, hbitmap, hbest, hbase, hquote⟩ := hside rfl
    have hbooks : (c.setBook key book).books key = book := DexCore.books_setBook ..
    refine ⟨?_, ?_, ?_, ?_, ?_, ?_, h.filled, h.record, h.fresh, hapart⟩
    · rw [hbooks, hlevel, h.level]
    · rw [hbooks, hbitmap, h.bitmap]
    · rw [hbooks, hbest, h.bestTick]
    · rw [hbooks, hbase, h.base]
    · rw [hbooks, hquote, h.quote]
    · rw [hbooks, Orderbook.isInitialized, hbase]
      exact h.created
  · have hbooks : (c.setBook key book).books bookKey = c.books bookKey :=
      update_of_ne (Ne.symm hkey) _ _
    refine ⟨?_, ?_, ?_, ?_, ?_, ?_, h.filled, h.record, h.fresh, hapart⟩ <;> rw [hbooks]
    exacts [h.level, h.bitmap, h.bestTick, h.base, h.quote, h.created]

theorem setLevel (hother : ¬ (key = bookKey ∧ side = isBid)) (htail : ¬ ids level.tail) :
    Fenced c₀ bookKey isBid ids (c.setLevel key side tick level) := by
  refine h.setBook (fun hkey => ?_) (fun side' tick' hother' => ?_)
  · have hne : isBid ≠ side := fun hside => hother ⟨hkey, hside.symm⟩
    exact ⟨update_of_ne hne _ _, rfl, rfl, rfl, rfl⟩
  · have hlevel := c.level_setLevel key key side side' tick tick' level
    unfold DexCore.setLevel at hlevel
    rw [DexCore.books_setBook] at hlevel
    rw [hlevel]
    split
    · exact htail
    · exact h.apart key side' tick' hother'

theorem setBitmap {bitmap : TickBitmap} (hother : ¬ (key = bookKey ∧ side = isBid)) :
    Fenced c₀ bookKey isBid ids (c.setBitmap key side bitmap) := by
  refine h.setBook (fun hkey => ?_) (fun side' tick' hother' => h.apart key side' tick' hother')
  have hne : isBid ≠ side := fun hside => hother ⟨hkey, hside.symm⟩
  exact ⟨rfl, update_of_ne hne _ _, rfl, rfl, rfl⟩

theorem setBestTick (hother : ¬ (key = bookKey ∧ side = isBid)) :
    Fenced c₀ bookKey isBid ids (c.setBestTick key side tick) := by
  refine h.setBook (fun hkey => ?_) (fun side' tick' hother' => h.apart key side' tick' hother')
  have hne : isBid ≠ side := fun hside => hother ⟨hkey, hside.symm⟩
  exact ⟨rfl, rfl, update_of_ne hne _ _, rfl, rfl⟩

end Writes

end Fenced

/-! ## The building blocks of a flip -/

section Blocks

variable {c₀ : DexCore} {bookKey : B256} {isBid : Bool} {ids : ℕ → Prop}
  {spec : TempoHardfork} {ctx : Context}

theorem fenced_subBalance :
    KeepsCore (Fenced c₀ bookKey isBid ids) (subBalance spec user token amount) := by
  refine keeps_bind (keeps_get_bind fun _ _ => keeps_pure _) fun current => ?_
  exact keeps_bind (keeps_okOr _ _) fun updated =>
    keeps_modify fun _ hs => hs.congr rfl rfl (Nat.le_refl _) rfl

theorem fenced_writeOrderInBook (hid : ¬ ids id) :
    KeepsCore (Fenced c₀ bookKey isBid ids) (writeOrderInBook spec id order bookId) :=
  keeps_modify fun _ hs => hs.setRecord hid _

variable {deltas : StorageCreditDeltas}

theorem fenced_deleteOrderAndTrackDeltas (hid : ¬ ids order.orderId) :
    KeepsCore (Fenced c₀ bookKey isBid ids) (deleteOrderAndTrackDeltas spec deltas order) := by
  have hdelete : KeepsCore (Fenced c₀ bookKey isBid ids) (deleteRecord spec order.orderId) :=
    keeps_modify fun _ hs => hs.setRecord hid _
  refine keeps_bind ?_ fun minted => keeps_pure _
  exact keeps_bind (keepsCore_trackMintedCredits hdelete) fun minted => keeps_pure _

theorem fenced_writeOrderSpendingDexStorageCredits (hid : ¬ ids order.orderId) :
    KeepsCore (Fenced c₀ bookKey isBid ids)
      (writeOrderSpendingDexStorageCredits spec order bookId) := by
  refine keeps_get_bind fun s _ => ?_
  refine keeps_ite (fun _ => fenced_writeOrderInBook hid) (fun _ => ?_)
  refine keeps_bind keepsCore_writeStorageCredits fun _ => ?_
  refine keeps_bind (keepsCore_withBudget (fenced_writeOrderInBook hid)) fun written => ?_
  exact keepsCore_creditDexStorageSlots

variable {chargeCredits : Bool}

theorem fenced_storeCommitted (hid : ¬ ids order.orderId) :
    KeepsCore (Fenced c₀ bookKey isBid ids)
      (storeCommitted ctx order bookId chargeCredits) := by
  refine keeps_ite (fun _ => fenced_writeOrderSpendingDexStorageCredits hid) (fun _ => ?_)
  refine keeps_ite (fun _ => ?_) (fun _ => fenced_writeOrderInBook hid)
  refine keeps_bind ?_ fun minted => keepsCore_creditDexStorageSlots
  refine keeps_bind ?_ fun minted => keeps_pure _
  exact keepsCore_trackMintedCredits (fenced_writeOrderInBook hid)

/-- Appending to a level of another side writes the old tail of that level and
gives it a new one. -/
theorem fenced_linkAtTail (hother : ¬ (order.bookKey = bookKey ∧ order.isBid = isBid))
    (htail : ¬ ids level.tail) :
    Triple (fun s : DexState => Fenced c₀ bookKey isBid ids s.toDexCore)
      (linkAtTail ctx book order level)
      (fun linked s => Fenced c₀ bookKey isBid ids s.toDexCore ∧
        linked.1.orderId = order.orderId ∧ linked.2.tail = order.orderId)
      (fun _ s => Fenced c₀ bookKey isBid ids s.toDexCore) := by
  refine triple_ite (fun _ => ?_) (fun _ => triple_ite (fun _ => ?_) (fun _ => ?_))
  · refine triple_bind_keeps (keeps_bind (keeps_fromExcept _) fun _ =>
      keeps_modify fun s hs => hs.setBitmap hother) fun _ => ?_
    refine triple_bind_keeps (keeps_onlyIf fun _ =>
      keeps_modify fun _ hs => hs.setBestTick hother) fun _ => ?_
    exact triple_pure fun s hs => ⟨hs, rfl, rfl⟩
  · refine triple_bind_keeps (keeps_modify fun _ hs => hs.setRecord htail _) fun _ => ?_
    exact triple_pure fun s hs => ⟨hs, rfl, rfl⟩
  · unfold readOrderInBook
    refine triple_bind_keeps (keeps_get_bind fun s _ => keeps_fromExcept _) fun prevOrder => ?_
    refine triple_bind_keeps (fenced_writeOrderInBook htail) fun _ => ?_
    exact triple_pure fun s hs => ⟨hs, rfl, rfl⟩

theorem fenced_addLiquidity {facts : Prop} :
    Triple (fun s : DexState => Fenced c₀ bookKey isBid ids s ∧ facts)
      (addLiquidity ctx level amount)
      (fun level' s => Fenced c₀ bookKey isBid ids s ∧ facts ∧
        level'.tail = level.tail)
      (fun _ s => Fenced c₀ bookKey isBid ids s) := by
  refine triple_ite (fun _ => triple_pure fun s hs => ⟨hs.1, hs.2, rfl⟩) (fun _ => ?_)
  refine triple_bind (triple_okOr (fun s _ hs _ => hs) (fun s hs => hs.1)) fun total => ?_
  exact triple_pure fun s hs => ⟨hs.1, hs.2, rfl⟩

theorem fenced_readLevel (hother : ¬ (key = bookKey ∧ side = isBid)) :
    Triple (fun s : DexState => Fenced c₀ bookKey isBid ids s)
      (readLevel spec key side tick)
      (fun level s => Fenced c₀ bookKey isBid ids s ∧ ¬ ids level.tail)
      (fun _ s => Fenced c₀ bookKey isBid ids s) := by
  refine triple_get_bind fun s hs => triple_pure ?_
  rintro _ rfl
  refine ⟨hs, ?_⟩
  split <;> exact hs.apart _ _ _ hother

theorem fenced_commitOrderToBook (hother : ¬ (order.bookKey = bookKey ∧ order.isBid = isBid))
    (hid : ¬ ids order.orderId) :
    KeepsCore (Fenced c₀ bookKey isBid ids) (commitOrderToBook ctx order chargeCredits) := by
  refine keeps_get_bind fun s _ => ?_
  refine triple_bind (fenced_readLevel hother) fun level t ht => ?_
  refine triple_bind (fenced_linkAtTail hother ht.2) (fun linked => ?_) t ht.1
  refine triple_bind fenced_addLiquidity fun level' t' ht' => ?_
  obtain ⟨hfenced, ⟨horder, htail⟩, hlevel⟩ := ht'
  rw [← hlevel] at htail
  have hwrite : KeepsCore (Fenced c₀ bookKey isBid ids)
      (writeLevel ctx.spec order.bookKey order.isBid order.tick level') :=
    keeps_modify fun s hs => hs.setLevel hother (by split <;> (rw [htail]; exact hid))
  have hstore : KeepsCore (Fenced c₀ bookKey isBid ids)
      (storeCommitted ctx linked.1 (s.books order.bookKey).bookId chargeCredits) :=
    fenced_storeCommitted (by rw [horder]; exact hid)
  exact keeps_bind hwrite (fun _ => hstore) t' hfenced

/-! ## Flips -/

variable {quote : Address}

theorem fenced_escrowFor :
    KeepsCore (Fenced c₀ bookKey isBid ids) (escrowFor base quote amount side tick) := by
  refine keeps_ite (fun _ => ?_) (fun _ => keeps_pure _)
  exact keeps_bind (keeps_okOr _ _) fun quoteAmount => keeps_pure _

theorem fenced_flipInPlace (hside : order.isBid = isBid) (hid : ¬ ids order.orderId) :
    KeepsCore (Fenced c₀ bookKey isBid ids) (flipInPlace ctx order base quote) := by
  have hother : ¬ ((order.createFlippedOrder order.orderId).bookKey = bookKey ∧
      (order.createFlippedOrder order.orderId).isBid = isBid) := by
    rintro ⟨_, hflipped⟩
    have hflipped : (!order.isBid) = isBid := hflipped
    rw [hside] at hflipped
    exact Bool.not_ne_self isBid hflipped
  refine keeps_atomically _ ?_
  refine keeps_bind fenced_escrowFor fun escrow => ?_
  refine keeps_bind (keeps_get_bind fun s _ => keeps_pure _) fun userBalance => ?_
  refine keeps_require_bind fun _ => ?_
  refine keeps_bind keepsCore_liftToken fun _ => ?_
  refine keeps_bind keepsCore_liftToken fun _ => ?_
  refine keeps_bind keepsCore_liftToken fun _ => ?_
  refine keeps_bind keepsCore_liftToken fun _ => ?_
  refine keeps_bind keepsCore_liftToken fun _ => ?_
  refine keeps_bind keepsCore_liftToken fun _ => ?_
  refine keeps_bind fenced_subBalance fun _ => ?_
  exact fenced_commitOrderToBook hother hid

variable [BookHash]

/-- A new pair gets the key of no pair that exists. -/
theorem fenced_createPair :
    KeepsCore (Fenced c₀ bookKey isBid ids) (createPair ctx base) := by
  refine keeps_require_bind fun _ => ?_
  refine keeps_bind keepsCore_liftToken fun _ => ?_
  refine keeps_bind keepsCore_liftToken fun _ => ?_
  refine keeps_bind keepsCore_liftToken fun _ => ?_
  refine keeps_get_bind fun s hs => ?_
  refine keeps_require_bind fun hnew => ?_
  have hkey : computeBookKey base (ctx.env.quoteToken base) ≠ bookKey := by
    rintro rfl
    rw [hs.created] at hnew
    exact absurd hnew (by decide)
  refine keeps_bind (keeps_modify fun t ht => ?_) fun _ => ?_
  · refine ht.setBook (fun h => absurd h hkey) fun side tick hother => ?_
    exact hs.apart _ side tick hother
  · refine keeps_bind (keeps_modify fun t ht => ?_) fun _ => keeps_pure _
    exact ht.congr rfl rfl (Nat.le_refl _) rfl

omit [BookHash] in
theorem fenced_checkNonEscrowToken {maker : Address} :
    KeepsCore (Fenced c₀ bookKey isBid ids) (checkNonEscrowToken ctx token maker) := by
  refine keeps_bind keepsCore_liftToken fun _ => ?_
  refine keeps_bind keepsCore_liftToken fun _ => ?_
  exact keeps_onlyIf fun _ => keepsCore_liftToken

variable {sender : Address}

omit [BookHash] in
theorem fenced_debitFlipEscrow {escrow : Escrow} :
    KeepsCore (Fenced c₀ bookKey isBid ids) (debitFlipEscrow ctx sender escrow true) := by
  refine keeps_bind keepsCore_liftToken fun _ => ?_
  refine keeps_bind keepsCore_liftToken fun _ => ?_
  refine keeps_bind (keeps_onlyIf fun _ => keepsCore_liftToken) fun _ => ?_
  refine keeps_bind (keeps_get_bind fun s _ => keeps_pure _) fun userBalance => ?_
  refine keeps_require_bind fun _ => ?_
  exact fenced_subBalance

omit [BookHash] in
theorem fenced_readNextOrderId :
    Triple (fun s : DexState => Fenced c₀ bookKey isBid ids s) readNextOrderId
      (fun orderId s => Fenced c₀ bookKey isBid ids s ∧ ¬ ids orderId ∧
        s.nextOrderId ≤ orderId)
      (fun _ s => Fenced c₀ bookKey isBid ids s) := by
  refine triple_get_bind fun s hs => triple_pure ?_
  rintro _ rfl
  refine ⟨hs, fun hid => ?_, Nat.le_max_left _ _⟩
  have hlt := (hs.fresh _ hid).2
  omega

/-- Before T5 a flip is a placement under a new id. -/
theorem fenced_placeFlip {flipTick : ℤ} (hside : side ≠ isBid) :
    KeepsCore (Fenced c₀ bookKey isBid ids)
      (placeFlip ctx sender token amount side tick flipTick true) := by
  refine keeps_bind keepsCore_liftToken fun _ => ?_
  refine keeps_atomically _ ?_
  refine keeps_get_bind fun s _ => ?_
  refine keeps_bind (keeps_onlyIf fun _ =>
    keeps_bind fenced_createPair fun _ => keeps_pure _) fun _ => ?_
  refine keeps_require_bind fun _ => ?_
  refine keeps_require_bind fun _ => ?_
  refine keeps_require_bind fun _ => ?_
  refine keeps_require_bind fun _ => ?_
  refine keeps_require_bind fun _ => ?_
  refine keeps_require_bind fun _ => ?_
  refine keeps_bind fenced_escrowFor fun escrow => ?_
  refine keeps_bind fenced_checkNonEscrowToken fun _ => ?_
  refine keeps_bind fenced_debitFlipEscrow fun _ => ?_
  refine triple_bind fenced_readNextOrderId fun orderId => ?_
  refine triple_bind (triple_okOr (fun t order ht horder => And.intro ht horder)
    (fun t ht => ht.1)) fun order => ?_
  rintro t ⟨⟨ht, hid, hnext⟩, horder⟩
  obtain rfl := Order.newFlip_eq horder
  refine keeps_bind (fenced_commitOrderToBook (fun h => hside h.2) hid)
    (fun _ => keeps_pure _) (t.writeNextOrderId ctx.spec (orderId + 1)) ?_
  exact ht.congr rfl rfl (Nat.le_succ_of_le hnext) rfl

theorem fenced_tryFlip (hside : order.isBid = isBid) (hid : ¬ ids order.orderId) :
    KeepsCore (Fenced c₀ bookKey isBid ids) (tryFlip ctx book order) := by
  refine keeps_ite (fun _ => fenced_flipInPlace hside hid) (fun _ => ?_)
  refine keeps_bind (fenced_placeFlip ?_) fun _ => keeps_pure _
  rw [hside]
  exact Bool.not_ne_self isBid

/-- Retiring a filled order leaves every other order of its side alone. -/
theorem fenced_retireFilledOrder (hside : order.isBid = isBid) (hid : ¬ ids order.orderId) :
    KeepsCore (Fenced c₀ bookKey isBid ids) (retireFilledOrder ctx deltas book order) := by
  have hdelete : KeepsCore (Fenced c₀ bookKey isBid ids)
      (deleteOrderAndTrackDeltas ctx.spec deltas order) :=
    fenced_deleteOrderAndTrackDeltas hid
  refine keeps_ite (fun _ => ?_) (fun _ => hdelete)
  refine keeps_bind (keeps_attempt (fenced_tryFlip hside hid)) fun result => ?_
  cases result with
  | ok _ => exact keeps_ite (fun _ => keeps_pure _) (fun _ => hdelete)
  | error e => exact keeps_ite (fun _ => keeps_throw _) (fun _ => hdelete)

end Blocks

end Monotempo.Dex
