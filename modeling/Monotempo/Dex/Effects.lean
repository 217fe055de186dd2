/-
  What the building blocks of the DEX do to its storage.

  One lemma for each building block: if it succeeds, the core of the new state is
  the named change of the core of the old one.  The credit bookkeeping never
  touches the core, so operations that only move credits are invisible here.
-/
import Monotempo.Dex.Side

set_option autoImplicit false

namespace Monotempo.Dex

open Chain Foundation Function
open OrderRecord (absent read written)

variable {u : Unit} {bookKey : B256} {isBid : Bool} {tick : ℤ} {orderId amount bookId : ℕ}
  {deltas : StorageCreditDeltas} {token user base quote : Address} {level' : TickLevel}
  {s s' : DexState} {spec : TempoHardfork} {ctx : Context}

/-! ## Credit bookkeeping -/

theorem creditDexStorageSlots_core {slots : ℕ}
    (h : creditDexStorageSlots spec user slots s = .ok u s') :
    s'.toDexCore = s.toDexCore := by
  unfold creditDexStorageSlots at h
  split at h
  · rw [pure_ok] at h
    rw [h.2]
  · simp only [bind_ok, get_ok] at h
    obtain ⟨_, _, ⟨rfl, rfl⟩, h⟩ := h
    split at h
    · rw [modify_ok] at h
      rw [h]
      rfl
    · simp only [bind_ok, require_ok] at h
      obtain ⟨result, t, hbudget, _, rfl⟩ := h
      obtain ⟨t₁, t₂, hstart, hrun, hend⟩ :=
        withBudget_frame DexState.toDexCore (fun _ _ => rfl) hbudget
      rw [hend, modify_ok.mp hrun]
      exact hstart

theorem flushDeltas_core :
    ∀ {deltas : StorageCreditDeltas} {s s' : DexState} {u : Unit},
      flushDeltas spec deltas s = .ok u s' → s'.toDexCore = s.toDexCore := by
  intro deltas
  induction deltas with
  | nil =>
    intro s s' u h
    unfold flushDeltas at h
    rw [pure_ok] at h
    rw [h.2]
  | cons entry rest ih =>
    intro s s' u h
    unfold flushDeltas at h
    rw [bind_ok] at h
    obtain ⟨_, t, hcredit, hrest⟩ := h
    rw [ih hrest, creditDexStorageSlots_core hcredit]

/-! ## Order records -/

/-- The record is read back as its own order: its key is the order's id, and a
V2 record points at the order's book. -/
def RecordOk (bookKeys : List B256) (orderId : ℕ) (record : OrderRecord) : Prop :=
  record.order.orderId = orderId ∧
    (record.version = .v2 → bookKeys[record.bookIndex]? = some record.order.bookKey)

variable {record : OrderRecord}

theorem OrderRecord.read_eq {bookKeys : List B256} (h : RecordOk bookKeys orderId record)
    (knownBook : Option B256)
    (hknown : ∀ bookKey, knownBook = some bookKey → bookKey = record.order.bookKey) :
    record.read bookKeys orderId knownBook = .ok record.order := by
  obtain ⟨hid, hbook⟩ := h
  rcases record with ⟨version, bookIndex, order⟩
  unfold read
  cases version with
  | legacy => rfl
  | v1 =>
    rw [← hid]
  | v2 =>
    cases knownBook with
    | some bookKey =>
      have hkey := hknown bookKey rfl
      subst hkey
      rw [← hid]
    | none =>
      simp only [hbook rfl]
      rw [← hid]

variable {order : Order}

theorem readOrder_ok (h : readOrder orderId s = .ok order s') :
    s = s' ∧ (s.orders orderId).read s.bookKeys orderId none = .ok order := by
  unfold readOrder at h
  simp only [bind_ok, get_ok, fromExcept_ok] at h
  obtain ⟨_, _, ⟨rfl, rfl⟩, hread, rfl⟩ := h
  exact ⟨rfl, hread⟩

/-- The order a record gives when its book is known. -/
def OrderRecord.inBook (record : OrderRecord) (orderId : ℕ) (bookKey : B256) : Order :=
  match record.version with
  | .legacy => record.order
  | .v1 => { record.order with orderId := orderId }
  | .v2 => { record.order with orderId := orderId, bookKey := bookKey }

theorem OrderRecord.inBook_eq (hid : record.order.orderId = orderId)
    (hbook : record.order.bookKey = bookKey) :
    record.inBook orderId bookKey = record.order := by
  rcases record with ⟨version, bookIndex, order⟩
  subst hid hbook
  cases version <;> rfl

theorem readOrderInBook_eq (orderId : ℕ) (bookKey : B256) (s : DexState) :
    readOrderInBook orderId bookKey s = .ok ((s.orders orderId).inBook orderId bookKey) s := by
  unfold readOrderInBook
  rw [get_bind_ok, fromExcept_ok]
  rcases s.orders orderId with ⟨version, bookIndex, order⟩
  cases version <;> exact ⟨rfl, rfl⟩

theorem readOrderInBook_ok :
    readOrderInBook orderId bookKey s = .ok order s' ↔
      (s.orders orderId).inBook orderId bookKey = order ∧ s = s' := by
  rw [readOrderInBook_eq, EStateM.Result.ok.injEq]

theorem writeOrderInBook_core (h : writeOrderInBook spec orderId order bookId s = .ok u s') :
    s'.toDexCore = s.setRecord orderId (written spec order (bookIdIndex bookId)) := by
  unfold writeOrderInBook at h
  rw [modify_ok] at h
  rw [h]
  rfl

variable {field : OrderField}

theorem writeOrderField_core {value : ℕ}
    (h : writeOrderField spec orderId field value s = .ok u s') :
    s'.toDexCore = s.setRecord orderId ((s.orders orderId).setField field value) := by
  unfold writeOrderField at h
  rw [modify_ok] at h
  rw [h]
  rfl

theorem deleteOrder_core {minted : ℕ} (h : deleteOrder spec order s = .ok minted s') :
    s'.toDexCore = s.setRecord order.orderId absent := by
  unfold deleteOrder at h
  simp only [bind_ok, pure_ok] at h
  obtain ⟨result, t, htrack, _, rfl⟩ := h
  have hrun := trackMintedCredits_ok htrack
  unfold deleteRecord at hrun
  rw [modify_ok] at hrun
  rw [hrun]
  rfl

variable {deltas' : StorageCreditDeltas}

theorem deleteOrderAndTrackDeltas_core
    (h : deleteOrderAndTrackDeltas spec deltas order s = .ok deltas' s') :
    s'.toDexCore = s.setRecord order.orderId absent := by
  unfold deleteOrderAndTrackDeltas at h
  simp only [bind_ok, pure_ok] at h
  obtain ⟨minted, t, hdelete, _, rfl⟩ := h
  exact deleteOrder_core hdelete

theorem unlinkNeighborAndCreditMaker_core {value : ℕ}
    (h : unlinkNeighborAndCreditMaker spec orderId field value s = .ok u s') :
    s'.toDexCore = s.setRecord orderId ((s.orders orderId).setField field value) := by
  unfold unlinkNeighborAndCreditMaker at h
  simp only [bind_ok, onlyIf_ok, get_ok] at h
  obtain ⟨result, t, htrack, hcredit⟩ := h
  have hwrite := writeOrderField_core (trackMintedCredits_ok htrack)
  rcases hcredit with ⟨_, _, _, ⟨rfl, rfl⟩, hcredit⟩ | ⟨_, rfl⟩
  · rw [creditDexStorageSlots_core hcredit, hwrite]
  · exact hwrite

theorem writeOrderSpendingDexStorageCredits_core
    (h : writeOrderSpendingDexStorageCredits spec order bookId s = .ok u s') :
    s'.toDexCore =
      s.setRecord order.orderId (written spec order (bookIdIndex bookId)) := by
  unfold writeOrderSpendingDexStorageCredits at h
  simp only [bind_ok, get_ok] at h
  obtain ⟨_, _, ⟨rfl, rfl⟩, h⟩ := h
  split at h
  · exact writeOrderInBook_core h
  · simp only [bind_ok, modify_ok] at h
    obtain ⟨_, t, rfl, result, t₁, hbudget, hcredit⟩ := h
    obtain ⟨t₂, t₃, hstart, hrun, hend⟩ :=
      withBudget_frame DexState.toDexCore (fun _ _ => rfl) hbudget
    rw [creditDexStorageSlots_core hcredit, hend, writeOrderInBook_core hrun, hstart]
    rfl

/-! ## Levels and ticks -/

/-- What a level read gives: from T12 on only the links. -/
def levelRead (spec : TempoHardfork) (level : TickLevel) : TickLevel :=
  if spec.isT12 then { level with totalLiquidity := 0 } else level

theorem levelRead_head (level : TickLevel) : (levelRead spec level).head = level.head := by
  unfold levelRead
  split <;> rfl

theorem levelRead_tail (level : TickLevel) : (levelRead spec level).tail = level.tail := by
  unfold levelRead
  split <;> rfl

variable {level : TickLevel}

theorem levelRead_total (h : spec.isT12 = false) :
    levelRead spec level = level := by
  unfold levelRead
  rw [h]
  rfl

theorem readLevel_ok (h : readLevel spec bookKey isBid tick s = .ok level s') :
    s = s' ∧ level = levelRead spec ((s.books bookKey).level isBid tick) := by
  obtain ⟨_, _, ⟨rfl, rfl⟩, rfl, rfl⟩ := h
  exact ⟨rfl, rfl⟩

/-- What a level write stores: from T12 on the aggregate keeps its old value. -/
def storedLevel (spec : TempoHardfork) (old level : TickLevel) : TickLevel :=
  if spec.isT12 then { level with totalLiquidity := old.totalLiquidity } else level

theorem storedLevel_head (old level : TickLevel) :
    (storedLevel spec old level).head = level.head := by
  unfold storedLevel
  split <;> rfl

theorem storedLevel_tail (old level : TickLevel) :
    (storedLevel spec old level).tail = level.tail := by
  unfold storedLevel
  split <;> rfl

theorem writeLevel_core (h : writeLevel spec bookKey isBid tick level s = .ok u s') :
    s'.toDexCore = s.setLevel bookKey isBid tick
      (storedLevel spec ((s.books bookKey).level isBid tick) level) := by
  unfold writeLevel at h
  rw [modify_ok] at h
  rw [h]
  rfl

theorem setTickBit_core (h : setTickBit spec bookKey isBid tick s = .ok u s') :
    s'.toDexCore = s.setBitmap bookKey isBid
      (TickBitmap.setTickBit ((s.books bookKey).bitmap isBid) tick) := by
  unfold setTickBit at h
  simp only [bind_ok, fromExcept_ok, modify_ok] at h
  obtain ⟨_, _, ⟨_, rfl⟩, rfl⟩ := h
  rfl

theorem deleteTickBit_core (h : deleteTickBit spec bookKey isBid tick s = .ok u s') :
    s'.toDexCore = s.setBitmap bookKey isBid
      (TickBitmap.deleteTickBit ((s.books bookKey).bitmap isBid) tick) := by
  unfold deleteTickBit at h
  simp only [bind_ok, fromExcept_ok, modify_ok] at h
  obtain ⟨_, _, ⟨_, rfl⟩, rfl⟩ := h
  rfl

theorem nextInitializedTick_ok {found : ℤ × Bool}
    (h : nextInitializedTick bookKey tick isBid s = .ok found s') :
    s = s' ∧ found =
      TickBitmap.nextInitializedTick ((s.books bookKey).bitmap isBid) tick isBid := by
  obtain ⟨_, _, ⟨rfl, rfl⟩, rfl, rfl⟩ := h
  exact ⟨rfl, rfl⟩

theorem writeBestTick_core (h : writeBestTick spec bookKey isBid tick s = .ok u s') :
    s'.toDexCore = s.setBestTick bookKey isBid tick := by
  unfold writeBestTick at h
  rw [modify_ok] at h
  rw [h]
  rfl

/-! ## Balances and transfers -/

theorem incrementBalance_ok (h : incrementBalance spec user token amount s = .ok u s') :
    s'.toDexCore = s.setBalance user token (s.balances user token + amount) := by
  unfold incrementBalance balanceOf setBalance at h
  simp only [bind_ok, get_ok, pure_ok, okOr_ok, modify_ok] at h
  obtain ⟨_, _, ⟨_, _, ⟨rfl, rfl⟩, rfl, rfl⟩, _, _, ⟨hadd, rfl⟩, rfl⟩ := h
  rw [checkedAdd128_eq_some] at hadd
  rw [hadd.1]
  rfl

theorem subBalance_ok (h : subBalance spec user token amount s = .ok u s') :
    amount ≤ s.balances user token ∧
      s'.toDexCore = s.setBalance user token (s.balances user token - amount) := by
  unfold subBalance balanceOf setBalance at h
  simp only [bind_ok, get_ok, pure_ok, okOr_ok, modify_ok] at h
  obtain ⟨_, _, ⟨_, _, ⟨rfl, rfl⟩, rfl, rfl⟩, _, _, ⟨hsub, rfl⟩, rfl⟩ := h
  rw [checkedSub_eq_some] at hsub
  rw [hsub.2]
  exact ⟨hsub.1, rfl⟩

theorem moveTokens_ok {sender recipient : Address}
    (h : moveTokens ctx token sender recipient amount s = .ok u s') :
    amount ≤ s.ledger token sender ∧
      s'.toDexCore =
        { s.toDexCore with ledger := s.ledger.move token sender recipient amount } := by
  unfold moveTokens at h
  simp only [bind_ok, get_ok, liftToken_ok, modify_ok] at h
  obtain ⟨_, _, ⟨_, rfl⟩, _, _, ⟨rfl, rfl⟩, ledger, _, ⟨htransfer, rfl⟩, rfl⟩ := h
  obtain ⟨hfunds, rfl⟩ := transfer_ok htransfer
  exact ⟨hfunds, rfl⟩

/-- A debit comes from the internal balance, or empties it and takes the rest
from the wallet. -/
theorem decrementBalanceOrTransferFrom_ok {sender : Address} {checkPause : Bool}
    (h : decrementBalanceOrTransferFrom ctx sender token amount checkPause s = .ok u s') :
    (amount ≤ s.balances sender token ∧
        s'.toDexCore = s.setBalance sender token (s.balances sender token - amount)) ∨
      (s.balances sender token < amount ∧
        amount - s.balances sender token ≤ s.ledger token sender ∧
        s'.toDexCore = DexCore.setBalance
          { s.toDexCore with
            ledger := s.ledger.move token sender stablecoinDexAddress
              (amount - s.balances sender token) }
          sender token 0) := by
  unfold decrementBalanceOrTransferFrom balanceOf transferFrom setBalance at h
  simp only [bind_ok, get_ok, pure_ok, liftToken_ok] at h
  obtain ⟨_, _, ⟨_, rfl⟩, _, _, ⟨_, rfl⟩, _, _, ⟨_, _, ⟨rfl, rfl⟩, rfl, rfl⟩, h⟩ := h
  split at h
  · simp only [bind_ok, onlyIf_ok, liftToken_ok] at h
    obtain ⟨_, t, hpause, hsub⟩ := h
    rcases hpause with ⟨_, _, rfl⟩ | ⟨_, rfl⟩
    · exact Or.inl (subBalance_ok hsub)
    · exact Or.inl (subBalance_ok hsub)
  · rename_i hless
    simp only [bind_ok, okOr_ok, modify_ok] at h
    obtain ⟨remaining, _, ⟨hsub, rfl⟩, _, t, hmove, rfl⟩ := h
    rw [checkedSub_eq_some] at hsub
    obtain ⟨hle, rfl⟩ := hsub
    obtain ⟨hfunds, hcore⟩ := moveTokens_ok hmove
    refine Or.inr ⟨Nat.lt_of_not_le hless, hfunds, ?_⟩
    show t.toDexCore.setBalance sender token 0 = _
    rw [hcore]

/-! ## Committing an order -/

/-- The level after appending an order; from T12 on the aggregate is not kept. -/
def TickLevel.withOrder (spec : TempoHardfork) (level : TickLevel) (order : Order) :
    TickLevel where
  head := if level.tail = 0 then order.orderId else level.head
  tail := order.orderId
  totalLiquidity :=
    if spec.isT12 then level.totalLiquidity else level.totalLiquidity + order.remaining

/-- The book after appending an order: an empty level gets its bit, and may
become the best tick. -/
def Orderbook.withOrder (spec : TempoHardfork) (book : Orderbook) (order : Order) :
    Orderbook :=
  let level := book.level order.isBid order.tick
  { book with
    level := update book.level order.isBid
      (update (book.level order.isBid) order.tick (level.withOrder spec order))
    bitmap :=
      if level.tail = 0 then
        update book.bitmap order.isBid
          (TickBitmap.setTickBit (book.bitmap order.isBid) order.tick)
      else book.bitmap
    bestTick :=
      if level.tail = 0 ∧
          TickBitmap.better order.isBid order.tick (book.bestTick order.isBid) then
        update book.bestTick order.isBid order.tick
      else book.bestTick }

/-- The record of the old tail, pointing at the new order. -/
def DexCore.linkedTail (c : DexCore) (spec : TempoHardfork) (order : Order) : OrderRecord :=
  let book := c.books order.bookKey
  let tail := (book.level order.isBid order.tick).tail
  if spec.isT8 then (c.orders tail).setField .next order.orderId
  else OrderRecord.written spec
    { (c.orders tail).inBook tail order.bookKey with next := order.orderId }
    (bookIdIndex book.bookId)

/-- The state after an order has been appended to its level. -/
def DexCore.commit (c : DexCore) (spec : TempoHardfork) (order : Order) : DexCore :=
  let book := c.books order.bookKey
  let tail := (book.level order.isBid order.tick).tail
  { c with
    books := update c.books order.bookKey (book.withOrder spec order)
    orders := update
      (if tail = 0 then c.orders else update c.orders tail (c.linkedTail spec order))
      order.orderId
      (OrderRecord.written spec (if tail = 0 then order else { order with prev := tail })
        (bookIdIndex book.bookId)) }

section Reading

variable (book : Orderbook) (order : Order) (side : Bool) (t : ℤ)

theorem Orderbook.level_withOrder :
    (book.withOrder spec order).level side t =
      if side = order.isBid ∧ t = order.tick then
        (book.level order.isBid order.tick).withOrder spec order
      else book.level side t := by
  show update book.level order.isBid _ side t = _
  by_cases hside : side = order.isBid
  · subst hside
    simp [update_apply]
  · simp [hside]

theorem Orderbook.bitmap_withOrder :
    (book.withOrder spec order).bitmap side =
      if side = order.isBid ∧ (book.level order.isBid order.tick).tail = 0 then
        TickBitmap.setTickBit (book.bitmap side) order.tick
      else book.bitmap side := by
  unfold Orderbook.withOrder
  by_cases htail : (book.level order.isBid order.tick).tail = 0
  · by_cases hside : side = order.isBid
    · subst hside
      simp [htail]
    · simp [htail, hside]
  · simp [htail]

theorem Orderbook.bestTick_withOrder :
    (book.withOrder spec order).bestTick side =
      if side = order.isBid ∧ (book.level order.isBid order.tick).tail = 0 ∧
          TickBitmap.better side order.tick (book.bestTick side) then order.tick
      else book.bestTick side := by
  unfold Orderbook.withOrder
  simp only
  by_cases hside : side = order.isBid
  · subst hside
    by_cases hnew : (book.level order.isBid order.tick).tail = 0 ∧
        TickBitmap.better order.isBid order.tick (book.bestTick order.isBid)
    · simp [hnew]
    · simp [hnew]
  · split <;> simp [hside]

variable {side} in
theorem Orderbook.side_withOrder (h : side ≠ order.isBid) :
    (book.withOrder spec order).level side = book.level side ∧
      (book.withOrder spec order).bitmap side = book.bitmap side ∧
      (book.withOrder spec order).bestTick side = book.bestTick side := by
  refine ⟨update_of_ne h _ _, ?_, ?_⟩
  · rw [Orderbook.bitmap_withOrder, if_neg (fun hsame => h hsame.1)]
  · rw [Orderbook.bestTick_withOrder, if_neg (fun hsame => h hsame.1)]

end Reading

/-- The tail of the level an order goes to. -/
def DexCore.tailFor (c : DexCore) (order : Order) : ℕ :=
  ((c.books order.bookKey).level order.isBid order.tick).tail

theorem DexCore.orders_commit_self (c : DexCore) (order : Order) :
    (c.commit spec order).orders order.orderId = written spec
      (if c.tailFor order = 0 then order else { order with prev := c.tailFor order })
      (bookIdIndex (c.books order.bookKey).bookId) :=
  update_self order.orderId _ _

theorem DexCore.orders_commit_of_ne (c : DexCore) (order : Order) {id : ℕ}
    (hid : id ≠ order.orderId) :
    (c.commit spec order).orders id =
      if c.tailFor order ≠ 0 ∧ id = c.tailFor order then c.linkedTail spec order
      else c.orders id := by
  show update _ order.orderId _ id = _
  rw [update_of_ne hid]
  show (if c.tailFor order = 0 then c.orders
    else update c.orders (c.tailFor order) (c.linkedTail spec order)) id = _
  by_cases htail : c.tailFor order = 0
  · simp [htail]
  · simp [htail, update_apply]

theorem DexCore.books_commit (c : DexCore) (order : Order) (key : B256) :
    (c.commit spec order).books key =
      if key = order.bookKey then (c.books key).withOrder spec order else c.books key := by
  show update c.books order.bookKey _ key = _
  by_cases hkey : key = order.bookKey
  · subst hkey
    rw [update_self, if_pos rfl]
  · rw [update_of_ne hkey, if_neg hkey]

variable {chargeCredits : Bool}

theorem storeCommitted_core (h : storeCommitted ctx order bookId chargeCredits s = .ok u s') :
    s'.toDexCore = s.setRecord order.orderId
      (written ctx.spec order (bookIdIndex bookId)) := by
  unfold storeCommitted at h
  split at h
  · exact writeOrderSpendingDexStorageCredits_core h
  · split at h
    · unfold rewriteOrder at h
      simp only [bind_ok, pure_ok] at h
      obtain ⟨minted, t, ⟨result, t', htrack, _, rfl⟩, hcredit⟩ := h
      rw [creditDexStorageSlots_core hcredit]
      exact writeOrderInBook_core (trackMintedCredits_ok htrack)
    · exact writeOrderInBook_core h

theorem addLiquidity_ok (h : addLiquidity ctx level amount s = .ok level' s') :
    s = s' ∧ level' = { level with
      totalLiquidity := if ctx.spec.isT12 then level.totalLiquidity
        else level.totalLiquidity + amount } := by
  unfold addLiquidity at h
  split at h
  · rename_i hspec
    obtain ⟨rfl, rfl⟩ := h
    exact ⟨rfl, by rw [if_pos hspec]⟩
  · rename_i hspec
    simp only [bind_ok, okOr_ok, pure_ok] at h
    obtain ⟨total, _, ⟨hadd, rfl⟩, rfl, rfl⟩ := h
    rw [checkedAdd128_eq_some] at hadd
    exact ⟨rfl, by rw [if_neg hspec, hadd.1]⟩

theorem subLiquidity_ok (h : subLiquidity ctx level amount s = .ok level' s') :
    s = s' ∧ level'.head = level.head ∧ level'.tail = level.tail ∧
      (ctx.spec.isT12 = false → level'.totalLiquidity + amount = level.totalLiquidity) := by
  unfold subLiquidity at h
  split at h
  · rename_i hspec
    obtain ⟨rfl, rfl⟩ := h
    refine ⟨rfl, rfl, rfl, fun hfalse => ?_⟩
    rw [hfalse] at hspec
    exact absurd hspec (by decide)
  · simp only [bind_ok, okOr_ok, pure_ok] at h
    obtain ⟨total, _, ⟨hsub, rfl⟩, rfl, rfl⟩ := h
    rw [checkedSub_eq_some] at hsub
    refine ⟨rfl, rfl, rfl, fun _ => ?_⟩
    show total + amount = level.totalLiquidity
    omega

theorem setTickBit_range (h : setTickBit spec bookKey isBid tick s = .ok u s') :
    minTick ≤ tick ∧ tick ≤ maxTick := by
  unfold setTickBit at h
  simp only [bind_ok, fromExcept_ok] at h
  obtain ⟨_, _, ⟨hcalc, _⟩, _⟩ := h
  unfold TickBitmap.calcTickWordIdx at hcalc
  split at hcalc
  · rename_i hrange
    exact hrange
  · exact nomatch hcalc

theorem storedLevel_added {old : TickLevel}
    (htotal : spec.isT12 = false → level.totalLiquidity = old.totalLiquidity)
    (head tail remaining : ℕ) :
    storedLevel spec old ⟨head, tail, if spec.isT12 then level.totalLiquidity
        else level.totalLiquidity + remaining⟩ =
      ⟨head, tail, if spec.isT12 then old.totalLiquidity
        else old.totalLiquidity + remaining⟩ := by
  unfold storedLevel
  cases hspec : spec.isT12 with
  | true => rfl
  | false => simp [htotal hspec]

/-- `commit_order_to_book` appends the order to its level. -/
theorem commitOrderToBook_core [BookHash]
    (h : commitOrderToBook ctx order chargeCredits s = .ok u s') :
    s'.toDexCore = s.commit ctx.spec order ∧
      (((s.books order.bookKey).level order.isBid order.tick).tail = 0 →
        minTick ≤ order.tick ∧ order.tick ≤ maxTick) := by
  unfold commitOrderToBook at h
  simp only [bind_ok, get_ok] at h
  obtain ⟨_, _, ⟨rfl, rfl⟩, level, t₀, hread, linked, t₁, hlink, level', t₂, hadd, _, t₃,
    hwrite, hstore⟩ := h
  obtain ⟨rfl, hlevel⟩ := readLevel_ok hread
  obtain ⟨rfl, rfl⟩ := addLiquidity_ok hadd
  have htail : level.tail = ((s.books order.bookKey).level order.isBid order.tick).tail := by
    rw [hlevel, levelRead_tail]
  have hhead : level.head = ((s.books order.bookKey).level order.isBid order.tick).head := by
    rw [hlevel, levelRead_head]
  have htotal : ctx.spec.isT12 = false → level.totalLiquidity =
      ((s.books order.bookKey).level order.isBid order.tick).totalLiquidity := by
    intro hspec
    rw [hlevel, levelRead_total hspec]
  have hcore := storeCommitted_core hstore
  rw [writeLevel_core hwrite] at hcore
  unfold linkAtTail at hlink
  simp only [htail] at hlink
  split at hlink
  · rename_i hempty
    simp only [bind_ok, onlyIf_ok, pure_ok] at hlink
    obtain ⟨_, t₄, hbit, _, t₅, hbest, rfl, rfl⟩ := hlink
    refine ⟨?_, fun _ => setTickBit_range hbit⟩
    have hbitCore := setTickBit_core hbit
    rcases hbest with ⟨hbetter, hbest⟩ | ⟨hworse, rfl⟩
    · have hlinked := (writeBestTick_core hbest).trans
        (congrArg (fun c => DexCore.setBestTick c _ _ _) hbitCore)
      rw [hcore, hlinked]
      simp [storedLevel_added htotal, DexCore.commit, DexCore.setLevel, Orderbook.setLevel,
        DexCore.setBestTick, DexCore.setBitmap, DexCore.setRecord, Orderbook.withOrder,
        TickLevel.withOrder, hempty, hbetter, DexCore.setBook, update_idem]
    · rw [hcore, hbitCore]
      simp [storedLevel_added htotal, DexCore.commit, DexCore.setLevel, Orderbook.setLevel,
        DexCore.setBitmap, DexCore.setRecord, Orderbook.withOrder, TickLevel.withOrder, hempty,
        hworse, DexCore.setBook, update_idem]
  · rename_i htailed
    split at hlink
    · rename_i hspec
      simp only [bind_ok, pure_ok] at hlink
      obtain ⟨_, t₄, hnext, rfl, rfl⟩ := hlink
      have hnextCore := writeOrderField_core hnext
      rw [hcore, hnextCore, hhead]
      simp [storedLevel_added htotal, DexCore.commit, DexCore.linkedTail, DexCore.setLevel,
        Orderbook.setLevel, DexCore.setRecord, Orderbook.withOrder, TickLevel.withOrder, htailed,
        hspec, DexCore.setBook]
    · rename_i hspec
      simp only [bind_ok, readOrderInBook_ok, pure_ok] at hlink
      obtain ⟨_, _, ⟨rfl, rfl⟩, _, t₄, hnext, rfl, rfl⟩ := hlink
      have hnextCore := writeOrderInBook_core hnext
      rw [hcore, hnextCore, hhead]
      simp [storedLevel_added htotal, DexCore.commit, DexCore.linkedTail, DexCore.setLevel,
        Orderbook.setLevel, DexCore.setRecord, Orderbook.withOrder, TickLevel.withOrder, htailed,
        hspec, DexCore.setBook]

/-! ## Escrow and settlement -/

/-- The escrow of an order as a value: quote rounded up for bids, base for asks. -/
def escrowOf (base quote : Address) (amount : ℕ) (isBid : Bool) (tick : ℤ) : Escrow :=
  if isBid then ⟨quote, quoteCeil amount tick, base⟩ else ⟨base, amount, quote⟩

theorem escrowFor_ok {escrow : Escrow}
    (h : escrowFor base quote amount isBid tick s = .ok escrow s') :
    s = s' ∧ escrow = escrowOf base quote amount isBid tick := by
  unfold escrowFor at h
  unfold escrowOf
  split at h
  · rename_i hside
    simp only [bind_ok, okOr_ok, pure_ok] at h
    obtain ⟨quoteAmount, _, ⟨hquote, rfl⟩, rfl, rfl⟩ := h
    rw [if_pos hside, baseToQuote_up hquote]
    exact ⟨rfl, rfl⟩
  · rename_i hside
    obtain ⟨rfl, rfl⟩ := h
    rw [if_neg hside]
    exact ⟨rfl, rfl⟩

/-- Add to an internal balance. -/
def DexCore.addBalance (c : DexCore) (user token : Address) (amount : ℕ) : DexCore :=
  c.setBalance user token (c.balances user token + amount)

/-- What the maker of an order receives for a fill. -/
def makerToken (book : Orderbook) (order : Order) : Address :=
  if order.isBid then book.base else book.quote

/-- How much the maker of an order receives for a fill. -/
def makerAmount (order : Order) (fillAmount : ℕ) : ℕ :=
  if order.isBid then fillAmount else quoteCeil fillAmount order.tick

variable {book : Orderbook} {fillAmount : ℕ}

theorem settleMaker_core (h : settleMaker ctx book order fillAmount s = .ok u s') :
    s'.toDexCore =
      s.addBalance order.maker (makerToken book order) (makerAmount order fillAmount) := by
  unfold settleMaker at h
  unfold makerToken makerAmount
  split at h
  · rename_i hside
    rw [if_pos hside, if_pos hside]
    exact incrementBalance_ok h
  · rename_i hside
    simp only [bind_ok, okOr_ok] at h
    obtain ⟨quoteAmount, _, ⟨hquote, rfl⟩, hincrement⟩ := h
    rw [if_neg hside, if_neg hside, ← baseToQuote_up hquote]
    exact incrementBalance_ok hincrement

theorem emitOrderFilled_core {event : OrderFilled} (h : emitOrderFilled event s = .ok u s') :
    s'.toDexCore = { s.toDexCore with filled := s.filled ++ [event] } := by
  unfold emitOrderFilled at h
  rw [modify_ok] at h
  rw [h]

theorem refundEscrow_core [BookHash] (h : refundEscrow ctx order s = .ok u s') :
    s'.toDexCore = s.addBalance order.maker
      (escrowOf (s.books order.bookKey).base (s.books order.bookKey).quote order.remaining
        order.isBid order.tick).token
      (escrowOf (s.books order.bookKey).base (s.books order.bookKey).quote order.remaining
        order.isBid order.tick).amount := by
  unfold refundEscrow at h
  simp only [bind_ok, get_ok] at h
  obtain ⟨_, _, ⟨rfl, rfl⟩, h⟩ := h
  unfold escrowOf
  split at h
  · rename_i hside
    simp only [bind_ok, okOr_ok] at h
    obtain ⟨quoteAmount, _, ⟨hquote, rfl⟩, hincrement⟩ := h
    rw [if_pos hside, ← baseToQuote_up hquote]
    exact incrementBalance_ok hincrement
  · rename_i hside
    rw [if_neg hside]
    exact incrementBalance_ok h

/-! ## Filling an order -/

/-- A flip debits the maker for the new escrow and commits the flipped order. -/
theorem flipInPlace_core [BookHash] (h : flipInPlace ctx order base quote s = .ok u s') :
    let flipped := order.createFlippedOrder order.orderId
    let escrow := escrowOf base quote flipped.amount flipped.isBid flipped.tick
    escrow.amount ≤ s.balances flipped.maker escrow.token ∧
      s'.toDexCore = (s.setBalance flipped.maker escrow.token
        (s.balances flipped.maker escrow.token - escrow.amount)).commit ctx.spec flipped ∧
      (((s.books flipped.bookKey).level flipped.isBid flipped.tick).tail = 0 →
        minTick ≤ flipped.tick ∧ flipped.tick ≤ maxTick) := by
  unfold flipInPlace balanceOf at h
  rw [atomically_ok] at h
  simp only [bind_ok, get_ok, pure_ok, require_ok, liftToken_ok] at h
  obtain ⟨escrow, _, hescrow, _, _, ⟨_, _, ⟨rfl, rfl⟩, rfl, rfl⟩, _, _, ⟨hfunds, rfl⟩, _, _,
    ⟨_, rfl⟩, _, _, ⟨_, rfl⟩, _, _, ⟨_, rfl⟩, _, _, ⟨_, rfl⟩, _, _, ⟨_, rfl⟩, _, _, ⟨_, rfl⟩,
    _, t, hsub, hcommit⟩ := h
  obtain ⟨rfl, rfl⟩ := escrowFor_ok hescrow
  obtain ⟨hcore, hrange⟩ := commitOrderToBook_core hcommit
  rw [(subBalance_ok hsub).2] at hcore hrange
  exact ⟨hfunds, hcore, hrange⟩

theorem flipInPlace_error [BookHash] {e : Error} (hspec : ctx.spec.isT5 = true)
    (h : flipInPlace ctx order base quote s = .error e s') :
    s = s' := by
  unfold flipInPlace at h
  rw [TempoHardfork.isT1C_of_isT5 hspec, atomically_error] at h
  exact h.1.symm

/-- From T5 on a filled order is flipped in place or its record is deleted. -/
theorem retireFilledOrder_core [BookHash] (hspec : ctx.spec.isT5 = true)
    (h : retireFilledOrder ctx deltas book order s = .ok deltas' s') :
    (order.isFlip = true ∧ ∃ u, flipInPlace ctx order book.base book.quote s = .ok u s') ∨
      (order.isFlip = true →
        ∃ e t, flipInPlace ctx order book.base book.quote s = .error e t) ∧
      s'.toDexCore = s.setRecord order.orderId absent := by
  unfold retireFilledOrder at h
  split at h
  · rename_i hflip
    simp only [bind_ok, attempt_ok] at h
    obtain ⟨result, t, hresult, h⟩ := h
    unfold tryFlip at hresult
    rw [if_pos hspec] at hresult
    rcases hresult with ⟨u, rfl, hrun⟩ | ⟨e, rfl, hrun⟩
    · simp only at h
      obtain ⟨rfl, rfl⟩ := h
      exact Or.inl ⟨hflip, u, hrun⟩
    · have hsame := flipInPlace_error hspec hrun
      subst hsame
      simp only at h
      split at h
      · rw [throw_ok] at h
        exact h.elim
      · exact Or.inr ⟨fun _ => ⟨e, s, hrun⟩, deleteOrderAndTrackDeltas_core h⟩
  · rename_i hplain
    exact Or.inr ⟨fun hflip => absurd hflip hplain, deleteOrderAndTrackDeltas_core h⟩

/-- A flip that fails, but not for a system error, deletes the order as if it were not
a flip order. -/
theorem retireFilledOrder_failed [BookHash] {e : Error} (hspec : ctx.spec.isT5 = true)
    (hflip : order.isFlip = true)
    (hrun : flipInPlace ctx order book.base book.quote s = .error e s')
    (hbusiness : e.isSystemError = false) :
    retireFilledOrder ctx deltas book order s =
      retireFilledOrder ctx deltas book { order with isFlip := false } s := by
  have hattempt : attempt (tryFlip ctx book order) s = .ok (.error e) s := by
    unfold tryFlip
    rw [if_pos hspec]
    obtain rfl := flipInPlace_error hspec hrun
    exact attempt_ok.mpr (Or.inr ⟨e, rfl, hrun⟩)
  unfold retireFilledOrder
  rw [if_pos hflip, bind_eq_of_ok hattempt]
  simp only [hbusiness]
  rfl

/-- The book after its tick has been exhausted. -/
def Orderbook.withoutTick (spec : TempoHardfork) (book : Orderbook) (isBid : Bool) (tick : ℤ) :
    Orderbook :=
  let bitmap := TickBitmap.deleteTickBit (book.bitmap isBid) tick
  let found := TickBitmap.nextInitializedTick bitmap tick isBid
  { book with
    level := update book.level isBid
      (update (book.level isBid) tick
        (storedLevel spec (book.level isBid tick) ⟨0, 0, 0⟩))
    bitmap := update book.bitmap isBid bitmap
    bestTick := update book.bestTick isBid
      (if found.2 then found.1 else noTick isBid) }

theorem Orderbook.level_withoutTick (book : Orderbook) (isBid side : Bool) (tick t : ℤ) :
    (book.withoutTick spec isBid tick).level side t =
      if side = isBid ∧ t = tick then storedLevel spec (book.level isBid tick) ⟨0, 0, 0⟩
      else book.level side t := by
  show update book.level isBid _ side t = _
  by_cases hside : side = isBid
  · subst hside
    simp [update_apply]
  · simp [hside]

theorem Orderbook.bitmap_withoutTick (book : Orderbook) (isBid : Bool) (tick : ℤ) :
    (book.withoutTick spec isBid tick).bitmap isBid =
      TickBitmap.deleteTickBit (book.bitmap isBid) tick :=
  update_self isBid _ book.bitmap

theorem Orderbook.bestTick_withoutTick (book : Orderbook) (isBid : Bool) (tick : ℤ) :
    (book.withoutTick spec isBid tick).bestTick isBid =
      let found := TickBitmap.nextInitializedTick
        (TickBitmap.deleteTickBit (book.bitmap isBid) tick) tick isBid
      if found.2 then found.1 else noTick isBid :=
  update_self isBid _ book.bestTick

theorem Orderbook.side_withoutTick (book : Orderbook) {side : Bool} (tick : ℤ) (h : side ≠ isBid) :
    (book.withoutTick spec isBid tick).level side = book.level side ∧
      (book.withoutTick spec isBid tick).bitmap side = book.bitmap side ∧
      (book.withoutTick spec isBid tick).bestTick side = book.bestTick side :=
  ⟨update_of_ne h _ _, update_of_ne h _ _, update_of_ne h _ _⟩

theorem advanceTick_ok [BookHash] {next : Option (TickLevel × Order)}
    (h : advanceTick ctx bookKey order s = .ok next s') :
    s'.toDexCore = s.setBook bookKey
        ((s.books bookKey).withoutTick ctx.spec order.isBid order.tick) ∧
      next =
        let found := TickBitmap.nextInitializedTick
          (TickBitmap.deleteTickBit ((s.books bookKey).bitmap order.isBid) order.tick)
          order.tick order.isBid
        if found.2 then
          let level := levelRead ctx.spec ((s'.books bookKey).level order.isBid found.1)
          some (level, (s'.orders level.head).inBook level.head bookKey)
        else none := by
  unfold advanceTick deleteLevel at h
  simp only [bind_ok] at h
  obtain ⟨_, t₁, hlevel, _, t₂, hbit, found, t₃, hfound, _, t₄, hbest, h⟩ := h
  obtain ⟨rfl, rfl⟩ := nextInitializedTick_ok hfound
  have hbitmap : (t₂.books bookKey).bitmap order.isBid =
      TickBitmap.deleteTickBit ((s.books bookKey).bitmap order.isBid) order.tick := by
    rw [deleteTickBit_core hbit, writeLevel_core hlevel]
    simp [DexCore.setBitmap, DexCore.setLevel, Orderbook.setLevel]
  have hbook : t₄.toDexCore = s.setBook bookKey
      ((s.books bookKey).withoutTick ctx.spec order.isBid order.tick) := by
    rw [writeBestTick_core hbest, hbitmap, deleteTickBit_core hbit, writeLevel_core hlevel]
    simp [DexCore.setBestTick, DexCore.setBitmap, DexCore.setLevel, Orderbook.setLevel,
      Orderbook.withoutTick]
  rw [hbitmap] at h
  split at h
  · rename_i hhas
    simp only [bind_ok, readOrderInBook_ok, pure_ok] at h
    obtain ⟨level, _, hread, _, _, ⟨rfl, rfl⟩, rfl, rfl⟩ := h
    obtain ⟨rfl, rfl⟩ := readLevel_ok hread
    exact ⟨hbook, (if_pos hhas).symm⟩
  · rename_i hnone
    obtain ⟨rfl, rfl⟩ := h
    exact ⟨hbook, (if_neg hnone).symm⟩

theorem advanceOrder_ok [BookHash] {next : StorageCreditDeltas × TickLevel × Order}
    (h : advanceOrder ctx deltas bookKey order level s = .ok next s') :
    s'.toDexCore = (s.setRecord order.next
        ((s.orders order.next).setField .prev 0)).setLevel bookKey order.isBid order.tick
        (storedLevel ctx.spec ((s.books bookKey).level order.isBid order.tick) next.2.1) ∧
      next.2.1.head = order.next ∧ next.2.1.tail = level.tail ∧
      (ctx.spec.isT12 = false →
        next.2.1.totalLiquidity + order.remaining = level.totalLiquidity) ∧
      next.2.2 = (s'.orders order.next).inBook order.next bookKey := by
  unfold advanceOrder at h
  simp only [bind_ok, readOrderInBook_ok, pure_ok] at h
  obtain ⟨minted, t₁, htrack, level', t₂, hliquidity, _, t₃, hwrite, _, _, ⟨rfl, rfl⟩, rfl,
    rfl⟩ := h
  obtain ⟨rfl, hhead, htail, htotal⟩ := subLiquidity_ok hliquidity
  have hprev := writeOrderField_core (trackMintedCredits_ok htrack)
  refine ⟨?_, hhead, htail, htotal, rfl⟩
  rw [writeLevel_core hwrite, hprev]
  rfl

/-- The state after a partial fill: the order keeps the remainder, its maker is
paid, and below T12 the level is rewritten. -/
def DexCore.partlyFilled (c : DexCore) (spec : TempoHardfork) (order : Order)
    (level : TickLevel) (fillAmount : ℕ) (event : OrderFilled) : DexCore :=
  let settled := (c.setRecord order.orderId
      ((c.orders order.orderId).setField .remaining (order.remaining - fillAmount))).addBalance
    order.maker (makerToken (c.books order.bookKey) order) (makerAmount order fillAmount)
  { (if spec.isT12 then settled
      else settled.setLevel order.bookKey order.isBid order.tick level) with
    filled := c.filled ++ [event] }

namespace DexCore

variable (c : DexCore) (order : Order) (level : TickLevel) (fillAmount : ℕ)
  (event : OrderFilled) (key : B256)

theorem orders_partlyFilled (id : ℕ) :
    (c.partlyFilled spec order level fillAmount event).orders id =
      if id = order.orderId then
        (c.orders order.orderId).setField .remaining (order.remaining - fillAmount)
      else c.orders id := by
  unfold partlyFilled
  split <;> exact orders_setRecord _ _ _ _

theorem level_partlyFilled (side : Bool) (t : ℤ) :
    ((c.partlyFilled spec order level fillAmount event).books key).level side t =
      if spec.isT12 = false ∧ key = order.bookKey ∧ side = order.isBid ∧ t = order.tick then
        level
      else (c.books key).level side t := by
  unfold partlyFilled
  cases hspec : spec.isT12 with
  | true => simp [setRecord, addBalance, setBalance]
  | false =>
    simp only [Bool.false_eq_true, if_false, true_and]
    exact level_setLevel _ _ _ _ _ _ _ _

/-- A partial fill leaves everything but the level of a book alone. -/
theorem project_partlyFilled {β : Type} (project : Orderbook → β)
    (h : ∀ (book : Orderbook) (levels : Bool → ℤ → TickLevel),
      project { book with level := levels } = project book) :
    project ((c.partlyFilled spec order level fillAmount event).books key) =
      project (c.books key) := by
  unfold partlyFilled
  cases hspec : spec.isT12 with
  | true => rfl
  | false => exact project_setBook _ _ _ project (h _ _)

end DexCore

theorem partialFillOrder_ok [BookHash] {taker : Address}
    (h : partialFillOrder ctx order level fillAmount taker s = .ok level' s') :
    level'.head = level.head ∧ level'.tail = level.tail ∧
      (ctx.spec.isT12 = false → level'.totalLiquidity + fillAmount = level.totalLiquidity) ∧
      s'.toDexCore = s.partlyFilled ctx.spec order level' fillAmount
        ⟨order.orderId, order.maker, taker, fillAmount, true⟩ := by
  unfold partialFillOrder at h
  simp only [bind_ok, get_ok, pure_ok, onlyIf_ok] at h
  obtain ⟨_, _, ⟨rfl, rfl⟩, _, t₁, hwrite, _, t₂, hsettle, level'', t₃, hliquidity, _, t₄,
    hlevel, _, t₅, hemit, rfl, rfl⟩ := h
  obtain ⟨rfl, hhead, htail, htotal⟩ := subLiquidity_ok hliquidity
  refine ⟨hhead, htail, htotal, ?_⟩
  have hsettled := settleMaker_core hsettle
  rw [writeOrderField_core hwrite] at hsettled
  rw [emitOrderFilled_core hemit]
  unfold DexCore.partlyFilled
  rcases hlevel with ⟨hspec, hlevel⟩ | ⟨hspec, rfl⟩
  · have hspec : ctx.spec.isT12 = false := by simpa using hspec
    have hcore := writeLevel_core hlevel
    rw [hsettled] at hcore
    unfold storedLevel at hcore
    rw [hspec] at hcore ⊢
    rw [hcore]
    rfl
  · have hspec : ctx.spec.isT12 = true := by simpa using hspec
    rw [hspec, hsettled]
    rfl

end Monotempo.Dex
