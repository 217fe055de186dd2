/-
  The storage of the stablecoin DEX.

  Source: `crates/precompiles/src/stablecoin_dex/mod.rs` (lines 54-340: the storage
  layout, credit bookkeeping, balances and transfers) and
  `stablecoin_dex/orderbook.rs` (lines 251-478: `TickLevel`, `BookId`,
  `Orderbook` and its handlers).

  Orders are kept as records (`Dex/OrderStorage.lean`); that the physical slots
  implement them is proved there.  Every write is also accounted as storage: each
  writer lists the old and new words of the slots it touches, and from T7 on the
  credit account of the DEX sees them.  Of the events only `OrderFilled` is kept.
-/
import Mathlib.Data.Nat.Pairing
import Monotempo.Chain.StorageCredits
import Monotempo.Dex.OrderStorage
import Monotempo.Dex.TickBitmap

set_option autoImplicit false

namespace Monotempo.Dex

open Chain Foundation Function

/-! ## Books -/

/-- `TickLevel`, with its `TickLevelLinks` inlined. -/
structure TickLevel where
  head : ℕ
  tail : ℕ
  totalLiquidity : ℕ
  deriving DecidableEq, Repr

/-- `i16::MIN`. -/
def i16Min : ℤ := -32768

/-- `i16::MAX`. -/
def i16Max : ℤ := 32767

/-- The best tick of a side without orders. -/
def noTick (isBid : Bool) : ℤ := if isBid then i16Min else i16Max

/-- `Orderbook`.  The fields that the source keeps once for bids and once for
asks are functions of the side (`true` for bids). -/
@[ext] structure Orderbook where
  base : Address
  quote : Address
  /-- `bids` and `asks` -/
  level : Bool → ℤ → TickLevel
  /-- `best_bid_tick` and `best_ask_tick` -/
  bestTick : Bool → ℤ
  bookId : ℕ
  /-- `bid_bitmap` and `ask_bitmap` -/
  bitmap : Bool → TickBitmap

namespace Orderbook

/-- The zero storage of a pair that was never created. -/
def vacant : Orderbook where
  base := 0
  quote := 0
  level := fun _ _ => ⟨0, 0, 0⟩
  bestTick := fun _ => 0
  bookId := 0
  bitmap := fun _ _ => 0#256

/-- `is_initialized`. -/
def isInitialized (book : Orderbook) : Bool := book.base != 0

/-- Set a tick level of a side. -/
def setLevel (book : Orderbook) (isBid : Bool) (tick : ℤ) (level : TickLevel) : Orderbook :=
  { book with
    level := update book.level isBid
      (update (book.level isBid) tick level) }

/-- The packed slot of the best ticks and the book id. -/
def packedWord (book : Orderbook) : ℕ :=
  ((FromWord.int 2).toWord (book.bestTick true)).toNat +
    ((FromWord.int 2).toWord (book.bestTick false)).toNat * 2 ^ 16 + book.bookId * 2 ^ 32

end Orderbook

/-- The slot of the two list ends of a level. -/
def TickLevel.linksWord (level : TickLevel) : ℕ := level.head + level.tail * 2 ^ 128

/-! ## The state -/

/-- `compute_book_key`: a hash of the ordered pair, taken to be collision free. -/
class BookHash where
  computeBookKey : Address → Address → B256
  injective : ∀ {base quote base' quote' : Address},
    computeBookKey base quote = computeBookKey base' quote' → base = base' ∧ quote = quote'

export BookHash (computeBookKey)

/-- Pairing numbers is collision free, so the assumption can be met. -/
@[reducible] def BookHash.pairing : BookHash where
  computeBookKey := Nat.pair
  injective := fun h => Nat.pair_eq_pair.mp h

/-- The `OrderFilled` event. -/
structure OrderFilled where
  orderId : ℕ
  maker : Address
  taker : Address
  amountFilled : ℕ
  partialFill : Bool
  deriving DecidableEq, Repr

/-- `StablecoinDEX` without the credit bookkeeping, with the TIP-20 balances and
the fills reported so far. -/
@[ext] structure DexCore where
  books : B256 → Orderbook
  orders : ℕ → OrderRecord
  balances : Address → Address → ℕ
  nextOrderId : ℕ
  bookKeys : List B256
  /-- TIP-20 balances, by token and account -/
  ledger : Ledger
  filled : List OrderFilled

/-- `StablecoinDEX` with the credit account of its address. -/
structure DexState extends DexCore where
  /-- `dex_storage_credits` -/
  storageCredits : Address → ℕ
  /-- the TIP-1060 account of the DEX address -/
  credits : CreditAccount

instance : Coe DexState DexCore := ⟨DexState.toDexCore⟩

instance : HasCredits DexState where
  credits := DexState.credits
  setCredits := fun credits s => { s with credits := credits }

/-- What a call runs under: the hardfork, the answers of the token layer, and a
bound on the length of a path to the root token. -/
structure Context where
  spec : TempoHardfork
  env : TokenEnv
  routeDepth : ℕ

/-- A DEX call. -/
abbrev DexM := EStateM Error DexState

/-- A call into the token layer. -/
def liftToken {α : Type} (value : Except TokenError α) : DexM α :=
  match value with
  | .ok a => pure a
  | .error e => throw (.token e)

theorem liftToken_ok {α : Type} {value : Except TokenError α} {a : α} {s s' : DexState} :
    liftToken value s = .ok a s' ↔ value = .ok a ∧ s = s' := by
  cases value with
  | error e => simp [liftToken, throw_ok]
  | ok b => simp [liftToken, pure_ok]

theorem liftToken_bind_ok {α β : Type} {value : Except TokenError α} {f : α → DexM β} {b : β}
    {s s' : DexState} :
    (liftToken value >>= f) s = .ok b s' ↔ ∃ a, value = .ok a ∧ f a s = .ok b s' := by
  rw [bind_ok]
  constructor
  · rintro ⟨a, _, hlift, hrest⟩
    obtain ⟨hvalue, rfl⟩ := liftToken_ok.mp hlift
    exact ⟨a, hvalue, hrest⟩
  · rintro ⟨a, hvalue, hrest⟩
    exact ⟨a, s, liftToken_ok.mpr ⟨hvalue, rfl⟩, hrest⟩

/-! ## Writers -/

namespace DexCore

/-- Set `balances[user][token]`. -/
def setBalance (c : DexCore) (user token : Address) (amount : ℕ) : DexCore :=
  { c with
    balances := update c.balances user
      (update (c.balances user) token amount) }

/-- Set an order record. -/
def setRecord (c : DexCore) (orderId : ℕ) (record : OrderRecord) : DexCore :=
  { c with orders := update c.orders orderId record }

/-- Set a book. -/
def setBook (c : DexCore) (bookKey : B256) (book : Orderbook) : DexCore :=
  { c with books := update c.books bookKey book }

/-- Set a tick level of a side. -/
def setLevel (c : DexCore) (bookKey : B256) (isBid : Bool) (tick : ℤ) (level : TickLevel) :
    DexCore :=
  c.setBook bookKey ((c.books bookKey).setLevel isBid tick level)

/-- Set the bitmap of a side. -/
def setBitmap (c : DexCore) (bookKey : B256) (isBid : Bool) (bitmap : TickBitmap) :
    DexCore :=
  let book := c.books bookKey
  c.setBook bookKey { book with bitmap := update book.bitmap isBid bitmap }

/-- Set the best tick of a side. -/
def setBestTick (c : DexCore) (bookKey : B256) (isBid : Bool) (tick : ℤ) : DexCore :=
  let book := c.books bookKey
  c.setBook bookKey { book with bestTick := update book.bestTick isBid tick }

variable (c : DexCore) (bookKey key : B256) (isBid side : Bool) (tick t : ℤ)

@[simp] theorem books_setBook (book : Orderbook) :
    (c.setBook bookKey book).books bookKey = book := by
  exact update_self bookKey book c.books

@[simp] theorem setBook_setBook (book book' : Orderbook) :
    (c.setBook bookKey book).setBook bookKey book' = c.setBook bookKey book' := by
  unfold setBook
  simp only [update_idem]

variable {bookKey key} in
theorem books_setBook_of_ne (h : key ≠ bookKey) (book : Orderbook) :
    (c.setBook bookKey book).books key = c.books key := by
  exact update_of_ne h book c.books

theorem orders_setRecord (id other : ℕ) (record : OrderRecord) :
    (c.setRecord id record).orders other = if other = id then record else c.orders other :=
  update_apply c.orders id record other

/-- A book write, seen through a projection that the write did not change. -/
theorem project_setBook {β : Type} (project : Orderbook → β) {book : Orderbook}
    (h : project book = project (c.books bookKey)) :
    project ((c.setBook bookKey book).books key) = project (c.books key) := by
  by_cases hkey : key = bookKey
  · subst hkey
    rw [books_setBook, h]
  · rw [books_setBook_of_ne c hkey]

section Level

variable (level : TickLevel)

include level

theorem level_setLevel :
    ((c.setLevel bookKey isBid tick level).books key).level side t =
      if key = bookKey ∧ side = isBid ∧ t = tick then level else (c.books key).level side t := by
  unfold setLevel Orderbook.setLevel
  by_cases hkey : key = bookKey
  · subst hkey
    by_cases hside : side = isBid
    · subst hside
      simp [update_apply]
    · simp [hside]
  · rw [books_setBook_of_ne c hkey, if_neg (fun h => hkey h.1)]

@[simp] theorem bitmap_setLevel :
    ((c.setLevel bookKey isBid tick level).books key).bitmap = (c.books key).bitmap :=
  project_setBook c bookKey key Orderbook.bitmap rfl

@[simp] theorem bestTick_setLevel :
    ((c.setLevel bookKey isBid tick level).books key).bestTick = (c.books key).bestTick :=
  project_setBook c bookKey key Orderbook.bestTick rfl

@[simp] theorem base_setLevel :
    ((c.setLevel bookKey isBid tick level).books key).base = (c.books key).base :=
  project_setBook c bookKey key Orderbook.base rfl

@[simp] theorem quote_setLevel :
    ((c.setLevel bookKey isBid tick level).books key).quote = (c.books key).quote :=
  project_setBook c bookKey key Orderbook.quote rfl

@[simp] theorem bookId_setLevel :
    ((c.setLevel bookKey isBid tick level).books key).bookId = (c.books key).bookId :=
  project_setBook c bookKey key Orderbook.bookId rfl

end Level

end DexCore

namespace DexState

/-- The credit account after slot writes of the DEX, given as old and new words. -/
def account (s : DexState) (spec : TempoHardfork) (writes : List (ℕ × ℕ)) : CreditAccount :=
  if spec.isT7 then s.credits.sstoreAll writes else s.credits

/-- The state after storage writes of the DEX. -/
def write (s : DexState) (spec : TempoHardfork) (core : DexCore) (writes : List (ℕ × ℕ)) :
    DexState :=
  { s with toDexCore := core, credits := s.account spec writes }

/-- Write `balances[user][token]`. -/
def writeBalance (s : DexState) (spec : TempoHardfork) (user token : Address)
    (amount : ℕ) : DexState :=
  s.write spec (s.setBalance user token amount) [(s.balances user token, amount)]

/-- Write `dex_storage_credits[user]`. -/
def writeStorageCredits (s : DexState) (spec : TempoHardfork) (user : Address)
    (slots : ℕ) : DexState :=
  { s with
    storageCredits := update s.storageCredits user slots
    credits := s.account spec [(s.storageCredits user, slots)] }

/-- Write `next_order_id`. -/
def writeNextOrderId (s : DexState) (spec : TempoHardfork) (orderId : ℕ) : DexState :=
  s.write spec { s.toDexCore with nextOrderId := orderId } [(s.nextOrderId, orderId)]

/-- Append to `book_keys`: the length slot and the new element. -/
def pushBookKey (s : DexState) (spec : TempoHardfork) (bookKey : B256) : DexState :=
  s.write spec { s.toDexCore with bookKeys := s.bookKeys ++ [bookKey] }
    [(s.bookKeys.length, s.bookKeys.length + 1), (0, bookKey)]

/-- Write `best_bid_tick` or `best_ask_tick`. -/
def writeBestTick (s : DexState) (spec : TempoHardfork) (bookKey : B256) (isBid : Bool)
    (tick : ℤ) : DexState :=
  let core := s.setBestTick bookKey isBid tick
  s.write spec core [((s.books bookKey).packedWord, (core.books bookKey).packedWord)]

/-- Write `book_id`. -/
def writeBookId (s : DexState) (spec : TempoHardfork) (bookKey : B256) (bookId : ℕ) :
    DexState :=
  let core := s.setBook bookKey { s.books bookKey with bookId := bookId }
  s.write spec core [((s.books bookKey).packedWord, (core.books bookKey).packedWord)]

/-- Store a tick level: the links slot, and below T12 the liquidity slot too. -/
def storeLevel (s : DexState) (spec : TempoHardfork) (bookKey : B256) (isBid : Bool)
    (tick : ℤ) (level : TickLevel) : DexState :=
  let old := (s.books bookKey).level isBid tick
  let stored := if spec.isT12 then { level with totalLiquidity := old.totalLiquidity } else level
  s.write spec (s.setLevel bookKey isBid tick stored)
    ((old.linksWord, level.linksWord) ::
      if spec.isT12 then [] else [(old.totalLiquidity, level.totalLiquidity)])

/-- Write the bitmap word of a tick. -/
def writeBitmap (s : DexState) (spec : TempoHardfork) (bookKey : B256) (isBid : Bool)
    (tick : ℤ) (bitmap : TickBitmap) : DexState :=
  s.write spec (s.setBitmap bookKey isBid bitmap)
    [(((s.books bookKey).bitmap isBid (TickBitmap.wordIndex tick)).toNat,
      (bitmap (TickBitmap.wordIndex tick)).toNat)]

/-- Replace an order record, writing the given slots. -/
def writeRecord (s : DexState) (spec : TempoHardfork) (orderId : ℕ) (record : OrderRecord)
    (writes : List (ℕ × ℕ)) : DexState :=
  s.write spec (s.setRecord orderId record) writes

end DexState

/-! ## Order records -/

namespace OrderRecord

/-- `read` and `read_in_book` on a record.  Below T8 only legacy records exist. -/
def read (bookKeys : List B256) (orderId : ℕ) (record : OrderRecord) :
    Option B256 → Except Error Order
  | knownBook =>
    match record.version, knownBook with
    | .legacy, _ => .ok record.order
    | .v1, _ => .ok { record.order with orderId := orderId }
    | .v2, some bookKey => .ok { record.order with orderId := orderId, bookKey := bookKey }
    | .v2, none =>
      match bookKeys[record.bookIndex]? with
      | some bookKey => .ok { record.order with orderId := orderId, bookKey := bookKey }
      | none => .error (.dex .pairDoesNotExist)

/-- A read fails only for a record whose book is not listed. -/
theorem read_error {bookKeys : List B256} {orderId : ℕ} {record : OrderRecord}
    {knownBook : Option B256} {e : Error}
    (h : record.read bookKeys orderId knownBook = .error e) : e = .dex .pairDoesNotExist := by
  unfold read at h
  cases hversion : record.version with
  | legacy | v1 => simp [hversion] at h
  | v2 =>
    cases knownBook with
    | some bookKey => simp [hversion] at h
    | none =>
      cases hbook : bookKeys[record.bookIndex]? with
      | some bookKey => simp [hversion, hbook] at h
      | none => simpa [hversion, hbook] using h.symm

/-- The slots a write of `new` over `old` touches: those of the new layout, then
from T8 on the trailing ones of a stored old record. -/
def writeSlots (spec : TempoHardfork) (old new : OrderRecord) : List (ℕ × ℕ) :=
  (List.range new.version.slots).map (fun i => ((old.words i).toNat, (new.words i).toNat)) ++
    if spec.isT8 ∧ old.words 0 ≠ 0#256 then
      ((List.range old.version.slots).drop new.version.slots).map
        fun i => ((old.words i).toNat, 0)
    else []

theorem length_writeSlots_le (spec : TempoHardfork) (old new : OrderRecord) :
    (writeSlots spec old new).length ≤ 12 := by
  have hslots : ∀ version : OrderVersion, version.slots ≤ 6 := by
    intro version
    cases version <;> decide
  have hold := hslots old.version
  have hnew := hslots new.version
  unfold writeSlots
  rw [List.length_append, List.length_map, List.length_range]
  split
  · rw [List.length_map, List.length_drop, List.length_range]
    omega
  · rw [List.length_nil]
    omega

/-- The slot of a mutable field. -/
def fieldSlot (record : OrderRecord) (field : OrderField) : ℕ :=
  match record.version with
  | .legacy => field.legacyLoc.offsetSlots
  | .v1 | .v2 => field.compactLoc.offsetSlots

end OrderRecord

/-- `self.orders[order_id].read()`. -/
def readOrder (orderId : ℕ) : DexM Order := do
  let s ← get
  fromExcept ((s.orders orderId).read s.bookKeys orderId none)

/-- `self.orders[order_id].read_in_book(book_key)`. -/
def readOrderInBook (orderId : ℕ) (bookKey : B256) : DexM Order := do
  let s ← get
  fromExcept ((s.orders orderId).read s.bookKeys orderId (some bookKey))

/-- `self.orders[order_id].write_in_book(order, id)`. -/
def writeOrderInBook (spec : TempoHardfork) (orderId : ℕ) (order : Order) (bookId : ℕ) :
    DexM Unit :=
  modify fun s =>
    let record := OrderRecord.written spec order (bookIdIndex bookId)
    s.writeRecord spec orderId record
      (OrderRecord.writeSlots spec (s.orders orderId) record)

/-- A write through `self.orders[order_id].remaining()`, `prev()` or `next()`. -/
def writeOrderField (spec : TempoHardfork) (orderId : ℕ) (field : OrderField) (value : ℕ) :
    DexM Unit :=
  modify fun s =>
    let old := s.orders orderId
    let record := old.setField field value
    s.writeRecord spec orderId record
      [((old.words (old.fieldSlot field)).toNat, (record.words (old.fieldSlot field)).toNat)]

/-- `self.orders[order_id].delete()`. -/
def deleteRecord (spec : TempoHardfork) (orderId : ℕ) : DexM Unit :=
  modify fun s =>
    let old := s.orders orderId
    s.writeRecord spec orderId OrderRecord.absent
      ((List.range old.version.slots).map fun i => ((old.words i).toNat, 0))

/-! ## Levels and ticks -/

/-- `tick_level_handler(..).read()`: from T12 on only the links are read. -/
def readLevel (spec : TempoHardfork) (bookKey : B256) (isBid : Bool) (tick : ℤ) :
    DexM TickLevel := do
  let s ← get
  let level := (s.books bookKey).level isBid tick
  pure (if spec.isT12 then { level with totalLiquidity := 0 } else level)

/-- `tick_level_handler_mut(..).write(level)`. -/
def writeLevel (spec : TempoHardfork) (bookKey : B256) (isBid : Bool) (tick : ℤ)
    (level : TickLevel) : DexM Unit :=
  modify fun s => s.storeLevel spec bookKey isBid tick level

/-- `tick_level_handler_mut(..).delete()`. -/
def deleteLevel (spec : TempoHardfork) (bookKey : B256) (isBid : Bool) (tick : ℤ) : DexM Unit :=
  writeLevel spec bookKey isBid tick ⟨0, 0, 0⟩

/-- `set_tick_bit`. -/
def setTickBit (spec : TempoHardfork) (bookKey : B256) (isBid : Bool) (tick : ℤ) : DexM Unit := do
  let _ ← fromExcept (TickBitmap.calcTickWordIdx tick)
  modify fun s => s.writeBitmap spec bookKey isBid tick
    (TickBitmap.setTickBit ((s.books bookKey).bitmap isBid) tick)

/-- `delete_tick_bit`. -/
def deleteTickBit (spec : TempoHardfork) (bookKey : B256) (isBid : Bool) (tick : ℤ) :
    DexM Unit := do
  let _ ← fromExcept (TickBitmap.calcTickWordIdx tick)
  modify fun s => s.writeBitmap spec bookKey isBid tick
    (TickBitmap.deleteTickBit ((s.books bookKey).bitmap isBid) tick)

/-- `next_initialized_tick`. -/
def nextInitializedTick (bookKey : B256) (tick : ℤ) (isBid : Bool) : DexM (ℤ × Bool) := do
  let s ← get
  pure (TickBitmap.nextInitializedTick ((s.books bookKey).bitmap isBid) tick isBid)

/-- The write of the best tick after an exhausted level. -/
def writeBestTick (spec : TempoHardfork) (bookKey : B256) (isBid : Bool) (tick : ℤ) :
    DexM Unit :=
  modify fun s => s.writeBestTick spec bookKey isBid tick

/-! ## Balances and transfers -/

/-- `balance_of`. -/
def balanceOf (user token : Address) : DexM ℕ := do
  let s ← get
  pure (s.balances user token)

/-- `set_balance`. -/
def setBalance (spec : TempoHardfork) (user token : Address) (amount : ℕ) : DexM Unit :=
  modify fun s => s.writeBalance spec user token amount

/-- `increment_balance`. -/
def incrementBalance (spec : TempoHardfork) (user token : Address) (amount : ℕ) :
    DexM Unit := do
  let current ← balanceOf user token
  let updated ← okOr (checkedAdd128 current amount) Error.underOverflow
  setBalance spec user token updated

/-- `sub_balance`. -/
def subBalance (spec : TempoHardfork) (user token : Address) (amount : ℕ) : DexM Unit := do
  let current ← balanceOf user token
  let updated ← okOr (checkedSub current amount) Error.underOverflow
  setBalance spec user token updated

/-- A TIP-20 transfer by the DEX. -/
def moveTokens (ctx : Context) (token sender recipient : Address) (amount : ℕ) :
    DexM Unit := do
  liftToken (fromAddress token)
  let s ← get
  let ledger ← liftToken (transfer ctx.spec ctx.env s.ledger token sender recipient amount)
  modify fun s => { s with toDexCore := { s.toDexCore with ledger := ledger } }

/-- `transfer`. -/
def transferTo (ctx : Context) (token recipient : Address) (amount : ℕ) : DexM Unit :=
  moveTokens ctx token stablecoinDexAddress recipient amount

/-- `transfer_from`. -/
def transferFrom (ctx : Context) (token sender : Address) (amount : ℕ) : DexM Unit :=
  moveTokens ctx token sender stablecoinDexAddress amount

/-- `decrement_balance_or_transfer_from`. -/
def decrementBalanceOrTransferFrom (ctx : Context) (sender token : Address) (amount : ℕ)
    (checkPause : Bool) : DexM Unit := do
  liftToken (fromAddress token)
  liftToken (ensureTransferAuthorized ctx.spec ctx.env token sender stablecoinDexAddress)
  let userBalance ← balanceOf sender token
  if amount ≤ userBalance then do
    onlyIf (checkPause && ctx.spec.isT4) (liftToken (checkNotPaused ctx.env token))
    subBalance ctx.spec sender token amount
  else do
    let remaining ← okOr (checkedSub amount userBalance) Error.underOverflow
    transferFrom ctx token sender remaining
    setBalance ctx.spec sender token 0

/-- `emit_order_filled`. -/
def emitOrderFilled (event : OrderFilled) : DexM Unit :=
  modify fun s => { s with toDexCore := { s.toDexCore with filled := s.filled ++ [event] } }

/-! ## Storage credits of users -/

/-- The fatal error of `track_minted_credits`. -/
def consumedCredits (before after : ℕ) : Error := .fatal (.consumedCredits before after)

/-- `credit_dex_storage_slots`. -/
def creditDexStorageSlots (spec : TempoHardfork) (user : Address) (slots : ℕ) :
    DexM Unit := do
  if slots = 0 ∨ !spec.isT7 then pure ()
  else
    let s ← get
    let current := s.storageCredits user
    let updated := current + slots
    if current ≠ 0 then modify fun s => s.writeStorageCredits spec user updated
    else
      let spent ← withBudget spec 1 (modify fun s => s.writeStorageCredits spec user updated)
      require (spent.2 = -1) (.fatal (.spendMismatch spent.2))

/-- `delete_order`. -/
def deleteOrder (spec : TempoHardfork) (order : Order) : DexM ℕ := do
  let minted ← trackMintedCredits spec consumedCredits (deleteRecord spec order.orderId)
  pure minted.2

/-- `rewrite_order`. -/
def rewriteOrder (spec : TempoHardfork) (order : Order) (bookId : ℕ) : DexM ℕ := do
  let minted ← trackMintedCredits spec consumedCredits
    (writeOrderInBook spec order.orderId order bookId)
  pure minted.2

/-- `unlink_neighbor_and_credit_maker`, for the field update it is called with. -/
def unlinkNeighborAndCreditMaker (spec : TempoHardfork) (orderId : ℕ) (field : OrderField)
    (value : ℕ) : DexM Unit := do
  let minted ← trackMintedCredits spec consumedCredits (writeOrderField spec orderId field value)
  onlyIf (minted.2 ≠ 0) do
    let s ← get
    creditDexStorageSlots spec (s.orders orderId).order.maker minted.2

/-- `delete_order_and_track_deltas`. -/
def deleteOrderAndTrackDeltas (spec : TempoHardfork) (deltas : StorageCreditDeltas)
    (order : Order) : DexM StorageCreditDeltas := do
  let minted ← deleteOrder spec order
  pure (creditSlots deltas order.maker minted)

/-- `write_order_spending_dex_storage_credits`. -/
def writeOrderSpendingDexStorageCredits (spec : TempoHardfork) (order : Order)
    (bookId : ℕ) : DexM Unit := do
  let s ← get
  let user := order.maker
  let userCredits := s.storageCredits user
  if userCredits = 0 then writeOrderInBook spec order.orderId order bookId
  else
    modify fun s => s.writeStorageCredits spec user 0
    let written ← withBudget spec userCredits
      (writeOrderInBook spec order.orderId order bookId)
    let spentCredits := if written.2 < 0 then (-written.2).toNat else 0
    creditDexStorageSlots spec user (userCredits - spentCredits)

/-- `StorageCreditDeltas::flush`. -/
def flushDeltas (spec : TempoHardfork) : StorageCreditDeltas → DexM Unit
  | [] => pure ()
  | (user, slots) :: rest => do
    creditDexStorageSlots spec user slots
    flushDeltas spec rest

end Monotempo.Dex
