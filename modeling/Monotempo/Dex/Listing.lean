/-
  The well-formed states of the DEX.

  A listing gives the order queues of every side of every book.  `Listed c listing`
  says that the state represents the listing: every side does, the best ticks are
  exact, every order with a maker is on the queue its record names, and every
  record can be read back.  Two changes are enough for all operations: an order is
  appended (a placement or a flip), or one leaves (a cancellation or a complete
  fill).
-/
import Monotempo.Dex.Effects
import Monotempo.Dex.Priority

set_option autoImplicit false

namespace Monotempo.Dex

open Chain Foundation Function

variable {bookKey key : B256} {id : ℕ} {isBid side : Bool} {tick t : ℤ}

/-! ## Listings -/

/-- The order queues of every side of every book. -/
abbrev Listing := B256 → Bool → Queues

variable {listing : Listing}

namespace Listing

/-- Replace the queue of one tick. -/
def set (listing : Listing) (bookKey : B256) (isBid : Bool) (tick : ℤ) (queue : List ℕ) :
    Listing :=
  update listing bookKey (update (listing bookKey) isBid
    (update (listing bookKey isBid) tick queue))

/-- Append an order to the queue of its tick. -/
def append (listing : Listing) (order : Order) : Listing :=
  listing.set order.bookKey order.isBid order.tick
    (listing order.bookKey order.isBid order.tick ++ [order.orderId])

theorem set_self (listing : Listing) (bookKey : B256) (isBid : Bool) (tick : ℤ)
    (queue : List ℕ) :
    listing.set bookKey isBid tick queue bookKey isBid =
      update (listing bookKey isBid) tick queue := by
  unfold set
  rw [update_self, update_self]

theorem append_self (listing : Listing) (order : Order) :
    listing.append order order.bookKey order.isBid order.tick =
      listing order.bookKey order.isBid order.tick ++ [order.orderId] := by
  unfold append
  rw [set_self, update_self]

theorem set_of_ne (listing : Listing) (tick : ℤ) (queue : List ℕ)
    (h : ¬ (key = bookKey ∧ side = isBid)) :
    listing.set bookKey isBid tick queue key side = listing key side := by
  unfold set
  by_cases hkey : key = bookKey
  · subst hkey
    rw [update_self, update_of_ne (fun hside => h ⟨rfl, hside⟩)]
  · rw [update_of_ne hkey]

theorem mem_set_append {other : ℕ} :
    other ∈ listing.set bookKey isBid tick (listing bookKey isBid tick ++ [id]) key side t ↔
      other ∈ listing key side t ∨
        (other = id ∧ key = bookKey ∧ side = isBid ∧ t = tick) := by
  by_cases hsame : key = bookKey ∧ side = isBid
  · obtain ⟨rfl, rfl⟩ := hsame
    rw [set_self]
    by_cases ht : t = tick
    · subst ht
      simp
    · rw [update_of_ne ht]
      simp [ht]
  · rw [set_of_ne listing tick _ hsame]
    constructor
    · exact Or.inl
    · rintro (hmem | ⟨_, hkey, hside, _⟩)
      · exact hmem
      · exact absurd ⟨hkey, hside⟩ hsame

end Listing

/-- The state represents the listing. -/
structure Listed [BookHash] (c : DexCore) (listing : Listing) : Prop where
  side : ∀ bookKey isBid, SideOk (c.side bookKey isBid) bookKey isBid (listing bookKey isBid)
  best : ∀ bookKey isBid, (c.books bookKey).isInitialized = true →
    BestOk isBid ((c.books bookKey).bestTick isBid) (listing bookKey isBid)
  created : ∀ bookKey isBid tick, listing bookKey isBid tick ≠ [] →
    (c.books bookKey).isInitialized = true
  live : ∀ id, (c.orders id).order.maker ≠ 0 →
    id ∈ listing (c.orders id).order.bookKey (c.orders id).order.isBid (c.orders id).order.tick
  record : ∀ bookKey isBid tick, ∀ id ∈ listing bookKey isBid tick,
    RecordOk c.bookKeys id (c.orders id) ∧ id < c.nextOrderId
  pair : ∀ bookKey, (c.books bookKey).isInitialized = true →
    bookKey = computeBookKey (c.books bookKey).base (c.books bookKey).quote
  index : ∀ bookKey i, bookIdIndex (c.books bookKey).bookId = some i →
    c.bookKeys[i]? = some bookKey

variable {order : Order}

namespace Listed

variable [BookHash] {c c' : DexCore} {listing : Listing}

theorem unique (h : Listed c listing) (hmem : id ∈ listing bookKey isBid tick)
    (hmem' : id ∈ listing key side t) :
    key = bookKey ∧ side = isBid ∧ t = tick := by
  have hrest := (h.side bookKey isBid).resting tick id hmem
  have hrest' := (h.side key side).resting t id hmem'
  exact ⟨hrest'.bookKey_eq.symm.trans hrest.bookKey_eq,
    hrest'.isBid_eq.symm.trans hrest.isBid_eq, hrest'.tick_eq.symm.trans hrest.tick_eq⟩

/-- Where an order is listed is read from everything but its pointers. -/
theorem live_of_contents (h : Listed c listing)
    (hcontents : order.contents = (c.orders id).order.contents) (hmaker : order.maker ≠ 0) :
    id ∈ listing order.bookKey order.isBid order.tick := by
  obtain ⟨_, hsame, hbook, hside, htick, _⟩ := Order.contents_fields hcontents
  rw [hbook, hside, htick]
  rw [hsame] at hmaker
  exact h.live id hmaker

/-- Balances, transfers and events do not matter. -/
theorem congr (h : Listed c listing) (hbooks : c'.books = c.books)
    (horders : c'.orders = c.orders) (hkeys : c'.bookKeys = c.bookKeys)
    (hnext : c.nextOrderId ≤ c'.nextOrderId) : Listed c' listing := by
  rcases c with ⟨books, orders, balances, nextOrderId, bookKeys, ledger, filled⟩
  subst hbooks horders hkeys
  exact ⟨h.side, h.best, h.created, h.live,
    fun key side tick id hid => ⟨(h.record key side tick id hid).1,
      Nat.lt_of_lt_of_le (h.record key side tick id hid).2 hnext⟩, h.pair, h.index⟩

end Listed

/-- The books differ on one side of one book at most. -/
structure OneSided (c c' : DexCore) (bookKey : B256) (isBid : Bool) : Prop where
  side : ∀ key side, ¬ (key = bookKey ∧ side = isBid) →
    (c'.books key).level side = (c.books key).level side ∧
    (c'.books key).bitmap side = (c.books key).bitmap side ∧
    (c'.books key).bestTick side = (c.books key).bestTick side
  pair : ∀ key, (c'.books key).base = (c.books key).base ∧
    (c'.books key).quote = (c.books key).quote ∧ (c'.books key).bookId = (c.books key).bookId
  bookKeys : c'.bookKeys = c.bookKeys

/-- A change of one side: what has to be shown is about that side and the records. -/
theorem Listed.oneSided [BookHash] {c c' : DexCore} {listing' : Listing} (h : Listed c listing)
    (hbooks : OneSided c c' bookKey isBid)
    (hlisting : ∀ key side, ¬ (key = bookKey ∧ side = isBid) →
      listing' key side = listing key side)
    (hfar : ∀ key side, ¬ (key = bookKey ∧ side = isBid) → ∀ t, ∀ y ∈ listing key side t,
      (c'.orders y).order = (c.orders y).order)
    (hside : SideOk (c'.side bookKey isBid) bookKey isBid (listing' bookKey isBid))
    (hbest : (c.books bookKey).isInitialized = true →
      BestOk isBid ((c'.books bookKey).bestTick isBid) (listing' bookKey isBid))
    (hcreated : ∀ t, listing' bookKey isBid t ≠ [] → (c.books bookKey).isInitialized = true)
    (hlive : ∀ y, (c'.orders y).order.maker ≠ 0 → y ∈ listing' (c'.orders y).order.bookKey
      (c'.orders y).order.isBid (c'.orders y).order.tick)
    (hrecord : ∀ key side t, ∀ y ∈ listing' key side t,
      RecordOk c.bookKeys y (c'.orders y) ∧ y < c'.nextOrderId) : Listed c' listing' := by
  have hinit : ∀ key, (c'.books key).isInitialized = (c.books key).isInitialized := by
    intro key
    unfold Orderbook.isInitialized
    rw [(hbooks.pair key).1]
  constructor
  · intro key side
    by_cases hsame : key = bookKey ∧ side = isBid
    · obtain ⟨rfl, rfl⟩ := hsame
      exact hside
    · rw [hlisting key side hsame]
      obtain ⟨hlevel, hbitmap, _⟩ := hbooks.side key side hsame
      refine (h.side key side).congr (hfar key side hsame) ?_ ?_ ?_
      · intro t
        exact congrArg TickLevel.head (congrFun hlevel t)
      · intro t
        exact congrArg TickLevel.tail (congrFun hlevel t)
      · intro t
        exact congrArg (fun bitmap => TickBitmap.isTickInitialized bitmap t) hbitmap
  · intro key side hkey
    rw [hinit] at hkey
    by_cases hsame : key = bookKey ∧ side = isBid
    · obtain ⟨rfl, rfl⟩ := hsame
      exact hbest hkey
    · rw [hlisting key side hsame, (hbooks.side key side hsame).2.2]
      exact h.best key side hkey
  · intro key side t hne
    rw [hinit]
    by_cases hsame : key = bookKey ∧ side = isBid
    · obtain ⟨rfl, rfl⟩ := hsame
      exact hcreated t hne
    · rw [hlisting key side hsame] at hne
      exact h.created key side t hne
  · exact hlive
  · rw [hbooks.bookKeys]
    exact hrecord
  · intro key hkey
    rw [hinit] at hkey
    rw [(hbooks.pair key).1, (hbooks.pair key).2.1]
    exact h.pair key hkey
  · intro key i hi
    rw [(hbooks.pair key).2.2] at hi
    rw [hbooks.bookKeys]
    exact h.index key i hi

/-! ## Creating pairs -/

/-- The state of a DEX that was never used, over given TIP-20 balances. -/
def DexCore.genesis (ledger : Ledger) : DexCore where
  books := fun _ => Orderbook.vacant
  orders := fun _ => OrderRecord.absent
  balances := fun _ _ => 0
  nextOrderId := 0
  bookKeys := []
  ledger := ledger
  filled := []

/-- The state after a pair has been created. -/
def DexCore.withPair (c : DexCore) (bookKey : B256) (base quote : Address) (bookId : ℕ) :
    DexCore :=
  { c.setBook bookKey ((c.books bookKey).created base quote bookId) with
    bookKeys := c.bookKeys ++ [bookKey] }

section Pairs

variable [BookHash] {c : DexCore} {listing : Listing}

theorem listed_genesis (ledger : Ledger) : Listed (DexCore.genesis ledger) fun _ _ _ => [] where
  side := by
    intro bookKey isBid
    refine ⟨fun _ => trivial, fun _ => rfl, fun _ => rfl, fun _ => List.nodup_nil, ?_, ?_, ?_⟩
    · intro tick
      show TickBitmap.isTickInitialized (fun _ => 0#256) tick = true ↔ _
      simp [TickBitmap.isTickInitialized_eq]
    · intro tick hne
      exact absurd rfl hne
    · intro tick id hid
      exact nomatch hid
  best := by
    intro bookKey isBid hinit
    exact nomatch hinit
  created := by
    intro bookKey isBid tick hne
    exact absurd rfl hne
  live := by
    intro id hmaker
    exact absurd rfl hmaker
  record := by
    intro bookKey isBid tick id hid
    exact nomatch hid
  pair := by
    intro bookKey hinit
    exact nomatch hinit
  index := by
    intro bookKey i hi
    exact nomatch hi

omit [BookHash] in
theorem getElem?_append_of_some {keys more : List B256} {i : ℕ} (h : keys[i]? = some bookKey) :
    (keys ++ more)[i]? = some bookKey := by
  obtain ⟨hlt, _⟩ := List.getElem?_eq_some_iff.mp h
  rw [List.getElem?_append_left hlt]
  exact h

theorem Listed.withPair (h : Listed c listing) {base quote : Address} {bookId : ℕ}
    (hnew : (c.books (computeBookKey base quote)).isInitialized = false)
    (hindex : ∀ i, bookIdIndex bookId = some i → i = c.bookKeys.length) :
    Listed (c.withPair (computeBookKey base quote) base quote bookId) listing := by
  have hself : (c.withPair (computeBookKey base quote) base quote bookId).books
      (computeBookKey base quote) = (c.books (computeBookKey base quote)).created base quote
        bookId :=
    DexCore.books_setBook _ _ _
  have hother : ∀ key, key ≠ computeBookKey base quote →
      (c.withPair (computeBookKey base quote) base quote bookId).books key = c.books key :=
    fun key hkey => DexCore.books_setBook_of_ne _ hkey _
  have hempty : ∀ side tick, listing (computeBookKey base quote) side tick = [] := by
    intro side tick
    by_contra hne
    rw [h.created _ side tick hne] at hnew
    exact nomatch hnew
  constructor
  · intro key side
    by_cases hkey : key = computeBookKey base quote
    · subst hkey
      refine (h.side _ side).congr (fun _ _ _ => rfl) ?_ ?_ ?_
      · intro t
        show (((c.withPair _ _ _ _).books _).level side t).head = _
        rw [hself]
        rfl
      · intro t
        show (((c.withPair _ _ _ _).books _).level side t).tail = _
        rw [hself]
        rfl
      · intro t
        show TickBitmap.isTickInitialized (((c.withPair _ _ _ _).books _).bitmap side) t = _
        rw [hself]
        rfl
    · have hview : (c.withPair (computeBookKey base quote) base quote bookId).side key side =
          c.side key side := by
        unfold DexCore.side
        rw [hother key hkey]
        rfl
      rw [hview]
      exact h.side key side
  · intro key side hkey
    by_cases hsame : key = computeBookKey base quote
    · subst hsame
      rw [hself]
      exact Or.inl ⟨hempty side, rfl⟩
    · rw [hother key hsame] at hkey ⊢
      exact h.best key side hkey
  · intro key side tick hne
    have hkey := h.created key side tick hne
    by_cases hsame : key = computeBookKey base quote
    · subst hsame
      exact absurd (hempty side tick) hne
    · rw [hother key hsame]
      exact hkey
  · exact h.live
  · intro key side tick id hid
    obtain ⟨⟨hkey, hbook⟩, hlt⟩ := h.record key side tick id hid
    refine ⟨⟨hkey, fun hversion => ?_⟩, hlt⟩
    exact getElem?_append_of_some (hbook hversion)
  · intro key hkey
    by_cases hsame : key = computeBookKey base quote
    · rw [hsame, hself]
      rfl
    · rw [hother key hsame] at hkey ⊢
      exact h.pair key hkey
  · intro key i hi
    by_cases hsame : key = computeBookKey base quote
    · rw [hsame, hself] at hi
      rw [hindex i hi, hsame]
      exact List.getElem?_concat_length
    · rw [hother key hsame] at hi
      exact getElem?_append_of_some (h.index key i hi)

theorem Listed.setBookId (h : Listed c listing) {index : ℕ}
    (hkey : c.bookKeys[index]? = some bookKey) :
    Listed (c.setBook bookKey { c.books bookKey with bookId := index + 1 }) listing := by
  have hproject : ∀ {β : Type} (project : Orderbook → β) (key : B256),
      (∀ (book : Orderbook) (bookId : ℕ), project { book with bookId := bookId } = project book) →
      project ((c.setBook bookKey { c.books bookKey with bookId := index + 1 }).books key) =
        project (c.books key) :=
    fun project key hsame => DexCore.project_setBook _ _ _ project (hsame _ _)
  have hinit := fun key => hproject Orderbook.isInitialized key fun _ _ => rfl
  constructor
  · intro key side
    have hview : (c.setBook bookKey { c.books bookKey with bookId := index + 1 }).side key side =
        c.side key side := by
      unfold DexCore.side
      rw [hproject Orderbook.level key fun _ _ => rfl,
        hproject Orderbook.bitmap key fun _ _ => rfl]
      rfl
    rw [hview]
    exact h.side key side
  · intro key side hkey
    rw [hinit] at hkey
    rw [hproject Orderbook.bestTick key fun _ _ => rfl]
    exact h.best key side hkey
  · intro key side tick hne
    rw [hinit]
    exact h.created key side tick hne
  · exact h.live
  · exact h.record
  · intro key hkey
    rw [hinit] at hkey
    rw [hproject Orderbook.base key fun _ _ => rfl, hproject Orderbook.quote key fun _ _ => rfl]
    exact h.pair key hkey
  · intro key i hi
    by_cases hsame : key = bookKey
    · subst hsame
      rw [DexCore.books_setBook] at hi
      obtain rfl := Option.some.inj hi
      exact hkey
    · rw [DexCore.books_setBook_of_ne _ hsame] at hi
      exact h.index key i hi

end Pairs

/-! ## Appending an order -/

theorem OrderRecord.written_order (spec : TempoHardfork) (order : Order) (bookIndex : Option ℕ) :
    (OrderRecord.written spec order bookIndex).order = order := by
  unfold OrderRecord.written
  split
  · rfl
  · split <;> rfl

variable {bookKeys : List B256} {spec : TempoHardfork}

theorem recordOk_written {bookIndex : Option ℕ} (hid : order.orderId = id)
    (h : ∀ i, bookIndex = some i → bookKeys[i]? = some order.bookKey) :
    RecordOk bookKeys id (OrderRecord.written spec order bookIndex) := by
  refine ⟨by rw [OrderRecord.written_order, hid], fun hversion => ?_⟩
  unfold OrderRecord.written at hversion ⊢
  split at hversion
  · exact nomatch hversion
  · rename_i hspec
    rw [if_neg hspec]
    cases bookIndex with
    | none => exact nomatch hversion
    | some i => exact h i rfl

/-- The old tail keeps everything but its pointer. -/
theorem DexCore.linkedTail_order {c : DexCore}
    (hid : (c.orders ((c.books order.bookKey).level order.isBid order.tick).tail).order.orderId =
      ((c.books order.bookKey).level order.isBid order.tick).tail) (hbook : (c.orders
      ((c.books order.bookKey).level order.isBid order.tick).tail).order.bookKey =
      order.bookKey) :
    (c.linkedTail spec order).order =
      { (c.orders ((c.books order.bookKey).level order.isBid order.tick).tail).order with
        next := order.orderId } := by
  unfold DexCore.linkedTail
  split
  · rfl
  · rw [OrderRecord.written_order, OrderRecord.inBook_eq hid hbook]

section Commit

variable [BookHash] {c : DexCore} {listing : Listing} {spec : TempoHardfork} {order : Order}

section Committing

variable (h : Listed c listing)

include h

theorem Listed.tailFor_eq (order : Order) :
    c.tailFor order = (listing order.bookKey order.isBid order.tick).getLastD 0 :=
  (h.side order.bookKey order.isBid).tail order.tick

theorem Listed.tailFor_mem (htail : c.tailFor order ≠ 0) :
    c.tailFor order ∈ listing order.bookKey order.isBid order.tick := by
  rw [h.tailFor_eq] at htail ⊢
  exact getLastD_mem_of_ne htail

theorem Listed.tailFor_eq_zero :
    c.tailFor order = 0 ↔ listing order.bookKey order.isBid order.tick = [] := by
  rw [h.tailFor_eq]
  exact getLastD_eq_iff_nil ((h.side _ _).zero_notMem _)

theorem Listed.order_commit (hid : id ≠ order.orderId) :
    ((c.commit spec order).orders id).order =
      if c.tailFor order ≠ 0 ∧ id = c.tailFor order then
        { (c.orders id).order with next := order.orderId }
      else (c.orders id).order := by
  rw [DexCore.orders_commit_of_ne c order hid]
  split
  · rename_i htail
    have hmem := h.tailFor_mem htail.1
    rw [htail.2]
    exact DexCore.linkedTail_order (h.record _ _ _ _ hmem).1.1
      ((h.side _ _).resting _ _ hmem).bookKey_eq
  · rfl

theorem Listed.recordOk_linkedTail (htail : c.tailFor order ≠ 0) :
    RecordOk c.bookKeys (c.tailFor order) (c.linkedTail spec order) := by
  have hmem := h.tailFor_mem htail
  have hrecord := (h.record _ _ _ _ hmem).1
  have hbook := ((h.side _ _).resting _ _ hmem).bookKey_eq
  unfold DexCore.linkedTail
  simp only
  split
  · exact hrecord
  · have hinBook := OrderRecord.inBook_eq hrecord.1 hbook
    unfold DexCore.tailFor at hinBook
    rw [hinBook]
    refine recordOk_written hrecord.1 fun i hi => ?_
    rw [h.index order.bookKey i hi]
    exact congrArg some hbook.symm

theorem Listed.side_commit (hid : order.orderId ≠ 0)
    (hfresh : ∀ bookKey isBid tick, order.orderId ∉ listing bookKey isBid tick)
    (hpos : 0 < order.remaining) (hle : order.remaining ≤ order.amount) (hprev : order.prev = 0)
    (hnext : order.next = 0) (hrange : minTick ≤ order.tick ∧ order.tick ≤ maxTick) :
    SideOk ((c.commit spec order).side order.bookKey order.isBid) order.bookKey order.isBid
      (update (listing order.bookKey order.isBid) order.tick
        (listing order.bookKey order.isBid order.tick ++ [order.orderId])) := by
  have hside := h.side order.bookKey order.isBid
  have hnew : ((c.commit spec order).orders order.orderId).order =
      if c.tailFor order = 0 then order else { order with prev := c.tailFor order } := by
    rw [DexCore.orders_commit_self]
    exact OrderRecord.written_order _ _ _
  have hbook : (c.commit spec order).books order.bookKey =
      (c.books order.bookKey).withOrder spec order := by
    rw [DexCore.books_commit, if_pos rfl]
  refine hside.append (hfresh _ _) hrange ?_ ?_ ?_ ?_ ?_ ?_ ?_ ?_
  · show Resting ((c.commit spec order).orders order.orderId).order _ _ _ _
    rw [hnew]
    split <;> exact ⟨hid, rfl, rfl, rfl, hpos, hle⟩
  · show ((c.commit spec order).orders order.orderId).order.prev = _
    rw [hnew, ← h.tailFor_eq]
    split
    · rename_i htail
      rw [htail, hprev]
    · rfl
  · show ((c.commit spec order).orders order.orderId).order.next = 0
    rw [hnew]
    split <;> exact hnext
  · intro t y hy
    have hne : y ≠ order.orderId := by
      rintro rfl
      exact hfresh _ _ t hy
    have hy0 : y ≠ 0 := (hside.resting t y hy).id_ne_zero
    show ((c.commit spec order).orders y).order = _
    rw [h.order_commit hne, ← h.tailFor_eq]
    have hsame : (c.tailFor order ≠ 0 ∧ y = c.tailFor order) ↔ y = c.tailFor order :=
      ⟨fun hboth => hboth.2, fun heq => ⟨heq ▸ hy0, heq⟩⟩
    simp only [hsame]
    rfl
  · show (((c.commit spec order).books order.bookKey).level order.isBid order.tick).head = _
    rw [hbook, Orderbook.level_withOrder, if_pos ⟨rfl, rfl⟩]
    show (if c.tailFor order = 0 then _ else _) = _
    simp only [h.tailFor_eq_zero]
    rfl
  · show (((c.commit spec order).books order.bookKey).level order.isBid order.tick).tail = _
    rw [hbook, Orderbook.level_withOrder, if_pos ⟨rfl, rfl⟩]
    rfl
  · intro t ht
    show (((c.commit spec order).books order.bookKey).level order.isBid t).head = _ ∧
      (((c.commit spec order).books order.bookKey).level order.isBid t).tail = _
    rw [hbook, Orderbook.level_withOrder, if_neg (fun hsame => ht hsame.2)]
    exact ⟨rfl, rfl⟩
  · intro t
    show TickBitmap.isTickInitialized
      (((c.commit spec order).books order.bookKey).bitmap order.isBid) t = _
    rw [hbook, Orderbook.bitmap_withOrder]
    by_cases htail : c.tailFor order = 0
    · rw [if_pos ⟨rfl, htail⟩]
      exact TickBitmap.isTickInitialized_setTickBit _ _ _
    · -- The level was not empty, so the bit is already set.
      rw [if_neg (fun hboth => htail hboth.2)]
      have hset : (c.side order.bookKey order.isBid).bit order.tick = true :=
        (hside.bit order.tick).mpr (fun hnil => htail (h.tailFor_eq_zero.mpr hnil))
      by_cases ht : t = order.tick
      · rw [ht, hset, Bool.or_true]
        exact hset
      · simp only [ht, decide_false, Bool.false_or]
        rfl

end Committing

omit [BookHash] in
theorem DexCore.oneSided_commit (c : DexCore) (spec : TempoHardfork) (order : Order) :
    OneSided c (c.commit spec order) order.bookKey order.isBid where
  side := by
    intro key side hother
    rw [DexCore.books_commit]
    split
    · rename_i hkey
      exact Orderbook.side_withOrder _ _ fun hside => hother ⟨hkey, hside⟩
    · exact ⟨rfl, rfl, rfl⟩
  pair := by
    intro key
    rw [DexCore.books_commit]
    split <;> exact ⟨rfl, rfl, rfl⟩
  bookKeys := rfl

theorem Listed.commit (h : Listed c listing) (hid : order.orderId ≠ 0)
    (hfresh : ∀ bookKey isBid tick, order.orderId ∉ listing bookKey isBid tick)
    (hlt : order.orderId < c.nextOrderId)
    (hbook : (c.books order.bookKey).isInitialized = true)
    (hpos : 0 < order.remaining) (hle : order.remaining ≤ order.amount)
    (hprev : order.prev = 0) (hnext : order.next = 0)
    (hrange : c.tailFor order = 0 → minTick ≤ order.tick ∧ order.tick ≤ maxTick) :
    Listed (c.commit spec order) (listing.append order) := by
  unfold Listing.append
  have hrange : minTick ≤ order.tick ∧ order.tick ≤ maxTick := by
    by_cases htail : c.tailFor order = 0
    · exact hrange htail
    · refine (h.side order.bookKey order.isBid).range order.tick fun hnil => htail ?_
      exact h.tailFor_eq_zero.mpr hnil
  refine h.oneSided (c.oneSided_commit spec order)
    (fun _ _ hother => Listing.set_of_ne listing order.tick _ hother) ?_ ?_ ?_
    (fun _ _ => hbook) ?_ ?_
  · intro key side hother t y hy
    have hne : y ≠ order.orderId := by
      rintro rfl
      exact hfresh _ _ t hy
    rw [h.order_commit hne, if_neg]
    rintro ⟨htail, rfl⟩
    have hsame := h.unique (h.tailFor_mem htail) hy
    exact hother ⟨hsame.1, hsame.2.1⟩
  · rw [Listing.set_self]
    exact h.side_commit hid hfresh hpos hle hprev hnext hrange
  · intro _
    rw [Listing.set_self, DexCore.books_commit, if_pos rfl, Orderbook.bestTick_withOrder]
    have happend := (h.best _ order.isBid hbook).append order.orderId hrange
    simp only [← h.tailFor_eq_zero] at happend
    simp only [true_and]
    exact happend
  · intro y hmaker
    rw [Listing.mem_set_append]
    by_cases hy : y = order.orderId
    · subst hy
      rw [DexCore.orders_commit_self, OrderRecord.written_order]
      refine Or.inr ⟨rfl, ?_⟩
      split <;> exact ⟨rfl, rfl, rfl⟩
    · have hcontents : ((c.commit spec order).orders y).order.contents =
          (c.orders y).order.contents := by
        rw [h.order_commit hy]
        split <;> rfl
      exact Or.inl (h.live_of_contents hcontents hmaker)
  · intro key side t y hy
    rcases Listing.mem_set_append.mp hy with hold | ⟨rfl, _⟩
    · have hne : y ≠ order.orderId := by
        rintro rfl
        exact hfresh key side t hold
      refine ⟨?_, (h.record key side t y hold).2⟩
      rw [DexCore.orders_commit_of_ne c order hne]
      split
      · rename_i htail
        rw [htail.2]
        exact h.recordOk_linkedTail htail.1
      · exact (h.record key side t y hold).1
    · refine ⟨?_, hlt⟩
      rw [DexCore.orders_commit_self]
      split <;> exact recordOk_written rfl (h.index order.bookKey)

end Commit

/-! ## Removing an order -/

/-- The record without the list pointers of its order. -/
def OrderRecord.contents (record : OrderRecord) : OrderRecord :=
  { record with order := record.order.contents }

theorem OrderRecord.contents_fields {a b : OrderRecord} (h : a.contents = b.contents) :
    a.version = b.version ∧ a.bookIndex = b.bookIndex ∧ a.order.contents = b.order.contents := by
  simp only [OrderRecord.contents, OrderRecord.mk.injEq] at h
  exact h

theorem recordOk_of_contents {record record' : OrderRecord} (h : RecordOk bookKeys id record)
    (hcontents : record'.contents = record.contents) :
    RecordOk bookKeys id record' := by
  obtain ⟨hversion, hindex, horder⟩ := OrderRecord.contents_fields hcontents
  obtain ⟨hid, _, hbook, _⟩ := Order.contents_fields horder
  refine ⟨hid.trans h.1, fun hv2 => ?_⟩
  rw [hindex, hbook]
  exact h.2 (hversion.symm.trans hv2)

theorem Listing.mem_set_remove {other : ℕ} {left right : List ℕ}
    (hqueue : listing bookKey isBid tick = left ++ id :: right) :
    (other ∈ listing.set bookKey isBid tick (left ++ right) key side t →
      other ∈ listing key side t) ∧
    (other ≠ id → other ∈ listing key side t →
      other ∈ listing.set bookKey isBid tick (left ++ right) key side t) := by
  by_cases hsame : key = bookKey ∧ side = isBid
  · obtain ⟨rfl, rfl⟩ := hsame
    rw [set_self]
    by_cases ht : t = tick
    · subst ht
      rw [update_self, hqueue]
      simp only [List.mem_append, List.mem_cons]
      tauto
    · rw [update_of_ne ht]
      exact ⟨fun hmem => hmem, fun _ hmem => hmem⟩
  · rw [set_of_ne listing tick _ hsame]
    exact ⟨fun hmem => hmem, fun _ hmem => hmem⟩

/-- An order leaves its queue and its record is deleted; on its side only pointers
change, and other sides stay as they are. -/
theorem Listed.remove [BookHash] {c c' : DexCore} (h : Listed c listing) {left right : List ℕ}
    (hqueue : listing bookKey isBid tick = left ++ id :: right)
    (hside : SideOk (c'.side bookKey isBid) bookKey isBid
      (update (listing bookKey isBid) tick (left ++ right)))
    (hbest : BestOk isBid ((c'.books bookKey).bestTick isBid)
      (update (listing bookKey isBid) tick (left ++ right))) (hbooks : OneSided c c' bookKey isBid)
    (habsent : c'.orders id = OrderRecord.absent)
    (horders : ∀ y, y ≠ id → (c'.orders y).contents = (c.orders y).contents)
    (hfar : ∀ y, y ∉ listing bookKey isBid tick → (c'.orders y).order = (c.orders y).order)
    (hnext : c'.nextOrderId = c.nextOrderId) :
    Listed c' (listing.set bookKey isBid tick (left ++ right)) := by
  have hmem : id ∈ listing bookKey isBid tick := by
    rw [hqueue]
    simp
  -- The removed order is on no queue any more.
  have hgone : ∀ key side t, id ∉ listing.set bookKey isBid tick (left ++ right) key side t := by
    intro key side t hold
    have hsame := h.unique hmem ((Listing.mem_set_remove hqueue).1 hold)
    obtain ⟨rfl, rfl, rfl⟩ := hsame
    rw [Listing.set_self, update_self] at hold
    have hnodup := (h.side key side).nodup t
    rw [hqueue] at hnodup
    exact (List.nodup_middle.mp hnodup).notMem hold
  refine h.oneSided hbooks (fun _ _ hother => Listing.set_of_ne listing tick _ hother) ?_ ?_ ?_
    (fun _ _ => h.created _ _ _ (List.ne_nil_of_mem hmem)) ?_ ?_
  · intro key side hother t y hy
    refine hfar y fun hy' => hother ?_
    have hboth := h.unique hy' hy
    exact ⟨hboth.1, hboth.2.1⟩
  · rw [Listing.set_self]
    exact hside
  · intro _
    rw [Listing.set_self]
    exact hbest
  · intro y hmaker
    have hne : y ≠ id := by
      rintro rfl
      rw [habsent] at hmaker
      exact hmaker rfl
    have hcontents := (OrderRecord.contents_fields (horders y hne)).2.2
    exact (Listing.mem_set_remove hqueue).2 hne (h.live_of_contents hcontents hmaker)
  · intro key side t y hy
    have hne : y ≠ id := by
      rintro rfl
      exact hgone key side t hy
    have hrecord := h.record key side t y ((Listing.mem_set_remove hqueue).1 hy)
    rw [hnext]
    exact ⟨recordOk_of_contents hrecord.1 (horders y hne), hrecord.2⟩

end Monotempo.Dex
