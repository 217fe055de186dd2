/-
  The version-aware order handler, and its refinement
  of a plain map from order ids to orders.

  Source: `crates/precompiles/src/stablecoin_dex/order/storage.rs` (lines 219-414,
  `OrderHandler`) and `stablecoin_dex/mod.rs` (`book_key_index`,
  `book_key_for_index`).

  The handler works on raw words.  Between the words and the logical order stands
  an `OrderRecord`: a layout version, a book index and the order itself.  Every
  handler operation is first shown to be an operation on records; that the
  records form a plain map is then immediate.
-/
import Monotempo.Dex.OrderLayout

set_option autoImplicit false

namespace Monotempo.Dex

open Chain Function

/-! ## What the handlers read of the books -/

/-- `BookId::index`: the zero-based index of a one-based id, if it is set. -/
def bookIdIndex (bookId : ℕ) : Option ℕ :=
  if bookId = 0 then none else some (bookId - 1)

/-- The registered book keys, with the state of each pair. -/
structure BookDirectory where
  bookKeys : List B256
  initialized : B256 → Bool
  bookId : B256 → ℕ

namespace BookDirectory

/-- `book_key_for_index`. -/
def bookKeyForIndex (directory : BookDirectory) (index : ℕ) : Except Error B256 :=
  match directory.bookKeys[index]? with
  | some bookKey => .ok bookKey
  | none => .error (.dex .pairDoesNotExist)

/-- `book_key_index`. -/
def bookKeyIndex (directory : BookDirectory) (bookKey : B256) :
    Except Error (Option ℕ) :=
  if directory.initialized bookKey then .ok (bookIdIndex (directory.bookId bookKey))
  else .error (.dex .pairDoesNotExist)

/-- Every id that is set points at its own key; indices are `u32`. -/
def Resolves (directory : BookDirectory) : Prop :=
  ∀ bookKey index, bookIdIndex (directory.bookId bookKey) = some index →
    directory.bookKeys[index]? = some bookKey ∧ index < 2 ^ 32

end BookDirectory

/-! ## The handler -/

namespace OrderHandler

/-- `version`. -/
def version (spec : TempoHardfork) (slots : OrderSlots) : Except Error OrderVersion :=
  if !spec.isT8 then .ok .legacy else OrderVersion.tryFrom (slots 0)

/-- `maker`. -/
def maker (spec : TempoHardfork) (slots : OrderSlots) : Except Error Address := do
  let version ← version spec slots
  match version with
  | .legacy => .ok (loadUint slots LegacyOrder.makerLoc)
  | .v1 | .v2 => .ok (loadUint slots V1Order.makerLoc)

/-- `u128_field` with the handlers `remaining`, `prev` and `next`: where the
field of the stored record is. -/
def u128Field (spec : TempoHardfork) (slots : OrderSlots) (field : OrderField) :
    Except Error FieldLocation := do
  let version ← version spec slots
  match version with
  | .legacy => .ok field.legacyLoc
  | .v1 | .v2 => .ok field.compactLoc

/-- A write through the handler of one field. -/
def writeField (spec : TempoHardfork) (slots : OrderSlots) (field : OrderField)
    (value : ℕ) : Except Error OrderSlots := do
  let loc ← u128Field spec slots field
  .ok (storeUint slots loc value)

/-- The book key of a V2 record: the known one, or the one its index names. -/
def resolveBookKey (directory : BookDirectory) (slots : OrderSlots) :
    Option B256 → Except Error B256
  | none => directory.bookKeyForIndex (V2Order.bookIndex slots)
  | some bookKey => .ok bookKey

/-- `read_with_book_key`. -/
def readWithBookKey (spec : TempoHardfork) (directory : BookDirectory) (orderId : ℕ)
    (slots : OrderSlots) (knownBook : Option B256) : Except Error Order := do
  let version ← version spec slots
  match version with
  | .legacy => .ok (LegacyOrder.load slots)
  | .v1 => .ok (V1Order.load slots orderId)
  | .v2 => do
    let bookKey ← resolveBookKey directory slots knownBook
    .ok (CompactOrder.load slots orderId bookKey)

/-- `read`. -/
def read (spec : TempoHardfork) (directory : BookDirectory) (orderId : ℕ)
    (slots : OrderSlots) : Except Error Order :=
  readWithBookKey spec directory orderId slots none

/-- `read_in_book`. -/
def readInBook (spec : TempoHardfork) (directory : BookDirectory) (orderId : ℕ)
    (slots : OrderSlots) (bookKey : B256) : Except Error Order :=
  readWithBookKey spec directory orderId slots (some bookKey)

/-- Overwrite the first `count` slots. -/
def storeSlots (slots words : OrderSlots) (count : ℕ) : OrderSlots :=
  fun offset => if offset < count then words offset else slots offset

/-- Zero the slots from `first` up to `last`. -/
def clearSlots (slots : OrderSlots) (first last : ℕ) : OrderSlots :=
  fun offset => if first ≤ offset ∧ offset < last then 0#256 else slots offset

/-- The book index of a write: from the known id, or looked up. -/
def resolveBookIndex (directory : BookDirectory) (bookKey : B256) :
    Option ℕ → Except Error (Option ℕ)
  | none => directory.bookKeyIndex bookKey
  | some bookId => .ok (bookIdIndex bookId)

/-- `write_with_book_id`. -/
def writeWithBookId (spec : TempoHardfork) (directory : BookDirectory)
    (slots : OrderSlots) (value : Order) (knownId : Option ℕ) :
    Except Error OrderSlots := do
  if !spec.isT8 then
    .ok (storeSlots slots (LegacyOrder.store value) OrderVersion.legacy.slots)
  else
    let oldVersion ← version spec slots
    let bookIndex ← resolveBookIndex directory value.bookKey knownId
    let (words, newVersion) :=
      match bookIndex with
      | some bookIndex => (V2Order.store value bookIndex, OrderVersion.v2)
      | none => (V1Order.store value, OrderVersion.v1)
    let stored := storeSlots slots words newVersion.slots
    -- An empty slot 0 is taken as a fresh record: nothing is cleared behind it.
    if slots 0 ≠ 0#256 then .ok (clearSlots stored newVersion.slots oldVersion.slots)
    else .ok stored

/-- `write`. -/
def write (spec : TempoHardfork) (directory : BookDirectory) (slots : OrderSlots)
    (value : Order) : Except Error OrderSlots :=
  writeWithBookId spec directory slots value none

/-- `write_in_book`. -/
def writeInBook (spec : TempoHardfork) (directory : BookDirectory) (slots : OrderSlots)
    (value : Order) (bookId : ℕ) : Except Error OrderSlots :=
  writeWithBookId spec directory slots value (some bookId)

/-- `delete`. -/
def delete (spec : TempoHardfork) (slots : OrderSlots) : Except Error OrderSlots := do
  let version ← version spec slots
  .ok (clearSlots slots 0 version.slots)

end OrderHandler

/-! ## Records -/

/-- A stored order with the layout it is stored in.  The book index only means
something in the V2 layout. -/
structure OrderRecord where
  version : OrderVersion
  bookIndex : ℕ
  order : Order
  deriving DecidableEq, Repr

variable {record : OrderRecord} {directory : BookDirectory} {orderId : ℕ} {bookIndex : Option ℕ}

namespace OrderRecord

/-- No record: every slot is zero. -/
def absent : OrderRecord := ⟨.legacy, 0, Order.empty⟩

/-- The words of a record. -/
def words (record : OrderRecord) : OrderSlots :=
  match record.version with
  | .legacy => LegacyOrder.store record.order
  | .v1 => V1Order.store record.order
  | .v2 => V2Order.store record.order record.bookIndex

/-- The record a write creates, given the resolved book index. -/
def written (spec : TempoHardfork) (value : Order) (bookIndex : Option ℕ) : OrderRecord :=
  if !spec.isT8 then ⟨.legacy, 0, value⟩
  else
    match bookIndex with
    | some bookIndex => ⟨.v2, bookIndex, value⟩
    | none => ⟨.v1, 0, value⟩

/-- The record after a field update. -/
def setField (record : OrderRecord) (field : OrderField) (value : ℕ) : OrderRecord :=
  { record with order := field.set value record.order }

/-- A record that the handler reads back as its order under the key `orderId`. -/
structure Readable (directory : BookDirectory) (orderId : ℕ) (record : OrderRecord) :
    Prop where
  inRange : record.order.InRange
  key : record.order.orderId = orderId
  legacy : record.version = .legacy → orderId ≠ 0
  resolves : record.version = .v2 →
    directory.bookKeys[record.bookIndex]? = some record.order.bookKey ∧
      record.bookIndex < 2 ^ 32

/-- A key holds either nothing or a readable record. -/
def WellFormed (directory : BookDirectory) (orderId : ℕ) (record : OrderRecord) : Prop :=
  record = absent ∨ record.Readable directory orderId

theorem words_absent : absent.words = fun _ => 0#256 := by
  funext offset
  match offset with
  | 0 | 1 | 2 | 3 | 4 | 5 => decide +kernel
  | _ + 6 => rfl

/-- Beyond its footprint a record has only zero words. -/
theorem words_beyond {offset : ℕ} (h : record.version.slots ≤ offset) :
    record.words offset = 0#256 := by
  rcases record with ⟨version, bookIndex, order⟩
  cases version with
  | legacy =>
    obtain ⟨rest, rfl⟩ : ∃ rest, offset = rest + 6 := ⟨offset - 6, by
      simp only [OrderVersion.slots] at h; omega⟩
    rfl
  | v1 =>
    obtain ⟨rest, rfl⟩ : ∃ rest, offset = rest + 4 := ⟨offset - 4, by
      simp only [OrderVersion.slots] at h; omega⟩
    rfl
  | v2 =>
    obtain ⟨rest, rfl⟩ : ∃ rest, offset = rest + 3 := ⟨offset - 3, by
      simp only [OrderVersion.slots] at h; omega⟩
    rfl

/-- The version byte of slot 0 names the layout of the record. -/
theorem tryFrom_words (record : OrderRecord) :
    OrderVersion.tryFrom (record.words 0) = .ok record.version := by
  rcases record with ⟨version, bookIndex, order⟩
  cases version with
  | legacy => exact LegacyOrder.tryFrom_store order
  | v1 => exact CompactOrder.tryFrom_slot0 order 0 .v1
  | v2 => exact CompactOrder.tryFrom_slot0 order bookIndex .v2

theorem Readable.slot0_ne_zero (h : record.Readable directory orderId) :
    record.words 0 ≠ 0#256 := by
  rcases record with ⟨version, bookIndex, order⟩
  cases version with
  | legacy =>
    have hid : order.orderId ≠ 0 := by
      rw [show order.orderId = orderId from h.key]
      exact h.legacy rfl
    exact LegacyOrder.slot0_ne_zero h.inRange hid
  | v1 | v2 => exact CompactOrder.slot0_ne_zero (by decide)

/-! ### The handler on the words of a record -/

section Handler

variable {spec : TempoHardfork} {directory : BookDirectory} {orderId : ℕ}
  {record : OrderRecord}

section Words

variable (hspec : spec.isT8 = true)

include hspec

theorem version_words :
    OrderHandler.version spec record.words = .ok record.version := by
  unfold OrderHandler.version
  rw [hspec]
  exact tryFrom_words record

/-- Reading, with the right book key or with none, gives the order. -/
theorem readWithBookKey_words (h : record.WellFormed directory orderId) (knownBook : Option B256)
    (hknown : ∀ bookKey, knownBook = some bookKey → bookKey = record.order.bookKey) :
    OrderHandler.readWithBookKey spec directory orderId record.words knownBook =
      .ok record.order := by
  unfold OrderHandler.readWithBookKey
  rw [version_words hspec]
  rcases h with rfl | h
  · exact congrArg Except.ok (LegacyOrder.load_store (by constructor <;> decide))
  · rcases record with ⟨version, bookIndex, order⟩
    have hkey : orderId = order.orderId := h.key.symm
    subst hkey
    cases version with
    | legacy => exact congrArg Except.ok (LegacyOrder.load_store h.inRange)
    | v1 => exact congrArg Except.ok (V1Order.load_store h.inRange)
    | v2 =>
      obtain ⟨hresolves, hindex⟩ := h.resolves rfl
      have hbook : OrderHandler.resolveBookKey directory
          (V2Order.store order bookIndex) knownBook = .ok order.bookKey := by
        cases knownBook with
        | none =>
          unfold OrderHandler.resolveBookKey BookDirectory.bookKeyForIndex
          rw [V2Order.bookIndex_store hindex]
          rw [hresolves]
        | some bookKey => exact congrArg Except.ok (hknown bookKey rfl)
      show (OrderHandler.resolveBookKey directory (V2Order.store order bookIndex)
        knownBook >>= fun bookKey => Except.ok (CompactOrder.load
          (V2Order.store order bookIndex) order.orderId bookKey)) = Except.ok order
      rw [hbook]
      exact congrArg Except.ok (V2Order.load_store h.inRange)

theorem maker_words (h : record.WellFormed directory orderId) :
    OrderHandler.maker spec record.words = .ok record.order.maker := by
  -- The maker is one field of the whole read, at the location of the layout.
  have hread := readWithBookKey_words hspec h (some record.order.bookKey)
    (fun _ heq => (Option.some.inj heq).symm)
  unfold OrderHandler.readWithBookKey at hread
  unfold OrderHandler.maker
  rw [version_words hspec] at hread ⊢
  rcases record with ⟨version, bookIndex, order⟩
  cases version with
  | legacy | v1 | v2 => exact congrArg (Except.map Order.maker) hread

theorem writeField_words (field : OrderField) (value : ℕ) :
    OrderHandler.writeField spec record.words field value =
      .ok (record.setField field value).words := by
  unfold OrderHandler.writeField OrderHandler.u128Field
  rw [version_words hspec]
  rcases record with ⟨version, bookIndex, order⟩
  cases version with
  | legacy => exact congrArg Except.ok (LegacyOrder.storeUint_store field value order)
  | v1 => exact congrArg Except.ok (V1Order.storeUint_store field value order)
  | v2 => exact congrArg Except.ok (V2Order.storeUint_store field value order bookIndex)

theorem delete_words :
    OrderHandler.delete spec record.words = .ok absent.words := by
  unfold OrderHandler.delete
  rw [version_words hspec, words_absent]
  refine congrArg Except.ok (funext fun offset => ?_)
  unfold OrderHandler.clearSlots
  split
  · rfl
  · exact words_beyond (by omega)

end Words

/-- Storing the words of a new record over those of a well-formed one leaves
exactly the new words: what lies behind them is cleared or was zero. -/
theorem storeSlots_words (new : OrderRecord) (h : record.WellFormed directory orderId) :
    (if record.words 0 ≠ 0#256 then
        OrderHandler.clearSlots
          (OrderHandler.storeSlots record.words new.words new.version.slots)
          new.version.slots record.version.slots
      else OrderHandler.storeSlots record.words new.words new.version.slots) =
      new.words := by
  funext offset
  unfold OrderHandler.clearSlots OrderHandler.storeSlots
  split
  · by_cases hnew : offset < new.version.slots
    · simp [hnew, Nat.not_le_of_lt hnew]
    · have hzero : new.words offset = 0#256 := words_beyond (by omega)
      by_cases hold : offset < record.version.slots
      · simp [hold, hzero, Nat.le_of_not_lt hnew]
      · have hbeyond : record.words offset = 0#256 := words_beyond (by omega)
        simp [hnew, hold, hzero, hbeyond]
  · rename_i hslot0
    rcases h with rfl | h
    · by_cases hnew : offset < new.version.slots
      · simp [hnew]
      · have hzero : new.words offset = 0#256 := words_beyond (by omega)
        simp [hnew, hzero, words_absent]
    · exact absurd h.slot0_ne_zero hslot0

/-- A write replaces the record by the written one. -/
theorem writeWithBookId_words (hspec : spec.isT8 = true) (h : record.WellFormed directory orderId)
    (value : Order) (knownId : Option ℕ)
    (hindex : OrderHandler.resolveBookIndex directory value.bookKey knownId =
      .ok bookIndex) :
    OrderHandler.writeWithBookId spec directory record.words value knownId =
      .ok (written spec value bookIndex).words := by
  have hstore := storeSlots_words (written spec value bookIndex) h
  have hversion : OrderHandler.version spec record.words = .ok record.version :=
    version_words hspec
  unfold OrderHandler.writeWithBookId
  unfold written at hstore ⊢
  simp only [hspec, Bool.not_true, Bool.false_eq_true, if_false] at hstore ⊢
  rw [hversion, hindex, ← hstore]
  cases bookIndex with
  | some | none =>
    split <;> rfl

end Handler

end OrderRecord

/-! ## Sequences of operations -/

/-- The `orders` mapping: the words of every order id. -/
abbrev OrderWords := ℕ → OrderSlots

/-- One operation on the mapping.  A write goes to the id its value carries. -/
inductive OrderOp where
  | write (value : Order)
  | writeInBook (value : Order)
  | setField (orderId : ℕ) (field : OrderField) (value : ℕ)
  | delete (orderId : ℕ)
  deriving DecidableEq, Repr

namespace OrderOp

/-- The order id an operation is about. -/
def key : OrderOp → ℕ
  | write value => value.orderId
  | writeInBook value => value.orderId
  | setField orderId _ _ => orderId
  | delete orderId => orderId

/-- The operation on the words of its order. -/
def run (spec : TempoHardfork) (directory : BookDirectory) (slots : OrderSlots) :
    OrderOp → Except Error OrderSlots
  | write value => OrderHandler.write spec directory slots value
  | writeInBook value =>
    OrderHandler.writeInBook spec directory slots value (directory.bookId value.bookKey)
  | setField _ field value => OrderHandler.writeField spec slots field value
  | delete _ => OrderHandler.delete spec slots

/-- The operation on the mapping; a failed operation is reverted. -/
def apply (spec : TempoHardfork) (directory : BookDirectory) (words : OrderWords)
    (op : OrderOp) : OrderWords :=
  match op.run spec directory (words op.key) with
  | .ok slots => update words op.key slots
  | .error _ => words

/-- The operation on a plain map.  A write that has to look up the index of its
book is refused when the pair does not exist. -/
def applyToMap (directory : BookDirectory) (orders : ℕ → Order) : OrderOp → ℕ → Order
  | write value =>
    if directory.initialized value.bookKey then
      update orders value.orderId value
    else orders
  | writeInBook value => update orders value.orderId value
  | setField orderId field value =>
    update orders orderId (field.set value (orders orderId))
  | delete orderId => update orders orderId Order.empty

/-- Values are in range, and a field is only updated where a record is stored. -/
def Admissible (words : OrderWords) : OrderOp → Prop
  | write value => value.InRange
  | writeInBook value => value.InRange
  | setField orderId _ value => words orderId 0 ≠ 0#256 ∧ value < 2 ^ 128
  | delete _ => True

/-- Every operation of the sequence is admissible when its turn comes. -/
def AdmissibleRun (spec : TempoHardfork) (directory : BookDirectory) :
    OrderWords → List OrderOp → Prop
  | _, [] => True
  | words, op :: rest =>
    op.Admissible words ∧ AdmissibleRun spec directory (op.apply spec directory words) rest

end OrderOp

/-- The mapping holds well-formed records whose orders are the given map. -/
def Represents (directory : BookDirectory) (words : OrderWords) (orders : ℕ → Order) :
    Prop :=
  ∀ orderId, ∃ record : OrderRecord, record.WellFormed directory orderId ∧
    words orderId = record.words ∧ orders orderId = record.order

variable {orders : ℕ → Order} {words : OrderWords}

theorem Represents.store (h : Represents directory words orders)
    (hrecord : record.WellFormed directory orderId) :
    Represents directory (update words orderId record.words)
      (update orders orderId record.order) := by
  intro other
  by_cases hother : other = orderId
  · subst hother
    exact ⟨record, hrecord, by simp, by simp⟩
  · obtain ⟨old, hold, hwords, horder⟩ := h other
    refine ⟨old, hold, ?_, ?_⟩
    · rw [update_of_ne hother, hwords]
    · rw [update_of_ne hother, horder]

section Runs

variable {spec : TempoHardfork} {directory : BookDirectory}

/-- The record a T8 write creates is readable under the id of its value. -/
theorem OrderRecord.written_readable (hspec : spec.isT8 = true) {value : Order}
    (hvalue : value.InRange) (hindex : ∀ index, bookIndex = some index →
      directory.bookKeys[index]? = some value.bookKey ∧ index < 2 ^ 32) :
    (OrderRecord.written spec value bookIndex).Readable directory value.orderId := by
  unfold OrderRecord.written
  simp only [hspec, Bool.not_true, Bool.false_eq_true, if_false]
  cases bookIndex with
  | some index =>
    exact ⟨hvalue, rfl, fun h => OrderVersion.noConfusion h, fun _ => hindex index rfl⟩
  | none =>
    exact ⟨hvalue, rfl, fun h => OrderVersion.noConfusion h,
      fun h => OrderVersion.noConfusion h⟩

theorem OrderRecord.Readable.setField (h : record.Readable directory orderId) (field : OrderField)
    {value : ℕ} (hvalue : value < 2 ^ 128) :
    (record.setField field value).Readable directory orderId where
  inRange := OrderField.set_inRange h.inRange hvalue
  key := by
    rw [← h.key]
    exact OrderField.set_orderId field value record.order
  legacy := h.legacy
  resolves := by
    intro hversion
    have hresolves := h.resolves hversion
    rwa [show (record.setField field value).order.bookKey = record.order.bookKey from
      OrderField.set_bookKey field value record.order]

section Write

variable (hspec : spec.isT8 = true) (hdirectory : directory.Resolves)

include hspec hdirectory

theorem Represents.write (h : Represents directory words orders) {value : Order}
    (hvalue : value.InRange) (knownId : Option ℕ)
    (hindex : OrderHandler.resolveBookIndex directory value.bookKey knownId =
      .ok (bookIdIndex (directory.bookId value.bookKey))) :
    ∃ slots, OrderHandler.writeWithBookId spec directory (words value.orderId) value
        knownId = .ok slots ∧
      Represents directory (update words value.orderId slots)
        (update orders value.orderId value) := by
  obtain ⟨record, hrecord, hwords, _⟩ := h value.orderId
  refine ⟨(OrderRecord.written spec value
    (bookIdIndex (directory.bookId value.bookKey))).words, ?_, ?_⟩
  · rw [hwords]
    exact OrderRecord.writeWithBookId_words hspec hrecord value knownId hindex
  · have hreadable := OrderRecord.written_readable hspec hvalue
      (fun index hsome => hdirectory value.bookKey index hsome)
    have horder : (OrderRecord.written spec value
        (bookIdIndex (directory.bookId value.bookKey))).order = value := by
      unfold OrderRecord.written
      simp only [hspec, Bool.not_true, Bool.false_eq_true, if_false]
      split <;> rfl
    have hupdated := h.store (Or.inr hreadable)
    rwa [horder] at hupdated

theorem Represents.apply (h : Represents directory words orders) {op : OrderOp}
    (hop : op.Admissible words) :
    Represents directory (op.apply spec directory words) (op.applyToMap directory orders) := by
  cases op with
  | write value =>
    show Represents directory (match OrderHandler.writeWithBookId spec directory
      (words value.orderId) value none with
      | .ok slots => update words value.orderId slots
      | .error _ => words) (if directory.initialized value.bookKey then _ else _)
    by_cases hbook : directory.initialized value.bookKey = true
    · have hindex : OrderHandler.resolveBookIndex directory value.bookKey none =
          .ok (bookIdIndex (directory.bookId value.bookKey)) := by
        simp [OrderHandler.resolveBookIndex, BookDirectory.bookKeyIndex, hbook]
      obtain ⟨slots, hrun, hresult⟩ := h.write hspec hdirectory hop none hindex
      rw [hrun, if_pos hbook]
      exact hresult
    · have hrefused : OrderHandler.writeWithBookId spec directory (words value.orderId)
          value none = .error (.dex .pairDoesNotExist) := by
        obtain ⟨record, _, hwords, _⟩ := h value.orderId
        unfold OrderHandler.writeWithBookId
        rw [hwords, OrderRecord.version_words hspec]
        simp [hspec, OrderHandler.resolveBookIndex, BookDirectory.bookKeyIndex, hbook,
          bind, Except.bind]
      rw [hrefused, if_neg hbook]
      exact h
  | writeInBook value =>
    obtain ⟨slots, hrun, hresult⟩ := h.write hspec hdirectory hop
      (some (directory.bookId value.bookKey)) rfl
    show Represents directory (match OrderHandler.writeWithBookId spec directory
      (words value.orderId) value (some (directory.bookId value.bookKey)) with
      | .ok slots => update words value.orderId slots
      | .error _ => words) (update orders value.orderId value)
    rw [hrun]
    exact hresult
  | setField orderId field value =>
    obtain ⟨hstored, hvalue⟩ := hop
    obtain ⟨record, hrecord, hwords, horder⟩ := h orderId
    rw [hwords] at hstored
    have hreadable := (hrecord.resolve_left fun habsent =>
      hstored (by rw [habsent, OrderRecord.words_absent])).setField field hvalue
    have hupdated := h.store (Or.inr hreadable)
    show Represents directory (match OrderHandler.writeField spec (words orderId) field
      value with
      | .ok slots => update words orderId slots
      | .error _ => words) (update orders orderId (field.set value (orders orderId)))
    rw [hwords, OrderRecord.writeField_words hspec, horder]
    exact hupdated
  | delete orderId =>
    obtain ⟨record, hrecord, hwords, _⟩ := h orderId
    show Represents directory (match OrderHandler.delete spec (words orderId) with
      | .ok slots => update words orderId slots
      | .error _ => words) (update orders orderId Order.empty)
    rw [hwords, OrderRecord.delete_words hspec]
    exact h.store (Or.inl rfl)

theorem Represents.run (ops : List OrderOp) :
    ∀ {words : OrderWords} {orders : ℕ → Order}, Represents directory words orders →
      OrderOp.AdmissibleRun spec directory words ops →
      Represents directory (ops.foldl (OrderOp.apply spec directory) words)
        (ops.foldl (OrderOp.applyToMap directory) orders) := by
  induction ops with
  | nil =>
    intro words orders h _
    exact h
  | cons op rest ih =>
    intro words orders h hops
    exact ih (h.apply hspec hdirectory hops.1) hops.2

end Write

/-- Every read of the mapping is a read of the map, and no record has a word
behind the layout its version byte names. -/
structure ReadsAs (spec : TempoHardfork) (directory : BookDirectory) (words : OrderWords)
    (orders : ℕ → Order) : Prop where
  read : ∀ orderId,
    OrderHandler.read spec directory orderId (words orderId) = .ok (orders orderId)
  readInBook : ∀ orderId,
    OrderHandler.readInBook spec directory orderId (words orderId) (orders orderId).bookKey =
      .ok (orders orderId)
  maker : ∀ orderId,
    OrderHandler.maker spec (words orderId) = .ok (orders orderId).maker
  footprint : ∀ orderId, ∃ version,
    OrderHandler.version spec (words orderId) = .ok version ∧
      ∀ offset, version.slots ≤ offset → words orderId offset = 0#256

theorem Represents.readsAs (hspec : spec.isT8 = true) (h : Represents directory words orders) :
    ReadsAs spec directory words orders where
  read := by
    intro orderId
    obtain ⟨record, hrecord, hwords, horder⟩ := h orderId
    rw [hwords, horder]
    exact OrderRecord.readWithBookKey_words hspec hrecord none
      (fun _ heq => nomatch heq)
  readInBook := by
    intro orderId
    obtain ⟨record, hrecord, hwords, horder⟩ := h orderId
    rw [hwords, horder]
    exact OrderRecord.readWithBookKey_words hspec hrecord _
      (fun _ heq => (Option.some.inj heq).symm)
  maker := by
    intro orderId
    obtain ⟨record, hrecord, hwords, horder⟩ := h orderId
    rw [hwords, horder]
    exact OrderRecord.maker_words hspec hrecord
  footprint := by
    intro orderId
    obtain ⟨record, _, hwords, _⟩ := h orderId
    refine ⟨record.version, ?_, ?_⟩
    · rw [hwords]
      exact OrderRecord.version_words hspec
    · intro offset hoffset
      rw [hwords]
      exact OrderRecord.words_beyond hoffset

/-- A delete leaves no word of the id, whatever layouts it had before. -/
theorem Represents.delete_words (hspec : spec.isT8 = true) (h : Represents directory words orders)
    (orderId offset : ℕ) :
    (OrderOp.delete orderId).apply spec directory words orderId offset = 0#256 := by
  obtain ⟨record, _, hwords, _⟩ := h orderId
  have hdelete : OrderHandler.delete spec (words orderId) =
      .ok OrderRecord.absent.words := by
    rw [hwords]
    exact OrderRecord.delete_words hspec
  unfold OrderOp.apply
  simp only [OrderOp.run, OrderOp.key, hdelete, update_self,
    OrderRecord.words_absent]

/-- From T8 on the versioned order storage implements one logical map: after any
sequence of writes, updates of stored records and deletes, every read agrees with
the same sequence on a plain map, no word lies behind the layout of a record, and
a delete leaves only zero words. -/
theorem orderStorage_refines_map (hspec : spec.isT8 = true)
    (hdirectory : directory.Resolves) {words : OrderWords} {orders : ℕ → Order}
    (hstart : Represents directory words orders) (ops : List OrderOp)
    (hops : OrderOp.AdmissibleRun spec directory words ops) :
    ReadsAs spec directory (ops.foldl (OrderOp.apply spec directory) words)
        (ops.foldl (OrderOp.applyToMap directory) orders) ∧
      ∀ orderId offset,
        (OrderOp.delete orderId).apply spec directory
          (ops.foldl (OrderOp.apply spec directory) words) orderId offset = 0#256 := by
  have hend := Represents.run hspec hdirectory ops hstart hops
  exact ⟨hend.readsAs hspec, hend.delete_words hspec⟩

end Runs

/-! ### Sample sequences -/

/-- One registered book, with its index set. -/
def sampleDirectory : BookDirectory where
  bookKeys := [7]
  initialized := fun bookKey => bookKey == 7
  bookId := fun bookKey => if bookKey = 7 then 1 else 0

theorem sampleDirectory_resolves : sampleDirectory.Resolves := by
  intro bookKey index h
  unfold bookIdIndex sampleDirectory at h
  by_cases hkey : bookKey = 7
  · subst hkey
    simp at h
    subst h
    exact ⟨rfl, by decide⟩
  · simp [hkey] at h

theorem represents_nothing (directory : BookDirectory) :
    Represents directory (fun _ _ => 0#256) (fun _ => Order.empty) :=
  fun _ => ⟨OrderRecord.absent, Or.inl rfl, OrderRecord.words_absent.symm, rfl⟩

/-- A flip bid on the sample book. -/
def sampleOrder : Order :=
  Order.new 1 0x1111 7 250000000 (-10) true true 20

theorem sampleOrder_inRange : sampleOrder.InRange := by
  constructor <;> decide

/-- Place, partially fill, link and delete a record of the sample book. -/
theorem orderStorage_refines_map_sample :
    ReadsAs .T8 sampleDirectory
        ([OrderOp.writeInBook sampleOrder, .setField 1 .remaining 5, .setField 1 .next 9].foldl
          (OrderOp.apply .T8 sampleDirectory) (fun _ _ => 0#256))
        ([OrderOp.writeInBook sampleOrder, .setField 1 .remaining 5, .setField 1 .next 9].foldl
          (OrderOp.applyToMap sampleDirectory) (fun _ => Order.empty)) ∧
      ∀ orderId offset,
        (OrderOp.delete orderId).apply .T8 sampleDirectory
          ([OrderOp.writeInBook sampleOrder, .setField 1 .remaining 5,
            .setField 1 .next 9].foldl (OrderOp.apply .T8 sampleDirectory)
            (fun _ _ => 0#256)) orderId offset = 0#256 := by
  refine orderStorage_refines_map (by decide) sampleDirectory_resolves
    (represents_nothing sampleDirectory) _ ?_
  refine ⟨sampleOrder_inRange, ⟨?_, by decide⟩, ⟨?_, by decide⟩, trivial⟩
  · decide +kernel
  · decide +kernel

/-- A field update on an id that holds no record is stored in the legacy layout
under an empty slot 0.  The next write takes the id for fresh and clears nothing,
and the delete after it only clears the slots of the new layout. -/
theorem update_of_absent_order_leaves_word :
    Represents sampleDirectory (fun _ _ => 0#256) (fun _ => Order.empty) ∧
      sampleDirectory.Resolves ∧ sampleOrder.InRange ∧
      [OrderOp.setField 1 .remaining 5, .writeInBook sampleOrder, .delete 1].foldl
        (OrderOp.apply .T8 sampleDirectory) (fun _ _ => 0#256) 1 4 ≠ 0#256 := by
  refine ⟨represents_nothing _, sampleDirectory_resolves, sampleOrder_inRange, ?_⟩
  decide +kernel

end Monotempo.Dex
