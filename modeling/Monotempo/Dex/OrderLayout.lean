/-
  The three physical layouts of an order record.

  Source: `crates/precompiles/src/stablecoin_dex/order/storage.rs` (lines 28-217:
  `OrderVersion`, `OrderFlags`, `V1Order`, `V2Order`) and
  `order/mod.rs` (`LegacyOrder`, the canonical field order).

  A layout is a function from the slot offset to the stored word.  The reserved
  bytes of the compact layouts are zero and carry no data.
-/
import Monotempo.Chain.Packing
import Monotempo.Dex.Order

set_option autoImplicit false

namespace Monotempo.Dex

open Chain

/-! ## Versions and flags -/

/-- `OrderVersion`. -/
inductive OrderVersion where
  | legacy
  | v1
  | v2
  deriving DecidableEq, Repr

namespace OrderVersion

/-- The discriminant stored in the version byte. -/
def toByte : OrderVersion → ℕ
  | legacy => 0
  | v1 => 1
  | v2 => 2

/-- `VERSION_LOC` of both compact layouts: the top byte of slot 0. -/
def versionLoc : FieldLocation := ⟨0, 31, 1, by decide⟩

/-- `OrderVersion::try_from`: decode the version byte of slot 0. -/
def tryFrom (slot0 : Word) : Except Error OrderVersion :=
  match (fieldBits slot0 versionLoc).toNat with
  | 0 => .ok legacy
  | 1 => .ok v1
  | 2 => .ok v2
  | version => .error (.fatal (.unknownOrderVersion version))

/-- `SLOTS` of the layout. -/
def slots : OrderVersion → ℕ
  | legacy => 6
  | v1 => 4
  | v2 => 3

end OrderVersion

namespace OrderFlags

/-- `OrderFlags::pack`. -/
def pack (isBid isFlip : Bool) : ℕ :=
  (if isBid then 1 else 0) ||| (if isFlip then 2 else 0)

/-- `OrderFlags::is_bid`. -/
def isBid (metadata : ℕ) : Bool := decide (metadata &&& 1 ≠ 0)

/-- `OrderFlags::is_flip`. -/
def isFlip (metadata : ℕ) : Bool := decide (metadata &&& 2 ≠ 0)

theorem isBid_pack (bid flip : Bool) : isBid (pack bid flip) = bid := by
  cases bid <;> cases flip <;> decide

theorem isFlip_pack (bid flip : Bool) : isFlip (pack bid flip) = flip := by
  cases bid <;> cases flip <;> decide

theorem pack_lt (bid flip : Bool) : pack bid flip < 256 := by
  cases bid <;> cases flip <;> decide

end OrderFlags

/-- The words of one order record, by slot offset from its base slot. -/
abbrev OrderSlots := ℕ → Word

section Fields

variable (slots : OrderSlots) (loc : FieldLocation)

/-- The value of an unsigned field, an address or a hash. -/
def loadUint : ℕ :=
  (fieldBits (slots loc.offsetSlots) loc).toNat

/-- The value of an `i16` field. -/
def loadI16 : ℤ :=
  ((fieldBits (slots loc.offsetSlots) loc).toNat : ℤ).bmod 65536

/-- The value of a `bool` field. -/
def loadBool : Bool :=
  decide (fieldBits (slots loc.offsetSlots) loc ≠ 0#256)

/-- Extracting a value of the field's size never fails. -/
theorem extract_eq_load :
    extractFromWord (.uint loc.size) (slots loc.offsetSlots) loc = some (loadUint slots loc) ∧
      extractFromWord (.fixedBytes loc.size) (slots loc.offsetSlots) loc =
        some (loadUint slots loc) ∧
      (loc.size = 2 →
        extractFromWord (.int 2) (slots loc.offsetSlots) loc = some (loadI16 slots loc)) ∧
      extractFromWord .bool (slots loc.offsetSlots) loc = some (loadBool slots loc) := by
  have hfits := fitsField_fieldBits (slots loc.offsetSlots) loc
  refine ⟨if_pos hfits, congrArg some (Nat.mod_eq_of_lt hfits), fun hsize => ?_, rfl⟩
  rw [FitsField, hsize] at hfits
  exact if_pos hfits

/-- `Slot::write` at a packed location: a read-modify-write of one word. -/
def storeUint (value : ℕ) : OrderSlots :=
  Function.update slots loc.offsetSlots
    (insertIntoWord (.uint loc.size) (slots loc.offsetSlots) value loc)

end Fields

/-! ## The legacy layout -/

namespace LegacyOrder

def orderIdLoc : FieldLocation := ⟨0, 0, 16, by decide⟩
def makerLoc : FieldLocation := ⟨1, 0, 20, by decide⟩
def bookKeyLoc : FieldLocation := ⟨2, 0, 32, by decide⟩
def isBidLoc : FieldLocation := ⟨3, 0, 1, by decide⟩
def tickLoc : FieldLocation := ⟨3, 1, 2, by decide⟩
def amountLoc : FieldLocation := ⟨3, 3, 16, by decide⟩
def remainingLoc : FieldLocation := ⟨4, 0, 16, by decide⟩
def prevLoc : FieldLocation := ⟨4, 16, 16, by decide⟩
def nextLoc : FieldLocation := ⟨5, 0, 16, by decide⟩
def isFlipLoc : FieldLocation := ⟨5, 16, 1, by decide⟩
def flipTickLoc : FieldLocation := ⟨5, 17, 2, by decide⟩

/-- `LegacyOrder::store`: every packed slot starts from zero. -/
def store (order : Order) : OrderSlots
  | 0 => insertIntoWord (.uint 16) 0#256 order.orderId orderIdLoc
  | 1 => insertIntoWord (.fixedBytes 20) 0#256 order.maker makerLoc
  | 2 => insertIntoWord (.fixedBytes 32) 0#256 order.bookKey bookKeyLoc
  | 3 =>
    insertIntoWord (.uint 16)
      (insertIntoWord (.int 2)
        (insertIntoWord .bool 0#256 order.isBid isBidLoc)
        order.tick tickLoc)
      order.amount amountLoc
  | 4 =>
    insertIntoWord (.uint 16)
      (insertIntoWord (.uint 16) 0#256 order.remaining remainingLoc)
      order.prev prevLoc
  | 5 =>
    insertIntoWord (.int 2)
      (insertIntoWord .bool
        (insertIntoWord (.uint 16) 0#256 order.next nextLoc)
        order.isFlip isFlipLoc)
      order.flipTick flipTickLoc
  | _ => 0#256

/-- `LegacyOrder::load`. -/
def load (slots : OrderSlots) : Order where
  orderId := loadUint slots orderIdLoc
  maker := loadUint slots makerLoc
  bookKey := loadUint slots bookKeyLoc
  isBid := loadBool slots isBidLoc
  tick := loadI16 slots tickLoc
  amount := loadUint slots amountLoc
  remaining := loadUint slots remainingLoc
  prev := loadUint slots prevLoc
  next := loadUint slots nextLoc
  isFlip := loadBool slots isFlipLoc
  flipTick := loadI16 slots flipTickLoc

end LegacyOrder

/-! ## The compact layouts

V1 and V2 share the first three slots: V2 only uses four bytes of slot 0 that V1
reserves. -/

namespace V1Order

def makerLoc : FieldLocation := ⟨0, 0, 20, by decide⟩
def metadataLoc : FieldLocation := ⟨0, 20, 1, by decide⟩
def tickLoc : FieldLocation := ⟨0, 21, 2, by decide⟩
def flipTickLoc : FieldLocation := ⟨0, 23, 2, by decide⟩
def amountLoc : FieldLocation := ⟨1, 0, 16, by decide⟩
def remainingLoc : FieldLocation := ⟨1, 16, 16, by decide⟩
def prevLoc : FieldLocation := ⟨2, 0, 16, by decide⟩
def nextLoc : FieldLocation := ⟨2, 16, 16, by decide⟩
def bookKeyLoc : FieldLocation := ⟨3, 0, 32, by decide⟩

end V1Order

/-- `BOOK_INDEX_LOC` of the V2 layout. -/
def V2Order.bookIndexLoc : FieldLocation := ⟨0, 25, 4, by decide⟩

namespace CompactOrder

open V1Order

/-- Slot 0 of a compact record. -/
def slot0 (order : Order) (bookIndex : ℕ) (version : OrderVersion) : Word :=
  insertIntoWord (.uint 1)
    (insertIntoWord (.uint 4)
      (insertIntoWord (.int 2)
        (insertIntoWord (.int 2)
          (insertIntoWord (.uint 1)
            (insertIntoWord (.fixedBytes 20) 0#256 order.maker makerLoc)
            (OrderFlags.pack order.isBid order.isFlip) metadataLoc)
          order.tick tickLoc)
        order.flipTick flipTickLoc)
      bookIndex V2Order.bookIndexLoc)
    version.toByte OrderVersion.versionLoc

/-- Slot 1 of a compact record: the amounts. -/
def slot1 (order : Order) : Word :=
  insertIntoWord (.uint 16)
    (insertIntoWord (.uint 16) 0#256 order.amount amountLoc)
    order.remaining remainingLoc

/-- Slot 2 of a compact record: the list pointers. -/
def slot2 (order : Order) : Word :=
  insertIntoWord (.uint 16)
    (insertIntoWord (.uint 16) 0#256 order.prev prevLoc)
    order.next nextLoc

/-- The part of `V1Order::load` and `V2Order::load` with `into_order` that both
share; the order id is the mapping key. -/
def load (slots : OrderSlots) (orderId : ℕ) (bookKey : B256) : Order :=
  let metadata := loadUint slots metadataLoc
  { orderId := orderId
    maker := loadUint slots makerLoc
    bookKey := bookKey
    isBid := OrderFlags.isBid metadata
    tick := loadI16 slots tickLoc
    amount := loadUint slots amountLoc
    remaining := loadUint slots remainingLoc
    prev := loadUint slots prevLoc
    next := loadUint slots nextLoc
    isFlip := OrderFlags.isFlip metadata
    flipTick := loadI16 slots flipTickLoc }

end CompactOrder

/-- `V1Order::new` followed by `store`. -/
def V1Order.store (order : Order) : OrderSlots
  | 0 => CompactOrder.slot0 order 0 .v1
  | 1 => CompactOrder.slot1 order
  | 2 => CompactOrder.slot2 order
  | 3 => insertIntoWord (.fixedBytes 32) 0#256 order.bookKey V1Order.bookKeyLoc
  | _ => 0#256

/-- `V1Order::load` followed by `into_order`. -/
def V1Order.load (slots : OrderSlots) (orderId : ℕ) : Order :=
  CompactOrder.load slots orderId (loadUint slots V1Order.bookKeyLoc)

/-- `V2Order::new` followed by `store`. -/
def V2Order.store (order : Order) (bookIndex : ℕ) : OrderSlots
  | 0 => CompactOrder.slot0 order bookIndex .v2
  | 1 => CompactOrder.slot1 order
  | 2 => CompactOrder.slot2 order
  | _ => 0#256

/-- The book index of a V2 record. -/
def V2Order.bookIndex (slots : OrderSlots) : ℕ := loadUint slots V2Order.bookIndexLoc

/-! ## Orders that fit their layout -/

/-- The ranges of the source's field types. -/
structure Order.InRange (order : Order) : Prop where
  orderId : order.orderId < 2 ^ 128
  maker : order.maker < 2 ^ 160
  bookKey : order.bookKey < 2 ^ 256
  tick_low : -32768 ≤ order.tick
  tick_high : order.tick < 32768
  amount : order.amount < 2 ^ 128
  remaining : order.remaining < 2 ^ 128
  prev : order.prev < 2 ^ 128
  next : order.next < 2 ^ 128
  flipTick_low : -32768 ≤ order.flipTick
  flipTick_high : order.flipTick < 32768

/-! ### Loading what was stored -/

variable {order : Order}

theorem LegacyOrder.load_store (h : order.InRange) :
    LegacyOrder.load (LegacyOrder.store order) = order := by
  unfold LegacyOrder.load loadUint loadI16 loadBool
  simp only [LegacyOrder.store, orderIdLoc, makerLoc, bookKeyLoc, isBidLoc, tickLoc,
    amountLoc, remainingLoc, prevLoc, nextLoc, isFlipLoc, flipTickLoc]
  simp (disch := decide) only [fieldBits_insert_of_disjoint]
  rw [toNat_fieldBits_insert_uint h.orderId, toNat_fieldBits_insert_fixedBytes h.maker,
    toNat_fieldBits_insert_fixedBytes h.bookKey, fieldBits_insert_bool rfl,
    bmod_fieldBits_insert_i16 rfl h.tick_low h.tick_high,
    toNat_fieldBits_insert_uint h.amount, toNat_fieldBits_insert_uint h.remaining,
    toNat_fieldBits_insert_uint h.prev, toNat_fieldBits_insert_uint h.next,
    fieldBits_insert_bool rfl,
    bmod_fieldBits_insert_i16 rfl h.flipTick_low h.flipTick_high]

variable {bookIndex : ℕ} {version : OrderVersion}

/-- The fields both compact layouts share are read back whatever the rest of the
record is. -/
theorem CompactOrder.load_slots {slots : OrderSlots} (h : order.InRange)
    (hslot0 : slots 0 = CompactOrder.slot0 order bookIndex version)
    (hslot1 : slots 1 = CompactOrder.slot1 order) (hslot2 : slots 2 = CompactOrder.slot2 order) :
    CompactOrder.load slots order.orderId order.bookKey = order := by
  have hmetadata := OrderFlags.pack_lt order.isBid order.isFlip
  unfold CompactOrder.load loadUint loadI16
  simp only [V1Order.makerLoc, V1Order.metadataLoc, V1Order.tickLoc, V1Order.flipTickLoc,
    V1Order.amountLoc, V1Order.remainingLoc, V1Order.prevLoc, V1Order.nextLoc,
    hslot0, hslot1, hslot2, CompactOrder.slot0, CompactOrder.slot1, CompactOrder.slot2,
    V2Order.bookIndexLoc, OrderVersion.versionLoc]
  simp (disch := decide) only [fieldBits_insert_of_disjoint]
  rw [toNat_fieldBits_insert_fixedBytes h.maker, toNat_fieldBits_insert_uint hmetadata,
    bmod_fieldBits_insert_i16 rfl h.tick_low h.tick_high,
    toNat_fieldBits_insert_uint h.amount, toNat_fieldBits_insert_uint h.remaining,
    toNat_fieldBits_insert_uint h.prev, toNat_fieldBits_insert_uint h.next,
    bmod_fieldBits_insert_i16 rfl h.flipTick_low h.flipTick_high,
    OrderFlags.isBid_pack, OrderFlags.isFlip_pack]

theorem V1Order.load_store (h : order.InRange) :
    V1Order.load (V1Order.store order) order.orderId = order := by
  have hbook : loadUint (V1Order.store order) V1Order.bookKeyLoc = order.bookKey :=
    toNat_fieldBits_insert_fixedBytes h.bookKey
  unfold V1Order.load
  rw [hbook]
  exact CompactOrder.load_slots h rfl rfl rfl

theorem V2Order.load_store (h : order.InRange) :
    CompactOrder.load (V2Order.store order bookIndex) order.orderId order.bookKey = order :=
  CompactOrder.load_slots h rfl rfl rfl

theorem V2Order.bookIndex_store (h : bookIndex < 2 ^ 32) :
    V2Order.bookIndex (V2Order.store order bookIndex) = bookIndex := by
  unfold V2Order.bookIndex loadUint
  simp only [V2Order.bookIndexLoc, V2Order.store, CompactOrder.slot0,
    OrderVersion.versionLoc]
  simp (disch := decide) only [fieldBits_insert_of_disjoint]
  exact toNat_fieldBits_insert_uint h

/-! ### The version byte tells the layouts apart -/

theorem LegacyOrder.tryFrom_store (order : Order) :
    OrderVersion.tryFrom (LegacyOrder.store order 0) = .ok .legacy := by
  unfold OrderVersion.tryFrom
  simp only [LegacyOrder.store, orderIdLoc, OrderVersion.versionLoc]
  simp (disch := decide) only [fieldBits_insert_of_disjoint, fieldBits_zero]
  rfl

theorem CompactOrder.tryFrom_slot0 (order : Order) (bookIndex : ℕ) (version : OrderVersion) :
    OrderVersion.tryFrom (CompactOrder.slot0 order bookIndex version) = .ok version := by
  have hbyte : version.toByte < 2 ^ (OrderVersion.versionLoc.size * 8) := by
    cases version <;> decide
  unfold OrderVersion.tryFrom CompactOrder.slot0
  rw [toNat_fieldBits_insert_uint hbyte]
  cases version <;> rfl

/-- A compact record never has a zero slot 0: its version byte is set. -/
theorem CompactOrder.slot0_ne_zero (h : version ≠ .legacy) :
    CompactOrder.slot0 order bookIndex version ≠ 0#256 := by
  intro hzero
  have hdetected := CompactOrder.tryFrom_slot0 order bookIndex version
  rw [hzero] at hdetected
  have hlegacy : OrderVersion.tryFrom 0#256 = .ok .legacy := by
    unfold OrderVersion.tryFrom
    rfl
  exact h (Except.ok.inj hdetected).symm

/-- A legacy record has a zero slot 0 only under the order id zero. -/
theorem LegacyOrder.slot0_ne_zero (h : order.InRange) (hid : order.orderId ≠ 0) :
    LegacyOrder.store order 0 ≠ 0#256 := by
  intro hzero
  have hread : (fieldBits (LegacyOrder.store order 0) orderIdLoc).toNat =
      order.orderId := toNat_fieldBits_insert_uint h.orderId
  rw [hzero, fieldBits_zero] at hread
  exact hid hread.symm

/-! ### Updating one field in place -/

/-- The mutable fields of an order. -/
inductive OrderField where
  | remaining
  | prev
  | next
  deriving DecidableEq, Repr

namespace OrderField

/-- The field's location in the legacy layout. -/
def legacyLoc : OrderField → FieldLocation
  | remaining => LegacyOrder.remainingLoc
  | prev => LegacyOrder.prevLoc
  | next => LegacyOrder.nextLoc

/-- The field's location in both compact layouts. -/
def compactLoc : OrderField → FieldLocation
  | remaining => V1Order.remainingLoc
  | prev => V1Order.prevLoc
  | next => V1Order.nextLoc

/-- Replace the field of a logical order. -/
def set (field : OrderField) (value : ℕ) (order : Order) : Order :=
  match field with
  | remaining => { order with remaining := value }
  | prev => { order with prev := value }
  | next => { order with next := value }

theorem set_inRange {field : OrderField} {value : ℕ} (h : order.InRange) (hvalue : value < 2 ^ 128)
    : (field.set value order).InRange := by
  cases field with
  | remaining => exact { h with remaining := hvalue }
  | prev => exact { h with prev := hvalue }
  | next => exact { h with next := hvalue }

@[simp] theorem set_orderId (field : OrderField) (value : ℕ) (order : Order) :
    (field.set value order).orderId = order.orderId := by
  cases field <;> rfl

@[simp] theorem set_bookKey (field : OrderField) (value : ℕ) (order : Order) :
    (field.set value order).bookKey = order.bookKey := by
  cases field <;> rfl

end OrderField

theorem LegacyOrder.storeUint_store (field : OrderField) (value : ℕ) (order : Order) :
    storeUint (LegacyOrder.store order) field.legacyLoc value =
      LegacyOrder.store (field.set value order) := by
  funext offset
  cases field with
  | remaining =>
    have hword : insertIntoWord (.uint 16) (LegacyOrder.store order 4) value
        remainingLoc = LegacyOrder.store { order with remaining := value } 4 := by
      simp only [LegacyOrder.store]
      rw [insert_comm (by decide), insert_insert]
    match offset with
    | 4 => exact hword
    | 0 | 1 | 2 | 3 | 5 | _ + 6 => rfl
  | prev =>
    have hword : insertIntoWord (.uint 16) (LegacyOrder.store order 4) value
        prevLoc = LegacyOrder.store { order with prev := value } 4 := by
      simp only [LegacyOrder.store]
      rw [insert_insert]
    match offset with
    | 4 => exact hword
    | 0 | 1 | 2 | 3 | 5 | _ + 6 => rfl
  | next =>
    have hword : insertIntoWord (.uint 16) (LegacyOrder.store order 5) value
        nextLoc = LegacyOrder.store { order with next := value } 5 := by
      have hflip : isFlipLoc.Disjoint nextLoc := by decide
      simp only [LegacyOrder.store]
      rw [insert_comm (by decide), insert_comm hflip, insert_insert]
    match offset with
    | 5 => exact hword
    | 0 | 1 | 2 | 3 | 4 | _ + 6 => rfl

/-- Updating a field changes one of the two packed slots of a compact record. -/
theorem CompactOrder.insert_slot (field : OrderField) (value : ℕ) (order : Order) :
    (field.compactLoc.offsetSlots = 1 ∧
        insertIntoWord (.uint 16) (CompactOrder.slot1 order) value field.compactLoc =
          CompactOrder.slot1 (field.set value order) ∧
        CompactOrder.slot2 (field.set value order) = CompactOrder.slot2 order) ∨
      (field.compactLoc.offsetSlots = 2 ∧
        insertIntoWord (.uint 16) (CompactOrder.slot2 order) value field.compactLoc =
          CompactOrder.slot2 (field.set value order) ∧
        CompactOrder.slot1 (field.set value order) = CompactOrder.slot1 order) := by
  cases field with
  | remaining =>
    refine Or.inl ⟨rfl, ?_, rfl⟩
    exact insert_insert
  | prev =>
    refine Or.inr ⟨rfl, ?_, rfl⟩
    show insertIntoWord (.uint 16) (CompactOrder.slot2 order) value V1Order.prevLoc = _
    unfold CompactOrder.slot2
    rw [insert_comm (by decide), insert_insert]
    rfl
  | next =>
    refine Or.inr ⟨rfl, ?_, rfl⟩
    exact insert_insert

theorem CompactOrder.slot0_set (field : OrderField) (value : ℕ) (order : Order)
    (bookIndex : ℕ) (version : OrderVersion) :
    CompactOrder.slot0 (field.set value order) bookIndex version =
      CompactOrder.slot0 order bookIndex version := by
  cases field <;> rfl

theorem V1Order.storeUint_store (field : OrderField) (value : ℕ) (order : Order) :
    storeUint (V1Order.store order) field.compactLoc value =
      V1Order.store (field.set value order) := by
  funext offset
  unfold storeUint
  rcases CompactOrder.insert_slot field value order with ⟨hslot, hword, hother⟩ |
    ⟨hslot, hword, hother⟩
  · rw [hslot]
    match offset with
    | 0 => exact (CompactOrder.slot0_set field value order 0 .v1).symm
    | 1 => exact hword
    | 2 => exact hother.symm
    | 3 => simp [V1Order.store]
    | _ + 4 => rfl
  · rw [hslot]
    match offset with
    | 0 => exact (CompactOrder.slot0_set field value order 0 .v1).symm
    | 1 => exact hother.symm
    | 2 => exact hword
    | 3 => simp [V1Order.store]
    | _ + 4 => rfl

theorem V2Order.storeUint_store (field : OrderField) (value : ℕ) (order : Order)
    (bookIndex : ℕ) :
    storeUint (V2Order.store order bookIndex) field.compactLoc value =
      V2Order.store (field.set value order) bookIndex := by
  funext offset
  unfold storeUint
  rcases CompactOrder.insert_slot field value order with ⟨hslot, hword, hother⟩ |
    ⟨hslot, hword, hother⟩
  · rw [hslot]
    match offset with
    | 0 => exact (CompactOrder.slot0_set field value order bookIndex .v2).symm
    | 1 => exact hword
    | 2 => exact hother.symm
    | _ + 3 => rfl
  · rw [hslot]
    match offset with
    | 0 => exact (CompactOrder.slot0_set field value order bookIndex .v2).symm
    | 1 => exact hother.symm
    | 2 => exact hword
    | _ + 3 => rfl

end Monotempo.Dex
