/-
  Replay of recorded storage actions.

  Source: `crates/evm/src/action_replay.rs`, `crates/precompiles/src/storage/actions.rs` and
  the pool slots of `crates/precompiles/src/tip_fee_manager/amm.rs`.

  A transaction that was executed ahead of its block is committed by replaying what it did to
  storage.  Loads and stores have to see the values they were recorded with; increments,
  decrements and fee swaps are applied to the values of the block.  A slot that the database
  has not cached is not read: its recorded value is trusted.
-/
import Monotempo.FeeAmm.State
import Monotempo.Nonce.Manager

set_option autoImplicit false

namespace Monotempo.Replay

open Chain Foundation FeeAmm

/-! ## Storage -/

/-- A storage slot of an account. -/
structure Slot where
  address : Address
  key : ℕ
  deriving DecidableEq, Repr

/-- The value of every slot. -/
abbrev Storage := Slot → ℕ

/-- `NONCE_PRECOMPILE_ADDRESS`. -/
def noncePrecompileAddress : Address := 0x4E4F4E4345000000000000000000000000000000

/-- `CacheAccount`: `storage` is `none` if the account is known not to exist. -/
structure CacheAccount where
  storage : Option (ℕ → Option ℕ)
  isStorageKnown : Bool

/-- The accounts in the cache of the database. -/
abbrev Cache := Address → Option CacheAccount

/-- `cached_storage_value`. -/
def cachedStorageValue (cache : Cache) (slot : Slot) : Option ℕ :=
  match cache slot.address with
  | none => none
  | some cachedAccount =>
    match cachedAccount.storage with
    | none => some 0
    | some storage =>
      match storage slot.key with
      | some value => some value
      | none => if cachedAccount.isStorageKnown then some 0 else none

/-- What the cache has is what storage has. -/
def Cache.Coherent (cache : Cache) (storage : Storage) : Prop :=
  ∀ slot value, cachedStorageValue cache slot = some value → storage slot = value

/-- `StorageAction`.  The actions of the fee pools are on slots of the fee manager. -/
inductive StorageAction where
  | sload (slot : Slot) (value : ℕ)
  | sstore (slot : Slot) (sloadValue value : ℕ)
  | sinc (slot : Slot) (sloadValue delta : ℕ)
  | sdec (slot : Slot) (sloadValue delta : ℕ)
  | feeAmmSwap (key sloadValue amountIn : ℕ)
  | feeAmmLiquidityCheck (key sloadValue amountOut : ℕ) (hasEnoughLiquidity : Bool)
  deriving DecidableEq, Repr

/-- `StorageAction::address`. -/
def StorageAction.address : StorageAction → Address
  | .sload slot _ => slot.address
  | .sstore slot _ _ => slot.address
  | .sinc slot _ _ => slot.address
  | .sdec slot _ _ => slot.address
  | .feeAmmSwap .. => tipFeeManagerAddress
  | .feeAmmLiquidityCheck .. => tipFeeManagerAddress

/-- A slot of the fee manager. -/
def poolSlot (key : ℕ) : Slot := ⟨tipFeeManagerAddress, key⟩

/-! ## Pool slots -/

/-- `Pool::decode_from_slot`: the user reserve is the low half of the word. -/
def decodeFromSlot (slotValue : ℕ) : Pool := ⟨slotValue % 2 ^ 128, slotValue / 2 ^ 128⟩

/-- `Pool::encode_to_slot`. -/
def encodeToSlot (pool : Pool) : ℕ := pool.reserveUserToken + pool.reserveValidatorToken * 2 ^ 128

/-- `Pool::apply_swap`, on a pool that is not in storage. -/
def applySwap (pool : Pool) (amountIn amountOut : ℕ) : Except FeeAmm.Error Pool :=
  if pool.reserveValidatorToken < amountOut then .error (.amm .insufficientLiquidity)
  else if u128Max < amountIn then .error .underOverflow
  else if u128Max < amountOut then .error .underOverflow
  else if u128Max < pool.reserveUserToken + amountIn then .error .underOverflow
  else .ok ⟨pool.reserveUserToken + amountIn, pool.reserveValidatorToken - amountOut⟩

/-- The slot of a pool after a fee swap. -/
def swapSlot (slotValue amountIn : ℕ) : Option ℕ :=
  match computeAmountOut amountIn with
  | none => none
  | some amountOut =>
    match applySwap (decodeFromSlot slotValue) amountIn amountOut with
    | .ok pool => some (encodeToSlot pool)
    | .error _ => none

/-- `has_enough_reserve_validator_token`. -/
def hasEnoughReserveValidatorToken (slotValue amountOut : ℕ) : Bool :=
  decide (amountOut ≤ (decodeFromSlot slotValue).reserveValidatorToken)

/-! ## Replay state -/

/-- `StorageActionReplayError`, and an error of `validate_tx`. -/
inductive ReplayError where
  | transactionExecutionFailed
  | actionConflict
  | overflow
  | underflow
  | validation
  deriving DecidableEq, Repr

/-- `SlotChange`. -/
structure SlotChange where
  original : ℕ
  current : ℕ
  written : Bool
  deriving DecidableEq, Repr

/-- The slots that a transaction has touched. -/
abbrev Changes := Slot → Option SlotChange

/-- `ExpiringNonceReplayState`. -/
structure ExpiringNonceReplayState where
  ringPtr : Option ℕ
  pendingRingPtr : Option ℕ
  deriving DecidableEq, Repr

/-- `StorageActionReplayState`. -/
structure StorageActionReplayState where
  txChanges : Changes
  expiringNonce : ExpiringNonceReplayState

/-- What replay reads: storage, and the part of it that is in the cache. -/
structure Database where
  storage : Storage
  cache : Cache

abbrev ReplayM := EStateM ReplayError StorageActionReplayState

/-- Write the change of a slot. -/
def StorageActionReplayState.setChange (s : StorageActionReplayState) (slot : Slot)
    (change : SlotChange) : StorageActionReplayState :=
  { s with txChanges := Function.update s.txChanges slot (some change) }

/-- `sstore`: the slot was loaded before. -/
def sstore (slot : Slot) (value : ℕ) : ReplayM Unit := do
  let s ← get
  let change ← okOr (s.txChanges slot) .actionConflict
  modify fun s => s.setChange slot { change with current := value, written := true }

/-- The change of a slot that is touched for the first time. -/
def firstTouch (slot : Slot) (current : ℕ) : ReplayM ℕ := do
  modify fun s => s.setChange slot ⟨current, current, false⟩
  pure current

/-- `sload_exact`. -/
def sloadExact (db : Database) (slot : Slot) (expected : ℕ) : ReplayM ℕ := do
  let s ← get
  match s.txChanges slot with
  | some change => do
    require (change.current = expected) .actionConflict
    pure change.current
  | none => do
    let current := (cachedStorageValue db.cache slot).getD expected
    require (current = expected) .actionConflict
    firstTouch slot current

/-- `sstore_exact`. -/
def sstoreExact (db : Database) (slot : Slot) (expected value : ℕ) : ReplayM Unit := do
  let _ ← sloadExact db slot expected
  sstore slot value

/-- `sload_current_or`. -/
def sloadCurrentOr (db : Database) (slot : Slot) (fallback : ℕ) : ReplayM ℕ := do
  let s ← get
  match s.txChanges slot with
  | some change => pure change.current
  | none => firstTouch slot ((cachedStorageValue db.cache slot).getD fallback)

/-- `record_sstore`. -/
def StorageActionReplayState.recordSstore (s : StorageActionReplayState) (slot : Slot)
    (original current : ℕ) : StorageActionReplayState :=
  match s.txChanges slot with
  | some change => s.setChange slot { change with current := current, written := true }
  | none => s.setChange slot ⟨original, current, true⟩

/-- `reset_tx_changes`. -/
def StorageActionReplayState.resetTxChanges (s : StorageActionReplayState) :
    StorageActionReplayState :=
  ⟨fun _ => none, { s.expiringNonce with pendingRingPtr := none }⟩

/-- `commit_tx_changes`. -/
def StorageActionReplayState.commitTxChanges (s : StorageActionReplayState) :
    StorageActionReplayState :=
  match s.expiringNonce.pendingRingPtr with
  | some ptr => ⟨fun _ => none, ⟨some ptr, none⟩⟩
  | none => ⟨fun _ => none, s.expiringNonce⟩

/-- `invalidate_expiring_nonce_cache`. -/
def StorageActionReplayState.invalidateExpiringNonceCache (s : StorageActionReplayState) :
    StorageActionReplayState :=
  { s with expiringNonce := ⟨none, none⟩ }

/-! ## Replay of actions -/

/-- One action of `replay_actions`. -/
def replayAction (db : Database) : StorageAction → ReplayM Unit
  | .sload slot value => do
    let _ ← sloadExact db slot value
    pure ()
  | .sstore slot sloadValue value => sstoreExact db slot sloadValue value
  | .sinc slot sloadValue delta => do
    let current ← sloadCurrentOr db slot sloadValue
    let value ← okOr (checkedAdd256 current delta) .overflow
    sstore slot value
  | .sdec slot sloadValue delta => do
    let current ← sloadCurrentOr db slot sloadValue
    let value ← okOr (checkedSub current delta) .underflow
    sstore slot value
  | .feeAmmSwap key sloadValue amountIn => do
    let current ← sloadCurrentOr db (poolSlot key) sloadValue
    let value ← okOr (swapSlot current amountIn) .actionConflict
    sstore (poolSlot key) value
  | .feeAmmLiquidityCheck key sloadValue amountOut hasEnoughLiquidity => do
    let current ← sloadCurrentOr db (poolSlot key) sloadValue
    require (hasEnoughReserveValidatorToken current amountOut = hasEnoughLiquidity)
      .actionConflict

/-- The loop of `replay_actions`.  The actions of a transaction with an expiring nonce on the
nonce manager are passed over. -/
def replayEach (db : Database) (isExpiringNonce : Bool) : List StorageAction → ReplayM Unit
  | [] => pure ()
  | action :: actions => do
    onlyIf (¬ (isExpiringNonce = true ∧ action.address = noncePrecompileAddress))
      (replayAction db action)
    replayEach db isExpiringNonce actions

/-! ## Expiring nonces -/

/-- The slots of the nonce manager.  Slots of mappings are hashes without collisions. -/
class NonceSlots where
  seen : B256 → ℕ
  ring : ℕ → ℕ
  ringPtr : ℕ
  seen_injective : Function.Injective seen
  ring_injective : Function.Injective ring
  seen_ne_ring : ∀ hash index, seen hash ≠ ring index
  seen_ne_ringPtr : ∀ hash, seen hash ≠ ringPtr
  ring_ne_ringPtr : ∀ index, ring index ≠ ringPtr

/-- Slots that are spread over the numbers. -/
@[reducible] def NonceSlots.spread : NonceSlots where
  seen hash := 3 * hash
  ring index := 3 * index + 1
  ringPtr := 2
  seen_injective _ _ h := Nat.eq_of_mul_eq_mul_left (by decide) h
  ring_injective _ _ h := Nat.eq_of_mul_eq_mul_left (by decide) (Nat.succ.inj h)
  seen_ne_ring _ _ h := by omega
  seen_ne_ringPtr _ h := by omega
  ring_ne_ringPtr _ h := by omega

/-- A slot of the nonce manager. -/
def nonceSlot (key : ℕ) : Slot := ⟨noncePrecompileAddress, key⟩

/-- `ExpiringNonceReplay`. -/
structure ExpiringNonceReplay where
  hash : B256
  validBefore : ℕ
  deriving DecidableEq, Repr

section ExpiringNonce

variable [NonceSlots]

/-- `ring_ptr`. -/
def ringPtr (db : Database) : ReplayM ℕ := do
  let s ← get
  match s.expiringNonce.ringPtr with
  | some ptr => pure ptr
  | none => do
    let ptr := db.storage (nonceSlot NonceSlots.ringPtr)
    modify fun s => { s with expiringNonce := { s.expiringNonce with ringPtr := some ptr } }
    pure ptr

/-- The old entry of the ring in `apply_expiring_nonce_replay`. -/
def clearOldEntry (db : Database) (oldHash now : ℕ) : ReplayM Unit :=
  onlyIf (oldHash ≠ 0) do
    let oldSlot := nonceSlot (NonceSlots.seen oldHash)
    require (Nonce.live (db.storage oldSlot) now = false) .actionConflict
    modify fun s => s.recordSstore oldSlot (db.storage oldSlot) 0

/-- `apply_expiring_nonce_replay`.  The block timestamp is a `u64`. -/
def applyExpiringNonceReplay (spec : TempoHardfork) (db : Database)
    (expiringNonce : ExpiringNonceReplay) (blockTimestamp : ℕ) : ReplayM Unit := do
  require (Nonce.inWindow spec blockTimestamp expiringNonce.validBefore = true) .actionConflict
  let ptr ← ringPtr db
  let seenSlot := nonceSlot (NonceSlots.seen expiringNonce.hash)
  let seenExpiry := db.storage seenSlot
  require (Nonce.live seenExpiry blockTimestamp = false) .actionConflict
  require (ptr < 2 ^ 32) .actionConflict
  let ringSlot := nonceSlot (NonceSlots.ring ptr)
  let oldHash := db.storage ringSlot
  clearOldEntry db oldHash blockTimestamp
  modify fun s => s.recordSstore ringSlot oldHash expiringNonce.hash
  modify fun s => s.recordSstore seenSlot seenExpiry expiringNonce.validBefore
  let next := if ptr + 1 < Nonce.expiringNonceSetCapacity spec then ptr + 1 else 0
  modify fun s => s.recordSstore (nonceSlot NonceSlots.ringPtr) ptr next
  modify fun s => { s with
    expiringNonce := { s.expiringNonce with pendingRingPtr := some next } }

/-- `replay_actions`. -/
def replayActions (spec : TempoHardfork) (db : Database) (blockTimestamp : ℕ)
    (actions : List StorageAction) (expiringNonce : Option ExpiringNonceReplay) :
    ReplayM Unit := do
  match expiringNonce with
  | some expiringNonce => applyExpiringNonceReplay spec db expiringNonce blockTimestamp
  | none => pure ()
  replayEach db expiringNonce.isSome actions

/-! ## Transactions -/

/-- What the executor keeps between transactions. -/
structure Executor where
  storage : Storage
  replayState : StorageActionReplayState

/-- The executor at the start of a block. -/
def Executor.start (storage : Storage) : Executor := ⟨storage, fun _ => none, none, none⟩

/-- `StorageActionReplay`: whether the recorded transaction succeeded, and what it did. -/
structure StorageActionReplay where
  success : Bool
  actions : List StorageAction
  expiringNonce : Option ExpiringNonceReplay

/-- Storage after the written slots of a transaction are committed. -/
def commitChanges (storage : Storage) (changes : Changes) : Storage := fun slot =>
  match changes slot with
  | some change => if change.written then change.current else storage slot
  | none => storage slot

/-- `execute_transaction_with_actions`.  `valid` is the answer of `validate_tx`, which comes after
the replay: its error leaves the changes of the transaction behind. -/
def executeTransactionWithActions (spec : TempoHardfork) (cache : Cache) (blockTimestamp : ℕ)
    (valid : Bool) (replay : StorageActionReplay) : EStateM ReplayError Executor Unit := do
  modify fun e => { e with replayState := e.replayState.resetTxChanges }
  require (replay.success = true) .transactionExecutionFailed
  let e ← get
  match replayActions spec ⟨e.storage, cache⟩ blockTimestamp replay.actions replay.expiringNonce
      e.replayState with
  | .error error failed => do
    modify fun e => { e with replayState := failed.resetTxChanges }
    throw error
  | .ok _ replayed => do
    modify fun e => { e with replayState := replayed }
    require (valid = true) .validation
    modify fun e => ⟨commitChanges e.storage e.replayState.txChanges,
      e.replayState.commitTxChanges⟩

end ExpiringNonce

end Monotempo.Replay
