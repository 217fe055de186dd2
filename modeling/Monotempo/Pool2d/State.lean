/-
  The pool of transactions with a nonce key.

  Source: `crates/transaction-pool/src/tt_2d_pool.rs`.

  A lane is an account with a nonce key; it has an on-chain nonce of its own.  A transaction is
  pending if it can be executed after the transactions before it in its lane, else it is queued.
  Maps that are only looked up are functions, those that are also traversed are lists; what the
  source traverses in the order of nonces is sorted when it is read.  Metrics, the feed of new
  transactions, the order kept for block building and the lists of transactions that calls return
  for listeners are left out.
-/
import Monotempo.Chain.Hardfork
import Mathlib.Data.List.Sort

set_option autoImplicit false

namespace Monotempo.Pool2d

open Chain Function

/-! ## Transactions -/

/-- `AASequenceId`: a lane. -/
structure SequenceId where
  address : Address
  nonceKey : ℕ
  deriving DecidableEq, Repr

/-- `AA2dTransactionId`. -/
structure TransactionId where
  seqId : SequenceId
  nonce : ℕ
  deriving DecidableEq, Repr

/-- `TempoPooledTransaction`, with what the pool reads.  Only transactions with a nonce key are
given to this pool. -/
structure PooledTransaction where
  hash : B256
  sender : Address
  nonceKey : ℕ
  nonce : ℕ
  expiringNonceHash : Option B256
  maxFeePerGas : ℕ
  maxPriorityFeePerGas : ℕ
  size : ℕ
  is2d : nonceKey ≠ 0
  deriving DecidableEq, Repr

/-- Storage slots of the nonce precompile: `nonces[address][nonce_key]`, which are all different,
and `expiring_nonce_seen[hash]`. -/
class NonceSlots where
  nonceKeySlot : SequenceId → ℕ
  expiringNonceSlot : B256 → ℕ
  nonceKeySlot_injective : Function.Injective nonceKeySlot

namespace PooledTransaction

def seqId (tx : PooledTransaction) : SequenceId := ⟨tx.sender, tx.nonceKey⟩

/-- `aa_transaction_id`. -/
def id (tx : PooledTransaction) : TransactionId := ⟨tx.seqId, tx.nonce⟩

/-- `is_expiring_nonce`. -/
def isExpiringNonce (tx : PooledTransaction) : Bool := tx.expiringNonceHash.isSome

/-- `precomputed_expiring_nonce_hash`. -/
def precomputedExpiringNonceHash (tx : PooledTransaction) : B256 := tx.expiringNonceHash.getD 0

/-- `effective_tip_per_gas`. -/
def effectiveTipPerGas (tx : PooledTransaction) (baseFee : ℕ) : Option ℕ :=
  if tx.maxFeePerGas < baseFee then none
  else some (min (tx.maxFeePerGas - baseFee) tx.maxPriorityFeePerGas)

end PooledTransaction

/-- `AA2dStoredTransaction`. -/
structure StoredTransaction where
  submissionId : ℕ
  transaction : PooledTransaction
  deriving DecidableEq, Repr

/-- `AA2dInternalTransaction`. -/
structure InternalTransaction where
  inner : StoredTransaction
  isPending : Bool
  deriving DecidableEq, Repr

namespace InternalTransaction

def id (e : InternalTransaction) : TransactionId := e.inner.transaction.id
def seqId (e : InternalTransaction) : SequenceId := e.inner.transaction.seqId
def nonce (e : InternalTransaction) : ℕ := e.inner.transaction.nonce

end InternalTransaction

/-! ## Order of eviction -/

/-- `EvictionOrderKey`. -/
structure OrderKey where
  priority : Option ℕ
  submissionId : ℕ
  deriving DecidableEq, Repr

/-- A priority as a number; no priority comes first. -/
def rank (priority : Option ℕ) : ℕ := priority.elim 0 (· + 1)

/-- `Ord` of `EvictionOrderKey`: lower priority first, then newer submission first. -/
def OrderKey.before (left right : OrderKey) : Bool :=
  decide (rank left.priority < rank right.priority ∨
    (rank left.priority = rank right.priority ∧ right.submissionId < left.submissionId))

/-- `eviction_key`, with the priority of `TempoTipOrdering`. -/
def StoredTransaction.evictionKey (tx : StoredTransaction) (baseFee : ℕ) : OrderKey :=
  ⟨(tx.transaction.effectiveTipPerGas baseFee).map (min · (2 ^ 64 - 1)), tx.submissionId⟩

/-- `EvictionKey`. -/
structure EvictionKey where
  txId : TransactionId
  order : OrderKey
  deriving DecidableEq, Repr

/-- `EvictionKey::with_base_fee`. -/
def EvictionKey.withBaseFee (tx : StoredTransaction) (txId : TransactionId) (baseFee : ℕ) :
    EvictionKey :=
  ⟨txId, tx.evictionKey baseFee⟩

/-- `ExpiringNonceEvictionKey`. -/
structure ExpiringKey where
  order : OrderKey
  transaction : PooledTransaction
  deriving DecidableEq, Repr

section Keys

variable {α : Type} (order : α → OrderKey)

/-- `BTreeSet::insert`. -/
def insertKey (key : α) : List α → List α
  | [] => [key]
  | first :: rest =>
    if order key = order first then first :: rest
    else if (order key).before (order first) then key :: first :: rest
    else first :: insertKey key rest

/-- `BTreeSet::remove`. -/
def removeKey (key : OrderKey) (keys : List α) : List α :=
  keys.filter fun k => order k ≠ key

end Keys

/-! ## The pool -/

/-- `SubPoolLimit`. -/
structure SubPoolLimit where
  maxTxs : ℕ
  maxSize : ℕ
  deriving DecidableEq, Repr

def SubPoolLimit.isExceeded (limit : SubPoolLimit) (txs : ℕ) (size : ℤ) : Bool :=
  decide (limit.maxTxs < txs ∨ limit.maxSize < size.toNat)

/-- `AA2dPoolConfig`.  What `price_bump_config` says about a replacement is taken as given. -/
structure PoolConfig where
  isReplacementUnderpriced : PooledTransaction → PooledTransaction → Bool
  pendingLimit : SubPoolLimit
  queuedLimit : SubPoolLimit
  maxTxsPerSender : ℕ
  maxTxsPerLane : ℕ

/-- `AA2dPool`. -/
structure Pool where
  submissionId : ℕ
  independent : SequenceId → Option StoredTransaction
  byId : List InternalTransaction
  byHash : B256 → Option PooledTransaction
  expiringNonceTxs : List StoredTransaction
  expiringNonceEvictionOrder : List ExpiringKey
  slotToExpiringNonceHash : ℕ → Option B256
  slotToSeqId : ℕ → Option SequenceId
  config : PoolConfig
  pendingEvictionOrder : List EvictionKey
  queuedEvictionOrder : List EvictionKey
  baseFee : ℕ
  txsBySender : Address → ℕ
  txsByLane : SequenceId → ℕ
  pendingCount : ℕ
  queuedCount : ℕ
  pendingSize : ℤ
  queuedSize : ℤ

/-- `PoolErrorKind`, as far as additions fail with it. -/
inductive PoolError where
  | alreadyImported
  | nonceNotConsistent (tx state : ℕ)
  | spammerExceededCapacity (sender : Address)
  | replacementUnderpriced
  deriving DecidableEq, Repr

/-- `AddedTransaction`. -/
inductive Added where
  | pending
  | parked
  deriving DecidableEq, Repr

/-- `u64::saturating_add(1)`. -/
def saturatingSucc (nonce : ℕ) : ℕ := min (nonce + 1) (2 ^ 64 - 1)

namespace Pool

/-- `AA2dPool::new`. -/
def new (config : PoolConfig) : Pool where
  submissionId := 0
  independent _ := none
  byId := []
  byHash _ := none
  expiringNonceTxs := []
  expiringNonceEvictionOrder := []
  slotToExpiringNonceHash _ := none
  slotToSeqId _ := none
  config := config
  pendingEvictionOrder := []
  queuedEvictionOrder := []
  baseFee := 0
  txsBySender _ := 0
  txsByLane _ := 0
  pendingCount := 0
  queuedCount := 0
  pendingSize := 0
  queuedSize := 0

/-! ### Lookups -/

/-- `by_id.get`. -/
def lookup (s : Pool) (id : TransactionId) : Option InternalTransaction :=
  s.byId.find? fun e => e.id = id

/-- Transactions of a lane that meet a condition, in the order of their nonces. -/
def laneTxs (s : Pool) (seqId : SequenceId) (condition : ℕ → Bool) : List InternalTransaction :=
  (s.byId.filter fun e => e.seqId = seqId ∧ condition e.nonce = true).insertionSort
    fun left right => left.nonce ≤ right.nonce

/-- `descendant_txs`. -/
def descendantTxs (s : Pool) (id : TransactionId) : List InternalTransaction :=
  s.laneTxs id.seqId fun nonce => id.nonce ≤ nonce

/-- `descendant_txs_exclusive`. -/
def descendantTxsExclusive (s : Pool) (id : TransactionId) : List InternalTransaction :=
  s.laneTxs id.seqId fun nonce => id.nonce < nonce

/-! ### Parts of the updates -/

/-- `set_pending`. -/
def setPending (s : Pool) (id : TransactionId) (pending : Bool) : Pool :=
  { s with byId := s.byId.map fun e => if e.id = id then { e with isPending := pending } else e }

/-- `remove_from_subpool`. -/
def removeFromSubpool (s : Pool) (pending : Bool) (size : ℕ) : Pool :=
  if pending then { s with pendingCount := s.pendingCount - 1, pendingSize := s.pendingSize - size }
  else { s with queuedCount := s.queuedCount - 1, queuedSize := s.queuedSize - size }

/-- `decrement_sender_count`. -/
def decrementSenderCount (s : Pool) (sender : Address) : Pool :=
  { s with txsBySender := update s.txsBySender sender (s.txsBySender sender - 1) }

/-- `remove_eviction_key`. -/
def removeEvictionKey (s : Pool) (e : InternalTransaction) : Pool :=
  let order := e.inner.evictionKey s.baseFee
  if e.isPending then
    { s with pendingEvictionOrder := removeKey EvictionKey.order order s.pendingEvictionOrder }
  else { s with queuedEvictionOrder := removeKey EvictionKey.order order s.queuedEvictionOrder }

/-- A queued transaction becomes pending: its flag, the counts, the sizes and its key. -/
def markPending (s : Pool) (e : InternalTransaction) : Pool :=
  let key := EvictionKey.withBaseFee e.inner e.id s.baseFee
  { s.setPending e.id true with
    pendingCount := s.pendingCount + 1
    queuedCount := s.queuedCount - 1
    pendingSize := s.pendingSize + e.inner.transaction.size
    queuedSize := s.queuedSize - e.inner.transaction.size
    queuedEvictionOrder := removeKey EvictionKey.order key.order s.queuedEvictionOrder
    pendingEvictionOrder := insertKey EvictionKey.order key s.pendingEvictionOrder }

/-- A pending transaction becomes queued. -/
def markQueued (s : Pool) (e : InternalTransaction) : Pool :=
  let key := EvictionKey.withBaseFee e.inner e.id s.baseFee
  { s.setPending e.id false with
    pendingCount := s.pendingCount - 1
    queuedCount := s.queuedCount + 1
    pendingSize := s.pendingSize - e.inner.transaction.size
    queuedSize := s.queuedSize + e.inner.transaction.size
    pendingEvictionOrder := removeKey EvictionKey.order key.order s.pendingEvictionOrder
    queuedEvictionOrder := insertKey EvictionKey.order key s.queuedEvictionOrder }

/-- `IndependentTransactions::insert`. -/
def insertIndependent (s : Pool) (tx : StoredTransaction) : Pool :=
  { s with independent := update s.independent tx.transaction.seqId (some tx) }

/-- `IndependentTransactions::remove`. -/
def removeIndependent (s : Pool) (seqId : SequenceId) (nonce : Option ℕ) : Pool :=
  match s.independent seqId with
  | some tx =>
    if nonce = none ∨ nonce = some tx.transaction.nonce then
      { s with independent := update s.independent seqId none }
    else s
  | none => s

/-- `demote_from_nonce`. -/
def demoteFromNonce (s : Pool) (seqId : SequenceId) (minNonce : ℕ) : Pool :=
  ((s.descendantTxsExclusive ⟨seqId, minNonce⟩).filter (·.isPending)).foldl markQueued s

/-- `demote_descendants`. -/
def demoteDescendants (s : Pool) (id : TransactionId) : Pool := s.demoteFromNonce id.seqId id.nonce

/-- `next_id`. -/
def nextId (s : Pool) : Pool := { s with submissionId := (s.submissionId + 1) % 2 ^ 64 }

variable [NonceSlots]

/-! ### Removal -/

/-- `remove_transaction_by_id`, for a transaction that is there. -/
def removeEntry (s : Pool) (e : InternalTransaction) : Pool :=
  let byId := s.byId.filter fun other => other.id ≠ e.id
  let s := { s with
    byId := byId
    txsByLane := update s.txsByLane e.seqId (s.txsByLane e.seqId - 1) }
  let s := s.removeEvictionKey e
  let s : Pool :=
    if byId.any fun other => other.seqId = e.seqId then s
    else { s with
      slotToSeqId := update s.slotToSeqId (NonceSlots.nonceKeySlot e.seqId) none }
  let s := s.removeIndependent e.seqId (some e.nonce)
  let s := { s with byHash := update s.byHash e.inner.transaction.hash none }
  let s := s.removeFromSubpool e.isPending e.inner.transaction.size
  s.decrementSenderCount e.inner.transaction.sender

/-- `remove_transaction_by_id`. -/
def removeTransactionById (s : Pool) (id : TransactionId) : Pool × Option PooledTransaction :=
  match s.lookup id with
  | some e => (s.removeEntry e, some e.inner.transaction)
  | none => (s, none)

/-- `remove_expiring_nonce_pending_tx`. -/
def removeExpiringNoncePendingTx (s : Pool) (tx : StoredTransaction) : Pool :=
  let s := { s with byHash := update s.byHash tx.transaction.hash none }
  let s : Pool :=
    match tx.transaction.expiringNonceHash with
    | some hash => { s with
        slotToExpiringNonceHash :=
          update s.slotToExpiringNonceHash (NonceSlots.expiringNonceSlot hash) none }
    | none => s
  let s := s.decrementSenderCount tx.transaction.sender
  s.removeFromSubpool true tx.transaction.size

/-- `expiring_nonce_txs.remove`. -/
def dropExpiring (s : Pool) (expiringHash : B256) : Pool :=
  { s with
    expiringNonceTxs := s.expiringNonceTxs.filter fun tx =>
      tx.transaction.precomputedExpiringNonceHash ≠ expiringHash }

/-- `expiring_nonce_txs.get`. -/
def lookupExpiring (s : Pool) (expiringHash : B256) : Option StoredTransaction :=
  s.expiringNonceTxs.find? fun tx => tx.transaction.precomputedExpiringNonceHash = expiringHash

/-- `remove_expiring_nonce_tx`. -/
def removeExpiringNonceTx (s : Pool) (expiringHash : B256) : Pool × Option PooledTransaction :=
  match s.lookupExpiring expiringHash with
  | some tx =>
    let s := s.dropExpiring expiringHash
    let s := { s with
      expiringNonceEvictionOrder :=
        removeKey ExpiringKey.order (tx.evictionKey s.baseFee) s.expiringNonceEvictionOrder }
    (s.removeExpiringNoncePendingTx tx, some tx.transaction)
  | none => (s, none)

/-- `evict_worst_expiring_nonce_tx`. -/
def evictWorstExpiringNonceTx (s : Pool) : Pool × Option PooledTransaction :=
  match s.expiringNonceEvictionOrder with
  | key :: rest =>
    let s := { s with expiringNonceEvictionOrder := rest }
    match s.lookupExpiring key.transaction.precomputedExpiringNonceHash with
    | some tx =>
      ((s.dropExpiring key.transaction.precomputedExpiringNonceHash).removeExpiringNoncePendingTx
        tx, some tx.transaction)
    | none => (s, none)
  | [] => (s, none)

/-- `remove_transaction_by_hash_no_demote`. -/
def removeTransactionByHashNoDemote (s : Pool) (hash : B256) :
    Pool × Option (PooledTransaction × Option TransactionId) :=
  match s.byHash hash with
  | some tx =>
    let s := { s with byHash := update s.byHash hash none }
    if tx.isExpiringNonce then
      let removed := s.removeExpiringNonceTx tx.precomputedExpiringNonceHash
      (removed.1, removed.2.map fun tx => (tx, none))
    else
      let removed := s.removeTransactionById tx.id
      (removed.1, removed.2.map fun _ => (tx, some tx.id))
  | none => (s, none)

/-- The entry of a lane in the map of lanes to demote: the least nonce that was removed. -/
def recordDemotion (id : TransactionId) : List TransactionId → List TransactionId
  | [] => [id]
  | first :: rest =>
    if first.seqId = id.seqId then
      (if id.nonce < first.nonce then id else first) :: rest
    else first :: recordDemotion id rest

/-- The loop of `remove_transactions` over the hashes. -/
def removeHashes (s : Pool) (demotions : List TransactionId) :
    List B256 → Pool × List TransactionId
  | [] => (s, demotions)
  | hash :: hashes =>
    let removed := s.removeTransactionByHashNoDemote hash
    match removed.2 with
    | some (_, some id) => removeHashes removed.1 (recordDemotion id demotions) hashes
    | _ => removeHashes removed.1 demotions hashes

/-- `remove_transactions`. -/
def removeTransactions (s : Pool) (hashes : List B256) : Pool :=
  let removed := s.removeHashes [] hashes
  removed.2.foldl (fun s id => s.demoteFromNonce id.seqId id.nonce) removed.1

/-- `remove_transaction_by_hash`. -/
def removeTransactionByHash (s : Pool) (hash : B256) : Pool × Option PooledTransaction :=
  let removed := s.removeTransactionByHashNoDemote hash
  match removed.2 with
  | some (tx, some id) => (removed.1.demoteDescendants id, some tx)
  | some (tx, none) => (removed.1, some tx)
  | none => (removed.1, none)

/-- The loop of `remove_descendants`, which ends when there is no descendant left. -/
def removeDescendantsLoop (s : Pool) (id : TransactionId) : ℕ → Pool
  | 0 => s
  | fuel + 1 =>
    match s.descendantTxsExclusive id with
    | descendant :: _ =>
      removeDescendantsLoop (s.removeTransactionById descendant.id).1 descendant.id fuel
    | [] => s

/-- `remove_descendants`: every round but the last removes a transaction. -/
def removeDescendants (s : Pool) (id : TransactionId) : Pool :=
  s.removeDescendantsLoop id (s.byId.length + 1)

/-- `remove_transactions_and_descendants`. -/
def removeTransactionsAndDescendants (s : Pool) (hashes : List B256) : Pool :=
  hashes.foldl (fun s hash =>
    let removed := s.removeTransactionByHash hash
    match removed.2 with
    | some tx => removed.1.removeDescendants tx.id
    | none => removed.1) s

/-- `get_transactions_by_sender_iter`. -/
def transactionsBySender (s : Pool) (sender : Address) : List PooledTransaction :=
  (s.byId.map (·.inner.transaction)).filter (·.sender = sender) ++
    (s.expiringNonceTxs.map (·.transaction)).filter (·.sender = sender)

/-- `remove_transactions_by_sender`. -/
def removeTransactionsBySender (s : Pool) (sender : Address) : Pool :=
  (s.transactionsBySender sender).foldl (fun s tx =>
    if tx.isExpiringNonce then (s.removeExpiringNonceTx tx.precomputedExpiringNonceHash).1
    else (s.removeTransactionById tx.id).1) s

/-! ### Eviction -/

/-- `evict_2d_pending_tx`. -/
def evict2dPendingTx (s : Pool) (id : TransactionId) : Pool × Option PooledTransaction :=
  let removed := s.removeTransactionById id
  match removed.2 with
  | some tx => (removed.1.demoteDescendants id, some tx)
  | none => (removed.1, none)

/-- `evict_one_pending`. -/
def evictOnePending (s : Pool) : Pool × Option PooledTransaction :=
  match s.pendingEvictionOrder.head?, s.expiringNonceEvictionOrder.head? with
  | some worst2d, some worstExpiring =>
    -- the order of keys, but with ties going to the expiring transaction
    if worst2d.order.before worstExpiring.order then s.evict2dPendingTx worst2d.txId
    else s.evictWorstExpiringNonceTx
  | some worst2d, none => s.evict2dPendingTx worst2d.txId
  | none, some _ => s.evictWorstExpiringNonceTx
  | none, none => (s, none)

/-- The loop of `evict_lowest_priority` over pending transactions. -/
def evictPendingLoop (s : Pool) : ℕ → Pool
  | 0 => s
  | fuel + 1 =>
    if s.config.pendingLimit.isExceeded s.pendingCount s.pendingSize then
      let evicted := s.evictOnePending
      match evicted.2 with
      | some _ => evictPendingLoop evicted.1 fuel
      | none => evicted.1
    else s

/-- The loop of `evict_lowest_priority` over queued transactions. -/
def evictQueuedLoop (s : Pool) : ℕ → Pool
  | 0 => s
  | fuel + 1 =>
    if s.config.queuedLimit.isExceeded s.queuedCount s.queuedSize then
      match s.queuedEvictionOrder.head? with
      | some key =>
        let removed := s.removeTransactionById key.txId
        match removed.2 with
        | some _ => evictQueuedLoop removed.1 fuel
        | none => removed.1
      | none => s
    else s

/-- `evict_lowest_priority`: every round but the last removes a transaction. -/
def evictLowestPriority (s : Pool) (evictPending : Bool) : Pool :=
  if evictPending then s.evictPendingLoop (s.byId.length + s.expiringNonceTxs.length + 1)
  else s.evictQueuedLoop (s.byId.length + 1)

/-- `discard`.  The checks of the limits are those of the loops. -/
def discard (s : Pool) : Pool :=
  ((s.evictLowestPriority false).evictLowestPriority true).evictLowestPriority false

/-! ### Addition -/

/-- `record_2d_slot`. -/
def record2dSlot (s : Pool) (tx : PooledTransaction) : Pool :=
  { s with
    slotToSeqId :=
      update s.slotToSeqId (NonceSlots.nonceKeySlot tx.seqId) (some tx.seqId) }

/-- `add_expiring_nonce_transaction`. -/
def addExpiringNonceTransaction (s : Pool) (tx : PooledTransaction) :
    Pool × Except PoolError Added :=
  let expiringNonceHash := tx.precomputedExpiringNonceHash
  if (s.lookupExpiring expiringNonceHash).isSome then (s, .error .alreadyImported)
  else if s.config.maxTxsPerSender ≤ s.txsBySender tx.sender then
    (s, .error (.spammerExceededCapacity tx.sender))
  else
    let pendingTx : StoredTransaction := ⟨s.submissionId, tx⟩
    let s := { s.nextId with
      txsBySender := update s.txsBySender tx.sender (s.txsBySender tx.sender + 1)
      expiringNonceTxs := pendingTx :: s.expiringNonceTxs
      expiringNonceEvictionOrder :=
        insertKey ExpiringKey.order ⟨pendingTx.evictionKey s.baseFee, tx⟩
          s.expiringNonceEvictionOrder
      slotToExpiringNonceHash :=
        update s.slotToExpiringNonceHash (NonceSlots.expiringNonceSlot expiringNonceHash)
          (some expiringNonceHash)
      byHash := update s.byHash tx.hash (some tx)
      pendingCount := s.pendingCount + 1
      pendingSize := s.pendingSize + tx.size }
    (s.discard, .ok .pending)

/-- What the scan of a lane after an addition finds. -/
structure Scan where
  /-- whether it has come to the new transaction -/
  inserted : Bool
  /-- the transactions after it that were queued -/
  promoted : List InternalTransaction
  deriving DecidableEq, Repr

/-- The loop of `add_transaction` over the lane from the on-chain nonce. -/
def scanLane (txNonce : ℕ) : ℕ → List InternalTransaction → Scan
  | _, [] => ⟨false, []⟩
  | nextNonce, existing :: rest =>
    if existing.nonce = nextNonce then
      if existing.nonce < txNonce then scanLane txNonce (saturatingSucc existing.nonce) rest
      else if existing.nonce = txNonce then
        ⟨true, (scanLane txNonce (saturatingSucc existing.nonce) rest).promoted⟩
      else if existing.isPending then ⟨false, []⟩
      else
        let scan := scanLane txNonce (saturatingSucc existing.nonce) rest
        ⟨scan.inserted, existing :: scan.promoted⟩
    else ⟨false, []⟩

/-- `add_transaction` from the scan on. -/
def finishAddition (s : Pool) (entry : InternalTransaction) (onChainNonce : ℕ) :
    Pool × Except PoolError Added :=
  let tx := entry.inner.transaction
  let scan := scanLane tx.nonce onChainNonce (s.descendantTxs ⟨tx.seqId, onChainNonce⟩)
  let s := scan.promoted.foldl markPending s
  let key := EvictionKey.withBaseFee entry.inner tx.id s.baseFee
  if scan.inserted then
    let s := { s.setPending tx.id true with
      pendingCount := s.pendingCount + 1
      queuedCount := s.queuedCount - 1
      pendingSize := s.pendingSize + tx.size
      queuedSize := s.queuedSize - tx.size
      pendingEvictionOrder := insertKey EvictionKey.order key s.pendingEvictionOrder }
    let s := if tx.nonce = onChainNonce then s.insertIndependent entry.inner else s
    (s.discard, .ok .pending)
  else
    let s := { s with
      queuedEvictionOrder := insertKey EvictionKey.order key s.queuedEvictionOrder }
    (s.discard, .ok .parked)

/-- The new transaction in `by_id`, in place of one that it replaces. -/
def insertEntry (s : Pool) (entry : InternalTransaction) (replaced : Option InternalTransaction) :
    Pool :=
  let tx := entry.inner.transaction
  let s : Pool :=
    match replaced with
    | some old =>
      { s.removeFromSubpool old.isPending old.inner.transaction.size with
        byId := entry :: s.byId.filter fun other => other.id ≠ tx.id }
    | none =>
      { s with
        txsBySender := update s.txsBySender tx.sender (s.txsBySender tx.sender + 1)
        byId := entry :: s.byId
        txsByLane := update s.txsByLane tx.seqId (s.txsByLane tx.seqId + 1) }
  let s := { s with queuedCount := s.queuedCount + 1, queuedSize := s.queuedSize + tx.size }
  let s := if tx.nonceKey ≠ 0 then s.record2dSlot tx else s
  let s : Pool :=
    match replaced with
    | some old =>
      { s with
        byHash := update s.byHash old.inner.transaction.hash none }.removeEvictionKey old
    | none => s
  { s with byHash := update s.byHash tx.hash (some tx) }

/-- `add_transaction`. -/
def addTransaction (s : Pool) (tx : PooledTransaction) (onChainNonce : ℕ)
    (hardfork : TempoHardfork) : Pool × Except PoolError Added :=
  if hardfork.isT1 = true ∧ tx.isExpiringNonce = true then s.addExpiringNonceTransaction tx
  else if (s.byHash tx.hash).isSome then (s, .error .alreadyImported)
  else if tx.nonce < onChainNonce then (s, .error (.nonceNotConsistent tx.nonce onChainNonce))
  else if s.config.maxTxsPerLane ≤ s.txsByLane tx.seqId ∧ onChainNonce < tx.nonce then
    (s, .error (.spammerExceededCapacity tx.sender))
  else
    let entry : InternalTransaction := ⟨⟨s.submissionId, tx⟩, false⟩
    let s := s.nextId
    match s.lookup tx.id with
    | some replaced =>
      if s.config.isReplacementUnderpriced replaced.inner.transaction tx then
        (s, .error .replacementUnderpriced)
      else
        (s.insertEntry entry (some replaced)).finishAddition entry onChainNonce
    | none =>
      if s.config.maxTxsPerSender ≤ s.txsBySender tx.sender then
        (s, .error (.spammerExceededCapacity tx.sender))
      else (s.insertEntry entry none).finishAddition entry onChainNonce

/-! ### State updates -/

/-- `set_pending` in the loop of `on_nonce_changes_iter`, and what follows a changed flag. -/
def assignPending (s : Pool) (existing : InternalTransaction) (pending : Bool) : Pool :=
  if existing.isPending = pending then s
  else if pending then s.markPending existing
  else s.markQueued existing

/-- The loop of `on_nonce_changes_iter` over what is left of a lane. -/
def settleRest (onChainNonce : ℕ) : ℕ → Pool → List InternalTransaction → Pool × ℕ
  | nextNonce, s, [] => (s, nextNonce)
  | nextNonce, s, existing :: rest =>
    if existing.nonce = nextNonce then
      let s := s.assignPending existing true
      let s := if existing.nonce = onChainNonce then s.insertIndependent existing.inner else s
      settleRest onChainNonce (saturatingSucc nextNonce) s rest
    else settleRest onChainNonce nextNonce (s.assignPending existing false) rest

/-- One lane in `on_nonce_changes_iter`, with the transactions that are mined. -/
def settleLane (s : Pool) (seqId : SequenceId) (onChainNonce : ℕ) : Pool × List TransactionId :=
  let lane := s.laneTxs seqId fun _ => true
  let mined := (lane.takeWhile fun e => e.nonce < onChainNonce).map (·.id)
  let rest := lane.dropWhile fun e => e.nonce < onChainNonce
  if rest.isEmpty then (s, mined)
  else
    let settled := settleRest onChainNonce onChainNonce s rest
    let s := settled.1
    ((if settled.2 = onChainNonce then s.removeIndependent seqId none else s), mined)

/-- The loop of `on_nonce_changes_iter` over the lanes. -/
def settleLanes (s : Pool) (minedIds : List TransactionId) :
    List (SequenceId × ℕ) → Pool × List TransactionId
  | [] => (s, minedIds)
  | (seqId, onChainNonce) :: changes =>
    let settled := s.settleLane seqId onChainNonce
    settleLanes settled.1 (minedIds ++ settled.2) changes

/-- `on_nonce_changes_iter`. -/
def onNonceChanges (s : Pool) (changes : List (SequenceId × ℕ)) : Pool :=
  let settled := s.settleLanes [] changes
  settled.2.foldl (fun s id => (s.removeTransactionById id).1) settled.1

end Pool

/-- Changed slots of the nonce precompile with their present values. -/
structure StorageChanges where
  entries : List (ℕ × ℕ)
  nodup : (entries.map Prod.fst).Nodup

/-- The present value of a slot, if it has changed. -/
def StorageChanges.value (changes : StorageChanges) (slot : ℕ) : Option ℕ :=
  (changes.entries.find? fun entry => entry.1 = slot).map Prod.snd

/-- `saturating_to::<u64>`. -/
def saturatingToU64 (value : ℕ) : ℕ := min value (2 ^ 64 - 1)

namespace Pool

variable [NonceSlots]

/-- `on_state_updates`, with the changes of the nonce precompile if there are any. -/
def onStateUpdates (s : Pool) : Option StorageChanges → Pool
  | none => s
  | some state =>
    let changes := state.entries.filterMap fun entry =>
      (s.slotToSeqId entry.1).map fun seqId => (seqId, saturatingToU64 entry.2)
    let included := state.entries.filterMap fun entry =>
      if entry.2 ≠ 0 then s.slotToExpiringNonceHash entry.1 else none
    let s := s.onNonceChanges changes
    let s := included.foldl (fun s hash => (s.removeExpiringNonceTx hash).1) s
    s.discard

/-- `rebuild_eviction_order`. -/
def rebuildEvictionOrder (s : Pool) : Pool :=
  let keys := fun pending => (s.byId.filter fun e => e.isPending = pending).foldl
    (fun keys e =>
      insertKey EvictionKey.order (EvictionKey.withBaseFee e.inner e.id s.baseFee) keys) []
  { s with
    pendingEvictionOrder := keys true
    queuedEvictionOrder := keys false
    expiringNonceEvictionOrder := s.expiringNonceTxs.foldl (fun keys tx =>
      insertKey ExpiringKey.order ⟨tx.evictionKey s.baseFee, tx.transaction⟩ keys) [] }

/-- `set_base_fee`. -/
def setBaseFee (s : Pool) (baseFee : ℕ) : Pool :=
  if s.baseFee = baseFee then s else { s with baseFee := baseFee }.rebuildEvictionOrder

end Pool

/-! ## Runs -/

/-- What happens to the pool. -/
inductive Event where
  | addTransaction (tx : PooledTransaction) (hardfork : TempoHardfork)
  | removeTransactions (hashes : List B256)
  | removeTransactionsAndDescendants (hashes : List B256)
  | removeTransactionsBySender (sender : Address)
  | onStateUpdates (state : Option StorageChanges)
  | setBaseFee (baseFee : ℕ)

/-- The pool with the on-chain nonces as they were last reported. -/
structure World where
  pool : Pool
  nonces : SequenceId → ℕ

/-- The on-chain nonces after a report of changed slots. -/
def reportNonces [NonceSlots] (nonces : SequenceId → ℕ) : Option StorageChanges → SequenceId → ℕ
  | none, seqId => nonces seqId
  | some state, seqId =>
    ((state.value (NonceSlots.nonceKeySlot seqId)).map saturatingToU64).getD (nonces seqId)

/-- An addition is passed the on-chain nonce last reported for its lane. -/
def World.step [NonceSlots] (w : World) : Event → World
  | .addTransaction tx hardfork =>
    { w with pool := (w.pool.addTransaction tx (w.nonces tx.seqId) hardfork).1 }
  | .removeTransactions hashes => { w with pool := w.pool.removeTransactions hashes }
  | .removeTransactionsAndDescendants hashes =>
    { w with pool := w.pool.removeTransactionsAndDescendants hashes }
  | .removeTransactionsBySender sender =>
    { w with pool := w.pool.removeTransactionsBySender sender }
  | .onStateUpdates state => ⟨w.pool.onStateUpdates state, reportNonces w.nonces state⟩
  | .setBaseFee baseFee => { w with pool := w.pool.setBaseFee baseFee }

def World.run [NonceSlots] (w : World) (events : List Event) : World :=
  events.foldl World.step w

end Monotempo.Pool2d
