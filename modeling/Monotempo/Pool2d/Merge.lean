/-
  The best transactions of both pools in one sequence, and what marking one
  of them invalid does to the rest of its lane.

  Source: `BestAA2dTransactions` in `crates/transaction-pool/src/tt_2d_pool.rs` and
  `MergeBestTransactions` in `crates/transaction-pool/src/best.rs`.

  The iterator of the protocol pool is a package of its own: it is any one whose invalidations are
  final.  The loop of the 2D pool's iterator makes any number of rounds in a call; what holds for
  all of them holds for the number after which the source's loop returns.
-/
import Monotempo.Pool2d.State

set_option autoImplicit false

namespace Monotempo.Pool2d

open Chain

/-! ## Iterators over the best transactions -/

/-- `BestTransactions`.  Between two calls an iterator may change, by what the pool sends it. -/
structure BestTransactions (σ τ : Type) where
  next : σ → σ × Option τ
  markInvalid : σ → τ → σ
  changes : σ → σ → Prop

namespace BestTransactions

variable {σ τ ι : Type} (it : BestTransactions σ τ) (lane : τ → Option ι)

/-- A call with what it yields, or a change. -/
inductive Step : σ → Option τ → σ → Prop
  | next (s : σ) : Step s (it.next s).2 (it.next s).1
  | markInvalid (s : σ) (tx : τ) : Step s none (it.markInvalid s tx)
  | changed {s s' : σ} (h : it.changes s s') : Step s none s'

/-- Calls in any order, with the transactions they yield. -/
inductive Run : σ → List τ → σ → Prop
  | done (s : σ) : Run s [] s
  | step {s s₁ s' : σ} {tx : Option τ} {yields : List τ} (first : it.Step s tx s₁)
      (rest : Run s₁ yields s') : Run s (tx.toList ++ yields) s'

/-- Whatever is called, no transaction of the lane is yielded any more. -/
def Silent (l : ι) (s : σ) : Prop :=
  ∀ ⦃yields s'⦄, it.Run s yields s' → ∀ tx ∈ yields, lane tx ≠ some l

/-- Once a transaction is marked invalid, none of its lane is yielded any more. -/
def Final : Prop :=
  ∀ ⦃s tx l⦄, lane tx = some l → it.Silent lane l (it.markInvalid s tx)

variable {it lane} {s s' : σ} {l : ι} {yielded : Option τ}

theorem Silent.step (h : it.Silent lane l s) (hstep : it.Step s yielded s') :
    it.Silent lane l s' ∧ ∀ tx ∈ yielded, lane tx ≠ some l :=
  ⟨fun _ _ run tx htx => h (.step hstep run) tx (List.mem_append_right _ htx), fun tx htx =>
    h (.step hstep (.done s')) tx (List.mem_append_left _ (Option.mem_toList.mpr htx))⟩

/-- States that every step keeps, and in which none yields the lane. -/
theorem silent_of_kept {P : σ → Prop} (hs : P s)
    (hstep : ∀ {s yielded s'}, P s → it.Step s yielded s' →
      P s' ∧ ∀ tx ∈ yielded, lane tx ≠ some l) : it.Silent lane l s := by
  intro yields s' run
  induction run with
  | done s => exact nofun
  | step first rest ih =>
      obtain ⟨hkept, hother⟩ := hstep hs first
      intro tx htx
      rcases List.mem_append.mp htx with htx | htx
      · exact hother tx (Option.mem_toList.mp htx)
      · exact ih hkept tx htx

end BestTransactions

/-! ## The iterator of the 2D pool -/

/-- `ExpiringNonceEvictionKey`, made for expiring-nonce transactions only. -/
structure ExpiringNonceKey extends ExpiringKey where
  isExpiring : transaction.isExpiringNonce = true

/-- `BestAA2dTransactions` without the invalid lanes.  The best key is the last one. -/
structure Snapshot where
  independent : List EvictionKey
  byId : List InternalTransaction
  expiringNonceOrder : List ExpiringNonceKey
  newTransactionReceiver : Option (List StoredTransaction)
  lastPriority : Option (Option ℕ)
  baseFee : ℕ

/-- `BestAA2dTransactions`. -/
structure Best extends Snapshot where
  invalid : List SequenceId

/-- `can_pay_base_fee`. -/
def canPayBaseFee (tx : PooledTransaction) (baseFee : ℕ) : Bool :=
  decide (baseFee ≤ tx.maxFeePerGas)

/-- `PoppedAA2dTransaction`, with the priority: an entry of `by_id`, or an expiring key. -/
inductive Popped
  | regular (e : InternalTransaction) (priority : Option ℕ)
  | expiring (key : ExpiringNonceKey)

namespace Snapshot

variable (s : Snapshot)

def lookup (id : TransactionId) : Option InternalTransaction :=
  s.byId.find? fun e => e.id = id

/-- `BTreeMap::insert` into `independent`. -/
def putIndependent (key : EvictionKey) : Snapshot :=
  { s with
    independent := insertKey EvictionKey.order key
      (removeKey EvictionKey.order key.order s.independent) }

/-- `try_recv`, with whether the transaction is processed or stashed. -/
def tryRecv : Option (StoredTransaction × Bool × Snapshot) :=
  match s.newTransactionReceiver with
  | some (tx :: rest) =>
      let priority := (tx.evictionKey s.baseFee).priority
      some (tx, s.lastPriority.all fun last => decide (rank priority ≤ rank last),
        { s with newTransactionReceiver := some rest })
  | _ => none

/-- `by_id.insert`, with the key of the transaction it replaces removed. -/
def overwrite (tx : StoredTransaction) : Snapshot :=
  { s with
    byId := ⟨tx, true⟩ :: s.byId.filter fun e => e.id ≠ tx.transaction.id
    independent := (s.lookup tx.transaction.id).elim s.independent fun previous =>
      removeKey EvictionKey.order (previous.inner.evictionKey s.baseFee) s.independent }

/-- What `add_new_transactions` does with a transaction. -/
def addNewTransaction (tx : StoredTransaction) (process : Bool) : Snapshot :=
  if hexpiring : tx.transaction.isExpiringNonce = true then
    if process && canPayBaseFee tx.transaction s.baseFee then
      { s with
        expiringNonceOrder := insertKey (·.order)
          ⟨⟨tx.evictionKey s.baseFee, tx.transaction⟩, hexpiring⟩ s.expiringNonceOrder }
    else s
  else
    let id := tx.transaction.id
    let s := s.overwrite tx
    -- only if no ancestor is tracked
    if process ∧ ((s.lookup ⟨id.seqId, id.nonce - 1⟩).isNone ∨ id.nonce = 0) then
      s.putIndependent ⟨id, tx.evictionKey s.baseFee⟩
    else s

/-- `add_new_transactions`, for a number of rounds. -/
def addNewTransactions : Snapshot → ℕ → Snapshot
  | s, 0 => s
  | s, rounds + 1 =>
      match s.tryRecv with
      | some (tx, process, s) => (s.addNewTransaction tx process).addNewTransactions rounds
      | none => s

def maxNewTransactionsPerBatch : ℕ := 16

def popBestRegular : Snapshot × Option Popped :=
  match s.independent.getLast? with
  | some key =>
      let s := { s with independent := s.independent.dropLast }
      match s.lookup key.txId with
      | some e =>
          ({ s with byId := s.byId.filter fun other => other.id ≠ key.txId },
            some (.regular e key.order.priority))
      | none => (s, none)
  | none => (s, none)

def popBestExpiringNonce : Snapshot × Option Popped :=
  ({ s with expiringNonceOrder := s.expiringNonceOrder.dropLast },
    s.expiringNonceOrder.getLast?.map .expiring)

def popBest : Snapshot × Option Popped :=
  match s.independent.getLast?, s.expiringNonceOrder.getLast? with
  | some regular, some expiring =>
      if regular.order.before expiring.order then s.popBestExpiringNonce else s.popBestRegular
  | some _, none => s.popBestRegular
  | none, some _ => s.popBestExpiringNonce
  | none, none => (s, none)

/-- The transaction after a yielded one becomes independent. -/
def unlock (id : TransactionId) : Snapshot :=
  let unlocks : TransactionId := ⟨id.seqId, saturatingSucc id.nonce⟩
  (s.lookup unlocks).elim s fun unlocked =>
    s.putIndependent ⟨unlocks, unlocked.inner.evictionKey s.baseFee⟩

/-- The priority of a yielded transaction is kept while there is a feed. -/
def yielded (priority : Option ℕ) : Snapshot :=
  if s.newTransactionReceiver.isSome then { s with lastPriority := some priority } else s

end Snapshot

namespace Best

/-- `next_tx_and_priority`, for a number of rounds of its loop. -/
def nextTxAndPriority : ℕ → Best → Best × Option (PooledTransaction × Option ℕ)
  | 0, best => (best, none)
  | rounds + 1, ⟨s, invalid⟩ =>
      match (s.addNewTransactions Snapshot.maxNewTransactionsPerBatch).popBest with
      | (s, none) => (⟨s, invalid⟩, none)
      | (s, some (.regular e priority)) =>
          if e.seqId ∈ invalid then nextTxAndPriority rounds ⟨s, invalid⟩
          else if canPayBaseFee e.inner.transaction s.baseFee then
            (⟨(s.unlock e.id).yielded priority, invalid⟩, some (e.inner.transaction, priority))
          else nextTxAndPriority rounds ⟨s, e.seqId :: invalid⟩
      | (s, some (.expiring key)) =>
          if canPayBaseFee key.transaction s.baseFee then
            (⟨s.yielded key.order.priority, invalid⟩, some (key.transaction, key.order.priority))
          else nextTxAndPriority rounds ⟨s, invalid⟩

def markInvalid (best : Best) (tx : PooledTransaction) : Best :=
  if tx.isExpiringNonce then best else { best with invalid := tx.seqId :: best.invalid }

/-- `BestTransactions` for `BestAA2dTransactions`.  The feed may grow, or lag and lose what was
in it. -/
def iterator (rounds : Best → ℕ) : BestTransactions Best (PooledTransaction × Option ℕ) where
  next best := nextTxAndPriority (rounds best) best
  markInvalid best next := best.markInvalid next.1
  changes best best' := ∃ feed, best' = { best with newTransactionReceiver := feed }

/-- The lane of a transaction of the pool; expiring-nonce transactions have none. -/
def laneOf (tx : PooledTransaction) : Option SequenceId :=
  if tx.isExpiringNonce then none else some tx.seqId

/-- An invalid lane stays invalid, and none of its transactions is yielded. -/
theorem nextTxAndPriority_invalid {best : Best} {seqId : SequenceId} {rounds : ℕ}
    (h : seqId ∈ best.invalid) :
    seqId ∈ (nextTxAndPriority rounds best).1.invalid ∧
      ∀ next ∈ (nextTxAndPriority rounds best).2, laneOf next.1 ≠ some seqId := by
  induction rounds generalizing best with
  | zero => exact ⟨h, nofun⟩
  | succ rounds ih =>
      unfold nextTxAndPriority
      split
      · exact ⟨h, nofun⟩
      · split
        · exact ih h
        · next hvalid =>
            split
            · refine ⟨h, ?_⟩
              rintro next ⟨⟩ hlane
              obtain rfl := Option.some.inj (Option.ite_none_left_eq_some.mp hlane).2
              exact hvalid h
            · exact ih (List.mem_cons_of_mem _ h)
      · next key _ =>
          split
          · refine ⟨h, ?_⟩
            rintro next ⟨⟩
            rw [laneOf, if_pos key.isExpiring]
            exact nofun
          · exact ih h

theorem iterator_final {rounds : Best → ℕ} : (iterator rounds).Final (laneOf ·.1) := by
  intro s tx seqId hlane
  obtain ⟨hregular, ⟨⟩⟩ := Option.ite_none_left_eq_some.mp hlane
  refine BestTransactions.silent_of_kept (P := fun best => tx.1.seqId ∈ best.invalid) ?_ ?_
  · change _ ∈ (s.markInvalid tx.1).invalid
    rw [markInvalid, if_neg hregular]
    exact List.mem_cons_self
  · intro best _ _ h hstep
    cases hstep with
    | next => exact nextTxAndPriority_invalid h
    | markInvalid next =>
        refine ⟨?_, nofun⟩
        change _ ∈ (best.markInvalid next.1).invalid
        unfold markInvalid
        split
        · exact h
        · exact List.mem_cons_of_mem _ h
    | changed hchange =>
        obtain ⟨feed, rfl⟩ := hchange
        exact ⟨h, nofun⟩

end Best

/-! ## The merged iterator -/

/-- The protocol pool: its iterator, and what is read of its transactions. -/
structure ProtocolPool (σ τ : Type) extends BestTransactions σ τ where
  sender : τ → Address
  priority : τ → ℕ → Option ℕ

/-- `MergeBestTransactions`, with one transaction of each pool fetched ahead. -/
structure Merge (σ τ : Type) where
  protocolPool : σ
  aa2dPool : Best
  nextProtocolPool : Option τ
  nextAa2dPool : Option (PooledTransaction × Option ℕ)
  baseFee : ℕ

inductive Lane
  | protocol (sender : Address)
  | aa2d (seqId : SequenceId)

namespace Merge

variable {σ τ : Type} (pool : ProtocolPool σ τ) (rounds : Best → ℕ)

/-- The lane of a merged transaction. -/
def lane : τ ⊕ PooledTransaction → Option Lane
  | .inl tx => some (.protocol (pool.sender tx))
  | .inr tx => (Best.laneOf tx).map .aa2d

/-- The first part of `next_best`: what is not there is fetched. -/
def fetch (m : Merge σ τ) : Merge σ τ :=
  let m := if m.nextProtocolPool.isNone then
      let (protocolPool, next) := pool.next m.protocolPool
      { m with protocolPool, nextProtocolPool := next }
    else m
  if m.nextAa2dPool.isNone then
    let (aa2dPool, next) := (Best.iterator rounds).next m.aa2dPool
    { m with aa2dPool, nextAa2dPool := next }
  else m

def takeProtocol (m : Merge σ τ) : Merge σ τ × Option (τ ⊕ PooledTransaction) :=
  ({ m with nextProtocolPool := none }, m.nextProtocolPool.map .inl)

def takeAa2d (m : Merge σ τ) : Merge σ τ × Option (τ ⊕ PooledTransaction) :=
  ({ m with nextAa2dPool := none }, m.nextAa2dPool.map (.inr ·.1))

def nextBest (m : Merge σ τ) : Merge σ τ × Option (τ ⊕ PooledTransaction) :=
  let m := m.fetch pool rounds
  match m.nextProtocolPool, m.nextAa2dPool with
  | none, none => (m, none)
  | some _, none => m.takeProtocol
  | none, some _ => m.takeAa2d
  | some tx, some (_, priority) =>
      if rank priority ≤ rank (pool.priority tx m.baseFee) then m.takeProtocol else m.takeAa2d

/-- `mark_invalid` goes to the iterator the transaction came from; what is fetched ahead stays. -/
def markInvalid (m : Merge σ τ) : τ ⊕ PooledTransaction → Merge σ τ
  | .inl tx => { m with protocolPool := pool.markInvalid m.protocolPool tx }
  | .inr tx => { m with aa2dPool := m.aa2dPool.markInvalid tx }

def iterator : BestTransactions (Merge σ τ) (τ ⊕ PooledTransaction) where
  next := nextBest pool rounds
  markInvalid := markInvalid pool
  changes m m' :=
    (∃ protocolPool, pool.changes m.protocolPool protocolPool ∧ m' = { m with protocolPool }) ∨
      ∃ aa2dPool, (Best.iterator rounds).changes m.aa2dPool aa2dPool ∧ m' = { m with aa2dPool }

/-- No transaction fetched ahead is of the lane. -/
def Clear (l : Lane) (m : Merge σ τ) : Prop :=
  (∀ tx ∈ m.nextProtocolPool, lane pool (.inl tx) ≠ some l) ∧
    ∀ next ∈ m.nextAa2dPool, lane pool (.inr next.1) ≠ some l

/-- Neither iterator yields the lane any more, and nothing of it is fetched ahead. -/
structure Quiet (l : Lane) (m : Merge σ τ) : Prop where
  protocol : pool.Silent (fun tx => lane pool (.inl tx)) l m.protocolPool
  aa2d : (Best.iterator rounds).Silent (fun next => lane pool (.inr next.1)) l m.aa2dPool
  clear : Clear pool l m

variable {pool rounds} {m : Merge σ τ} {l : Lane}

section Quiet

variable (h : Quiet pool rounds l m)

include h

theorem Quiet.fetch : Quiet pool rounds l (m.fetch pool rounds) := by
  have hprotocol := h.protocol.step (.next _)
  have haa2d := h.aa2d.step (.next _)
  unfold Merge.fetch
  dsimp only
  split <;> split
  · exact ⟨hprotocol.1, haa2d.1, hprotocol.2, haa2d.2⟩
  · exact ⟨hprotocol.1, h.aa2d, hprotocol.2, h.clear.2⟩
  · exact ⟨h.protocol, haa2d.1, h.clear.1, haa2d.2⟩
  · exact h

theorem Quiet.takeProtocol :
    Quiet pool rounds l m.takeProtocol.1 ∧ ∀ tx ∈ m.takeProtocol.2, lane pool tx ≠ some l := by
  refine ⟨⟨h.protocol, h.aa2d, nofun, h.clear.2⟩, fun tx htx => ?_⟩
  obtain ⟨next, hnext, rfl⟩ := Option.map_eq_some_iff.mp htx
  exact h.clear.1 next hnext

theorem Quiet.takeAa2d :
    Quiet pool rounds l m.takeAa2d.1 ∧ ∀ tx ∈ m.takeAa2d.2, lane pool tx ≠ some l := by
  refine ⟨⟨h.protocol, h.aa2d, h.clear.1, nofun⟩, fun tx htx => ?_⟩
  obtain ⟨next, hnext, rfl⟩ := Option.map_eq_some_iff.mp htx
  exact h.clear.2 next hnext

theorem Quiet.nextBest :
    Quiet pool rounds l (m.nextBest pool rounds).1 ∧
      ∀ tx ∈ (m.nextBest pool rounds).2, lane pool tx ≠ some l := by
  unfold Merge.nextBest
  dsimp only
  split
  · exact ⟨h.fetch, nofun⟩
  · exact h.fetch.takeProtocol
  · exact h.fetch.takeAa2d
  · split
    · exact h.fetch.takeProtocol
    · exact h.fetch.takeAa2d

theorem Quiet.silent : (iterator pool rounds).Silent (lane pool) l m := by
  refine BestTransactions.silent_of_kept h fun h hstep => ?_
  cases hstep with
  | next => exact h.nextBest
  | markInvalid tx =>
      refine ⟨?_, nofun⟩
      cases tx with
      | inl tx => exact ⟨(h.protocol.step (.markInvalid _ tx)).1, h.aa2d, h.clear⟩
      | inr tx => exact ⟨h.protocol, (h.aa2d.step (.markInvalid _ (tx, none))).1, h.clear⟩
  | changed hchange =>
      refine ⟨?_, nofun⟩
      rcases hchange with ⟨_, hchange, rfl⟩ | ⟨_, hchange, rfl⟩
      · exact ⟨(h.protocol.step (.changed hchange)).1, h.aa2d, h.clear⟩
      · exact ⟨h.protocol, (h.aa2d.step (.changed hchange)).1, h.clear⟩

end Quiet

/-- Marking a transaction invalid is final for its lane, whatever is called afterwards, if no
transaction of the lane is fetched ahead at that time. -/
theorem merge_invalidation_final (hfinal : pool.Final fun tx => some (pool.sender tx))
    {tx : τ ⊕ PooledTransaction} (hlane : lane pool tx = some l) (hclear : Clear pool l m) :
    (iterator pool rounds).Silent (lane pool) l (m.markInvalid pool tx) := by
  refine Quiet.silent ?_
  cases tx with
  | inl tx =>
      obtain rfl := Option.some.inj hlane
      refine ⟨fun _ _ run other hother hsame => ?_, fun _ _ _ other _ hother => ?_, hclear⟩
      · exact hfinal rfl run other hother
          (congrArg some (Lane.protocol.inj (Option.some.inj hsame)))
      · obtain ⟨_, -, hother⟩ := Option.map_eq_some_iff.mp hother
        cases hother
  | inr tx =>
      obtain ⟨seqId, hseqId, rfl⟩ := Option.map_eq_some_iff.mp hlane
      have hsilent : (Best.iterator rounds).Silent (Best.laneOf ·.1) seqId
          (m.aa2dPool.markInvalid tx) :=
        Best.iterator_final (show Best.laneOf (tx, none).1 = some seqId from hseqId)
      refine ⟨fun _ _ _ other _ => nofun, fun _ _ run other hother hsame => ?_, hclear⟩
      obtain ⟨_, hsame, ⟨⟩⟩ := Option.map_eq_some_iff.mp hsame
      exact hsilent run other hother hsame

/-! ### A late invalidation -/

/-- A protocol pool of one transaction. -/
def oneProtocolTx : ProtocolPool Bool Unit where
  next left := (false, if left then some () else none)
  markInvalid _ _ := false
  changes _ _ := False
  sender _ := 9
  priority _ _ := some 5

theorem oneProtocolTx_final : oneProtocolTx.Final fun tx => some (oneProtocolTx.sender tx) := by
  intro _ _ _ _
  refine BestTransactions.silent_of_kept (P := (· = false)) rfl ?_
  rintro _ _ _ rfl hstep
  cases hstep with
  | next | markInvalid => exact ⟨rfl, nofun⟩
  | changed hchange => exact hchange.elim

/-- The transactions of a lane. -/
def laneTx (nonce tip : ℕ) : PooledTransaction :=
  ⟨nonce, 1, 7, nonce, none, tip, tip, 1, by decide⟩

def lanePair : Merge Bool Unit where
  protocolPool := true
  aa2dPool := ⟨⟨[⟨(laneTx 0 10).id, ⟨some 10, 0⟩⟩],
    [⟨⟨0, laneTx 0 10⟩, true⟩, ⟨⟨1, laneTx 1 1⟩, true⟩], [], some [], none, 0⟩, []⟩
  nextProtocolPool := none
  nextAa2dPool := none
  baseFee := 0

/-- The second transaction of the lane is fetched, the protocol transaction is yielded, then the
first one, yielded before it, is marked invalid: the second is yielded all the same. -/
theorem merge_late_invalidation :
    (oneProtocolTx.Final fun tx => some (oneProtocolTx.sender tx)) ∧
      ∃ yields m, (iterator oneProtocolTx fun _ => 3).Run lanePair yields m ∧
        .inr (laneTx 0 10) ∈ yields ∧
        ¬ (iterator oneProtocolTx fun _ => 3).Silent (lane oneProtocolTx) (.aa2d ⟨1, 7⟩)
          (m.markInvalid oneProtocolTx (.inr (laneTx 0 10))) := by
  refine ⟨oneProtocolTx_final, _, _, .step (.next _) (.step (.next _) (.done _)),
    List.mem_cons_self, fun h => ?_⟩
  exact h (.step (.next _) (.done _)) (.inr (laneTx 1 1)) List.mem_cons_self rfl

/-- Marked before the next call, it is not. -/
theorem merge_invalidation_final_at_once :
    (iterator oneProtocolTx fun _ => 3).Silent (lane oneProtocolTx) (.aa2d ⟨1, 7⟩)
      ((lanePair.nextBest oneProtocolTx fun _ => 3).1.markInvalid oneProtocolTx
        (.inr (laneTx 0 10))) :=
  merge_invalidation_final oneProtocolTx_final rfl ⟨nofun, nofun⟩

end Merge
end Monotempo.Pool2d
