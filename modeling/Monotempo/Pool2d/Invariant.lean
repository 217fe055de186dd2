/-
  What the flags and tables of the pool say about its transactions.

  A transaction that is removed leaves a gap in its lane.  Until the transactions after it are
  demoted, flags are right only before the gap, so the invariant is about a pool with its gaps.
-/
import Monotempo.Pool2d.State

set_option autoImplicit false

namespace Monotempo.Pool2d

open Chain

variable {pending : Bool} {byId : List InternalTransaction} {tx : StoredTransaction}
  {ids : List TransactionId}

/-! ## The invariant -/

/-- The transaction is in `by_id`. -/
def Pool.Holds (s : Pool) (id : TransactionId) : Prop :=
  id ∈ s.byId.map InternalTransaction.id

/-- Every nonce from the on-chain one on up to that of the transaction is in the pool. -/
def Pool.Executable (s : Pool) (nonces : SequenceId → ℕ) (id : TransactionId) : Prop :=
  ∀ nonce, nonces id.seqId ≤ nonce → nonce ≤ id.nonce → s.Holds ⟨id.seqId, nonce⟩

/-- Keys for the eviction of queued transactions are those of queued transactions. -/
def Pool.Keyed (s : Pool) : Prop :=
  ∀ key ∈ s.queuedEvictionOrder, ∃ e ∈ s.byId,
    e.isPending = false ∧ key = EvictionKey.withBaseFee e.inner e.id s.baseFee

/-- The independent transaction of a lane is the one at its on-chain nonce, or one that is mined
and not removed yet. -/
structure Pool.Fronted (s : Pool) (nonces : SequenceId → ℕ) : Prop where
  present : ∀ e ∈ s.byId, e.nonce = nonces e.seqId → s.independent e.seqId = some e.inner
  stored : ∀ seqId tx, s.independent seqId = some tx →
    ∃ e ∈ s.byId, e.inner = tx ∧ e.seqId = seqId ∧ e.nonce ≤ nonces seqId

/-- A transaction comes before all gaps of its lane. -/
def Before (gaps : List TransactionId) (e : InternalTransaction) : Prop :=
  ∀ gap ∈ gaps, gap.seqId = e.seqId → e.nonce < gap.nonce

/-- Flags are right before the gaps. -/
def Pool.Flagged (s : Pool) (nonces : SequenceId → ℕ) (gaps : List TransactionId) : Prop :=
  ∀ e ∈ s.byId, nonces e.seqId ≤ e.nonce → Before gaps e →
    (e.isPending = true ↔ s.Executable nonces e.id)

section Tracking

variable [NonceSlots]

/-- The lanes of the pool are found by their slots. -/
structure Pool.Tracked (s : Pool) : Prop where
  lanes : ∀ e ∈ s.byId, s.slotToSeqId (NonceSlots.nonceKeySlot e.seqId) = some e.seqId
  slots : ∀ slot seqId, s.slotToSeqId slot = some seqId → NonceSlots.nonceKeySlot seqId = slot

/-- What holds of a pool whatever its flags are. -/
structure Stocked (s : Pool) : Prop where
  ids : (s.byId.map InternalTransaction.id).Nodup
  keyed : s.Keyed
  tracked : s.Tracked
  small : ∀ e ∈ s.byId, e.nonce < 2 ^ 64 - 1
  regular : ∀ e ∈ s.byId, e.inner.transaction.isExpiringNonce = false

/-- A pool with gaps that have not been dealt with. -/
structure Sound (nonces : SequenceId → ℕ) (gaps : List TransactionId) (s : Pool) : Prop where
  stocked : Stocked s
  fronted : s.Fronted nonces
  flagged : s.Flagged nonces gaps
  missing : ∀ gap ∈ gaps, nonces gap.seqId ≤ gap.nonce ∧ ¬ s.Holds gap

/-- No transaction is below the on-chain nonce of its lane. -/
def Pool.Current (s : Pool) (nonces : SequenceId → ℕ) : Prop :=
  ∀ e ∈ s.byId, nonces e.seqId ≤ e.nonce

end Tracking

/-! ## Reading the pool -/

variable {s s' : Pool} {nonces : SequenceId → ℕ} {gaps : List TransactionId}
  {e : InternalTransaction} {id : TransactionId} {seqId : SequenceId} {nonce : ℕ}

theorem InternalTransaction.eta_id (e : InternalTransaction) :
    (⟨e.seqId, e.nonce⟩ : TransactionId) = e.id :=
  rfl

theorem holds_of_mem (h : e ∈ s.byId) : s.Holds e.id := List.mem_map_of_mem h

theorem holds_iff : s.Holds id ↔ ∃ e ∈ s.byId, e.id = id := List.mem_map

theorem eq_of_id_eq (hids : (s.byId.map InternalTransaction.id).Nodup) {e' : InternalTransaction}
    (h : e ∈ s.byId) (h' : e' ∈ s.byId) (hid : e.id = e'.id) : e = e' :=
  List.inj_on_of_nodup_map hids h h' hid

theorem mem_of_lookup (h : s.lookup id = some e) : e ∈ s.byId ∧ e.id = id := by
  refine ⟨List.mem_of_find?_eq_some h, ?_⟩
  simpa using List.find?_some h

theorem mem_laneTxs {condition : ℕ → Bool} :
    e ∈ s.laneTxs seqId condition ↔ e ∈ s.byId ∧ e.seqId = seqId ∧ condition e.nonce = true := by
  rw [Pool.laneTxs, (List.perm_insertionSort _ _).mem_iff, List.mem_filter]
  simp

/-- Nonces of a lane are read in ascending order. -/
theorem pairwise_laneTxs (hids : (s.byId.map InternalTransaction.id).Nodup)
    (condition : ℕ → Bool) :
    (s.laneTxs seqId condition).Pairwise fun left right => left.nonce < right.nonce := by
  have hsorted : (s.laneTxs seqId condition).Pairwise fun left right =>
      left.nonce ≤ right.nonce := by
    exact List.pairwise_insertionSort _ _
  have hnodup : (s.laneTxs seqId condition).Nodup := by
    rw [Pool.laneTxs, (List.perm_insertionSort _ _).nodup_iff]
    exact (List.Nodup.of_map _ hids).filter _
  refine (hsorted.and hnodup).imp_of_mem fun {left right} hleft hright h => ?_
  refine Nat.lt_of_le_of_ne h.1 fun hnonce => h.2 ?_
  obtain ⟨hleft, hlane, -⟩ := mem_laneTxs.mp hleft
  obtain ⟨hright, hlane', -⟩ := mem_laneTxs.mp hright
  refine eq_of_id_eq hids hleft hright ?_
  rw [← left.eta_id, ← right.eta_id, hlane, hlane', hnonce]

theorem Pool.Executable.mono {id' : TransactionId} (h : s.Executable nonces id')
    (hlane : id.seqId = id'.seqId) (hle : id.nonce ≤ id'.nonce) : s.Executable nonces id := by
  intro nonce hfrom hto
  rw [hlane] at hfrom ⊢
  exact h nonce hfrom (Nat.le_trans hto hle)

/-! ## What the invariant is about -/

/-- The parts of the pool that the invariant is about. -/
structure View where
  byId : List InternalTransaction
  independent : SequenceId → Option StoredTransaction
  queuedEvictionOrder : List EvictionKey
  slotToSeqId : ℕ → Option SequenceId
  baseFee : ℕ

def Pool.view (s : Pool) : View :=
  ⟨s.byId, s.independent, s.queuedEvictionOrder, s.slotToSeqId, s.baseFee⟩

@[simp] theorem view_removeFromSubpool {size : ℕ} :
    (s.removeFromSubpool pending size).view = s.view := by
  unfold Pool.removeFromSubpool
  split <;> rfl

@[simp] theorem view_decrementSenderCount {sender : Address} :
    (s.decrementSenderCount sender).view = s.view := rfl

section Congruence

variable [NonceSlots]

@[simp] theorem view_removeExpiringNoncePendingTx :
    (s.removeExpiringNoncePendingTx tx).view = s.view := by
  unfold Pool.removeExpiringNoncePendingTx
  split <;> rfl

@[simp] theorem view_removeExpiringNonceTx {hash : B256} :
    (s.removeExpiringNonceTx hash).1.view = s.view := by
  unfold Pool.removeExpiringNonceTx
  split
  · exact view_removeExpiringNoncePendingTx
  · rfl

@[simp] theorem view_evictWorstExpiringNonceTx : s.evictWorstExpiringNonceTx.1.view = s.view := by
  unfold Pool.evictWorstExpiringNonceTx
  split
  · dsimp only
    split
    · exact view_removeExpiringNoncePendingTx
    · rfl
  · rfl

/-- Nothing of this is about independent transactions. -/
theorem Stocked.of_view (h : Stocked s) {independent : SequenceId → Option StoredTransaction}
    (hview : s'.view = { s.view with independent := independent }) : Stocked s' := by
  obtain ⟨hbyId, -, hqueued, hslots, hfee⟩ := View.mk.injEq .. ▸ hview
  obtain ⟨ids, keyed, ⟨lanes, slots⟩, small, regular⟩ := h
  refine ⟨?_, ?_, ⟨?_, ?_⟩, ?_, ?_⟩
  · rwa [hbyId]
  · unfold Pool.Keyed
    rwa [hbyId, hqueued, hfee]
  · rwa [hbyId, hslots]
  · rwa [hslots]
  · rwa [hbyId]
  · rwa [hbyId]

theorem Stocked.congr (h : Stocked s) (hview : s'.view = s.view) : Stocked s' :=
  @of_view s s' _ h s.independent hview

theorem Stocked.insertIndependent (h : Stocked s) :
    Stocked (s.insertIndependent tx) :=
  h.of_view rfl

theorem Sound.congr (h : Sound nonces gaps s) (hview : s'.view = s.view) :
    Sound nonces gaps s' := by
  have hstocked := h.stocked.congr hview
  obtain ⟨hbyId, hindependent, -, -, -⟩ := View.mk.injEq .. ▸ hview
  obtain ⟨-, fronted, flagged, missing⟩ := h
  refine ⟨hstocked, ?_, ?_, ?_⟩
  · refine ⟨?_, ?_⟩
    · rw [hbyId, hindependent]
      exact fronted.present
    · rw [hbyId, hindependent]
      exact fronted.stored
  · unfold Pool.Flagged Pool.Executable Pool.Holds
    rwa [hbyId]
  · unfold Pool.Holds
    rwa [hbyId]

end Congruence

/-! ## Changes of flags -/

/-- The transactions are the same, with other flags. -/
def SameTxs (s s' : Pool) : Prop :=
  s'.byId.map InternalTransaction.inner = s.byId.map InternalTransaction.inner

namespace SameTxs

section SameTransactions

variable (h : SameTxs s s')

include h

theorem trans {s'' : Pool} (h' : SameTxs s' s'') : SameTxs s s'' :=
  Eq.trans h' h

theorem symm : SameTxs s' s := Eq.symm h

theorem map_id :
    s'.byId.map InternalTransaction.id = s.byId.map InternalTransaction.id := by
  have hids := congrArg (List.map fun tx => tx.transaction.id) h
  rwa [List.map_map, List.map_map] at hids

theorem holds_iff : s'.Holds id ↔ s.Holds id := by
  unfold Pool.Holds
  rw [h.map_id]

theorem executable_iff :
    s'.Executable nonces id ↔ s.Executable nonces id := by
  unfold Pool.Executable Pool.Holds
  rw [h.map_id]

/-- A transaction is in both pools, with a flag of its own in each. -/
theorem exists_mem (he : e ∈ s'.byId) :
    ∃ flag, { e with isPending := flag } ∈ s.byId := by
  have hmem : e.inner ∈ s.byId.map InternalTransaction.inner :=
    h ▸ List.mem_map_of_mem he
  obtain ⟨⟨_, flag⟩, hold, rfl⟩ := List.mem_map.mp hmem
  exact ⟨flag, hold⟩

theorem current (hcurrent : s.Current nonces) : s'.Current nonces := by
  intro e he
  obtain ⟨flag, hold⟩ := h.exists_mem he
  exact hcurrent { e with isPending := flag } hold

theorem stocked [NonceSlots] (hstocked : Stocked s) (hslots : s'.slotToSeqId = s.slotToSeqId)
    (hkeyed : s'.Keyed) : Stocked s' := by
  refine ⟨?_, hkeyed, ⟨fun e he => ?_, ?_⟩, fun e he => ?_, fun e he => ?_⟩
  · rw [h.map_id]
    exact hstocked.ids
  · obtain ⟨flag, hold⟩ := h.exists_mem he
    rw [hslots]
    exact hstocked.tracked.lanes { e with isPending := flag } hold
  · rw [hslots]
    exact hstocked.tracked.slots
  · obtain ⟨flag, hold⟩ := h.exists_mem he
    exact hstocked.small { e with isPending := flag } hold
  · obtain ⟨flag, hold⟩ := h.exists_mem he
    exact hstocked.regular { e with isPending := flag } hold

end SameTransactions

end SameTxs

/-- At most flags and eviction keys are different. -/
structure Reflagged (s s' : Pool) : Prop where
  same : SameTxs s s'
  independent : s'.independent = s.independent
  slotToSeqId : s'.slotToSeqId = s.slotToSeqId
  baseFee : s'.baseFee = s.baseFee

namespace Reflagged

theorem refl (s : Pool) : Reflagged s s := ⟨rfl, rfl, rfl, rfl⟩

theorem trans {s'' : Pool} (h : Reflagged s s') (h' : Reflagged s' s'') : Reflagged s s'' :=
  ⟨h.same.trans h'.same, h'.independent.trans h.independent,
    h'.slotToSeqId.trans h.slotToSeqId, h'.baseFee.trans h.baseFee⟩

theorem fronted (h : Reflagged s s') (hfronted : s.Fronted nonces) : s'.Fronted nonces := by
  refine ⟨fun e he hnonce => ?_, fun seqId tx htx => ?_⟩
  · obtain ⟨flag, hold⟩ := h.same.exists_mem he
    rw [h.independent]
    exact hfronted.present { e with isPending := flag } hold hnonce
  · rw [h.independent] at htx
    obtain ⟨e, he, hinner, hlane, hle⟩ := hfronted.stored seqId tx htx
    obtain ⟨flag, hnew⟩ := h.same.symm.exists_mem he
    exact ⟨_, hnew, hinner, hlane, hle⟩

end Reflagged

/-- Transactions with a flag set for some of them. -/
def flagAll (ids : List TransactionId) (pending : Bool) (byId : List InternalTransaction) :
    List InternalTransaction :=
  byId.map fun e => if e.id ∈ ids then { e with isPending := pending } else e

theorem map_inner_flagAll :
    (flagAll ids pending byId).map InternalTransaction.inner =
      byId.map InternalTransaction.inner := by
  rw [flagAll, List.map_map]
  refine List.map_congr_left fun e _ => ?_
  show (if e.id ∈ ids then { e with isPending := pending } else e).inner = e.inner
  split <;> rfl

theorem mem_flagAll :
    e ∈ flagAll ids pending byId ↔
      (e ∈ byId ∧ e.id ∉ ids) ∨ (e.isPending = pending ∧ e.id ∈ ids ∧
        ∃ flag, { e with isPending := flag } ∈ byId) := by
  unfold flagAll
  rw [List.mem_map]
  constructor
  · rintro ⟨old, hold, rfl⟩
    by_cases hid : old.id ∈ ids
    · rw [if_pos hid]
      exact .inr ⟨rfl, hid, old.isPending, hold⟩
    · rw [if_neg hid]
      exact .inl ⟨hold, hid⟩
  · rintro (⟨he, hid⟩ | ⟨rfl, hid, flag, hold⟩)
    · exact ⟨e, he, if_neg hid⟩
    · exact ⟨_, hold, if_pos hid⟩

theorem flagAll_nil :
    flagAll [] pending byId = byId := by
  unfold flagAll
  simp

theorem flagAll_flagAll {ids' : List TransactionId} :
    flagAll ids' pending (flagAll ids pending byId) = flagAll (ids ++ ids') pending byId := by
  unfold flagAll
  rw [List.map_map]
  refine List.map_congr_left fun e _ => ?_
  rw [Function.comp_apply]
  by_cases hid : e.id ∈ ids
  · rw [if_pos hid, if_pos (List.mem_append_left ids' hid)]
    split <;> rfl
  · rw [if_neg hid]
    by_cases hid' : e.id ∈ ids'
    · rw [if_pos hid', if_pos (List.mem_append_right ids hid')]
    · rw [if_neg hid', if_neg (by simp [hid, hid'])]

theorem setPending_byId :
    (s.setPending id pending).byId = flagAll [id] pending s.byId := by
  unfold Pool.setPending flagAll
  simp only [List.mem_singleton]

theorem view_setPending :
    (s.setPending id pending).view = { s.view with byId := flagAll [id] pending s.byId } := by
  rw [← setPending_byId]
  rfl

/-! ### Keys -/

section Keys

variable {α : Type} {order : α → OrderKey} {key k : α} {keys : List α}

theorem mem_insertKey (h : k ∈ insertKey order key keys) : k = key ∨ k ∈ keys := by
  induction keys with
  | nil => exact .inl (List.mem_singleton.mp h)
  | cons first rest ih =>
    unfold insertKey at h
    split at h
    · exact .inr h
    · split at h
      · exact List.mem_cons.mp h
      · rcases List.mem_cons.mp h with rfl | h
        · exact .inr List.mem_cons_self
        · exact (ih h).imp id (List.mem_cons_of_mem first)

theorem mem_removeKey {removed : OrderKey} :
    k ∈ removeKey order removed keys ↔ k ∈ keys ∧ order k ≠ removed := by
  unfold removeKey
  simp

end Keys

/-- The pool has the transaction, whatever its flag. -/
def Pool.Stores (s : Pool) (tx : StoredTransaction) : Prop :=
  ∃ flag, (⟨tx, flag⟩ : InternalTransaction) ∈ s.byId

theorem stores_of_mem (h : e ∈ s.byId) : s.Stores e.inner := ⟨e.isPending, h⟩

theorem SameTxs.stores (h : SameTxs s s') (hstores : s.Stores tx) :
    s'.Stores tx := by
  obtain ⟨flag, hmem⟩ := hstores
  exact h.symm.exists_mem hmem

theorem markPending_byId : (s.markPending e).byId = flagAll [e.id] true s.byId := setPending_byId

theorem markQueued_byId : (s.markQueued e).byId = flagAll [e.id] false s.byId := setPending_byId

theorem reflagged_markPending : Reflagged s (s.markPending e) := by
  refine ⟨?_, rfl, rfl, rfl⟩
  rw [SameTxs, markPending_byId, map_inner_flagAll]

theorem reflagged_markQueued : Reflagged s (s.markQueued e) := by
  refine ⟨?_, rfl, rfl, rfl⟩
  rw [SameTxs, markQueued_byId, map_inner_flagAll]

theorem inner_eq_of_id_eq (hids : (s.byId.map InternalTransaction.id).Nodup)
    {old : InternalTransaction} (hold : old ∈ s.byId) (hstores : s.Stores e.inner)
    (hid : old.id = e.id) : old.inner = e.inner := by
  obtain ⟨flag, hmem⟩ := hstores
  rw [eq_of_id_eq hids hold hmem hid]

section Marks

variable [NonceSlots]

/-- The key of a transaction that becomes pending is taken out. -/
theorem stocked_markPending (h : Stocked s) (hstores : s.Stores e.inner) :
    Stocked (s.markPending e) := by
  refine reflagged_markPending.same.stocked h rfl fun key hkey => ?_
  obtain ⟨hkey, horder⟩ := mem_removeKey.mp hkey
  obtain ⟨old, hold, hflag, rfl⟩ := h.keyed key hkey
  refine ⟨old, ?_, hflag, rfl⟩
  rw [markPending_byId, mem_flagAll]
  refine .inl ⟨hold, fun hid => horder ?_⟩
  have hinner := inner_eq_of_id_eq h.ids hold hstores (List.mem_singleton.mp hid)
  show old.inner.evictionKey s.baseFee = e.inner.evictionKey s.baseFee
  rw [hinner]

/-- The key of a transaction that becomes queued is put in. -/
theorem stocked_markQueued (h : Stocked s) (hstores : s.Stores e.inner) :
    Stocked (s.markQueued e) := by
  refine reflagged_markQueued.same.stocked h rfl fun key hkey => ?_
  rcases mem_insertKey hkey with rfl | hkey
  · refine ⟨{ e with isPending := false }, ?_, rfl, rfl⟩
    rw [markQueued_byId, mem_flagAll]
    exact .inr ⟨rfl, List.mem_singleton_self _, hstores⟩
  · obtain ⟨old, hold, hflag, rfl⟩ := h.keyed key hkey
    refine ⟨old, ?_, hflag, rfl⟩
    rw [markQueued_byId, mem_flagAll]
    by_cases hid : old.id ∈ [e.id]
    · exact .inr ⟨hflag, hid, old.isPending, hold⟩
    · exact .inl ⟨hold, hid⟩

/-- Flags set one after the other. -/
theorem foldl_mark {mark : Pool → InternalTransaction → Pool}
    (hreflagged : ∀ s e, Reflagged s (mark s e))
    (hbyId : ∀ s e, (mark s e).byId = flagAll [e.id] pending s.byId)
    (hstocked : ∀ s e, Stocked s → s.Stores e.inner → Stocked (mark s e))
    {entries : List InternalTransaction} (hentries : ∀ e ∈ entries, s.Stores e.inner)
    (h : Stocked s) :
    Reflagged s (entries.foldl mark s) ∧ Stocked (entries.foldl mark s) ∧
      (entries.foldl mark s).byId =
        flagAll (entries.map InternalTransaction.id) pending s.byId := by
  induction entries generalizing s with
  | nil => exact ⟨.refl s, h, flagAll_nil.symm⟩
  | cons e entries ih =>
    have hstep := hreflagged s e
    have hrest : ∀ other ∈ entries, (mark s e).Stores other.inner := fun other hother =>
      hstep.same.stores (hentries other (List.mem_cons_of_mem e hother))
    obtain ⟨hrun, hend, hflags⟩ :=
      ih hrest (hstocked s e h (hentries e List.mem_cons_self))
    refine ⟨hstep.trans hrun, hend, ?_⟩
    rw [List.foldl_cons, hflags, hbyId, flagAll_flagAll]
    rfl

end Marks

end Monotempo.Pool2d
