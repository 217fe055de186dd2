/-
  The pool above its limits.
-/
import Monotempo.Pool2d.Removal

set_option autoImplicit false

namespace Monotempo.Pool2d

open Chain

variable [NonceSlots] {s s' : Pool} {nonces : SequenceId → ℕ} {e : InternalTransaction}
  {id : TransactionId} {seqId : SequenceId}

/-! ## What eviction keeps -/

variable {fuel : ℕ}

section Evicting

variable (h : Settled nonces s)

include h

theorem Settled.evict2dPendingTx :
    Settled nonces (s.evict2dPendingTx id).1 := by
  unfold Pool.evict2dPendingTx
  rcases removeTransactionById_cases s id with ⟨hremoved, -⟩ | ⟨e, he, rfl, hremoved⟩
  · rw [hremoved]
    exact h
  · rw [hremoved]
    exact h.removeEntry_demote he

theorem Settled.evictOnePending : Settled nonces s.evictOnePending.1 := by
  unfold Pool.evictOnePending
  split
  · split
    · exact h.evict2dPendingTx
    · exact h.congr view_evictWorstExpiringNonceTx
  · exact h.evict2dPendingTx
  · exact h.congr view_evictWorstExpiringNonceTx
  · exact h

theorem Settled.evictPendingLoop :
    Settled nonces (s.evictPendingLoop fuel) := by
  induction fuel generalizing s with
  | zero => exact h
  | succ fuel ih =>
    unfold Pool.evictPendingLoop
    split
    · dsimp only
      split
      · exact ih h.evictOnePending
      · exact h.evictOnePending
    · exact h

/-- Nothing after a queued transaction is pending. -/
theorem Settled.removeQueued (he : e ∈ s.byId) (hqueued : e.isPending = false) :
    Settled nonces (s.removeEntry e) := by
  refine ⟨(h.sound.removeEntry he (h.current e he)).close fun other hother gap hgap hlane hle => ?_,
    h.current.removeEntry⟩
  obtain ⟨hother, -⟩ := mem_removeEntry.mp hother
  obtain rfl := List.mem_singleton.mp hgap
  refine Bool.eq_false_iff.mpr fun hpending => ?_
  have hexecutable := (h.sound.flagged other hother (h.current other hother) nofun).mp hpending
  have hfirst := (h.sound.flagged e he (h.current e he) nofun).mpr (hexecutable.mono hlane hle)
  rw [hqueued] at hfirst
  cases hfirst

theorem Settled.evictQueuedLoop :
    Settled nonces (s.evictQueuedLoop fuel) := by
  induction fuel generalizing s with
  | zero => exact h
  | succ fuel ih =>
    unfold Pool.evictQueuedLoop
    split
    · cases hkey : s.queuedEvictionOrder.head? with
      | none => exact h
      | some key =>
        -- the first key is that of a queued transaction
        obtain ⟨e, he, hqueued, rfl⟩ :=
          h.sound.stocked.keyed key (List.mem_of_mem_head? hkey)
        dsimp only
        rcases removeTransactionById_cases s e.id with
          ⟨-, hmissing⟩ | ⟨other, hother, hid, hremoved⟩
        · exact absurd (holds_of_mem he) hmissing
        · obtain rfl := eq_of_id_eq h.sound.stocked.ids hother he hid
          have hkey_id : (EvictionKey.withBaseFee other.inner other.id s.baseFee).txId =
              other.id := rfl
          rw [hkey_id, hremoved]
          exact ih (h.removeQueued hother hqueued)
    · exact h

theorem Settled.evictLowestPriority {evictPending : Bool} :
    Settled nonces (s.evictLowestPriority evictPending) := by
  unfold Pool.evictLowestPriority
  split
  · exact h.evictPendingLoop
  · exact h.evictQueuedLoop

theorem Settled.discard : Settled nonces s.discard :=
  h.evictLowestPriority.evictLowestPriority.evictLowestPriority

end Evicting

/-! ## The loops end

There is one transaction less in the pool after every round, so more rounds change nothing. -/

theorem evictQueuedLoop_fuel {fuel' : ℕ} (hfuel : s.byId.length < fuel)
    (hfuel' : s.byId.length < fuel') : s.evictQueuedLoop fuel = s.evictQueuedLoop fuel' := by
  induction fuel generalizing s fuel' with
  | zero => cases hfuel
  | succ fuel ih =>
    obtain ⟨fuel', rfl⟩ := Nat.exists_eq_succ_of_ne_zero (Nat.ne_zero_of_lt hfuel')
    unfold Pool.evictQueuedLoop
    split
    · cases s.queuedEvictionOrder.head? with
      | none => rfl
      | some key =>
        dsimp only
        rcases removeTransactionById_cases s key.txId with ⟨hremoved, -⟩ | ⟨e, he, -, hremoved⟩
        · rw [hremoved]
        · rw [hremoved]
          have hlength := length_removeEntry_lt he
          dsimp only
          exact ih (by omega) (by omega)
    · rfl

/-- The number of transactions. -/
def Pool.count (s : Pool) : ℕ := s.byId.length + s.expiringNonceTxs.length

omit [NonceSlots] in
theorem count_removeFromSubpool {pending : Bool} {size : ℕ} :
    (s.removeFromSubpool pending size).count = s.count := by
  unfold Pool.removeFromSubpool
  split <;> rfl

omit [NonceSlots] in
theorem count_removeIndependent {nonce : Option ℕ} :
    (s.removeIndependent seqId nonce).count = s.count := by
  unfold Pool.removeIndependent
  split
  · split <;> rfl
  · rfl

theorem count_removeEntry_lt (he : e ∈ s.byId) : (s.removeEntry e).count < s.count := by
  have hcount : (s.removeEntry e).count =
      (s.byId.filter fun other => other.id ≠ e.id).length + s.expiringNonceTxs.length := by
    change (Pool.removeFromSubpool _ _ _).count = _
    rw [count_removeFromSubpool]
    change (Pool.removeIndependent _ _ _).count = _
    rw [count_removeIndependent]
    unfold Pool.removeEvictionKey
    cases e.isPending with
    | true | false => split <;> rfl
  have hlength := length_removeEntry_lt he
  rw [removeEntry_byId] at hlength
  rw [hcount, Pool.count]
  omega

omit [NonceSlots] in
theorem count_demoteDescendants : (s.demoteDescendants id).count = s.count := by
  unfold Pool.demoteDescendants Pool.demoteFromNonce
  generalize (s.descendantTxsExclusive _).filter _ = entries
  induction entries generalizing s with
  | nil => rfl
  | cons e entries ih =>
    rw [List.foldl_cons, ih, Pool.count, markQueued_byId, flagAll, List.length_map]
    rfl

variable {tx : StoredTransaction}

omit [NonceSlots] in
theorem length_dropExpiring_lt {hash : B256} (h : s.lookupExpiring hash = some tx) :
    (s.dropExpiring hash).expiringNonceTxs.length < s.expiringNonceTxs.length := by
  refine List.length_filter_lt_length_iff_exists.mpr ⟨tx, List.mem_of_find?_eq_some h, ?_⟩
  simpa using List.find?_some h

theorem count_removeExpiringNoncePendingTx :
    (s.removeExpiringNoncePendingTx tx).count = s.count := by
  unfold Pool.removeExpiringNoncePendingTx
  cases tx.transaction.expiringNonceHash <;> rfl

theorem count_evictOnePending_lt {tx : PooledTransaction} (h : s.evictOnePending.2 = some tx) :
    s.evictOnePending.1.count < s.count := by
  have hregular : ∀ id, (s.evict2dPendingTx id).2 = some tx →
      (s.evict2dPendingTx id).1.count < s.count := by
    intro id hevicted
    unfold Pool.evict2dPendingTx at hevicted ⊢
    rcases removeTransactionById_cases s id with ⟨hremoved, -⟩ | ⟨e, he, -, hremoved⟩
    · rw [hremoved] at hevicted
      cases hevicted
    · rw [hremoved]
      rw [count_demoteDescendants]
      exact count_removeEntry_lt he
  have hexpiring : s.evictWorstExpiringNonceTx.2 = some tx →
      s.evictWorstExpiringNonceTx.1.count < s.count := by
    intro hevicted
    unfold Pool.evictWorstExpiringNonceTx at hevicted ⊢
    cases horder : s.expiringNonceEvictionOrder with
    | nil =>
      rw [horder] at hevicted
      cases hevicted
    | cons key rest =>
      rw [horder] at hevicted
      dsimp only at hevicted ⊢
      split at hevicted
      · next worst hworst =>
        rw [count_removeExpiringNoncePendingTx]
        exact Nat.add_lt_add_left (length_dropExpiring_lt hworst) s.byId.length
      · cases hevicted
  unfold Pool.evictOnePending at h ⊢
  split at h
  · split at h
    · next hbefore =>
      rw [if_pos hbefore]
      exact hregular _ h
    · next hbefore =>
      rw [if_neg hbefore]
      exact hexpiring h
  · exact hregular _ h
  · exact hexpiring h
  · cases h

theorem evictPendingLoop_fuel {fuel' : ℕ} (hfuel : s.count < fuel) (hfuel' : s.count < fuel') :
    s.evictPendingLoop fuel = s.evictPendingLoop fuel' := by
  induction fuel generalizing s fuel' with
  | zero => cases hfuel
  | succ fuel ih =>
    obtain ⟨fuel', rfl⟩ := Nat.exists_eq_succ_of_ne_zero (Nat.ne_zero_of_lt hfuel')
    unfold Pool.evictPendingLoop
    split
    · dsimp only
      cases hevicted : s.evictOnePending.2 with
      | none => rfl
      | some tx =>
        have hcount := count_evictOnePending_lt hevicted
        exact ih (by omega) (by omega)
    · rfl

end Monotempo.Pool2d
