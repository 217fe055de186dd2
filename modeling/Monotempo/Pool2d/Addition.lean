/-
  A transaction enters the pool.

  The scan of the lane stops at the first transaction after the new one that is pending.  That is
  right: such a transaction was executable before, so the new one replaces another.
-/
import Monotempo.Pool2d.Eviction
import Monotempo.Pool2d.Lane

set_option autoImplicit false

namespace Monotempo.Pool2d

open Chain Function

variable [NonceSlots] {s s' : Pool} {nonces : SequenceId → ℕ} {e entry : InternalTransaction}
  {id : TransactionId}

/-! ## The new entry -/

/-- A pool with a new transaction, in place of the one with its identifier. -/
structure Inserted (entry : InternalTransaction) (s s' : Pool) : Prop where
  byId : s'.byId = entry :: s.byId.filter fun other => other.id ≠ entry.id
  independent : s'.independent = s.independent
  slots : s'.slotToSeqId =
    update s.slotToSeqId (NonceSlots.nonceKeySlot entry.seqId) (some entry.seqId)
  /-- keys are those of the other queued transactions -/
  keys : ∀ key ∈ s'.queuedEvictionOrder, ∃ other ∈ s.byId, other.id ≠ entry.id ∧
    other.isPending = false ∧ key = EvictionKey.withBaseFee other.inner other.id s'.baseFee

theorem insertEntry_none (h : Stocked s) (hlookup : s.lookup entry.id = none) :
    Inserted entry s (s.insertEntry entry none) := by
  have hfresh : ∀ other ∈ s.byId, other.id ≠ entry.id := fun other hother hid =>
    List.find?_eq_none.mp hlookup other hother (decide_eq_true hid)
  have hview : (s.insertEntry entry none).view =
      ⟨entry :: s.byId, s.independent, s.queuedEvictionOrder,
        update s.slotToSeqId (NonceSlots.nonceKeySlot entry.seqId) (some entry.seqId),
        s.baseFee⟩ := by
    unfold Pool.insertEntry
    dsimp only
    rw [if_pos entry.inner.transaction.is2d]
    rfl
  obtain ⟨hbyId, hindependent, hkeys, hslots, hfee⟩ := View.mk.injEq .. ▸ hview
  refine ⟨?_, hindependent, hslots, fun key hkey => ?_⟩
  · rw [hbyId, List.filter_eq_self.mpr fun other hother => decide_eq_true (hfresh other hother)]
  · rw [hkeys] at hkey
    obtain ⟨other, hother, hqueued, hkey⟩ := h.keyed key hkey
    rw [hfee]
    exact ⟨other, hother, hfresh other hother, hqueued, hkey⟩

theorem insertEntry_some (h : Stocked s) {old : InternalTransaction}
    (hlookup : s.lookup entry.id = some old) :
    Inserted entry s (s.insertEntry entry (some old)) := by
  obtain ⟨hold, hid⟩ := mem_of_lookup hlookup
  have hview : (s.insertEntry entry (some old)).view =
      ⟨entry :: s.byId.filter fun other => other.id ≠ entry.id, s.independent, keysWithout s old,
        update s.slotToSeqId (NonceSlots.nonceKeySlot entry.seqId) (some entry.seqId),
        s.baseFee⟩ := by
    unfold Pool.insertEntry Pool.removeFromSubpool Pool.removeEvictionKey keysWithout
    dsimp only
    rw [if_pos entry.inner.transaction.is2d]
    cases old.isPending <;> rfl
  obtain ⟨hbyId, hindependent, hkeys, hslots, hfee⟩ := View.mk.injEq .. ▸ hview
  refine ⟨hbyId, hindependent, hslots, fun key hkey => ?_⟩
  rw [hkeys] at hkey
  rw [hfee, ← hid]
  exact keyed_keysWithout h.ids h.keyed hold hkey

variable {s'' : Pool}

namespace Inserted

section Inserting

variable (h : Inserted entry s s')

include h

theorem mem_iff :
    e ∈ s'.byId ↔ e = entry ∨ (e ∈ s.byId ∧ e.id ≠ entry.id) := by
  rw [h.byId, List.mem_cons, List.mem_filter, decide_eq_true_iff]

theorem holds_iff : s'.Holds id ↔ id = entry.id ∨ s.Holds id := by
  rw [Pool2d.holds_iff, Pool2d.holds_iff]
  constructor
  · rintro ⟨e, he, rfl⟩
    rcases h.mem_iff.mp he with rfl | ⟨he, -⟩
    · exact .inl rfl
    · exact .inr ⟨e, he, rfl⟩
  · rintro (rfl | ⟨e, he, rfl⟩)
    · exact ⟨entry, h.mem_iff.mpr (.inl rfl), rfl⟩
    · by_cases hid : e.id = entry.id
      · exact ⟨entry, h.mem_iff.mpr (.inl rfl), hid.symm⟩
      · exact ⟨e, h.mem_iff.mpr (.inr ⟨he, hid⟩), rfl⟩

theorem stocked (hstocked : Stocked s) (hsmall : entry.nonce < 2 ^ 64 - 1)
    (hregular : entry.inner.transaction.isExpiringNonce = false) : Stocked s' := by
  refine ⟨?_, fun key hkey => ?_, ⟨fun e he => ?_, fun slot seqId hslot => ?_⟩, fun e he => ?_,
    fun e he => ?_⟩
  · rw [h.byId, List.map_cons, List.nodup_cons]
    refine ⟨fun hmem => ?_, hstocked.ids.sublist (List.filter_sublist.map _)⟩
    obtain ⟨other, hother, hid⟩ := List.mem_map.mp hmem
    exact of_decide_eq_true (List.mem_filter.mp hother).2 hid
  · obtain ⟨other, hother, hid, hqueued, hkey⟩ := h.keys key hkey
    exact ⟨other, h.mem_iff.mpr (.inr ⟨hother, hid⟩), hqueued, hkey⟩
  · rw [h.slots]
    rcases h.mem_iff.mp he with rfl | ⟨he, -⟩
    · exact update_self ..
    · by_cases hlane : e.seqId = entry.seqId
      · rw [hlane, update_self]
      · rw [update_of_ne fun hslot => hlane (NonceSlots.nonceKeySlot_injective hslot)]
        exact hstocked.tracked.lanes e he
  · rw [h.slots] at hslot
    by_cases hsame : slot = NonceSlots.nonceKeySlot entry.seqId
    · subst hsame
      rw [update_self, Option.some.injEq] at hslot
      rw [hslot]
    · rw [update_of_ne hsame] at hslot
      exact hstocked.tracked.slots slot seqId hslot
  · rcases h.mem_iff.mp he with rfl | ⟨he, -⟩
    · exact hsmall
    · exact hstocked.small e he
  · rcases h.mem_iff.mp he with rfl | ⟨he, -⟩
    · exact hregular
    · exact hstocked.regular e he

theorem current (hcurrent : s.Current nonces) (hentry : nonces entry.seqId ≤ entry.nonce) :
    s'.Current nonces := by
  intro e he
  rcases h.mem_iff.mp he with rfl | ⟨he, -⟩
  · exact hentry
  · exact hcurrent e he

/-- The independent transaction stays if the new one is not at the on-chain nonce. -/
theorem fronted (hfronted : s.Fronted nonces) (hentry : nonces entry.seqId < entry.nonce) :
    s'.Fronted nonces := by
  refine ⟨fun e he hnonce => ?_, fun seqId tx htx => ?_⟩
  · rw [h.independent]
    rcases h.mem_iff.mp he with rfl | ⟨he, -⟩
    · omega
    · exact hfronted.present e he hnonce
  · rw [h.independent] at htx
    obtain ⟨e, he, hinner, rfl, hle⟩ := hfronted.stored seqId tx htx
    refine ⟨e, h.mem_iff.mpr (.inr ⟨he, fun hid => ?_⟩), hinner, rfl, hle⟩
    rw [← e.eta_id, ← entry.eta_id, TransactionId.mk.injEq] at hid
    rw [hid.1, hid.2] at hle
    omega

/-- A new transaction at the on-chain nonce is the independent one. -/
theorem fronted_insertIndependent (hreflagged : Reflagged s' s'') (hfronted : s.Fronted nonces)
    (hentry : entry.nonce = nonces entry.seqId) :
    (s''.insertIndependent entry.inner).Fronted nonces := by
  have hindependent : (s''.insertIndependent entry.inner).independent =
      update s.independent entry.seqId (some entry.inner) := by
    show update s''.independent _ _ = _
    rw [hreflagged.independent, h.independent]
    rfl
  refine ⟨fun e he hnonce => ?_, fun seqId tx htx => ?_⟩
  · rw [hindependent]
    obtain ⟨flag, hmem⟩ := hreflagged.same.exists_mem he
    rcases h.mem_iff.mp hmem with hsame | ⟨hmem, hid⟩
    · subst hsame
      exact update_self ..
    · rw [update_of_ne]
      · exact hfronted.present { e with isPending := flag } hmem hnonce
      · intro hlane
        refine hid ?_
        show (⟨e.seqId, e.nonce⟩ : TransactionId) = ⟨entry.seqId, entry.nonce⟩
        rw [hnonce, hentry, hlane]
  · rw [hindependent] at htx
    by_cases hlane : seqId = entry.seqId
    · subst hlane
      rw [update_self, Option.some.injEq] at htx
      obtain ⟨flag, hmem⟩ := hreflagged.same.symm.exists_mem (h.mem_iff.mpr (.inl rfl))
      exact ⟨_, hmem, htx, rfl, Nat.le_of_eq hentry⟩
    · rw [update_of_ne hlane] at htx
      obtain ⟨e, he, hinner, rfl, hle⟩ := hfronted.stored seqId tx htx
      have hid : e.id ≠ entry.id := fun hid => hlane (congrArg TransactionId.seqId hid)
      obtain ⟨flag, hmem⟩ := hreflagged.same.symm.exists_mem (h.mem_iff.mpr (.inr ⟨he, hid⟩))
      exact ⟨_, hmem, hinner, rfl, hle⟩

end Inserting

end Inserted

/-! ## The flags after the scan -/

/-- The lane that is scanned after an addition. -/
def scanned (s' : Pool) (nonces : SequenceId → ℕ) (entry : InternalTransaction) :
    List InternalTransaction :=
  s'.descendantTxs ⟨entry.seqId, nonces entry.seqId⟩

omit [NonceSlots] in
theorem mem_scanned : e ∈ scanned s' nonces entry ↔
    e ∈ s'.byId ∧ e.seqId = entry.seqId ∧ nonces entry.seqId ≤ e.nonce := by
  unfold scanned Pool.descendantTxs
  rw [mem_laneTxs, decide_eq_true_iff]

theorem ascending_scanned (h : Stocked s') :
    Ascending (nonces entry.seqId) (scanned s' nonces entry) :=
  ascending_laneTxs h fun _ hcondition => of_decide_eq_true hcondition

omit [NonceSlots] in
theorem gapless_scanned {nonce : ℕ} :
    Gapless (nonces entry.seqId) (scanned s' nonces entry) nonce ↔
      s'.Executable nonces ⟨entry.seqId, nonce⟩ :=
  gapless_iff_executable rfl fun _ => mem_scanned

/-- The transactions that the scan promotes. -/
def promoted (s' : Pool) (nonces : SequenceId → ℕ) (entry : InternalTransaction) :
    List InternalTransaction :=
  (Pool.scanLane entry.nonce (nonces entry.seqId) (scanned s' nonces entry)).promoted

theorem mem_promoted (h : Stocked s') : e ∈ promoted s' nonces entry ↔
    (e ∈ s'.byId ∧ e.seqId = entry.seqId ∧ nonces entry.seqId ≤ e.nonce) ∧ entry.nonce < e.nonce ∧
      s'.Executable nonces ⟨entry.seqId, e.nonce⟩ ∧
      Idle entry.nonce (scanned s' nonces entry) e.nonce := by
  unfold promoted
  rw [mem_scanLane_promoted (ascending_scanned h), mem_scanned, gapless_scanned]

section Pending

variable (h : Settled nonces s) (hinserted : Inserted entry s s') (hstocked : Stocked s')
  (hentry : nonces entry.seqId ≤ entry.nonce)

include h hinserted hstocked hentry

/-- A transaction that becomes executable is promoted. -/
theorem pending_of_executable (he : e ∈ s.byId) (hid : e.id ≠ entry.id)
    (hexecutable : s'.Executable nonces e.id) :
    e.isPending = true ∨ e ∈ promoted s' nonces entry := by
  have hflagged := h.sound.flagged e he (h.current e he) nofun
  by_cases hafter : e.seqId = entry.seqId ∧ entry.nonce < e.nonce ∧ ¬ s.Holds entry.id
  · obtain ⟨hlane, hlt, hmissing⟩ := hafter
    refine .inr ((mem_promoted hstocked).mpr ⟨⟨hinserted.mem_iff.mpr (.inr ⟨he, hid⟩), hlane, ?_⟩,
      hlt, ?_, fun other hother hother_lt _ => ?_⟩)
    · exact hlane ▸ h.current e he
    · rwa [← hlane]
    · -- a pending transaction after the new one would need it to be there before
      obtain ⟨hother, hother_lane, -⟩ := mem_scanned.mp hother
      rcases hinserted.mem_iff.mp hother with rfl | ⟨hother, -⟩
      · omega
      refine Bool.eq_false_iff.mpr fun hpending => hmissing ?_
      have hbefore := (h.sound.flagged other hother (h.current other hother) nofun).mp hpending
      have hfrom : nonces other.seqId ≤ entry.nonce := by rwa [hother_lane]
      have hheld : s.Holds ⟨other.seqId, entry.nonce⟩ :=
        hbefore entry.nonce hfrom (Nat.le_of_lt hother_lt)
      rwa [hother_lane] at hheld
  · refine .inl (hflagged.mpr fun nonce hfrom hto => ?_)
    rcases hinserted.holds_iff.mp (hexecutable nonce hfrom hto) with hnonce | hheld
    · by_contra hmissing
      rw [hnonce] at hmissing
      rw [← entry.eta_id, TransactionId.mk.injEq] at hnonce
      refine hafter ⟨hnonce.1, Nat.lt_of_le_of_ne (hnonce.2 ▸ hto) fun hsame => hid ?_, hmissing⟩
      rw [← e.eta_id, ← entry.eta_id, hsame]
      exact congrArg (TransactionId.mk · e.nonce) hnonce.1
    · exact hheld

/-- The flags of the other transactions are right after the scan. -/
theorem promoted_flagged
    (he : e ∈ flagAll ((promoted s' nonces entry).map InternalTransaction.id) true s'.byId)
    (hid : e.id ≠ entry.id) : e.isPending = true ↔ s'.Executable nonces e.id := by
  rcases mem_flagAll.mp he with ⟨he, hkept⟩ | ⟨hflag, hpromoted, -⟩
  · rcases hinserted.mem_iff.mp he with rfl | ⟨he, -⟩
    · exact absurd rfl hid
    · constructor
      · intro hpending nonce hfrom hto
        have hbefore := (h.sound.flagged e he (h.current e he) nofun).mp hpending
        exact hinserted.holds_iff.mpr (.inr (hbefore nonce hfrom hto))
      · intro hexecutable
        rcases pending_of_executable h hinserted hstocked hentry he hid hexecutable with
          hpending | hpromoted
        · exact hpending
        · exact absurd (List.mem_map_of_mem hpromoted) hkept
  · obtain ⟨other, hother, hother_id⟩ := List.mem_map.mp hpromoted
    obtain ⟨⟨-, hlane, -⟩, -, hexecutable, -⟩ := (mem_promoted hstocked).mp hother
    refine iff_of_true hflag ?_
    rw [← hother_id, ← other.eta_id, hlane]
    exact hexecutable

end Pending

/-! ## The rest of the addition -/

/-- A pool with the transactions of another one and the right flags. -/
theorem settled_of_flags (hsame : SameTxs s' s'') (hcurrent : s'.Current nonces)
    (hstocked : Stocked s'') (hfronted : s''.Fronted nonces)
    (hflags : ∀ e ∈ s''.byId, e.isPending = true ↔ s'.Executable nonces e.id) :
    Settled nonces s'' := by
  refine ⟨⟨hstocked, hfronted, fun e he _ _ => ?_, nofun⟩, hsame.current hcurrent⟩
  rw [hsame.executable_iff]
  exact hflags e he

theorem stocked_setPending (h : Stocked s)
    (hkeys : ∀ key ∈ s.queuedEvictionOrder, key.txId ≠ id) (hview : s'.view =
      { s.view with byId := flagAll [id] true s.byId }) : Stocked s' := by
  obtain ⟨hbyId, -, hqueued, hslots, hfee⟩ := View.mk.injEq .. ▸ hview
  have hsame : SameTxs s s' := by
    unfold SameTxs
    rw [hbyId]
    exact map_inner_flagAll
  refine hsame.stocked h hslots fun key hkey => ?_
  rw [hqueued] at hkey
  obtain ⟨other, hother, hflag, hkey_eq⟩ := h.keyed key hkey
  refine ⟨other, ?_, hflag, by rw [hfee]; exact hkey_eq⟩
  rw [hbyId, mem_flagAll]
  refine .inl ⟨hother, fun hid => hkeys key hkey ?_⟩
  rw [hkey_eq]
  exact List.mem_singleton.mp hid

omit [NonceSlots] in
theorem mem_keys_of_foldl_markPending {entries : List InternalTransaction} {key : EvictionKey}
    (h : key ∈ (entries.foldl Pool.markPending s).queuedEvictionOrder) :
    key ∈ s.queuedEvictionOrder := by
  induction entries generalizing s with
  | nil => exact h
  | cons e entries ih => exact (mem_removeKey.mp (ih h)).1

/-- The pool after the scan. -/
structure Scanned (nonces : SequenceId → ℕ) (entry : InternalTransaction) (s' s'' : Pool) :
    Prop where
  reflagged : Reflagged s' s''
  stocked : Stocked s''
  byId : s''.byId = flagAll ((promoted s' nonces entry).map InternalTransaction.id) true s'.byId
  keys : ∀ key ∈ s''.queuedEvictionOrder, key.txId ≠ entry.id

theorem scanned_promoted (hinserted : Inserted entry s s') (hstocked : Stocked s') :
    Scanned nonces entry s' ((promoted s' nonces entry).foldl Pool.markPending s') := by
  obtain ⟨hreflagged, hstocked', hbyId⟩ := foldl_mark (fun _ _ => reflagged_markPending)
    (fun _ _ => markPending_byId) (fun _ _ => stocked_markPending)
    (fun e he => stores_of_mem ((mem_promoted hstocked).mp he).1.1) hstocked
  refine ⟨hreflagged, hstocked', hbyId, fun key hkey => ?_⟩
  obtain ⟨other, -, hid, -, rfl⟩ := hinserted.keys key (mem_keys_of_foldl_markPending hkey)
  exact hid

theorem scan_inserted (hstocked : Stocked s') (hentry : nonces entry.seqId ≤ entry.nonce) :
    (Pool.scanLane entry.nonce (nonces entry.seqId) (scanned s' nonces entry)).inserted = true ↔
      s'.Executable nonces entry.id := by
  rw [scanLane_inserted (ascending_scanned hstocked) hentry, gapless_scanned]
  rfl

section Adding

variable (h : Settled nonces s)

include h

/-- The new transaction is executable. -/
theorem Settled.addedPending {t : Pool} (hinserted : Inserted entry s s') (hstocked : Stocked s')
    (hentry : nonces entry.seqId ≤ entry.nonce) (hscanned : Scanned nonces entry s' s'')
    (hexecutable : s'.Executable nonces entry.id)
    (hview : t.view = { s''.view with byId := flagAll [entry.id] true s''.byId }) :
    Settled nonces
      (if entry.nonce = nonces entry.seqId then t.insertIndependent entry.inner else t) := by
  have hstocked' := stocked_setPending hscanned.stocked hscanned.keys hview
  obtain ⟨hbyId, hindependent, -, hslots, hfee⟩ := View.mk.injEq .. ▸ hview
  have hreflagged : Reflagged s' t := by
    refine hscanned.reflagged.trans ⟨?_, hindependent, hslots, hfee⟩
    unfold SameTxs
    rw [hbyId]
    exact map_inner_flagAll
  have hcurrent := hinserted.current h.current hentry
  have hflags : ∀ e ∈ t.byId, e.isPending = true ↔ s'.Executable nonces e.id := by
    intro e he
    rw [hbyId, mem_flagAll, List.mem_singleton] at he
    rcases he with ⟨he, hid⟩ | ⟨hflag, hid, -⟩
    · exact promoted_flagged h hinserted hstocked hentry (hscanned.byId ▸ he) hid
    · rw [hid]
      exact iff_of_true hflag hexecutable
  split
  · next hfront =>
    exact settled_of_flags hreflagged.same hcurrent hstocked'.insertIndependent
      (hinserted.fronted_insertIndependent hreflagged h.sound.fronted hfront) hflags
  · next hfront =>
    have hfronted := hinserted.fronted h.sound.fronted (Nat.lt_of_le_of_ne hentry (Ne.symm hfront))
    exact settled_of_flags hreflagged.same hcurrent hstocked' (hreflagged.fronted hfronted) hflags

/-- There is a gap before the new transaction. -/
theorem Settled.addedQueued (hinserted : Inserted entry s s') (hstocked : Stocked s')
    (hqueued : entry.isPending = false) (hentry : nonces entry.seqId ≤ entry.nonce)
    (hscanned : Scanned nonces entry s' s'') (hexecutable : ¬ s'.Executable nonces entry.id) :
    Settled nonces { s'' with
      queuedEvictionOrder := insertKey EvictionKey.order
        (EvictionKey.withBaseFee entry.inner entry.id s''.baseFee) s''.queuedEvictionOrder } := by
  have hmem : entry ∈ s''.byId := by
    rw [hscanned.byId, mem_flagAll]
    refine .inl ⟨hinserted.mem_iff.mpr (.inl rfl), fun hid => ?_⟩
    obtain ⟨other, hother, hid⟩ := List.mem_map.mp hid
    obtain ⟨-, hlt, -⟩ := (mem_promoted hstocked).mp hother
    have hnonce : other.nonce = entry.nonce := congrArg TransactionId.nonce hid
    omega
  have hfront : nonces entry.seqId ≠ entry.nonce := by
    intro hfront
    refine hexecutable fun nonce hfrom hto => hinserted.holds_iff.mpr (.inl ?_)
    have hnonce : nonce = entry.nonce := Nat.le_antisymm hto (hfront ▸ hfrom)
    rw [hnonce]
    rfl
  have hfronted := hinserted.fronted h.sound.fronted (Nat.lt_of_le_of_ne hentry hfront)
  have hcurrent := hinserted.current h.current hentry
  refine settled_of_flags hscanned.reflagged.same hcurrent ?_
    ⟨(hscanned.reflagged.fronted hfronted).present, (hscanned.reflagged.fronted hfronted).stored⟩ ?_
  · refine ⟨hscanned.stocked.ids, fun key hkey => ?_,
      ⟨hscanned.stocked.tracked.lanes, hscanned.stocked.tracked.slots⟩, hscanned.stocked.small,
      hscanned.stocked.regular⟩
    rcases mem_insertKey hkey with rfl | hkey
    · exact ⟨entry, hmem, hqueued, rfl⟩
    · exact hscanned.stocked.keyed key hkey
  · intro e he
    by_cases hid : e.id = entry.id
    · rw [eq_of_id_eq hscanned.stocked.ids he hmem hid, hqueued]
      exact iff_of_false nofun hexecutable
    · exact promoted_flagged h hinserted hstocked hentry (hscanned.byId ▸ he) hid

theorem Settled.finishAddition (hinserted : Inserted entry s s')
    (hqueued : entry.isPending = false) (hentry : nonces entry.seqId ≤ entry.nonce)
    (hsmall : entry.nonce < 2 ^ 64 - 1)
    (hregular : entry.inner.transaction.isExpiringNonce = false) :
    Settled nonces (s'.finishAddition entry (nonces entry.seqId)).1 := by
  have hstocked := hinserted.stocked h.sound.stocked hsmall hregular
  have hscanned : Scanned nonces entry s' _ := scanned_promoted hinserted hstocked
  have hiff := scan_inserted hstocked hentry
  unfold Pool.finishAddition
  dsimp only
  split
  · next hscan =>
    refine (h.addedPending hinserted hstocked hentry hscanned (hiff.mp hscan) ?_).discard
    exact view_setPending
  · next hscan =>
    exact (h.addedQueued hinserted hstocked hqueued hentry hscanned
      fun hexecutable => hscan (hiff.mpr hexecutable)).discard

variable {tx : PooledTransaction}

theorem Settled.addExpiringNonceTransaction :
    Settled nonces (s.addExpiringNonceTransaction tx).1 := by
  unfold Pool.addExpiringNonceTransaction
  dsimp only
  split
  · exact h
  · split
    · exact h
    · refine Settled.discard (h.congr ?_)
      rfl

theorem Settled.addTransaction {hardfork : TempoHardfork} (hfork : hardfork.isT1 = true)
    (hsmall : tx.nonce < 2 ^ 64 - 1) :
    Settled nonces (s.addTransaction tx (nonces tx.seqId) hardfork).1 := by
  unfold Pool.addTransaction
  cases hkind : tx.isExpiringNonce with
  | true =>
    rw [if_pos ⟨hfork, rfl⟩]
    exact h.addExpiringNonceTransaction
  | false =>
    rw [if_neg fun hexpiring => Bool.false_ne_true hexpiring.2]
    split
    · exact h
    split
    · exact h
    · next hcurrent =>
      split
      · exact h
      have hnext : Settled nonces s.nextId := h.congr rfl
      have hentry : nonces tx.seqId ≤ tx.nonce := Nat.le_of_not_lt hcurrent
      dsimp only
      split
      · next replaced hlookup =>
        split
        · exact hnext
        · exact hnext.finishAddition (insertEntry_some hnext.sound.stocked hlookup) rfl hentry
            hsmall hkind
      · next hlookup =>
        split
        · exact hnext
        · exact hnext.finishAddition (insertEntry_none hnext.sound.stocked hlookup) rfl hentry
            hsmall hkind

end Adding

end Monotempo.Pool2d
