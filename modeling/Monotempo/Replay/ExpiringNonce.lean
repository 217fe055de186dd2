/-
  Replay of expiring nonces against the nonce manager.

  Source: `crates/evm/src/action_replay.rs` (`apply_expiring_nonce_replay`,
  `ExpiringNonceReplayState`), `crates/evm/src/block.rs` (`commit_transaction`) and the loop of
  `crates/payload/builder/src/lib.rs` that executes the transactions of a block.

  The replay of an expiring nonce is written against slots, with a pointer that is kept between
  transactions.  It accepts and writes what the nonce manager does as long as the kept pointer is
  the stored one, and that holds in every state of a block: the pointer is replaced when a replay
  is committed and dropped before a direct execution.
-/
import Monotempo.Replay.Refinement

set_option autoImplicit false

namespace Monotempo.Replay

open Chain Foundation Function StorageActionReplayState

variable [NonceSlots] {spec : TempoHardfork} {db : Database} {storage : Storage} {slot : Slot}
  {r r' r₀ : StorageActionReplayState} {n : ExpiringNonceReplay} {now : ℕ} {u : Unit}

/-! ## The nonce manager in storage -/

/-- What the nonce manager sees of storage. -/
def expiringNonces (storage : Storage) : Nonce.NonceState where
  expiringNonceSeen hash := storage (nonceSlot (NonceSlots.seen hash))
  expiringNonceRing index := storage (nonceSlot (NonceSlots.ring index))
  expiringNonceRingPtr := storage (nonceSlot NonceSlots.ringPtr)

/-- The slots of expiring nonces. -/
inductive ExpiringSlot : Slot → Prop where
  | seen (hash : B256) : ExpiringSlot (nonceSlot (NonceSlots.seen hash))
  | ring (index : ℕ) : ExpiringSlot (nonceSlot (NonceSlots.ring index))
  | ringPtr : ExpiringSlot (nonceSlot NonceSlots.ringPtr)

theorem ExpiringSlot.address (h : ExpiringSlot slot) : slot.address = noncePrecompileAddress := by
  cases h <;> rfl

theorem expiringNonces_congr {storage' : Storage}
    (h : ∀ slot, ExpiringSlot slot → storage' slot = storage slot) :
    expiringNonces storage' = expiringNonces storage := by
  unfold expiringNonces
  congr 1
  · exact funext fun hash => h _ (.seen hash)
  · exact funext fun index => h _ (.ring index)
  · exact h _ .ringPtr

omit [NonceSlots] in
theorem nonceSlot_injective : Function.Injective nonceSlot := by
  intro a b h
  exact congrArg Slot.key h

theorem expiringNonces_seen (hash : B256) (value : ℕ) :
    expiringNonces (update storage (nonceSlot (NonceSlots.seen hash)) value) =
      (expiringNonces storage).setSeen hash value := by
  unfold expiringNonces Nonce.NonceState.setSeen
  congr 1
  · funext other
    simp only [update_apply, nonceSlot_injective.eq_iff, NonceSlots.seen_injective.eq_iff]
  · funext index
    exact update_of_ne
      (nonceSlot_injective.ne (NonceSlots.seen_ne_ring hash index).symm) _ _
  · exact update_of_ne (nonceSlot_injective.ne (NonceSlots.seen_ne_ringPtr hash).symm) _ _

theorem expiringNonces_ring (index : ℕ) (value : ℕ) :
    expiringNonces (update storage (nonceSlot (NonceSlots.ring index)) value) =
      (expiringNonces storage).setRing index value := by
  unfold expiringNonces Nonce.NonceState.setRing
  congr 1
  · funext hash
    exact update_of_ne
      (nonceSlot_injective.ne (NonceSlots.seen_ne_ring hash index)) _ _
  · funext other
    simp only [update_apply, nonceSlot_injective.eq_iff, NonceSlots.ring_injective.eq_iff]
  · exact update_of_ne (nonceSlot_injective.ne (NonceSlots.ring_ne_ringPtr index).symm) _ _

theorem expiringNonces_ringPtr (value : ℕ) :
    expiringNonces (update storage (nonceSlot NonceSlots.ringPtr) value) =
      (expiringNonces storage).setRingPtr value := by
  unfold expiringNonces Nonce.NonceState.setRingPtr
  congr 1
  · funext hash
    exact update_of_ne (nonceSlot_injective.ne (NonceSlots.seen_ne_ringPtr hash)) _ _
  · funext index
    exact update_of_ne (nonceSlot_injective.ne (NonceSlots.ring_ne_ringPtr index)) _ _
  · exact update_self _ _ _

/-! ## What is committed -/

omit [NonceSlots] in
/-- A recorded store is a write of what will be committed. -/
theorem commitChanges_recordSstore (original current : ℕ) :
    commitChanges storage (r.recordSstore slot original current).txChanges =
      update (commitChanges storage r.txChanges) slot current := by
  have hwritten : ∀ change : SlotChange, change.written = true → change.current = current →
      commitChanges storage (r.setChange slot change).txChanges =
        update (commitChanges storage r.txChanges) slot current := by
    rintro change hwritten rfl
    funext other
    unfold commitChanges setChange
    by_cases h : other = slot
    · subst h
      simp [hwritten]
    · simp [h]
  unfold recordSstore
  cases r.txChanges slot with
  | none | some => exact hwritten _ rfl rfl

omit [NonceSlots] in
@[simp] theorem recordSstore_expiringNonce (original current : ℕ) :
    (r.recordSstore slot original current).expiringNonce = r.expiringNonce := by
  unfold recordSstore
  cases r.txChanges slot with
  | none | some => rfl

/-! ## The kept pointer -/

/-- The pointer in storage. -/
def storedPtr (storage : Storage) : ℕ := storage (nonceSlot NonceSlots.ringPtr)

/-- The kept pointer, if there is one, is the stored one. -/
def PtrCached (storage : Storage) (r : StorageActionReplayState) : Prop :=
  ∀ ptr, r.expiringNonce.ringPtr = some ptr → ptr = storedPtr storage

/-- The state that keeps a pointer. -/
def StorageActionReplayState.keepPtr (r : StorageActionReplayState) (ptr : ℕ) :
    StorageActionReplayState :=
  { r with expiringNonce := { r.expiringNonce with ringPtr := some ptr } }

theorem ringPtr_eq (hcached : PtrCached db.storage r) :
    ringPtr db r = .ok (storedPtr db.storage) (r.keepPtr (storedPtr db.storage)) := by
  unfold ringPtr
  rw [get_bind_ok]
  cases hptr : r.expiringNonce.ringPtr with
  | none => rfl
  | some ptr =>
    obtain rfl := hcached ptr hptr
    have hsame : r.keepPtr (storedPtr db.storage) = r := by
      unfold keepPtr
      rw [← hptr]
    rw [hsame]
    rfl

/-! ## The replay of a nonce -/

/-- The state after the old entry of the ring was cleared. -/
def StorageActionReplayState.clearedAt (r : StorageActionReplayState) (storage : Storage)
    (oldHash : ℕ) : StorageActionReplayState :=
  if oldHash = 0 then r
  else r.recordSstore (nonceSlot (NonceSlots.seen oldHash))
    (storage (nonceSlot (NonceSlots.seen oldHash))) 0

/-- The state after a nonce was replayed. -/
def StorageActionReplayState.marked (r : StorageActionReplayState) (spec : TempoHardfork)
    (storage : Storage) (n : ExpiringNonceReplay) : StorageActionReplayState :=
  let ptr := storedPtr storage
  let ringSlot := nonceSlot (NonceSlots.ring ptr)
  let seenSlot := nonceSlot (NonceSlots.seen n.hash)
  let next := Nonce.nextPtr spec ptr
  let recorded := ((((r.keepPtr ptr).clearedAt storage (storage ringSlot)).recordSstore ringSlot
    (storage ringSlot) n.hash).recordSstore seenSlot (storage seenSlot) n.validBefore).recordSstore
    (nonceSlot NonceSlots.ringPtr) ptr next
  { recorded with expiringNonce := { recorded.expiringNonce with pendingRingPtr := some next } }

theorem clearOldEntry_ok {oldHash : ℕ} :
    clearOldEntry db oldHash now r = .ok u r' ↔
      (oldHash ≠ 0 → db.storage (nonceSlot (NonceSlots.seen oldHash)) ≤ now) ∧
        r' = r.clearedAt db.storage oldHash := by
  unfold clearOldEntry clearedAt
  rw [onlyIf_ok, require_bind_ok, modify_ok, Nonce.live_eq_false]
  by_cases hempty : oldHash = 0
  · simp [hempty, eq_comm]
  · simp [hempty]

/-- A replay succeeds exactly if the nonce manager accepts the nonce. -/
theorem applyExpiringNonceReplay_ok (hcached : PtrCached db.storage r)
    (htyped : storedPtr db.storage < 2 ^ 32) :
    applyExpiringNonceReplay spec db n now r = .ok u r' ↔
      Nonce.Accepts spec now n.hash n.validBefore (expiringNonces db.storage) ∧
        r' = r.marked spec db.storage n := by
  have hnext : (if storedPtr db.storage + 1 < Nonce.expiringNonceSetCapacity spec then
      storedPtr db.storage + 1 else 0) = Nonce.nextPtr spec (storedPtr db.storage) := by
    unfold Nonce.nextPtr
    split <;> split <;> omega
  unfold applyExpiringNonceReplay
  rw [require_bind_ok, bind_eq_of_ok (ringPtr_eq hcached), require_bind_ok, require_bind_ok,
    Nonce.live_eq_false, hnext]
  constructor
  · rintro ⟨hwindow, hunseen, -, h⟩
    obtain ⟨hlater, hwithin⟩ := of_decide_eq_true hwindow
    obtain ⟨_, t, ⟨hevictable, rfl⟩, h⟩ := step_bind_ok clearOldEntry_ok.mp h
    rw [modify_bind_ok] at h
    rw [modify_bind_ok] at h
    exact ⟨⟨hlater, hwithin, hunseen, hevictable⟩, modify_ok.mp h⟩
  · rintro ⟨haccepts, rfl⟩
    refine ⟨decide_eq_true ⟨haccepts.later, haccepts.window⟩, haccepts.unseen, htyped, ?_⟩
    refine bind_ok.mpr ⟨(), _, clearOldEntry_ok.mpr ⟨haccepts.evictable, rfl⟩, ?_⟩
    refine bind_ok.mpr ⟨(), _, modify_ok.mpr rfl, ?_⟩
    refine bind_ok.mpr ⟨(), _, modify_ok.mpr rfl, ?_⟩
    exact modify_ok.mpr rfl

/-- The slots of expiring nonces after the replay of a nonce are those of the nonce manager. -/
theorem commitChanges_marked (hfresh : r.txChanges = fun _ => none) :
    expiringNonces (commitChanges storage (r.marked spec storage n).txChanges) =
      (expiringNonces storage).accept spec n.hash n.validBefore := by
  have hcleared : expiringNonces (commitChanges storage
      ((r.keepPtr (storedPtr storage)).clearedAt storage
        (storage (nonceSlot (NonceSlots.ring (storedPtr storage))))).txChanges) =
      (expiringNonces storage).evicted := by
    have hstart : commitChanges storage (r.keepPtr (storedPtr storage)).txChanges = storage := by
      unfold keepPtr
      rw [hfresh]
      rfl
    unfold clearedAt Nonce.NonceState.evicted
    split
    · rename_i hempty
      rw [hstart]
      exact (if_pos hempty).symm
    · rename_i hfilled
      rw [commitChanges_recordSstore, expiringNonces_seen, hstart]
      exact (if_neg hfilled).symm
  unfold marked Nonce.NonceState.accept
  rw [commitChanges_recordSstore, expiringNonces_ringPtr, commitChanges_recordSstore,
    expiringNonces_seen, commitChanges_recordSstore, expiringNonces_ring, hcleared]
  rfl

theorem marked_expiringNonce :
    (r.marked spec storage n).expiringNonce =
      ⟨some (storedPtr storage), some (Nonce.nextPtr spec (storedPtr storage))⟩ := by
  unfold marked
  simp only [recordSstore_expiringNonce]
  unfold clearedAt
  split
  · rfl
  · rw [recordSstore_expiringNonce]
    rfl

/-- A replay of a nonce, failed or not, keeps only the stored pointer. -/
theorem keeps_applyExpiringNonceReplay :
    Keeps (PtrCached db.storage) (applyExpiringNonceReplay spec db n now) := by
  have hrecord : ∀ slot original current, Keeps (PtrCached db.storage)
      (modify fun s => s.recordSstore slot original current : ReplayM PUnit) := by
    intro slot original current
    refine keeps_modify fun s hs ptr hptr => ?_
    rw [recordSstore_expiringNonce] at hptr
    exact hs ptr hptr
  refine keeps_require_bind fun _ => keeps_bind ?_ fun ptr => ?_
  · refine keeps_get_bind fun s hs => ?_
    split
    · exact keeps_pure _
    · refine keeps_bind (keeps_modify fun t _ ptr hptr => ?_) fun _ => keeps_pure _
      exact (Option.some.inj hptr).symm
  · refine keeps_require_bind fun _ => keeps_require_bind fun _ => ?_
    refine keeps_bind (keeps_onlyIf fun _ => keeps_require_bind fun _ => hrecord _ _ _) fun _ => ?_
    refine keeps_bind (hrecord _ _ _) fun _ => keeps_bind (hrecord _ _ _) fun _ => ?_
    exact keeps_bind (hrecord _ _ _) fun _ => keeps_modify fun s hs => hs

/-! ## The other actions of a transaction -/

/-- A state that differs from another one only in slots that are not of expiring nonces. -/
structure NoncesKept (r₀ r : StorageActionReplayState) : Prop where
  pointers : r.expiringNonce = r₀.expiringNonce
  changes : ∀ slot, ExpiringSlot slot → r.txChanges slot = r₀.txChanges slot

theorem NoncesKept.setChange (h : NoncesKept r₀ r) (hslot : ¬ ExpiringSlot slot)
    (change : SlotChange) : NoncesKept r₀ (r.setChange slot change) := by
  refine ⟨h.pointers, fun other hother => ?_⟩
  have hne : other ≠ slot := fun heq => hslot (heq ▸ hother)
  exact (update_of_ne hne _ _).trans (h.changes other hother)

/-- The actions of a transaction leave expiring nonces alone: with an expiring nonce they are
passed over, and without one they are not on such slots. -/
theorem keeps_replayEach {isExpiringNonce : Bool} {actions : List StorageAction}
    (hslots : isExpiringNonce = false → ∀ action ∈ actions, ¬ ExpiringSlot action.touched) :
    Keeps (NoncesKept r₀) (replayEach db isExpiringNonce actions) := by
  induction actions with
  | nil => exact keeps_pure _
  | cons action actions ih =>
    refine keeps_bind (keeps_onlyIf fun hplayed => keeps_replayAction fun _ change hs =>
      hs.setChange (fun hslot => ?_) change) fun _ =>
        ih fun hnone other hmem => hslots hnone other (List.mem_cons_of_mem _ hmem)
    cases isExpiringNonce with
    | false => exact hslots rfl action List.mem_cons_self hslot
    | true => exact hplayed ⟨rfl, action.touched_address ▸ hslot.address⟩

/-! ## Transactions of a block -/

/-- The slots that a replayed transaction without an expiring nonce may touch. -/
def StorageActionReplay.Legal (replay : StorageActionReplay) : Prop :=
  replay.expiringNonce = none → ∀ action ∈ replay.actions, ¬ ExpiringSlot action.touched

/-- A kept pointer that is the stored one, in an executor between transactions. -/
structure Executor.InStep (e : Executor) : Prop where
  cached : PtrCached e.storage e.replayState
  typed : storedPtr e.storage < 2 ^ 32

variable {e : Executor}

theorem Executor.InStep.reset (h : e.InStep) :
    PtrCached e.storage e.replayState.resetTxChanges := h.cached

theorem Executor.InStep.apply_ok (h : e.InStep) {cache : Cache} :
    applyExpiringNonceReplay spec ⟨e.storage, cache⟩ n now e.replayState.resetTxChanges =
        .ok u r' ↔
      Nonce.Accepts spec now n.hash n.validBefore (expiringNonces e.storage) ∧
        r' = e.replayState.resetTxChanges.marked spec e.storage n :=
  applyExpiringNonceReplay_ok h.reset h.typed

omit [NonceSlots] in
theorem nextPtr_lt (spec : TempoHardfork) (ptr : ℕ) : Nonce.nextPtr spec ptr < 2 ^ 32 := by
  unfold Nonce.nextPtr Nonce.expiringNonceSetCapacity
  split <;> split at * <;> omega

section Execution

variable {cache : Cache} {valid : Bool} {replay : StorageActionReplay} {e e' : Executor}

/-- A replay, failed or not, keeps only the stored pointer. -/
theorem keeps_replayActions (hlegal : replay.Legal) :
    Keeps (PtrCached db.storage)
      (replayActions spec db now replay.actions replay.expiringNonce) := by
  have heach : Keeps (PtrCached db.storage)
      (replayEach db replay.expiringNonce.isSome replay.actions) := by
    intro s hs
    have hkept : Keeps (NoncesKept s) (replayEach db replay.expiringNonce.isSome replay.actions) :=
      keeps_replayEach fun hnone => hlegal (by simpa using hnone)
    exact hkept.consequence (fun _ ht => ht) (fun _ t ht ptr hptr => hs ptr (ht.pointers ▸ hptr))
      (fun _ t ht ptr hptr => hs ptr (ht.pointers ▸ hptr)) s ⟨rfl, fun _ _ => rfl⟩
  cases hnonce : replay.expiringNonce with
  | none =>
    rw [hnonce] at heach
    exact heach
  | some n =>
    rw [hnonce] at heach
    exact keeps_bind keeps_applyExpiringNonceReplay fun _ => heach

/-- The replay of a transaction with an expiring nonce that was accepted. -/
theorem replayActions_nonce (hsome : replay.expiringNonce = some n)
    (happly : applyExpiringNonceReplay spec db n now r = .ok () r₀) :
    Keeps (NoncesKept r₀) (replayEach db replay.expiringNonce.isSome replay.actions) ∧
      replayActions spec db now replay.actions replay.expiringNonce r =
        replayEach db replay.expiringNonce.isSome replay.actions r₀ := by
  rw [hsome]
  exact ⟨keeps_replayEach nofun, bind_eq_of_ok happly⟩

/-- What is committed of expiring nonces. -/
theorem NoncesKept.committed (h : NoncesKept r₀ r) :
    expiringNonces (commitChanges storage r.txChanges) =
      expiringNonces (commitChanges storage r₀.txChanges) := by
  refine expiringNonces_congr fun slot hslot => ?_
  unfold commitChanges
  rw [h.changes slot hslot]

/-- A committed transaction with an expiring nonce was accepted by the nonce manager, its storage
is that of the nonce manager after it, and the pointer of this storage is kept. -/
theorem execute_nonce (hstep : e.InStep) (hsome : replay.expiringNonce = some n)
    (h : executeTransactionWithActions spec cache now valid replay e = .ok u e') :
    Nonce.Accepts spec now n.hash n.validBefore (expiringNonces e.storage) ∧
      expiringNonces e'.storage =
        (expiringNonces e.storage).accept spec n.hash n.validBefore ∧
      e'.replayState.expiringNonce = ⟨some (storedPtr e'.storage), none⟩ := by
  obtain ⟨replayed, hreplay, rfl⟩ := execute_ok h
  have happlied := hreplay
  rw [hsome] at happlied
  obtain ⟨_, marked, happly, -⟩ := bind_ok.mp happlied
  obtain ⟨hkeeps, hrun⟩ := replayActions_nonce hsome happly
  obtain ⟨haccepts, rfl⟩ := hstep.apply_ok.mp happly
  have hkept := hkeeps.ok ⟨rfl, fun _ _ => rfl⟩ (hrun.symm.trans hreplay)
  have hstored : expiringNonces (commitChanges e.storage replayed.txChanges) =
      (expiringNonces e.storage).accept spec n.hash n.validBefore :=
    hkept.committed.trans (commitChanges_marked rfl)
  refine ⟨haccepts, hstored, ?_⟩
  have hptr : storedPtr (commitChanges e.storage replayed.txChanges) =
      Nonce.nextPtr spec (storedPtr e.storage) :=
    congrArg Nonce.NonceState.expiringNonceRingPtr hstored
  have hpending := hkept.pointers.trans marked_expiringNonce
  unfold commitTxChanges
  rw [hpending, hptr]

/-- A committed transaction without an expiring nonce leaves expiring nonces as they are. -/
theorem execute_plain (hlegal : replay.Legal) (hnone : replay.expiringNonce = none)
    (h : executeTransactionWithActions spec cache now valid replay e = .ok u e') :
    expiringNonces e'.storage = expiringNonces e.storage ∧
      e'.replayState.expiringNonce.ringPtr = e.replayState.expiringNonce.ringPtr := by
  obtain ⟨replayed, hreplay, rfl⟩ := execute_ok h
  rw [hnone] at hreplay
  have hkeeps : Keeps (NoncesKept e.replayState.resetTxChanges)
      (replayEach ⟨e.storage, cache⟩ false replay.actions) :=
    keeps_replayEach fun _ => hlegal hnone
  have hkept := hkeeps.ok ⟨rfl, fun _ _ => rfl⟩ hreplay
  refine ⟨hkept.committed, ?_⟩
  unfold commitTxChanges
  rw [hkept.pointers]
  rfl

/-- A transaction that fails after its nonce was replayed keeps the stored pointer. -/
theorem execute_failed_nonce (hstep : e.InStep) (hsome : replay.expiringNonce = some n)
    (hsuccess : replay.success = true)
    (happly : applyExpiringNonceReplay spec ⟨e.storage, cache⟩ n now
      e.replayState.resetTxChanges = .ok () r₀)
    {error : ReplayError}
    (h : executeTransactionWithActions spec cache now valid replay e = .error error e') :
    e'.replayState.expiringNonce.ringPtr = some (storedPtr e'.storage) := by
  obtain ⟨hkeeps, hrun⟩ := replayActions_nonce hsome happly
  obtain ⟨-, rfl⟩ := hstep.apply_ok.mp happly
  obtain ⟨hsame, ⟨hfailed, -⟩ | ⟨failed, hreplay, hstate⟩ | hreplay⟩ := execute_error h
  · exact absurd hsuccess hfailed
  · have hkept := hkeeps.error ⟨rfl, fun _ _ => rfl⟩ (hrun.symm.trans hreplay)
    rw [hstate, hsame]
    exact congrArg ExpiringNonceReplayState.ringPtr (hkept.pointers.trans marked_expiringNonce)
  · have hkept := hkeeps.ok ⟨rfl, fun _ _ => rfl⟩ (hrun.symm.trans hreplay)
    rw [hsame]
    exact congrArg ExpiringNonceReplayState.ringPtr (hkept.pointers.trans marked_expiringNonce)

end Execution

/-! ## Blocks -/

/-- A transaction of a block: replayed, or executed directly with the storage after it if it is
committed. -/
inductive BlockTransaction where
  | replayed (cache : Cache) (valid : Bool) (replay : StorageActionReplay)
  | direct (outcome : Option Storage)

/-- Replays without an expiring nonce are not on slots of expiring nonces, and the pointer that an
execution stores is a `u32`. -/
def BlockTransaction.Legal : BlockTransaction → Prop
  | .replayed _ _ replay => replay.Legal
  | .direct outcome => ∀ storage ∈ outcome, storedPtr storage < 2 ^ 32

/-- One transaction of the builder's loop.  A transaction that fails is passed over. -/
def Executor.transact (spec : TempoHardfork) (blockTimestamp : ℕ) (e : Executor) :
    BlockTransaction → Executor
  | .replayed cache valid replay =>
    match executeTransactionWithActions spec cache blockTimestamp valid replay e with
    | .ok _ e' => e'
    | .error _ e' => e'
  | .direct outcome =>
    let replayState := e.replayState.invalidateExpiringNonceCache
    match outcome with
    | some storage => ⟨storage, replayState.commitTxChanges⟩
    | none => ⟨e.storage, replayState⟩

/-- The transactions of a block. -/
def Executor.runBlock (spec : TempoHardfork) (blockTimestamp : ℕ) (e : Executor)
    (block : List BlockTransaction) : Executor :=
  block.foldl (Executor.transact spec blockTimestamp) e

theorem Executor.InStep.start (htyped : storedPtr storage < 2 ^ 32) :
    (Executor.start storage).InStep :=
  ⟨nofun, htyped⟩

/-- One transaction keeps only the stored pointer. -/
theorem Executor.InStep.transact (h : e.InStep) {tx : BlockTransaction} (hlegal : tx.Legal) :
    (e.transact spec now tx).InStep := by
  cases tx with
  | direct outcome =>
    cases outcome with
    | none => exact ⟨nofun, h.typed⟩
    | some storage => exact ⟨nofun, hlegal storage rfl⟩
  | replayed cache valid replay =>
    unfold Executor.transact
    dsimp only
    cases hrun : executeTransactionWithActions spec cache now valid replay e with
    | error error e' =>
      obtain ⟨hsame, hstate⟩ := execute_error hrun
      have hkeeps : Keeps (PtrCached (Database.mk e.storage cache).storage)
          (replayActions spec ⟨e.storage, cache⟩ now replay.actions replay.expiringNonce) :=
        keeps_replayActions hlegal
      refine ⟨?_, hsame ▸ h.typed⟩
      rw [hsame]
      obtain ⟨-, hreset⟩ | ⟨failed, hreplay, hfailed⟩ | hreplay := hstate
      · rw [hreset]
        exact h.reset
      · have hcached := hkeeps.error h.reset hreplay
        rw [hfailed]
        exact hcached
      · exact hkeeps.ok h.reset hreplay
    | ok u e' =>
      cases hnonce : replay.expiringNonce with
      | none =>
        obtain ⟨hsame, hptr⟩ := execute_plain hlegal hnonce hrun
        have hstored : storedPtr e'.storage = storedPtr e.storage :=
          congrArg Nonce.NonceState.expiringNonceRingPtr hsame
        refine ⟨fun ptr hkept => ?_, hstored ▸ h.typed⟩
        rw [hptr] at hkept
        rw [hstored]
        exact h.cached ptr hkept
      | some n =>
        obtain ⟨-, hsame, hptr⟩ := execute_nonce h hnonce hrun
        have hstored : storedPtr e'.storage = Nonce.nextPtr spec (storedPtr e.storage) :=
          congrArg Nonce.NonceState.expiringNonceRingPtr hsame
        refine ⟨fun ptr hkept => ?_, hstored ▸ nextPtr_lt spec _⟩
        rw [hptr] at hkept
        exact (Option.some.inj hkept).symm

theorem Executor.InStep.runBlock {block : List BlockTransaction} :
    ∀ {e : Executor}, e.InStep → (∀ tx ∈ block, tx.Legal) →
      (e.runBlock spec now block).InStep := by
  induction block with
  | nil => exact fun h _ => h
  | cons tx block ih =>
    intro e h hlegal
    exact ih (h.transact (hlegal tx List.mem_cons_self))
      fun other hmem => hlegal other (List.mem_cons_of_mem _ hmem)

/-- In every state of a block, the kept pointer is the stored one.  There the replay of an expiring
nonce succeeds exactly if the nonce manager accepts the nonce, and it writes what the nonce manager
writes, also together with the other actions of its transaction.  A transaction that fails writes
nothing, and if its nonce was replayed the pointer that is kept is the stored one. -/
theorem expiring_nonce_replay_refines {block : List BlockTransaction} (htime : now ≤ u64Max)
    (htyped : storedPtr storage < 2 ^ 32) (hblock : ∀ tx ∈ block, tx.Legal) {e : Executor}
    (he : e = (Executor.start storage).runBlock spec now block) :
    PtrCached e.storage e.replayState ∧
      ∀ cache n,
        ((∃ replayed, applyExpiringNonceReplay spec ⟨e.storage, cache⟩ n now
            e.replayState.resetTxChanges = .ok () replayed) ↔
          ∃ s', Nonce.checkAndMarkExpiringNonce spec now n.hash n.validBefore
            (expiringNonces e.storage) = .ok () s') ∧
        (∀ replayed s', applyExpiringNonceReplay spec ⟨e.storage, cache⟩ n now
            e.replayState.resetTxChanges = .ok () replayed →
          Nonce.checkAndMarkExpiringNonce spec now n.hash n.validBefore
            (expiringNonces e.storage) = .ok () s' →
          expiringNonces (commitChanges e.storage replayed.txChanges) = s') ∧
        ∀ success actions valid,
          (∀ e', executeTransactionWithActions spec cache now valid ⟨success, actions, some n⟩ e =
              .ok () e' →
            Nonce.checkAndMarkExpiringNonce spec now n.hash n.validBefore
              (expiringNonces e.storage) = .ok () (expiringNonces e'.storage)) ∧
          (∀ error e', executeTransactionWithActions spec cache now valid
              ⟨success, actions, some n⟩ e = .error error e' →
            e'.storage = e.storage ∧ PtrCached e'.storage e'.replayState ∧
            (success = true → (∃ replayed, applyExpiringNonceReplay spec ⟨e.storage, cache⟩ n now
                e.replayState.resetTxChanges = .ok () replayed) →
              e'.replayState.expiringNonce.ringPtr = some (storedPtr e'.storage))) := by
  have hstep : e.InStep := he ▸ (Executor.InStep.start htyped).runBlock hblock
  have hnow : min now u64Max = now := Nat.min_eq_left htime
  refine ⟨hstep.cached, fun cache n => ⟨?_, ?_, fun success actions valid => ⟨?_, ?_⟩⟩⟩
  · simp only [hstep.apply_ok, Nonce.checkAndMark_ok, hnow, exists_and_left, exists_eq]
  · intro replayed s' happly hcheck
    obtain ⟨-, rfl⟩ := hstep.apply_ok.mp happly
    obtain ⟨-, rfl⟩ := Nonce.checkAndMark_ok.mp hcheck
    exact commitChanges_marked rfl
  · intro e' h
    obtain ⟨haccepts, hstored, -⟩ := execute_nonce hstep rfl h
    exact Nonce.checkAndMark_ok.mpr ⟨hnow.symm ▸ haccepts, hstored⟩
  · intro error e' h
    have hnext : (e.transact spec now (.replayed cache valid ⟨success, actions, some n⟩)).InStep :=
      hstep.transact nofun
    unfold Executor.transact at hnext
    simp only [h] at hnext
    exact ⟨(execute_error h).1, hnext.cached, fun hsuccess ⟨_, happly⟩ =>
      execute_failed_nonce hstep rfl hsuccess happly h⟩

omit [NonceSlots] in
/-- After a direct execution and a replay the next nonce can be replayed. -/
theorem expiring_nonce_replay_third :
    letI := NonceSlots.spread
    ∃ replayed, applyExpiringNonceReplay .T8
      ⟨((Executor.start fun _ => 0).runBlock .T8 100 [.direct none,
        .replayed (fun _ => none) true ⟨true, [], some ⟨7, 110⟩⟩]).storage, fun _ => none⟩
      ⟨8, 120⟩ 100 ((Executor.start fun _ => 0).runBlock .T8 100 [.direct none,
        .replayed (fun _ => none) true ⟨true, [], some ⟨7, 110⟩⟩]).replayState.resetTxChanges =
      .ok () replayed := by
  let _ := NonceSlots.spread
  have hblock : ∀ tx ∈ [BlockTransaction.direct none,
      .replayed (fun _ => none) true ⟨true, [], some ⟨7, 110⟩⟩], tx.Legal := by
    simp [BlockTransaction.Legal, StorageActionReplay.Legal]
  obtain ⟨-, hall⟩ := expiring_nonce_replay_refines (by decide) (by decide) hblock
    (rfl : _ = (Executor.start fun _ => 0).runBlock .T8 100 _)
  refine (hall (fun _ => none) ⟨8, 120⟩).1.mpr ?_
  have haccepted : ∀ s : Nonce.NonceState,
      returned (Nonce.checkAndMarkExpiringNonce .T8 100 8 120 s) = true →
        ∃ s', Nonce.checkAndMarkExpiringNonce .T8 100 8 120 s = .ok () s' := by
    intro s h
    obtain ⟨_, s', h⟩ := returned_iff.mp h
    exact ⟨s', h⟩
  exact haccepted _ (by decide +kernel)

end Monotempo.Replay
