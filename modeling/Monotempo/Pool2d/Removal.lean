/-
  Transactions leave the pool.

  A removal opens a gap.  Each caller closes it in its own way: by demoting what comes after it, by
  removing that too, or because nothing after it was pending.
-/
import Monotempo.Pool2d.Invariant

set_option autoImplicit false

namespace Monotempo.Pool2d

open Chain Function

variable {s s' : Pool} {nonces : SequenceId → ℕ} {gaps : List TransactionId}
  {e : InternalTransaction} {id : TransactionId} {seqId : SequenceId} {nonce : ℕ}

/-! ## One transaction -/

/-- Keys of queued transactions without that of one that leaves. -/
def keysWithout (s : Pool) (e : InternalTransaction) : List EvictionKey :=
  if e.isPending then s.queuedEvictionOrder
  else removeKey EvictionKey.order (e.inner.evictionKey s.baseFee) s.queuedEvictionOrder

/-- Independent transactions without that of a lane, if it has the nonce. -/
def independentWithout (independent : SequenceId → Option StoredTransaction) (seqId : SequenceId)
    (nonce : Option ℕ) : SequenceId → Option StoredTransaction :=
  match independent seqId with
  | some tx =>
    if nonce = none ∨ nonce = some tx.transaction.nonce then
      update independent seqId none
    else independent
  | none => independent

theorem view_removeIndependent {nonce : Option ℕ} :
    (s.removeIndependent seqId nonce).view =
      { s.view with independent := independentWithout s.independent seqId nonce } := by
  unfold Pool.removeIndependent independentWithout
  cases s.independent seqId with
  | none => rfl
  | some tx => dsimp only; split <;> rfl

/-- What is left after a key is removed belongs to the other queued transactions. -/
theorem keyed_keysWithout (hids : (s.byId.map InternalTransaction.id).Nodup)
    (hkeyed : s.Keyed) (he : e ∈ s.byId) {key : EvictionKey} (hkey : key ∈ keysWithout s e) :
    ∃ other ∈ s.byId, other.id ≠ e.id ∧ other.isPending = false ∧
      key = EvictionKey.withBaseFee other.inner other.id s.baseFee := by
  unfold keysWithout at hkey
  cases hflag : e.isPending with
  | true =>
    rw [hflag, if_pos rfl] at hkey
    obtain ⟨other, hother, hqueued, rfl⟩ := hkeyed key hkey
    refine ⟨other, hother, fun hid => ?_, hqueued, rfl⟩
    rw [eq_of_id_eq hids hother he hid, hflag] at hqueued
    cases hqueued
  | false =>
    rw [hflag, if_neg Bool.false_ne_true] at hkey
    obtain ⟨hkey, horder⟩ := mem_removeKey.mp hkey
    obtain ⟨other, hother, hqueued, rfl⟩ := hkeyed key hkey
    refine ⟨other, hother, fun hid => horder ?_, hqueued, rfl⟩
    rw [eq_of_id_eq hids hother he hid]
    rfl

theorem independentWithout_eq_some {independent : SequenceId → Option StoredTransaction}
    {lane : SequenceId} {tx : StoredTransaction} :
    independentWithout independent seqId (some nonce) lane = some tx ↔
      independent lane = some tx ∧ (lane = seqId → nonce ≠ tx.transaction.nonce) := by
  unfold independentWithout
  cases hfront : independent seqId with
  | none =>
    dsimp only
    refine ⟨fun h => ⟨h, fun hlane => ?_⟩, And.left⟩
    rw [hlane, hfront] at h
    cases h
  | some first =>
    by_cases hlane : lane = seqId
    · subst hlane
      by_cases hnonce : nonce = first.transaction.nonce
      · simp [hfront, hnonce]
        rintro rfl
        rfl
      · simp [hfront, hnonce]
        rintro rfl
        exact hnonce
    · dsimp only
      split
      · rw [update_of_ne hlane]
        simp [hlane]
      · simp [hlane]

section Entry

variable [NonceSlots]

/-- The slots of lanes without that of one that has no transaction. -/
def slotsWithout (s : Pool) (e : InternalTransaction) : ℕ → Option SequenceId :=
  if (s.byId.filter fun other => other.id ≠ e.id).any fun other => other.seqId = e.seqId then
    s.slotToSeqId
  else update s.slotToSeqId (NonceSlots.nonceKeySlot e.seqId) none

theorem view_removeEntry :
    (s.removeEntry e).view =
      ⟨s.byId.filter fun other => other.id ≠ e.id,
        independentWithout s.independent e.seqId (some e.nonce), keysWithout s e,
        slotsWithout s e, s.baseFee⟩ := by
  unfold Pool.removeEntry slotsWithout
  rw [view_decrementSenderCount, view_removeFromSubpool]
  change (Pool.removeIndependent _ _ _).view = _
  rw [view_removeIndependent]
  unfold Pool.removeEvictionKey keysWithout
  cases e.isPending with
  | true | false => split <;> rfl

theorem removeEntry_byId : (s.removeEntry e).byId = s.byId.filter fun other => other.id ≠ e.id :=
  congrArg View.byId view_removeEntry

theorem mem_removeEntry {other : InternalTransaction} :
    other ∈ (s.removeEntry e).byId ↔ other ∈ s.byId ∧ other.id ≠ e.id := by
  rw [removeEntry_byId, List.mem_filter, decide_eq_true_iff]

theorem holds_removeEntry : (s.removeEntry e).Holds id ↔ s.Holds id ∧ id ≠ e.id := by
  rw [holds_iff, holds_iff]
  constructor
  · rintro ⟨other, hother, rfl⟩
    obtain ⟨hother, hid⟩ := mem_removeEntry.mp hother
    exact ⟨⟨other, hother, rfl⟩, hid⟩
  · rintro ⟨⟨other, hother, rfl⟩, hid⟩
    exact ⟨other, mem_removeEntry.mpr ⟨hother, hid⟩, rfl⟩

theorem tracked_removeEntry (h : s.Tracked) : (s.removeEntry e).Tracked := by
  have hslots : (s.removeEntry e).slotToSeqId = slotsWithout s e :=
    congrArg View.slotToSeqId view_removeEntry
  refine ⟨fun other hother => ?_, fun slot seqId hslot => ?_⟩
  · have hlane := h.lanes other (mem_removeEntry.mp hother).1
    rw [hslots, slotsWithout]
    split
    · exact hlane
    · next hnone =>
      rw [update_of_ne _, hlane]
      intro hslot
      refine hnone (List.any_eq_true.mpr ⟨other, removeEntry_byId ▸ hother, ?_⟩)
      exact decide_eq_true (NonceSlots.nonceKeySlot_injective hslot)
  · refine h.slots slot seqId ?_
    rw [hslots, slotsWithout] at hslot
    split at hslot
    · exact hslot
    · by_cases hsame : slot = NonceSlots.nonceKeySlot e.seqId
      · rw [hsame, update_self] at hslot
        cases hslot
      · rwa [update_of_ne hsame] at hslot

theorem stocked_removeEntry (h : Stocked s) (he : e ∈ s.byId) : Stocked (s.removeEntry e) := by
  refine ⟨?_, fun key hkey => ?_, tracked_removeEntry h.tracked, fun other hother => ?_,
    fun other hother => ?_⟩
  · rw [removeEntry_byId]
    exact h.ids.sublist ((List.filter_sublist).map _)
  · have hkeys : (s.removeEntry e).queuedEvictionOrder = keysWithout s e :=
      congrArg View.queuedEvictionOrder view_removeEntry
    have hfee : (s.removeEntry e).baseFee = s.baseFee := congrArg View.baseFee view_removeEntry
    rw [hkeys] at hkey
    rw [hfee]
    obtain ⟨other, hother, hid, hqueued, hkey⟩ := keyed_keysWithout h.ids h.keyed he hkey
    exact ⟨other, mem_removeEntry.mpr ⟨hother, hid⟩, hqueued, hkey⟩
  · exact h.small other (mem_removeEntry.mp hother).1
  · exact h.regular other (mem_removeEntry.mp hother).1

theorem fronted_removeEntry (h : s.Fronted nonces) : (s.removeEntry e).Fronted nonces := by
  have hfront : (s.removeEntry e).independent =
      independentWithout s.independent e.seqId (some e.nonce) :=
    congrArg View.independent view_removeEntry
  refine ⟨fun other hother hnonce => ?_, fun seqId tx htx => ?_⟩
  · obtain ⟨hother, hid⟩ := mem_removeEntry.mp hother
    rw [hfront, independentWithout_eq_some]
    refine ⟨h.present other hother hnonce, fun hlane hsame => hid ?_⟩
    rw [← other.eta_id, ← e.eta_id, hlane, hsame]
    rfl
  · rw [hfront, independentWithout_eq_some] at htx
    obtain ⟨htx, hkept⟩ := htx
    obtain ⟨other, hother, rfl, rfl, hle⟩ := h.stored seqId tx htx
    refine ⟨other, mem_removeEntry.mpr ⟨hother, fun hid => ?_⟩, rfl, rfl, hle⟩
    rw [← other.eta_id, ← e.eta_id, TransactionId.mk.injEq] at hid
    exact hkept hid.1 hid.2.symm

/-- The transactions before the one that leaves see the same nonces. -/
theorem executable_removeEntry_of_lt (hbefore : id.seqId = e.seqId → id.nonce < e.nonce) :
    (s.removeEntry e).Executable nonces id ↔ s.Executable nonces id := by
  refine forall_congr' fun nonce => forall_congr' fun _ => forall_congr' fun hle => ?_
  rw [holds_removeEntry]
  refine and_iff_left fun hid => ?_
  rw [← e.eta_id, TransactionId.mk.injEq] at hid
  have := hbefore hid.1
  omega

/-- A removal opens a gap. -/
theorem Sound.removeEntry (h : Sound nonces gaps s) (he : e ∈ s.byId)
    (hcurrent : nonces e.seqId ≤ e.nonce) : Sound nonces (e.id :: gaps) (s.removeEntry e) := by
  refine ⟨stocked_removeEntry h.stocked he, fronted_removeEntry h.fronted, ?_, ?_⟩
  · intro other hother hnonce hbefore
    obtain ⟨hother, -⟩ := mem_removeEntry.mp hother
    have hlt : other.id.seqId = e.seqId → other.id.nonce < e.nonce := fun hlane =>
      hbefore e.id List.mem_cons_self hlane.symm
    rw [executable_removeEntry_of_lt hlt]
    exact h.flagged other hother hnonce fun gap hgap => hbefore gap (List.mem_cons_of_mem _ hgap)
  · intro gap hgap
    rw [holds_removeEntry]
    rcases List.mem_cons.mp hgap with rfl | hgap
    · exact ⟨hcurrent, fun hholds => hholds.2 rfl⟩
    · exact ⟨(h.missing gap hgap).1, fun hholds => (h.missing gap hgap).2 hholds.1⟩

/-- The removal of a mined transaction opens none. -/
theorem Sound.removeMined (h : Sound nonces gaps s) (he : e ∈ s.byId)
    (hmined : e.nonce < nonces e.seqId) : Sound nonces gaps (s.removeEntry e) := by
  refine ⟨stocked_removeEntry h.stocked he, fronted_removeEntry h.fronted, ?_, ?_⟩
  · intro other hother hnonce hbefore
    obtain ⟨hother, -⟩ := mem_removeEntry.mp hother
    rw [h.flagged other hother hnonce hbefore]
    refine forall_congr' fun nonce => forall_congr' fun hfrom => forall_congr' fun _ => ?_
    rw [holds_removeEntry]
    refine (and_iff_left fun hid => ?_).symm
    rw [← e.eta_id, TransactionId.mk.injEq] at hid
    rw [hid.1, hid.2] at hfrom
    omega
  · intro gap hgap
    rw [holds_removeEntry]
    exact ⟨(h.missing gap hgap).1, fun hholds => (h.missing gap hgap).2 hholds.1⟩

/-- Gaps are closed if nothing after them is pending. -/
theorem Sound.close (h : Sound nonces gaps s) (hqueued : ∀ e ∈ s.byId, ∀ gap ∈ gaps,
      gap.seqId = e.seqId → gap.nonce ≤ e.nonce → e.isPending = false) : Sound nonces [] s := by
  refine ⟨h.stocked, h.fronted, fun e he hnonce _ => ?_, nofun⟩
  by_cases hbefore : Before gaps e
  · exact h.flagged e he hnonce hbefore
  · unfold Before at hbefore
    push Not at hbefore
    obtain ⟨gap, hgap, hlane, hle⟩ := hbefore
    rw [hqueued e he gap hgap hlane hle]
    refine ⟨nofun, fun hexecutable => ?_⟩
    obtain ⟨hfrom, hmissing⟩ := h.missing gap hgap
    refine absurd (hexecutable gap.nonce ?_ hle) ?_
    · rwa [hlane] at hfrom
    · show ¬ s.Holds ⟨e.seqId, gap.nonce⟩
      rwa [← hlane]

theorem removeTransactionById_cases (s : Pool) (id : TransactionId) :
    s.removeTransactionById id = (s, none) ∧ ¬ s.Holds id ∨
      ∃ e ∈ s.byId, e.id = id ∧
        s.removeTransactionById id = (s.removeEntry e, some e.inner.transaction) := by
  unfold Pool.removeTransactionById
  cases hlookup : s.lookup id with
  | none =>
    refine .inl ⟨rfl, fun hholds => ?_⟩
    obtain ⟨e, he, hid⟩ := holds_iff.mp hholds
    exact List.find?_eq_none.mp hlookup e he (decide_eq_true hid)
  | some e =>
    obtain ⟨he, hid⟩ := mem_of_lookup hlookup
    exact .inr ⟨e, he, hid, rfl⟩

end Entry

/-! ## Demotion -/

section Demotion

variable [NonceSlots]

/-- What a demotion does. -/
structure Demoted (seqId : SequenceId) (nonce : ℕ) (s s' : Pool) : Prop where
  reflagged : Reflagged s s'
  stocked : Stocked s'
  queued : ∀ e ∈ s'.byId, e.seqId = seqId → nonce < e.nonce → e.isPending = false
  /-- flags of others are not touched -/
  others : ∀ e ∈ s'.byId, (e.seqId = seqId → e.nonce ≤ nonce) → e ∈ s.byId
  /-- no flag is set -/
  pending : ∀ e ∈ s'.byId, e.isPending = true → e ∈ s.byId

theorem demoteFromNonce_demoted (h : Stocked s) :
    Demoted seqId nonce s (s.demoteFromNonce seqId nonce) := by
  have hmem : ∀ e, e ∈ (s.descendantTxsExclusive ⟨seqId, nonce⟩).filter (·.isPending) ↔
      e ∈ s.byId ∧ e.seqId = seqId ∧ nonce < e.nonce ∧ e.isPending = true := by
    intro e
    unfold Pool.descendantTxsExclusive
    rw [List.mem_filter, mem_laneTxs]
    simp [and_assoc]
  obtain ⟨hreflagged, hstocked, hbyId⟩ := foldl_mark (fun _ _ => reflagged_markQueued)
    (fun _ _ => markQueued_byId) (fun _ _ => stocked_markQueued)
    (fun e he => stores_of_mem ((hmem e).mp he).1) h
  have hids : ∀ e ∈ (s.demoteFromNonce seqId nonce).byId,
      (e ∈ s.byId ∧ ¬ (e.seqId = seqId ∧ nonce < e.nonce ∧ e.isPending = true)) ∨
        (e.isPending = false ∧ e.seqId = seqId ∧ nonce < e.nonce) := by
    intro e he
    unfold Pool.demoteFromNonce at he
    rw [hbyId, mem_flagAll] at he
    rcases he with ⟨he, hid⟩ | ⟨hflag, hid, -⟩
    · exact .inl ⟨he, fun hdemoted => hid (List.mem_map_of_mem ((hmem e).mpr ⟨he, hdemoted⟩))⟩
    · obtain ⟨old, hold, hid⟩ := List.mem_map.mp hid
      obtain ⟨-, hlane, hlt, -⟩ := (hmem old).mp hold
      rw [← e.eta_id, ← old.eta_id, TransactionId.mk.injEq] at hid
      rw [hid.1] at hlane
      rw [hid.2] at hlt
      exact .inr ⟨hflag, hlane, hlt⟩
  refine ⟨hreflagged, hstocked, fun e he hlane hlt => ?_, fun e he hother => ?_,
    fun e he hflag => ?_⟩
  · rcases hids e he with ⟨-, hkept⟩ | ⟨hflag, -⟩
    · exact Bool.eq_false_iff.mpr fun hflag => hkept ⟨hlane, hlt, hflag⟩
    · exact hflag
  · rcases hids e he with ⟨he, -⟩ | ⟨-, hlane, hlt⟩
    · exact he
    · exact absurd (hother hlane) (Nat.not_le.mpr hlt)
  · rcases hids e he with ⟨he, -⟩ | ⟨hqueued, -⟩
    · exact he
    · rw [hflag] at hqueued
      cases hqueued

/-- A demotion behind a gap touches no flag that has to be right. -/
theorem Sound.demote (h : Sound nonces gaps s) {gap : TransactionId} (hgap : gap ∈ gaps)
    (hdemoted : Demoted gap.seqId gap.nonce s s') : Sound nonces gaps s' := by
  refine ⟨hdemoted.stocked, hdemoted.reflagged.fronted h.fronted, fun e he hnonce hbefore => ?_,
    fun gap hgap => ?_⟩
  · rw [hdemoted.reflagged.same.executable_iff]
    refine h.flagged e (hdemoted.others e he fun hlane => ?_) hnonce hbefore
    exact Nat.le_of_lt (hbefore gap hgap hlane.symm)
  · rw [hdemoted.reflagged.same.holds_iff]
    exact h.missing gap hgap

theorem Sound.demotions {demotions : List TransactionId} (h : Sound nonces gaps s)
    (hgaps : ∀ gap ∈ demotions, gap ∈ gaps)
    (hs' : demotions.foldl (fun s id => s.demoteFromNonce id.seqId id.nonce) s = s') :
    Sound nonces gaps s' ∧ Reflagged s s' ∧
      (∀ e ∈ s'.byId, e.isPending = true → e ∈ s.byId) ∧
      ∀ e ∈ s'.byId, ∀ gap ∈ demotions, gap.seqId = e.seqId → gap.nonce < e.nonce →
        e.isPending = false := by
  induction demotions generalizing s with
  | nil =>
    subst hs'
    exact ⟨h, .refl s, fun e he _ => he, nofun⟩
  | cons gap demotions ih =>
    have hdemoted : Demoted gap.seqId gap.nonce s _ := demoteFromNonce_demoted h.stocked
    obtain ⟨hsound, hreflagged, hpending, hqueued⟩ :=
      ih (h.demote (hgaps gap List.mem_cons_self) hdemoted)
        (fun other hother => hgaps other (List.mem_cons_of_mem gap hother)) hs'
    refine ⟨hsound, hdemoted.reflagged.trans hreflagged, fun e he hflag => ?_,
      fun e he other hother hlane hlt => ?_⟩
    · exact hdemoted.pending e (hpending e he hflag) hflag
    · rcases List.mem_cons.mp hother with rfl | hother
      · refine Bool.eq_false_iff.mpr fun hflag => ?_
        have hqueued := hdemoted.queued e (hpending e he hflag) hlane.symm hlt
        rw [hflag] at hqueued
        cases hqueued
      · exact hqueued e he other hother hlane hlt

end Demotion

/-! ## Calls that remove -/

section Recording

variable {demotions : List TransactionId}

theorem mem_recordDemotion {first : TransactionId} (h : first ∈ Pool.recordDemotion id demotions) :
    first = id ∨ first ∈ demotions := by
  induction demotions with
  | nil => exact .inl (List.mem_singleton.mp h)
  | cons head rest ih =>
    unfold Pool.recordDemotion at h
    split at h
    · rcases List.mem_cons.mp h with rfl | h
      · split
        · exact .inl rfl
        · exact .inr List.mem_cons_self
      · exact .inr (List.mem_cons_of_mem head h)
    · rcases List.mem_cons.mp h with rfl | h
      · exact .inr List.mem_cons_self
      · exact (ih h).imp_right (List.mem_cons_of_mem head)

/-- The nonce recorded for the lane of a removed transaction is not above its own. -/
theorem exists_mem_recordDemotion_self : ∃ first ∈ Pool.recordDemotion id demotions,
    first.seqId = id.seqId ∧ first.nonce ≤ id.nonce := by
  induction demotions with
  | nil => exact ⟨id, List.mem_singleton_self id, rfl, Nat.le_refl _⟩
  | cons head rest ih =>
    unfold Pool.recordDemotion
    split
    · next hlane =>
      refine ⟨_, List.mem_cons_self, ?_⟩
      split
      · exact ⟨rfl, Nat.le_refl _⟩
      · exact ⟨hlane, by omega⟩
    · obtain ⟨first, hfirst, hbelow⟩ := ih
      exact ⟨first, List.mem_cons_of_mem head hfirst, hbelow⟩

/-- Recorded nonces only decrease. -/
theorem exists_mem_recordDemotion {old : TransactionId} (h : old ∈ demotions) :
    ∃ first ∈ Pool.recordDemotion id demotions,
      first.seqId = old.seqId ∧ first.nonce ≤ old.nonce := by
  induction demotions with
  | nil => cases h
  | cons head rest ih =>
    unfold Pool.recordDemotion
    split
    · next hlane =>
      rcases List.mem_cons.mp h with rfl | h
      · refine ⟨_, List.mem_cons_self, ?_⟩
        split
        · exact ⟨hlane.symm, by omega⟩
        · exact ⟨rfl, Nat.le_refl _⟩
      · exact ⟨old, List.mem_cons_of_mem _ h, rfl, Nat.le_refl _⟩
    · rcases List.mem_cons.mp h with rfl | h
      · exact ⟨old, List.mem_cons_self, rfl, Nat.le_refl _⟩
      · obtain ⟨first, hfirst, hbelow⟩ := ih h
        exact ⟨first, List.mem_cons_of_mem head hfirst, hbelow⟩

end Recording

theorem Pool.Current.congr (h : s.Current nonces) (hview : s'.view = s.view) :
    s'.Current nonces := by
  have hbyId : s'.byId = s.byId := congrArg View.byId hview
  intro e he
  exact h e (hbyId ▸ he)

section Calls

variable [NonceSlots]

/-- A pool between two calls. -/
structure Settled (nonces : SequenceId → ℕ) (s : Pool) : Prop where
  sound : Sound nonces [] s
  current : s.Current nonces

theorem Settled.congr (h : Settled nonces s) (hview : s'.view = s.view) : Settled nonces s' :=
  ⟨h.sound.congr hview, h.current.congr hview⟩

theorem Pool.Current.removeEntry (h : s.Current nonces) : (s.removeEntry e).Current nonces :=
  fun other hother => h other (mem_removeEntry.mp hother).1

/-- Demotions from the first gap of every lane close the gaps. -/
theorem settled_demotions {demotions : List TransactionId} (h : Sound nonces gaps s)
    (hcurrent : s.Current nonces) (hgaps : ∀ gap ∈ demotions, gap ∈ gaps)
    (hcovered : ∀ gap ∈ gaps, ∃ first ∈ demotions,
      first.seqId = gap.seqId ∧ first.nonce ≤ gap.nonce) :
    Settled nonces (demotions.foldl (fun s id => s.demoteFromNonce id.seqId id.nonce) s) := by
  obtain ⟨hsound, hreflagged, -, hqueued⟩ := h.demotions hgaps rfl
  refine ⟨hsound.close fun e he gap hgap hlane hle => ?_, hreflagged.same.current hcurrent⟩
  obtain ⟨first, hfirst, hsame, hbefore⟩ := hcovered gap hgap
  refine hqueued e he first hfirst (hsame.trans hlane) ?_
  refine Nat.lt_of_le_of_ne (hbefore.trans hle) fun hnonce => ?_
  refine (hsound.missing first (hgaps first hfirst)).2 (holds_iff.mpr ⟨e, he, ?_⟩)
  rw [← e.eta_id, ← hnonce, ← hlane, ← hsame]

theorem Settled.removeEntry_demote (h : Settled nonces s) (he : e ∈ s.byId) :
    Settled nonces ((s.removeEntry e).demoteDescendants e.id) :=
  settled_demotions (h.sound.removeEntry he (h.current e he)) h.current.removeEntry
    (fun _ hgap => hgap) fun gap hgap => ⟨gap, hgap, rfl, Nat.le_refl _⟩

/-! ### By hash -/

/-- What is removed for a hash, before anything is demoted. -/
theorem removeTransactionByHashNoDemote_cases (s : Pool) (hash : B256) :
    (∃ (s' : Pool) (removed : _), s.removeTransactionByHashNoDemote hash = (s', removed) ∧
        s'.view = s.view ∧ ∀ tx id, removed ≠ some (tx, some id)) ∨
      ∃ (s' : Pool) (e : InternalTransaction) (tx : PooledTransaction),
        s.removeTransactionByHashNoDemote hash = (s'.removeEntry e, some (tx, some e.id)) ∧
        s'.view = s.view ∧ e ∈ s.byId := by
  unfold Pool.removeTransactionByHashNoDemote
  cases s.byHash hash with
  | none => exact .inl ⟨s, none, rfl, rfl, nofun⟩
  | some tx =>
    dsimp only
    split
    · refine .inl ⟨_, _, rfl, view_removeExpiringNonceTx, fun _ _ hremoved => ?_⟩
      obtain ⟨_, _, hremoved⟩ := Option.map_eq_some_iff.mp hremoved
      cases hremoved
    · rcases removeTransactionById_cases
        { s with byHash := update s.byHash hash none } tx.id with
        ⟨hremoved, -⟩ | ⟨e, he, hid, hremoved⟩
      · rw [hremoved]
        exact .inl ⟨_, _, rfl, rfl, nofun⟩
      · rw [hremoved]
        refine .inr ⟨{ s with byHash := update s.byHash hash none }, e, tx, ?_, rfl, he⟩
        rw [hid]
        rfl

variable {hashes : List B256}

/-- The gaps of a batch, with the first of every lane recorded. -/
theorem removeHashes_sound {demotions : List TransactionId} (h : Sound nonces gaps s)
    (hcurrent : s.Current nonces) (hgaps : ∀ gap ∈ demotions, gap ∈ gaps)
    (hcovered : ∀ gap ∈ gaps, ∃ first ∈ demotions,
      first.seqId = gap.seqId ∧ first.nonce ≤ gap.nonce) :
    ∃ gaps', Sound nonces gaps' (s.removeHashes demotions hashes).1 ∧
      (s.removeHashes demotions hashes).1.Current nonces ∧
      (∀ gap ∈ (s.removeHashes demotions hashes).2, gap ∈ gaps') ∧
      ∀ gap ∈ gaps', ∃ first ∈ (s.removeHashes demotions hashes).2,
        first.seqId = gap.seqId ∧ first.nonce ≤ gap.nonce := by
  induction hashes generalizing s gaps demotions with
  | nil => exact ⟨gaps, h, hcurrent, hgaps, hcovered⟩
  | cons hash hashes ih =>
    unfold Pool.removeHashes
    rcases removeTransactionByHashNoDemote_cases s hash with
      ⟨s', removed, hremoved, hview, hnone⟩ | ⟨s', e, tx, hremoved, hview, he⟩
    · rw [hremoved]
      have hrest := ih (h.congr hview) (hcurrent.congr hview) hgaps hcovered
      match removed, hnone with
      | none, _ => exact hrest
      | some (_, none), _ => exact hrest
      | some (tx, some id), hnone => exact absurd rfl (hnone tx id)
    · rw [hremoved]
      have hbyId : s'.byId = s.byId := congrArg View.byId hview
      have he' : e ∈ s'.byId := hbyId ▸ he
      refine ih ((h.congr hview).removeEntry he' (hcurrent e he))
        (hcurrent.congr hview).removeEntry (fun first hfirst => ?_) (fun gap hgap => ?_)
      · exact List.mem_cons.mpr ((mem_recordDemotion hfirst).imp_right (hgaps first))
      · rcases List.mem_cons.mp hgap with rfl | hgap
        · exact exists_mem_recordDemotion_self
        · obtain ⟨old, hold, hlane, hle⟩ := hcovered gap hgap
          obtain ⟨first, hfirst, hsame, hbelow⟩ := exists_mem_recordDemotion hold
          exact ⟨first, hfirst, hsame.trans hlane, hbelow.trans hle⟩

theorem Settled.removeTransactions (h : Settled nonces s) :
    Settled nonces (s.removeTransactions hashes) := by
  obtain ⟨gaps, hsound, hcurrent, hgaps, hcovered⟩ :=
    removeHashes_sound h.sound h.current (fun _ hgap => hgap) nofun
  exact settled_demotions hsound hcurrent hgaps hcovered

theorem Settled.removeTransactionByHash (h : Settled nonces s) {hash : B256} :
    Settled nonces (s.removeTransactionByHash hash).1 := by
  unfold Pool.removeTransactionByHash
  rcases removeTransactionByHashNoDemote_cases s hash with
    ⟨s', removed, hremoved, hview, hnone⟩ | ⟨s', e, tx, hremoved, hview, he⟩
  · rw [hremoved]
    match removed, hnone with
    | none, _ => exact h.congr hview
    | some (_, none), _ => exact h.congr hview
    | some (tx, some id), hnone => exact absurd rfl (hnone tx id)
  · rw [hremoved]
    have hbyId : s'.byId = s.byId := congrArg View.byId hview
    exact (h.congr hview).removeEntry_demote (hbyId ▸ he)

/-! ### With descendants -/

theorem length_removeEntry_lt (he : e ∈ s.byId) :
    (s.removeEntry e).byId.length < s.byId.length := by
  rw [removeEntry_byId, List.length_filter_lt_length_iff_exists]
  exact ⟨e, he, by simp⟩

/-- The loop empties the lane after a transaction. -/
theorem removeDescendantsLoop_sound {fuel : ℕ} (id : TransactionId) (h : Sound nonces gaps s)
    (hcurrent : s.Current nonces) (hfuel : s.byId.length < fuel) :
    ∃ gaps', Sound nonces gaps' (s.removeDescendantsLoop id fuel) ∧
      (∀ gap ∈ gaps', gap ∈ gaps ∨ (gap.seqId = id.seqId ∧ id.nonce < gap.nonce)) ∧
      (∀ e ∈ (s.removeDescendantsLoop id fuel).byId, e ∈ s.byId) ∧
      ∀ e ∈ (s.removeDescendantsLoop id fuel).byId, e.seqId = id.seqId → e.nonce ≤ id.nonce := by
  induction fuel generalizing s id gaps with
  | zero => cases hfuel
  | succ fuel ih =>
    have hmem : ∀ e, e ∈ s.descendantTxsExclusive id ↔
        e ∈ s.byId ∧ e.seqId = id.seqId ∧ id.nonce < e.nonce := by
      intro e
      unfold Pool.descendantTxsExclusive
      rw [mem_laneTxs, decide_eq_true_iff]
    unfold Pool.removeDescendantsLoop
    cases hlane : s.descendantTxsExclusive id with
    | nil =>
      refine ⟨gaps, h, fun gap hgap => .inl hgap, fun e he => he, fun e he hsame => ?_⟩
      refine Nat.le_of_not_lt fun hlt => ?_
      have hdescendant := (hmem e).mpr ⟨he, hsame, hlt⟩
      rw [hlane] at hdescendant
      cases hdescendant
    | cons descendant rest =>
      have hsorted : (descendant :: rest).Pairwise fun left right => left.nonce < right.nonce :=
        hlane ▸ pairwise_laneTxs h.stocked.ids _
      obtain ⟨hfirst, hsame, hlt⟩ := (hmem descendant).mp (hlane ▸ List.mem_cons_self)
      rcases removeTransactionById_cases s descendant.id with
        ⟨-, hmissing⟩ | ⟨e, he, hid, hremoved⟩
      · exact absurd (holds_of_mem hfirst) hmissing
      obtain rfl := eq_of_id_eq h.stocked.ids he hfirst hid
      dsimp only
      rw [hremoved]
      have hlength := length_removeEntry_lt he
      obtain ⟨gaps', hsound, hgaps, hsubset, hempty⟩ :=
        ih e.id (h.removeEntry he (hcurrent e he)) hcurrent.removeEntry (by omega)
      refine ⟨gaps', hsound, fun gap hgap => ?_, fun other hother => ?_,
        fun other hother hother_lane => ?_⟩
      · rcases hgaps gap hgap with hgap | ⟨hgap_lane, hgap_lt⟩
        · rcases List.mem_cons.mp hgap with rfl | hgap
          · exact .inr ⟨hsame, hlt⟩
          · exact .inl hgap
        · exact .inr ⟨hgap_lane.trans hsame, Nat.lt_trans hlt hgap_lt⟩
      · exact (mem_removeEntry.mp (hsubset other hother)).1
      · -- what comes after the transaction is the first descendant or comes after that one
        refine Nat.le_of_not_lt fun hafter => ?_
        obtain ⟨hother_mem, hother_id⟩ := mem_removeEntry.mp (hsubset other hother)
        have hle := hempty other hother (hother_lane.trans hsame.symm)
        have hdescendant := (hmem other).mpr ⟨hother_mem, hother_lane, hafter⟩
        rw [hlane] at hdescendant
        rcases List.mem_cons.mp hdescendant with rfl | hrest
        · exact hother_id rfl
        · exact absurd ((List.pairwise_cons.mp hsorted).1 other hrest) (Nat.not_lt.mpr hle)

theorem Settled.removeDescendants (h : Settled nonces s) :
    Settled nonces (s.removeDescendants id) := by
  obtain ⟨gaps, hsound, hgaps, hsubset, hempty⟩ :=
    removeDescendantsLoop_sound id h.sound h.current (Nat.lt_succ_self _)
  refine ⟨hsound.close fun e he gap hgap hlane hle => ?_, fun e he => h.current e (hsubset e he)⟩
  obtain hgap | ⟨hsame, hlt⟩ := hgaps gap hgap
  · cases hgap
  · have := hempty e he (hlane.symm.trans hsame)
    omega

theorem Settled.removeTransactionsAndDescendants (h : Settled nonces s) :
    Settled nonces (s.removeTransactionsAndDescendants hashes) := by
  induction hashes generalizing s with
  | nil => exact h
  | cons hash hashes ih =>
    refine ih ?_
    dsimp only
    split
    · exact h.removeTransactionByHash.removeDescendants
    · exact h.removeTransactionByHash

/-! ### By sender -/

variable {sender : Address}

/-- Gaps of a batch of transactions of one sender. -/
theorem removeSenderTxs_sound {txs : List PooledTransaction} (h : Sound nonces gaps s)
    (hcurrent : s.Current nonces) (htxs : ∀ tx ∈ txs, tx.sender = sender)
    (hgaps : ∀ gap ∈ gaps, gap.seqId.address = sender) (hs' : txs.foldl (fun s tx =>
      if tx.isExpiringNonce then (s.removeExpiringNonceTx tx.precomputedExpiringNonceHash).1
      else (s.removeTransactionById tx.id).1) s = s') :
    ∃ gaps', Sound nonces gaps' s' ∧ (∀ gap ∈ gaps', gap.seqId.address = sender) ∧
      (∀ e ∈ s'.byId, e ∈ s.byId) ∧
      ∀ tx ∈ txs, tx.isExpiringNonce = false → ¬ s'.Holds tx.id := by
  induction txs generalizing s gaps with
  | nil =>
    subst hs'
    exact ⟨gaps, h, hgaps, fun e he => he, nofun⟩
  | cons tx txs ih =>
    have hrest := (List.forall_mem_cons.mp htxs).2
    rw [List.foldl_cons] at hs'
    cases hkind : tx.isExpiringNonce with
    | true =>
      rw [hkind, if_pos rfl] at hs'
      have hview : (s.removeExpiringNonceTx tx.precomputedExpiringNonceHash).1.view = s.view :=
        view_removeExpiringNonceTx
      have hbyId : (s.removeExpiringNonceTx tx.precomputedExpiringNonceHash).1.byId = s.byId :=
        congrArg View.byId hview
      obtain ⟨gaps', hsound, haddress, hsubset, hgone⟩ :=
        ih (h.congr hview) (hcurrent.congr hview) hrest hgaps hs'
      exact ⟨gaps', hsound, haddress, fun e he => hbyId ▸ hsubset e he, List.forall_mem_cons.mpr
        ⟨fun hregular => (nomatch hkind.symm.trans hregular), hgone⟩⟩
    | false =>
      rw [hkind, if_neg Bool.false_ne_true] at hs'
      rcases removeTransactionById_cases s tx.id with ⟨hremoved, hmissing⟩ | ⟨e, he, hid, hremoved⟩
      · rw [hremoved] at hs'
        obtain ⟨gaps', hsound, haddress, hsubset, hgone⟩ := ih h hcurrent hrest hgaps hs'
        refine ⟨gaps', hsound, haddress, hsubset, List.forall_mem_cons.mpr
          ⟨fun _ hholds => ?_, hgone⟩⟩
        obtain ⟨e, he, hid⟩ := holds_iff.mp hholds
        exact hmissing (holds_iff.mpr ⟨e, hsubset e he, hid⟩)
      · rw [hremoved] at hs'
        obtain ⟨gaps', hsound, haddress, hsubset, hgone⟩ :=
          ih (h.removeEntry he (hcurrent e he)) hcurrent.removeEntry hrest
            (List.forall_mem_cons.mpr ⟨by rw [hid]; exact htxs tx List.mem_cons_self, hgaps⟩) hs'
        refine ⟨gaps', hsound, haddress, fun other hother =>
          (mem_removeEntry.mp (hsubset other hother)).1, List.forall_mem_cons.mpr
          ⟨fun _ hholds => ?_, hgone⟩⟩
        obtain ⟨held, hheld, hheld_id⟩ := holds_iff.mp hholds
        exact (mem_removeEntry.mp (hsubset held hheld)).2 (hheld_id.trans hid.symm)

theorem Settled.removeTransactionsBySender (h : Settled nonces s) :
    Settled nonces (s.removeTransactionsBySender sender) := by
  have htxs : ∀ tx ∈ s.transactionsBySender sender, tx.sender = sender := by
    intro tx htx
    rcases List.mem_append.mp htx with htx | htx <;>
      exact of_decide_eq_true (List.mem_filter.mp htx).2
  obtain ⟨gaps, hsound, haddress, hsubset, hgone⟩ :=
    removeSenderTxs_sound h.sound h.current htxs nofun rfl
  refine ⟨hsound.close fun e he gap hgap hlane _ => ?_, fun e he => h.current e (hsubset e he)⟩
  -- a transaction of the lane of a gap is one of those that were removed
  have hsender : e.inner.transaction.sender = sender :=
    (congrArg SequenceId.address hlane.symm).trans (haddress gap hgap)
  have he' := hsubset e he
  have hlisted : e.inner.transaction ∈ s.transactionsBySender sender := by
    refine List.mem_append_left _ (List.mem_filter.mpr ⟨?_, decide_eq_true hsender⟩)
    exact List.mem_map.mpr ⟨e, he', rfl⟩
  exact absurd (holds_of_mem he) (hgone _ hlisted (h.sound.stocked.regular e he'))

end Calls

end Monotempo.Pool2d
