/-
  On-chain nonces change.

  Lanes are settled one after the other.  Mined transactions stay until all lanes are settled; the
  invariant says nothing about the flags of transactions below the on-chain nonce.
-/
import Monotempo.Pool2d.Eviction
import Monotempo.Pool2d.Lane

set_option autoImplicit false

namespace Monotempo.Pool2d

open Chain Function

variable {pending : Bool} {minedIds : List TransactionId} {s s' : Pool} {id : TransactionId}
  {nonces nonces' : SequenceId → ℕ} {e existing : InternalTransaction} {seqId : SequenceId}
  {onChain next : ℕ} {rest : List InternalTransaction} {changes : List (SequenceId × ℕ)}
  {state : StorageChanges}

/-! ## The independent transaction -/

theorem Ascending.id_notMem (h : Ascending next (existing :: rest)) :
    existing.id ∉ rest.map InternalTransaction.id := by
  intro hmem
  obtain ⟨other, hother, hid⟩ := List.mem_map.mp hmem
  have hlt := h.tail.bound other hother
  have hnonce : other.nonce = existing.nonce := congrArg TransactionId.nonce hid
  omega

theorem independent_assignPending :
    (s.assignPending existing pending).independent = s.independent := by
  unfold Pool.assignPending
  split
  · rfl
  · split <;> rfl

/-- The transaction at the on-chain nonce becomes the independent one. -/
theorem settleRest_independent (h : Ascending next rest) (hle : onChain ≤ next) :
    (Pool.settleRest onChain next s rest).1.independent =
      match rest.find? fun e => e.nonce = onChain with
      | some e => update s.independent e.seqId (some e.inner)
      | none => s.independent := by
  induction rest generalizing next s with
  | nil => rfl
  | cons existing rest ih =>
    have hnone : ∀ e ∈ rest, ¬ decide (e.nonce = onChain) = true := by
      intro e he hfound
      have hfirst := h.bound existing List.mem_cons_self
      have hlt := h.tail.bound e he
      have := of_decide_eq_true hfound
      omega
    unfold Pool.settleRest
    split
    · next hnext =>
      subst hnext
      rw [h.succ_first, ih h.tail (Nat.le_succ_of_le hle), List.find?_eq_none.mpr hnone]
      dsimp only
      split
      · next hfront =>
        rw [List.find?_cons_of_pos (by simpa using hfront)]
        show update (s.assignPending existing true).independent _ _ = _
        rw [independent_assignPending]
        rfl
      · next hfront =>
        rw [List.find?_cons_of_neg (by simpa using hfront), List.find?_eq_none.mpr hnone]
        exact independent_assignPending
    · next hnext =>
      have hfront : existing.nonce ≠ onChain := by
        have := h.bound existing List.mem_cons_self
        omega
      have htail := h.tail.mono (Nat.le_succ_of_le (h.bound existing List.mem_cons_self))
      rw [ih htail hle, List.find?_cons_of_neg (by simpa using hfront),
        List.find?_eq_none.mpr hnone]
      exact independent_assignPending

/-- The next nonce stays at the on-chain nonce if no transaction has it. -/
theorem settleRest_next (h : Ascending next rest) (hle : onChain ≤ next) :
    (Pool.settleRest onChain next s rest).2 = onChain ↔
      next = onChain ∧ ∀ e ∈ rest, e.nonce ≠ onChain := by
  induction rest generalizing next s with
  | nil => exact ⟨fun hnext => ⟨hnext, nofun⟩, And.left⟩
  | cons existing rest ih =>
    unfold Pool.settleRest
    split
    · next hnext =>
      subst hnext
      rw [h.succ_first, ih h.tail (Nat.le_succ_of_le hle)]
      refine iff_of_false (fun hsame => ?_) fun hsame => ?_
      · omega
      · exact hsame.2 existing List.mem_cons_self hsame.1
    · next hnext =>
      have htail := h.tail.mono (Nat.le_succ_of_le (h.bound existing List.mem_cons_self))
      rw [ih htail hle, List.forall_mem_cons]
      refine and_congr_right fun hsame => (and_iff_right ?_).symm
      rwa [hsame] at hnext

theorem independentWithout_none {independent : SequenceId → Option StoredTransaction}
    {lane : SequenceId} :
    independentWithout independent seqId none lane =
      if lane = seqId then none else independent lane := by
  unfold independentWithout
  cases hfront : independent seqId with
  | none =>
    dsimp only
    split
    · next hlane => rw [hlane, hfront]
    · rfl
  | some tx =>
    dsimp only
    rw [if_pos (.inl rfl), update_apply]

/-- What is left of a lane after its mined transactions. -/
def leftOver (s : Pool) (seqId : SequenceId) (onChain : ℕ) : List InternalTransaction :=
  (s.laneTxs seqId fun _ => true).dropWhile fun e => e.nonce < onChain

theorem settleLane_pool : (s.settleLane seqId onChain).1 =
    if (leftOver s seqId onChain).isEmpty then s
    else if (Pool.settleRest onChain onChain s (leftOver s seqId onChain)).2 = onChain then
      (Pool.settleRest onChain onChain s (leftOver s seqId onChain)).1.removeIndependent seqId none
    else (Pool.settleRest onChain onChain s (leftOver s seqId onChain)).1 := by
  unfold Pool.settleLane leftOver
  dsimp only
  split <;> rfl

/-! ## Changed nonces -/

theorem executable_congr (h : nonces' id.seqId = nonces id.seqId) :
    s.Executable nonces' id ↔ s.Executable nonces id := by
  unfold Pool.Executable
  rw [h]

theorem fronted_update (hsame : SameTxs s s') (hfronted : s.Fronted nonces)
    (hother : ∀ lane, lane ≠ seqId → s'.independent lane = s.independent lane)
    (hlane : ∀ tx, s'.independent seqId = some tx ↔
      ∃ e ∈ s.byId, e.inner = tx ∧ e.seqId = seqId ∧ e.nonce = onChain) :
    s'.Fronted (update nonces seqId onChain) := by
  refine ⟨fun e he hnonce => ?_, fun lane tx htx => ?_⟩
  · obtain ⟨flag, hold⟩ := hsame.exists_mem he
    by_cases hseqId : e.seqId = seqId
    · rw [hseqId, update_self] at hnonce
      rw [hseqId, hlane]
      exact ⟨_, hold, rfl, hseqId, hnonce⟩
    · rw [update_of_ne hseqId] at hnonce
      rw [hother e.seqId hseqId]
      exact hfronted.present { e with isPending := flag } hold hnonce
  · have hmem : ∃ e ∈ s.byId, e.inner = tx ∧ e.seqId = lane ∧
        e.nonce ≤ update nonces seqId onChain lane := by
      by_cases hseqId : lane = seqId
      · subst hseqId
        obtain ⟨e, he, hinner, hsame_lane, hnonce⟩ := (hlane tx).mp htx
        rw [update_self]
        exact ⟨e, he, hinner, hsame_lane, Nat.le_of_eq hnonce⟩
      · rw [hother lane hseqId] at htx
        rw [update_of_ne hseqId]
        exact hfronted.stored lane tx htx
    obtain ⟨e, he, hinner, hsame_lane, hle⟩ := hmem
    obtain ⟨flag, hnew⟩ := hsame.symm.exists_mem he
    exact ⟨_, hnew, hinner, hsame_lane, hle⟩

/-- On-chain nonces after changes. -/
def changeNonces (nonces : SequenceId → ℕ) (changes : List (SequenceId × ℕ)) : SequenceId → ℕ :=
  changes.foldl (fun nonces change => update nonces change.1 change.2) nonces

theorem changeNonces_of_notMem (h : seqId ∉ changes.map Prod.fst) :
    changeNonces nonces changes seqId = nonces seqId := by
  induction changes generalizing nonces with
  | nil => rfl
  | cons change changes ih =>
    rw [List.map_cons, List.mem_cons, not_or] at h
    exact (ih h.2).trans (update_of_ne h.1 ..)

theorem changeNonces_of_mem (hnodup : (changes.map Prod.fst).Nodup)
    (h : (seqId, onChain) ∈ changes) :
    changeNonces nonces changes seqId = onChain := by
  induction changes generalizing nonces with
  | nil => cases h
  | cons change changes ih =>
    rw [List.map_cons, List.nodup_cons] at hnodup
    rcases List.mem_cons.mp h with rfl | h
    · exact (changeNonces_of_notMem hnodup.1).trans (update_self ..)
    · exact ih hnodup.2 h

/-- The changes of lanes that are read off changed slots. -/
def laneChanges (s : Pool) (state : StorageChanges) : List (SequenceId × ℕ) :=
  state.entries.filterMap fun entry =>
    (s.slotToSeqId entry.1).map fun seqId => (seqId, saturatingToU64 entry.2)

theorem mem_laneChanges {nonce : ℕ} :
    (seqId, nonce) ∈ laneChanges s state ↔
      ∃ entry ∈ state.entries, s.slotToSeqId entry.1 = some seqId ∧
        saturatingToU64 entry.2 = nonce := by
  unfold laneChanges
  simp [List.mem_filterMap]

theorem mem_foldl_insertKey {entries : List InternalTransaction} {baseFee : ℕ}
    {keys : List EvictionKey} {key : EvictionKey}
    (h : key ∈ entries.foldl (fun keys e =>
      insertKey EvictionKey.order (EvictionKey.withBaseFee e.inner e.id baseFee) keys) keys) :
    key ∈ keys ∨ ∃ e ∈ entries, key = EvictionKey.withBaseFee e.inner e.id baseFee := by
  induction entries generalizing keys with
  | nil => exact .inl h
  | cons e entries ih =>
    rcases ih h with h | ⟨other, hother, hkey⟩
    · rcases mem_insertKey h with hkey | h
      · exact .inr ⟨e, List.mem_cons_self, hkey⟩
      · exact .inl h
    · exact .inr ⟨other, List.mem_cons_of_mem e hother, hkey⟩

variable [NonceSlots]

/-! ## What is left of a lane -/

/-- Flags of what is left of a lane are set, and no others. -/
structure Refreshed (next : ℕ) (rest : List InternalTransaction) (s s' : Pool) : Prop where
  same : SameTxs s s'
  stocked : Stocked s'
  flags : ∀ e ∈ s'.byId, e.id ∈ rest.map InternalTransaction.id →
    (e.isPending = true ↔ Gapless next rest e.nonce)
  others : ∀ e ∈ s'.byId, e.id ∉ rest.map InternalTransaction.id → e ∈ s.byId

/-- One flag is set. -/
structure Assigned (existing : InternalTransaction) (pending : Bool) (s s' : Pool) : Prop where
  same : SameTxs s s'
  stocked : Stocked s'
  flag : ∀ e ∈ s'.byId, e.id = existing.id → e.isPending = pending
  others : ∀ e, e.id ≠ existing.id → (e ∈ s'.byId ↔ e ∈ s.byId)

theorem assigned_of_byId (hreflagged : Reflagged s s') (hstocked : Stocked s')
    (hbyId : s'.byId = flagAll [existing.id] pending s.byId) :
    Assigned existing pending s s' := by
  refine ⟨hreflagged.same, hstocked, fun e he hid => ?_, fun e hid => ?_⟩
  · rw [hbyId, mem_flagAll, List.mem_singleton] at he
    rcases he with ⟨-, hother⟩ | ⟨hflag, -, -⟩
    · exact absurd hid hother
    · exact hflag
  · rw [hbyId, mem_flagAll, List.mem_singleton]
    simp [hid]

theorem assignPending_assigned (h : Stocked s) (hexisting : existing ∈ s.byId) (pending : Bool) :
    Assigned existing pending s (s.assignPending existing pending) := by
  have hstores := stores_of_mem hexisting
  unfold Pool.assignPending
  split
  · next hflag =>
    refine ⟨rfl, h, fun e he hid => ?_, fun e _ => Iff.rfl⟩
    rw [eq_of_id_eq h.ids he hexisting hid, hflag]
  · cases pending with
    | true =>
      exact assigned_of_byId reflagged_markPending (stocked_markPending h hstores)
        markPending_byId
    | false =>
      exact assigned_of_byId reflagged_markQueued (stocked_markQueued h hstores)
        markQueued_byId

theorem Assigned.insertIndependent {tx : StoredTransaction} (h : Assigned existing pending s s') :
    Assigned existing pending s (s'.insertIndependent tx) :=
  ⟨h.same, h.stocked.insertIndependent, h.flag, h.others⟩

/-- The flag of the first transaction, then those of the others. -/
theorem Refreshed.cons {s'' : Pool} {next' : ℕ} (hassigned : Assigned existing pending s s')
    (hrest : Refreshed next' rest s' s'')
    (hpending : pending = true ↔ Gapless next (existing :: rest) existing.nonce)
    (hgapless : ∀ e ∈ rest, Gapless next' rest e.nonce ↔ Gapless next (existing :: rest) e.nonce) :
    Refreshed next (existing :: rest) s s'' := by
  refine ⟨hassigned.same.trans hrest.same, hrest.stocked, fun e he hid => ?_, fun e he hid => ?_⟩
  · by_cases hother : e.id ∈ rest.map InternalTransaction.id
    · obtain ⟨other, hmem, hother_id⟩ := List.mem_map.mp hother
      have hnonce : other.nonce = e.nonce := congrArg TransactionId.nonce hother_id
      rw [hrest.flags e he hother, ← hnonce]
      exact hgapless other hmem
    · have hfirst : e.id = existing.id := (List.mem_cons.mp hid).resolve_right hother
      have hnonce : e.nonce = existing.nonce := congrArg TransactionId.nonce hfirst
      rw [hassigned.flag e (hrest.others e he hother) hfirst, hnonce]
      exact hpending
  · rw [List.map_cons, List.mem_cons, not_or] at hid
    exact (hassigned.others e hid.1).mp (hrest.others e he hid.2)

theorem settleRest_refreshed (h : Ascending next rest) (hstocked : Stocked s)
    (hmem : ∀ e ∈ rest, e ∈ s.byId) :
    Refreshed next rest s (Pool.settleRest onChain next s rest).1 := by
  induction rest generalizing next s with
  | nil => exact ⟨rfl, hstocked, nofun, fun e he _ => he⟩
  | cons existing rest ih =>
    have hexisting := hmem existing List.mem_cons_self
    have hothers : ∀ {pending : Bool} {s' : Pool}, Assigned existing pending s s' →
        ∀ e ∈ rest, e ∈ s'.byId := by
      intro pending s' hassigned e he
      refine (hassigned.others e fun hid => h.id_notMem ?_).mpr
        (hmem e (List.mem_cons_of_mem existing he))
      exact hid ▸ List.mem_map_of_mem he
    unfold Pool.settleRest
    split
    · next hnext =>
      subst hnext
      have hassigned : Assigned existing true s
          (if existing.nonce = onChain then
            (s.assignPending existing true).insertIndependent existing.inner
          else s.assignPending existing true) := by
        split
        · exact (assignPending_assigned hstocked hexisting true).insertIndependent
        · exact assignPending_assigned hstocked hexisting true
      rw [h.succ_first]
      refine .cons hassigned (ih h.tail hassigned.stocked (hothers hassigned))
        (iff_of_true rfl fun n hfrom hto => ?_) fun e _ => (gapless_cons_of_eq rfl).symm
      exact ⟨existing, List.mem_cons_self, Nat.le_antisymm hfrom hto⟩
    · next hnext =>
      have hassigned := assignPending_assigned hstocked hexisting false
      have hgap := h.of_ne hnext
      have htail : Ascending (next + 1) rest :=
        h.tail.mono (Nat.succ_le_succ (h.bound existing List.mem_cons_self))
      refine .cons hassigned
        (ih (htail.mono (Nat.le_succ next)) hassigned.stocked (hothers hassigned)) ?_ ?_
      · exact iff_of_false nofun (not_gapless hgap (h.bound existing List.mem_cons_self))
      · intro e he
        have hle := h.bound e (List.mem_cons_of_mem existing he)
        exact iff_of_false (not_gapless htail hle) (not_gapless hgap hle)

/-! ## One lane -/

theorem mem_leftOver (h : Stocked s) :
    e ∈ leftOver s seqId onChain ↔ e ∈ s.byId ∧ e.seqId = seqId ∧ onChain ≤ e.nonce := by
  unfold leftOver
  rw [mem_dropWhile_mined (pairwise_laneTxs h.ids _), mem_laneTxs]
  simp [and_assoc]

theorem ascending_leftOver (h : Stocked s) : Ascending onChain (leftOver s seqId onChain) := by
  refine ⟨?_, fun e he => ((mem_leftOver h).mp he).2.2, fun e he => ?_⟩
  · exact (pairwise_laneTxs h.ids _).sublist (List.dropWhile_sublist _)
  · exact h.small e ((mem_leftOver h).mp he).1

/-- The pool after a lane is settled, with the on-chain nonce of the lane. -/
theorem Sound.refreshed (h : Sound nonces [] s)
    (hrefreshed : Refreshed onChain (leftOver s seqId onChain) s s')
    (hfronted : s'.Fronted (update nonces seqId onChain)) :
    Sound (update nonces seqId onChain) [] s' := by
  refine ⟨hrefreshed.stocked, hfronted, fun e he hnonce _ => ?_, nofun⟩
  rw [hrefreshed.same.executable_iff]
  obtain ⟨flag, hold⟩ := hrefreshed.same.exists_mem he
  by_cases hlane : e.seqId = seqId
  · rw [hlane, update_self] at hnonce
    have hmem : { e with isPending := flag } ∈ leftOver s seqId onChain :=
      (mem_leftOver h.stocked).mpr ⟨hold, hlane, hnonce⟩
    rw [hrefreshed.flags e he (List.mem_map.mpr ⟨_, hmem, rfl⟩), ← e.eta_id, hlane]
    exact gapless_iff_executable (update_self ..) fun _ => mem_leftOver h.stocked
  · rw [update_of_ne hlane] at hnonce
    have hid : e.id ∉ (leftOver s seqId onChain).map InternalTransaction.id := by
      intro hid
      obtain ⟨other, hother, hid⟩ := List.mem_map.mp hid
      refine hlane ((congrArg TransactionId.seqId hid).symm.trans ?_)
      exact ((mem_leftOver h.stocked).mp hother).2.1
    rw [executable_congr (update_of_ne hlane ..)]
    exact h.flagged e (hrefreshed.others e he hid) hnonce nofun

/-- No transaction is left: all of the lane are mined. -/
theorem Sound.minedLane (h : Sound nonces [] s) (hempty : leftOver s seqId onChain = []) :
    Sound (update nonces seqId onChain) [] s := by
  have hmined : ∀ e ∈ s.byId, e.seqId = seqId → e.nonce < onChain := by
    intro e he hlane
    refine Nat.lt_of_not_le fun hle => ?_
    have hmem := (mem_leftOver h.stocked).mpr ⟨he, hlane, hle⟩
    rw [hempty] at hmem
    cases hmem
  refine h.refreshed (hempty ▸ ⟨rfl, h.stocked, nofun, fun e he _ => he⟩)
    ⟨fun e he hnonce => ?_, fun lane tx htx => ?_⟩
  · by_cases hlane : e.seqId = seqId
    · rw [hlane, update_self] at hnonce
      exact absurd hnonce (Nat.ne_of_lt (hmined e he hlane))
    · rw [update_of_ne hlane] at hnonce
      exact h.fronted.present e he hnonce
  · obtain ⟨e, he, hinner, rfl, hle⟩ := h.fronted.stored lane tx htx
    refine ⟨e, he, hinner, rfl, ?_⟩
    by_cases hlane : e.seqId = seqId
    · rw [hlane, update_self]
      exact Nat.le_of_lt (hmined e he hlane)
    · rwa [update_of_ne hlane]

theorem mem_settleLane_mined (h : Stocked s) :
    id ∈ (s.settleLane seqId onChain).2 ↔ s.Holds id ∧ id.seqId = seqId ∧ id.nonce < onChain := by
  have hmined : (s.settleLane seqId onChain).2 =
      ((s.laneTxs seqId fun _ => true).takeWhile fun e => e.nonce < onChain).map (·.id) := by
    unfold Pool.settleLane
    dsimp only
    split <;> rfl
  rw [hmined, List.mem_map, holds_iff]
  constructor
  · rintro ⟨e, he, rfl⟩
    rw [mem_takeWhile_mined (pairwise_laneTxs h.ids _), mem_laneTxs] at he
    exact ⟨⟨e, he.1.1, rfl⟩, he.1.2.1, he.2⟩
  · rintro ⟨⟨e, he, rfl⟩, hlane, hlt⟩
    refine ⟨e, ?_, rfl⟩
    rw [mem_takeWhile_mined (pairwise_laneTxs h.ids _), mem_laneTxs]
    exact ⟨⟨he, hlane, rfl⟩, hlt⟩

/-- There is a transaction at the on-chain nonce. -/
theorem fronted_of_mem (h : Sound nonces [] s) (hsame : SameTxs s s') {front : InternalTransaction}
    (hfront : front ∈ s.byId) (hnonce : front.nonce = onChain)
    (hindependent : s'.independent =
      update s.independent front.seqId (some front.inner)) :
    s'.Fronted (update nonces front.seqId onChain) := by
  refine fronted_update hsame h.fronted (fun lane hlane => ?_) fun tx => ?_
  · rw [hindependent, update_of_ne hlane]
  · rw [hindependent, update_self, Option.some.injEq]
    constructor
    · rintro rfl
      exact ⟨front, hfront, rfl, rfl, hnonce⟩
    · rintro ⟨e, he, rfl, hlane, hsame_nonce⟩
      have hid : front.id = e.id := by
        rw [← front.eta_id, ← e.eta_id, hlane, hsame_nonce, hnonce]
      rw [eq_of_id_eq h.stocked.ids hfront he hid]

/-- There is none. -/
theorem fronted_of_free (h : Sound nonces [] s) (hsame : SameTxs s s')
    (hfree : ∀ e ∈ leftOver s seqId onChain, e.nonce ≠ onChain)
    (hindependent : s'.independent = independentWithout s.independent seqId none) :
    s'.Fronted (update nonces seqId onChain) := by
  refine fronted_update hsame h.fronted (fun lane hlane => ?_) fun tx => ?_
  · rw [hindependent, independentWithout_none, if_neg hlane]
  · rw [hindependent, independentWithout_none, if_pos rfl]
    refine iff_of_false nofun ?_
    rintro ⟨e, he, -, hlane, hnonce⟩
    exact hfree e ((mem_leftOver h.stocked).mpr ⟨he, hlane, Nat.le_of_eq hnonce.symm⟩) hnonce

theorem settleLane_sound (h : Sound nonces [] s) (seqId : SequenceId) (onChain : ℕ) :
    Sound (update nonces seqId onChain) [] (s.settleLane seqId onChain).1 ∧
      SameTxs s (s.settleLane seqId onChain).1 := by
  have hascending : Ascending onChain (leftOver s seqId onChain) := ascending_leftOver h.stocked
  have hrefreshed : Refreshed onChain (leftOver s seqId onChain) s
      (Pool.settleRest onChain onChain s (leftOver s seqId onChain)).1 :=
    settleRest_refreshed hascending h.stocked fun e he => ((mem_leftOver h.stocked).mp he).1
  have hindependent := @settleRest_independent s _ _ _ hascending (Nat.le_refl onChain)
  have hnext := @settleRest_next s _ _ _ hascending (Nat.le_refl onChain)
  rw [settleLane_pool]
  split
  · next hempty => exact ⟨h.minedLane (List.isEmpty_iff.mp hempty), rfl⟩
  generalize Pool.settleRest onChain onChain s (leftOver s seqId onChain) = settled at *
  cases hfind : (leftOver s seqId onChain).find? fun e => e.nonce = onChain with
  | some front =>
    rw [hfind] at hindependent
    have hmem := List.mem_of_find?_eq_some hfind
    have hnonce : front.nonce = onChain := by simpa using List.find?_some hfind
    rw [if_neg fun hfree => (hnext.mp hfree).2 front hmem hnonce]
    obtain ⟨hfront, hlane, -⟩ := (mem_leftOver h.stocked).mp hmem
    refine ⟨h.refreshed hrefreshed ?_, hrefreshed.same⟩
    rw [← hlane]
    exact fronted_of_mem h hrefreshed.same hfront hnonce hindependent
  | none =>
    rw [hfind] at hindependent
    have hfree : ∀ e ∈ leftOver s seqId onChain, e.nonce ≠ onChain := fun e he hnonce =>
      List.find?_eq_none.mp hfind e he (decide_eq_true hnonce)
    rw [if_pos (hnext.mpr ⟨rfl, hfree⟩)]
    have hview : (settled.1.removeIndependent seqId none).view =
        { settled.1.view with
          independent := independentWithout settled.1.independent seqId none } :=
      view_removeIndependent
    have hbyId : (settled.1.removeIndependent seqId none).byId = settled.1.byId :=
      congrArg View.byId hview
    have hrefreshed' : Refreshed onChain (leftOver s seqId onChain) s
        (settled.1.removeIndependent seqId none) := by
      refine ⟨?_, hrefreshed.stocked.of_view hview, ?_, ?_⟩
      · unfold SameTxs
        rw [hbyId]
        exact hrefreshed.same
      · rw [hbyId]
        exact hrefreshed.flags
      · rw [hbyId]
        exact hrefreshed.others
    refine ⟨h.refreshed hrefreshed' (fronted_of_free h hrefreshed'.same hfree ?_),
      hrefreshed'.same⟩
    have hremoved := congrArg View.independent hview
    rwa [hindependent] at hremoved

/-! ## All lanes -/

/-- The transactions to remove at the end are the mined ones. -/
structure Mined (nonces : SequenceId → ℕ) (minedIds : List TransactionId) (s : Pool) : Prop where
  complete : ∀ e ∈ s.byId, e.nonce < nonces e.seqId → e.id ∈ minedIds
  sound : ∀ id ∈ minedIds, id.nonce < nonces id.seqId

theorem Mined.settleLane (h : Mined nonces minedIds s) (hstocked : Stocked s)
    (hsame : SameTxs s (s.settleLane seqId onChain).1) (hdone : ∀ id ∈ minedIds, id.seqId ≠ seqId) :
    Mined (update nonces seqId onChain) (minedIds ++ (s.settleLane seqId onChain).2)
      (s.settleLane seqId onChain).1 := by
  refine ⟨fun e he hlt => ?_, fun id hid => ?_⟩
  · obtain ⟨flag, hold⟩ := hsame.exists_mem he
    by_cases hlane : e.seqId = seqId
    · rw [hlane, update_self] at hlt
      refine List.mem_append_right _ ((mem_settleLane_mined hstocked).mpr ⟨?_, hlane, hlt⟩)
      exact holds_iff.mpr ⟨_, hold, rfl⟩
    · rw [update_of_ne hlane] at hlt
      exact List.mem_append_left _ (h.complete { e with isPending := flag } hold hlt)
  · rcases List.mem_append.mp hid with hid | hid
    · rw [update_of_ne (hdone id hid)]
      exact h.sound id hid
    · obtain ⟨-, hlane, hlt⟩ := (mem_settleLane_mined hstocked).mp hid
      rwa [hlane, update_self]

theorem settleLanes_sound (h : Sound nonces [] s) (hmined : Mined nonces minedIds s)
    (hnodup : (changes.map Prod.fst).Nodup)
    (hdone : ∀ id ∈ minedIds, id.seqId ∉ changes.map Prod.fst) :
    Sound (changeNonces nonces changes) [] (s.settleLanes minedIds changes).1 ∧
      Mined (changeNonces nonces changes) (s.settleLanes minedIds changes).2
        (s.settleLanes minedIds changes).1 ∧
      SameTxs s (s.settleLanes minedIds changes).1 := by
  induction changes generalizing s nonces minedIds with
  | nil => exact ⟨h, hmined, rfl⟩
  | cons change changes ih =>
    obtain ⟨seqId, onChain⟩ := change
    rw [List.map_cons, List.nodup_cons] at hnodup
    simp only [List.map_cons, List.mem_cons, not_or] at hdone
    obtain ⟨hsound, hsame⟩ := settleLane_sound h seqId onChain
    obtain ⟨hend, hend_mined, hend_same⟩ := ih hsound
      (hmined.settleLane h.stocked hsame fun id hid => (hdone id hid).1) hnodup.2 (by
        intro id hid
        rcases List.mem_append.mp hid with hid | hid
        · exact (hdone id hid).2
        · rw [((mem_settleLane_mined h.stocked).mp hid).2.1]
          exact hnodup.1)
    exact ⟨hend, hend_mined, hsame.trans hend_same⟩

theorem removeMined_sound (h : Sound nonces [] s)
    (hmined : ∀ id ∈ minedIds, id.nonce < nonces id.seqId)
    (hs' : minedIds.foldl (fun s id => (s.removeTransactionById id).1) s = s') :
    Sound nonces [] s' ∧ ∀ e ∈ s'.byId, e ∈ s.byId ∧ e.id ∉ minedIds := by
  induction minedIds generalizing s with
  | nil =>
    subst hs'
    exact ⟨h, fun e he => ⟨he, nofun⟩⟩
  | cons id minedIds ih =>
    have hrest : ∀ id ∈ minedIds, id.nonce < nonces id.seqId := fun other hother =>
      hmined other (List.mem_cons_of_mem id hother)
    rw [List.foldl_cons] at hs'
    simp only [List.mem_cons, not_or]
    rcases removeTransactionById_cases s id with ⟨hremoved, hmissing⟩ | ⟨old, hold, rfl, hremoved⟩
    · rw [hremoved] at hs'
      obtain ⟨hsound, hleft⟩ := ih h hrest hs'
      refine ⟨hsound, fun e he => ⟨(hleft e he).1, ?_, (hleft e he).2⟩⟩
      rintro rfl
      exact hmissing (holds_of_mem (hleft e he).1)
    · rw [hremoved] at hs'
      obtain ⟨hsound, hleft⟩ := ih (h.removeMined hold (hmined _ List.mem_cons_self)) hrest hs'
      refine ⟨hsound, fun e he => ?_⟩
      obtain ⟨he, hid⟩ := hleft e he
      exact ⟨(mem_removeEntry.mp he).1, (mem_removeEntry.mp he).2, hid⟩

theorem Settled.onNonceChanges (h : Settled nonces s) (hnodup : (changes.map Prod.fst).Nodup) :
    Settled (changeNonces nonces changes) (s.onNonceChanges changes) ∧
      ∀ e ∈ (s.onNonceChanges changes).byId, ∃ flag, { e with isPending := flag } ∈ s.byId := by
  have hmined : Mined nonces [] s :=
    ⟨fun e he hlt => absurd (h.current e he) (Nat.not_le.mpr hlt), nofun⟩
  obtain ⟨hsettled, hsettled_mined, hsame⟩ := settleLanes_sound h.sound hmined hnodup nofun
  obtain ⟨hsound, hleft⟩ := removeMined_sound hsettled hsettled_mined.sound rfl
  refine ⟨⟨hsound, fun e he => ?_⟩, fun e he => hsame.exists_mem (hleft e he).1⟩
  obtain ⟨he, hid⟩ := hleft e he
  exact Nat.le_of_not_lt fun hlt => hid (hsettled_mined.complete e he hlt)

/-! ## Calls -/

/-- On-chain nonces of lanes without transactions do not matter. -/
theorem Settled.congr_nonces (h : Settled nonces s)
    (hnonces : ∀ e ∈ s.byId, nonces' e.seqId = nonces e.seqId) : Settled nonces' s := by
  refine ⟨⟨h.sound.stocked, ⟨fun e he hnonce => ?_, fun seqId tx htx => ?_⟩,
    fun e he hnonce hbefore => ?_, nofun⟩, fun e he => ?_⟩
  · rw [hnonces e he] at hnonce
    exact h.sound.fronted.present e he hnonce
  · obtain ⟨e, he, hinner, rfl, hle⟩ := h.sound.fronted.stored seqId tx htx
    rw [← hnonces e he] at hle
    exact ⟨e, he, hinner, rfl, hle⟩
  · rw [hnonces e he] at hnonce
    rw [executable_congr (hnonces e he)]
    exact h.sound.flagged e he hnonce hbefore
  · rw [hnonces e he]
    exact h.current e he

/-- Different slots belong to different lanes. -/
theorem nodup_laneChanges (h : Stocked s) (state : StorageChanges) :
    ((laneChanges s state).map Prod.fst).Nodup := by
  have hlanes : (laneChanges s state).map Prod.fst =
      (state.entries.map Prod.fst).filterMap s.slotToSeqId := by
    unfold laneChanges
    rw [List.map_filterMap, List.filterMap_map]
    simp [comp_def]
  rw [hlanes]
  refine state.nodup.filterMap fun slot slot' seqId hslot hslot' => ?_
  rw [← h.tracked.slots slot seqId hslot, ← h.tracked.slots slot' seqId hslot']

/-- The report of a changed slot and the change of the lane are the same. -/
theorem reportNonces_eq (h : Stocked s)
    (hlane : s.slotToSeqId (NonceSlots.nonceKeySlot seqId) = some seqId) :
    reportNonces nonces (some state) seqId =
      changeNonces nonces (laneChanges s state) seqId := by
  unfold reportNonces StorageChanges.value
  dsimp only
  cases hfind : state.entries.find? fun entry => entry.1 = NonceSlots.nonceKeySlot seqId with
  | some entry =>
    have hslot : entry.1 = NonceSlots.nonceKeySlot seqId := by simpa using List.find?_some hfind
    refine (changeNonces_of_mem (nodup_laneChanges h state) ?_).symm
    exact mem_laneChanges.mpr
      ⟨entry, List.mem_of_find?_eq_some hfind, hslot ▸ hlane, rfl⟩
  | none =>
    refine (changeNonces_of_notMem fun hmem => ?_).symm
    obtain ⟨⟨_, nonce⟩, hchange, rfl⟩ := List.mem_map.mp hmem
    obtain ⟨entry, hentry, hslot, -⟩ := mem_laneChanges.mp hchange
    refine List.find?_eq_none.mp hfind entry hentry (decide_eq_true ?_)
    exact (h.tracked.slots entry.1 _ hslot).symm

theorem Settled.onStateUpdates (h : Settled nonces s) (state : Option StorageChanges) :
    Settled (reportNonces nonces state) (s.onStateUpdates state) := by
  cases state with
  | none => exact h
  | some state =>
    obtain ⟨hsettled, hlanes⟩ := h.onNonceChanges (nodup_laneChanges h.sound.stocked state)
    have hreported : Settled (reportNonces nonces (some state))
        (s.onNonceChanges (laneChanges s state)) := by
      refine hsettled.congr_nonces fun e he => ?_
      obtain ⟨flag, hold⟩ := hlanes e he
      exact reportNonces_eq h.sound.stocked
        (h.sound.stocked.tracked.lanes { e with isPending := flag } hold)
    refine Settled.discard ?_
    -- transactions with an expiring nonce are no concern of the invariant
    generalize (state.entries.filterMap fun entry =>
      if entry.2 ≠ 0 then s.slotToExpiringNonceHash entry.1 else none) = included
    change Settled _ (included.foldl _ (s.onNonceChanges (laneChanges s state)))
    generalize s.onNonceChanges (laneChanges s state) = pool at hreported ⊢
    induction included generalizing pool with
    | nil => exact hreported
    | cons hash included ih => exact ih _ (hreported.congr view_removeExpiringNonceTx)

theorem Settled.setBaseFee (h : Settled nonces s) (baseFee : ℕ) :
    Settled nonces (s.setBaseFee baseFee) := by
  unfold Pool.setBaseFee
  split
  · exact h
  · obtain ⟨⟨⟨ids, -, tracked, small, regular⟩, fronted, flagged, missing⟩, current⟩ := h
    refine ⟨⟨⟨ids, fun key hkey => ?_, ⟨tracked.lanes, tracked.slots⟩, small, regular⟩,
      ⟨fronted.present, fronted.stored⟩, flagged, missing⟩, current⟩
    rcases mem_foldl_insertKey hkey with hkey | ⟨e, he, hkey⟩
    · cases hkey
    · obtain ⟨he, hqueued⟩ := List.mem_filter.mp he
      exact ⟨e, he, of_decide_eq_true hqueued, hkey⟩

end Monotempo.Pool2d
