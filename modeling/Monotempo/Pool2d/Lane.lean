/-
  A lane read in the order of its nonces.

  Source: the loops of `add_transaction` and `on_nonce_changes_iter` in
  `crates/transaction-pool/src/tt_2d_pool.rs`, which follow the nonces of a lane as long as there
  is no gap.
-/
import Monotempo.Pool2d.Invariant

set_option autoImplicit false

namespace Monotempo.Pool2d

variable {s : Pool} {nonces : SequenceId → ℕ} {e : InternalTransaction} {seqId : SequenceId}
  {next nonce txNonce : ℕ} {lane : List InternalTransaction}

/-! ## Lanes without gaps -/

/-- The lane has every nonce from the next one on up to another one. -/
def Gapless (next : ℕ) (lane : List InternalTransaction) (nonce : ℕ) : Prop :=
  ∀ n, next ≤ n → n ≤ nonce → ∃ e ∈ lane, e.nonce = n

/-- What is left of a lane, with no nonce below the next one. -/
structure Ascending (next : ℕ) (lane : List InternalTransaction) : Prop where
  sorted : lane.Pairwise fun left right => left.nonce < right.nonce
  bound : ∀ e ∈ lane, next ≤ e.nonce
  small : ∀ e ∈ lane, e.nonce < 2 ^ 64 - 1

theorem Ascending.tail (h : Ascending next (e :: lane)) : Ascending (e.nonce + 1) lane := by
  obtain ⟨hfirst, hrest⟩ := List.pairwise_cons.mp h.sorted
  exact ⟨hrest, hfirst, fun other hother => h.small other (List.mem_cons_of_mem e hother)⟩

theorem Ascending.mono {next' : ℕ} (h : Ascending next lane) (hle : next' ≤ next) :
    Ascending next' lane :=
  ⟨h.sorted, fun e he => Nat.le_trans hle (h.bound e he), h.small⟩

theorem Ascending.succ_first (h : Ascending next (e :: lane)) :
    saturatingSucc e.nonce = e.nonce + 1 :=
  Nat.min_eq_left (h.small e List.mem_cons_self)

/-- The first transaction has the next nonce: the others go on from there. -/
theorem gapless_cons_of_eq (hfirst : e.nonce = next) :
    Gapless next (e :: lane) nonce ↔ Gapless (next + 1) lane nonce := by
  constructor
  · intro h n hfrom hle
    obtain ⟨other, hother, rfl⟩ := h n (by omega) hle
    rcases List.mem_cons.mp hother with rfl | hother
    · omega
    · exact ⟨other, hother, rfl⟩
  · intro h n hfrom hle
    by_cases hn : n = next
    · exact ⟨e, List.mem_cons_self, hfirst.trans hn.symm⟩
    · obtain ⟨other, hother, hnonce⟩ := h n (by omega) hle
      exact ⟨other, List.mem_cons_of_mem e hother, hnonce⟩

/-- There is a gap if no transaction has the next nonce. -/
theorem not_gapless (h : Ascending (next + 1) lane) (hle : next ≤ nonce) :
    ¬ Gapless next lane nonce := by
  intro hgapless
  obtain ⟨e, he, hnonce⟩ := hgapless next (Nat.le_refl next) hle
  have := h.bound e he
  omega

/-- If the first transaction has another nonce, there is a gap before it. -/
theorem Ascending.of_ne (h : Ascending next (e :: lane)) (hne : e.nonce ≠ next) :
    Ascending (next + 1) (e :: lane) := by
  have hfirst := h.bound e List.mem_cons_self
  refine ⟨h.sorted, fun other hother => ?_, h.small⟩
  rcases List.mem_cons.mp hother with rfl | hother
  · omega
  · have := h.tail.bound other hother
    omega

theorem ascending_laneTxs [NonceSlots] (h : Stocked s) {condition : ℕ → Bool}
    (hcondition : ∀ nonce, condition nonce = true → next ≤ nonce) :
    Ascending next (s.laneTxs seqId condition) := by
  refine ⟨pairwise_laneTxs h.ids condition, fun e he => ?_, fun e he => ?_⟩
  · exact hcondition e.nonce (mem_laneTxs.mp he).2.2
  · exact h.small e (mem_laneTxs.mp he).1

/-- A lane without gaps is what makes a transaction executable. -/
theorem gapless_iff_executable (hnext : nonces seqId = next)
    (hlane : ∀ e, e ∈ lane ↔ e ∈ s.byId ∧ e.seqId = seqId ∧ next ≤ e.nonce) :
    Gapless next lane nonce ↔ s.Executable nonces ⟨seqId, nonce⟩ := by
  subst hnext
  refine forall_congr' fun n => forall_congr' fun hfrom => forall_congr' fun _ => ?_
  rw [holds_iff]
  constructor
  · rintro ⟨e, he, rfl⟩
    obtain ⟨he, rfl, -⟩ := (hlane e).mp he
    exact ⟨e, he, rfl⟩
  · rintro ⟨e, he, hid⟩
    rw [← e.eta_id, TransactionId.mk.injEq] at hid
    exact ⟨e, (hlane e).mpr ⟨he, hid.1, hid.2 ▸ hfrom⟩, hid.2⟩

/-! ## Mined transactions -/

/-- Mined transactions come first. -/
theorem mem_takeWhile_mined
    (hsorted : lane.Pairwise fun left right => left.nonce < right.nonce) :
    e ∈ lane.takeWhile (fun e => e.nonce < nonce) ↔ e ∈ lane ∧ e.nonce < nonce := by
  induction lane with
  | nil => exact ⟨nofun, nofun⟩
  | cons first lane ih =>
    obtain ⟨hfirst, hrest⟩ := List.pairwise_cons.mp hsorted
    rw [List.takeWhile_cons]
    split
    · next hmined =>
      rw [List.mem_cons, List.mem_cons, ih hrest]
      constructor
      · rintro (rfl | ⟨he, hlt⟩)
        · exact ⟨.inl rfl, of_decide_eq_true hmined⟩
        · exact ⟨.inr he, hlt⟩
      · rintro ⟨rfl | he, hlt⟩
        · exact .inl rfl
        · exact .inr ⟨he, hlt⟩
    · next hmined =>
      refine ⟨nofun, fun ⟨he, hlt⟩ => absurd (decide_eq_true ?_) hmined⟩
      rcases List.mem_cons.mp he with rfl | he
      · exact hlt
      · exact Nat.lt_trans (hfirst e he) hlt

theorem mem_dropWhile_mined
    (hsorted : lane.Pairwise fun left right => left.nonce < right.nonce) :
    e ∈ lane.dropWhile (fun e => e.nonce < nonce) ↔ e ∈ lane ∧ nonce ≤ e.nonce := by
  induction lane with
  | nil => exact ⟨nofun, nofun⟩
  | cons first lane ih =>
    obtain ⟨hfirst, hrest⟩ := List.pairwise_cons.mp hsorted
    rw [List.dropWhile_cons]
    split
    · next hmined =>
      have hlt := of_decide_eq_true hmined
      rw [ih hrest, List.mem_cons]
      refine and_congr_left fun hle => (or_iff_right ?_).symm
      rintro rfl
      omega
    · next hmined =>
      refine (and_iff_left_of_imp fun he => ?_).symm
      have hle : nonce ≤ first.nonce := Nat.le_of_not_lt fun hlt => hmined (decide_eq_true hlt)
      rcases List.mem_cons.mp he with rfl | he
      · exact hle
      · exact Nat.le_trans hle (Nat.le_of_lt (hfirst e he))

/-! ## The scan after an addition -/

/-- The scan comes to the new transaction if there is no gap before it. -/
theorem scanLane_inserted (h : Ascending next lane) (hle : next ≤ txNonce) :
    (Pool.scanLane txNonce next lane).inserted = true ↔ Gapless next lane txNonce := by
  induction lane generalizing next with
  | nil =>
    refine ⟨nofun, fun hgapless => ?_⟩
    obtain ⟨_, hmem, -⟩ := hgapless next (Nat.le_refl next) hle
    cases hmem
  | cons e lane ih =>
    unfold Pool.scanLane
    split
    · next hfirst =>
      subst hfirst
      rw [gapless_cons_of_eq rfl, h.succ_first]
      split
      · exact ih h.tail (by omega)
      · have htx : e.nonce = txNonce := by omega
        rw [if_pos htx]
        refine iff_of_true rfl fun n hfrom hto => ?_
        omega
    · next hfirst => exact iff_of_false nofun (not_gapless (h.of_ne hfirst) hle)

/-- No transaction after the new one is pending, up to a nonce. -/
def Idle (txNonce : ℕ) (lane : List InternalTransaction) (nonce : ℕ) : Prop :=
  ∀ other ∈ lane, txNonce < other.nonce → other.nonce ≤ nonce → other.isPending = false

theorem idle_cons (hfirst : txNonce < e.nonce → e.isPending = false) :
    Idle txNonce (e :: lane) nonce ↔ Idle txNonce lane nonce := by
  unfold Idle
  rw [List.forall_mem_cons]
  exact and_iff_right fun hlt _ => hfirst hlt

/-- The scan promotes what follows the new transaction without a gap, up to the first one that is
pending. -/
theorem mem_scanLane_promoted (h : Ascending next lane) :
    e ∈ (Pool.scanLane txNonce next lane).promoted ↔
      e ∈ lane ∧ txNonce < e.nonce ∧ Gapless next lane e.nonce ∧ Idle txNonce lane e.nonce := by
  induction lane generalizing next with
  | nil => exact ⟨nofun, nofun⟩
  | cons first lane ih =>
    unfold Pool.scanLane
    split
    · next hfirst =>
      subst hfirst
      have ih := ih h.tail
      rw [gapless_cons_of_eq rfl, h.succ_first, List.mem_cons]
      by_cases hafter : txNonce < first.nonce
      · rw [if_neg (by omega), if_neg (by omega)]
        cases hflag : first.isPending with
        | true =>
          refine ⟨nofun, fun ⟨hmem, _, _, hidle⟩ => ?_⟩
          have hle : first.nonce ≤ e.nonce := by
            rcases hmem with rfl | hmem
            · exact Nat.le_refl _
            · exact Nat.le_of_lt (h.tail.bound e hmem)
          have hqueued := hidle first List.mem_cons_self hafter hle
          rw [hflag] at hqueued
          cases hqueued
        | false =>
          rw [if_neg Bool.false_ne_true, idle_cons fun _ => hflag, List.mem_cons, ih]
          constructor
          · rintro (rfl | ⟨hmem, hrest⟩)
            · refine ⟨.inl rfl, hafter, fun n hfrom hto => ?_, fun other hother _ hle => ?_⟩
              · omega
              · exact absurd (h.tail.bound other hother) (Nat.not_le.mpr (by omega))
            · exact ⟨.inr hmem, hrest⟩
          · rintro ⟨rfl | hmem, hrest⟩
            · exact .inl rfl
            · exact .inr ⟨hmem, hrest⟩
      · rw [idle_cons fun hlt => absurd hlt hafter]
        have hpromoted : e ∈ (Pool.scanLane txNonce (first.nonce + 1) lane).promoted ↔
            (e = first ∨ e ∈ lane) ∧ txNonce < e.nonce ∧ Gapless (first.nonce + 1) lane e.nonce ∧
              Idle txNonce lane e.nonce := by
          rw [ih]
          refine and_congr_left fun ⟨hlt, _⟩ => ?_
          exact (or_iff_right fun hsame : e = first => hafter (hsame ▸ hlt)).symm
        split
        · exact hpromoted
        · rw [if_pos (by omega)]
          exact hpromoted
    · next hfirst =>
      refine ⟨nofun, fun ⟨hmem, _, hgapless, _⟩ => ?_⟩
      exact absurd hgapless (not_gapless (h.of_ne hfirst) (h.bound e hmem))

end Monotempo.Pool2d
