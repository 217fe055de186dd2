/-
  Families of amounts and the reserve behind them.

  Two notions are used throughout.  `Backed f r`: the reserve `r` covers every
  finite part of the family of claims `f`, which for a family with finitely many
  nonzero members is the statement that `r` is at least their sum.  `Totals f n`:
  the family has finitely many nonzero members and they sum to exactly `n`.

  Both come with the rule for changing one member: that is what a ledger does in
  one step, so invariants of whole runs reduce to it.
-/
import Mathlib.Algebra.Order.BigOperators.Group.Finset
import Mathlib.Algebra.BigOperators.Ring.Finset

set_option autoImplicit false

namespace Monotempo.Foundation

open Finset

variable {r r' : ℤ} {n : ℕ} {ι : Type}

/-! ## Claims covered by a reserve -/

/-- The reserve `r` covers every finite part of the family of claims `f`.  It is an
integer, so that what is owed elsewhere can be taken off it. -/
def Backed (f : ι → ℕ) (r : ℤ) : Prop :=
  ∀ S : Finset ι, ((∑ i ∈ S, f i : ℕ) : ℤ) ≤ r

variable {f : ι → ℕ}

theorem Backed.mono (h : Backed f r) (hr : r ≤ r') :
    Backed f r' :=
  fun S => (h S).trans hr

theorem Backed.of_le {g : ι → ℕ} (h : Backed f r) (hle : ∀ i, g i ≤ f i) :
    Backed g r :=
  fun S => (Int.ofNat_le.mpr (Finset.sum_le_sum fun i _ => hle i)).trans (h S)

theorem backed_zero (hr : 0 ≤ r) : Backed (fun _ : ι => 0) r := by
  intro S
  simpa using hr

theorem Backed.le (h : Backed f r) (i : ι) : (f i : ℤ) ≤ r := by
  simpa using h {i}

/-- Two families of claims, each with its own reserve. -/
theorem Backed.add {g : ι → ℕ} (h : Backed f r) (h' : Backed g r') :
    Backed (fun i => f i + g i) (r + r') := by
  intro S
  rw [Finset.sum_add_distrib, Nat.cast_add]
  exact add_le_add (h S) (h' S)

theorem Backed.mul {r : ℕ} (h : Backed f r) (k : ℕ) :
    Backed (fun i => f i * k) (r * k : ℕ) := by
  intro S
  rw [← Finset.sum_mul]
  exact Int.ofNat_le.mpr (Nat.mul_le_mul_right k (Int.ofNat_le.mp (h S)))

/-- Claims whose multiples are covered by a multiple. -/
theorem Backed.of_mul {r k : ℕ} (hk : 0 < k) (h : Backed (fun i => k * f i) (k * r : ℕ)) :
    Backed f r := by
  intro S
  have hsum := Int.ofNat_le.mp (h S)
  rw [← Finset.mul_sum] at hsum
  exact Int.ofNat_le.mpr (Nat.le_of_mul_le_mul_left hsum hk)

variable [DecidableEq ι]

/-- Replacing one claim: the reserve has to move by at least as much as the
claim does. -/
theorem Backed.update (h : Backed f r) (i : ι) {v : ℕ} (hv : r + v ≤ r' + f i) :
    Backed (Function.update f i v) r' := by
  intro S
  have hrest : ∑ j ∈ S.erase i, Function.update f i v j = ∑ j ∈ S.erase i, f j := by
    refine Finset.sum_congr rfl fun j hj => ?_
    exact Function.update_of_ne (Finset.ne_of_mem_erase hj) v f
  have hwith : ((f i + ∑ j ∈ S.erase i, f j : ℕ) : ℤ) ≤ r := by
    have hinsert := h (insert i (S.erase i))
    rwa [Finset.sum_insert (Finset.notMem_erase i S)] at hinsert
  by_cases hi : i ∈ S
  · rw [← Finset.add_sum_erase S _ hi, hrest, Function.update_self]
    omega
  · rw [Finset.erase_eq_of_notMem hi] at hrest hwith
    omega

/-- Changing one claim, stated for a family that agrees with the old one
everywhere else. -/
theorem Backed.change {g : ι → ℕ} (h : Backed f r) (i : ι) (hother : ∀ j, j ≠ i → g j ≤ f j)
    (hv : r + g i ≤ r' + f i) : Backed g r' := by
  have hupdate := h.update i hv
  refine hupdate.of_le fun j => ?_
  by_cases hj : j = i
  · subst hj
    simp
  · rw [Function.update_of_ne hj]
    exact hother j hj

/-! ## Exact totals -/

/-- The family has finitely many nonzero members, and they sum to `n`. -/
def Totals (f : ι → ℕ) (n : ℕ) : Prop :=
  ∃ S : Finset ι, (∀ i, i ∉ S → f i = 0) ∧ ∑ i ∈ S, f i = n

omit [DecidableEq ι] in
theorem totals_zero : Totals (fun _ : ι => 0) 0 :=
  ⟨∅, by simp, by simp⟩

/-- Replacing one member moves the total by the same amount. -/
theorem Totals.update {n' : ℕ} (h : Totals f n) (i : ι) {v : ℕ} (hv : n + v = n' + f i) :
    Totals (Function.update f i v) n' := by
  obtain ⟨S, houtside, hsum⟩ := h
  refine ⟨insert i S, ?_, ?_⟩
  · intro j hj
    rw [Finset.mem_insert, not_or] at hj
    rw [Function.update_of_ne hj.1]
    exact houtside j hj.2
  · have hrest : ∑ j ∈ (insert i S).erase i, Function.update f i v j =
        ∑ j ∈ (insert i S).erase i, f j := by
      refine Finset.sum_congr rfl fun j hj => ?_
      exact Function.update_of_ne (Finset.ne_of_mem_erase hj) v f
    have hall : ∑ j ∈ insert i S, f j = n := by
      by_cases hi : i ∈ S
      · rw [Finset.insert_eq_of_mem hi, hsum]
      · rw [Finset.sum_insert hi, houtside i hi, hsum, Nat.zero_add]
    have hmem : i ∈ insert i S := Finset.mem_insert_self i S
    rw [← Finset.add_sum_erase _ _ hmem] at hall
    rw [← Finset.add_sum_erase _ _ hmem, hrest, Function.update_self]
    omega

theorem Totals.backed (h : Totals f n) : Backed f n := by
  obtain ⟨S, houtside, hsum⟩ := h
  intro T
  refine Int.ofNat_le.mpr ?_
  have hsplit : ∑ i ∈ T, f i = ∑ i ∈ T ∩ S, f i := by
    refine (Finset.sum_subset Finset.inter_subset_left fun i hi hnot => ?_).symm
    refine houtside i fun hS => hnot ?_
    exact Finset.mem_inter.mpr ⟨hi, hS⟩
  rw [hsplit, ← hsum]
  exact Finset.sum_le_sum_of_subset Finset.inter_subset_right

theorem Totals.le (h : Totals f n) (i : ι) : f i ≤ n :=
  Int.ofNat_le.mp (h.backed.le i)

end Monotempo.Foundation
