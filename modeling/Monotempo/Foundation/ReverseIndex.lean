/-
  Tables that lead from keys back to entries.

  Entries are numbered, and some of them have a key.  A table of positions has for every key that
  is in use one more than the number of its entry; what it has for other keys is not said.  A
  table of flags has exactly the keys in use.  Either way no two entries have the same key.
-/
import Mathlib.Logic.Function.Basic
import Mathlib.Data.Nat.Notation

set_option autoImplicit false

namespace Monotempo.Foundation

open Function

variable {κ : Type} [DecidableEq κ] {i j : ℕ} {k : κ}

/-! ## Positions -/

/-- The table has one more than the number of the entry that has a key. -/
def Indexed (table : κ → ℕ) (key : ℕ → Option κ) : Prop :=
  ∀ i k, key i = some k → table k = i + 1

section Positions

variable {table : κ → ℕ} {key key' : ℕ → Option κ}

section Indexing

variable (h : Indexed table key)

include h

omit [DecidableEq κ] in
theorem Indexed.unique (hi : key i = some k) (hj : key j = some k) :
    i = j :=
  Nat.succ.inj ((h i k hi).symm.trans (h j k hj))

omit [DecidableEq κ] in
/-- Entries may lose their key. -/
theorem Indexed.mono (hsub : ∀ i k, key' i = some k → key i = some k) :
    Indexed table key' :=
  fun i k hi => h i k (hsub i k hi)

omit [DecidableEq κ] in
theorem Indexed.unused (hk : table k = 0) (i : ℕ) : key i ≠ some k := by
  intro hi
  rw [h i k hi] at hk
  exact Nat.succ_ne_zero i hk

/-- An entry gets a key that no other entry has. -/
theorem Indexed.write (hfree : ∀ j, j ≠ i → key j ≠ some k) :
    Indexed (update table k (i + 1)) (update key i (some k)) := by
  intro j k' hj
  by_cases hij : j = i
  · subst hij
    rw [update_self] at hj
    obtain rfl := Option.some.inj hj
    rw [update_self]
  · rw [update_of_ne hij] at hj
    have hne : k' ≠ k := fun heq => hfree j hij (heq ▸ hj)
    rw [update_of_ne hne]
    exact h j k' hj

/-- What the table has for a key that is not in use can be changed. -/
theorem Indexed.forget (hfree : ∀ j, key j ≠ some k) (v : ℕ) :
    Indexed (update table k v) key := by
  intro j k' hj
  have hne : k' ≠ k := fun heq => hfree j (heq ▸ hj)
  rw [update_of_ne hne]
  exact h j k' hj

omit [DecidableEq κ] in
/-- Entry `i` loses its key, and the key is not in use any more. -/
theorem Indexed.drop (hi : key i = some k) :
    Indexed table (update key i none) ∧
      ∀ j, update key i none j ≠ some k := by
  have hkept : ∀ j k', update key i none j = some k' → j ≠ i ∧ key j = some k' := by
    intro j k' hj
    by_cases hij : j = i
    · subst hij
      rw [update_self] at hj
      exact nomatch hj
    · rw [update_of_ne hij] at hj
      exact ⟨hij, hj⟩
  refine ⟨h.mono fun j k' hj => (hkept j k' hj).2, fun j hj => ?_⟩
  obtain ⟨hij, hj⟩ := hkept j k hj
  exact hij (h.unique hj hi)

/-- Entry `i` changes its key for one that is not in use. -/
theorem Indexed.rename {old new : κ} (hi : key i = some old) (hfree : ∀ j, key j ≠ some new) :
    Indexed (update (update table old 0) new (i + 1))
      (update key i (some new)) := by
  obtain ⟨hdropped, hunused⟩ := h.drop hi
  have hwritten := (hdropped.forget hunused 0).write (i := i) (k := new) fun j hij hj => by
    rw [update_of_ne hij] at hj
    exact hfree j hj
  rwa [update_idem] at hwritten

/-- Entry `i` hands its key over to an entry without one and takes one that is not in use. -/
theorem Indexed.handOver {old new : κ} (hi : key i = some old) (hj : key j = none)
    (hfree : ∀ m, key m ≠ some new) :
    Indexed (update (update table old (j + 1)) new (i + 1))
      (update (update key j (some old)) i (some new)) := by
  obtain ⟨hdropped, hunused⟩ := h.drop hi
  have hij : i ≠ j := by
    rintro rfl
    rw [hi] at hj
    exact nomatch hj
  have hhanded := hdropped.write (i := j) fun m _ => hunused m
  have htaken := hhanded.write (i := i) (k := new) fun m hmi hm => by
    by_cases hmj : m = j
    · subst hmj
      rw [update_self] at hm
      exact hfree i (hi.trans hm)
    · rw [update_of_ne hmj, update_of_ne hmi] at hm
      exact hfree m hm
  rwa [update_comm hij, update_idem] at htaken

end Indexing

end Positions

/-! ## Flags -/

/-- The flags are set for the keys in use, and no two entries have the same key. -/
structure Flagged (flag : κ → Bool) (key : ℕ → Option κ) : Prop where
  set : ∀ k, flag k = true ↔ ∃ i, key i = some k
  unique : ∀ i j k, key i = some k → key j = some k → i = j

section Flags

variable {flag : κ → Bool} {key : ℕ → Option κ}

theorem Flagged.write (h : Flagged flag key) (hnone : key i = none) (hfree : flag k = false) :
    Flagged (update flag k true) (update key i (some k)) := by
  have hunused : ∀ j, key j ≠ some k := fun j hj => by
    rw [(h.set k).mpr ⟨j, hj⟩] at hfree
    exact nomatch hfree
  have hother : ∀ j k', update key i (some k) j = some k' →
      (j = i ∧ k' = k) ∨ (j ≠ i ∧ key j = some k') := by
    intro j k' hj
    by_cases hij : j = i
    · subst hij
      rw [update_self] at hj
      exact .inl ⟨rfl, (Option.some.inj hj).symm⟩
    · rw [update_of_ne hij] at hj
      exact .inr ⟨hij, hj⟩
  refine ⟨fun k' => ?_, fun j j' k' hj hj' => ?_⟩
  · by_cases hk : k' = k
    · subst hk
      simp only [update_self, true_iff]
      exact ⟨i, update_self ..⟩
    · rw [update_of_ne hk, h.set k']
      constructor
      · rintro ⟨j, hj⟩
        have hij : j ≠ i := by
          rintro rfl
          rw [hnone] at hj
          exact nomatch hj
        exact ⟨j, by rw [update_of_ne hij, hj]⟩
      · rintro ⟨j, hj⟩
        obtain ⟨-, heq⟩ | ⟨-, hj⟩ := hother j k' hj
        · exact absurd heq hk
        · exact ⟨j, hj⟩
  · obtain ⟨rfl, rfl⟩ | ⟨-, hold⟩ := hother j k' hj
    · obtain ⟨rfl, -⟩ | ⟨-, hold'⟩ := hother j' k' hj'
      · rfl
      · exact absurd hold' (hunused j')
    · obtain ⟨-, rfl⟩ | ⟨-, hold'⟩ := hother j' k' hj'
      · exact absurd hold (hunused j)
      · exact h.unique j j' k' hold hold'

theorem Flagged.clear (h : Flagged flag key) (hi : key i = some k) :
    Flagged (update flag k false) (update key i none) := by
  have hother : ∀ j k', update key i none j = some k' ↔ j ≠ i ∧ key j = some k' := by
    intro j k'
    by_cases hij : j = i
    · subst hij
      simp
    · simp [hij]
  refine ⟨fun k' => ?_, fun j j' k' hj hj' => ?_⟩
  · simp only [hother]
    by_cases hk : k' = k
    · subst hk
      simp only [update_self, Bool.false_eq_true, false_iff]
      rintro ⟨j, hij, hj⟩
      exact hij (h.unique j i k' hj hi)
    · rw [update_of_ne hk, h.set k']
      constructor
      · rintro ⟨j, hj⟩
        refine ⟨j, ?_, hj⟩
        rintro rfl
        exact hk (Option.some.inj (hj.symm.trans hi))
      · rintro ⟨j, -, hj⟩
        exact ⟨j, hj⟩
  · exact h.unique j j' k' ((hother j k').mp hj).2 ((hother j' k').mp hj').2

end Flags

end Monotempo.Foundation
