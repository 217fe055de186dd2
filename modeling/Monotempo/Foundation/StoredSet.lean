/-
  A set kept as a vector and a table of positions.

  Source: `crates/precompiles/src/storage/types/set.rs` (`SetHandler`).

  The vector lists the members; the table has for each value one more than its index,
  and zero for values that are not members.  Removal moves the last member into the
  gap.  An intact set has a table that agrees with its vector, and on intact sets the
  operations are those of a plain list of members.
-/
import Mathlib.Algebra.Group.Nat.Defs
import Mathlib.Data.List.Nodup

set_option autoImplicit false

namespace Monotempo.Foundation

open Function

variable {α : Type} [DecidableEq α]

/-- `Set<T>` in storage: `values` and `positions`. -/
structure StoredSet (α : Type) where
  values : List α
  positions : α → ℕ

/-- `checked_position`: one more than the index, if it fits a `u32`. -/
def checkedPosition (index : ℕ) : Option ℕ := if index + 1 < 2 ^ 32 then some (index + 1) else none

namespace StoredSet

/-- The set in empty storage. -/
def empty : StoredSet α := ⟨[], fun _ => 0⟩

/-- `contains`. -/
def contains (s : StoredSet α) (value : α) : Bool := s.positions value != 0

/-- `insert`, without its answer; `none` if the position overflows. -/
def insert (s : StoredSet α) (value : α) : Option (StoredSet α) :=
  if s.contains value then some s
  else do
    let position ← checkedPosition s.values.length
    some ⟨s.values ++ [value], update s.positions value position⟩

/-- `remove`: whether the value was a member, and the set without it. -/
def remove [Inhabited α] (s : StoredSet α) (value : α) : Bool × StoredSet α :=
  let position := s.positions value
  if position = 0 then (false, s)
  else
    let lastIndex := s.values.length - 1
    let index := position - 1
    let last := s.values.getD lastIndex default
    let moved : StoredSet α :=
      if index ≠ lastIndex then
        ⟨s.values.set index last, update s.positions last position⟩
      else s
    (true, ⟨moved.values.take lastIndex, update moved.positions value 0⟩)

/-- The table without the positions of the members. -/
def clearPositions (s : StoredSet α) : α → ℕ := fun value =>
  if value ∈ s.values then 0 else s.positions value

/-- `delete`. -/
def delete (s : StoredSet α) : StoredSet α := ⟨[], s.clearPositions⟩

/-- The loop of `write` over the new values. -/
def writePositions : ℕ → List α → (α → ℕ) → Option (α → ℕ)
  | _, [], positions => some positions
  | index, value :: rest, positions => do
    let position ← checkedPosition index
    writePositions (index + 1) rest (update positions value position)

/-- `write`. -/
def write (s : StoredSet α) (values : List α) : Option (StoredSet α) := do
  let positions ← writePositions 0 values s.clearPositions
  some ⟨values, positions⟩

/-- The positions of a list of members. -/
def positionsOf (values : List α) (value : α) : ℕ :=
  if value ∈ values then values.idxOf value + 1 else 0

/-- The table agrees with the vector, which has no duplicates. -/
structure Intact (s : StoredSet α) : Prop where
  nodup : s.values.Nodup
  positions : s.positions = positionsOf s.values

variable {s s' : StoredSet α} {value : α}

theorem Intact.empty : Intact (empty : StoredSet α) :=
  ⟨List.nodup_nil, by funext value; simp [StoredSet.empty, positionsOf]⟩

theorem Intact.contains (h : s.Intact) : s.contains value = decide (value ∈ s.values) := by
  unfold StoredSet.contains
  rw [h.positions, positionsOf]
  split <;> simp_all

theorem Intact.clearPositions (h : s.Intact) : s.clearPositions = fun _ => 0 := by
  funext value
  unfold StoredSet.clearPositions
  rw [h.positions, positionsOf]
  split <;> rfl

theorem Intact.delete (h : s.Intact) : s.delete = StoredSet.empty := by
  unfold StoredSet.delete
  rw [h.clearPositions]
  rfl

theorem positionsOf_concat {values : List α} (hnew : value ∉ values) :
    positionsOf (values ++ [value]) =
      update (positionsOf values) value (values.length + 1) := by
  funext other
  by_cases heq : other = value
  · subst heq
    rw [update_self, positionsOf, if_pos (by simp), List.idxOf_append_of_notMem hnew]
    simp
  · rw [update_of_ne heq, positionsOf, positionsOf]
    by_cases hmem : other ∈ values
    · rw [if_pos (by simp [hmem]), if_pos hmem, List.idxOf_append_of_mem hmem]
    · rw [if_neg (by simp [hmem, heq]), if_neg hmem]

theorem Intact.insert (h : s.Intact) (hinsert : s.insert value = some s') :
    s'.Intact ∧ s'.values = if value ∈ s.values then s.values else s.values ++ [value] := by
  unfold StoredSet.insert at hinsert
  rw [h.contains] at hinsert
  by_cases hmem : value ∈ s.values
  · rw [decide_eq_true hmem, if_pos rfl] at hinsert
    obtain rfl := Option.some.inj hinsert
    rw [if_pos hmem]
    exact ⟨h, rfl⟩
  · rw [decide_eq_false hmem, if_neg Bool.false_ne_true] at hinsert
    obtain ⟨position, hposition, heq⟩ := Option.bind_eq_some_iff.mp hinsert
    obtain rfl := Option.some.inj heq
    unfold checkedPosition at hposition
    split at hposition
    · obtain rfl := Option.some.inj hposition
      rw [if_neg hmem]
      refine ⟨⟨?_, ?_⟩, rfl⟩
      · rw [← List.concat_eq_append, List.nodup_concat]
        exact ⟨hmem, h.nodup⟩
      · show update s.positions value _ = positionsOf (s.values ++ [value])
        rw [positionsOf_concat hmem, h.positions]
    · exact nomatch hposition

/-- The loop of `write` continues the positions of what it wrote. -/
theorem writePositions_concat {done rest : List α} {positions : α → ℕ}
    (hnodup : (done ++ rest).Nodup)
    (h : writePositions done.length rest (positionsOf done) = some positions) :
    positions = positionsOf (done ++ rest) := by
  induction rest generalizing done with
  | nil =>
    rw [List.append_nil]
    exact (Option.some.inj h).symm
  | cons value rest ih =>
    obtain ⟨position, hposition, hrest⟩ := Option.bind_eq_some_iff.mp h
    have hnew : value ∉ done := fun hmem =>
      (List.nodup_append.mp hnodup).2.2 value hmem value List.mem_cons_self rfl
    unfold checkedPosition at hposition
    split at hposition
    · obtain rfl := Option.some.inj hposition
      rw [← positionsOf_concat hnew] at hrest
      rw [List.append_cons] at hnodup ⊢
      refine ih hnodup ?_
      rw [List.length_append, List.length_singleton]
      exact hrest
    · exact nomatch hposition

theorem Intact.write (h : s.Intact) {values : List α} (hnodup : values.Nodup)
    (hwrite : s.write values = some s') : s'.Intact ∧ s'.values = values := by
  obtain ⟨positions, hpositions, heq⟩ := Option.bind_eq_some_iff.mp hwrite
  obtain rfl := Option.some.inj heq
  rw [h.clearPositions] at hpositions
  have hstart : (fun _ => 0 : α → ℕ) = positionsOf [] := by
    funext value
    simp [positionsOf]
  exact ⟨⟨hnodup, @writePositions_concat _ _ [] values positions hnodup hpositions⟩, rfl⟩

/-- The positions after the last member took the place of another. -/
theorem positionsOf_swap {left right : List α} {last : α}
    (hnodup : (left ++ value :: right ++ [last]).Nodup) :
    positionsOf (left ++ last :: right) = update (update
      (positionsOf (left ++ value :: right ++ [last])) last (left.length + 1)) value 0 := by
  funext other
  by_cases hvalue : other = value
  · rw [hvalue, update_self, positionsOf, if_neg]
    grind
  · rw [update_of_ne hvalue]
    by_cases hlast : other = last
    · have hleft : last ∉ left := by grind
      rw [hlast, update_self, positionsOf, if_pos (by simp),
        List.idxOf_append_of_notMem hleft, List.idxOf_cons_self]
    · rw [update_of_ne hlast, positionsOf, positionsOf]
      have hsame : other ∈ left ++ value :: right ++ [last] ↔ other ∈ left ++ last :: right := by
        simp only [List.mem_append, List.mem_cons, List.not_mem_nil]
        tauto
      by_cases hmem : other ∈ left ++ last :: right
      · rw [if_pos hmem, if_pos (hsame.mpr hmem), List.append_assoc]
        by_cases hleft : other ∈ left
        · rw [List.idxOf_append_of_mem hleft, List.idxOf_append_of_mem hleft]
        · have hright : other ∈ right := by
            simp only [List.mem_append, List.mem_cons] at hmem
            tauto
          rw [List.idxOf_append_of_notMem hleft, List.idxOf_append_of_notMem hleft,
            List.cons_append, List.idxOf_cons_ne _ fun heq => hvalue heq.symm,
            List.idxOf_cons_ne _ fun heq => hlast heq.symm, List.idxOf_append_of_mem hright]
      · rw [if_neg hmem, if_neg (hsame.not.mpr hmem)]

variable [Inhabited α]

omit [Inhabited α] in
/-- What is at the position of a value that has one. -/
theorem Intact.getElem?_position (h : s.Intact) (hposition : s.positions value ≠ 0) :
    s.values[s.positions value - 1]? = some value := by
  rw [h.positions] at hposition ⊢
  unfold positionsOf at hposition ⊢
  by_cases hmem : value ∈ s.values
  · rw [if_pos hmem, Nat.add_sub_cancel]
    exact List.getElem?_idxOf hmem
  · exact absurd (if_neg hmem) hposition

omit [Inhabited α] in
theorem Intact.mem_iff (h : s.Intact) : value ∈ s.values ↔ s.positions value ≠ 0 := by
  rw [h.positions]
  unfold positionsOf
  split <;> simp_all

/-- `remove` where the last member takes the place. -/
theorem remove_of_ne (hposition : s.positions value ≠ 0)
    (hne : s.positions value - 1 ≠ s.values.length - 1) :
    (s.remove value).2 =
      ⟨(s.values.set (s.positions value - 1)
          (s.values.getD (s.values.length - 1) default)).take (s.values.length - 1),
        update (update s.positions
          (s.values.getD (s.values.length - 1) default) (s.positions value)) value 0⟩ := by
  unfold StoredSet.remove
  simp only [hposition, if_false, if_pos hne]

theorem remove_of_eq (hposition : s.positions value ≠ 0)
    (heq : s.positions value - 1 = s.values.length - 1) :
    (s.remove value).2 =
      ⟨s.values.take (s.values.length - 1), update s.positions value 0⟩ := by
  unfold StoredSet.remove
  simp only [hposition, if_false, heq, ne_eq, not_true]

theorem Intact.remove_last (h : s.Intact) {left : List α} (hvalues : s.values = left ++ [value]) :
    s.remove value = (true, ⟨left, positionsOf left⟩) := by
  have hnew : value ∉ left := by
    have hnodup := h.nodup
    rw [hvalues, ← List.concat_eq_append, List.nodup_concat] at hnodup
    exact hnodup.1
  have hpositions : s.positions = update (positionsOf left) value (left.length + 1) := by
    rw [h.positions, hvalues, positionsOf_concat hnew]
  have hposition : s.positions value = left.length + 1 := by
    rw [hpositions, update_self]
  have habsent : positionsOf left value = 0 := if_neg hnew
  unfold StoredSet.remove
  simp only [hposition, hvalues, List.length_append, List.length_singleton,
    Nat.add_sub_cancel, Nat.succ_ne_zero, if_false, ne_eq, not_true]
  rw [List.take_left' rfl, hpositions, update_idem, ← habsent,
    update_eq_self]

/-- Removing another member: the last one takes its place. -/
theorem Intact.remove_swap (h : s.Intact) {left right : List α} {last : α}
    (hvalues : s.values = left ++ value :: right ++ [last]) :
    s.remove value = (true, ⟨left ++ last :: right, positionsOf (left ++ last :: right)⟩) := by
  have hnodup := h.nodup
  rw [hvalues] at hnodup
  have hleft : value ∉ left := by
    grind
  have hposition : s.positions value = left.length + 1 := by
    rw [h.positions, hvalues, positionsOf, if_pos (by simp), List.append_assoc,
      List.idxOf_append_of_notMem hleft, List.cons_append, List.idxOf_cons_self]
  have hlength : s.values.length - 1 = (left ++ value :: right).length := by
    rw [hvalues, List.length_append, List.length_singleton, Nat.add_sub_cancel]
  have hlast : s.values.getD (s.values.length - 1) default = last := by
    rw [hlength, hvalues, List.getD_eq_getElem?_getD, List.getElem?_concat_length]
    rfl
  have hmoved : (s.values.set left.length last).take (s.values.length - 1) =
      left ++ last :: right := by
    rw [hlength, hvalues, List.append_assoc, List.set_append_right _ _ (Nat.le_refl _),
      Nat.sub_self, List.cons_append, List.set_cons_zero, ← List.cons_append, ← List.append_assoc]
    refine List.take_left' ?_
    simp
  have hgap : left.length ≠ s.values.length - 1 := by
    rw [hlength, List.length_append, List.length_cons]
    omega
  unfold StoredSet.remove
  simp only [hposition, hlast, Nat.succ_ne_zero, if_false, Nat.add_sub_cancel, if_pos hgap]
  rw [hmoved, positionsOf_swap hnodup, h.positions, hvalues]

theorem Intact.remove (h : s.Intact) :
    (s.remove value).2.Intact ∧ (s.remove value).1 = decide (value ∈ s.values) ∧
      ∀ other, other ∈ (s.remove value).2.values ↔ other ∈ s.values ∧ other ≠ value := by
  have hnodup := h.nodup
  by_cases hmem : value ∈ s.values
  · obtain ⟨left, right, hvalues⟩ := List.append_of_mem hmem
    rw [decide_eq_true hmem]
    rcases List.eq_nil_or_concat right with rfl | ⟨right, last, rfl⟩
    · rw [h.remove_last hvalues]
      rw [hvalues] at hnodup ⊢
      simp only [List.nodup_append, List.mem_singleton] at hnodup
      refine ⟨⟨hnodup.1, rfl⟩, rfl, fun other => ?_⟩
      grind
    · rw [List.concat_eq_append, ← List.cons_append, ← List.append_assoc] at hvalues
      rw [h.remove_swap hvalues]
      rw [hvalues] at hnodup ⊢
      refine ⟨⟨?_, rfl⟩, rfl, fun other => ?_⟩
      · simp only [List.nodup_append, List.nodup_cons, List.mem_cons]
        grind
      · simp only [List.mem_append, List.mem_cons, List.not_mem_nil, or_false]
        grind
  · have hposition : s.positions value = 0 := by
      rw [h.positions, positionsOf, if_neg hmem]
    have hremove : s.remove value = (false, s) := by
      unfold StoredSet.remove
      rw [hposition, if_pos rfl]
    rw [hremove, decide_eq_false hmem]
    refine ⟨h, rfl, fun other => ⟨fun hother => ⟨hother, ?_⟩, And.left⟩⟩
    rintro rfl
    exact hmem hother

end StoredSet

end Monotempo.Foundation
