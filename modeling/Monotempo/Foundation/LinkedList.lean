/-
  Doubly linked lists kept in a store.

  A store gives every node two pointers, `prev` and `next`; the null pointer is
  `0`.  `Segment next prev p nodes q` says that `nodes` is a doubly linked run
  of the store: the first node points back to `p`, the last one points on to
  `q`, and neighbours point at each other.  A whole list is `Segment .. 0 nodes 0`.

  The rules split and join segments, and say how a segment changes when one
  pointer at its end is overwritten.  Appending at the tail and unlinking a node
  anywhere are assembled from them.
-/
import Mathlib.Data.List.Nodup

set_option autoImplicit false

namespace Monotempo.Foundation

variable {ι : Type}

/-- `nodes` is a doubly linked run from predecessor `p` to successor `q`. -/
def Segment (next prev : ι → ι) : ι → List ι → ι → Prop
  | _, [], _ => True
  | p, x :: rest, q => prev x = p ∧ next x = rest.headD q ∧ Segment next prev x rest q

variable {next prev : ι → ι}

@[simp] theorem segment_nil {p q : ι} :
    Segment next prev p [] q := trivial

theorem segment_cons {p q x : ι} {rest : List ι} :
    Segment next prev p (x :: rest) q ↔
      prev x = p ∧ next x = rest.headD q ∧ Segment next prev x rest q := Iff.rfl

theorem headD_append (left right : List ι) (q : ι) :
    (left ++ right).headD q = left.headD (right.headD q) := by
  cases left with
  | nil | cons => rfl

theorem getLastD_append_singleton (left : List ι) (x p : ι) :
    (left ++ [x]).getLastD p = x := by
  simp [List.getLastD_eq_getLast?]

variable {nodes : List ι}

theorem getLastD_mem (p : ι) (h : nodes ≠ []) : nodes.getLastD p ∈ nodes := by
  rcases List.eq_nil_or_concat nodes with rfl | ⟨left, x, rfl⟩
  · exact absurd rfl h
  · rw [List.concat_eq_append, getLastD_append_singleton]
    simp

theorem headD_mem (q : ι) (h : nodes ≠ []) : nodes.headD q ∈ nodes := by
  cases nodes with
  | nil => exact absurd rfl h
  | cons x rest => exact List.mem_cons_self

theorem getLastD_mem_of_ne {p : ι} (h : nodes.getLastD p ≠ p) :
    nodes.getLastD p ∈ nodes :=
  getLastD_mem p fun hnil => h (by rw [hnil]; rfl)

theorem headD_mem_of_ne {q : ι} (h : nodes.headD q ≠ q) :
    nodes.headD q ∈ nodes :=
  headD_mem q fun hnil => h (by rw [hnil]; rfl)

/-- A list is empty if its end is a default that it does not have. -/
theorem headD_eq_iff_nil {q : ι} (h : q ∉ nodes) :
    nodes.headD q = q ↔ nodes = [] := by
  refine ⟨fun heq => ?_, fun hnil => by rw [hnil]; rfl⟩
  by_contra hne
  exact h (heq ▸ headD_mem q hne)

theorem getLastD_eq_iff_nil {p : ι} (h : p ∉ nodes) :
    nodes.getLastD p = p ↔ nodes = [] := by
  refine ⟨fun heq => ?_, fun hnil => by rw [hnil]; rfl⟩
  by_contra hne
  exact h (heq ▸ getLastD_mem p hne)

/-- A segment may be cut anywhere: the two parts point at each other's ends. -/
theorem segment_append :
    ∀ {left right : List ι} {p q : ι},
      Segment next prev p (left ++ right) q ↔
        Segment next prev p left (right.headD q) ∧
          Segment next prev (left.getLastD p) right q := by
  intro left
  induction left with
  | nil =>
    simp
  | cons x rest ih =>
    intro right p q
    rw [List.cons_append, segment_cons, segment_cons, ih, headD_append,
      List.getLastD_cons]
    constructor
    · rintro ⟨hprev, hnext, hleft, hright⟩
      exact ⟨⟨hprev, hnext, hleft⟩, hright⟩
    · rintro ⟨⟨hprev, hnext, hleft⟩, hright⟩
      exact ⟨hprev, hnext, hleft, hright⟩

/-- A segment only depends on the pointers of its own nodes. -/
theorem Segment.congr {next' prev' : ι → ι} :
    ∀ {nodes : List ι} {p q : ι}, Segment next prev p nodes q →
      (∀ x ∈ nodes, next' x = next x) → (∀ x ∈ nodes, prev' x = prev x) →
      Segment next' prev' p nodes q := by
  intro nodes
  induction nodes with
  | nil =>
    intro p q _ _ _
    exact segment_nil
  | cons x rest ih =>
    intro p q h hnext hprev
    obtain ⟨hp, hn, hrest⟩ := h
    refine ⟨?_, ?_, ?_⟩
    · rw [hprev x List.mem_cons_self, hp]
    · rw [hnext x List.mem_cons_self, hn]
    · exact ih hrest (fun y hy => hnext y (List.mem_cons_of_mem x hy))
        (fun y hy => hprev y (List.mem_cons_of_mem x hy))

/-- Redirecting the `next` pointer of the last node changes the successor. -/
theorem Segment.withSuccessor {next' prev' : ι → ι} {p q q' : ι} (h : Segment next prev p nodes q)
    (hnodup : nodes.Nodup) (hprev : ∀ y ∈ nodes, prev' y = prev y)
    (hnext : ∀ y ∈ nodes, y ≠ nodes.getLastD p → next' y = next y)
    (hlast : nodes ≠ [] → next' (nodes.getLastD p) = q') :
    Segment next' prev' p nodes q' := by
  rcases List.eq_nil_or_concat nodes with rfl | ⟨left, x, rfl⟩
  · exact segment_nil
  · rw [List.concat_eq_append] at *
    rw [getLastD_append_singleton] at hnext hlast
    rw [segment_append] at h ⊢
    obtain ⟨hleft, hx⟩ := h
    refine ⟨?_, ?_⟩
    · refine hleft.congr (fun y hy => ?_) (fun y hy => hprev y (List.mem_append_left _ hy))
      have hne : y ≠ x := by
        rintro rfl
        exact (List.nodup_append.mp hnodup).2.2 y hy y (by simp) rfl
      exact hnext y (List.mem_append_left _ hy) hne
    · rw [segment_cons] at hx ⊢
      refine ⟨?_, ?_, segment_nil⟩
      · rw [hprev x (by simp)]
        exact hx.1
      · exact hlast (by simp)

/-- Redirecting the `prev` pointer of the first node changes the predecessor. -/
theorem Segment.withPredecessor {next' prev' : ι → ι} {p p' q : ι} (h : Segment next prev p nodes q)
    (hnodup : nodes.Nodup) (hnext : ∀ y ∈ nodes, next' y = next y)
    (hprev : ∀ y ∈ nodes, y ≠ nodes.headD q → prev' y = prev y)
    (hfirst : nodes ≠ [] → prev' (nodes.headD q) = p') :
    Segment next' prev' p' nodes q := by
  cases nodes with
  | nil => exact segment_nil
  | cons x rest =>
    refine ⟨hfirst (by simp), ?_, ?_⟩
    · rw [hnext x List.mem_cons_self]
      exact h.2.1
    · refine h.2.2.congr (fun y hy => hnext y (List.mem_cons_of_mem x hy)) (fun y hy => ?_)
      have hne : y ≠ x := by
        rintro rfl
        exact (List.nodup_cons.mp hnodup).1 hy
      exact hprev y (List.mem_cons_of_mem x hy) hne

theorem Segment.snoc {next' prev' : ι → ι} {p q q' x : ι} (h : Segment next prev p nodes q)
    (hnodup : nodes.Nodup) (hprev : ∀ y ∈ nodes, prev' y = prev y)
    (hnext : ∀ y ∈ nodes, y ≠ nodes.getLastD p → next' y = next y)
    (hlast : nodes ≠ [] → next' (nodes.getLastD p) = x) (hprevx : prev' x = nodes.getLastD p)
    (hnextx : next' x = q') :
    Segment next' prev' p (nodes ++ [x]) q' := by
  rw [segment_append]
  refine ⟨?_, hprevx, hnextx, segment_nil⟩
  exact h.withSuccessor hnodup hprev hnext hlast

theorem Segment.unlink {next' prev' : ι → ι} {left right : List ι} {p q x : ι}
    (h : Segment next prev p (left ++ x :: right) q) (hnodup : (left ++ x :: right).Nodup)
    (hnext : ∀ y ∈ left ++ right, y ∈ right ∨ y ≠ left.getLastD p → next' y = next y)
    (hprev : ∀ y ∈ left ++ right, y ∈ left ∨ y ≠ right.headD q → prev' y = prev y)
    (hbefore : left ≠ [] → next' (left.getLastD p) = right.headD q)
    (hafter : right ≠ [] → prev' (right.headD q) = left.getLastD p) :
    Segment next' prev' p (left ++ right) q := by
  obtain ⟨hleftNodup, hrightNodup, _⟩ := List.nodup_append.mp hnodup
  rw [segment_append, segment_cons] at h
  rw [segment_append]
  refine ⟨?_, ?_⟩
  · refine h.1.withSuccessor hleftNodup ?_ ?_ hbefore
    · exact fun y hy => hprev y (List.mem_append_left _ hy) (Or.inl hy)
    · exact fun y hy hne => hnext y (List.mem_append_left _ hy) (Or.inr hne)
  · refine h.2.2.2.withPredecessor (List.nodup_cons.mp hrightNodup).2 ?_ ?_ hafter
    · exact fun y hy => hnext y (List.mem_append_right _ hy) (Or.inl hy)
    · exact fun y hy hne => hprev y (List.mem_append_right _ hy) (Or.inr hne)

/-- Going on from a node stays inside the segment or leaves it at its end. -/
theorem Segment.next_mem :
    ∀ {nodes : List ι} {p q x : ι}, Segment next prev p nodes q → x ∈ nodes →
      next x = q ∨ next x ∈ nodes := by
  intro nodes
  induction nodes with
  | nil =>
    intro p q x _ hx
    simp at hx
  | cons a rest ih =>
    intro p q x h hx
    rcases List.mem_cons.mp hx with rfl | hx
    · cases rest with
      | nil => exact Or.inl h.2.1
      | cons b tail =>
        rw [h.2.1]
        simp
    · exact (ih h.2.2 hx).imp_right (List.mem_cons_of_mem a)

/-- Going back from a node stays inside the segment or leaves it at its start. -/
theorem Segment.prev_mem :
    ∀ {nodes : List ι} {p q x : ι}, Segment next prev p nodes q → x ∈ nodes →
      prev x = p ∨ prev x ∈ nodes := by
  intro nodes
  induction nodes with
  | nil =>
    intro p q x _ hx
    simp at hx
  | cons a rest ih =>
    intro p q x h hx
    rcases List.mem_cons.mp hx with rfl | hx
    · exact Or.inl h.1
    · rcases ih h.2.2 hx with hfirst | hinside
      · refine Or.inr ?_
        rw [hfirst]
        exact List.mem_cons_self
      · exact Or.inr (List.mem_cons_of_mem a hinside)

/-- In a segment without repetitions, `next` and `prev` are inverse to each
other between its nodes. -/
theorem Segment.next_eq_iff_prev_eq :
    ∀ {nodes : List ι} {p q : ι}, Segment next prev p nodes q → nodes.Nodup →
      p ∉ nodes → q ∉ nodes →
      ∀ x ∈ nodes, ∀ y ∈ nodes, next x = y ↔ prev y = x := by
  intro nodes
  induction nodes with
  | nil =>
    intro p q _ _ _ _ x hx
    simp at hx
  | cons a rest ih =>
    intro p q h hnodup hp hq x hx y hy
    obtain ⟨hprev, hnext, hrest⟩ := h
    rw [List.nodup_cons] at hnodup
    obtain ⟨ha, hnodup⟩ := hnodup
    simp only [List.mem_cons, not_or] at hp hq
    have hinner := ih hrest hnodup ha hq.2
    rw [List.mem_cons] at hx hy
    -- The first node is handled apart: its successor is the head of the rest.
    rcases hx with rfl | hx
    · rcases hy with rfl | hy
      · constructor
        · intro hloop
          cases rest with
          | nil =>
            exact absurd (hnext.symm.trans hloop) hq.1
          | cons b tail =>
            refine absurd ?_ ha
            rw [← hloop, hnext]
            exact List.mem_cons_self
        · intro hloop
          exact absurd (hprev.symm.trans hloop) hp.1
      · cases rest with
        | nil => simp at hy
        | cons b tail =>
          constructor
          · intro hxy
            rw [← hxy, hnext]
            exact hrest.1
          · intro hyx
            rw [hnext]
            by_contra hne
            have hmem : y ∈ tail := by
              rw [List.mem_cons] at hy
              exact hy.resolve_left (fun heq => hne heq.symm)
            refine ha ?_
            rcases hrest.2.2.prev_mem hmem with hfirst | hinside
            · rw [← hyx, hfirst]
              exact List.mem_cons_self
            · rw [← hyx]
              exact List.mem_cons_of_mem b hinside
    · rcases hy with rfl | hy
      · constructor
        · intro hxy
          rcases hrest.next_mem hx with hlast | hinside
          · exact absurd (hlast.symm.trans hxy) hq.1
          · exact absurd (hxy ▸ hinside) ha
        · intro hyx
          exact absurd (hprev.symm.trans hyx) (fun heq => hp.2 (heq ▸ hx))
      · exact hinner x hx y hy

end Monotempo.Foundation
