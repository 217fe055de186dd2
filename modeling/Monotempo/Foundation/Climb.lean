/-
  Climbing in a forest of parent pointers.

  A partial function `step` gives every node at most one parent.  A climb lists the
  nodes passed from one node up to another.  The library has the facts that walks to
  the root rest on: climbs from one node lie on one line, a climb that ends at a root
  repeats no node, redirecting one pointer to a node whose climb avoids it keeps every
  node grounded, and without cycles finitely many pointers ground every node.
-/
import Mathlib.Data.Fintype.Order

set_option autoImplicit false

namespace Monotempo.Foundation

variable {α : Type} {step step' : α → Option α} {a b c x y : α} {path path' : List α}

/-- `Climb step a path b`: the pointers lead from `a` to `b` over the nodes of `path`,
which has `a` but not the last `b`. -/
inductive Climb (step : α → Option α) : α → List α → α → Prop
  | here (a : α) : Climb step a [] a
  | up {a b c : α} {path : List α} (hstep : step a = some b) (hrest : Climb step b path c) :
      Climb step a (a :: path) c

/-- The pointers lead from the node to a root. -/
def Grounded (step : α → Option α) (a : α) : Prop :=
  ∃ path root, Climb step a path root ∧ step root = none

/-- No node is above itself. -/
def Acyclic (step : α → Option α) : Prop :=
  ∀ a path, Climb step a path a → path = []

/-- `x` is the node itself or one above it. -/
def Above (step : α → Option α) (a x : α) : Prop := ∃ path, Climb step a path x

/-- `x` is above `a` and `b`, and below every other such node. -/
structure LowestCommon (step : α → Option α) (a b x : α) : Prop where
  left : Above step a x
  right : Above step b x
  lowest : ∀ y, Above step a y → Above step b y → Above step x y

namespace Climb

section Climbs

variable (h : Climb step a path b)

include h

theorem append (h' : Climb step b path' c) :
    Climb step a (path ++ path') c := by
  induction h with
  | here _ => exact h'
  | up hstep _ ih => exact .up hstep (ih h')

/-- A climb passes each of its nodes. -/
theorem split (hmem : x ∈ path) :
    ∃ left right, path = left ++ right ∧ right ≠ [] ∧ Climb step a left x ∧
      Climb step x right b := by
  induction h with
  | here _ => exact nomatch hmem
  | up hstep hrest ih =>
    rcases List.mem_cons.mp hmem with rfl | hmem
    · exact ⟨[], _, rfl, List.cons_ne_nil _ _, .here _, .up hstep hrest⟩
    · obtain ⟨left, right, rfl, hne, hleft, hright⟩ := ih hmem
      exact ⟨_ :: left, right, rfl, hne, .up hstep hleft, hright⟩

/-- Two climbs from one node: one continues the other. -/
theorem linear (h' : Climb step a path' c) :
    (∃ rest, path' = path ++ rest ∧ Climb step b rest c) ∨
      ∃ rest, path = path' ++ rest ∧ Climb step c rest b := by
  induction h generalizing path' with
  | here _ => exact .inl ⟨path', rfl, h'⟩
  | up hstep hrest ih =>
    cases h' with
    | here _ => exact .inr ⟨_, rfl, .up hstep hrest⟩
    | up hstep' hrest' =>
      obtain rfl := Option.some.inj (hstep.symm.trans hstep')
      rcases ih hrest' with ⟨rest, rfl, hclimb⟩ | ⟨rest, rfl, hclimb⟩
      · exact .inl ⟨rest, rfl, hclimb⟩
      · exact .inr ⟨rest, rfl, hclimb⟩

theorem eq_of_root (hroot : step a = none) : path = [] ∧ a = b := by
  cases h with
  | here _ => exact ⟨rfl, rfl⟩
  | up hstep _ => exact nomatch hroot.symm.trans hstep

theorem unique (hb : step b = none) (h' : Climb step a path' c) (hc : step c = none) :
    path = path' ∧ b = c := by
  rcases h.linear h' with ⟨rest, rfl, hclimb⟩ | ⟨rest, rfl, hclimb⟩
  · obtain ⟨rfl, rfl⟩ := hclimb.eq_of_root hb
    exact ⟨(List.append_nil _).symm, rfl⟩
  · obtain ⟨rfl, rfl⟩ := hclimb.eq_of_root hc
    exact ⟨List.append_nil _, rfl⟩

/-- Nodes under a root are not above themselves. -/
theorem eq_nil_of_root (hb : step b = none) (hloop : Climb step a path' a) : path' = [] := by
  have hagain := (h.unique hb (hloop.append h) hb).1
  exact List.self_eq_append_left.mp hagain

theorem notMem_of_root (hb : step b = none) : b ∉ path := by
  intro hmem
  obtain ⟨_, right, _, hne, _, hright⟩ := h.split hmem
  exact hne (hright.eq_of_root hb).1

theorem nodup (hb : step b = none) : path.Nodup := by
  induction h with
  | here _ => exact List.nodup_nil
  | up hstep hrest ih =>
    refine List.nodup_cons.mpr ⟨fun hmem => ?_, ih hb⟩
    obtain ⟨left, _, _, _, hleft, _⟩ := hrest.split hmem
    exact List.cons_ne_nil _ _ ((Climb.up hstep hrest).eq_nil_of_root hb (.up hstep hleft))

theorem nodup_of_acyclic (hacyclic : Acyclic step) :
    (path ++ [b]).Nodup := by
  induction h with
  | here _ => exact List.nodup_singleton _
  | up hstep hrest ih =>
    refine List.nodup_cons.mpr ⟨fun hmem => ?_, ih⟩
    rcases List.mem_append.mp hmem with hmem | hmem
    · obtain ⟨left, _, _, _, hleft, _⟩ := hrest.split hmem
      exact List.cons_ne_nil _ _ (hacyclic _ _ (.up hstep hleft))
    · obtain rfl := List.mem_singleton.mp hmem
      exact List.cons_ne_nil _ _ (hacyclic _ _ (.up hstep hrest))

/-- The climb to one of the nodes listed up to the last. -/
theorem take {left right : List α} (hpath : path ++ [b] = left ++ x :: right) :
    Climb step a left x ∧ Above step x b := by
  induction h generalizing left with
  | here a =>
    cases left with
    | nil =>
      obtain rfl := (List.cons.inj hpath).1
      exact ⟨.here _, [], .here _⟩
    | cons y left => simp at hpath
  | up hstep hrest ih =>
    cases left with
    | nil =>
      obtain rfl := (List.cons.inj hpath).1
      exact ⟨.here _, _, .up hstep hrest⟩
    | cons y left =>
      obtain ⟨rfl, htail⟩ := List.cons.inj hpath
      obtain ⟨hclimb, habove⟩ := ih htail
      exact ⟨.up hstep hclimb, habove⟩

/-- Climbs that avoid a redirected node stay. -/
theorem congr (hsame : ∀ x ∈ path, step' x = step x) :
    Climb step' a path b := by
  induction h with
  | here _ => exact .here _
  | up hstep _ ih =>
    refine .up ((hsame _ List.mem_cons_self).trans hstep) (ih fun x hx => ?_)
    exact hsame x (List.mem_cons_of_mem _ hx)

end Climbs

end Climb

/-! ## Lowest common ancestors -/

theorem Above.antisymm (hacyclic : Acyclic step) (h : Above step a b) (h' : Above step b a) :
    a = b := by
  obtain ⟨path, hclimb⟩ := h
  obtain ⟨path', hclimb'⟩ := h'
  have hloop := hacyclic _ _ (hclimb.append hclimb')
  rw [List.append_eq_nil_iff] at hloop
  rw [hloop.1] at hclimb
  cases hclimb
  rfl

theorem LowestCommon.unique (hacyclic : Acyclic step) (h : LowestCommon step a b x)
    (h' : LowestCommon step a b y) : x = y :=
  (h.lowest y h'.left h'.right).antisymm hacyclic (h'.lowest x h.left h.right)

theorem Climb.unique_of_acyclic (hacyclic : Acyclic step) (h : Climb step a path b)
    (h' : Climb step a path' b) : path = path' := by
  rcases h.linear h' with ⟨rest, rfl, hloop⟩ | ⟨rest, rfl, hloop⟩
  · rw [hacyclic _ _ hloop, List.append_nil]
  · rw [hacyclic _ _ hloop, List.append_nil]

/-- The first node of one climb to the root that is also on the other one. -/
theorem LowestCommon.of_first (hacyclic : Acyclic step) {root : α} {up down : List α}
    (hb : Climb step b path' root) (hup : Climb step a up x)
    (hdown : Climb step b down x) (hx : Above step x root)
    (hfirst : ∀ y ∈ up, y ∉ path' ++ [root]) : LowestCommon step a b x := by
  refine ⟨⟨up, hup⟩, ⟨down, hdown⟩, ?_⟩
  rintro y ⟨p, hp⟩ ⟨q, hq⟩
  rcases hup.linear hp with ⟨rest, _, hclimb⟩ | ⟨rest, hrest, hclimb⟩
  · exact ⟨rest, hclimb⟩
  · cases hclimb with
    | here _ => exact ⟨[], .here _⟩
    | up hstep hclimb =>
      -- Here `y` is strictly below `x`, so it is not on the climb of `b` to the root ...
      have hout : y ∉ path' ++ [root] := hfirst y (by simp [hrest])
      exfalso
      rcases hb.linear hq with ⟨rest', _, habove⟩ | ⟨rest', hpath, hclimb'⟩
      · -- ... and not above the root, which would close a cycle.
        obtain ⟨rest'', hroot⟩ := hx
        have hloop := hacyclic _ _ (habove.append ((Climb.up hstep hclimb).append hroot))
        simp at hloop
      · cases hclimb' with
        | here _ => exact hout (by simp)
        | up _ _ => exact hout (by simp [hpath])

/-! ## Grounded nodes -/

theorem Grounded.root (h : step a = none) : Grounded step a :=
  ⟨[], a, .here a, h⟩

theorem Grounded.up (hstep : step a = some b) (h : Grounded step b) : Grounded step a := by
  obtain ⟨path, root, hclimb, hroot⟩ := h
  exact ⟨a :: path, root, .up hstep hclimb, hroot⟩

/-- A rank that falls along the pointers rules cycles out. -/
theorem Acyclic.of_rank (rank : α → ℕ) (hstep : ∀ a b, step a = some b → rank b < rank a) :
    Acyclic step := by
  have hclimb : ∀ {a path b}, Climb step a path b → path.length + rank b ≤ rank a := by
    intro a path b h
    induction h with
    | here _ => exact (Nat.zero_add _).le
    | up hup _ ih =>
      have hless := hstep _ _ hup
      rw [List.length_cons]
      omega
  intro a path h
  have hlength := hclimb h
  exact List.eq_nil_of_length_eq_zero (by omega)

/-- Redirecting one node to a node whose climb avoids it grounds what was grounded. -/
theorem Grounded.redirect (hsame : ∀ z, z ≠ x → step' z = step z)
    (htarget : step' x = none ∨ ∃ y path root, step' x = some y ∧ Climb step y path root ∧
      step root = none ∧ x ∉ path ++ [root])
    (h : Grounded step a) : Grounded step' a := by
  have hx : Grounded step' x := by
    rcases htarget with hnone | ⟨y, path, root, hstep, hclimb, hroot, havoid⟩
    · exact .root hnone
    · refine .up hstep ⟨path, root, hclimb.congr fun z hz => ?_, ?_⟩
      · exact hsame z fun heq => havoid (List.mem_append_left _ (heq ▸ hz))
      · rw [hsame root fun heq => havoid (by simp [heq]), hroot]
  obtain ⟨path, root, hclimb, hroot⟩ := h
  induction hclimb with
  | here z =>
    by_cases hz : z = x
    · exact hz ▸ hx
    · exact .root ((hsame z hz).trans hroot)
  | @up z _ _ _ hstep _ ih =>
    by_cases hz : z = x
    · exact hz ▸ hx
    · exact .up ((hsame z hz).trans hstep) (ih hroot)

/-- Finitely many pointers without a cycle ground every node. -/
theorem Acyclic.grounded (hacyclic : Acyclic step)
    (hfinite : {a | step a ≠ none}.Finite) (a : α) : Grounded step a := by
  -- Above is a strict order on the finitely many nodes with a pointer.
  let Above (b a : {a | step a ≠ none}) : Prop := ∃ path, path ≠ [] ∧ Climb step a path b
  have htrans : IsTrans _ Above := ⟨fun _ _ _ ⟨p, _, hp⟩ ⟨q, hne, hq⟩ =>
    ⟨q ++ p, List.append_ne_nil_of_left_ne_nil hne _, hq.append hp⟩⟩
  have hirrefl : Std.Irrefl Above := ⟨fun _ ⟨_, hne, hp⟩ => hne (hacyclic _ _ hp)⟩
  have : Finite {a | step a ≠ none} := hfinite
  have hwf : WellFounded Above := Finite.wellFounded_of_trans_of_irrefl Above
  have hall : ∀ a : {a | step a ≠ none}, Grounded step a := by
    intro a
    induction a using hwf.induction with
    | _ a ih =>
      obtain ⟨b, hstep⟩ := Option.ne_none_iff_exists'.mp a.property
      by_cases hb : step b = none
      · exact .up hstep (.root hb)
      · exact .up hstep (ih ⟨b, hb⟩ ⟨[a.val], List.cons_ne_nil _ _, .up hstep (.here b)⟩)
  by_cases ha : step a = none
  · exact .root ha
  · exact hall ⟨a, ha⟩

end Monotempo.Foundation
