/-
  Reasoning rules for stateful programs that can
  fail.

  A program is an `EStateM ε σ α`: it maps a state to a result and a new state,
  or to an error and the state in which the error was raised.  Two ways of
  reasoning are provided.

  Inversion: from `x s = .ok a s'` recover what every part of `x` did.  The
  rules `bind_ok`, `require_ok` and their companions are equivalences, so a
  successful run is peeled apart by rewriting with them.

  Triples: `Triple pre x post err` says that `x`, started in a state satisfying
  `pre`, either returns with `post` or fails with `err`.  `Keeps P x` is the case
  of an invariant: `P` holds after `x`, whether it returned or failed.
-/
import Mathlib.Tactic.Common

set_option autoImplicit false

namespace Monotempo.Foundation

variable {condition : Prop}

/-! ## Inversion of successful runs -/

variable {active : Bool}

section Inversion

variable {ε σ α β : Type}

/-- Fail with `error` unless `condition` holds. -/
def require (condition : Prop) [Decidable condition] (error : ε) : EStateM ε σ Unit :=
  if condition then pure () else throw error

/-- Run `x` only if `condition` holds. -/
def onlyIf (condition : Prop) [Decidable condition] (x : EStateM ε σ Unit) :
    EStateM ε σ Unit :=
  if condition then x else pure ()

/-- The value of an optional result, or the given error. -/
def okOr (value : Option α) (error : ε) : EStateM ε σ α :=
  match value with
  | some a => pure a
  | none => throw error

/-- Run a computation that reads no state. -/
def fromExcept (value : Except ε α) : EStateM ε σ α :=
  match value with
  | .ok a => pure a
  | .error e => throw e

/-- Run a program; if it fails and `active` holds, restore the state before it. -/
def atomically (active : Bool) (x : EStateM ε σ α) : EStateM ε σ α := fun s =>
  match x s with
  | .ok a s' => .ok a s'
  | .error e s' => .error e (if active then s else s')

/-- Run a program and return its error as a value. -/
def attempt (x : EStateM ε σ α) : EStateM ε σ (Except ε α) := fun s =>
  match x s with
  | .ok a s' => .ok (.ok a) s'
  | .error e s' => .ok (.error e) s'

variable {s s' : σ} {a : α}

theorem pure_ok {b : α} :
    (pure a : EStateM ε σ α) s = .ok b s' ↔ a = b ∧ s = s' := by
  show EStateM.Result.ok a s = .ok b s' ↔ _
  simp

variable {e : ε}

theorem throw_ok {b : α} :
    (throw e : EStateM ε σ α) s = .ok b s' ↔ False := by
  show EStateM.Result.error e s = .ok b s' ↔ _
  simp

theorem get_ok {b : σ} :
    (get : EStateM ε σ σ) s = .ok b s' ↔ s = b ∧ s = s' := by
  show EStateM.Result.ok s s = .ok b s' ↔ _
  simp

theorem modify_ok {f : σ → σ} {u : PUnit} :
    (modify f : EStateM ε σ PUnit) s = .ok u s' ↔ s' = f s := by
  show EStateM.Result.ok PUnit.unit (f s) = .ok u s' ↔ _
  simp [eq_comm]

variable {f : α → EStateM ε σ β} {x : EStateM ε σ α} {b : β}

/-- A sequence succeeds exactly when its parts succeed one after the other. -/
theorem bind_ok {s'' : σ} :
    (x >>= f) s = .ok b s'' ↔ ∃ a s', x s = .ok a s' ∧ f a s' = .ok b s'' := by
  show EStateM.bind x f s = .ok b s'' ↔ _
  unfold EStateM.bind
  cases hx : x s with
  | ok | error => simp

theorem bind_error {s'' : σ} :
    (x >>= f) s = .error e s'' ↔
      x s = .error e s'' ∨ ∃ a s', x s = .ok a s' ∧ f a s' = .error e s'' := by
  show EStateM.bind x f s = _ ↔ _
  unfold EStateM.bind
  cases hx : x s with
  | ok | error => simp

theorem bind_eq_of_ok (h : x s = .ok a s') : (x >>= f) s = f a s' := by
  show EStateM.bind x f s = _
  unfold EStateM.bind
  rw [h]

/-- Two sequences with the same first part agree if their continuations agree where it
succeeds. -/
theorem bind_congr_ok {g : α → EStateM ε σ β} (h : ∀ a s', x s = .ok a s' → f a s' = g a s') :
    (x >>= f) s = (x >>= g) s := by
  show EStateM.bind x f s = EStateM.bind x g s
  unfold EStateM.bind
  cases hx : x s with
  | ok a s' => exact h a s' hx
  | error e s' => rfl

theorem map_ok {f : α → β} :
    (f <$> x) s = .ok b s' ↔ ∃ a, x s = .ok a s' ∧ f a = b := by
  show EStateM.map f x s = .ok b s' ↔ _
  unfold EStateM.map
  cases hx : x s with
  | ok a s₁ =>
    simp only [EStateM.Result.ok.injEq]
    constructor
    · rintro ⟨hb, hs⟩
      exact ⟨a, ⟨rfl, hs⟩, hb⟩
    · rintro ⟨a', ⟨ha, hs⟩, hb⟩
      exact ⟨by rw [ha, hb], hs⟩
  | error e s₁ => simp

variable {error : ε}

variable {u : Unit}

theorem require_ok [Decidable condition] :
    (require condition error : EStateM ε σ Unit) s = .ok u s' ↔ condition ∧ s = s' := by
  unfold require
  split
  · rename_i h
    simp [pure_ok, h]
  · rename_i h
    simp [throw_ok, h]

/-- The steps that only read or check leave no trace in the state. -/
theorem get_bind_ok {f : σ → EStateM ε σ β} :
    (get >>= f) s = .ok b s' ↔ f s s = .ok b s' :=
  Iff.rfl

theorem discard_ok :
    (x >>= fun _ => pure ()) s = .ok u s' ↔ ∃ a, x s = .ok a s' := by
  rw [bind_ok]
  constructor
  · rintro ⟨a, t, hx, hpure⟩
    obtain ⟨_, rfl⟩ := pure_ok.mp hpure
    exact ⟨a, hx⟩
  · rintro ⟨a, hx⟩
    exact ⟨a, s', hx, rfl⟩

theorem modify_bind_ok {f : σ → σ} {g : PUnit → EStateM ε σ β} :
    ((modify f : EStateM ε σ PUnit) >>= g) s = .ok b s' ↔ g ⟨⟩ (f s) = .ok b s' :=
  Iff.rfl

variable {P : α → Prop}

/-- A first part that leaves no trace, whatever is asked of the rest. -/
theorem pass_iff {Q : α → σ → Prop} (hx : ∀ {a t}, x s = .ok a t ↔ P a ∧ s = t) :
    (∃ a t, x s = .ok a t ∧ Q a t) ↔ ∃ a, P a ∧ Q a s := by
  constructor
  · rintro ⟨a, t, hrun, hrest⟩
    obtain ⟨ha, rfl⟩ := hx.mp hrun
    exact ⟨a, ha, hrest⟩
  · rintro ⟨a, ha, hrest⟩
    exact ⟨a, s, hx.mpr ⟨ha, rfl⟩, hrest⟩

theorem require_bind_ok [Decidable condition] {f : Unit → EStateM ε σ β} :
    (require condition error >>= f) s = .ok b s' ↔ condition ∧ f () s = .ok b s' := by
  rw [bind_ok, pass_iff require_ok]
  exact ⟨fun ⟨_, h⟩ => h, fun h => ⟨(), h⟩⟩

theorem require_rest [Decidable condition] {f : Unit → EStateM ε σ β}
    (h : (require condition error >>= f) s = .ok b s') : f () s = .ok b s' :=
  (require_bind_ok.mp h).2

/-- A check of any kind: what it found, and the rest from the same state. -/
theorem guard_bind_ok (hguard : ∀ {a t}, x s = .ok a t → t = s ∧ P a) (h : (x >>= f) s = .ok b s') :
    ∃ a, P a ∧ f a s = .ok b s' := by
  obtain ⟨a, t, hx, hrest⟩ := bind_ok.mp h
  obtain ⟨rfl, ha⟩ := hguard hx
  exact ⟨a, ha, hrest⟩

/-- A sequence passes through what its first part is known to leave. -/
theorem step_bind_ok {P : α → σ → Prop} (hstep : ∀ {a t}, x s = .ok a t → P a t)
    (h : (x >>= f) s = .ok b s') :
    ∃ a t, P a t ∧ f a t = .ok b s' := by
  obtain ⟨a, t, hx, hrest⟩ := bind_ok.mp h
  exact ⟨a, t, hstep hx, hrest⟩

theorem onlyIf_ok [Decidable condition] {x : EStateM ε σ Unit} :
    onlyIf condition x s = .ok u s' ↔
      (condition ∧ x s = .ok u s') ∨ (¬ condition ∧ s = s') := by
  unfold onlyIf
  split
  · rename_i h
    simp [h]
  · rename_i h
    simp [h, pure_ok]

variable {value : Option α}

theorem okOr_ok :
    (okOr value error : EStateM ε σ α) s = .ok a s' ↔ value = some a ∧ s = s' := by
  cases value with
  | none => simp [okOr, throw_ok]
  | some b => simp [okOr, pure_ok]

theorem fromExcept_ok {value : Except ε α} :
    (fromExcept value : EStateM ε σ α) s = .ok a s' ↔ value = .ok a ∧ s = s' := by
  cases value with
  | error e => simp [fromExcept, throw_ok]
  | ok b => simp [fromExcept, pure_ok]

theorem okOr_bind_ok :
    (okOr value error >>= f) s = .ok b s' ↔ ∃ a, value = some a ∧ f a s = .ok b s' := by
  rw [bind_ok, pass_iff okOr_ok]

theorem value_bind_ok (hvalue : ∀ {a}, value = some a → P a)
    (h : (okOr value error >>= f) s = .ok b s') : ∃ a, P a ∧ f a s = .ok b s' := by
  obtain ⟨a, hsome, hrest⟩ := okOr_bind_ok.mp h
  exact ⟨a, hvalue hsome, hrest⟩

theorem fromExcept_bind_ok {value : Except ε α} :
    (fromExcept value >>= f) s = .ok b s' ↔ ∃ a, value = .ok a ∧ f a s = .ok b s' := by
  rw [bind_ok, pass_iff fromExcept_ok]

theorem fromExcept_rest {value : Except ε Unit} {f : Unit → EStateM ε σ β}
    (h : (fromExcept value >>= f) s = .ok b s') : f () s = .ok b s' := by
  obtain ⟨_, -, hrest⟩ := fromExcept_bind_ok.mp h
  exact hrest

theorem require_error [Decidable condition] :
    (require condition error : EStateM ε σ Unit) s = .error e s' ↔
      ¬ condition ∧ error = e ∧ s = s' := by
  unfold require
  split
  · rename_i h
    show EStateM.Result.ok () s = .error e s' ↔ _
    simp [h]
  · rename_i h
    show EStateM.Result.error error s = .error e s' ↔ _
    simp [h]

theorem require_bind_error [Decidable condition] {f : Unit → EStateM ε σ β} :
    (require condition error >>= f) s = .error e s' ↔
      (¬ condition ∧ error = e ∧ s = s') ∨ (condition ∧ f () s = .error e s') := by
  rw [bind_error, require_error, pass_iff require_ok]
  exact or_congr_right ⟨fun ⟨_, h⟩ => h, fun h => ⟨(), h⟩⟩

theorem get_bind_error {f : σ → EStateM ε σ β} :
    (get >>= f) s = .error e s' ↔ f s s = .error e s' :=
  Iff.rfl

theorem atomically_ok :
    atomically active x s = .ok a s' ↔ x s = .ok a s' := by
  unfold atomically
  cases x s with
  | ok b t => rfl
  | error e t => simp

/-- A failed atomic program leaves no trace. -/
theorem atomically_error :
    atomically true x s = .error e s' ↔ s' = s ∧ ∃ t, x s = .error e t := by
  unfold atomically
  cases x s with
  | ok b t => simp
  | error e' t => simp [eq_comm, and_comm]

theorem attempt_ok {result : Except ε α} :
    attempt x s = .ok result s' ↔
      (∃ a, result = .ok a ∧ x s = .ok a s') ∨
        (∃ e, result = .error e ∧ x s = .error e s') := by
  unfold attempt
  cases x s with
  | ok b t =>
    simp only [EStateM.Result.ok.injEq, reduceCtorEq, and_false, exists_false, or_false]
    constructor
    · rintro ⟨rfl, rfl⟩
      exact ⟨b, rfl, rfl, rfl⟩
    · rintro ⟨a, rfl, rfl, rfl⟩
      exact ⟨rfl, rfl⟩
  | error e t =>
    simp only [EStateM.Result.ok.injEq, EStateM.Result.error.injEq, reduceCtorEq,
      and_false, exists_false, false_or]
    constructor
    · rintro ⟨rfl, rfl⟩
      exact ⟨e, rfl, rfl, rfl⟩
    · rintro ⟨e', rfl, rfl, rfl⟩
      exact ⟨rfl, rfl⟩

/-- The same for computations that read no state. -/
theorem except_bind_ok {x : Except ε α} {f : α → Except ε β} :
    (x >>= f) = .ok b ↔ ∃ a, x = .ok a ∧ f a = .ok b := by
  cases x with
  | error | ok => simp [bind, Except.bind]

/-- Whether a run returned. -/
def returned : EStateM.Result ε σ α → Bool
  | .ok _ _ => true
  | .error _ _ => false

theorem returned_iff {result : EStateM.Result ε σ α} :
    returned result = true ↔ ∃ a s, result = .ok a s := by
  cases result with
  | ok | error => simp [returned]

end Inversion

/-! ## Triples -/

section Triples

variable {ε σ α β : Type}

/-- Started in a state satisfying `pre`, the program returns with `post` or
fails with `err`. -/
def Triple (pre : σ → Prop) (x : EStateM ε σ α) (post : α → σ → Prop)
    (err : ε → σ → Prop) : Prop :=
  ∀ s, pre s →
    match x s with
    | .ok a s' => post a s'
    | .error e s' => err e s'

variable {pre pre' : σ → Prop} {post post' : α → σ → Prop} {err err' : ε → σ → Prop}
  {x : EStateM ε σ α}

theorem Triple.ok (h : Triple pre x post err) {s s' : σ} {a : α} (hpre : pre s)
    (hrun : x s = .ok a s') : post a s' := by
  have hmatch := h s hpre
  rw [hrun] at hmatch
  exact hmatch

variable {e : ε}

theorem Triple.error (h : Triple pre x post err) {s s' : σ} (hpre : pre s)
    (hrun : x s = .error e s') : err e s' := by
  have hmatch := h s hpre
  rw [hrun] at hmatch
  exact hmatch

theorem Triple.consequence (h : Triple pre x post err) (hpre : ∀ s, pre' s → pre s)
    (hpost : ∀ a s, post a s → post' a s) (herr : ∀ e s, err e s → err' e s) :
    Triple pre' x post' err' := by
  intro s hs
  cases hx : x s with
  | ok a s' => exact hpost a s' (h.ok (hpre s hs) hx)
  | error e s' => exact herr e s' (h.error (hpre s hs) hx)

theorem triple_pure {a : α} (h : ∀ s, pre s → post a s) :
    Triple pre (pure a : EStateM ε σ α) post err := by
  intro s hs
  exact h s hs

theorem triple_throw (h : ∀ s, pre s → err e s) :
    Triple pre (throw e : EStateM ε σ α) post err := by
  intro s hs
  exact h s hs

theorem triple_modify {f : σ → σ} {post : PUnit → σ → Prop}
    (h : ∀ s, pre s → post PUnit.unit (f s)) :
    Triple pre (modify f : EStateM ε σ PUnit) post err := by
  intro s hs
  exact h s hs

theorem triple_bind {mid : α → σ → Prop} {post : β → σ → Prop} {f : α → EStateM ε σ β}
    (hx : Triple pre x mid err) (hf : ∀ a, Triple (mid a) (f a) post err) :
    Triple pre (x >>= f) post err := by
  intro s hs
  show match EStateM.bind x f s with
    | .ok a s' => post a s'
    | .error e s' => err e s'
  unfold EStateM.bind
  cases hrun : x s with
  | ok a s' => exact hf a s' (hx.ok hs hrun)
  | error e s' => exact hx.error hs hrun

theorem triple_map {f : α → β} {post : β → σ → Prop}
    (hx : Triple pre x (fun a => post (f a)) err) : Triple pre (f <$> x) post err := by
  intro s hs
  show match EStateM.map f x s with
    | .ok b s' => post b s'
    | .error e s' => err e s'
  unfold EStateM.map
  cases hrun : x s with
  | ok a s' => exact hx.ok hs hrun
  | error e s' => exact hx.error hs hrun

/-- Reading the state: the rest may use what holds of the value read. -/
theorem triple_get_bind {post : β → σ → Prop} {f : σ → EStateM ε σ β}
    (h : ∀ s, pre s → Triple (fun t => t = s) (f s) post err) :
    Triple pre (get >>= f) post err := by
  intro s hs
  exact h s hs s rfl

theorem triple_ite [Decidable condition] {y : EStateM ε σ α}
    (hx : condition → Triple pre x post err) (hy : ¬ condition → Triple pre y post err) :
    Triple pre (if condition then x else y) post err := by
  split
  · rename_i h
    exact hx h
  · rename_i h
    exact hy h

theorem triple_require [Decidable condition] {post : Unit → σ → Prop}
    (h : ∀ s, pre s → condition → post () s) (he : ∀ s, pre s → ¬ condition → err e s) :
    Triple pre (require condition e : EStateM ε σ Unit) post err := by
  refine triple_ite (fun hc => ?_) (fun hc => ?_)
  · exact triple_pure (fun s hs => h s hs hc)
  · exact triple_throw (fun s hs => he s hs hc)

/-- The rest of a guarded program may use the guard. -/
theorem triple_require_bind [Decidable condition] {post : β → σ → Prop} {f : Unit → EStateM ε σ β}
    (he : ∀ s, pre s → err e s) (hf : condition → Triple pre (f ()) post err) :
    Triple pre (require condition e >>= f) post err := by
  unfold require
  split
  · rename_i h
    exact hf h
  · exact he

theorem triple_onlyIf [Decidable condition] {x : EStateM ε σ Unit} {post : Unit → σ → Prop}
    (hx : condition → Triple pre x post err) (h : ¬ condition → ∀ s, pre s → post () s) :
    Triple pre (onlyIf condition x) post err :=
  triple_ite hx (fun hc => triple_pure (h hc))

theorem triple_okOr {value : Option α} (h : ∀ s a, pre s → value = some a → post a s)
    (he : ∀ s, pre s → err e s) :
    Triple pre (okOr value e : EStateM ε σ α) post err := by
  cases value with
  | none => exact triple_throw he
  | some a => exact triple_pure (fun s hs => h s a hs rfl)

theorem triple_fromExcept {value : Except ε α}
    (h : ∀ s a, pre s → value = .ok a → post a s)
    (he : ∀ s e, pre s → value = .error e → err e s) :
    Triple pre (fromExcept value : EStateM ε σ α) post err := by
  cases value with
  | error e => exact triple_throw (fun s hs => he s e hs rfl)
  | ok a => exact triple_pure (fun s hs => h s a hs rfl)

/-- A failed atomic program ends where it started; an inactive one where it
failed. -/
theorem triple_atomically (h : Triple pre x post err)
    (hactive : ∀ e s t, active = true → pre s → err e t → err' e s)
    (hinactive : ∀ e s, active = false → err e s → err' e s) :
    Triple pre (atomically active x) post err' := by
  intro s hs
  unfold atomically
  cases hx : x s with
  | ok a s' => exact h.ok hs hx
  | error e s' =>
    cases active with
    | true => exact hactive e s s' rfl hs (h.error hs hx)
    | false => exact hinactive e s' rfl (h.error hs hx)

theorem triple_attempt {post : Except ε α → σ → Prop}
    (h : Triple pre x (fun a => post (.ok a)) (fun e => post (.error e))) :
    Triple pre (attempt x) post err := by
  intro s hs
  unfold attempt
  cases hx : x s with
  | ok a s' => exact h.ok hs hx
  | error e s' => exact h.error hs hx

end Triples

/-! ## Properties a program keeps -/

section Keeps

variable {ε σ α β : Type}

/-- The program keeps `P`, whether it returns or fails. -/
def Keeps (P : σ → Prop) (x : EStateM ε σ α) : Prop :=
  Triple P x (fun _ => P) (fun _ => P)

variable {P : σ → Prop} {x : EStateM ε σ α}

theorem Keeps.ok (h : Keeps P x) {s s' : σ} {a : α} (hs : P s) (hrun : x s = .ok a s') : P s' :=
  Triple.ok h hs hrun

variable {e : ε}

theorem Keeps.error (h : Keeps P x) {s s' : σ} (hs : P s) (hrun : x s = .error e s') :
    P s' :=
  Triple.error h hs hrun

theorem keeps_pure (a : α) : Keeps P (pure a : EStateM ε σ α) :=
  triple_pure fun _ hs => hs

theorem keeps_throw (e : ε) : Keeps P (throw e : EStateM ε σ α) :=
  triple_throw fun _ hs => hs

theorem keeps_modify {f : σ → σ} (h : ∀ s, P s → P (f s)) :
    Keeps P (modify f : EStateM ε σ PUnit) :=
  triple_modify h

variable {f : α → EStateM ε σ β}

theorem keeps_bind (hx : Keeps P x) (hf : ∀ a, Keeps P (f a)) : Keeps P (x >>= f) :=
  triple_bind hx hf

/-- A first part that keeps `P`, and a rest that is only known to keep it when it
fails. -/
theorem triple_bind_keeps {post : β → σ → Prop} (hx : Keeps P x)
    (hf : ∀ a, Triple P (f a) post (fun _ => P)) :
    Triple P (x >>= f) post (fun _ => P) :=
  triple_bind hx hf

theorem keeps_map (f : α → β) (hx : Keeps P x) : Keeps P (f <$> x) :=
  triple_map hx

theorem keeps_get_bind {f : σ → EStateM ε σ β} (h : ∀ s, P s → Keeps P (f s)) :
    Keeps P (get >>= f) := by
  intro s hs
  exact h s hs s hs

theorem keeps_ite [Decidable condition] {y : EStateM ε σ α} (hx : condition → Keeps P x)
    (hy : ¬ condition → Keeps P y) :
    Keeps P (if condition then x else y) :=
  triple_ite hx hy

theorem keeps_require [Decidable condition] (e : ε) :
    Keeps P (require condition e : EStateM ε σ Unit) :=
  triple_require (fun _ hs _ => hs) (fun _ hs _ => hs)

theorem keeps_require_bind [Decidable condition] {f : Unit → EStateM ε σ β}
    (hf : condition → Keeps P (f ())) :
    Keeps P (require condition e >>= f) :=
  triple_require_bind (fun _ hs => hs) hf

theorem keeps_onlyIf [Decidable condition] {x : EStateM ε σ Unit} (hx : condition → Keeps P x) :
    Keeps P (onlyIf condition x) :=
  triple_onlyIf hx (fun _ _ hs => hs)

theorem keeps_okOr (value : Option α) (e : ε) :
    Keeps P (okOr value e : EStateM ε σ α) :=
  triple_okOr (fun _ _ hs _ => hs) (fun _ hs => hs)

theorem keeps_okOr_bind {value : Option α} (hf : ∀ a, value = some a → Keeps P (f a)) :
    Keeps P (okOr value e >>= f) := by
  cases value with
  | none => exact fun _ hs => hs
  | some a => exact hf a rfl

theorem keeps_fromExcept (value : Except ε α) :
    Keeps P (fromExcept value : EStateM ε σ α) :=
  triple_fromExcept (fun _ _ hs _ => hs) (fun _ _ hs _ => hs)

theorem keeps_atomically (active : Bool) (h : Keeps P x) :
    Keeps P (atomically active x) :=
  triple_atomically h (fun _ _ _ _ hs _ => hs) (fun _ _ _ hs => hs)

theorem keeps_attempt (h : Keeps P x) : Keeps P (attempt x) :=
  triple_attempt h

end Keeps

/-! ## Errors a program cannot raise -/

section Avoids

variable {ε σ α β : Type}

/-- Started where `P` holds, the program keeps `P` if it returns, and if it fails the
error is not one of `bad`. -/
def Avoids (bad : ε → Prop) (P : σ → Prop) (x : EStateM ε σ α) : Prop :=
  Triple P x (fun _ => P) (fun e _ => ¬ bad e)

variable {bad : ε → Prop} {P : σ → Prop}

theorem avoids_pure (a : α) : Avoids bad P (pure a : EStateM ε σ α) :=
  triple_pure fun _ hs => hs

variable {e : ε}

theorem avoids_throw (he : ¬ bad e) : Avoids bad P (throw e : EStateM ε σ α) :=
  triple_throw fun _ _ => he

theorem avoids_modify {f : σ → σ} (h : ∀ s, P s → P (f s)) :
    Avoids bad P (modify f : EStateM ε σ PUnit) :=
  triple_modify h

variable {x : EStateM ε σ α}

theorem avoids_bind {f : α → EStateM ε σ β} (hx : Avoids bad P x) (hf : ∀ a, Avoids bad P (f a)) :
    Avoids bad P (x >>= f) :=
  triple_bind hx hf

theorem avoids_map (f : α → β) (hx : Avoids bad P x) : Avoids bad P (f <$> x) :=
  triple_map hx

theorem avoids_get_bind {f : σ → EStateM ε σ β} (h : ∀ s, P s → Avoids bad P (f s)) :
    Avoids bad P (get >>= f) := by
  intro s hs
  exact h s hs s hs

theorem avoids_ite [Decidable condition] {y : EStateM ε σ α} (hx : condition → Avoids bad P x)
    (hy : ¬ condition → Avoids bad P y) :
    Avoids bad P (if condition then x else y) :=
  triple_ite hx hy

theorem avoids_require [Decidable condition] (he : ¬ bad e) :
    Avoids bad P (require condition e : EStateM ε σ Unit) :=
  triple_require (fun _ hs _ => hs) (fun _ _ _ => he)

theorem avoids_require_bind [Decidable condition] {f : Unit → EStateM ε σ β} (he : ¬ bad e)
    (h : condition → Avoids bad P (f ())) :
    Avoids bad P (require condition e >>= f) :=
  triple_require_bind (fun _ _ => he) h

theorem avoids_onlyIf [Decidable condition] {x : EStateM ε σ Unit}
    (hx : condition → Avoids bad P x) :
    Avoids bad P (onlyIf condition x) :=
  triple_onlyIf hx (fun _ _ hs => hs)

theorem avoids_okOr {value : Option α} (he : ¬ bad e) :
    Avoids bad P (okOr value e : EStateM ε σ α) :=
  triple_okOr (fun _ _ hs _ => hs) (fun _ _ => he)

theorem avoids_fromExcept {value : Except ε α} (he : ∀ e, value = .error e → ¬ bad e) :
    Avoids bad P (fromExcept value : EStateM ε σ α) :=
  triple_fromExcept (fun _ _ hs _ => hs) (fun _ e _ h => he e h)

theorem avoids_atomically (active : Bool) (h : Avoids bad P x) :
    Avoids bad P (atomically active x) :=
  triple_atomically h (fun _ _ _ _ _ he => he) (fun _ _ _ he => he)

end Avoids

end Monotempo.Foundation
