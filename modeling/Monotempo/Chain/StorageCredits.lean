/-
  TIP-1060 storage credits of one account.

  Source: `crates/precompiles/src/storage_credits/mod.rs` (`CreditMode`,
  `TransientState`, `track_minted_credits`, `set_budget`, `with_budget`,
  `StorageCreditDeltas`) and `storage_credits/accounting.rs`
  (`sstore_storage_credits`).

  The persistent balance and the transaction-local state of the account that
  owns the written slots are one record, `CreditAccount`.  Gas is not modelled:
  running out of gas fails the whole call.  The source saturates its `u64`
  counters; here they are natural numbers, so no counter ever saturates.
-/
import Monotempo.Chain.Hardfork
import Monotempo.Foundation.Program

set_option autoImplicit false

namespace Monotempo.Chain

open Foundation

variable {spec : TempoHardfork} {limit : ℕ}

/-! ## Accounting of one storage write -/

/-- `CreditMode`: the transaction-local policy for storage creations. -/
inductive CreditMode where
  | refund
  | preserve
  | direct
  deriving DecidableEq, Repr, Inhabited

/-- The persistent credit balance of an account with its `TransientState`. -/
structure CreditAccount where
  balance : ℕ
  mode : CreditMode
  budget : ℕ
  pendingRefunds : ℕ
  deriving DecidableEq, Repr, Inhabited

namespace CreditAccount

/-- `sstore_storage_credits` for a slot that held the word `present` and now
holds `value`.  Only a write that crosses the zero boundary is accounted. -/
def sstore (account : CreditAccount) (present value : ℕ) : CreditAccount :=
  if present ≠ 0 ∧ value = 0 then
    { account with balance := account.balance + 1 }
  else if present = 0 ∧ value ≠ 0 then
    match account.mode with
    | .direct =>
      if 0 < account.balance ∧ 0 < account.budget then
        -- An unlimited budget is never decremented.
        { account with
          balance := account.balance - 1
          budget := if account.budget ≠ u64Max then account.budget - 1
            else account.budget }
      else account
    | .preserve => account
    | .refund => { account with pendingRefunds := account.pendingRefunds + 1 }
  else account

/-- `set_budget`. -/
def setBudget (account : CreditAccount) (creditBudget : ℕ) : CreditAccount :=
  { account with mode := .direct, budget := creditBudget }

/-- The state `with_budget` leaves behind. -/
def resetToPreserve (account : CreditAccount) : CreditAccount :=
  { account with mode := .preserve, budget := 0 }

/-- Several slot writes in order, each as its old and new word. -/
def sstoreAll (account : CreditAccount) : List (ℕ × ℕ) → CreditAccount
  | [] => account
  | (present, value) :: rest => (account.sstore present value).sstoreAll rest

/-! ### What a write can do to the account -/

theorem sstore_mode (account : CreditAccount) (present value : ℕ) :
    (account.sstore present value).mode = account.mode := by
  unfold sstore
  split
  · rfl
  · split
    · split
      · split <;> rfl
      · rfl
      · rfl
    · rfl

theorem sstoreAll_mode (writes : List (ℕ × ℕ)) :
    ∀ account : CreditAccount, (account.sstoreAll writes).mode = account.mode := by
  induction writes with
  | nil => intro account; rfl
  | cons write rest ih =>
    intro account
    show ((account.sstore write.1 write.2).sstoreAll rest).mode = account.mode
    rw [ih, sstore_mode]

variable {account : CreditAccount}

theorem balance_le_sstore_of_preserve (present value : ℕ) (h : account.mode = .preserve) :
    account.balance ≤ (account.sstore present value).balance := by
  unfold sstore
  split
  · exact Nat.le_succ _
  · split
    · simp [h]
    · exact Nat.le_refl _

theorem balance_le_sstoreAll_of_preserve (writes : List (ℕ × ℕ)) :
    ∀ {account : CreditAccount}, account.mode = .preserve →
      account.balance ≤ (account.sstoreAll writes).balance := by
  induction writes with
  | nil =>
    intro account _
    exact Nat.le_refl _
  | cons write rest ih =>
    intro account h
    have hfirst := balance_le_sstore_of_preserve write.1 write.2 h
    have hmode : (account.sstore write.1 write.2).mode = .preserve := by
      rw [sstore_mode, h]
    exact Nat.le_trans hfirst (ih hmode)

theorem sstore_clear {present : ℕ} (h : present ≠ 0) :
    (account.sstore present 0).balance = account.balance + 1 := by
  unfold sstore
  rw [if_pos ⟨h, rfl⟩]

/-- Creating a slot under a positive budget spends one credit, if there is one. -/
theorem sstore_create_direct {value : ℕ} (hvalue : value ≠ 0) (hmode : account.mode = .direct)
    (hbalance : 0 < account.balance) (hbudget : 0 < account.budget) :
    (account.sstore 0 value).balance = account.balance - 1 := by
  unfold sstore
  rw [if_neg (fun h => h.1 rfl), if_pos ⟨rfl, hvalue⟩, hmode]
  rw [if_pos ⟨hbalance, hbudget⟩]

theorem balance_le_sstore_succ (account : CreditAccount) (present value : ℕ) :
    account.balance ≤ (account.sstore present value).balance + 1 := by
  unfold sstore
  split
  · show account.balance ≤ account.balance + 1 + 1
    omega
  · split
    · split
      · split
        · show account.balance ≤ account.balance - 1 + 1
          omega
        · exact Nat.le_succ _
      · exact Nat.le_succ _
      · exact Nat.le_succ _
    · exact Nat.le_succ _

theorem balance_le_sstoreAll_add_length (writes : List (ℕ × ℕ)) :
    ∀ account : CreditAccount,
      account.balance ≤ (account.sstoreAll writes).balance + writes.length := by
  induction writes with
  | nil =>
    intro account
    exact Nat.le_refl _
  | cons write rest ih =>
    intro account
    have hfirst := balance_le_sstore_succ account write.1 write.2
    have hrest := ih (account.sstore write.1 write.2)
    show account.balance ≤
      ((account.sstore write.1 write.2).sstoreAll rest).balance + (rest.length + 1)
    omega

/-- A finite budget bounds what a write can spend: what leaves the balance
leaves the budget. -/
theorem balance_add_budget_le_sstore (present value : ℕ) (hbudget : account.budget ≠ u64Max) :
    account.balance + (account.sstore present value).budget ≤
        (account.sstore present value).balance + account.budget ∧
      (account.sstore present value).budget ≤ account.budget := by
  unfold sstore
  split
  · simp only
    omega
  · split
    · split
      · split
        · simp only
          omega
        · omega
      · omega
      · simp
    · omega

theorem balance_add_budget_le_sstoreAll (writes : List (ℕ × ℕ)) :
    ∀ {account : CreditAccount}, account.budget < u64Max →
      account.balance + (account.sstoreAll writes).budget ≤
          (account.sstoreAll writes).balance + account.budget ∧
        (account.sstoreAll writes).budget ≤ account.budget := by
  induction writes with
  | nil =>
    intro account _
    exact ⟨Nat.le_refl _, Nat.le_refl _⟩
  | cons write rest ih =>
    intro account h
    have hfirst := balance_add_budget_le_sstore write.1 write.2 (Nat.ne_of_lt h)
    have hrest := ih (Nat.lt_of_le_of_lt hfirst.2 h)
    show account.balance + ((account.sstore write.1 write.2).sstoreAll rest).budget ≤
        ((account.sstore write.1 write.2).sstoreAll rest).balance + account.budget ∧
      ((account.sstore write.1 write.2).sstoreAll rest).budget ≤ account.budget
    omega

end CreditAccount

/-! ## Programs of a slot owner -/

/-- States that hold the credit account of the contract they belong to. -/
class HasCredits (σ : Type) where
  credits : σ → CreditAccount
  setCredits : CreditAccount → σ → σ

section Owner

variable {ε σ α : Type} [HasCredits σ]

/-- `track_minted_credits`: run `f` and return the number of credits it minted.
Consumed credits are a fatal bookkeeping error. -/
def trackMintedCredits (spec : TempoHardfork) (consumed : ℕ → ℕ → ε)
    (f : EStateM ε σ α) : EStateM ε σ (α × ℕ) :=
  if !spec.isT7 then (fun value => (value, 0)) <$> f
  else do
    let before := (HasCredits.credits (← get)).balance
    let value ← f
    let after := (HasCredits.credits (← get)).balance
    require (before ≤ after) (consumed before after)
    pure (value, after - before)

/-- `with_budget` with a positive limit: the mode is reset also when `f` fails. -/
def spendingUpTo (limit : ℕ) (f : EStateM ε σ α) : EStateM ε σ (α × ℤ) := fun s =>
  let started := HasCredits.setCredits ((HasCredits.credits s).setBudget limit) s
  let before := (HasCredits.credits started).balance
  match f started with
  | .ok value finished =>
    let after := (HasCredits.credits finished).balance
    .ok (value, (after : ℤ) - before)
      (HasCredits.setCredits (HasCredits.credits finished).resetToPreserve finished)
  | .error e finished =>
    .error e (HasCredits.setCredits (HasCredits.credits finished).resetToPreserve finished)

/-- `with_budget`: run `f` with at most `limit` direct credit spends, and return
the signed change of the balance. -/
def withBudget (spec : TempoHardfork) (limit : ℕ) (f : EStateM ε σ α) :
    EStateM ε σ (α × ℤ) :=
  if !spec.isT7 then (fun value => (value, 0)) <$> f
  else if limit = 0 then do
    let before := (HasCredits.credits (← get)).balance
    let value ← f
    let after := (HasCredits.credits (← get)).balance
    pure (value, (after : ℤ) - before)
  else spendingUpTo limit f

variable {f : EStateM ε σ α}

theorem spendingUpTo_ok {result : α × ℤ} {s s' : σ} :
    spendingUpTo limit f s = .ok result s' ↔
      ∃ t, f (HasCredits.setCredits ((HasCredits.credits s).setBudget limit) s) =
          .ok result.1 t ∧
        result.2 = ((HasCredits.credits t).balance : ℤ) -
          (HasCredits.credits
            (HasCredits.setCredits ((HasCredits.credits s).setBudget limit) s)).balance ∧
        s' = HasCredits.setCredits (HasCredits.credits t).resetToPreserve t := by
  unfold spendingUpTo
  cases hrun : f (HasCredits.setCredits ((HasCredits.credits s).setBudget limit) s) with
  | ok a t =>
    simp only [hrun, EStateM.Result.ok.injEq]
    constructor
    · rintro ⟨rfl, rfl⟩
      exact ⟨t, ⟨rfl, rfl⟩, rfl, rfl⟩
    · rintro ⟨t', ⟨ha, rfl⟩, hdelta, rfl⟩
      exact ⟨Prod.ext ha hdelta.symm, rfl⟩
  | error e t => simp [hrun]

variable {consumed : ℕ → ℕ → ε}

theorem trackMintedCredits_ok {result : α × ℕ} {s s' : σ}
    (h : trackMintedCredits spec consumed f s = .ok result s') : f s = .ok result.1 s' := by
  unfold trackMintedCredits at h
  split at h
  · rw [map_ok] at h
    obtain ⟨a, hrun, rfl⟩ := h
    exact hrun
  · simp only [bind_ok, get_ok, require_ok, pure_ok] at h
    obtain ⟨_, _, ⟨rfl, rfl⟩, a, s₁, hrun, _, _, ⟨rfl, rfl⟩, _, _, ⟨_, rfl⟩, rfl, rfl⟩ := h
    exact hrun

/-- A program run under a budget, seen through a projection that does not show the
credit account. -/
theorem withBudget_frame {τ : Type} (project : σ → τ)
    (hproject : ∀ account s, project (HasCredits.setCredits account s) = project s) {result : α × ℤ}
    {s s' : σ} (h : withBudget spec limit f s = .ok result s') :
    ∃ t t', project t = project s ∧ f t = .ok result.1 t' ∧ project s' = project t' := by
  unfold withBudget at h
  split at h
  · rw [map_ok] at h
    obtain ⟨a, hrun, rfl⟩ := h
    exact ⟨s, s', rfl, hrun, rfl⟩
  · split at h
    · simp only [bind_ok, get_ok, pure_ok] at h
      obtain ⟨_, _, ⟨rfl, rfl⟩, a, s₁, hrun, _, _, ⟨rfl, rfl⟩, rfl, rfl⟩ := h
      exact ⟨_, _, rfl, hrun, rfl⟩
    · obtain ⟨t, hrun, _, rfl⟩ := spendingUpTo_ok.mp h
      exact ⟨_, t, hproject _ _, hrun, hproject _ _⟩

theorem avoids_trackMintedCredits {bad : ε → Prop} {P : σ → Prop} {f : EStateM ε σ Unit}
    (hf : Avoids bad P f) (hconsumed : ∀ before after, ¬ bad (consumed before after)) :
    Avoids bad P (trackMintedCredits spec consumed f) := by
  refine avoids_ite (fun _ => avoids_map _ hf) (fun _ => ?_)
  refine avoids_get_bind fun s _ => avoids_bind hf fun value => ?_
  refine avoids_get_bind fun t _ => ?_
  exact avoids_bind (avoids_require (hconsumed _ _)) fun _ => avoids_pure _

/-- A budget raises no errors of its own. -/
theorem avoids_withBudget {bad : ε → Prop} {P : σ → Prop} {f : EStateM ε σ Unit}
    (hf : Avoids bad P f) (hset : ∀ account s, P s → P (HasCredits.setCredits account s)) :
    Avoids bad P (withBudget spec limit f) := by
  refine avoids_ite (fun _ => avoids_map _ hf) (fun _ => avoids_ite (fun _ => ?_) (fun _ => ?_))
  · refine avoids_get_bind fun s _ => avoids_bind hf fun value => ?_
    exact avoids_get_bind fun t _ => avoids_pure _
  · intro s hs
    have hrun := hf _ (hset ((HasCredits.credits s).setBudget limit) s hs)
    unfold spendingUpTo
    cases hresult : f (HasCredits.setCredits ((HasCredits.credits s).setBudget limit) s) with
    | ok value t =>
      rw [hresult] at hrun
      simp only [hresult]
      exact hset _ _ hrun
    | error e t =>
      rw [hresult] at hrun
      simp only [hresult]
      exact hrun

end Owner

/-! ## Deferred credits -/

/-- `StorageCreditDeltas`: the credits users earned during one call, by user in
ascending order (a `BTreeMap`). -/
abbrev StorageCreditDeltas := List (Address × ℕ)

/-- Add to the entry of `user`, creating it in key order. -/
def insertDelta (user : Address) (slots : ℕ) : StorageCreditDeltas → StorageCreditDeltas
  | [] => [(user, slots)]
  | (other, total) :: rest =>
    if user < other then (user, slots) :: (other, total) :: rest
    else if user = other then (other, total + slots) :: rest
    else (other, total) :: insertDelta user slots rest

/-- `credit_slots`. -/
def creditSlots (deltas : StorageCreditDeltas) (user : Address) (slots : ℕ) :
    StorageCreditDeltas :=
  if slots = 0 then deltas else insertDelta user slots deltas

/-- The credits recorded for all users together. -/
def pendingCredits (deltas : StorageCreditDeltas) : ℕ := (deltas.map (·.2)).sum

theorem pendingCredits_insertDelta (user : Address) (slots : ℕ) :
    ∀ deltas : StorageCreditDeltas,
      pendingCredits (insertDelta user slots deltas) = pendingCredits deltas + slots := by
  intro deltas
  induction deltas with
  | nil => simp [insertDelta, pendingCredits]
  | cons entry rest ih =>
    unfold insertDelta
    split
    · simp [pendingCredits, Nat.add_comm]
    · split
      · simp only [pendingCredits, List.map_cons, List.sum_cons]
        omega
      · simp only [pendingCredits, List.map_cons, List.sum_cons] at ih ⊢
        omega

theorem pendingCredits_creditSlots (deltas : StorageCreditDeltas) (user : Address)
    (slots : ℕ) :
    pendingCredits (creditSlots deltas user slots) = pendingCredits deltas + slots := by
  unfold creditSlots
  split
  · rename_i h
    rw [h, Nat.add_zero]
  · exact pendingCredits_insertDelta user slots deltas

end Monotempo.Chain
