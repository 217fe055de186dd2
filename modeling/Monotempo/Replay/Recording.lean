/-
  Programs over storage, and what is recorded of them.

  Source: `crates/precompiles/src/storage/evm.rs` (`sload_inner`, `sstore_inner`, `sinc`,
  `sdec`), `crates/precompiles/src/storage_credits/accounting.rs` (`sstore_storage_credits`) and
  `crates/precompiles/src/tip_fee_manager/amm.rs` (`plan_fee_route`, `execute_fee_swap`).

  A program sees storage only through loads, the outcomes of liquidity checks and whether
  arithmetic failed.  It runs on the journal of its transaction: the first touch of a slot
  takes its value from storage.  A write that takes a slot to or from zero is accounted for in
  the storage credits of the account that owns the slot, which are themselves a slot.  The gas of
  a step depends on whether its slot was touched before and, for a write, on which of the
  original, present and new value are zero or equal; a trace keeps these.  Running out of gas is
  not modelled.
-/
import Monotempo.Chain.StorageCredits
import Monotempo.Replay.State

set_option autoImplicit false

namespace Monotempo.Replay

open Chain Foundation FeeAmm

/-! ## The journal -/

/-- A slot after a load, or after a write of a value. -/
def SlotChange.access (change : SlotChange) : Option ℕ → SlotChange
  | none => change
  | some value => { change with current := value, written := true }

section Changes

variable (base : Storage) (changes : Changes) (slot : Slot)

/-- A slot in the journal, or as it is loaded. -/
def changeAt : SlotChange := (changes slot).getD ⟨base slot, base slot, false⟩

/-- The value of a slot. -/
def present : ℕ := (changeAt base changes slot).current

/-- The journal after a slot was loaded, or written with a value. -/
def access (value : Option ℕ) : Changes :=
  Function.update changes slot (some ((changeAt base changes slot).access value))

/-- Whether a slot is touched for the first time. -/
def isCold : Bool := (changes slot).isNone

end Changes

/-! ## Costs -/

/-- What the gas, the refund and the storage credits of a write depend on. -/
structure WriteClass where
  originalZero : Bool
  presentZero : Bool
  newZero : Bool
  originalEqPresent : Bool
  presentEqNew : Bool
  originalEqNew : Bool
  deriving DecidableEq

/-- The class of a write. -/
def writeClass (original present new : ℕ) : WriteClass where
  originalZero := decide (original = 0)
  presentZero := decide (present = 0)
  newZero := decide (new = 0)
  originalEqPresent := decide (original = present)
  presentEqNew := decide (present = new)
  originalEqNew := decide (original = new)

/-- A step that is charged.  The last three are those of storage credits: the load of a balance,
`STORAGE_CREDIT_VALUE` for a slot that is created, and the write of a balance. -/
inductive Cost where
  | read (cold : Bool)
  | write (cold : Bool) (kind : WriteClass)
  | creditRead (cold : Bool)
  | creditCharge
  | creditWrite (kind : WriteClass)
  deriving DecidableEq

/-- A price list for steps. -/
structure GasSchedule where
  gas : Cost → ℕ
  refund : Cost → ℤ

/-- The gas of steps. -/
def GasSchedule.gasUsed (schedule : GasSchedule) (costs : List Cost) : ℕ :=
  (costs.map schedule.gas).sum

/-- The refund of steps. -/
def GasSchedule.refunded (schedule : GasSchedule) (costs : List Cost) : ℤ :=
  (costs.map schedule.refund).sum

/-- The class of the write of a value. -/
def writeKind (base : Storage) (changes : Changes) (slot : Slot) (value : ℕ) : WriteClass :=
  writeClass (changeAt base changes slot).original (present base changes slot) value

/-! ## Storage credits -/

/-- `STORAGE_CREDITS_ADDRESS`. -/
def storageCreditsAddress : Address := 0x1060000000000000000000000000000000000000

/-- The credit balance of an account, a slot of the storage credits (`StorageCredits::slot`). -/
def creditSlot (owner : Address) : Slot := ⟨storageCreditsAddress, owner⟩

/-- A write that changes whether its slot is zero. -/
inductive Crossing where
  | clear
  | creation
  deriving DecidableEq

/-- `crosses_zero_boundary`, `is_nonzero_to_zero` and `is_zero_to_nonzero`. -/
def crossing (present value : ℕ) : Option Crossing :=
  if present ≠ 0 ∧ value = 0 then some .clear
  else if present = 0 ∧ value ≠ 0 then some .creation
  else none

/-- `TransientState`. -/
structure TransientState where
  mode : CreditMode
  budget : ℕ
  pendingRefunds : ℕ

/-- What storage credits depend on within a transaction: the two switches of the storage provider
and the transient state of every account. -/
structure CreditPolicy where
  enabled : Bool
  minting : Bool
  transient : Address → TransientState

/-- What storage credits depend on besides: the fork, and `non_creditable_slots`. -/
structure CreditEnv where
  spec : TempoHardfork
  nonCreditable : Slot → Bool

/-- The state of a running program. -/
structure Journal where
  changes : Changes
  policy : CreditPolicy

/-- Whether a write of a slot is accounted for. -/
def counted (env : CreditEnv) (policy : CreditPolicy) (slot : Slot) : Bool :=
  env.spec.isT7 && policy.enabled && decide (slot.address ≠ storageCreditsAddress)

/-- What a crossing does to the transient state and the balance of the owner, and whether it is
charged. -/
structure CreditChange where
  transient : TransientState
  balance : Option ℕ
  charged : Bool

/-- The two cases of `sstore_storage_credits`. -/
def accountCrossing (mints : Bool) (state : TransientState) (credit : ℕ) :
    Crossing → CreditChange
  | .clear => ⟨state, if mints then some (min (credit + 1) u64Max) else none, false⟩
  | .creation =>
    match state.mode with
    | .direct =>
      if 0 < credit ∧ 0 < state.budget then
        -- An unlimited budget is never decremented.
        ⟨{ state with budget := if state.budget ≠ u64Max then state.budget - 1 else state.budget },
          some (credit - 1), false⟩
      else ⟨state, none, true⟩
    | .preserve => ⟨state, none, true⟩
    | .refund =>
      ⟨{ state with pendingRefunds := min (state.pendingRefunds + 1) u64Max }, none, true⟩

/-- An action that is recorded, and whether storage credits are accounted for with it. -/
structure Step where
  action : StorageAction
  counted : Bool
  deriving DecidableEq

/-- What the accounting of a write did. -/
structure Booked where
  journal : Journal
  steps : List Step
  costs : List Cost

/-- A load of a balance and, if it changes, a write, as they are recorded. -/
def creditSteps (account : Slot) (credit : ℕ) (balance : Option ℕ) : List Step :=
  ⟨.sload account credit, false⟩ ::
    (balance.map fun value => ⟨.sstore account credit value, false⟩).toList

/-- `sstore_storage_credits`; `none` if the balance is not a `u64`. -/
def sstoreStorageCredits (env : CreditEnv) (base : Storage) (slot : Slot)
    (crossed : Option Crossing) (journal : Journal) : Option Booked :=
  match crossed with
  | none => some ⟨journal, [], []⟩
  | some crossed =>
    if counted env journal.policy slot then
      let account := creditSlot slot.address
      let credit := present base journal.changes account
      if u64Max < credit then none else
      let change := accountCrossing (!env.nonCreditable slot && journal.policy.minting)
        (journal.policy.transient slot.address) credit crossed
      let transient :=
        Function.update journal.policy.transient slot.address change.transient
      some {
        journal :=
          ⟨access base journal.changes account change.balance, { journal.policy with transient }⟩
        steps := creditSteps account credit change.balance
        costs := .creditRead (isCold journal.changes account) ::
          (if change.charged then [.creditCharge] else []) ++
          (change.balance.map fun value =>
            .creditWrite (writeKind base journal.changes account value)).toList }
    else some ⟨journal, [], []⟩

/-- `sstore_inner`: a write of a slot and its accounting. -/
def sstoreInner (env : CreditEnv) (base : Storage) (slot : Slot) (cold : Bool) (value : ℕ)
    (journal : Journal) : Option Booked :=
  (sstoreStorageCredits env base slot (crossing (present base journal.changes slot) value)
    { journal with changes := access base journal.changes slot (some value) }).map fun booked =>
      { booked with
        costs := .write cold (writeKind base journal.changes slot value) :: booked.costs }

/-! ## Operations -/

/-- What a program can do.  `setPolicy` is not recorded: it stands for the switches of storage
credits and for their mode and budget. -/
inductive Operation where
  | sload (slot : Slot)
  | sstore (slot : Slot) (value : ℕ)
  | sinc (slot : Slot) (delta : ℕ)
  | sdec (slot : Slot) (delta : ℕ)
  | liquidityCheck (key amountOut : ℕ)
  | feeSwap (key amountIn : ℕ)
  | setPolicy (change : CreditPolicy → CreditPolicy)

/-- The value of a load, the outcome of a check, or whether arithmetic succeeded. -/
@[reducible] def Operation.Result : Operation → Type
  | .sload _ => ℕ
  | .sstore _ _ | .setPolicy _ => Unit
  | _ => Bool

/-- What an operation returned, did, was recorded with and is charged for. -/
structure Performed (ρ : Type) where
  result : ρ
  journal : Journal
  steps : List Step
  costs : List Cost
  failed : Bool

/-- What `sinc` records.  A slot that leaves zero is recorded exactly. -/
def sincActions (slot : Slot) (current value delta : ℕ) : List StorageAction :=
  if current = 0 ∧ value ≠ 0 then [.sload slot current, .sstore slot current value]
  else [.sinc slot current delta]

/-- What `sdec` records.  A slot that becomes zero is recorded exactly. -/
def sdecActions (slot : Slot) (current value delta : ℕ) : List StorageAction :=
  if current ≠ 0 ∧ value = 0 then [.sload slot current, .sstore slot current value]
  else [.sdec slot current delta]

/-- A load and a write of a value that is computed from the loaded one.  `record` places the
recorded actions before or after those of the accounting.  Arithmetic that fails records nothing. -/
def updateSlot (env : CreditEnv) (base : Storage) (slot : Slot) (f : ℕ → Option ℕ)
    (record : ℕ → ℕ → List Step → List Step) (journal : Journal) : Option (Performed Bool) :=
  let current := present base journal.changes slot
  let read := Cost.read (isCold journal.changes slot)
  match f current with
  | none =>
    some
      ⟨false, { journal with changes := access base journal.changes slot none }, [], [read], true⟩
  | some value => (sstoreInner env base slot false value journal).map fun booked =>
    ⟨true, booked.journal, record current value booked.steps, read :: booked.costs, false⟩

/-- Perform an operation; `none` if the balance of storage credits is not a `u64`. -/
def Operation.perform (env : CreditEnv) (base : Storage) (journal : Journal) :
    (op : Operation) → Option (Performed op.Result)
  | .sload slot =>
    let current := present base journal.changes slot
    some ⟨current, { journal with changes := access base journal.changes slot none },
      [⟨.sload slot current, false⟩], [.read (isCold journal.changes slot)], false⟩
  | .sstore slot value =>
    (sstoreInner env base slot (isCold journal.changes slot) value journal).map fun booked =>
      ⟨(), booked.journal,
        ⟨.sstore slot (present base journal.changes slot) value, false⟩ :: booked.steps,
        booked.costs, false⟩
  | .sinc slot delta => updateSlot env base slot (fun current => checkedAdd256 current delta)
    (fun current value booked => (sincActions slot current value delta).map
      (⟨·, counted env journal.policy slot⟩) ++ booked) journal
  | .sdec slot delta => updateSlot env base slot (fun current => checkedSub current delta)
    (fun current value booked => (sdecActions slot current value delta).map
      (⟨·, counted env journal.policy slot⟩) ++ booked) journal
  | .liquidityCheck key amountOut =>
    let current := present base journal.changes (poolSlot key)
    let enough := hasEnoughReserveValidatorToken current amountOut
    some ⟨enough, { journal with changes := access base journal.changes (poolSlot key) none },
      [⟨.feeAmmLiquidityCheck key (encodeToSlot (decodeFromSlot current)) amountOut enough, false⟩],
      [.read (isCold journal.changes (poolSlot key))], false⟩
  | .feeSwap key amountIn =>
    match computeAmountOut amountIn with
    | none => some ⟨false, journal, [], [], true⟩
    | some _ => updateSlot env base (poolSlot key) (fun current => swapSlot current amountIn)
      (fun current _ booked => booked ++
        [⟨.feeAmmSwap key (encodeToSlot (decodeFromSlot current)) amountIn,
          counted env journal.policy (poolSlot key)⟩]) journal
  | .setPolicy change => some ⟨(), { journal with policy := change journal.policy }, [], [], false⟩

/-! ## Programs -/

/-- A program over storage.  It goes on with what its operations returned. -/
inductive Program (α : Type) where
  | ret (output : α)
  | fail
  | perform (op : Operation) (next : op.Result → Program α)

/-- What a program returned, did to the journal, was recorded with and is charged for, and whether
arithmetic failed on the way. -/
structure Trace (α : Type) where
  output : α
  journal : Journal
  steps : List Step
  costs : List Cost
  failed : Bool

/-- The recorded actions. -/
def Trace.actions {α : Type} (trace : Trace α) : List StorageAction := trace.steps.map Step.action

/-- The slots that were touched. -/
def Trace.changes {α : Type} (trace : Trace α) : Changes := trace.journal.changes

/-- A trace with an operation before it. -/
def Trace.after {α ρ : Type} (p : Performed ρ) (trace : Trace α) : Trace α :=
  ⟨trace.output, trace.journal, p.steps ++ trace.steps, p.costs ++ trace.costs,
    p.failed || trace.failed⟩

/-- Run a program; `none` if it fails. -/
def Program.run {α : Type} (env : CreditEnv) (base : Storage) :
    Program α → Journal → Option (Trace α)
  | .ret output, journal => some ⟨output, journal, [], [], false⟩
  | .fail, _ => none
  | .perform op next, journal => (op.perform env base journal).bind fun p =>
    ((next p.result).run env base p.journal).map (Trace.after p)

/-- Run a program as a transaction. -/
def Program.execute {α : Type} (env : CreditEnv) (policy : CreditPolicy) (base : Storage)
    (program : Program α) : Option (Trace α) :=
  program.run env base ⟨fun _ => none, policy⟩

theorem encode_decode (slotValue : ℕ) : encodeToSlot (decodeFromSlot slotValue) = slotValue := by
  unfold encodeToSlot decodeFromSlot
  dsimp only
  omega

/-! ## Swaps -/

theorem applySwap_ok {pool pool' : Pool} {amountIn amountOut : ℕ}
    (h : applySwap pool amountIn amountOut = .ok pool') :
    amountOut ≤ pool.reserveValidatorToken ∧
      pool' = ⟨pool.reserveUserToken + amountIn, pool.reserveValidatorToken - amountOut⟩ := by
  unfold applySwap at h
  split at h
  · exact nomatch h
  rename_i henough
  split at h
  · exact nomatch h
  split at h
  · exact nomatch h
  split at h
  · exact nomatch h
  · exact ⟨Nat.le_of_not_lt henough, (Except.ok.inj h).symm⟩

/-- A swap adds to the low half of the word and takes from the high half. -/
theorem swapSlot_eq_some {slotValue amountIn value : ℕ}
    (h : swapSlot slotValue amountIn = some value) :
    ∃ amountOut, computeAmountOut amountIn = some amountOut ∧
      value + amountOut * 2 ^ 128 = slotValue + amountIn := by
  unfold swapSlot at h
  cases hout : computeAmountOut amountIn with
  | none =>
    rw [hout] at h
    exact nomatch h
  | some amountOut =>
    rw [hout] at h
    dsimp only at h
    cases hswap : applySwap (decodeFromSlot slotValue) amountIn amountOut with
    | error e =>
      rw [hswap] at h
      exact nomatch h
    | ok pool =>
      rw [hswap] at h
      obtain ⟨henough, rfl⟩ := applySwap_ok hswap
      obtain rfl := Option.some.inj h
      refine ⟨amountOut, rfl, ?_⟩
      unfold encodeToSlot
      unfold decodeFromSlot at henough ⊢
      dsimp only at henough ⊢
      omega

end Monotempo.Replay
