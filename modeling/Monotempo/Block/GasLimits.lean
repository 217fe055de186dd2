/-
  What the counters of a block add up to.

  A transaction that does not fit into what is left goes to the incentive section, and so does
  everything after it.  From T4 on the block is refused if a signed transaction used gas there.
-/
import Monotempo.Block.Executor
import Monotempo.Foundation.Program
import Mathlib.Algebra.Order.BigOperators.Group.List

set_option autoImplicit false

namespace Monotempo.Block

open Chain Foundation
open Executor (commitTransaction finish run validateTx)

variable {ex ex' : Executor} {x : Execution} {xs : List Execution} {output : TxResult}
  {tx : TxEnvelope} {gas : UInt64} {env : Env}

/-! ## Gas of results -/

namespace TxResult

/-- Committed to the non-shared section. -/
def isNonShared (output : TxResult) : Bool := decide (output.nextSection = .nonShared)

/-- Committed to the non-shared section and not a payment. -/
def isGeneral (output : TxResult) : Bool := output.isNonShared && !output.isPayment

/-- Not an RPC simulation. -/
def isSigned (output : TxResult) : Bool :=
  match output.executionContext with
  | .transaction _ => true
  | .simulation => false

/-- A signed transaction in the incentive section. -/
def isSpilled (output : TxResult) : Bool :=
  decide (output.nextSection = .gasIncentive) && output.isSigned

/-- The gas of a result if it is counted. -/
def gasIn (counted : TxResult → Bool) (output : TxResult) : ℕ :=
  if counted output then output.blockGasUsed.toNat else 0

end TxResult

/-- The block gas of the results that are counted. -/
def gasIn (counted : TxResult → Bool) (outputs : List TxResult) : ℕ :=
  (outputs.map (TxResult.gasIn counted)).sum

@[simp] theorem gasIn_cons (counted : TxResult → Bool) (output : TxResult)
    (outputs : List TxResult) :
    gasIn counted (output :: outputs) = output.gasIn counted + gasIn counted outputs :=
  List.sum_cons

theorem gasIn_le_add {counted left right : TxResult → Bool} {outputs : List TxResult}
    (h : ∀ output ∈ outputs, counted output = true → left output = true ∨ right output = true) :
    gasIn counted outputs ≤ gasIn left outputs + gasIn right outputs := by
  induction outputs with
  | nil => exact Nat.le_refl _
  | cons output outputs ih =>
    obtain ⟨hfirst, hrest⟩ := List.forall_mem_cons.mp h
    have hrest := ih hrest
    have hone : output.gasIn counted ≤ output.gasIn left + output.gasIn right := by
      unfold TxResult.gasIn
      split
      · next hcounted =>
        rcases hfirst hcounted with hleft | hright
        · rw [if_pos hleft]
          exact Nat.le_add_right ..
        · rw [if_pos hright]
          exact Nat.le_add_left ..
      · exact Nat.zero_le _
    simp only [gasIn_cons]
    omega

/-! ## Sections -/

theorem toNat_saturatingSub (a b : UInt64) : (saturatingSub a b).toNat = a.toNat - b.toNat := by
  unfold saturatingSub
  split
  · next h => exact UInt64.toNat_sub_of_le a b h
  · next h =>
    have : ¬ b.toNat ≤ a.toNat := fun hle => h (UInt64.le_iff_toNat_le.mpr hle)
    rw [UInt64.toNat_zero]
    omega

variable {next : BlockSection}

theorem validateSystemTx_ok (h : ex.validateSystemTx tx = .ok next) :
    next = .system true ∧ ex.env.spec.isT4 = false := by
  unfold Executor.validateSystemTx at h
  split at h
  · split at h
    · cases h
    split at h
    · cases h
    · next hfork =>
      split at h
      · cases h
        exact ⟨rfl, Bool.eq_false_iff.mpr hfork⟩
      · cases h
  · cases h

/-- The transaction fits into what is left. -/
structure Executor.HasGas (ex : Executor) (isPayment : Bool) (gas : UInt64) : Prop where
  nonShared : gas ≤ ex.nonSharedGasLeft
  nonPayment : isPayment = false → gas ≤ ex.nonPaymentGasLeft

theorem validateTx_nonShared (h : ex.validateTx tx gas = .ok .nonShared) :
    ex.HasGas (ex.env.isPayment tx) gas := by
  unfold validateTx at h
  split at h
  · cases (validateSystemTx_ok h).1
  split at h
  · cases h
  split at h
  iterate 2
    split at h
    · cases h
    · next hfits =>
      rw [not_or, not_and] at hfits
      exact ⟨UInt64.not_lt.mp hfits.1, fun hgeneral => UInt64.not_lt.mp (hfits.2 hgeneral)⟩
  · cases h
  · cases h

/-- A regular transaction is put into the non-shared section as long as that is open and the
transaction fits. -/
theorem validateTx_of_hasGas (hsystem : tx.isSystemTx = false)
    (hinitial : tx.hasSubBlockNonceKeyPrefix = false)
    (hopen : ex.blockSection = .startOfBlock ∨ ex.blockSection = .nonShared)
    (hgas : ex.HasGas (ex.env.isPayment tx) gas) : ex.validateTx tx gas = .ok .nonShared := by
  have hfits : ¬ (ex.nonSharedGasLeft < gas ∨
      (ex.env.isPayment tx = false ∧ ex.nonPaymentGasLeft < gas)) := by
    rw [not_or, not_and]
    exact ⟨UInt64.not_lt.mpr hgas.nonShared, fun hgeneral =>
      UInt64.not_lt.mpr (hgas.nonPayment hgeneral)⟩
  unfold validateTx
  rw [hsystem, hinitial, if_neg Bool.false_ne_true, if_neg Bool.false_ne_true]
  rcases hopen with hsection | hsection
  · rw [hsection]
    exact if_neg hfits
  · rw [hsection]
    exact if_neg hfits

/-- From T4 on there are two sections, and only regular transactions. -/
theorem validateTx_sections (hfork : ex.env.spec.isT4 = true)
    (h : ex.validateTx tx gas = .ok next) :
    (next = .nonShared ∨ next = .gasIncentive) ∧ tx.isSystemTx = false ∧
      tx.hasSubBlockNonceKeyPrefix = false := by
  unfold validateTx at h
  split at h
  · rw [(validateSystemTx_ok h).2] at hfork
    cases hfork
  · next hsystem =>
    split at h
    · cases h
    · next hinitial =>
      refine ⟨?_, Bool.eq_false_iff.mpr hsystem, Bool.eq_false_iff.mpr hinitial⟩
      split at h
      iterate 2
        split at h
        · cases h
          exact .inr rfl
        · cases h
          exact .inl rfl
      · cases h
        exact .inr rfl
      · cases h

/-- What is known of the result of a transaction before it is committed. -/
structure Checked (ex : Executor) (x : Execution) (output : TxResult) : Prop where
  outcome : x.outcome = .ok output.gas
  isPayment : output.isPayment = ex.env.isPayment x.tx
  blockGasUsed : output.blockGasUsed = ex.env.blockGasUsed output.gas
  fits : output.nextSection = .nonShared → ex.HasGas output.isPayment output.blockGasUsed
  validated : ex.env.spec.isT4 = true →
    ex.validateTx x.tx output.blockGasUsed = .ok output.nextSection

theorem checked_of_validateTx {resultGas : ResultGas} (houtcome : x.outcome = .ok resultGas)
    (hnext : ex.validateTx x.tx (ex.env.blockGasUsed resultGas) = .ok next) :
    Checked ex x ⟨resultGas, x.context, next, ex.env.isPayment x.tx,
      ex.env.blockGasUsed resultGas⟩ := by
  refine ⟨houtcome, rfl, rfl, fun hsection => ?_, fun _ => hnext⟩
  subst hsection
  exact validateTx_nonShared hnext

theorem executeTransactionWithoutCommit_ok (h : ex.executeTransactionWithoutCommit x = .ok output) :
    Checked ex x output ∧ ex.checkBlockGas x.tx = .ok () := by
  obtain ⟨preSection, hpre, h⟩ := except_bind_ok.mp h
  obtain ⟨_, hcheck, h⟩ := except_bind_ok.mp h
  obtain ⟨resultGas, houtcome, h⟩ := except_bind_ok.mp h
  obtain ⟨next, hnext, h⟩ := except_bind_ok.mp h
  cases h
  refine ⟨?_, hcheck⟩
  cases preSection with
  | none => exact checked_of_validateTx houtcome hnext
  | some pre =>
    cases hnext
    -- a section is given to system transactions only
    have hsystem : next = .system true ∧ ex.env.spec.isT4 = false := by
      unfold Executor.validateTxPreExecution at hpre
      split at hpre
      · cases hvalidate : ex.validateSystemTx x.tx with
        | error e =>
          rw [hvalidate] at hpre
          cases hpre
        | ok pre =>
          rw [hvalidate] at hpre
          cases hpre
          exact validateSystemTx_ok hvalidate
      split at hpre <;> cases hpre
    obtain ⟨rfl, hfork⟩ := hsystem
    refine ⟨houtcome, rfl, rfl, nofun, fun hfork' => ?_⟩
    rw [hfork] at hfork'
    cases hfork'

theorem executeTransaction_ok (h : ex.executeTransaction x = .ok (ex', output)) :
    Checked ex x output ∧ ex.checkBlockGas x.tx = .ok () ∧ ex' = ex.commitTransaction output := by
  obtain ⟨result, hresult, h⟩ := except_bind_ok.mp h
  cases h
  obtain ⟨hchecked, hcheck⟩ := executeTransactionWithoutCommit_ok hresult
  exact ⟨hchecked, hcheck, rfl⟩

theorem executeTransactionWithActions_ok
    (h : ex.executeTransactionWithActions x = .ok (ex', output)) :
    Checked ex x output ∧ ex' = ex.commitTransaction output := by
  obtain ⟨resultGas, houtcome, h⟩ := except_bind_ok.mp h
  obtain ⟨next, hnext, h⟩ := except_bind_ok.mp h
  cases h
  exact ⟨checked_of_validateTx houtcome hnext, rfl⟩

/-! ## One transaction -/

theorem commitTransaction_env : (ex.commitTransaction output).env = ex.env := by
  unfold commitTransaction
  cases output.nextSection with
  | gasIncentive => cases output.executionContext <;> rfl
  | _ => rfl

theorem commitTransaction_innerGasUsed
    (hgas : output.blockGasUsed = ex.env.blockGasUsed output.gas) :
    (ex.commitTransaction output).innerGasUsed = ex.innerGasUsed + output.blockGasUsed := by
  have hcounters : (ex.commitTransaction output).blockRegularGasUsed =
        ex.blockRegularGasUsed + output.gas.blockRegularGasUsed ∧
      (ex.commitTransaction output).cumulativeTxGasUsed =
        ex.cumulativeTxGasUsed + output.gas.txGasUsed := by
    unfold commitTransaction
    cases output.nextSection with
    | gasIncentive => cases output.executionContext <;> exact ⟨rfl, rfl⟩
    | _ => exact ⟨rfl, rfl⟩
  unfold Executor.innerGasUsed
  rw [commitTransaction_env, hcounters.1, hcounters.2, hgas, Env.blockGasUsed]
  split <;> rfl

/-- The counters go down by what is committed to the non-shared section. -/
theorem Checked.counters (h : Checked ex x output) :
    (ex.commitTransaction output).nonSharedGasLeft.toNat + output.gasIn TxResult.isNonShared =
        ex.nonSharedGasLeft.toNat ∧
      (ex.commitTransaction output).nonPaymentGasLeft.toNat + output.gasIn TxResult.isGeneral =
        ex.nonPaymentGasLeft.toNat := by
  have hfits := h.fits
  unfold commitTransaction TxResult.gasIn TxResult.isGeneral TxResult.isNonShared
  cases hsection : output.nextSection with
  | nonShared =>
    obtain ⟨hnonShared, hnonPayment⟩ := hfits hsection
    have hle := UInt64.le_iff_toNat_le.mp hnonShared
    refine ⟨?_, ?_⟩
    · rw [if_pos (decide_eq_true rfl), UInt64.toNat_sub_of_le _ _ hnonShared]
      omega
    · cases hpayment : output.isPayment with
      | true => rfl
      | false =>
        have hle := UInt64.le_iff_toNat_le.mp (hnonPayment hpayment)
        show (ex.nonPaymentGasLeft - output.blockGasUsed).toNat + output.blockGasUsed.toNat = _
        rw [UInt64.toNat_sub_of_le _ _ (hnonPayment hpayment)]
        omega
  | gasIncentive => cases output.executionContext <;> exact ⟨rfl, rfl⟩
  | startOfBlock | system => exact ⟨rfl, rfl⟩

theorem commitTransaction_incentive :
    (ex.commitTransaction output).incentiveGasUsed =
      if output.isSpilled then ex.incentiveGasUsed + output.blockGasUsed
      else ex.incentiveGasUsed := by
  unfold commitTransaction TxResult.isSpilled TxResult.isSigned
  cases output.nextSection with
  | gasIncentive => cases output.executionContext <;> rfl
  | _ => rfl

/-! ## Runs -/

theorem run_counters :
    (ex.run xs).1.nonSharedGasLeft.toNat + gasIn TxResult.isNonShared (ex.run xs).2 =
        ex.nonSharedGasLeft.toNat ∧
      (ex.run xs).1.nonPaymentGasLeft.toNat + gasIn TxResult.isGeneral (ex.run xs).2 =
        ex.nonPaymentGasLeft.toNat := by
  induction xs generalizing ex with
  | nil => exact ⟨rfl, rfl⟩
  | cons x xs ih =>
    unfold run
    cases hstep : ex.executeTransaction x with
    | error e => exact ih
    | ok step =>
      obtain ⟨ex', output⟩ := step
      obtain ⟨hchecked, -, rfl⟩ := executeTransaction_ok hstep
      obtain ⟨hnonShared, hnonPayment⟩ := hchecked.counters
      obtain ⟨hnonShared', hnonPayment'⟩ := @ih (ex.commitTransaction output)
      simp only [gasIn_cons]
      omega

theorem run_env : (ex.run xs).1.env = ex.env := by
  induction xs generalizing ex with
  | nil => rfl
  | cons x xs ih =>
    unfold run
    cases hstep : ex.executeTransaction x with
    | error e => exact ih
    | ok step =>
      obtain ⟨ex', output⟩ := step
      obtain ⟨-, -, rfl⟩ := executeTransaction_ok hstep
      exact ih.trans commitTransaction_env

theorem run_sections (hfork : ex.env.spec.isT4 = true) :
    ∀ output ∈ (ex.run xs).2,
      output.nextSection = .nonShared ∨ output.nextSection = .gasIncentive := by
  induction xs generalizing ex with
  | nil => exact nofun
  | cons x xs ih =>
    unfold run
    cases hstep : ex.executeTransaction x with
    | error e => exact ih hfork
    | ok step =>
      obtain ⟨ex', output⟩ := step
      obtain ⟨hchecked, -, rfl⟩ := executeTransaction_ok hstep
      refine List.forall_mem_cons.mpr
        ⟨(validateTx_sections hfork (hchecked.validated hfork)).1, ih ?_⟩
      rwa [commitTransaction_env]

/-- What the EVM guarantees: a transaction uses no more block gas than its limit and the cap. -/
def Execution.WithinLimit (env : Env) (x : Execution) : Prop :=
  ∀ resultGas, x.outcome = .ok resultGas → env.blockGasUsed resultGas ≤ env.maxGasUsed x.tx

/-- The gas of the block is within its limit, and that of the incentive section is a part of it. -/
structure Executor.Bounded (ex : Executor) : Prop where
  inner : ex.innerGasUsed ≤ ex.env.gasLimit
  incentive : ex.incentiveGasUsed ≤ ex.innerGasUsed

theorem checkBlockGas_ok (h : ex.checkBlockGas tx = .ok ()) :
    ex.env.maxGasUsed tx ≤ ex.env.gasLimit - ex.innerGasUsed := by
  unfold Executor.checkBlockGas at h
  dsimp only at h
  split at h
  · cases h
  · next hfits => exact UInt64.not_lt.mp hfits

theorem Executor.Bounded.step (h : ex.Bounded) (hlimit : x.WithinLimit ex.env)
    (hstep : ex.executeTransaction x = .ok (ex', output)) :
    ex'.Bounded ∧
      ex'.incentiveGasUsed.toNat = ex.incentiveGasUsed.toNat + output.gasIn TxResult.isSpilled := by
  obtain ⟨hchecked, hcheck, rfl⟩ := executeTransaction_ok hstep
  have hused := hlimit output.gas hchecked.outcome
  rw [← hchecked.blockGasUsed] at hused
  have havailable := UInt64.le_trans hused (checkBlockGas_ok hcheck)
  have hgas := commitTransaction_innerGasUsed hchecked.blockGasUsed
  have hinner := UInt64.le_iff_toNat_le.mp h.inner
  have hincentive := UInt64.le_iff_toNat_le.mp h.incentive
  rw [UInt64.le_iff_toNat_le, UInt64.toNat_sub_of_le _ _ h.inner] at havailable
  have hword := ex.env.gasLimit.toNat_lt
  have hsum : (ex.innerGasUsed + output.blockGasUsed).toNat =
      ex.innerGasUsed.toNat + output.blockGasUsed.toNat := by
    rw [UInt64.toNat_add]
    omega
  have hspilled : (ex.commitTransaction output).incentiveGasUsed.toNat =
      ex.incentiveGasUsed.toNat + output.gasIn TxResult.isSpilled := by
    rw [commitTransaction_incentive, TxResult.gasIn]
    split
    · rw [UInt64.toNat_add]
      omega
    · rfl
  have hpart : output.gasIn TxResult.isSpilled ≤ output.blockGasUsed.toNat := by
    unfold TxResult.gasIn
    split
    · exact Nat.le_refl _
    · exact Nat.zero_le _
  refine ⟨⟨?_, ?_⟩, hspilled⟩
  · rw [hgas, commitTransaction_env, UInt64.le_iff_toNat_le, hsum]
    omega
  · rw [hgas, UInt64.le_iff_toNat_le, hsum, hspilled]
    omega

theorem run_incentive (h : ex.Bounded) (hlimit : ∀ x ∈ xs, x.WithinLimit ex.env) :
    (ex.run xs).1.incentiveGasUsed.toNat =
      ex.incentiveGasUsed.toNat + gasIn TxResult.isSpilled (ex.run xs).2 := by
  induction xs generalizing ex with
  | nil => rfl
  | cons x xs ih =>
    obtain ⟨hfirst, hrest⟩ := List.forall_mem_cons.mp hlimit
    unfold run
    cases hstep : ex.executeTransaction x with
    | error e => exact ih h hrest
    | ok step =>
      obtain ⟨ex', output⟩ := step
      obtain ⟨hbounded, hincentive⟩ := h.step hfirst hstep
      obtain ⟨-, -, rfl⟩ := executeTransaction_ok hstep
      have ih := ih hbounded (by rwa [commitTransaction_env])
      simp only [gasIn_cons]
      omega

/-- The incentive section has no gas of signed transactions if the block is not refused. -/
theorem finish_ok {endOfBlock : Except BlockError Unit} {used : UInt64}
    (hfork : ex.env.spec.isT4 = true) (h : ex.finish endOfBlock = .ok used) :
    ex.incentiveGasUsed.toNat = 0 := by
  unfold finish at h
  split at h
  · cases h
  · next hrefused =>
    have hzero : ¬ (0 : UInt64) < ex.incentiveGasUsed := fun hpos => hrefused ⟨hfork, hpos⟩
    rw [UInt64.lt_iff_toNat_lt, UInt64.toNat_zero] at hzero
    omega

/-- Without gas of signed transactions in the incentive section, those that are counted are all in
the non-shared one. -/
theorem gasIn_le_of_not_spilled {counted nonShared : TxResult → Bool} {outputs : List TxResult}
    (hsections : ∀ output ∈ outputs,
      output.nextSection = .nonShared ∨ output.nextSection = .gasIncentive)
    (hcounted : ∀ output, counted output = true →
      output.isSigned = true ∧ (output.isNonShared = true → nonShared output = true))
    (hspilled : gasIn TxResult.isSpilled outputs = 0) :
    gasIn counted outputs ≤ gasIn nonShared outputs := by
  have hle := @gasIn_le_add counted nonShared TxResult.isSpilled outputs fun output hmem h => by
    obtain ⟨hsigned, hnonShared⟩ := hcounted output h
    rcases hsections output hmem with hsection | hsection
    · exact .inl (hnonShared (decide_eq_true hsection))
    · refine .inr ?_
      rw [TxResult.isSpilled, hsigned, hsection]
      rfl
  rwa [hspilled, Nat.add_zero] at hle

end Monotempo.Block
