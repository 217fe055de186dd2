/-
  Blocks that the payload builder fills are within the limits.

  Source: the loop of `build_payload` in `crates/payload/builder/src/lib.rs`.

  The builder counts gas on its own and admits a transaction by the most gas it can use.  What it
  admits fits into what the executor has left, so that nothing gets into the incentive section.
-/
import Monotempo.Block.GasLimits

set_option autoImplicit false

namespace Monotempo.Block

open Chain Foundation

/-! ## The builder -/

/-- A transaction of the pool, with what happens if it is executed or its recording is replayed. -/
structure PoolTx where
  tx : TxEnvelope
  txHash : B256
  isPayment : Bool
  /-- the pool keeps the classification from T5 on -/
  cached : isPayment = tx.isPaymentV2
  replayed : Bool
  outcome : Except BlockError ResultGas

/-- The counters of `build_payload`. -/
structure Builder where
  isOsaka : Bool
  cumulativeGasUsed : UInt64
  nonPaymentGasUsed : UInt64
  estimatedRlpBlockSize : ℕ
  executor : Executor

/-- `MAX_RLP_BLOCK_SIZE`. -/
def maxRlpBlockSize : ℕ := 8388608

/-- How a transaction is treated before it is executed. -/
inductive Admission where
  | exceedsBlockGasLimit
  | exceedsGeneralGasLimit
  | oversizedBlock
  | admitted
  deriving DecidableEq, Repr

/-- Errors after which the builder goes on with the next transaction. -/
def BlockError.isSkipped : BlockError → Bool
  | .invalidTx _ | .replay => true
  | _ => false

/-- The transaction as it is in the block. -/
def PoolTx.execution (p : PoolTx) : Execution := ⟨.transaction p.txHash, p.tx, p.outcome⟩

namespace Builder

/-- The builder at the start of a block. -/
def start (env : Env) (isOsaka : Bool) (estimatedRlpBlockSize : ℕ) : Builder :=
  ⟨isOsaka, 0, 0, estimatedRlpBlockSize, Executor.new env⟩

def isPayment (b : Builder) (p : PoolTx) : Bool :=
  if b.executor.env.spec.isT5 then p.isPayment else p.tx.isPaymentV1

/-- The checks of the loop. -/
def admission (b : Builder) (p : PoolTx) : Admission :=
  let env := b.executor.env
  let maxRegularGasUsed := env.maxGasUsed p.tx
  if env.gasLimit < b.cumulativeGasUsed + maxRegularGasUsed then .exceedsBlockGasLimit
  else if b.isPayment p = false ∧ env.generalGasLimit < b.nonPaymentGasUsed + maxRegularGasUsed then
    .exceedsGeneralGasLimit
  else if b.isOsaka ∧ maxRlpBlockSize < b.estimatedRlpBlockSize + p.tx.encodedLength then
    .oversizedBlock
  else .admitted

/-- The transaction is executed, or its recording is replayed. -/
def executed (b : Builder) (p : PoolTx) : Except BlockError (Executor × TxResult) :=
  if p.replayed then b.executor.executeTransactionWithActions p.execution
  else b.executor.executeTransaction p.execution

/-- The counters after a transaction. -/
def included (b : Builder) (p : PoolTx) (output : TxResult) (executor : Executor) : Builder :=
  { b with
    cumulativeGasUsed := b.cumulativeGasUsed + output.blockGasUsed
    nonPaymentGasUsed :=
      if b.isPayment p then b.nonPaymentGasUsed else b.nonPaymentGasUsed + output.blockGasUsed
    estimatedRlpBlockSize := b.estimatedRlpBlockSize + p.tx.encodedLength
    executor := executor }

/-- The loop over what the iterator yields until the builder stops, with the transactions of the
block. -/
def loop : Builder → List PoolTx → Except BlockError (Builder × List Execution)
  | b, [] => .ok (b, [])
  | b, p :: ps =>
    if b.admission p = .admitted then
      match b.executed p with
      | .ok (executor, output) =>
        match (b.included p output executor).loop ps with
        | .ok (final, txs) => .ok (final, p.execution :: txs)
        | .error e => .error e
      | .error e => if e.isSkipped then b.loop ps else .error e
    else b.loop ps

end Builder

/-! ## Blocks that fit -/

variable {ex ex' : Executor} {x : Execution} {xs : List Execution} {output : TxResult} {env : Env}
  {used usedGeneral : ℕ} {b : Builder} {p : PoolTx}

/-- A transaction fits after others by the most gas it can use. -/
structure Fitting (env : Env) (used usedGeneral : ℕ) (x : Execution) : Prop where
  within : x.WithinLimit env
  total : used + (env.maxGasUsed x.tx).toNat ≤ env.gasLimit.toNat
  general : env.isPayment x.tx = false →
    usedGeneral + (env.maxGasUsed x.tx).toNat ≤ env.generalGasLimit.toNat

/-- The non-payment gas of a transaction. -/
def generalGas (env : Env) (x : Execution) (gas : UInt64) : ℕ :=
  if env.isPayment x.tx then 0 else gas.toNat

/-- Every transaction fits after those before it. -/
def Fits (env : Env) : ℕ → ℕ → List Execution → Prop
  | _, _, [] => True
  | used, usedGeneral, x :: xs =>
    Fitting env used usedGeneral x ∧ x.tx.isSystemTx = false ∧
      x.tx.hasSubBlockNonceKeyPrefix = false ∧ ∃ resultGas, x.outcome = .ok resultGas ∧
        Fits env (used + (env.blockGasUsed resultGas).toNat)
          (usedGeneral + generalGas env x (env.blockGasUsed resultGas)) xs

/-- An executor with nothing in the incentive section. -/
structure Ready (env : Env) (used usedGeneral : ℕ) (ex : Executor) : Prop where
  env_eq : ex.env = env
  isOpen : ex.blockSection = .startOfBlock ∨ ex.blockSection = .nonShared
  nonShared : ex.nonSharedGasLeft.toNat + used = env.gasLimit.toNat
  nonPayment : ex.nonPaymentGasLeft.toNat + usedGeneral = env.generalGasLimit.toNat
  incentive : ex.incentiveGasUsed = 0
  inner : ex.innerGasUsed.toNat = used

theorem ready_new (hshared : env.sharedGasLimit = 0) : Ready env 0 0 (Executor.new env) := by
  have hleft : (saturatingSub env.gasLimit env.sharedGasLimit).toNat = env.gasLimit.toNat := by
    rw [toNat_saturatingSub, hshared]
    rfl
  refine ⟨rfl, .inl rfl, hleft, rfl, rfl, ?_⟩
  unfold Executor.innerGasUsed
  split <;> rfl

theorem Ready.hasGas (h : Ready env used usedGeneral ex) (hfits : Fitting env used usedGeneral x)
    {gas : UInt64} (hgas : gas ≤ env.maxGasUsed x.tx) : ex.HasGas (env.isPayment x.tx) gas := by
  have hgas := UInt64.le_iff_toNat_le.mp hgas
  have htotal := hfits.total
  have hnonShared := h.nonShared
  refine ⟨UInt64.le_iff_toNat_le.mpr (by omega), fun hgeneral => ?_⟩
  have hgeneral := hfits.general hgeneral
  have hnonPayment := h.nonPayment
  exact UInt64.le_iff_toNat_le.mpr (by omega)

theorem Ready.commit (h : Ready env used usedGeneral ex) (hfork : env.spec.isT4 = true)
    (hfits : Fitting env used usedGeneral x) (hchecked : Checked ex x output) :
    Ready env (used + output.blockGasUsed.toNat)
      (usedGeneral + generalGas env x output.blockGasUsed) (ex.commitTransaction output) := by
  obtain ⟨rfl, hopen, hnonShared, hnonPayment, hincentive, hinner⟩ := h
  have hready : Ready ex.env used usedGeneral ex :=
    ⟨rfl, hopen, hnonShared, hnonPayment, hincentive, hinner⟩
  have hgas : output.blockGasUsed ≤ ex.env.maxGasUsed x.tx := by
    rw [hchecked.blockGasUsed]
    exact hfits.within output.gas hchecked.outcome
  have hvalidated := hchecked.validated hfork
  obtain ⟨-, hsystem, hinitial⟩ := validateTx_sections hfork hvalidated
  have hsection : output.nextSection = .nonShared := by
    rw [validateTx_of_hasGas hsystem hinitial hopen (hready.hasGas hfits hgas)] at hvalidated
    exact (Except.ok.inj hvalidated).symm
  obtain ⟨hshared_left, hgeneral_left⟩ := hchecked.counters
  have hshared_gas : output.gasIn TxResult.isNonShared = output.blockGasUsed.toNat :=
    if_pos (decide_eq_true hsection)
  have hgeneral_gas : output.gasIn TxResult.isGeneral =
      generalGas ex.env x output.blockGasUsed := by
    unfold TxResult.gasIn TxResult.isGeneral TxResult.isNonShared generalGas
    rw [hsection, hchecked.isPayment]
    cases ex.env.isPayment x.tx <;> rfl
  have hword := ex.env.gasLimit.toNat_lt
  refine ⟨commitTransaction_env, .inr ?_, by omega, by omega, ?_, ?_⟩
  · unfold Executor.commitTransaction
    rw [hsection]
  · rw [commitTransaction_incentive, TxResult.isSpilled, hsection]
    exact hincentive
  · rw [commitTransaction_innerGasUsed hchecked.blockGasUsed, UInt64.toNat_add]
    omega

/-! ## Execution of a block that fits -/

theorem Ready.executeBlock (hfork : env.spec.isT4 = true) (hfits : Fits env used usedGeneral xs)
    (h : Ready env used usedGeneral ex) {outputs : List TxResult}
    (hblock : ex.executeBlock xs = .ok (ex', outputs)) : ∃ used' usedGeneral',
      Ready env used' usedGeneral' ex' := by
  induction xs generalizing ex used usedGeneral outputs with
  | nil =>
    cases hblock
    exact ⟨used, usedGeneral, h⟩
  | cons x xs ih =>
    obtain ⟨hfitting, -, -, resultGas, houtcome, hrest⟩ := hfits
    obtain ⟨⟨mid, output⟩, hstep, hbind⟩ := except_bind_ok.mp hblock
    obtain ⟨rest, hrest_block, hreturn⟩ := except_bind_ok.mp hbind
    cases hreturn
    obtain ⟨hchecked, -, rfl⟩ := executeTransaction_ok hstep
    have hgas : output.gas = resultGas := Except.ok.inj (hchecked.outcome.symm.trans houtcome)
    have hready := h.commit hfork hfitting hchecked
    rw [hchecked.blockGasUsed, hgas, h.env_eq] at hready
    exact ih hrest hready hrest_block

/-- Without the budget for state gas no transaction of the block is refused. -/
theorem Ready.executeBlock_ok (hfork : env.spec.isT4 = true)
    (hregular : env.enableAmsterdamEip8037 = false) (hfits : Fits env used usedGeneral xs)
    (h : Ready env used usedGeneral ex) : ∃ result, ex.executeBlock xs = .ok result := by
  induction xs generalizing ex used usedGeneral with
  | nil => exact ⟨_, rfl⟩
  | cons x xs ih =>
    obtain ⟨hfitting, hsystem, hinitial, resultGas, houtcome, hrest⟩ := hfits
    obtain ⟨rfl, hopen, hnonShared, -, -, hinner⟩ := id h
    have hpre : ex.validateTxPreExecution x.tx = .ok none := by
      unfold Executor.validateTxPreExecution
      rw [hsystem, hinitial]
      rfl
    have htotal := hfitting.total
    have hcheck : ex.checkBlockGas x.tx = .ok () := by
      have hused : ex.innerGasUsed ≤ ex.env.gasLimit := UInt64.le_iff_toNat_le.mpr (by omega)
      have hleft : ¬ ex.env.gasLimit - ex.innerGasUsed < ex.env.maxGasUsed x.tx := by
        rw [UInt64.lt_iff_toNat_lt, UInt64.toNat_sub_of_le _ _ hused]
        omega
      unfold Executor.checkBlockGas
      rw [if_neg hleft, hregular]
      rfl
    have hvalidate : ex.validateTx x.tx (ex.env.blockGasUsed resultGas) = .ok .nonShared :=
      validateTx_of_hasGas hsystem hinitial hopen
        (h.hasGas hfitting (hfitting.within resultGas houtcome))
    obtain ⟨⟨mid, output⟩, hstep⟩ : ∃ step, ex.executeTransaction x = .ok step := by
      have hexecuted : ∃ output, ex.executeTransactionWithoutCommit x = .ok output :=
        ⟨_, except_bind_ok.mpr ⟨_, hpre, except_bind_ok.mpr ⟨_, hcheck,
          except_bind_ok.mpr ⟨_, houtcome, except_bind_ok.mpr ⟨_, hvalidate, rfl⟩⟩⟩⟩⟩
      obtain ⟨output, hexecuted⟩ := hexecuted
      exact ⟨_, except_bind_ok.mpr ⟨output, hexecuted, rfl⟩⟩
    obtain ⟨hchecked, -, rfl⟩ := executeTransaction_ok hstep
    have hgas : output.gas = resultGas := Except.ok.inj (hchecked.outcome.symm.trans houtcome)
    have hready := h.commit hfork hfitting hchecked
    rw [hchecked.blockGasUsed, hgas] at hready
    obtain ⟨rest, hblock⟩ := ih hrest hready
    exact ⟨_, except_bind_ok.mpr ⟨_, hstep, except_bind_ok.mpr ⟨rest, hblock, rfl⟩⟩⟩

/-- Only the calls at the end of the block can fail. -/
theorem Ready.finish (h : Ready env used usedGeneral ex) (endOfBlock : Except BlockError Unit) :
    ex.finish endOfBlock = endOfBlock.map fun _ => ex.innerGasUsed := by
  unfold Executor.finish
  rw [h.incentive, if_neg fun hrefused => absurd hrefused.2 (by decide)]
  cases endOfBlock <;> rfl

/-! ## The loop -/

/-- The builder counts what the executor counts. -/
structure Builder.Agrees (env : Env) (b : Builder) : Prop where
  ready : Ready env b.cumulativeGasUsed.toNat b.nonPaymentGasUsed.toNat b.executor
  part : b.nonPaymentGasUsed ≤ b.cumulativeGasUsed

/-- The classification of the pool is that of the executor. -/
theorem Builder.isPayment_eq : b.isPayment p = b.executor.env.isPayment p.tx := by
  unfold Builder.isPayment Env.isPayment
  rw [p.cached]

theorem maxGasUsed_le (tx : TxEnvelope) :
    (env.maxGasUsed tx).toNat ≤ env.txGasLimitCap.toNat := by
  show (if tx.gasLimit ≤ env.txGasLimitCap then tx.gasLimit else env.txGasLimitCap).toNat ≤ _
  split
  · next hle => exact UInt64.le_iff_toNat_le.mp hle
  · exact Nat.le_refl _

theorem Builder.Agrees.fitting (h : b.Agrees env) (hword :
    env.gasLimit.toNat + env.txGasLimitCap.toNat < 2 ^ 64) (hwithin : p.execution.WithinLimit env)
    (hadmitted : b.admission p = .admitted) :
    Fitting env b.cumulativeGasUsed.toNat b.nonPaymentGasUsed.toNat p.execution := by
  have henv := h.ready.env_eq
  have hpart := UInt64.le_iff_toNat_le.mp h.part
  have hnonShared := h.ready.nonShared
  have hcap := @maxGasUsed_le env p.tx
  unfold Builder.admission at hadmitted
  rw [henv, Builder.isPayment_eq, henv] at hadmitted
  dsimp only at hadmitted
  split at hadmitted
  · cases hadmitted
  · next htotal =>
    split at hadmitted
    · cases hadmitted
    · next hgeneral =>
      rw [UInt64.lt_iff_toNat_lt, UInt64.toNat_add] at htotal
      refine ⟨hwithin, ?_, fun hnonPayment => ?_⟩
      · show b.cumulativeGasUsed.toNat + (env.maxGasUsed p.tx).toNat ≤ env.gasLimit.toNat
        omega
      · have hgeneral : ¬ env.generalGasLimit < b.nonPaymentGasUsed + env.maxGasUsed p.tx :=
          fun hlt => hgeneral ⟨hnonPayment, hlt⟩
        rw [UInt64.lt_iff_toNat_lt, UInt64.toNat_add] at hgeneral
        show b.nonPaymentGasUsed.toNat + (env.maxGasUsed p.tx).toNat ≤ env.generalGasLimit.toNat
        omega

theorem Builder.executed_ok (h : b.executed p = .ok (ex, output)) :
    Checked b.executor p.execution output ∧ ex = b.executor.commitTransaction output := by
  unfold Builder.executed at h
  split at h
  · exact executeTransactionWithActions_ok h
  · obtain ⟨hchecked, -, hcommit⟩ := executeTransaction_ok h
    exact ⟨hchecked, hcommit⟩

theorem Builder.Agrees.included (h : b.Agrees env) (hfork : env.spec.isT4 = true)
    (hfits : Fitting env b.cumulativeGasUsed.toNat b.nonPaymentGasUsed.toNat p.execution)
    (hchecked : Checked b.executor p.execution output) :
    let b' := b.included p output (b.executor.commitTransaction output)
    b'.Agrees env ∧
      b'.cumulativeGasUsed.toNat = b.cumulativeGasUsed.toNat + output.blockGasUsed.toNat ∧
      b'.nonPaymentGasUsed.toNat =
        b.nonPaymentGasUsed.toNat + generalGas env p.execution output.blockGasUsed := by
  intro b'
  have henv := h.ready.env_eq
  have hready := h.ready.commit hfork hfits hchecked
  have hpart := UInt64.le_iff_toNat_le.mp h.part
  have hnonShared := hready.nonShared
  have hword := env.gasLimit.toNat_lt
  have hcumulative : b'.cumulativeGasUsed.toNat =
      b.cumulativeGasUsed.toNat + output.blockGasUsed.toNat := by
    show (b.cumulativeGasUsed + output.blockGasUsed).toNat = _
    rw [UInt64.toNat_add]
    omega
  have hgeneral : b'.nonPaymentGasUsed.toNat =
      b.nonPaymentGasUsed.toNat + generalGas env p.execution output.blockGasUsed := by
    show UInt64.toNat (if b.isPayment p then _ else _) = _
    rw [Builder.isPayment_eq, henv, generalGas]
    show _ = _ + if env.isPayment p.tx then _ else _
    cases env.isPayment p.tx with
    | true => rfl
    | false =>
      rw [if_neg Bool.false_ne_true, if_neg Bool.false_ne_true, UInt64.toNat_add]
      omega
  refine ⟨⟨?_, ?_⟩, hcumulative, hgeneral⟩
  · rw [hcumulative, hgeneral]
    exact hready
  · rw [UInt64.le_iff_toNat_le, hcumulative, hgeneral, generalGas]
    split <;> omega

theorem Builder.Agrees.loop (h : b.Agrees env) (hfork : env.spec.isT4 = true)
    (hword : env.gasLimit.toNat + env.txGasLimitCap.toNat < 2 ^ 64) {ps : List PoolTx}
    (hwithin : ∀ p ∈ ps, p.execution.WithinLimit env) {final : Builder}
    (hloop : b.loop ps = .ok (final, xs)) :
    final.Agrees env ∧ Fits env b.cumulativeGasUsed.toNat b.nonPaymentGasUsed.toNat xs := by
  induction ps generalizing b xs with
  | nil =>
    cases hloop
    exact ⟨h, trivial⟩
  | cons p ps ih =>
    obtain ⟨hfirst, hrest⟩ := List.forall_mem_cons.mp hwithin
    unfold Builder.loop at hloop
    split at hloop
    · next hadmitted =>
      have hfits := h.fitting hword hfirst hadmitted
      cases hexecuted : b.executed p with
      | error e =>
        rw [hexecuted] at hloop
        dsimp only at hloop
        split at hloop
        · exact ih h hrest hloop
        · cases hloop
      | ok step =>
        obtain ⟨ex, output⟩ := step
        rw [hexecuted] at hloop
        obtain ⟨hchecked, rfl⟩ := Builder.executed_ok hexecuted
        obtain ⟨hagrees, hcumulative, hgeneral⟩ := h.included hfork hfits hchecked
        dsimp only at hloop
        split at hloop
        · next final' txs hloop' =>
          cases hloop
          obtain ⟨hfinal, htail⟩ := ih hagrees hrest hloop'
          rw [hcumulative, hgeneral] at htail
          have hvalidated := hchecked.validated (h.ready.env_eq ▸ hfork)
          obtain ⟨-, hsystem, hinitial⟩ :=
            validateTx_sections (h.ready.env_eq ▸ hfork) hvalidated
          rw [hchecked.blockGasUsed, h.ready.env_eq] at htail
          exact ⟨hfinal, hfits, hsystem, hinitial, output.gas, hchecked.outcome, htail⟩
        · cases hloop
    · exact ih h hrest hloop

/-! ## The limits of a block -/

/-- From T4 on: the counters of the executor never fall below zero; if `finish` accepts the block,
its signed transactions use at most the general gas limit apart from payments and at most the gas
limit less the shared gas limit in all; and a block that the builder fills, without a shared gas
limit as `build_payload` does, is accepted, by the builder itself and by whoever executes it. -/
theorem block_lane_limits (env : Env) (hfork : env.spec.isT4 = true) :
    (∀ xs, (∀ x ∈ xs, x.WithinLimit env) →
      let (ex, outputs) := (Executor.new env).run xs
      ex.nonSharedGasLeft.toNat + gasIn TxResult.isNonShared outputs =
          env.gasLimit.toNat - env.sharedGasLimit.toNat ∧
        ex.nonPaymentGasLeft.toNat + gasIn TxResult.isGeneral outputs =
          env.generalGasLimit.toNat ∧
        ∀ endOfBlock used, ex.finish endOfBlock = .ok used →
          gasIn (fun output => output.isSigned && !output.isPayment) outputs ≤
              env.generalGasLimit.toNat ∧
            gasIn TxResult.isSigned outputs ≤ env.gasLimit.toNat - env.sharedGasLimit.toNat) ∧
      ∀ isOsaka size ps final xs, env.sharedGasLimit = 0 →
        env.gasLimit.toNat + env.txGasLimitCap.toNat < 2 ^ 64 →
        (∀ p ∈ ps, p.execution.WithinLimit env) →
        (Builder.start env isOsaka size).loop ps = .ok (final, xs) →
          (∀ endOfBlock, final.executor.finish endOfBlock =
            endOfBlock.map fun _ => final.executor.innerGasUsed) ∧
          (∀ ex outputs, (Executor.new env).executeBlock xs = .ok (ex, outputs) →
            ∀ endOfBlock, ex.finish endOfBlock = endOfBlock.map fun _ => ex.innerGasUsed) ∧
          (env.enableAmsterdamEip8037 = false →
            ∃ result, (Executor.new env).executeBlock xs = .ok result) := by
  refine ⟨fun xs hwithin => ?_, fun isOsaka size ps final xs hshared hword hwithin hloop => ?_⟩
  · obtain ⟨hnonShared, hnonPayment⟩ := @run_counters (Executor.new env) xs
    have hleft : (Executor.new env).nonSharedGasLeft.toNat =
        env.gasLimit.toNat - env.sharedGasLimit.toNat := toNat_saturatingSub _ _
    rw [hleft] at hnonShared
    refine ⟨hnonShared, hnonPayment, fun endOfBlock used hfinish => ?_⟩
    have hbounded : (Executor.new env).Bounded := by
      have hinner : (Executor.new env).innerGasUsed = 0 := by
        unfold Executor.innerGasUsed
        split <;> rfl
      refine ⟨?_, ?_⟩
      · rw [hinner]
        exact UInt64.le_iff_toNat_le.mpr (Nat.zero_le _)
      · rw [hinner]
        exact UInt64.le_iff_toNat_le.mpr (Nat.zero_le _)
    have hincentive := run_incentive hbounded hwithin
    have hzero := finish_ok (run_env.symm ▸ hfork) hfinish
    have hspilled : gasIn TxResult.isSpilled ((Executor.new env).run xs).2 = 0 := by omega
    have hsections := @run_sections (Executor.new env) xs hfork
    have hgeneral := @gasIn_le_of_not_spilled (fun output => output.isSigned && !output.isPayment)
      TxResult.isGeneral _ hsections (fun output hcounted => by
        obtain ⟨hsigned, hpayment⟩ := Bool.and_eq_true_iff.mp hcounted
        exact ⟨hsigned, fun hshared => Bool.and_eq_true_iff.mpr ⟨hshared, hpayment⟩⟩) hspilled
    have htotal := @gasIn_le_of_not_spilled TxResult.isSigned TxResult.isNonShared _ hsections
      (fun _ hcounted => ⟨hcounted, id⟩) hspilled
    have hlimit : (Executor.new env).nonPaymentGasLeft.toNat = env.generalGasLimit.toNat := rfl
    exact ⟨by omega, by omega⟩
  · have hstart : (Builder.start env isOsaka size).Agrees env :=
      ⟨ready_new hshared, UInt64.le_iff_toNat_le.mpr (Nat.le_refl _)⟩
    obtain ⟨hfinal, hfits⟩ := hstart.loop hfork hword hwithin hloop
    refine ⟨hfinal.ready.finish, fun ex outputs hblock => ?_, fun hregular => ?_⟩
    · obtain ⟨_, _, hready⟩ := (ready_new hshared).executeBlock hfork hfits hblock
      exact hready.finish
    · exact (ready_new hshared).executeBlock_ok hfork hregular hfits

/-- A block of 100 gas, half of it for transactions that are not payments. -/
def sampleEnv : Env where
  spec := .T4
  blockNumber := []
  gasLimit := 100
  generalGasLimit := 50
  sharedGasLimit := 0
  txGasLimitCap := 60
  enableAmsterdamEip8037 := false
  decodeSubblocks _ := none

/-- A transaction that may use 60 gas and uses 55. -/
def sampleTx (isPayment : Bool) : TxEnvelope := ⟨false, 1, [], false, isPayment, isPayment, 60, 100⟩

def sampleGas : ResultGas := ⟨55, 0, 0, 0⟩

/-- The payment is admitted, and the second one does not fit any more. -/
def sampleCandidates : List PoolTx :=
  [⟨sampleTx true, 1, true, rfl, false, .ok sampleGas⟩,
   ⟨sampleTx true, 2, true, rfl, true, .ok sampleGas⟩]

theorem block_lane_limits_sample :
    (∀ endOfBlock used,
      ((Executor.new sampleEnv).run (sampleCandidates.map PoolTx.execution)).1.finish endOfBlock =
          .ok used →
        gasIn TxResult.isSigned
          ((Executor.new sampleEnv).run (sampleCandidates.map PoolTx.execution)).2 ≤ 100) ∧
      ∃ final, (Builder.start sampleEnv true 0).loop sampleCandidates =
          .ok (final, [⟨.transaction 1, sampleTx true, .ok sampleGas⟩]) ∧
        final.executor.finish (.ok ()) = .ok 55 := by
  have hwithin : ∀ p ∈ sampleCandidates, p.execution.WithinLimit sampleEnv := by
    intro p hp resultGas houtcome
    simp only [sampleCandidates, List.mem_cons, List.not_mem_nil, or_false] at hp
    rcases hp with rfl | rfl
    · cases houtcome
      decide
    · cases houtcome
      decide
  obtain ⟨hexecutor, hbuilder⟩ := block_lane_limits sampleEnv rfl
  refine ⟨fun endOfBlock used hfinish => ?_, _, rfl, ?_⟩
  · exact ((hexecutor _ fun x hx => by
      obtain ⟨p, hp, rfl⟩ := List.mem_map.mp hx
      exact hwithin p hp).2.2 endOfBlock used hfinish).2
  · exact (hbuilder true 0 sampleCandidates _ _ rfl (by decide) hwithin rfl).1 (.ok ())

/-- A simulated transaction that is not a payment gets into the incentive section, whose gas is not
counted for it: `finish` accepts 55 gas above the general gas limit of 50. -/
theorem simulation_exceeds_general_gas_limit :
    let result := (Executor.new sampleEnv).run [⟨.simulation, sampleTx false, .ok sampleGas⟩]
    result.1.finish (.ok ()) = .ok 55 ∧
      gasIn (fun output => !output.isPayment) result.2 = 55 ∧ sampleEnv.generalGasLimit = 50 := by
  decide +kernel

end Monotempo.Block
