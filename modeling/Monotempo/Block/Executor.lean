/-
  The sections of a block and their gas.

  Source: `TempoBlockExecutor` in `crates/evm/src/block.rs`, `execute_transaction_with_actions` in
  `crates/evm/src/action_replay.rs`, and the gas of `EthBlockExecutor` in
  `alloy-evm/crates/evm/src/eth/block.rs`.

  What the EVM does with a transaction is an input: an error, or the gas of its result.  Gas is
  counted in machine words, which wrap around.
-/
import Monotempo.Chain.Hardfork

set_option autoImplicit false

namespace Monotempo.Block

open Chain

/-! ## Transactions and results -/

/-- `BlockSection`. -/
inductive BlockSection where
  | startOfBlock
  | nonShared
  | gasIncentive
  | system (seenSubblocksSignatures : Bool)
  deriving DecidableEq, Repr

/-- Whether the section has metadata of subblocks. -/
def BlockSection.seenSubblocksSignatures : BlockSection → Bool
  | .system seen => seen
  | _ => false

/-- `ExecutionContext`. -/
inductive ExecutionContext where
  | transaction (txHash : B256)
  | simulation
  deriving DecidableEq, Repr

/-- `BlockExecutionError`, as far as the builder tells errors apart. -/
inductive BlockError where
  | msg (text : String)
  | transactionGasLimitMoreThanAvailableBlockGas (transactionGasLimit blockAvailableGas : UInt64)
  | invalidTx (nonceTooLow : Bool)
  | replay
  | internal
  deriving DecidableEq, Repr

/-- What the executor and the builder read of a `TempoTxEnvelope`. -/
structure TxEnvelope where
  isSystemTx : Bool
  /-- zero for a contract creation -/
  target : Address
  input : List UInt8
  hasSubBlockNonceKeyPrefix : Bool
  isPaymentV1 : Bool
  isPaymentV2 : Bool
  gasLimit : UInt64
  encodedLength : ℕ

/-- `ResultGas`. -/
structure ResultGas where
  totalGasSpent : UInt64
  stateGasSpent : UInt64
  refunded : UInt64
  floorGas : UInt64
  deriving DecidableEq, Repr

/-- `u64::saturating_sub`. -/
def saturatingSub (a b : UInt64) : UInt64 := if b ≤ a then a - b else 0

namespace ResultGas

/-- `tx_gas_used`. -/
def txGasUsed (gas : ResultGas) : UInt64 :=
  max (saturatingSub gas.totalGasSpent gas.refunded) gas.floorGas

/-- `block_regular_gas_used`. -/
def blockRegularGasUsed (gas : ResultGas) : UInt64 :=
  max (saturatingSub gas.totalGasSpent gas.stateGasSpent) gas.floorGas

/-- `block_state_gas_used`. -/
def blockStateGasUsed (gas : ResultGas) : UInt64 := gas.stateGasSpent

end ResultGas

/-- The block and the configuration of its EVM. -/
structure Env where
  spec : TempoHardfork
  blockNumber : List UInt8
  gasLimit : UInt64
  generalGasLimit : UInt64
  sharedGasLimit : UInt64
  txGasLimitCap : UInt64
  enableAmsterdamEip8037 : Bool
  /-- `Vec::<SubBlockMetadata>::decode`: what it leaves of the buffer -/
  decodeSubblocks : List UInt8 → Option (List UInt8)

namespace Env

/-- `is_payment`. -/
def isPayment (env : Env) (tx : TxEnvelope) : Bool :=
  if env.spec.isT5 then tx.isPaymentV2 else tx.isPaymentV1

/-- The gas of a result that counts against the limits of the block. -/
def blockGasUsed (env : Env) (gas : ResultGas) : UInt64 :=
  if env.enableAmsterdamEip8037 then gas.blockRegularGasUsed else gas.txGasUsed

/-- The most gas of a transaction that can count against them. -/
def maxGasUsed (env : Env) (tx : TxEnvelope) : UInt64 := min tx.gasLimit env.txGasLimitCap

end Env

/-- `TempoTxResult`. -/
structure TxResult where
  gas : ResultGas
  executionContext : ExecutionContext
  nextSection : BlockSection
  isPayment : Bool
  blockGasUsed : UInt64
  deriving DecidableEq, Repr

/-! ## The executor -/

/-- `TempoBlockExecutor`, with the counters of the inner executor. -/
structure Executor where
  env : Env
  blockSection : BlockSection
  nonSharedGasLeft : UInt64
  nonPaymentGasLeft : UInt64
  incentiveGasUsed : UInt64
  cumulativeTxGasUsed : UInt64
  blockRegularGasUsed : UInt64
  blockStateGasUsed : UInt64

/-- A transaction with what the EVM does with it. -/
structure Execution where
  context : ExecutionContext
  tx : TxEnvelope
  outcome : Except BlockError ResultGas

namespace Executor

/-- `TempoBlockExecutor::new`. -/
def new (env : Env) : Executor where
  env := env
  blockSection := .startOfBlock
  nonSharedGasLeft := saturatingSub env.gasLimit env.sharedGasLimit
  nonPaymentGasLeft := env.generalGasLimit
  incentiveGasUsed := 0
  cumulativeTxGasUsed := 0
  blockRegularGasUsed := 0
  blockStateGasUsed := 0

/-- Whether the input is metadata of subblocks followed by the block number. -/
def isSubblocksMetadata (env : Env) (input : List UInt8) : Bool :=
  if input.length < 32 then false
  else if input.drop (input.length - 32) = env.blockNumber then
    match env.decodeSubblocks (input.take (input.length - 32)) with
    | some rest => rest.isEmpty
    | none => false
  else false

/-- `validate_system_tx`. -/
def validateSystemTx (ex : Executor) (tx : TxEnvelope) : Except BlockError BlockSection :=
  if tx.target = 0 then
    if ex.blockSection.seenSubblocksSignatures then
      .error (.msg "duplicate subblocks metadata system transaction")
    else if ex.env.spec.isT4 then .error (.msg "subblocks are disabled in T4+")
    else if isSubblocksMetadata ex.env tx.input then .ok (.system true)
    else .error (.msg "invalid subblocks metadata system transaction")
  else .error (.msg "invalid system transaction")

/-- `validate_tx_pre_execution`. -/
def validateTxPreExecution (ex : Executor) (tx : TxEnvelope) :
    Except BlockError (Option BlockSection) :=
  if tx.isSystemTx then (ex.validateSystemTx tx).map some
  else if tx.hasSubBlockNonceKeyPrefix then
    .error (.msg "subblock transactions are not supported")
  else .ok none

/-- `validate_tx`. -/
def validateTx (ex : Executor) (tx : TxEnvelope) (gasUsed : UInt64) :
    Except BlockError BlockSection :=
  if tx.isSystemTx then ex.validateSystemTx tx
  else if tx.hasSubBlockNonceKeyPrefix then
    .error (.msg "subblock transactions are not supported")
  else
    match ex.blockSection with
    | .startOfBlock | .nonShared =>
      if ex.nonSharedGasLeft < gasUsed ∨
          (ex.env.isPayment tx = false ∧ ex.nonPaymentGasLeft < gasUsed) then
        .ok .gasIncentive
      else .ok .nonShared
    | .gasIncentive => .ok .gasIncentive
    | .system _ => .error (.msg "regular transaction can't follow system transaction")

/-- `block_gas_used` of the inner executor. -/
def innerGasUsed (ex : Executor) : UInt64 :=
  if ex.env.enableAmsterdamEip8037 then ex.blockRegularGasUsed else ex.cumulativeTxGasUsed

/-- The checks of the inner `execute_transaction_without_commit`: the state gas of a block has a
budget of its own. -/
def checkBlockGas (ex : Executor) (tx : TxEnvelope) : Except BlockError Unit :=
  let blockAvailableGas := ex.env.gasLimit - ex.innerGasUsed
  let stateGasAvailable := ex.env.gasLimit - ex.blockStateGasUsed
  if blockAvailableGas < ex.env.maxGasUsed tx then
    .error (.transactionGasLimitMoreThanAvailableBlockGas tx.gasLimit blockAvailableGas)
  else if ex.env.enableAmsterdamEip8037 ∧ stateGasAvailable < tx.gasLimit then
    .error (.transactionGasLimitMoreThanAvailableBlockGas tx.gasLimit stateGasAvailable)
  else .ok ()

/-- The section that validation before the execution gave, or that of `validate_tx`. -/
def nextSection (ex : Executor) (preSection : Option BlockSection) (tx : TxEnvelope)
    (gasUsed : UInt64) : Except BlockError BlockSection :=
  match preSection with
  | some next => .ok next
  | none => ex.validateTx tx gasUsed

/-- `execute_transaction_without_commit`. -/
def executeTransactionWithoutCommit (ex : Executor) (x : Execution) :
    Except BlockError TxResult := do
  let preSection ← ex.validateTxPreExecution x.tx
  ex.checkBlockGas x.tx
  let gas ← x.outcome
  let blockGasUsed := ex.env.blockGasUsed gas
  let next ← ex.nextSection preSection x.tx blockGasUsed
  return ⟨gas, x.context, next, ex.env.isPayment x.tx, blockGasUsed⟩

/-- `commit_transaction`. -/
def commitTransaction (ex : Executor) (output : TxResult) : Executor :=
  let ex := { ex with
    blockRegularGasUsed := ex.blockRegularGasUsed + output.gas.blockRegularGasUsed
    blockStateGasUsed := ex.blockStateGasUsed + output.gas.blockStateGasUsed
    cumulativeTxGasUsed := ex.cumulativeTxGasUsed + output.gas.txGasUsed
    blockSection := output.nextSection }
  match output.nextSection with
  | .nonShared =>
    { ex with
      nonSharedGasLeft := ex.nonSharedGasLeft - output.blockGasUsed
      nonPaymentGasLeft :=
        if output.isPayment then ex.nonPaymentGasLeft
        else ex.nonPaymentGasLeft - output.blockGasUsed }
  | .gasIncentive =>
    match output.executionContext with
    | .transaction _ => { ex with incentiveGasUsed := ex.incentiveGasUsed + output.blockGasUsed }
    | .simulation => ex
  | .startOfBlock | .system _ => ex

/-- `execute_transaction`: executed, then committed. -/
def executeTransaction (ex : Executor) (x : Execution) :
    Except BlockError (Executor × TxResult) := do
  let output ← ex.executeTransactionWithoutCommit x
  return (ex.commitTransaction output, output)

/-- `execute_transaction_with_actions`: the recorded result is committed without the checks of the
inner executor. -/
def executeTransactionWithActions (ex : Executor) (x : Execution) :
    Except BlockError (Executor × TxResult) := do
  let gas ← x.outcome
  let blockGasUsed := ex.env.blockGasUsed gas
  let next ← ex.validateTx x.tx blockGasUsed
  let output : TxResult := ⟨gas, x.context, next, ex.env.isPayment x.tx, blockGasUsed⟩
  return (ex.commitTransaction output, output)

/-- `finish`, with the outcome of the calls at the end of the block: the gas of the block. -/
def finish (ex : Executor) (endOfBlock : Except BlockError Unit) : Except BlockError UInt64 := do
  if ex.env.spec.isT4 ∧ 0 < ex.incentiveGasUsed then
    .error (.msg "incentive gas limit exceeded")
  else
    endOfBlock
    return ex.innerGasUsed

/-- Transactions one after the other.  One that fails is left out. -/
def run (ex : Executor) : List Execution → Executor × List TxResult
  | [] => (ex, [])
  | x :: xs =>
    match ex.executeTransaction x with
    | .ok (ex', output) =>
      let rest := ex'.run xs
      (rest.1, output :: rest.2)
    | .error _ => ex.run xs

/-- A block as it is imported: no transaction may fail. -/
def executeBlock (ex : Executor) : List Execution → Except BlockError (Executor × List TxResult)
  | [] => .ok (ex, [])
  | x :: xs => do
    let step ← ex.executeTransaction x
    let rest ← step.1.executeBlock xs
    return (rest.1, step.2 :: rest.2)

end Executor

end Monotempo.Block
