/-
  The TIP-1034 channel reserve.

  Source: `crates/precompiles/src/tip20_channel_reserve/mod.rs`.

  A channel locks a payer's deposit; the payee captures signed cumulative
  vouchers.  The state keeps, besides the storage of the precompile, the TIP-20
  balances and a journal with an entry for every deposit, payment and refund of a
  channel and for every voucher whose signature was accepted.  Events and the view
  functions are left out.
-/
import Mathlib.Data.Nat.Pairing
import Monotempo.Chain.Delivery
import Monotempo.Chain.StorageCredits

set_option autoImplicit false

namespace Monotempo.Channel

open Chain Foundation Function

/-! ## Errors -/

/-- `TIP20ChannelReserveError`. -/
inductive TIP20ChannelReserveError where
  | channelAlreadyExists
  | channelNotFound
  | notPayer
  | notPayeeOrOperator
  | invalidPayee
  | zeroDeposit
  | expiringNonceHashNotSet
  | invalidSignature
  | amountExceedsDeposit
  | amountNotIncreasing
  | captureAmountInvalid
  | closeNotReady
  | depositOverflow
  deriving DecidableEq, Repr

/-- What a call of the reserve fails with. -/
inductive Error where
  | reserve (error : TIP20ChannelReserveError)
  | token (error : TokenError)
  /-- "channel storage credit bookkeeping spend mismatch: reserved 1, delta .." -/
  | bookkeepingMismatch (delta : ℤ)
  /-- "channel storage credit spend mismatch: reserved 1, spent .." -/
  | spendMismatch (spent : ℕ)
  /-- the fatal error of `track_minted_credits` -/
  | consumedCredits (before after : ℕ)
  /-- a Rust panic: one of the `expect` calls -/
  | panicked
  deriving DecidableEq, Repr

/-! ## Channels -/

/-- `ChannelDescriptor`. -/
structure ChannelDescriptor where
  payer : Address
  payee : Address
  operator : Address
  token : Address
  salt : B256
  authorizedSigner : Address
  expiringNonceHash : B256
  deriving DecidableEq, Repr

/-- `compute_channel_id_inner`: a hash of the descriptor, taken to be collision free. -/
class ChannelHash where
  channelId : ChannelDescriptor → B256
  injective : ∀ {d d' : ChannelDescriptor}, channelId d = channelId d' → d = d'

export ChannelHash (channelId)

/-- A collision-free hash: the pairing of the fields. -/
@[reducible] def ChannelHash.pairing : ChannelHash where
  channelId := fun d => Nat.pair d.payer (Nat.pair d.payee (Nat.pair d.operator
    (Nat.pair d.token (Nat.pair d.salt (Nat.pair d.authorizedSigner d.expiringNonceHash)))))
  injective := by
    intro d d' h
    simp only [Nat.pair_eq_pair] at h
    obtain ⟨hpayer, hpayee, hoperator, htoken, hsalt, hsigner, hhash⟩ := h
    cases d
    cases d'
    simp_all

/-- `PackedChannelState`. -/
structure PackedChannelState where
  settled : ℕ
  deposit : ℕ
  closeRequestedAt : ℕ
  usesLogicalReceivePolicySender : Bool
  deriving DecidableEq, Repr

namespace PackedChannelState

/-- The zero slot. -/
def empty : PackedChannelState := ⟨0, 0, 0, false⟩

/-- `exists`: a nonzero deposit marks a channel. -/
def isActive (state : PackedChannelState) : Bool := state.deposit != 0

/-- `close_requested_at`, as an option: zero is no request. -/
def closeRequest (state : PackedChannelState) : Option ℕ :=
  if state.closeRequestedAt ≠ 0 then some state.closeRequestedAt else none

variable {state : PackedChannelState}

theorem closeRequest_eq_none :
    state.closeRequest = none ↔ state.closeRequestedAt = 0 := by
  unfold closeRequest
  split
  · rename_i hpending
    simpa using hpending
  · rename_i hzero
    simpa using hzero

theorem mem_closeRequest {requestedAt : ℕ} :
    requestedAt ∈ state.closeRequest ↔
      state.closeRequestedAt ≠ 0 ∧ state.closeRequestedAt = requestedAt := by
  unfold closeRequest
  split
  · rename_i hpending
    simp [hpending]
  · rename_i hzero
    simp [hzero]

/-- `receive_policy_sender`. -/
def receivePolicySender (state : PackedChannelState) (payer : Address) : Address :=
  if state.usesLogicalReceivePolicySender then payer else channelReserveAddress

/-- The packed slot. -/
def word (state : PackedChannelState) : ℕ :=
  state.settled + state.deposit * 2 ^ 96 + state.closeRequestedAt * 2 ^ 192 +
    (if state.usesLogicalReceivePolicySender then 2 ^ 224 else 0)

end PackedChannelState

/-- `CLOSE_GRACE_PERIOD`: 15 minutes. -/
def closeGracePeriod : ℕ := 15 * 60

/-- `U96::MAX`. -/
def u96Max : ℕ := 2 ^ 96 - 1

/-- `u32::MAX`. -/
def u32Max : ℕ := 2 ^ 32 - 1

/-- `U96::checked_add`. -/
def checkedAdd96 (a b : ℕ) : Option ℕ := if a + b ≤ u96Max then some (a + b) else none

theorem checkedAdd96_eq_some {a b c : ℕ} (h : checkedAdd96 a b = some c) : c = a + b := by
  unfold checkedAdd96 at h
  split at h
  · exact (Option.some.inj h).symm
  · exact nomatch h

/-! ## The state -/

/-- What is recorded about a channel. -/
inductive Movement where
  /-- the channel was opened with a deposit -/
  | opened (deposit : ℕ)
  /-- the deposit was increased -/
  | toppedUp (amount : ℕ)
  /-- a voucher for a cumulative amount carried a valid signature -/
  | voucher (cumulativeAmount : ℕ)
  /-- an amount was sent to the payee -/
  | paid (amount : ℕ)
  /-- an amount was sent back to the payer -/
  | refunded (amount : ℕ)
  deriving DecidableEq, Repr

/-- `TIP20ChannelReserve` without its credit bookkeeping, with the TIP-20 balances and
the journal, newest entry first. -/
@[ext] structure ReserveCore where
  channelStates : B256 → PackedChannelState
  openedThisTx : B256 → Bool
  channelOpenContextHash : B256
  ledger : Ledger
  journal : List (B256 × Movement)

/-- `TIP20ChannelReserve` with the credit account of its address. -/
structure ReserveState extends ReserveCore where
  channelStorageCredits : Address → ℕ
  credits : CreditAccount

instance : Coe ReserveState ReserveCore := ⟨ReserveState.toReserveCore⟩

instance : HasCredits ReserveState where
  credits := ReserveState.credits
  setCredits := fun credits s => { s with credits := credits }

/-- What a call runs under.  The reserve never sets a receive policy for itself. -/
structure Context where
  spec : TempoHardfork
  env : DeliveryEnv
  /-- `SignatureVerifier::recover` on the voucher digest of a channel and an amount -/
  recover : B256 → ℕ → ℕ → Option Address
  /-- `storage.timestamp()` -/
  timestamp : ℕ
  accepts : ∀ token sender,
    env.receivePolicyBlocks token sender channelReserveAddress = .ok false

/-- `now`. -/
def Context.now (ctx : Context) : ℕ := min ctx.timestamp u64Max

/-- `now_u32`. -/
def Context.nowU32 (ctx : Context) : ℕ := min ctx.timestamp u32Max

/-- A call of the reserve. -/
abbrev ReserveM := EStateM Error ReserveState

/-- A call into the token layer. -/
def liftToken {α : Type} (value : Except TokenError α) : ReserveM α :=
  match value with
  | .ok a => pure a
  | .error e => throw (.token e)

namespace ReserveCore

/-- Set a channel. -/
def setChannel (c : ReserveCore) (id : B256) (state : PackedChannelState) : ReserveCore :=
  { c with channelStates := update c.channelStates id state }

/-- Record a movement of a channel. -/
def record (c : ReserveCore) (id : B256) (movement : Movement) : ReserveCore :=
  { c with journal := (id, movement) :: c.journal }

/-- Move tokens. -/
def move (c : ReserveCore) (token sender recipient : Address) (amount : ℕ) : ReserveCore :=
  { c with ledger := c.ledger.move token sender recipient amount }

end ReserveCore

/-- Record a movement of a channel. -/
def record (id : B256) (movement : Movement) : ReserveM Unit :=
  modify fun s => { s with toReserveCore := s.toReserveCore.record id movement }

/-- `TIP20Token::transfer` from `sender`, and `system_transfer_from` towards the reserve. -/
def transfer (ctx : Context) (token sender recipient : Address) (amount : ℕ) :
    ReserveM Unit := do
  let s ← get
  let ledger ← liftToken (deliver ctx.spec ctx.env s.ledger token sender recipient amount)
  modify fun s => { s with toReserveCore := { s.toReserveCore with ledger := ledger } }

/-- `channel_reserve_transfer`. -/
def custodyTransfer (ctx : Context) (token sender recipient target : Address) (amount : ℕ)
    (receivePolicySender : Address) : ReserveM Unit := do
  let s ← get
  let ledger ← liftToken (channelReserveTransfer ctx.env s.ledger token sender recipient target
    amount receivePolicySender)
  modify fun s => { s with toReserveCore := { s.toReserveCore with ledger := ledger } }

/-! ## Channel slots and their credits -/

/-- Slot writes of the reserve, given as old and new words, in its credit account. -/
def ReserveState.account (s : ReserveState) (spec : TempoHardfork) (writes : List (ℕ × ℕ)) :
    CreditAccount :=
  if spec.isT7 then s.credits.sstoreAll writes else s.credits

/-- `channel_states[id].write(state)`. -/
def writeChannel (spec : TempoHardfork) (id : B256) (state : PackedChannelState) :
    ReserveM Unit :=
  modify fun s =>
    { s with
      toReserveCore := s.toReserveCore.setChannel id state
      credits := s.account spec [((s.channelStates id).word, state.word)] }

/-- `channel_storage_credits[payer].write(slots)`. -/
def writeStorageCredits (spec : TempoHardfork) (payer : Address) (slots : ℕ) : ReserveM Unit :=
  modify fun s =>
    { s with
      channelStorageCredits := update s.channelStorageCredits payer slots
      credits := s.account spec [(s.channelStorageCredits payer, slots)] }

/-- `credit_channel_storage_slots`. -/
def creditChannelStorageSlots (spec : TempoHardfork) (payer : Address) (slots : ℕ) :
    ReserveM Unit :=
  onlyIf (slots ≠ 0) do
    let s ← get
    let current := s.channelStorageCredits payer
    let updated := min (current + slots) u64Max
    if current = 0 then do
      let spent ← withBudget spec 1 (writeStorageCredits spec payer updated)
      require (spent.2 = -1) (.bookkeepingMismatch spent.2)
    else writeStorageCredits spec payer updated

/-- `delete_channel_state_and_credit_payer`. -/
def deleteChannelStateAndCreditPayer (spec : TempoHardfork) (id : B256) (payer : Address) :
    ReserveM Unit := do
  let minted ← trackMintedCredits spec Error.consumedCredits
    (writeChannel spec id PackedChannelState.empty)
  creditChannelStorageSlots spec payer minted.2

/-- `write_channel_state_spending_credit`. -/
def writeChannelStateSpendingCredit (spec : TempoHardfork) (payer : Address) (id : B256)
    (state : PackedChannelState) : ReserveM Unit :=
  if !spec.isT7 then writeChannel spec id state
  else do
    let s ← get
    let current := s.channelStorageCredits payer
    if current = 0 then writeChannel spec id state
    else do
      writeStorageCredits spec payer 0
      let written ← withBudget spec current (writeChannel spec id state)
      let spentCredits := if written.2 < 0 then (-written.2).toNat else 0
      require (spentCredits = 1) (.spendMismatch spentCredits)
      creditChannelStorageSlots spec payer (current - spentCredits)

/-! ## Checks -/

/-- `load_existing_state`. -/
def loadExistingState (id : B256) : ReserveM PackedChannelState := do
  let s ← get
  require (s.channelStates id).isActive (.reserve .channelNotFound)
  pure (s.channelStates id)

/-- `ensure_payee_or_operator`. -/
def ensurePayeeOrOperator (sender : Address) (descriptor : ChannelDescriptor) : ReserveM Unit :=
  require (sender = descriptor.payee ∨ (descriptor.operator ≠ 0 ∧ sender = descriptor.operator))
    (.reserve .notPayeeOrOperator)

/-- `expected_signer`. -/
def expectedSigner (descriptor : ChannelDescriptor) : Address :=
  if descriptor.authorizedSigner = 0 then descriptor.payer else descriptor.authorizedSigner

/-- `validate_voucher`. -/
def validateVoucher (ctx : Context) (descriptor : ChannelDescriptor) (id : B256)
    (cumulativeAmount signature : ℕ) : ReserveM Unit := do
  require (ctx.recover id cumulativeAmount signature = some (expectedSigner descriptor))
    (.reserve .invalidSignature)
  record id (.voucher cumulativeAmount)

/-! ## Calls -/

section Calls

variable [ChannelHash]

/-- `openCall`. -/
structure OpenCall where
  payee : Address
  operator : Address
  token : Address
  deposit : ℕ
  salt : B256
  authorizedSigner : Address
  deriving DecidableEq, Repr

/-- The descriptor that `open` gives a channel. -/
def OpenCall.descriptor (call : OpenCall) (payer : Address) (expiringNonceHash : B256) :
    ChannelDescriptor :=
  ⟨payer, call.payee, call.operator, call.token, call.salt, call.authorizedSigner,
    expiringNonceHash⟩

/-- The funding of a channel by its payer, at `open` and `top_up`. -/
def fund (ctx : Context) (token payer payee receivePolicySender : Address) (amount : ℕ) :
    ReserveM Unit :=
  if ctx.spec.isT12 then do
    let target ← liftToken (resolveRecipient ctx.spec ctx.env payee)
    liftToken (ensureTransferAuthorized ctx.spec ctx.env.toTokenEnv token payer target)
    liftToken (ensureReceivePolicyAuthorized ctx.env token receivePolicySender target)
    custodyTransfer ctx token payer channelReserveAddress channelReserveAddress amount payer
  else do
    let target ← liftToken (resolveRecipient ctx.spec ctx.env payee)
    liftToken (ensureAuthorizedAs ctx.env.toTokenEnv token [(target, .recipient)])
    transfer ctx token payer channelReserveAddress amount

/-- `open`. -/
def openChannel (ctx : Context) (sender : Address) (call : OpenCall) : ReserveM B256 := do
  require (¬ (call.payee = 0 ∨ isTip20 call.payee ∨
    (isVirtual call.payee ∧ (call.operator = 0 ∨ isVirtual call.operator))))
    (.reserve .invalidPayee)
  liftToken (fromAddress call.token)
  require (call.deposit ≠ 0) (.reserve .zeroDeposit)
  let s ← get
  require (s.channelOpenContextHash ≠ 0) (.reserve .expiringNonceHashNotSet)
  let id := channelId (call.descriptor sender s.channelOpenContextHash)
  require (¬ ((s.channelStates id).isActive ∨ s.openedThisTx id)) (.reserve .channelAlreadyExists)
  fund ctx call.token sender call.payee sender call.deposit
  record id (.opened call.deposit)
  writeChannelStateSpendingCredit ctx.spec sender id ⟨0, call.deposit, 0, ctx.spec.isT12⟩
  modify fun s => { s with openedThisTx := update s.openedThisTx id true }
  pure id

/-- `settle`. -/
def settle (ctx : Context) (sender : Address) (descriptor : ChannelDescriptor)
    (cumulativeAmount signature : ℕ) : ReserveM Unit := do
  let id := channelId descriptor
  let state ← loadExistingState id
  ensurePayeeOrOperator sender descriptor
  require (cumulativeAmount ≤ state.deposit) (.reserve .amountExceedsDeposit)
  require (state.settled < cumulativeAmount) (.reserve .amountNotIncreasing)
  validateVoucher ctx descriptor id cumulativeAmount signature
  let delta ← okOr (checkedSub cumulativeAmount state.settled) .panicked
  liftToken (fromAddress descriptor.token)
  if ctx.spec.isT12 then do
    let target ← liftToken (resolveRecipient ctx.spec ctx.env descriptor.payee)
    liftToken (ensureTransferAuthorized ctx.spec ctx.env.toTokenEnv descriptor.token
      descriptor.payer target)
    custodyTransfer ctx descriptor.token channelReserveAddress descriptor.payee target delta
      (state.receivePolicySender descriptor.payer)
    record id (.paid delta)
    writeChannel ctx.spec id { state with settled := cumulativeAmount }
  else do
    liftToken (ensureAuthorizedAs ctx.env.toTokenEnv descriptor.token
      [(descriptor.payer, .sender)])
    -- Below T12 the state is written before the transfer.
    writeChannel ctx.spec id { state with settled := cumulativeAmount }
    transfer ctx descriptor.token channelReserveAddress descriptor.payee delta
    record id (.paid delta)

/-- `top_up`, the new deposit. -/
def addDeposit (ctx : Context) (sender : Address) (descriptor : ChannelDescriptor)
    (state : PackedChannelState) (additionalDeposit : ℕ) : ReserveM PackedChannelState :=
  if additionalDeposit ≠ 0 then do
    let deposit ← okOr (checkedAdd96 state.deposit additionalDeposit) (.reserve .depositOverflow)
    liftToken (fromAddress descriptor.token)
    fund ctx descriptor.token sender descriptor.payee (state.receivePolicySender sender)
      additionalDeposit
    record (channelId descriptor) (.toppedUp additionalDeposit)
    pure { state with deposit := deposit }
  else pure state

/-- `top_up`.  A zero top-up only cancels a pending close request. -/
def topUp (ctx : Context) (sender : Address) (descriptor : ChannelDescriptor)
    (additionalDeposit : ℕ) : ReserveM Unit := do
  let id := channelId descriptor
  let state ← loadExistingState id
  require (sender = descriptor.payer) (.reserve .notPayer)
  let hadCloseRequest := state.closeRequest.isSome
  if additionalDeposit = 0 ∧ !hadCloseRequest then pure ()
  else do
    let state ← addDeposit ctx sender descriptor state additionalDeposit
    writeChannel ctx.spec id
      (if hadCloseRequest then { state with closeRequestedAt := 0 } else state)

/-- `request_close`. -/
def requestClose (ctx : Context) (sender : Address) (descriptor : ChannelDescriptor) :
    ReserveM Unit := do
  let id := channelId descriptor
  let state ← loadExistingState id
  require (sender = descriptor.payer) (.reserve .notPayer)
  -- Repeated calls do not restart the timer.
  onlyIf (state.closeRequest = none)
    (writeChannel ctx.spec id { state with closeRequestedAt := ctx.nowU32 })

/-- The capture of `close` and the refunds from T12 on: refused deliveries fail the call. -/
def payFromCustody (ctx : Context) (token recipient : Address) (amount : ℕ)
    (receivePolicySender : Address) : ReserveM Unit := do
  let target ← liftToken (resolveRecipient ctx.spec ctx.env recipient)
  custodyTransfer ctx token channelReserveAddress recipient target amount receivePolicySender

/-- `close`. -/
def close (ctx : Context) (sender : Address) (descriptor : ChannelDescriptor)
    (cumulativeAmount captureAmount signature : ℕ) : ReserveM Unit := do
  let id := channelId descriptor
  let state ← loadExistingState id
  ensurePayeeOrOperator sender descriptor
  require (¬ (captureAmount < state.settled ∨ cumulativeAmount < captureAmount))
    (.reserve .captureAmountInvalid)
  require (captureAmount ≤ state.deposit) (.reserve .amountExceedsDeposit)
  onlyIf (state.settled < captureAmount)
    (validateVoucher ctx descriptor id cumulativeAmount signature)
  let delta ← okOr (checkedSub captureAmount state.settled) .panicked
  let refund ← okOr (checkedSub state.deposit captureAmount) .panicked
  if ctx.spec.isT12 then do
    liftToken (fromAddress descriptor.token)
    onlyIf (delta ≠ 0) do
      let target ← liftToken (resolveRecipient ctx.spec ctx.env descriptor.payee)
      liftToken (ensureTransferAuthorized ctx.spec ctx.env.toTokenEnv descriptor.token
        descriptor.payer target)
      custodyTransfer ctx descriptor.token channelReserveAddress descriptor.payee target delta
        (state.receivePolicySender descriptor.payer)
      record id (.paid delta)
    onlyIf (refund ≠ 0) do
      payFromCustody ctx descriptor.token descriptor.payer refund channelReserveAddress
      record id (.refunded refund)
    deleteChannelStateAndCreditPayer ctx.spec id descriptor.payer
  else do
    deleteChannelStateAndCreditPayer ctx.spec id descriptor.payer
    liftToken (fromAddress descriptor.token)
    onlyIf (delta ≠ 0) do
      liftToken (ensureAuthorizedAs ctx.env.toTokenEnv descriptor.token
        [(descriptor.payer, .sender)])
      transfer ctx descriptor.token channelReserveAddress descriptor.payee delta
      record id (.paid delta)
    onlyIf (refund ≠ 0) do
      transfer ctx descriptor.token channelReserveAddress descriptor.payer refund
      record id (.refunded refund)

/-- `withdraw`. -/
def withdraw (ctx : Context) (sender : Address) (descriptor : ChannelDescriptor) :
    ReserveM Unit := do
  let id := channelId descriptor
  let state ← loadExistingState id
  require (sender = descriptor.payer) (.reserve .notPayer)
  require (∃ requestedAt ∈ state.closeRequest, requestedAt + closeGracePeriod ≤ ctx.now)
    (.reserve .closeNotReady)
  let refund ← okOr (checkedSub state.deposit state.settled) .panicked
  if ctx.spec.isT12 then do
    onlyIf (refund ≠ 0) do
      liftToken (fromAddress descriptor.token)
      payFromCustody ctx descriptor.token descriptor.payer refund channelReserveAddress
      record id (.refunded refund)
    deleteChannelStateAndCreditPayer ctx.spec id descriptor.payer
  else do
    deleteChannelStateAndCreditPayer ctx.spec id descriptor.payer
    onlyIf (refund ≠ 0) do
      liftToken (fromAddress descriptor.token)
      transfer ctx descriptor.token channelReserveAddress descriptor.payer refund
      record id (.refunded refund)

end Calls

end Monotempo.Channel
