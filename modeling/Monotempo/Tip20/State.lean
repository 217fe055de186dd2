/-
  The TIP-20 token and the guard of blocked payments.

  Source: `crates/precompiles/src/tip20/mod.rs`, `tip20/rewards.rs`,
  `receive_policy_guard/mod.rs`, `tip403_registry/mod.rs` (`check_receive_policy`,
  `receive_policy_recovery`) and `address_registry/mod.rs` (`resolve_recipient`,
  `is_implicitly_approved`).

  A world has the storage of every token and of the guard.  Roles, pauses, transfer
  policies, receive policies, virtual addresses and spending limits are kept by other
  calls: what they say is an answer that each call finds in its context.  Metadata,
  permit nonces and events are left out.
-/
import Monotempo.Chain.Hardfork
import Monotempo.Foundation.Accounts
import Monotempo.Foundation.Program

set_option autoImplicit false

namespace Monotempo.Tip20

open Chain Foundation Function

/-! ## Errors -/

/-- `TIP20Error`. -/
inductive TIP20Error where
  | insufficientBalance (available required : ℕ) (token : Address)
  | insufficientAllowance
  | contractPaused
  | policyForbids
  | invalidRecipient
  | invalidAmount
  | invalidToken
  | invalidSupplyCap
  | supplyCapExceeded
  | noOptedInSupply
  | unauthorized
  | protectedAddress
  | permitExpired
  | invalidSignature
  deriving DecidableEq, Repr

/-- `ReceivePolicyGuardError`. -/
inductive ReceivePolicyGuardError where
  | addressReserved
  | invalidClaimAddress
  | invalidReceipt
  | unauthorizedClaimer
  deriving DecidableEq, Repr

/-- What a call fails with. -/
inductive Error where
  | tip20 (error : TIP20Error)
  | guard (error : ReceivePolicyGuardError)
  | virtualAddressUnregistered
  | underOverflow
  /-- a revert of another precompile, by its selector -/
  | external (selector : ℕ)
  deriving DecidableEq, Repr

/-! ## Storage -/

/-- `UserRewardInfo`. -/
structure UserRewardInfo where
  rewardRecipient : Address
  rewardPerToken : ℕ
  rewardBalance : ℕ
  deriving DecidableEq, Repr

/-- The storage of a token. -/
structure TokenState where
  balances : Address → ℕ
  allowances : Address → Address → ℕ
  totalSupply : ℕ
  supplyCap : ℕ
  globalRewardPerToken : ℕ
  optedInSupply : ℕ
  userRewardInfo : Address → UserRewardInfo

/-- Empty storage. -/
def TokenState.empty : TokenState where
  balances _ := 0
  allowances _ _ := 0
  totalSupply := 0
  supplyCap := 0
  globalRewardPerToken := 0
  optedInSupply := 0
  userRewardInfo _ := ⟨0, 0, 0⟩

/-- `BlockedReason`, as `check_receive_policy` gives it. -/
inductive BlockedReason where
  | tokenFilter
  | receivePolicy
  deriving DecidableEq, Repr

/-- `InboundKind`. -/
inductive InboundKind where
  | transfer
  | mint
  deriving DecidableEq, Repr

/-- `ClaimReceiptV1`. -/
structure ClaimReceipt where
  version : ℕ
  token : Address
  recoveryAuthority : Address
  originator : Address
  recipient : Address
  blockedAt : ℕ
  blockedNonce : ℕ
  blockedReason : BlockedReason
  kind : InboundKind
  memo : B256
  deriving DecidableEq, Repr

/-- The storage of `ReceivePolicyGuard`. -/
structure GuardState where
  nonce : ℕ
  balances : B256 → ℕ

/-- The tokens and the guard. -/
structure World where
  tokens : Address → TokenState
  guard : GuardState

/-- Empty storage. -/
def World.empty : World := ⟨fun _ => .empty, ⟨0, fun _ => 0⟩⟩

/-- `receipt_key`: the hash of the fields of a receipt, without collisions. -/
class ReceiptHash where
  receiptKey : ClaimReceipt → B256
  injective : Function.Injective receiptKey

export ReceiptHash (receiptKey)

/-! ## The context -/

/-- `AuthRole`. -/
inductive AuthRole where
  | sender
  | recipient
  | mintRecipient
  deriving DecidableEq, Repr

/-- The roles that the modelled calls check. -/
inductive Role where
  | defaultAdmin
  | issuer
  | burnBlocked
  deriving DecidableEq, Repr

/-- `RecoveryMode`. -/
inductive RecoveryMode where
  | originator
  | receiver
  | thirdParty
  deriving DecidableEq, Repr

/-- The receive policy of an account, with the answers of its two lists. -/
structure ReceivePolicy where
  hasReceivePolicy : Bool
  tokenAllowed : Address → Except ℕ Bool
  senderAllowed : Address → Except ℕ Bool
  recoveryMode : RecoveryMode
  recoveryAddress : Address

/-- What a call runs under. -/
structure Context where
  spec : TempoHardfork
  timestamp : ℕ
  /-- `paused` of a token -/
  paused : Address → Bool
  /-- `check_role` of a token: role and account -/
  hasRole : Address → Role → Address → Bool
  /-- `is_authorized_as` under the transfer policy of a token: user and role -/
  authorizedAs : Address → Address → AuthRole → Except ℕ Bool
  receivePolicies : Address → ReceivePolicy
  /-- `get_master` -/
  master : ℕ → Option Address
  /-- `AccountKeychain::authorize_transfer`: account, token and amount -/
  authorizeTransfer : Address → Address → ℕ → Except ℕ Unit
  /-- `AccountKeychain::authorize_approve`: account, token, old and new allowance -/
  authorizeApprove : Address → Address → ℕ → ℕ → Except ℕ Unit
  /-- `AccountKeychain::refund_spending_limit`: account, token and amount -/
  refundSpendingLimit : Address → Address → ℕ → Except ℕ Unit
  /-- the signer recovered from a permit of a token -/
  recoverSigner : Address → Option Address

abbrev TokenM := EStateM Error TokenState

abbrev WorldM := EStateM Error World

/-- An answer of another precompile. -/
def external {α : Type} (answer : Except ℕ α) : Except Error α :=
  match answer with
  | .ok a => .ok a
  | .error selector => .error (.external selector)

/-- Fail unless the condition holds. -/
def check (condition : Prop) [Decidable condition] (error : Error) : Except Error Unit :=
  if condition then .ok () else .error error

/-! ## Checks -/

/-- `Recipient`. -/
structure Recipient where
  target : Address
  virtualAddr : Option Address
  deriving DecidableEq, Repr

/-- `Recipient::direct`. -/
def Recipient.direct (address : Address) : Recipient := ⟨address, none⟩

/-- `original_address`. -/
def Recipient.originalAddress (dest : Recipient) : Address := dest.virtualAddr.getD dest.target

/-- `resolve_recipient`. -/
def resolveRecipient (ctx : Context) (address : Address) : Except Error Address :=
  if !ctx.spec.isT3 then .ok address
  else if isVirtual address then
    match ctx.master (masterId address) with
    | some master => .ok master
    | none => .error .virtualAddressUnregistered
  else .ok address

/-- `Recipient::resolve`. -/
def Recipient.resolve (ctx : Context) (address : Address) : Except Error Recipient := do
  let effective ← resolveRecipient ctx address
  .ok (if effective = address then .direct address else ⟨effective, some address⟩)

/-- `Recipient::validate`. -/
def Recipient.validate (dest : Recipient) : Except Error Unit :=
  check (¬ (dest.target = 0 ∨ isTip20 dest.target = true)) (.tip20 .invalidRecipient)

/-- `check_not_paused`. -/
def checkNotPaused (ctx : Context) (token : Address) : Except Error Unit :=
  check (ctx.paused token = false) (.tip20 .contractPaused)

/-- `check_role`. -/
def checkRole (ctx : Context) (token : Address) (role : Role) (account : Address) :
    Except Error Unit :=
  check (ctx.hasRole token role account = true) (.tip20 .unauthorized)

/-- `is_transfer_authorized`. -/
def isTransferAuthorized (ctx : Context) (token sender recipient : Address) :
    Except Error Bool := do
  let senderAuth ← external (ctx.authorizedAs token sender .sender)
  if ctx.spec.isT2 && !senderAuth then .ok false
  else
    let recipientAuth ← external (ctx.authorizedAs token recipient .recipient)
    .ok (senderAuth && recipientAuth)

/-- `ensure_transfer_authorized`. -/
def ensureTransferAuthorized (ctx : Context) (token sender recipient : Address) :
    Except Error Unit := do
  let authorized ← isTransferAuthorized ctx token sender recipient
  check (authorized = true) (.tip20 .policyForbids)

/-- `ensure_authorized_as` for one user. -/
def ensureAuthorizedAs (ctx : Context) (token user : Address) (role : AuthRole) :
    Except Error Unit := do
  let authorized ← external (ctx.authorizedAs token user role)
  check (authorized = true) (.tip20 .policyForbids)

/-- `check_and_update_spending_limit`. -/
def checkSpendingLimit (ctx : Context) (token account : Address) (amount : ℕ) :
    Except Error Unit :=
  external (ctx.authorizeTransfer account token amount)

/-- `receive_policy_recovery`. -/
def receivePolicyRecovery (policy : ReceivePolicy) (account : Address) : Address :=
  match policy.recoveryMode with
  | .originator => 0
  | .receiver => account
  | .thirdParty => policy.recoveryAddress

/-- `check_receive_policy`. -/
def checkReceivePolicy (ctx : Context) (token sender receiver : Address) :
    Except Error (Option (BlockedReason × Address)) :=
  let policy := ctx.receivePolicies receiver
  if !policy.hasReceivePolicy then .ok none
  else do
    let tokenAllowed ← external (policy.tokenAllowed token)
    if !tokenAllowed then .ok (some (.tokenFilter, receivePolicyRecovery policy receiver))
    else
      let senderAllowed ← external (policy.senderAllowed sender)
      if !senderAllowed then .ok (some (.receivePolicy, receivePolicyRecovery policy receiver))
      else .ok none

/-- `ensure_receive_policy_authorized`. -/
def ensureReceivePolicyAuthorized (ctx : Context) (token sender receiver : Address) :
    Except Error Unit := do
  let blocked ← checkReceivePolicy ctx token sender receiver
  check (blocked = none) (.tip20 .policyForbids)

/-- `is_implicitly_approved`, at T5 and later. -/
def isImplicitlyApproved (address : Address) : Bool :=
  address == tipFeeManagerAddress || address == stablecoinDexAddress ||
    address == channelReserveAddress

/-- `PROTECTED` and the token's own address. -/
def isProtected (ctx : Context) (token owner : Address) : Bool :=
  owner == tipFeeManagerAddress || owner == stablecoinDexAddress ||
    (ctx.spec.isT5 && owner == channelReserveAddress) ||
    (ctx.spec.isT6 && owner == receivePolicyGuardAddress) || (ctx.spec.isT5 && owner == token)

/-! ## Balances and rewards -/

/-- `ACC_PRECISION`. -/
def accPrecision : ℕ := 10 ^ 18

/-- Set a balance. -/
def TokenState.setBalance (st : TokenState) (account : Address) (amount : ℕ) : TokenState :=
  { st with balances := update st.balances account amount }

/-- Set the reward row of an account. -/
def TokenState.setInfo (st : TokenState) (account : Address) (info : UserRewardInfo) :
    TokenState :=
  { st with userRewardInfo := update st.userRewardInfo account info }

/-- `increment_balance`. -/
def incrementBalance (account : Address) (amount : ℕ) : TokenM Unit := do
  let st ← get
  let balance ← okOr (checkedAdd256 (st.balances account) amount) (.tip20 .supplyCapExceeded)
  modify fun st => st.setBalance account balance

/-- `decrement_balance`. -/
def decrementBalance (token account : Address) (amount : ℕ) : TokenM Unit := do
  let st ← get
  let balance ← okOr (checkedSub (st.balances account) amount)
    (.tip20 (.insufficientBalance (st.balances account) amount token))
  modify fun st => st.setBalance account balance

/-- The rewards a holder has earned since its last update. -/
def TokenState.accrued (st : TokenState) (holder : Address) (delta : ℕ) : Option ℕ :=
  (checkedMul256 (st.balances holder) delta).map (· / accPrecision)

/-- `update_rewards`, on the rows: the rewards of the holder go to its delegate. -/
def TokenState.settle (st : TokenState) (holder : Address) : Option TokenState := do
  let info := st.userRewardInfo holder
  let delta ← checkedSub st.globalRewardPerToken info.rewardPerToken
  if delta = 0 then some st
  else if info.rewardRecipient = 0 then
    some (st.setInfo holder { info with rewardPerToken := st.globalRewardPerToken })
  else do
    let reward ← st.accrued holder delta
    if info.rewardRecipient = holder then do
      let rewardBalance ← checkedAdd256 info.rewardBalance reward
      some (st.setInfo holder
        { info with rewardBalance, rewardPerToken := st.globalRewardPerToken })
    else do
      let delegateInfo := st.userRewardInfo info.rewardRecipient
      let rewardBalance ← checkedAdd256 delegateInfo.rewardBalance reward
      some ((st.setInfo info.rewardRecipient { delegateInfo with rewardBalance }).setInfo holder
        { info with rewardPerToken := st.globalRewardPerToken })

/-- `update_rewards`: the delegate of the holder. -/
def updateRewards (ctx : Context) (holder : Address) : TokenM Address :=
  if ctx.spec.isT8 then pure 0
  else do
    let st ← get
    let settled ← okOr (st.settle holder) .underOverflow
    modify fun _ => settled
    pure (st.userRewardInfo holder).rewardRecipient

/-- Add to the opted-in supply. -/
def addOptedIn (amount : ℕ) : TokenM Unit := do
  let st ← get
  let supply ← okOr (checkedAdd128 st.optedInSupply amount) .underOverflow
  modify fun st => { st with optedInSupply := supply }

/-- Take from the opted-in supply. -/
def subOptedIn (amount : ℕ) : TokenM Unit := do
  let st ← get
  let supply ← okOr (checkedSub st.optedInSupply amount) .underOverflow
  modify fun st => { st with optedInSupply := supply }

/-- Adjust the opted-in supply to a transfer between holders with these delegates. -/
def adjustOptedIn (fromDelegate toDelegate : Address) (amount : ℕ) : TokenM Unit :=
  if fromDelegate ≠ 0 then onlyIf (toDelegate = 0) (subOptedIn amount)
  else onlyIf (toDelegate ≠ 0) (addOptedIn amount)

/-- `handle_rewards_on_transfer`. -/
def handleRewardsOnTransfer (ctx : Context) (sender recipient : Address) (amount : ℕ) :
    TokenM Unit := do
  let fromDelegate ← updateRewards ctx sender
  let toDelegate ← updateRewards ctx recipient
  adjustOptedIn fromDelegate toDelegate amount

/-- `handle_rewards_on_mint`. -/
def handleRewardsOnMint (ctx : Context) (recipient : Address) (amount : ℕ) : TokenM Unit := do
  let toDelegate ← updateRewards ctx recipient
  onlyIf (toDelegate ≠ 0) (addOptedIn amount)

/-! ## Token operations -/

/-- The balance that `_transfer` reads first, below T8. -/
def senderBalance (ctx : Context) (token sender : Address) (amount : ℕ) : TokenM (Option ℕ) :=
  if ctx.spec.isT8 then pure none
  else do
    let st ← get
    require (amount ≤ st.balances sender)
      (.tip20 (.insufficientBalance (st.balances sender) amount token))
    pure (some (st.balances sender))

/-- The debit of `_transfer`. -/
def debitSender (token sender : Address) (amount : ℕ) : Option ℕ → TokenM Unit
  | some balance => do
    let balance ← okOr (checkedSub balance amount) .underOverflow
    modify fun st => st.setBalance sender balance
  | none => decrementBalance token sender amount

/-- `_transfer`. -/
def innerTransfer (ctx : Context) (token sender : Address) (dest : Recipient) (amount : ℕ) :
    TokenM Unit := do
  let balance ← senderBalance ctx token sender amount
  handleRewardsOnTransfer ctx sender dest.target amount
  debitSender token sender amount balance
  onlyIf (dest.target ≠ 0) (incrementBalance dest.target amount)

/-- `_mint`. -/
def innerMint (ctx : Context) (dest : Recipient) (totalSupply amount : ℕ) : TokenM Unit := do
  let newSupply ← okOr (checkedAdd256 totalSupply amount) .underOverflow
  let st ← get
  require (newSupply ≤ st.supplyCap) (.tip20 .supplyCapExceeded)
  handleRewardsOnMint ctx dest.target amount
  modify fun st => { st with totalSupply := newSupply }
  incrementBalance dest.target amount

/-- Take burned tokens off the supply. -/
def reduceSupply (token : Address) (amount : ℕ) : TokenM Unit := do
  let st ← get
  let newSupply ← okOr (checkedSub st.totalSupply amount)
    (.tip20 (.insufficientBalance st.totalSupply amount token))
  modify fun st => { st with totalSupply := newSupply }

/-- `check_not_paused`, from T3 on. -/
def checkNotPausedT3 (ctx : Context) (token : Address) : Except Error Unit :=
  if ctx.spec.isT3 then checkNotPaused ctx token else .ok ()

/-- `_burn`. -/
def innerBurn (ctx : Context) (token sender : Address) (amount : ℕ) : TokenM Unit := do
  fromExcept (checkNotPausedT3 ctx token)
  fromExcept (checkRole ctx token .issuer sender)
  innerTransfer ctx token sender (.direct 0) amount
  reduceSupply token amount

/-- `burn_blocked`. -/
def burnBlocked (ctx : Context) (token sender owner : Address) (amount : ℕ)
    (checkProtected : Bool) : TokenM Unit := do
  fromExcept (checkNotPausedT3 ctx token)
  fromExcept (checkRole ctx token .burnBlocked sender)
  require (¬ (checkProtected = true ∧ isProtected ctx token owner = true))
    (.tip20 .protectedAddress)
  let authorized ← fromExcept (external (ctx.authorizedAs token owner .sender))
  require (authorized = false) (.tip20 .policyForbids)
  innerTransfer ctx token (if checkProtected then owner else receivePolicyGuardAddress)
    (.direct 0) amount
  reduceSupply token amount

/-- `set_supply_cap`. -/
def setSupplyCap (ctx : Context) (token sender : Address) (newSupplyCap : ℕ) : TokenM Unit := do
  fromExcept (checkRole ctx token .defaultAdmin sender)
  let st ← get
  require (st.totalSupply ≤ newSupplyCap) (.tip20 .invalidSupplyCap)
  require (newSupplyCap ≤ u128Max) (.tip20 .supplyCapExceeded)
  modify fun st => { st with supplyCap := newSupplyCap }

/-- `initialize`: the supply cap is the largest `u128`. -/
def initializeToken : TokenM Unit := modify fun st => { st with supplyCap := u128Max }

/-- `set_allowance`. -/
def setAllowance (owner spender : Address) (amount : ℕ) : TokenM Unit :=
  modify fun st =>
    { st with
      allowances := update st.allowances owner
        (update (st.allowances owner) spender amount) }

/-- `approve`. -/
def approve (ctx : Context) (token sender spender : Address) (amount : ℕ) : TokenM Unit := do
  let st ← get
  fromExcept (external (ctx.authorizeApprove sender token (st.allowances sender spender) amount))
  setAllowance sender spender amount

/-- `permit`. -/
def permit (ctx : Context) (token owner spender : Address) (value deadline : ℕ) :
    TokenM Unit := do
  require (ctx.timestamp ≤ deadline) (.tip20 .permitExpired)
  require (ctx.recoverSigner token = some owner) (.tip20 .invalidSignature)
  setAllowance owner spender value

/-- `consume_allowance`. -/
def consumeAllowance (owner spender : Address) (amount : ℕ) : TokenM Unit := do
  let st ← get
  require (amount ≤ st.allowances owner spender) (.tip20 .insufficientAllowance)
  onlyIf (st.allowances owner spender ≠ u256Max)
    (setAllowance owner spender (st.allowances owner spender - amount))

/-- `transfer_fee_pre_tx`. -/
def transferFeePreTx (ctx : Context) (token sender : Address) (amount : ℕ) : TokenM Unit := do
  fromExcept (checkNotPaused ctx token)
  fromExcept (checkSpendingLimit ctx token sender amount)
  let delegate ← updateRewards ctx sender
  onlyIf (delegate ≠ 0) (subOptedIn amount)
  decrementBalance token sender amount
  incrementBalance tipFeeManagerAddress amount

/-- The refund of `transfer_fee_post_tx`. -/
def refundFee (ctx : Context) (token dest : Address) (refund : ℕ) : TokenM Unit := do
  fromExcept (if ctx.spec.isT1C then external (ctx.refundSpendingLimit dest token refund)
    else .ok ())
  let delegate ← updateRewards ctx dest
  onlyIf (delegate ≠ 0) (addOptedIn refund)
  decrementBalance token tipFeeManagerAddress refund
  incrementBalance dest refund

/-- `transfer_fee_post_tx`. -/
def transferFeePostTx (ctx : Context) (token dest : Address) (refund : ℕ) : TokenM Unit :=
  onlyIf (refund ≠ 0) (refundFee ctx token dest refund)

/-- `distribute_reward`. -/
def distributeReward (ctx : Context) (token sender : Address) (amount : ℕ) : TokenM Unit :=
  onlyIf (ctx.spec.isT7 = false) do
    fromExcept (checkNotPaused ctx token)
    require (amount ≠ 0) (.tip20 .invalidAmount)
    fromExcept (ensureTransferAuthorized ctx token sender token)
    fromExcept (checkSpendingLimit ctx token sender amount)
    innerTransfer ctx token sender (.direct token) amount
    let st ← get
    require (st.optedInSupply ≠ 0) (.tip20 .noOptedInSupply)
    let scaled ← okOr (checkedMul256 amount accPrecision) .underOverflow
    let newRpt ← okOr (checkedAdd256 st.globalRewardPerToken (scaled / st.optedInSupply))
      .underOverflow
    modify fun st => { st with globalRewardPerToken := newRpt }

/-- `set_reward_recipient`. -/
def setRewardRecipient (ctx : Context) (token sender recipient : Address) : TokenM Unit :=
  onlyIf (ctx.spec.isT7 = false) do
    fromExcept (checkNotPaused ctx token)
    require (¬ (ctx.spec.isT3 = true ∧ isVirtual recipient = true)) (.tip20 .invalidRecipient)
    fromExcept (if recipient ≠ 0 then ensureTransferAuthorized ctx token sender recipient
      else .ok ())
    let delegate ← updateRewards ctx sender
    let st ← get
    adjustOptedIn delegate recipient (st.balances sender)
    modify fun st =>
      st.setInfo sender { st.userRewardInfo sender with rewardRecipient := recipient }

/-- The payment of `claim_rewards`. -/
def payRewards (token sender delegate : Address) (contractBalance amount : ℕ) : TokenM Unit := do
  modify fun st => st.setBalance token (contractBalance - amount)
  let st ← get
  let balance ← okOr (checkedAdd256 (st.balances sender) amount) .underOverflow
  modify fun st => st.setBalance sender balance
  onlyIf (delegate ≠ 0) (addOptedIn amount)

/-- `claim_rewards`. -/
def claimRewards (ctx : Context) (token sender : Address) : TokenM Unit := do
  fromExcept (checkNotPaused ctx token)
  fromExcept (ensureTransferAuthorized ctx token token sender)
  let delegate ← updateRewards ctx sender
  let st ← get
  let info := st.userRewardInfo sender
  let amount := min info.rewardBalance (st.balances token)
  modify fun st =>
    st.setInfo sender { info with rewardBalance := info.rewardBalance - amount }
  onlyIf (0 < amount) (payRewards token sender delegate (st.balances token) amount)

/-! ## Operations that may block -/

/-- Set the storage of a token. -/
def World.setToken (w : World) (token : Address) (st : TokenState) : World :=
  { w with tokens := update w.tokens token st }

/-- Run an operation of a token. -/
def onToken {α : Type} (token : Address) (x : TokenM α) : WorldM α := fun w =>
  match x (w.tokens token) with
  | .ok a st => .ok a (w.setToken token st)
  | .error e st => .error e (w.setToken token st)

section Guarded

variable [ReceiptHash]

/-- The receipt of a payment that is blocked now.  The nonces of receipts start at one. -/
def World.newReceipt (w : World) (ctx : Context) (token originator : Address) (dest : Recipient)
    (recovery : Address) (reason : BlockedReason) (kind : InboundKind) (memo : B256) :
    ClaimReceipt where
  version := 1
  token := token
  recoveryAuthority := recovery
  originator := originator
  recipient := dest.originalAddress
  blockedAt := min ctx.timestamp u64Max
  blockedNonce := max w.guard.nonce 1
  blockedReason := reason
  kind := kind
  memo := memo

/-- Record the amount of a receipt. -/
def World.record (w : World) (receipt : ClaimReceipt) (amount : ℕ) : World :=
  { w with
    guard := ⟨receipt.blockedNonce + 1,
      update w.guard.balances (receiptKey receipt) amount⟩ }

/-- `store_blocked`. -/
def storeBlocked (ctx : Context) (token originator : Address) (dest : Recipient)
    (recovery : Address) (amount : ℕ) (reason : BlockedReason) (kind : InboundKind)
    (memo : B256) : WorldM Unit := do
  let w ← get
  require (max w.guard.nonce 1 + 1 ≤ u64Max) .underOverflow
  modify fun w =>
    w.record (w.newReceipt ctx token originator dest recovery reason kind memo) amount

/-- The funds of a blocked payment go to the guard. -/
def blockFunds (ctx : Context) (token originator : Address) (amount : ℕ) :
    Option ℕ → TokenM InboundKind
  | some totalSupply => do
    innerMint ctx (.direct receivePolicyGuardAddress) totalSupply amount
    pure .mint
  | none => do
    innerTransfer ctx token originator (.direct receivePolicyGuardAddress) amount
    pure .transfer

/-- What `validate_inbound_or_block` does with the answer of the receive policy. -/
def blockInbound (ctx : Context) (token originator : Address) (dest : Recipient) (amount : ℕ)
    (mintTotalSupply : Option ℕ) (memo : B256) :
    Option (BlockedReason × Address) → WorldM Bool
  | none => pure false
  | some (reason, recovery) => do
    let kind ← onToken token (blockFunds ctx token originator amount mintTotalSupply)
    storeBlocked ctx token originator dest recovery amount reason kind memo
    pure true

/-- `validate_inbound_or_block`. -/
def validateInboundOrBlock (ctx : Context) (token originator : Address) (dest : Recipient)
    (amount : ℕ) (mintTotalSupply : Option ℕ) (memo : B256) : WorldM Bool :=
  if !ctx.spec.isT6 then pure false
  else do
    require (dest.target ≠ receivePolicyGuardAddress) (.guard .addressReserved)
    let blocked ← fromExcept (checkReceivePolicy ctx token originator dest.target)
    blockInbound ctx token originator dest amount mintTotalSupply memo blocked

/-- The allowance or the spending limit that a transfer uses. -/
def spend (ctx : Context) (token sender : Address) (amount : ℕ) : Option Address → TokenM Unit
  | some spender => consumeAllowance sender spender amount
  | none => fromExcept (checkSpendingLimit ctx token sender amount)

/-- `validate_transfer`: the recipient, and whether the funds were blocked. -/
def validateTransfer (ctx : Context) (token : Address) (spender : Option Address)
    (sender dest : Address) (amount : ℕ) (memo : B256) : WorldM (Recipient × Bool) := do
  let recipient ← fromExcept (Recipient.resolve ctx dest)
  fromExcept (checkNotPaused ctx token)
  fromExcept recipient.validate
  fromExcept (ensureTransferAuthorized ctx token sender recipient.target)
  onToken token (spend ctx token sender amount spender)
  let blocked ← validateInboundOrBlock ctx token sender recipient amount none memo
  pure (recipient, blocked)

/-- A validated transfer: `transfer`, `transfer_with_memo`, `transfer_from` and
`transfer_from_with_memo` without their events. -/
def transferWith (ctx : Context) (token : Address) (spender : Option Address)
    (sender dest : Address) (amount : ℕ) (memo : B256) : WorldM Unit := do
  let validated ← validateTransfer ctx token spender sender dest amount memo
  onlyIf (validated.2 = false) (onToken token (innerTransfer ctx token sender validated.1 amount))

/-- `transfer` and `transfer_with_memo`. -/
def transfer (ctx : Context) (token sender dest : Address) (amount : ℕ) (memo : B256) :
    WorldM Unit :=
  transferWith ctx token none sender dest amount memo

/-- `transfer_from` and `transfer_from_with_memo`. -/
def transferFrom (ctx : Context) (token spender owner dest : Address) (amount : ℕ) (memo : B256) :
    WorldM Unit :=
  transferWith ctx token (some spender) owner dest amount memo

/-- `system_transfer_from`. -/
def systemTransferFrom (ctx : Context) (token caller owner : Address) (amount : ℕ) :
    WorldM Unit := do
  require (¬ (ctx.spec.isT5 = true ∧ isImplicitlyApproved caller = false)) (.tip20 .unauthorized)
  transferWith ctx token none owner caller amount 0

/-- `channel_reserve_transfer`. -/
def channelReserveTransfer (ctx : Context) (token sender : Address) (dest : Recipient)
    (amount : ℕ) (receivePolicySender : Address) : TokenM Unit := do
  require (¬ (sender ≠ channelReserveAddress ∧ dest.originalAddress ≠ channelReserveAddress))
    (.tip20 .unauthorized)
  fromExcept (checkNotPaused ctx token)
  fromExcept dest.validate
  fromExcept (checkSpendingLimit ctx token sender amount)
  require (dest.target ≠ receivePolicyGuardAddress) (.guard .addressReserved)
  fromExcept (ensureReceivePolicyAuthorized ctx token receivePolicySender dest.target)
  innerTransfer ctx token sender dest amount

/-- The checks of `validate_mint` from T3 on. -/
def checkMintT3 (ctx : Context) (token : Address) (dest : Recipient) : Except Error Unit :=
  if ctx.spec.isT3 then do
    checkNotPaused ctx token
    dest.validate
  else .ok ()

/-- `mint` and `mint_with_memo`, with `validate_mint`. -/
def mint (ctx : Context) (token sender dest : Address) (amount : ℕ) (memo : B256) :
    WorldM Unit := do
  let recipient ← fromExcept (Recipient.resolve ctx dest)
  fromExcept (checkRole ctx token .issuer sender)
  let w ← get
  let totalSupply := (w.tokens token).totalSupply
  fromExcept (checkMintT3 ctx token recipient)
  fromExcept (ensureAuthorizedAs ctx token recipient.target .mintRecipient)
  let blocked ← validateInboundOrBlock ctx token sender recipient amount (some totalSupply) memo
  onlyIf (blocked = false) (onToken token (innerMint ctx recipient totalSupply amount))

/-! ## The guard -/

/-- `RecoveryMode::from`. -/
def RecoveryMode.ofReceipt (receipt : ClaimReceipt) (receiver : Address) : RecoveryMode :=
  if receipt.recoveryAuthority = 0 then .originator
  else if receipt.recoveryAuthority = receiver then .receiver
  else .thirdParty

/-- `authority`. -/
def RecoveryMode.authority (receipt : ClaimReceipt) : RecoveryMode → Address
  | .originator => receipt.originator
  | .receiver => receipt.recoveryAuthority
  | .thirdParty => receipt.recoveryAuthority

/-- `policy_subject`. -/
def RecoveryMode.policySubject (originator receiver : Address) : RecoveryMode → Address
  | .originator => originator
  | .receiver => receiver
  | .thirdParty => receiver

/-- `is_reroute`. -/
def RecoveryMode.isReroute (dest receiver : Address) : RecoveryMode → Bool
  | .originator => true
  | .receiver => dest != receiver
  | .thirdParty => dest != receiver

/-- `spending_account`. -/
def RecoveryMode.spendingAccount (authority : Address) : RecoveryMode → Option Address
  | .originator => some authority
  | .receiver => some authority
  | .thirdParty => none

/-- The checks of `release_blocked_funds`. -/
def checkRelease (ctx : Context) (token originator receiver dest : Address)
    (destination : Recipient) (amount : ℕ) (mode : RecoveryMode) (authority : Address) :
    Except Error Unit :=
  if mode.isReroute dest receiver then do
    let subject := mode.policySubject originator receiver
    ensureTransferAuthorized ctx token subject destination.target
    ensureReceivePolicyAuthorized ctx token subject destination.target
    match mode.spendingAccount authority with
    | some account => checkSpendingLimit ctx token account amount
    | none => .ok ()
  else ensureAuthorizedAs ctx token destination.target .recipient

/-- `release_blocked_funds`. -/
def releaseBlockedFunds (ctx : Context) (token originator receiver dest : Address) (amount : ℕ)
    (mode : RecoveryMode) (authority : Address) : TokenM Unit := do
  fromExcept (checkNotPaused ctx token)
  let destination ← fromExcept (Recipient.resolve ctx dest)
  fromExcept destination.validate
  fromExcept (checkRelease ctx token originator receiver dest destination amount mode authority)
  innerTransfer ctx token receivePolicyGuardAddress destination amount

/-- `resolve_receipt`: the receiver. -/
def resolveReceipt (ctx : Context) (receipt : ClaimReceipt) : Except Error Address :=
  match resolveRecipient ctx receipt.recipient with
  | .ok receiver => .ok receiver
  | .error _ => .error (.guard .invalidClaimAddress)

/-- `TIP20Token::from_address`. -/
def fromAddress (token : Address) : Except Error Unit :=
  check (isTip20 token = true) (.tip20 .invalidToken)

/-- Set the unclaimed amount of a receipt to zero. -/
def World.clear (w : World) (receipt : ClaimReceipt) : World :=
  { w with
    guard := { w.guard with
      balances := update w.guard.balances (receiptKey receipt) 0 } }

/-- `claim`: the amount paid. -/
def claim (ctx : Context) (sender dest : Address) (receipt : ClaimReceipt) : WorldM ℕ := do
  require (dest ≠ receivePolicyGuardAddress) (.guard .invalidClaimAddress)
  let receiver ← fromExcept (resolveReceipt ctx receipt)
  let mode := RecoveryMode.ofReceipt receipt receiver
  require (mode.authority receipt = sender) (.guard .unauthorizedClaimer)
  let w ← get
  let amount := w.guard.balances (receiptKey receipt)
  require (amount ≠ 0) (.guard .invalidReceipt)
  modify fun w => w.clear receipt
  fromExcept (fromAddress receipt.token)
  onToken receipt.token (releaseBlockedFunds ctx receipt.token receipt.originator receiver dest
    amount mode (mode.authority receipt))
  pure amount

/-- `burn_blocked_receipt`: the amount burned. -/
def burnBlockedReceipt (ctx : Context) (sender : Address) (receipt : ClaimReceipt) :
    WorldM ℕ := do
  let receiver ← fromExcept (resolveReceipt ctx receipt)
  let mode := RecoveryMode.ofReceipt receipt receiver
  let w ← get
  let amount := w.guard.balances (receiptKey receipt)
  require (amount ≠ 0) (.guard .invalidReceipt)
  fromExcept (fromAddress receipt.token)
  onToken receipt.token (burnBlocked ctx receipt.token sender
    (mode.policySubject receipt.originator receiver) amount false)
  modify fun w => w.clear receipt
  pure amount

end Guarded

end Monotempo.Tip20
