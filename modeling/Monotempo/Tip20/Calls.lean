/-
  The calls on tokens and on the guard, and what they did.

  Source: `crates/precompiles/src/tip20/mod.rs`, `tip20/dispatch.rs` and
  `receive_policy_guard/mod.rs`.

  Most calls work on the storage of one token.  Payments may be diverted: they end with
  the funds at the recipient, or with the funds at the guard and a receipt.  Claims and
  burns of receipts start from a receipt.
-/
import Monotempo.Tip20.Effects
import Mathlib.Data.Nat.Pairing

set_option autoImplicit false

namespace Monotempo.Tip20

open Chain Foundation

/-! ## Calls -/

/-- The operations on the storage of one token. -/
inductive TokenOp where
  /-- `initialize` -/
  | create
  /-- `burn` and `burn_with_memo` -/
  | burn (sender : Address) (amount : ℕ)
  | burnBlocked (sender owner : Address) (amount : ℕ)
  | channelReserveTransfer (sender : Address) (dest : Recipient) (amount : ℕ)
      (receivePolicySender : Address)
  | transferFeePreTx (sender : Address) (amount : ℕ)
  | transferFeePostTx (dest : Address) (refund : ℕ)
  | distributeReward (sender : Address) (amount : ℕ)
  | setRewardRecipient (sender recipient : Address)
  | claimRewards (sender : Address)
  | setSupplyCap (sender : Address) (newSupplyCap : ℕ)
  | approve (sender spender : Address) (amount : ℕ)
  | permit (owner spender : Address) (value deadline : ℕ)

/-- Run an operation. -/
def TokenOp.run (ctx : Context) (token : Address) : TokenOp → TokenM Unit
  | .create => initializeToken
  | .burn sender amount => innerBurn ctx token sender amount
  | .burnBlocked sender owner amount => Tip20.burnBlocked ctx token sender owner amount true
  | .channelReserveTransfer sender dest amount receivePolicySender =>
    Tip20.channelReserveTransfer ctx token sender dest amount receivePolicySender
  | .transferFeePreTx sender amount => Tip20.transferFeePreTx ctx token sender amount
  | .transferFeePostTx dest refund => Tip20.transferFeePostTx ctx token dest refund
  | .distributeReward sender amount => Tip20.distributeReward ctx token sender amount
  | .setRewardRecipient sender recipient => Tip20.setRewardRecipient ctx token sender recipient
  | .claimRewards sender => Tip20.claimRewards ctx token sender
  | .setSupplyCap sender newSupplyCap => Tip20.setSupplyCap ctx token sender newSupplyCap
  | .approve sender spender amount => Tip20.approve ctx token sender spender amount
  | .permit owner spender value deadline => Tip20.permit ctx token owner spender value deadline

/-- The calls on tokens and on the guard. -/
inductive Call where
  | operation (token : Address) (op : TokenOp)
  /-- `mint` and `mint_with_memo` -/
  | mint (token sender dest : Address) (amount : ℕ) (memo : B256)
  /-- `transfer` and `transfer_with_memo` -/
  | transfer (token sender dest : Address) (amount : ℕ) (memo : B256)
  /-- `transfer_from` and `transfer_from_with_memo` -/
  | transferFrom (token spender owner dest : Address) (amount : ℕ) (memo : B256)
  | systemTransferFrom (token caller owner : Address) (amount : ℕ)
  | claim (sender dest : Address) (receipt : ClaimReceipt)
  | burnBlockedReceipt (sender : Address) (receipt : ClaimReceipt)

/-- The token a call works on. -/
def Call.tokenAddress : Call → Address
  | .operation token _ => token
  | .mint token _ _ _ _ => token
  | .transfer token _ _ _ _ => token
  | .transferFrom token _ _ _ _ _ => token
  | .systemTransferFrom token _ _ _ => token
  | .claim _ _ receipt => receipt.token
  | .burnBlockedReceipt _ receipt => receipt.token

/-- The account that sent or signed an operation. -/
def TokenOp.actor : TokenOp → Option Address
  | .create => none
  | .burn sender _ => some sender
  | .burnBlocked sender _ _ => some sender
  | .channelReserveTransfer sender _ _ _ => some sender
  | .transferFeePreTx sender _ => some sender
  | .transferFeePostTx dest _ => some dest
  | .distributeReward sender _ => some sender
  | .setRewardRecipient sender _ => some sender
  | .claimRewards sender => some sender
  | .setSupplyCap sender _ => some sender
  | .approve sender _ _ => some sender
  | .permit owner _ _ _ => some owner

/-- The account that sent or signed a call. -/
def Call.actor : Call → Option Address
  | .operation _ op => op.actor
  | .mint _ sender _ _ _ => some sender
  | .transfer _ sender _ _ _ => some sender
  | .transferFrom _ spender _ _ _ _ => some spender
  | .systemTransferFrom _ _ owner _ => some owner
  | .claim sender _ _ => some sender
  | .burnBlockedReceipt sender _ => some sender

section Run

variable [ReceiptHash]

/-- Run a call; claims and burns return their amount, other calls zero. -/
def Call.run (ctx : Context) : Call → WorldM ℕ
  | .operation token op => do
    onToken token (op.run ctx token)
    pure 0
  | .mint token sender dest amount memo => do
    Tip20.mint ctx token sender dest amount memo
    pure 0
  | .transfer token sender dest amount memo => do
    Tip20.transfer ctx token sender dest amount memo
    pure 0
  | .transferFrom token spender owner dest amount memo => do
    Tip20.transferFrom ctx token spender owner dest amount memo
    pure 0
  | .systemTransferFrom token caller owner amount => do
    Tip20.systemTransferFrom ctx token caller owner amount
    pure 0
  | .claim sender dest receipt => Tip20.claim ctx sender dest receipt
  | .burnBlockedReceipt sender receipt => Tip20.burnBlockedReceipt ctx sender receipt

end Run

/-! ## Operations on one token -/

variable {ctx : Context} {token sender spender owner dest : Address} {amount : ℕ} {memo : B256}
  {st st' : TokenState} {w w' : World}

/-- The accounts that an operation debits. -/
def TokenOp.payer (token : Address) : TokenOp → Address → Prop
  | .create => fun _ => False
  | .burn sender _ => (· = sender)
  | .burnBlocked _ owner _ => (· = owner)
  | .channelReserveTransfer sender _ _ _ => (· = sender)
  | .transferFeePreTx sender _ => (· = sender)
  | .transferFeePostTx _ _ => (· = tipFeeManagerAddress)
  | .distributeReward sender _ => (· = sender)
  | .setRewardRecipient _ _ => fun _ => False
  | .claimRewards _ => (· = token)
  | .setSupplyCap _ _ => fun _ => False
  | .approve _ _ _ => fun _ => False
  | .permit _ _ _ _ => fun _ => False

/-- The accounts whose allowances an operation may raise. -/
def TokenOp.approver : TokenOp → Address → Prop
  | .approve sender _ _ => (· = sender)
  | .permit owner _ _ _ => (· = owner)
  | _ => fun _ => False

/-- Every operation has one of the five effects, or sets an allowance. -/
theorem TokenOp.effect {op : TokenOp} (htoken : token ≠ 0)
    (h : op.run ctx token st = .ok () st') :
    FundsEffect (op.payer token) st st' ∨ AllowanceEffect op.approver st st' := by
  cases op with
  | create =>
    obtain rfl := modify_ok.mp h
    exact .inl (.capped rfl rfl rfl (.inr rfl) (Nat.le_refl _))
  | burn sender amount => exact .inl (innerBurn_effect h)
  | burnBlocked sender owner amount => exact .inl (.burned owner amount rfl (burnBlocked_ok h).2)
  | channelReserveTransfer sender dest amount receivePolicySender =>
    exact .inl (channelReserveTransfer_effect h)
  | transferFeePreTx sender amount =>
    exact .inl (.moved sender tipFeeManagerAddress amount rfl (transferFeePreTx_ok h))
  | transferFeePostTx dest refund => exact .inl (transferFeePostTx_effect h)
  | distributeReward sender amount => exact .inl (distributeReward_effect htoken h)
  | setRewardRecipient sender recipient => exact .inl (.same (setRewardRecipient_effect h))
  | claimRewards sender => exact .inl (claimRewards_effect h)
  | setSupplyCap sender newSupplyCap => exact .inl (setSupplyCap_effect h)
  | approve sender spender amount =>
    replace h := fromExcept_rest h
    exact .inr (setAllowance_effect h)
  | permit owner spender value deadline =>
    replace h := require_rest (require_rest h)
    exact .inr (setAllowance_effect h)

variable {account : Address}

/-- An account without allowances that does not act has none afterwards. -/
theorem TokenOp.noAllowance {op : TokenOp} (htoken : token ≠ 0) (hactor : op.actor ≠ some account)
    (hnone : ∀ spender, st.allowances account spender = 0) (hrun : op.run ctx token st = .ok () st')
    : ∀ spender, st'.allowances account spender = 0 := by
  intro spender
  rcases op.effect htoken hrun with heffect | heffect
  · rw [heffect.allowances]
    exact hnone spender
  · have hother : ¬ op.approver account := by
      intro happroves
      cases op with
      | approve | permit => exact hactor (congrArg some happroves.symm)
      | _ => exact happroves
    have hle := heffect.allowances account hother spender
    rw [hnone spender] at hle
    exact Nat.le_zero.mp hle

/-! ## Payments that may be diverted -/

theorem onToken_ok {α : Type} {x : TokenM α} {a : α} :
    onToken token x w = .ok a w' ↔
      ∃ st', x (w.tokens token) = .ok a st' ∧ w' = w.setToken token st' := by
  unfold onToken
  cases x (w.tokens token) with
  | ok b st =>
    simp only [EStateM.Result.ok.injEq]
    constructor
    · rintro ⟨rfl, rfl⟩
      exact ⟨st, ⟨rfl, rfl⟩, rfl⟩
    · rintro ⟨st', ⟨rfl, rfl⟩, rfl⟩
      exact ⟨rfl, rfl⟩
  | error e st => simp

@[simp] theorem setToken_self : (w.setToken token st).tokens token = st := by
  simp [World.setToken]

theorem setToken_other {other : Address} (h : other ≠ token) :
    (w.setToken token st).tokens other = w.tokens other := by
  simp [World.setToken, h]

variable [ReceiptHash] {u : Unit} {recipient : Recipient}

theorem storeBlocked_ok {recovery : Address} {reason : BlockedReason} {kind : InboundKind}
    (h : storeBlocked ctx token sender recipient recovery amount reason kind memo w =
      .ok u w') :
    w' = w.record (w.newReceipt ctx token sender recipient recovery reason kind memo) amount := by
  replace h := require_rest h
  exact modify_ok.mp h

/-- How a payment passed the receive policy of its recipient. -/
inductive Passage (ctx : Context) (token sender : Address) (recipient : Recipient) (amount : ℕ)
    (mintTotalSupply : Option ℕ) (memo : B256) (w : World) : Bool → World → Prop where
  | allowed (direct : ctx.spec.isT6 = true → recipient.target ≠ receivePolicyGuardAddress) :
      Passage ctx token sender recipient amount mintTotalSupply memo w false w
  | blocked {reason : BlockedReason} {recovery : Address} {kind : InboundKind} {st : TokenState}
      (policy : checkReceivePolicy ctx token sender recipient.target =
        .ok (some (reason, recovery)))
      (funds : blockFunds ctx token sender amount mintTotalSupply (w.tokens token) = .ok kind st) :
      Passage ctx token sender recipient amount mintTotalSupply memo w true
        ((w.setToken token st).record
          (w.newReceipt ctx token sender recipient recovery reason kind memo) amount)

theorem validateInboundOrBlock_ok {mintTotalSupply : Option ℕ} {blocked : Bool}
    (h : validateInboundOrBlock ctx token sender recipient amount mintTotalSupply memo w =
      .ok blocked w') :
    Passage ctx token sender recipient amount mintTotalSupply memo w blocked w' := by
  unfold validateInboundOrBlock at h
  split at h
  · rename_i hfork
    obtain ⟨rfl, rfl⟩ := pure_ok.mp h
    exact .allowed fun hT6 => by simp [hT6] at hfork
  · obtain ⟨hguard, h⟩ := require_bind_ok.mp h
    obtain ⟨policy, hpolicy, h⟩ := fromExcept_bind_ok.mp h
    cases policy with
    | none =>
      obtain ⟨rfl, rfl⟩ := pure_ok.mp h
      exact .allowed fun _ => hguard
    | some answer =>
      obtain ⟨kind, w₁, ⟨st, hfunds, rfl⟩, h⟩ := step_bind_ok onToken_ok.mp h
      obtain ⟨_, w₂, rfl, h⟩ := step_bind_ok storeBlocked_ok h
      obtain ⟨rfl, rfl⟩ := pure_ok.mp h
      exact .blocked hpolicy hfunds

/-- A payment between accounts. -/
structure Payment where
  token : Address
  /-- whose allowance is used; without one the spending limit of the sender is -/
  spender : Option Address
  sender : Address
  dest : Address
  amount : ℕ
  memo : B256

/-- The payment that a call makes. -/
def Call.payment : Call → Option Payment
  | .transfer token sender dest amount memo => some ⟨token, none, sender, dest, amount, memo⟩
  | .transferFrom token spender owner dest amount memo =>
    some ⟨token, some spender, owner, dest, amount, memo⟩
  | .systemTransferFrom token caller owner amount => some ⟨token, none, owner, caller, amount, 0⟩
  | _ => none

variable {call : Call} {p : Payment}

omit [ReceiptHash] in
theorem Call.payment_token (h : call.payment = some p) :
    call.tokenAddress = p.token := by
  cases call with
  | transfer | transferFrom | systemTransferFrom =>
    obtain rfl := Option.some.inj h
    rfl
  | operation | mint | claim | burnBlockedReceipt => exact nomatch h

omit [ReceiptHash] in
/-- A payment from an account that neither acts nor has allowances is of nothing. -/
theorem Call.payment_spent (hnone : ∀ spender, (w.tokens p.token).allowances account spender = 0)
    (hactor : call.actor ≠ some account) (hpayment : call.payment = some p)
    (hspent : spend ctx p.token p.sender p.amount p.spender (w.tokens p.token) = .ok () st) :
    (p.amount = 0 ∨ account ≠ p.sender) ∧ st.balances = (w.tokens p.token).balances ∧
      ∀ spender, st.allowances account spender = 0 := by
  obtain ⟨heffect, henough⟩ := spend_ok hspent
  refine ⟨?_, heffect.balances, fun spender => ?_⟩
  · cases call with
    | transfer | systemTransferFrom =>
      obtain rfl := Option.some.inj hpayment
      exact .inr fun heq => hactor (congrArg some heq.symm)
    | transferFrom token spender owner dest amount memo =>
      obtain rfl := Option.some.inj hpayment
      by_cases heq : account = owner
      · have hle := henough spender rfl
        rw [← heq, hnone] at hle
        exact .inl (Nat.le_zero.mp hle)
      · exact .inr heq
    | operation | mint | claim | burnBlockedReceipt => exact nomatch hpayment
  · have hle := heffect.allowances account not_false spender
    rw [hnone] at hle
    exact Nat.le_zero.mp hle

/-- What a successful call did, and the amount it returned. -/
inductive CallStep (ctx : Context) (w : World) : Call → ℕ → World → Prop where
  | operation {token : Address} {op : TokenOp} {st : TokenState}
      (run : op.run ctx token (w.tokens token) = .ok () st) :
      CallStep ctx w (.operation token op) 0 (w.setToken token st)
  | delivered {call : Call} {p : Payment} {recipient : Recipient} {st₁ st₂ : TokenState}
      (payment : call.payment = some p) (valid : recipient.target ≠ 0)
      (direct : ctx.spec.isT6 = true → recipient.target ≠ receivePolicyGuardAddress)
      (spent : spend ctx p.token p.sender p.amount p.spender (w.tokens p.token) = .ok () st₁)
      (transfer : innerTransfer ctx p.token p.sender recipient p.amount st₁ = .ok () st₂) :
      CallStep ctx w call 0 (w.setToken p.token st₂)
  | diverted {call : Call} {p : Payment} {recipient : Recipient} {st₁ st₂ : TokenState}
      {reason : BlockedReason} {recovery : Address} (payment : call.payment = some p)
      (resolved : Recipient.resolve ctx p.dest = .ok recipient)
      (spent : spend ctx p.token p.sender p.amount p.spender (w.tokens p.token) = .ok () st₁)
      (policy : checkReceivePolicy ctx p.token p.sender recipient.target =
        .ok (some (reason, recovery)))
      (transfer : innerTransfer ctx p.token p.sender (.direct receivePolicyGuardAddress) p.amount
        st₁ = .ok () st₂) :
      CallStep ctx w call 0 ((w.setToken p.token st₂).record
        (w.newReceipt ctx p.token p.sender recipient recovery reason .transfer p.memo) p.amount)
  | minted {token sender dest : Address} {amount : ℕ} {memo : B256} {recipient : Recipient}
      {st : TokenState}
      (direct : ctx.spec.isT6 = true → recipient.target ≠ receivePolicyGuardAddress)
      (mint : innerMint ctx recipient (w.tokens token).totalSupply amount (w.tokens token) =
        .ok () st) :
      CallStep ctx w (.mint token sender dest amount memo) 0 (w.setToken token st)
  | mintDiverted {token sender dest : Address} {amount : ℕ} {memo : B256} {recipient : Recipient}
      {st : TokenState} {reason : BlockedReason} {recovery : Address}
      (resolved : Recipient.resolve ctx dest = .ok recipient)
      (policy : checkReceivePolicy ctx token sender recipient.target =
        .ok (some (reason, recovery)))
      (mint : innerMint ctx (.direct receivePolicyGuardAddress) (w.tokens token).totalSupply amount
        (w.tokens token) = .ok () st) :
      CallStep ctx w (.mint token sender dest amount memo) 0 ((w.setToken token st).record
        (w.newReceipt ctx token sender recipient recovery reason .mint memo) amount)
  | claimed {sender dest receiver : Address} {receipt : ClaimReceipt} {mode : RecoveryMode}
      {st : TokenState}
      (authority : sender = if receipt.recoveryAuthority = 0 then receipt.originator
        else receipt.recoveryAuthority)
      (other : dest ≠ receivePolicyGuardAddress)
      (unclaimed : w.guard.balances (receiptKey receipt) ≠ 0)
      (release : releaseBlockedFunds ctx receipt.token receipt.originator receiver dest
        (w.guard.balances (receiptKey receipt)) mode sender (w.tokens receipt.token) =
        .ok () st) :
      CallStep ctx w (.claim sender dest receipt) (w.guard.balances (receiptKey receipt))
        ((w.clear receipt).setToken receipt.token st)
  | receiptBurned {sender owner : Address} {receipt : ClaimReceipt} {st : TokenState}
      (unclaimed : w.guard.balances (receiptKey receipt) ≠ 0)
      (burn : burnBlocked ctx receipt.token sender owner
        (w.guard.balances (receiptKey receipt)) false (w.tokens receipt.token) = .ok () st) :
      CallStep ctx w (.burnBlockedReceipt sender receipt)
        (w.guard.balances (receiptKey receipt)) ((w.clear receipt).setToken receipt.token st)

/-- A validated transfer ends at its recipient or at the guard. -/
theorem transferWith_step (hpayment : call.payment = some p)
    (h : transferWith ctx p.token p.spender p.sender p.dest p.amount p.memo w = .ok u w') :
    CallStep ctx w call 0 w' := by
  obtain ⟨validated, w₁, ⟨recipient, hresolved, hvalidate⟩, h⟩ :=
    step_bind_ok fromExcept_bind_ok.mp h
  replace hvalidate := fromExcept_rest hvalidate
  obtain ⟨_, hvalid, hvalidate⟩ := fromExcept_bind_ok.mp hvalidate
  replace hvalidate := fromExcept_rest hvalidate
  obtain ⟨_, w₂, ⟨st₁, hspent, rfl⟩, hvalidate⟩ := step_bind_ok onToken_ok.mp hvalidate
  obtain ⟨blocked, w₃, hinbound, hvalidate⟩ := bind_ok.mp hvalidate
  obtain ⟨rfl, rfl⟩ := pure_ok.mp hvalidate
  have hpassage := validateInboundOrBlock_ok hinbound
  cases hpassage with
  | allowed direct =>
    obtain ⟨-, h⟩ | ⟨hcontra, -⟩ := onlyIf_ok.mp h
    · obtain ⟨st₂, htransfer, rfl⟩ := onToken_ok.mp h
      rw [setToken_self] at htransfer
      have hresult := CallStep.delivered hpayment (validate_ok hvalid).1 direct hspent htransfer
      simpa [World.setToken] using hresult
    · exact absurd rfl hcontra
  | @blocked reason recovery kind st policy funds =>
    obtain ⟨hcontra, -⟩ | ⟨-, rfl⟩ := onlyIf_ok.mp h
    · exact nomatch hcontra
    · rw [setToken_self] at funds
      obtain ⟨_, st₂, htransfer, hkind⟩ := bind_ok.mp funds
      obtain ⟨rfl, rfl⟩ := pure_ok.mp hkind
      have hresult := CallStep.diverted hpayment hresolved hspent policy htransfer
      simpa [World.setToken, World.newReceipt] using hresult

theorem mint_step (h : mint ctx token sender dest amount memo w = .ok u w') :
    CallStep ctx w (.mint token sender dest amount memo) 0 w' := by
  obtain ⟨recipient, hresolved, h⟩ := fromExcept_bind_ok.mp h
  replace h := fromExcept_rest h
  replace h := fromExcept_rest h
  replace h := fromExcept_rest h
  obtain ⟨blocked, w₁, hinbound, h⟩ := bind_ok.mp h
  have hpassage := validateInboundOrBlock_ok hinbound
  cases hpassage with
  | allowed direct =>
    obtain ⟨-, h⟩ | ⟨hcontra, -⟩ := onlyIf_ok.mp h
    · obtain ⟨st, hmint, rfl⟩ := onToken_ok.mp h
      exact .minted direct hmint
    · exact absurd rfl hcontra
  | @blocked reason recovery kind st policy funds =>
    obtain ⟨hcontra, -⟩ | ⟨-, rfl⟩ := onlyIf_ok.mp h
    · exact nomatch hcontra
    · obtain ⟨_, st₂, hmint, hkind⟩ := bind_ok.mp funds
      obtain ⟨rfl, rfl⟩ := pure_ok.mp hkind
      exact .mintDiverted hresolved policy hmint

omit [ReceiptHash] in
/-- Whoever the receiver is, the receipt names its authority. -/
theorem authority_ofReceipt (receipt : ClaimReceipt) (receiver : Address) :
    (RecoveryMode.ofReceipt receipt receiver).authority receipt =
      if receipt.recoveryAuthority = 0 then receipt.originator else receipt.recoveryAuthority := by
  unfold RecoveryMode.ofReceipt
  split
  · rfl
  · split <;> rfl

variable {receipt : ClaimReceipt}

theorem claim_step {paid : ℕ} (h : claim ctx sender dest receipt w = .ok paid w') :
    CallStep ctx w (.claim sender dest receipt) paid w' := by
  obtain ⟨hother, h⟩ := require_bind_ok.mp h
  obtain ⟨receiver, -, h⟩ := fromExcept_bind_ok.mp h
  obtain ⟨hauthority, h⟩ := require_bind_ok.mp h
  obtain ⟨hunclaimed, h⟩ := require_bind_ok.mp h
  replace h := fromExcept_rest h
  obtain ⟨_, w₂, ⟨st, hrelease, rfl⟩, h⟩ := step_bind_ok onToken_ok.mp h
  obtain ⟨rfl, rfl⟩ := pure_ok.mp h
  rw [hauthority] at hrelease
  rw [authority_ofReceipt] at hauthority
  exact .claimed hauthority.symm hother hunclaimed hrelease

theorem burnBlockedReceipt_step {burned : ℕ}
    (h : burnBlockedReceipt ctx sender receipt w = .ok burned w') :
    CallStep ctx w (.burnBlockedReceipt sender receipt) burned w' := by
  obtain ⟨receiver, -, h⟩ := fromExcept_bind_ok.mp h
  obtain ⟨hunclaimed, h⟩ := require_bind_ok.mp h
  replace h := fromExcept_rest h
  obtain ⟨_, w₁, ⟨st, hburn, rfl⟩, h⟩ := step_bind_ok onToken_ok.mp h
  obtain ⟨rfl, rfl⟩ := pure_ok.mp h
  exact .receiptBurned hunclaimed hburn

theorem Call.step {result : ℕ} (h : call.run ctx w = .ok result w') :
    CallStep ctx w call result w' := by
  cases call with
  | operation token op =>
    obtain ⟨_, w₁, ⟨st, hrun, rfl⟩, h⟩ := step_bind_ok onToken_ok.mp h
    obtain ⟨rfl, rfl⟩ := pure_ok.mp h
    exact .operation hrun
  | mint token sender dest amount memo =>
    obtain ⟨_, w₁, hmint, h⟩ := bind_ok.mp h
    obtain ⟨rfl, rfl⟩ := pure_ok.mp h
    exact mint_step hmint
  | transfer | transferFrom =>
    obtain ⟨_, w₁, htransfer, h⟩ := bind_ok.mp h
    obtain ⟨rfl, rfl⟩ := pure_ok.mp h
    exact transferWith_step rfl htransfer
  | systemTransferFrom token caller owner amount =>
    obtain ⟨_, w₁, htransfer, h⟩ := bind_ok.mp h
    obtain ⟨rfl, rfl⟩ := pure_ok.mp h
    replace htransfer := require_rest htransfer
    exact transferWith_step rfl htransfer
  | claim sender dest receipt => exact claim_step h
  | burnBlockedReceipt sender receipt => exact burnBlockedReceipt_step h

/-! ## Runs -/

/-- A successful call that is allowed in its context. -/
def WorldStep (allowed : Context → Call → Prop) (w w' : World) : Prop :=
  ∃ ctx call result, allowed ctx call ∧ call.run ctx w = .ok result w'

/-- Any number of allowed calls; failed calls are reverted. -/
abbrev WorldRun (allowed : Context → Call → Prop) := Relation.ReflTransGen (WorldStep allowed)

/-- Calls on the addresses that tokens have. -/
def OnTokens (_ : Context) (call : Call) : Prop := isTip20 call.tokenAddress = true

instance : DecidablePred (OnTokens ctx) := fun call =>
  inferInstanceAs (Decidable (isTip20 call.tokenAddress = true))

/-- Run calls one after another. -/
def runCalls (ctx : Context) : List Call → WorldM Unit
  | [] => pure ()
  | call :: calls => do
    let _ ← call.run ctx
    runCalls ctx calls

theorem worldRun_of_runCalls {allowed : Context → Call → Prop} {calls : List Call}
    (hallowed : ∀ call ∈ calls, allowed ctx call) (h : runCalls ctx calls w = .ok u w') :
    WorldRun allowed w w' := by
  induction calls generalizing w with
  | nil =>
    obtain ⟨-, rfl⟩ := pure_ok.mp h
    exact .refl
  | cons call calls ih =>
    obtain ⟨result, w₁, hcall, h⟩ := bind_ok.mp h
    have hstep : WorldStep allowed w w₁ :=
      ⟨ctx, call, result, hallowed call (by simp), hcall⟩
    exact .head hstep (ih (fun later hlater => hallowed later (by simp [hlater])) h)

/-! ## A sample -/

/-- A receipt hash without collisions. -/
@[reducible] def ReceiptHash.paired : ReceiptHash where
  receiptKey receipt :=
    Nat.pair receipt.token (Nat.pair receipt.recoveryAuthority (Nat.pair receipt.originator
      (Nat.pair receipt.recipient (Nat.pair receipt.memo (Nat.pair receipt.blockedAt
        (Nat.pair receipt.blockedNonce (Nat.pair receipt.version
          (Nat.pair receipt.blockedReason.ctorIdx receipt.kind.ctorIdx))))))))
  injective := by
    rintro ⟨⟩ ⟨⟩ h
    simp only [Nat.pair_eq_pair] at h
    obtain ⟨htoken, hauthority, horiginator, hrecipient, hmemo, hat, hnonce, hversion, hreason,
      hkind⟩ := h
    rename_i reason kind _ _ _ _ _ _ _ _ reason' kind' _
    have hreason' : reason = reason' := by
      cases reason <;> cases reason' <;> first | rfl | exact nomatch hreason
    have hkind' : kind = kind' := by
      cases kind <;> cases kind' <;> first | rfl | exact nomatch hkind
    simp_all

/-- Everyone has every role, and the receive policies of some accounts refuse every token. -/
def Context.permissive (spec : TempoHardfork) (refuses : Address → Bool) : Context where
  spec := spec
  timestamp := 0
  paused _ := false
  hasRole _ _ _ := true
  authorizedAs _ _ _ := .ok true
  receivePolicies account :=
    ⟨refuses account, fun _ => .ok false, fun _ => .ok true, .receiver, 0⟩
  master _ := none
  authorizeTransfer _ _ _ := .ok ()
  authorizeApprove _ _ _ _ := .ok ()
  refundSpendingLimit _ _ _ := .ok ()
  recoverSigner _ := none

/-- The receipt of the blocked transfer below. -/
def blockedReceipt : ClaimReceipt :=
  ⟨1, pathUsdAddress, 8, 7, 8, 0, 1, .tokenFilter, .transfer, 0⟩

/-- Tokens are minted, a transfer to account eight is blocked, and eight claims it for nine. -/
def blockedSample : List Call :=
  [.operation pathUsdAddress .create, .mint pathUsdAddress 5 7 100 0,
    .transfer pathUsdAddress 7 8 30 0, .claim 8 9 blockedReceipt]

end Monotempo.Tip20
