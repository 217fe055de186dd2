/-
  TIP-20 transfers with virtual recipients and receive
  policies.

  Source: `crates/precompiles/src/tip20/mod.rs` (`Recipient`, `validate_transfer`,
  `validate_inbound_or_block`, `ensure_receive_policy_authorized`,
  `channel_reserve_transfer`) and `address_registry/mod.rs` (`resolve_recipient`).

  A transfer is refused, delivered to the resolved recipient, or, from T6 on,
  diverted to the receive-policy guard when the recipient's receive policy rejects
  it.  Channel custody is never diverted: it is refused instead.
-/
import Monotempo.Chain.Token
import Monotempo.Foundation.Program

set_option autoImplicit false

namespace Monotempo.Chain

open Foundation

/-- The answers of the other precompiles that a delivery asks for. -/
structure DeliveryEnv extends TokenEnv where
  /-- `AddressRegistry::get_master`; zero if the id is not registered -/
  master : ℕ → Address
  /-- `check_receive_policy` of token, sender and receiver: whether it blocks -/
  receivePolicyBlocks : Address → Address → Address → Except TokenError Bool
  /-- `AccountKeychain::authorize_transfer` of token, account and amount -/
  spendingLimit : Address → Address → ℕ → Except TokenError Unit

/-- An environment that refuses nothing and blocks nothing. -/
def DeliveryEnv.permissive (quoteToken : Address) : DeliveryEnv where
  toTokenEnv := .permissive quoteToken
  master := fun _ => 0
  receivePolicyBlocks := fun _ _ _ => .ok false
  spendingLimit := fun _ _ _ => .ok ()

/-- `VirtualAddressUnregistered` of the address registry. -/
def virtualAddressUnregistered : TokenError := .revert 0

/-- `AddressReserved` of the receive-policy guard. -/
def addressReserved : TokenError := .revert 1

section Deliveries

variable (spec : TempoHardfork) (env : DeliveryEnv)

/-- `resolve_recipient`: virtual addresses stand for their master from T3 on. -/
def resolveRecipient (address : Address) : Except TokenError Address :=
  if !spec.isT3 then .ok address
  else if !isVirtual address then .ok address
  else if env.master (masterId address) = 0 then .error virtualAddressUnregistered
  else .ok (env.master (masterId address))

/-- `Recipient::validate`. -/
def validateRecipient (target : Address) : Except TokenError Unit :=
  if target = 0 ∨ isTip20 target then .error (.tip20 .invalidRecipient) else .ok ()

/-- `ensure_receive_policy_authorized`. -/
def ensureReceivePolicyAuthorized (token sender receiver : Address) :
    Except TokenError Unit := do
  let blocked ← env.receivePolicyBlocks token sender receiver
  if blocked then .error (.tip20 .policyForbids) else .ok ()

/-- `validate_inbound_or_block`: the account that is credited. -/
def inboundTarget (token originator target : Address) : Except TokenError Address :=
  if !spec.isT6 then .ok target
  else if target = receivePolicyGuardAddress then .error addressReserved
  else do
    let blocked ← env.receivePolicyBlocks token originator target
    .ok (if blocked then receivePolicyGuardAddress else target)

/-- `_transfer` on the balances. -/
def debitAndCredit (ledger : Ledger) (token sender target : Address) (amount : ℕ) :
    Except TokenError Ledger :=
  if ledger token sender < amount then .error (.tip20 .insufficientBalance)
  else .ok (ledger.move token sender target amount)

/-- `TIP20Token::transfer` and, towards its caller, `system_transfer_from`. -/
def deliver (ledger : Ledger) (token sender recipient : Address) (amount : ℕ) :
    Except TokenError Ledger := do
  let target ← resolveRecipient spec env recipient
  checkNotPaused env.toTokenEnv token
  validateRecipient target
  ensureTransferAuthorized spec env.toTokenEnv token sender target
  env.spendingLimit token sender amount
  let credited ← inboundTarget spec env token sender target
  debitAndCredit ledger token sender credited amount

/-- `channel_reserve_transfer`, to a recipient resolved as `target`. -/
def channelReserveTransfer (ledger : Ledger) (token sender recipient target : Address)
    (amount : ℕ) (receivePolicySender : Address) : Except TokenError Ledger := do
  if sender ≠ channelReserveAddress ∧ recipient ≠ channelReserveAddress then
    .error (.tip20 .unauthorized)
  else do
    checkNotPaused env.toTokenEnv token
    validateRecipient target
    env.spendingLimit token sender amount
    if target = receivePolicyGuardAddress then .error addressReserved
    else do
      ensureReceivePolicyAuthorized env token receivePolicySender target
      debitAndCredit ledger token sender target amount

end Deliveries

/-! ## What a delivery does -/

section Delivered

variable {spec : TempoHardfork} {env : DeliveryEnv} {ledger ledger' : Ledger}
  {token sender recipient target : Address} {amount : ℕ}

theorem debitAndCredit_ok :
    debitAndCredit ledger token sender target amount = .ok ledger' ↔
      amount ≤ ledger token sender ∧ ledger' = ledger.move token sender target amount := by
  unfold debitAndCredit
  split
  · simp only [reduceCtorEq, false_iff]
    omega
  · rename_i hfunds
    simp only [Except.ok.injEq]
    constructor
    · rintro rfl
      exact ⟨Nat.le_of_not_lt hfunds, rfl⟩
    · rintro ⟨_, rfl⟩
      rfl

theorem deliver_ok (h : deliver spec env ledger token sender recipient amount = .ok ledger') :
    ∃ target credited, resolveRecipient spec env recipient = .ok target ∧
      inboundTarget spec env token sender target = .ok credited ∧
      amount ≤ ledger token sender ∧
      ledger' = ledger.move token sender credited amount := by
  unfold deliver at h
  simp only [except_bind_ok, debitAndCredit_ok] at h
  obtain ⟨target, hresolve, _, _, _, _, _, _, _, _, credited, htarget, hfunds, hledger⟩ := h
  exact ⟨target, credited, hresolve, htarget, hfunds, hledger⟩

theorem channelReserveTransfer_ok {receivePolicySender : Address}
    (h : channelReserveTransfer env ledger token sender recipient target amount
      receivePolicySender = .ok ledger') :
    amount ≤ ledger token sender ∧ ledger' = ledger.move token sender target amount := by
  unfold channelReserveTransfer at h
  split at h
  · exact nomatch h
  · simp only [except_bind_ok] at h
    obtain ⟨_, _, _, _, _, _, h⟩ := h
    split at h
    · exact nomatch h
    · simp only [except_bind_ok, debitAndCredit_ok] at h
      obtain ⟨_, _, hmoved⟩ := h
      exact hmoved

/-- An address that is not virtual stands for itself. -/
theorem resolveRecipient_self (h : isVirtual recipient = false) :
    resolveRecipient spec env recipient = .ok recipient := by
  unfold resolveRecipient
  split
  · rfl
  · simp [h]

/-- A recipient without a receive policy that blocks is credited itself. -/
theorem inboundTarget_eq {credited : Address}
    (hopen : env.receivePolicyBlocks token sender target = .ok false)
    (h : inboundTarget spec env token sender target = .ok credited) : credited = target := by
  unfold inboundTarget at h
  split at h
  · exact (Except.ok.inj h).symm
  · split at h
    · exact nomatch h
    · rw [hopen] at h
      exact (Except.ok.inj h).symm

end Delivered

end Monotempo.Chain
