/-
  TIP-20 tokens as the other precompiles see them.

  Source: `crates/precompiles/src/tip20/mod.rs` (`check_not_paused`,
  `is_transfer_authorized`, `ensure_transfer_authorized`, `ensure_authorized_as`,
  `validate_transfer`, `_transfer`), `tip403_registry/mod.rs`
  (`is_policy_lookup_error`) and `error.rs` (`is_system_error`).

  A precompile call runs in a fixed token environment: which tokens are deployed
  and paused, what each one quotes in, and what the TIP-403 registry answers.
  Everything else a transfer may refuse (spending limits, recipient resolution,
  allowances) is one answer of that environment, `transferGate`.  A transfer that
  is not refused moves exactly the requested amount.
-/
import Monotempo.Chain.Hardfork
import Monotempo.Foundation.Accounts

set_option autoImplicit false

namespace Monotempo.Chain

open Function

variable {token sender recipient : Address} {amount : ℕ}

/-! ## Errors -/

/-- The reverts of `TIP20Error` that the modelled callers can see. -/
inductive TIP20Error where
  | invalidToken
  | invalidCurrency
  | contractPaused
  | policyForbids
  | insufficientBalance
  | invalidRecipient
  | unauthorized
  /-- any other TIP-20 revert, by its selector -/
  | other (selector : ℕ)
  deriving DecidableEq, Repr

/-- `PanicKind`, as far as the precompiles raise it. -/
inductive PanicKind where
  | underOverflow
  | arrayOutOfBounds
  | enumConversionError
  deriving DecidableEq, Repr

/-- What a call into the token layer can fail with. -/
inductive TokenError where
  | tip20 (error : TIP20Error)
  /-- `InvalidPolicyType` or `PolicyNotFound` of the TIP-403 registry -/
  | policyLookup
  /-- a revert of another precompile (keychain, guard, address registry) -/
  | revert (selector : ℕ)
  | panic (kind : PanicKind)
  /-- out of gas, or a fatal database error -/
  | system
  deriving DecidableEq, Repr

/-- `is_system_error` on token-layer errors. -/
def TokenError.isSystemError : TokenError → Bool
  | .tip20 _ => false
  | .policyLookup => false
  | .revert _ => false
  | .panic _ => true
  | .system => true

/-! ## The token environment -/

/-- `AuthRole`: the side of a transfer an account is checked for. -/
inductive AuthRole where
  | sender
  | recipient
  deriving DecidableEq, Repr

/-- The answers of the token layer during one precompile call. -/
structure TokenEnv where
  /-- `TIP20Factory::is_tip20` -/
  deployed : Address → Bool
  /-- `TIP20Token::quote_token` -/
  quoteToken : Address → Address
  /-- the token's currency is `"USD"` -/
  isUsd : Address → Bool
  /-- `TIP20Token::paused` -/
  paused : Address → Bool
  /-- `TIP403Registry::is_authorized_as` under the token's transfer policy -/
  authorizedAs : Address → Address → AuthRole → Except TokenError Bool
  /-- every other check of `validate_transfer`: token, from, to, amount -/
  transferGate : Address → Address → Address → ℕ → Except TokenError Unit

/-- An environment of USD tokens that refuses nothing; every token is quoted in
`quoteToken`. -/
def TokenEnv.permissive (quoteToken : Address) : TokenEnv where
  deployed := fun _ => true
  quoteToken := fun _ => quoteToken
  isUsd := fun _ => true
  paused := fun _ => false
  authorizedAs := fun _ _ _ => .ok true
  transferGate := fun _ _ _ _ => .ok ()

/-- `TIP20Token::from_address`. -/
def fromAddress (token : Address) : Except TokenError Unit :=
  if isTip20 token then .ok () else .error (.tip20 .invalidToken)

/-- `validate_usd_currency`. -/
def validateUsdCurrency (env : TokenEnv) (token : Address) : Except TokenError Unit := do
  fromAddress token
  if env.isUsd token then .ok () else .error (.tip20 .invalidCurrency)

/-- `check_not_paused`. -/
def checkNotPaused (env : TokenEnv) (token : Address) : Except TokenError Unit :=
  if env.paused token then .error (.tip20 .contractPaused) else .ok ()

/-- `is_transfer_authorized`.  From T2 on a failed sender check answers at once. -/
def isTransferAuthorized (spec : TempoHardfork) (env : TokenEnv)
    (token sender recipient : Address) : Except TokenError Bool := do
  let senderAuth ← env.authorizedAs token sender .sender
  if spec.isT2 && !senderAuth then
    .ok false
  else
    let recipientAuth ← env.authorizedAs token recipient .recipient
    .ok (senderAuth && recipientAuth)

/-- `ensure_transfer_authorized`. -/
def ensureTransferAuthorized (spec : TempoHardfork) (env : TokenEnv)
    (token sender recipient : Address) : Except TokenError Unit := do
  let authorized ← isTransferAuthorized spec env token sender recipient
  if authorized then .ok () else .error (.tip20 .policyForbids)

/-- `ensure_authorized_as`. -/
def ensureAuthorizedAs (env : TokenEnv) (token : Address) :
    List (Address × AuthRole) → Except TokenError Unit
  | [] => .ok ()
  | (user, role) :: rest => do
    let authorized ← env.authorizedAs token user role
    if authorized then ensureAuthorizedAs env token rest
    else .error (.tip20 .policyForbids)

/-- `is_policy_lookup_error`. -/
def isPolicyLookupError (spec : TempoHardfork) (error : TokenError) : Bool :=
  if spec.isT2 then error == .policyLookup else error == .panic .underOverflow

/-! ## Balances -/

/-- TIP-20 balances, by token and account. -/
abbrev Ledger := Address → Address → ℕ

/-- Debit one account and credit another. -/
def Ledger.move (ledger : Ledger) (token sender recipient : Address) (amount : ℕ) :
    Ledger :=
  let debited := update (ledger token) sender (ledger token sender - amount)
  update ledger token
    (update debited recipient (debited recipient + amount))

/-- `transfer` and `system_transfer_from`: the checks, then `_transfer`. -/
def transfer (spec : TempoHardfork) (env : TokenEnv) (ledger : Ledger)
    (token sender recipient : Address) (amount : ℕ) : Except TokenError Ledger := do
  checkNotPaused env token
  ensureTransferAuthorized spec env token sender recipient
  env.transferGate token sender recipient amount
  if ledger token sender < amount then .error (.tip20 .insufficientBalance)
  else .ok (ledger.move token sender recipient amount)

variable {ledger : Ledger}

theorem transfer_ok {spec : TempoHardfork} {env : TokenEnv} {ledger' : Ledger}
    (h : transfer spec env ledger token sender recipient amount = .ok ledger') :
    amount ≤ ledger token sender ∧ ledger' = ledger.move token sender recipient amount := by
  unfold transfer at h
  cases hpaused : checkNotPaused env token with
  | error e => simp [hpaused, bind, Except.bind] at h
  | ok _ =>
    cases hauth : ensureTransferAuthorized spec env token sender recipient with
    | error e => simp [hpaused, hauth, bind, Except.bind] at h
    | ok _ =>
      cases hgate : env.transferGate token sender recipient amount with
      | error e => simp [hpaused, hauth, hgate, bind, Except.bind] at h
      | ok _ =>
        simp only [hpaused, hauth, hgate, bind, Except.bind] at h
        split at h
        · simp at h
        · rename_i hfunds
          exact ⟨Nat.le_of_not_lt hfunds, (Except.ok.inj h).symm⟩

theorem Ledger.move_other_token {other account : Address} (h : other ≠ token) :
    ledger.move token sender recipient amount other account = ledger other account := by
  unfold Ledger.move
  rw [update_of_ne h]

theorem Ledger.move_sender (h : sender ≠ recipient) :
    ledger.move token sender recipient amount token sender =
      ledger token sender - amount := by
  unfold Ledger.move
  rw [update_self, update_of_ne h, update_self]

theorem Ledger.move_recipient (h : recipient ≠ sender) :
    ledger.move token sender recipient amount token recipient =
      ledger token recipient + amount := by
  unfold Ledger.move
  rw [update_self, update_self, update_of_ne h]

theorem Ledger.move_self {account : Address} (h : amount ≤ ledger token account) :
    ledger.move token account account amount token account = ledger token account := by
  unfold Ledger.move
  rw [update_self, update_self, update_self]
  omega

/-- Whoever the recipient is, the sender keeps at least the rest. -/
theorem Ledger.le_move_sender (h : amount ≤ ledger token sender) :
    ledger token sender - amount ≤
      ledger.move token sender recipient amount token sender := by
  by_cases hsame : sender = recipient
  · subst hsame
    rw [Ledger.move_self h]
    omega
  · rw [Ledger.move_sender hsame]

end Monotempo.Chain
