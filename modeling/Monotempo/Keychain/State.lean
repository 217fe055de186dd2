/-
  The account keychain.

  Source: `crates/precompiles/src/account_keychain/mod.rs`.

  Keys, spending limits, call scopes and burned witnesses, with the transient
  transaction key and origin.  Rows of an account's key are found under a hash of both.
  Events and the gas charged for duplicate checks are left out.
-/
import Monotempo.Chain.Hardfork
import Monotempo.Foundation.Program
import Monotempo.Foundation.StoredSet

set_option autoImplicit false

namespace Monotempo.Keychain

open Chain Foundation Function

/-! ## Errors -/

/-- `AccountKeychainError`. -/
inductive AccountKeychainError where
  | unauthorizedCaller
  | zeroPublicKey
  | invalidKeyId
  | expiryInPast
  | keyAlreadyExists
  | keyAlreadyRevoked
  | keyNotFound
  | keyExpired
  | invalidSignatureType
  | invalidSpendingLimit
  | invalidCallScope
  | callNotAllowed
  | spendingLimitExceeded
  | keyAuthorizationWitnessAlreadyBurned
  deriving DecidableEq, Repr

/-- What a keychain call fails with. -/
inductive Error where
  | keychain (error : AccountKeychainError)
  /-- the position of a set member does not fit -/
  | underOverflow
  deriving DecidableEq, Repr

/-! ## Rows -/

/-- `StoredSignatureType`. -/
inductive StoredSignatureType where
  | secp256k1
  | p256
  | webAuthn
  deriving DecidableEq, Repr

/-- `SignatureType` of the interface, which may be out of range. -/
inductive SignatureType where
  | secp256k1
  | p256
  | webAuthn
  | invalid
  deriving DecidableEq, Repr

/-- `StoredSignatureType::try_from`. -/
def SignatureType.stored : SignatureType → Except Error StoredSignatureType
  | .secp256k1 => .ok .secp256k1
  | .p256 => .ok .p256
  | .webAuthn => .ok .webAuthn
  | .invalid => .error (.keychain .invalidSignatureType)

/-- `AuthorizedKey`. -/
structure AuthorizedKey where
  signatureType : StoredSignatureType
  expiry : ℕ
  enforceLimits : Bool
  isRevoked : Bool
  isAdmin : Bool
  deriving DecidableEq, Repr

/-- `AuthorizedKey::default`. -/
def AuthorizedKey.default : AuthorizedKey := ⟨.secp256k1, 0, false, false, false⟩

/-- `SpendingLimitState`. -/
structure SpendingLimitState where
  remaining : ℕ
  max : ℕ
  period : ℕ
  periodEnd : ℕ
  deriving DecidableEq, Repr

/-- A function selector, as a number of four bytes. -/
abbrev Selector := ℕ

/-- `SelectorScope`. -/
structure SelectorScope where
  recipients : StoredSet Address

/-- `TargetScope`. -/
structure TargetScope where
  selectors : StoredSet Selector
  selectorScopes : Selector → SelectorScope

/-- `KeyScope`. -/
structure KeyScope where
  isScoped : Bool
  targets : StoredSet Address
  targetScopes : Address → TargetScope

/-- The scope in empty storage. -/
def KeyScope.empty : KeyScope := ⟨false, .empty, fun _ => ⟨.empty, fun _ => ⟨.empty⟩⟩⟩

/-! ## Arguments -/

/-- `SelectorRule`. -/
structure SelectorRule where
  selector : Selector
  recipients : List Address
  deriving DecidableEq, Repr

/-- `CallScope`. -/
structure CallScope where
  target : Address
  selectorRules : List SelectorRule
  deriving DecidableEq, Repr

/-- `TokenLimit`. -/
structure TokenLimit where
  token : Address
  amount : ℕ
  period : ℕ
  deriving DecidableEq, Repr

/-- `KeyRestrictions`. -/
structure KeyRestrictions where
  expiry : ℕ
  enforceLimits : Bool
  limits : List TokenLimit
  allowAnyCalls : Bool
  allowedCalls : List CallScope
  deriving DecidableEq, Repr

/-! ## The state -/

/-- `AccountKeychain`. -/
structure KeychainState where
  keys : Address → Address → AuthorizedKey
  spendingLimits : B256 → Address → SpendingLimitState
  keyScopes : B256 → KeyScope
  keyAuthorizationWitnesses : Address → B256 → Bool
  transactionKey : Address
  txOrigin : Address

/-- Empty storage, in a transaction signed by the root key of its origin. -/
def KeychainState.fresh (txOrigin : Address) : KeychainState where
  keys _ _ := .default
  spendingLimits _ _ := ⟨0, 0, 0, 0⟩
  keyScopes _ := .empty
  keyAuthorizationWitnesses _ _ := false
  transactionKey := 0
  txOrigin := txOrigin

/-- `spending_limit_key`: the hash of an account and a key. -/
class KeyHash where
  spendingLimitKey : Address → Address → B256

export KeyHash (spendingLimitKey)

/-- A collision-free hash: the two addresses side by side. -/
@[reducible] def KeyHash.concat : KeyHash := ⟨fun account keyId => account * 2 ^ 160 + keyId⟩

/-- What a call runs under. -/
structure Context where
  spec : TempoHardfork
  /-- `storage.timestamp()` -/
  timestamp : ℕ
  /-- `TIP20Factory::is_tip20`, asked below T4 only -/
  deployed : Address → Bool

/-- The timestamp as a `u64`. -/
def Context.now (ctx : Context) : ℕ := min ctx.timestamp u64Max

abbrev KeychainM := EStateM Error KeychainState

/-- `ZERO_PERIODIC_REMAINING_SENTINEL`. -/
def zeroPeriodicRemainingSentinel : ℕ := u256Max

/-! ## Access -/

/-- `load_active_key`. -/
def loadActiveKey (s : KeychainState) (account keyId : Address) (now : ℕ) :
    Except Error AuthorizedKey :=
  let key := s.keys account keyId
  if key.isRevoked then .error (.keychain .keyAlreadyRevoked)
  else if key.expiry = 0 then .error (.keychain .keyNotFound)
  else if key.expiry ≤ now then .error (.keychain .keyExpired)
  else .ok key

/-- `is_admin_key`: the root key, or an active admin key. -/
def isAdminKey (s : KeychainState) (account keyId : Address) (now : ℕ) : Bool :=
  if keyId = account then true
  else match loadActiveKey s account keyId now with
    | .ok key => key.isAdmin
    | .error _ => false

/-- `is_active_key`. -/
def isActiveKey (s : KeychainState) (account keyId : Address) (now : ℕ) : Bool :=
  match loadActiveKey s account keyId now with
  | .ok _ => true
  | .error _ => false

/-- `ensure_admin_caller`. -/
def ensureAdminCaller (ctx : Context) (sender : Address) : KeychainM Unit := do
  let s ← get
  require (¬ (s.transactionKey ≠ 0 ∧
    (!ctx.spec.isT6 || !isAdminKey s sender s.transactionKey ctx.now)))
    (.keychain .unauthorizedCaller)
  require (¬ (ctx.spec.isT2 = true ∧ (s.txOrigin = 0 ∨ s.txOrigin ≠ sender)))
    (.keychain .unauthorizedCaller)

/-- `t3_spending_limit_cap`. -/
def t3SpendingLimitCap (limit : ℕ) : Except Error ℕ :=
  if u128Max < limit then .error (.keychain .invalidSpendingLimit) else .ok limit

/-- Set the row of a key. -/
def KeychainState.setKey (s : KeychainState) (account keyId : Address) (key : AuthorizedKey) :
    KeychainState :=
  { s with keys := update s.keys account (update (s.keys account) keyId key) }

/-- Set a spending limit. -/
def KeychainState.setLimit (s : KeychainState) (limitKey : B256) (token : Address)
    (limit : SpendingLimitState) : KeychainState :=
  { s with
    spendingLimits := update s.spendingLimits limitKey
      (update (s.spendingLimits limitKey) token limit) }

/-- Set the scope of a key. -/
def KeychainState.setScope (s : KeychainState) (accountKey : B256) (scope : KeyScope) :
    KeychainState :=
  { s with keyScopes := update s.keyScopes accountKey scope }

/-! ## Call scopes -/

/-- `is_constrained_tip20_selector`: `transfer`, `approve` and `transferWithMemo`. -/
def isConstrainedTip20Selector (selector : Selector) : Bool :=
  selector == 0xa9059cbb || selector == 0x095ea7b3 || selector == 0x95777d59

/-- The closure `is_tip20` of `validate_selector_rules`: below T4 the token also has to be
deployed. -/
def isTip20Target (ctx : Context) (target : Address) : Bool :=
  if ctx.spec.isT4 then isTip20 target else isTip20 target && ctx.deployed target

/-- The loop of `validate_selector_rules`, with the selectors seen so far. -/
def validateRules (ctx : Context) (target : Address) :
    List Selector → List SelectorRule → Except Error Unit
  | _, [] => .ok ()
  | seen, rule :: rest =>
    if !ctx.spec.isT11 && decide (rule.selector ∈ seen) then
      .error (.keychain .invalidCallScope)
    else if rule.recipients = [] then validateRules ctx target (rule.selector :: seen) rest
    else if !isConstrainedTip20Selector rule.selector || !isTip20Target ctx target then
      .error (.keychain .invalidCallScope)
    else if 0 ∈ rule.recipients ∨ ¬ rule.recipients.Nodup then
      .error (.keychain .invalidCallScope)
    else validateRules ctx target (rule.selector :: seen) rest

/-- `validate_selector_rules`. -/
def validateSelectorRules (ctx : Context) (target : Address) (rules : List SelectorRule) :
    Except Error Unit :=
  if ctx.spec.isT11 && !decide (rules.map SelectorRule.selector).Nodup then
    .error (.keychain .invalidCallScope)
  else validateRules ctx target [] rules

/-- `validate_call_scope`. -/
def validateCallScope (ctx : Context) (scope : CallScope) : Except Error Unit :=
  if scope.target = 0 then .error (.keychain .invalidCallScope)
  else if scope.selectorRules = [] then .ok ()
  else validateSelectorRules ctx scope.target scope.selectorRules

/-- The loop of `validate_call_scopes` below T11, with the targets seen so far. -/
def validateScopes (ctx : Context) : List Address → List CallScope → Except Error Unit
  | _, [] => .ok ()
  | seen, scope :: rest =>
    if scope.target ∈ seen then .error (.keychain .invalidCallScope)
    else do
      (if ctx.spec.isT4 then validateCallScope ctx scope else .ok () : Except Error Unit)
      validateScopes ctx (scope.target :: seen) rest

/-- `validate_call_scopes`. -/
def validateCallScopes (ctx : Context) (scopes : List CallScope) : Except Error Unit :=
  if ctx.spec.isT11 then
    if ¬ (scopes.map CallScope.target).Nodup then .error (.keychain .invalidCallScope)
    else scopes.forM (validateCallScope ctx)
  else validateScopes ctx [] scopes

/-- An operation on a stored set whose positions may overflow. -/
def liftSet {α : Type} (set : Option (StoredSet α)) : Except Error (StoredSet α) :=
  match set with
  | some set => .ok set
  | none => .error .underOverflow

/-- `clear_target_selectors`, on the scope of the target. -/
def TargetScope.clear (scope : TargetScope) : TargetScope where
  selectors := scope.selectors.delete
  selectorScopes := scope.selectors.values.foldl
    (fun scopes selector =>
      update scopes selector ⟨(scopes selector).recipients.delete⟩)
    scope.selectorScopes

/-- The recipients that `upsert_target_scope` stores for a selector.  An empty list is
deleted below T4 only. -/
def SelectorScope.store (ctx : Context) (scope : SelectorScope) (recipients : List Address) :
    Except Error SelectorScope :=
  if recipients = [] then .ok (if ctx.spec.isT4 then scope else ⟨scope.recipients.delete⟩)
  else do
    let stored ← liftSet (scope.recipients.write recipients)
    .ok ⟨stored⟩

/-- The loop of `upsert_target_scope` over the rules. -/
def TargetScope.insertRules (ctx : Context) :
    List SelectorRule → TargetScope → Except Error TargetScope
  | [], scope => .ok scope
  | rule :: rest, scope => do
    let selectors ← liftSet (scope.selectors.insert rule.selector)
    let stored ← (scope.selectorScopes rule.selector).store ctx rule.recipients
    TargetScope.insertRules ctx rest
      ⟨selectors, update scope.selectorScopes rule.selector stored⟩

/-- Set the scope of a target. -/
def KeyScope.setTarget (row : KeyScope) (target : Address) (scope : TargetScope) : KeyScope :=
  { row with targetScopes := update row.targetScopes target scope }

/-- `upsert_target_scope`. -/
def KeyScope.upsert (ctx : Context) (row : KeyScope) (scope : CallScope) :
    Except Error KeyScope := do
  (if ctx.spec.isT4 then .ok () else validateCallScope ctx scope : Except Error Unit)
  let targets ← liftSet (row.targets.insert scope.target)
  let cleared := (row.targetScopes scope.target).clear
  let updated ← TargetScope.insertRules ctx scope.selectorRules cleared
  .ok { row.setTarget scope.target updated with targets := targets }

/-- The loop over the call scopes. -/
def KeyScope.upsertAll (ctx : Context) : List CallScope → KeyScope → Except Error KeyScope
  | [], row => .ok row
  | scope :: rest, row => do
    let row ← row.upsert ctx scope
    KeyScope.upsertAll ctx rest row

/-- `clear_all_target_scopes`. -/
def KeyScope.clearAll (row : KeyScope) : KeyScope where
  isScoped := row.isScoped
  targets := row.targets.delete
  targetScopes := row.targets.values.foldl
    (fun scopes target => update scopes target (scopes target).clear) row.targetScopes

/-- `remove_target_scope`. -/
def KeyScope.removeTarget (row : KeyScope) (target : Address) : KeyScope :=
  let removed := row.targets.remove target
  if removed.1 then
    { row.setTarget target (row.targetScopes target).clear with targets := removed.2 }
  else { row with targets := removed.2 }

/-- `replace_allowed_calls`. -/
def KeyScope.replace (ctx : Context) (row : KeyScope) (allowedCalls : Option (List CallScope)) :
    Except Error KeyScope :=
  match allowedCalls with
  | none => .ok { row.clearAll with isScoped := false }
  | some scopes => do
    (if scopes = [] then .ok () else validateCallScopes ctx scopes : Except Error Unit)
    KeyScope.upsertAll ctx scopes { row.clearAll with isScoped := true }

/-- The destination of a transaction. -/
inductive TxKind where
  | create
  | call (target : Address)
  deriving DecidableEq, Repr

/-- Bytes as a big-endian number. -/
def fromBigEndian (bytes : List UInt8) : ℕ :=
  bytes.foldl (fun value byte => value * 256 + byte.toNat) 0

/-- `validate_call_scope_for_transaction`, on the scope of the key. -/
def KeyScope.validateCall (row : KeyScope) (kind : TxKind) (input : List UInt8) :
    Except Error Unit :=
  match kind with
  | .create => .error (.keychain .callNotAllowed)
  | .call target =>
    if !row.isScoped then .ok ()
    else if !row.targets.contains target then .error (.keychain .callNotAllowed)
    else
      let scope := row.targetScopes target
      if scope.selectors.values = [] then .ok ()
      else if input.length < 4 then .error (.keychain .callNotAllowed)
      else
        let selector := fromBigEndian (input.take 4)
        if !scope.selectors.contains selector then .error (.keychain .callNotAllowed)
        else
          let recipients := (scope.selectorScopes selector).recipients
          if recipients.values = [] then .ok ()
          else if input.length < 36 then .error (.keychain .callNotAllowed)
          else
            let word := (input.drop 4).take 32
            if (word.take 12).any (· != 0) then .error (.keychain .callNotAllowed)
            else if recipients.contains (fromBigEndian (word.drop 12)) then .ok ()
            else .error (.keychain .callNotAllowed)

/-! ## Calls -/

section Calls

variable [KeyHash]

/-- One round of the limits loop of `apply_key_authorization_restrictions`. -/
def writeLimit (ctx : Context) (limitKey : B256) (limit : TokenLimit) : KeychainM Unit :=
  if ctx.spec.isT3 then do
    let periodEnd := if limit.period = 0 then 0 else min (ctx.now + limit.period) u64Max
    let max ← fromExcept (t3SpendingLimitCap limit.amount)
    modify fun s => s.setLimit limitKey limit.token ⟨limit.amount, max, limit.period, periodEnd⟩
  else
    modify fun s => s.setLimit limitKey limit.token
      { s.spendingLimits limitKey limit.token with remaining := limit.amount }

/-- The limits loop of `apply_key_authorization_restrictions`. -/
def writeLimits (ctx : Context) (limitKey : B256) : List TokenLimit → KeychainM Unit
  | [] => pure ()
  | limit :: rest => do
    writeLimit ctx limitKey limit
    writeLimits ctx limitKey rest

/-- `replace_allowed_calls`. -/
def replaceAllowedCalls (ctx : Context) (accountKey : B256)
    (allowedCalls : Option (List CallScope)) : KeychainM Unit := do
  let s ← get
  let row ← fromExcept ((s.keyScopes accountKey).replace ctx allowedCalls)
  modify fun s => s.setScope accountKey row

/-- `apply_key_authorization_restrictions`. -/
def applyKeyAuthorizationRestrictions (ctx : Context) (account keyId : Address)
    (limits : List TokenLimit) (allowedCalls : Option (List CallScope)) : KeychainM Unit := do
  writeLimits ctx (spendingLimitKey account keyId) limits
  onlyIf ctx.spec.isT3 (replaceAllowedCalls ctx (spendingLimitKey account keyId) allowedCalls)

/-- The checks of `authorize_key_internal` on limits and scopes, with the scopes to store. -/
def allowedCallConfigs (ctx : Context) (config : KeyRestrictions) :
    Except Error (Option (List CallScope)) :=
  if ctx.spec.isT3 then
    if config.enforceLimits = true ∧ ¬ (config.limits.map TokenLimit.token).Nodup then
      .error (.keychain .invalidSpendingLimit)
    else if config.allowAnyCalls then
      if ctx.spec.isT5 = true ∧ config.allowedCalls ≠ [] then .error (.keychain .invalidCallScope)
      else .ok none
    else .ok (some config.allowedCalls)
  else if config.limits.any (fun limit => limit.period != 0) then
    .error (.keychain .invalidSpendingLimit)
  else if config.allowAnyCalls = false ∨ config.allowedCalls ≠ [] then
    .error (.keychain .invalidCallScope)
  else .ok none

/-- `ensure_key_authorization_witness_not_burned`. -/
def ensureWitnessNotBurned (account : Address) (witness : B256) : KeychainM Unit := do
  let s ← get
  require (s.keyAuthorizationWitnesses account witness = false)
    (.keychain .keyAuthorizationWitnessAlreadyBurned)

/-- The check of an optional witness. -/
def checkWitness (account : Address) : Option B256 → KeychainM Unit
  | none => pure ()
  | some witness => ensureWitnessNotBurned account witness

/-- `authorize_key_internal`. -/
def authorizeKeyInternal (ctx : Context) (sender keyId : Address) (signatureType : SignatureType)
    (config : KeyRestrictions) (witness : Option B256) (isAdmin : Bool) : KeychainM Unit := do
  ensureAdminCaller ctx sender
  require (keyId ≠ 0) (.keychain .zeroPublicKey)
  require (¬ (isAdmin = true ∧ keyId = sender)) (.keychain .invalidKeyId)
  require (ctx.spec.isT0 = true → ctx.now < config.expiry) (.keychain .expiryInPast)
  let s ← get
  require ((s.keys sender keyId).expiry = 0) (.keychain .keyAlreadyExists)
  require ((s.keys sender keyId).isRevoked = false) (.keychain .keyAlreadyRevoked)
  let stored ← fromExcept signatureType.stored
  let allowedCalls ← fromExcept (allowedCallConfigs ctx config)
  checkWitness sender witness
  modify fun s => s.setKey sender keyId
    ⟨stored, config.expiry, config.enforceLimits, false, isAdmin⟩
  onlyIf (isAdmin = false) (applyKeyAuthorizationRestrictions ctx sender keyId
    (if config.enforceLimits then config.limits else []) allowedCalls)

/-- `authorize_key`. -/
def authorizeKey (ctx : Context) (sender keyId : Address) (signatureType : SignatureType)
    (config : KeyRestrictions) (witness : Option B256) : KeychainM Unit :=
  authorizeKeyInternal ctx sender keyId signatureType config witness false

/-- `authorize_admin_key`. -/
def authorizeAdminKey (ctx : Context) (sender keyId : Address) (signatureType : SignatureType)
    (witness : Option B256) : KeychainM Unit :=
  authorizeKeyInternal ctx sender keyId signatureType ⟨u64Max, false, [], true, []⟩ witness true

/-- `burn_key_authorization_witness`. -/
def burnKeyAuthorizationWitness (ctx : Context) (sender : Address) (witness : B256) :
    KeychainM Unit := do
  ensureAdminCaller ctx sender
  ensureWitnessNotBurned sender witness
  modify fun s =>
    { s with
      keyAuthorizationWitnesses := update s.keyAuthorizationWitnesses sender
        (update (s.keyAuthorizationWitnesses sender) witness true) }

/-- `revoke_key`. -/
def revokeKey (ctx : Context) (sender keyId : Address) : KeychainM Unit := do
  ensureAdminCaller ctx sender
  let s ← get
  require ((s.keys sender keyId).expiry ≠ 0) (.keychain .keyNotFound)
  modify fun s => s.setKey sender keyId { AuthorizedKey.default with isRevoked := true }

/-- An active key that is not an admin key. -/
def loadRestrictedKey (ctx : Context) (sender keyId : Address) : KeychainM AuthorizedKey := do
  let s ← get
  let key ← fromExcept (loadActiveKey s sender keyId ctx.now)
  require (key.isAdmin = false) (.keychain .invalidKeyId)
  pure key

/-- `update_spending_limit`. -/
def updateSpendingLimit (ctx : Context) (sender keyId token : Address) (newLimit : ℕ) :
    KeychainM Unit := do
  ensureAdminCaller ctx sender
  let key ← loadRestrictedKey ctx sender keyId
  onlyIf (key.enforceLimits = false)
    (modify fun s => s.setKey sender keyId { key with enforceLimits := true })
  let limitKey := spendingLimitKey sender keyId
  let s ← get
  let limit := s.spendingLimits limitKey token
  if ctx.spec.isT3 then do
    let max ← fromExcept (t3SpendingLimitCap newLimit)
    modify fun s => s.setLimit limitKey token { limit with remaining := newLimit, max := max }
  else modify fun s => s.setLimit limitKey token { limit with remaining := newLimit }

/-- `set_allowed_calls`. -/
def setAllowedCalls (ctx : Context) (sender keyId : Address) (scopes : List CallScope) :
    KeychainM Unit := do
  require ctx.spec.isT3 (.keychain .invalidCallScope)
  ensureAdminCaller ctx sender
  let _ ← loadRestrictedKey ctx sender keyId
  require (scopes ≠ []) (.keychain .invalidCallScope)
  fromExcept (validateCallScopes ctx scopes)
  let accountKey := spendingLimitKey sender keyId
  let s ← get
  let row ← fromExcept (KeyScope.upsertAll ctx scopes (s.keyScopes accountKey))
  modify fun s => s.setScope accountKey { row with isScoped := true }

/-- `remove_allowed_calls`. -/
def removeAllowedCalls (ctx : Context) (sender keyId target : Address) : KeychainM Unit := do
  ensureAdminCaller ctx sender
  let _ ← loadRestrictedKey ctx sender keyId
  let accountKey := spendingLimitKey sender keyId
  let s ← get
  onlyIf (s.keyScopes accountKey).isScoped
    (modify fun s => s.setScope accountKey ((s.keyScopes accountKey).removeTarget target))

/-- `validate_call_scope_for_transaction`. -/
def validateCallScopeForTransaction (ctx : Context) (s : KeychainState) (account keyId : Address)
    (kind : TxKind) (input : List UInt8) : Except Error Unit :=
  if keyId = 0 ∨ ctx.spec.isT3 = false then .ok ()
  else (s.keyScopes (spendingLimitKey account keyId)).validateCall kind input

/-- `getAllowedCallsReturn`. -/
structure AllowedCalls where
  isScoped : Bool
  scopes : List CallScope
  deriving DecidableEq, Repr

/-- The scopes that `get_allowed_calls` reads back. -/
def KeyScope.read (row : KeyScope) : List CallScope :=
  row.targets.values.map fun target =>
    ⟨target, (row.targetScopes target).selectors.values.map fun selector =>
      ⟨selector, ((row.targetScopes target).selectorScopes selector).recipients.values⟩⟩

/-- `get_allowed_calls`. -/
def getAllowedCalls (ctx : Context) (s : KeychainState) (account keyId : Address) :
    AllowedCalls :=
  if keyId = 0 then ⟨false, []⟩
  else
    let key := s.keys account keyId
    if key.expiry = 0 ∨ key.isRevoked = true ∨ key.expiry ≤ ctx.now then ⟨true, []⟩
    else
      let row := s.keyScopes (spendingLimitKey account keyId)
      if !row.isScoped then ⟨false, []⟩ else ⟨true, row.read⟩

/-! ## Spending -/

/-- `compute_next_period_end`. -/
def SpendingLimitState.computeNextPeriodEnd (limit : SpendingLimitState) (now : ℕ) : ℕ :=
  let elapsed := now - limit.periodEnd
  let periodsElapsed := min (elapsed / limit.period + 1) u64Max
  let advance := min (limit.period * periodsElapsed) u64Max
  min (limit.periodEnd + advance) u64Max

/-- The stored remaining amount of a periodic limit, with the sentinel read as zero. -/
def SpendingLimitState.decoded (spec : TempoHardfork) (limit : SpendingLimitState) : ℕ :=
  if spec.isT7 = true ∧ limit.period ≠ 0 ∧ limit.remaining = zeroPeriodicRemainingSentinel then 0
  else limit.remaining

/-- Whether a spend starts a new period. -/
def SpendingLimitState.rollsOver (limit : SpendingLimitState) (now : ℕ) : Bool :=
  limit.period != 0 && decide (limit.periodEnd ≤ now)

/-- The limit after the lazy rollover of `verify_and_update_spending`. -/
def SpendingLimitState.rolled (limit : SpendingLimitState) (now : ℕ) : SpendingLimitState :=
  if limit.rollsOver now then
    { limit with remaining := limit.max, periodEnd := limit.computeNextPeriodEnd now }
  else limit

/-- `verify_and_update_spending` from T3 on, on the row: `none` if the limit is exceeded. -/
def SpendingLimitState.spend (spec : TempoHardfork) (limit : SpendingLimitState) (now amount : ℕ) :
    Option SpendingLimitState :=
  let remaining := if limit.rollsOver now then limit.max else limit.decoded spec
  if remaining < amount then none
  else
    let newRemaining := remaining - amount
    some { limit.rolled now with
      remaining :=
        if limit.period ≠ 0 ∧ spec.isT7 = true ∧ newRemaining = 0 then
          zeroPeriodicRemainingSentinel
        else newRemaining }

/-- `verify_and_update_spending`. -/
def verifyAndUpdateSpending (ctx : Context) (account keyId token : Address) (amount : ℕ) :
    KeychainM Unit :=
  onlyIf (keyId ≠ 0) do
    let s ← get
    let key ← fromExcept (loadActiveKey s account keyId ctx.now)
    onlyIf key.enforceLimits do
      let limitKey := spendingLimitKey account keyId
      let limit := s.spendingLimits limitKey token
      if !ctx.spec.isT3 then do
        require (amount ≤ limit.remaining) (.keychain .spendingLimitExceeded)
        modify fun s =>
          s.setLimit limitKey token { limit with remaining := limit.remaining - amount }
      else do
        let updated ← okOr (limit.spend ctx.spec ctx.now amount)
          (.keychain .spendingLimitExceeded)
        modify fun s => s.setLimit limitKey token updated

/-- `refund_spending_limit` from T3 on, on the row. -/
def SpendingLimitState.refund (spec : TempoHardfork) (limit : SpendingLimitState) (amount : ℕ) :
    SpendingLimitState :=
  let refunded := min (limit.decoded spec + amount) u256Max
  { limit with remaining := if limit.max = 0 then refunded else min refunded limit.max }

/-- Whether the transaction was signed by an access key of the account. -/
def KeychainState.spendsWithKey (s : KeychainState) (account : Address) : Prop :=
  s.transactionKey ≠ 0 ∧ account = s.txOrigin

instance (s : KeychainState) (account : Address) : Decidable (s.spendsWithKey account) :=
  inferInstanceAs (Decidable (_ ∧ _))

/-- `refund_spending_limit`.  Nothing is restored to an inactive key. -/
def refundSpendingLimit (ctx : Context) (account token : Address) (amount : ℕ) :
    KeychainM Unit := do
  let s ← get
  onlyIf (s.spendsWithKey account) do
    match loadActiveKey s account s.transactionKey ctx.now with
    | .error _ => pure ()
    | .ok key =>
      onlyIf key.enforceLimits do
        let limitKey := spendingLimitKey account s.transactionKey
        let limit := s.spendingLimits limitKey token
        modify fun s => s.setLimit limitKey token
          (if ctx.spec.isT3 then limit.refund ctx.spec amount
          else { limit with remaining := min (limit.remaining + amount) u256Max })

/-- `authorize_transfer`. -/
def authorizeTransfer (ctx : Context) (account token : Address) (amount : ℕ) :
    KeychainM Unit := do
  let s ← get
  onlyIf (s.spendsWithKey account)
    (verifyAndUpdateSpending ctx account s.transactionKey token amount)

/-- `authorize_approve`: only an increase is charged. -/
def authorizeApprove (ctx : Context) (account token : Address) (oldApproval newApproval : ℕ) :
    KeychainM Unit := do
  let s ← get
  onlyIf (s.spendsWithKey account ∧ newApproval - oldApproval ≠ 0)
    (verifyAndUpdateSpending ctx account s.transactionKey token (newApproval - oldApproval))

end Calls

end Monotempo.Keychain
