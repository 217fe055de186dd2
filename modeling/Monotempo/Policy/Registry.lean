/-
  The registry of transfer policies.

  Source: `crates/precompiles/src/tip403_registry/mod.rs` and `dispatch.rs`,
  `crates/precompiles/src/receive_policy_guard/mod.rs` (`RecoveryMode::encode`) and the system
  precompiles of `crates/contracts/src/precompiles/mod.rs`.

  A policy is a whitelist, a blacklist or a compound of three other policies.  Ids `0` and `1`
  are built in and reject and allow everyone.  An account may set a receive policy, which names
  two policies and keeps their types.  Events and the bindings of tokens to policies are left
  out.
-/
import Monotempo.Tip20.State

set_option autoImplicit false

namespace Monotempo.Policy

open Chain Foundation Function
open Tip20 (RecoveryMode BlockedReason)

/-! ## Storage -/

/-- The errors of the registry. -/
inductive PolicyError where
  | unauthorized
  | policyNotFound
  | policyNotSimple
  | invalidPolicyType
  | incompatiblePolicyType
  | virtualAddressNotAllowed
  | invalidRecoveryAuthority
  | invalidReceivePolicyType
  | underOverflow
  | unknownFunctionSelector
  deriving DecidableEq, Repr

/-- `PolicyType`. -/
inductive PolicyType where
  | whitelist
  | blacklist
  | compound
  | invalid
  deriving DecidableEq, Repr

/-- The discriminant of a policy type. -/
def PolicyType.byte : PolicyType → ℕ
  | .whitelist => 0
  | .blacklist => 1
  | .compound => 2
  | .invalid => 255

/-- `u8` to `PolicyType`; `__Invalid` is not a value of it. -/
def PolicyType.ofByte : ℕ → Option PolicyType
  | 0 => some .whitelist
  | 1 => some .blacklist
  | 2 => some .compound
  | _ => none

/-- `AuthRole`. -/
inductive AuthRole where
  | transfer
  | sender
  | recipient
  | mintRecipient
  deriving DecidableEq, Repr

/-- `PolicyData`. -/
structure PolicyData where
  policyType : ℕ
  admin : Address
  deriving DecidableEq, Repr

/-- `CompoundPolicyData`. -/
structure CompoundPolicyData where
  senderPolicyId : ℕ
  recipientPolicyId : ℕ
  mintRecipientPolicyId : ℕ
  deriving DecidableEq, Repr

/-- `PolicyRecord`. -/
structure PolicyRecord where
  base : PolicyData
  compound : CompoundPolicyData
  deriving DecidableEq, Repr

/-- `ReceivePolicyConfig`. -/
structure ReceivePolicyConfig where
  hasReceivePolicy : Bool
  senderPolicyId : ℕ
  senderPolicyType : ℕ
  tokenFilterId : ℕ
  tokenFilterType : ℕ
  recoveryMode : RecoveryMode
  deriving DecidableEq, Repr

/-- `ReceivePolicy`. -/
structure ReceivePolicy where
  config : ReceivePolicyConfig
  recoveryAddress : Address
  deriving DecidableEq, Repr

/-- `TIP403Registry`. -/
structure Registry where
  counter : ℕ
  policyRecords : ℕ → PolicyRecord
  policySet : ℕ → Address → Bool
  receivePolicies : Address → ReceivePolicy

/-- Empty storage. -/
def Registry.fresh : Registry where
  counter := 0
  policyRecords _ := ⟨⟨0, 0⟩, ⟨0, 0, 0⟩⟩
  policySet _ _ := false
  receivePolicies _ := ⟨⟨false, 0, 0, 0, 0, .originator⟩, 0⟩

abbrev RegistryM := EStateM PolicyError Registry

/-- Write the record of a policy. -/
def Registry.setPolicyRecord (s : Registry) (policyId : ℕ) (record : PolicyRecord) : Registry :=
  { s with policyRecords := update s.policyRecords policyId record }

/-- `set_policy_data`. -/
def Registry.setPolicyData (s : Registry) (policyId : ℕ) (data : PolicyData) : Registry :=
  s.setPolicyRecord policyId { s.policyRecords policyId with base := data }

/-- `set_policy_set`. -/
def Registry.setPolicySet (s : Registry) (policyId : ℕ) (account : Address) (value : Bool) :
    Registry :=
  { s with policySet :=
      update s.policySet policyId (update (s.policySet policyId) account value) }

/-! ## Views -/

namespace PolicyData

/-- `policy_type`. -/
def decode (data : PolicyData) (spec : TempoHardfork) : Except PolicyError PolicyType :=
  let unknown := if spec.isT2 then PolicyError.invalidPolicyType else .underOverflow
  match PolicyType.ofByte data.policyType with
  | some type => if spec.isT2 = true ∨ type ≠ .compound then .ok type else .error unknown
  | none => .error unknown

/-- `is_simple`. -/
def isSimple (data : PolicyData) : Bool :=
  data.policyType == PolicyType.whitelist.byte || data.policyType == PolicyType.blacklist.byte

/-- `is_compound`. -/
def isCompound (data : PolicyData) : Bool := data.policyType == PolicyType.compound.byte

/-- `is_default`. -/
def isDefault (data : PolicyData) : Bool := data.policyType == 0 && data.admin == 0

end PolicyData

/-- `policy_id_counter`. -/
def Registry.policyIdCounter (s : Registry) : ℕ := max s.counter 2

/-- `builtin_authorization`. -/
def builtinAuthorization : ℕ → Option Bool
  | 0 => some false
  | 1 => some true
  | _ => none

section Views

variable (spec : TempoHardfork) (s : Registry)

/-- `policy_exists`. -/
def policyExists (policyId : ℕ) : Bool :=
  (builtinAuthorization policyId).isSome || decide (policyId < s.policyIdCounter)

/-- `get_policy_data`. -/
def getPolicyData (policyId : ℕ) : Except PolicyError PolicyData :=
  let data := (s.policyRecords policyId).base
  if spec.isT2 = true ∧ data.isDefault = true ∧ s.policyIdCounter ≤ policyId then
    .error .policyNotFound
  else .ok data

/-- `is_authorized_simple_inner`. -/
def isAuthorizedSimpleInner (policyId : ℕ) (user : Address) (data : PolicyData) :
    Except PolicyError Bool := do
  let isInSet := s.policySet policyId user
  match ← data.decode spec with
  | .whitelist => .ok isInSet
  | .blacklist => .ok !isInSet
  | .compound => .error .incompatiblePolicyType
  -- `decode` does not return it
  | .invalid => .error .invalidPolicyType

/-- `is_authorized_simple`. -/
def isAuthorizedSimple (policyId : ℕ) (user : Address) (cache : Option PolicyData) :
    Except PolicyError Bool :=
  match builtinAuthorization policyId with
  | some auth => .ok auth
  | none => do
    let data ← match cache with
      | some data => .ok data
      | none => getPolicyData spec s policyId
    isAuthorizedSimpleInner spec s policyId user data

/-- `ALWAYS_AUTHORIZED`. -/
def alwaysAuthorized (user : Address) : Bool := spec.isT6 && user == receivePolicyGuardAddress

/-- `is_authorized_as`. -/
def isAuthorizedAs (policyId : ℕ) (user : Address) (role : AuthRole) :
    Except PolicyError Bool :=
  if alwaysAuthorized spec user then .ok true
  else
    match builtinAuthorization policyId with
    | some auth => .ok auth
    | none => do
      let data ← getPolicyData spec s policyId
      if data.isCompound then
        let compound := (s.policyRecords policyId).compound
        match role with
        | .sender => isAuthorizedSimple spec s compound.senderPolicyId user none
        | .recipient => isAuthorizedSimple spec s compound.recipientPolicyId user none
        | .mintRecipient => isAuthorizedSimple spec s compound.mintRecipientPolicyId user none
        | .transfer => do
          let senderAuth ← isAuthorizedSimple spec s compound.senderPolicyId user none
          if spec.isT2 && !senderAuth then .ok false
          else do
            let recipientAuth ← isAuthorizedSimple spec s compound.recipientPolicyId user none
            .ok (senderAuth && recipientAuth)
      else isAuthorizedSimpleInner spec s policyId user data

/-- `validate_simple_policy`. -/
def validateSimplePolicy (policyId : ℕ) : Except PolicyError Unit :=
  if (builtinAuthorization policyId).isSome then .ok ()
  else if s.policyIdCounter ≤ policyId then .error .policyNotFound
  else do
    let data ← getPolicyData spec s policyId
    if data.isSimple then .ok () else .error .policyNotSimple

/-- `validate_receive_policy_id`. -/
def validateReceivePolicyId (policyId : ℕ) : Except PolicyError ℕ :=
  if (builtinAuthorization policyId).isSome then .ok policyId
  else if s.policyIdCounter ≤ policyId then .error .policyNotFound
  else do
    let data ← getPolicyData spec s policyId
    if data.isSimple then .ok data.policyType else .error .invalidReceivePolicyType

/-- `receive_policy_recovery`. -/
def receivePolicyRecovery (account : Address) : RecoveryMode → Address
  | .originator => 0
  | .receiver => account
  | .thirdParty => (s.receivePolicies account).recoveryAddress

/-- `check_receive_policy`, with what is taken for the data of the two policies. -/
def checkReceivePolicyWith (cache : ℕ → Option PolicyData) (token sender receiver : Address) :
    Except PolicyError (Option (BlockedReason × Address)) :=
  let config := (s.receivePolicies receiver).config
  if !config.hasReceivePolicy then .ok none
  else do
    let tokenAllowed ←
      isAuthorizedSimple spec s config.tokenFilterId token (cache config.tokenFilterType)
    if !tokenAllowed then
      .ok (some (.tokenFilter, receivePolicyRecovery s receiver config.recoveryMode))
    else do
      let senderAllowed ←
        isAuthorizedSimple spec s config.senderPolicyId sender (cache config.senderPolicyType)
      if !senderAllowed then
        .ok (some (.receivePolicy, receivePolicyRecovery s receiver config.recoveryMode))
      else .ok none

/-- `check_receive_policy`: the types of the policies are those of the configuration. -/
def checkReceivePolicy (token sender receiver : Address) :
    Except PolicyError (Option (BlockedReason × Address)) :=
  checkReceivePolicyWith spec s (fun policyType => some ⟨policyType, 0⟩) token sender receiver

/-- The same check with policy data that is read again. -/
def recheckReceivePolicy (token sender receiver : Address) :
    Except PolicyError (Option (BlockedReason × Address)) :=
  checkReceivePolicyWith spec s (fun _ => none) token sender receiver

end Views

/-! ## Calls -/

/-- `SYSTEM_PRECOMPILES`. -/
def systemPrecompiles : List (Address × TempoHardfork) :=
  [(0x403C000000000000000000000000000000000000, .genesis),
   (tipFeeManagerAddress, .genesis),
   (stablecoinDexAddress, .genesis),
   (0x4E4F4E4345000000000000000000000000000000, .genesis),
   (0xAAAAAAAA00000000000000000000000000000000, .genesis),
   (0xCCCCCCCC00000000000000000000000000000000, .genesis),
   (0xCCCCCCCC00000000000000000000000000000001, .genesis),
   (0x20FC000000000000000000000000000000000000, .genesis),
   (0xFDC0000000000000000000000000000000000000, .T3),
   (0x5165300000000000000000000000000000000000, .T3),
   (channelReserveAddress, .T5),
   (receivePolicyGuardAddress, .T6),
   (0x1060000000000000000000000000000000000000, .T7),
   (0xC077E00000000000000000000000000000000000, .T8),
   (0x5AF2000000000000000000000000000000000000, .T10),
   (0x5A56000000000000000000000000000000000000, .T13)]

/-- `is_precompile`. -/
def isPrecompile (spec : TempoHardfork) (address : Address) : Bool :=
  isTip20 address ||
    systemPrecompiles.any fun entry => entry.1 == address && spec.isActive entry.2

/-- `RecoveryMode::encode`. -/
def encodeRecovery (authority msgSender : Address) : RecoveryMode × Address :=
  if authority = 0 then (.originator, 0)
  else if authority = msgSender then (.receiver, 0)
  else (.thirdParty, authority)

/-- `ensure_is_simple`. -/
def PolicyType.ensureIsSimple (spec : TempoHardfork) : PolicyType → Except PolicyError ℕ
  | .whitelist => .ok PolicyType.whitelist.byte
  | .blacklist => .ok PolicyType.blacklist.byte
  | _ => if spec.isT2 then .error .incompatiblePolicyType else .ok PolicyType.invalid.byte

/-- Take the next policy id. -/
def takePolicyId : RegistryM ℕ := do
  let s ← get
  let newPolicyId := s.policyIdCounter
  require (newPolicyId < u64Max) .underOverflow
  modify fun s => { s with counter := newPolicyId + 1 }
  pure newPolicyId

/-- `create_policy`. -/
def createPolicy (spec : TempoHardfork) (admin : Address) (type : PolicyType) : RegistryM ℕ := do
  let policyType ← fromExcept (type.ensureIsSimple spec)
  let newPolicyId ← takePolicyId
  modify fun s => s.setPolicyData newPolicyId ⟨policyType, admin⟩
  pure newPolicyId

/-- The loop over the initial accounts of a policy. -/
def addAccounts (policyId : ℕ) (type : PolicyType) : List Address → RegistryM Unit
  | [] => pure ()
  | account :: accounts => do
    modify fun s => s.setPolicySet policyId account true
    require (type = .whitelist ∨ type = .blacklist) .incompatiblePolicyType
    addAccounts policyId type accounts

/-- `create_policy_with_accounts`. -/
def createPolicyWithAccounts (spec : TempoHardfork) (admin : Address) (type : PolicyType)
    (accounts : List Address) : RegistryM ℕ := do
  let policyType ← fromExcept (type.ensureIsSimple spec)
  require (¬ (spec.isT3 = true ∧ accounts.any isVirtual = true)) .virtualAddressNotAllowed
  let newPolicyId ← takePolicyId
  modify fun s => s.setPolicyData newPolicyId ⟨policyType, admin⟩
  addAccounts newPolicyId type accounts
  pure newPolicyId

/-- `set_policy_admin`. -/
def setPolicyAdmin (spec : TempoHardfork) (msgSender : Address) (policyId : ℕ) (admin : Address) :
    RegistryM Unit := do
  let s ← get
  let data ← fromExcept (getPolicyData spec s policyId)
  require (data.admin = msgSender) .unauthorized
  modify fun s => s.setPolicyData policyId { data with admin := admin }

/-- A change of the accounts of a policy of one type. -/
def modifyPolicySet (required : PolicyType) (spec : TempoHardfork) (msgSender : Address)
    (policyId : ℕ) (account : Address) (value : Bool) : RegistryM Unit := do
  require (¬ (spec.isT3 = true ∧ isVirtual account = true)) .virtualAddressNotAllowed
  let s ← get
  let data ← fromExcept (getPolicyData spec s policyId)
  require (data.admin = msgSender) .unauthorized
  let type ← fromExcept (data.decode spec)
  require (type = required) .incompatiblePolicyType
  modify fun s => s.setPolicySet policyId account value

/-- `modify_policy_whitelist`. -/
def modifyPolicyWhitelist := modifyPolicySet .whitelist

/-- `modify_policy_blacklist`. -/
def modifyPolicyBlacklist := modifyPolicySet .blacklist

/-- `create_compound_policy`. -/
def createCompoundPolicy (spec : TempoHardfork) (compound : CompoundPolicyData) :
    RegistryM ℕ := do
  let s ← get
  fromExcept (validateSimplePolicy spec s compound.senderPolicyId)
  fromExcept (validateSimplePolicy spec s compound.recipientPolicyId)
  fromExcept (validateSimplePolicy spec s compound.mintRecipientPolicyId)
  let newPolicyId ← takePolicyId
  modify fun s => s.setPolicyRecord newPolicyId ⟨⟨PolicyType.compound.byte, 0⟩, compound⟩
  pure newPolicyId

/-- `set_receive_policy`. -/
def setReceivePolicy (spec : TempoHardfork) (msgSender : Address)
    (senderPolicyId tokenFilterId : ℕ) (recoveryAuthority : Address) : RegistryM Unit := do
  require (isVirtual msgSender = false) .virtualAddressNotAllowed
  let (recoveryMode, recoveryWrite) := encodeRecovery recoveryAuthority msgSender
  require (¬ (isPrecompile spec recoveryAuthority = true ∨ isVirtual recoveryAuthority = true))
    .invalidRecoveryAuthority
  let s ← get
  let senderPolicyType ← fromExcept (validateReceivePolicyId spec s senderPolicyId)
  let tokenFilterType ← fromExcept (validateReceivePolicyId spec s tokenFilterId)
  let config : ReceivePolicyConfig :=
    ⟨true, senderPolicyId, senderPolicyType, tokenFilterId, tokenFilterType, recoveryMode⟩
  modify fun s => { s with
    receivePolicies := update s.receivePolicies msgSender ⟨config, recoveryWrite⟩ }

/-- The calls that change the registry. -/
inductive Call where
  | createPolicy (admin : Address) (type : PolicyType)
  | createPolicyWithAccounts (admin : Address) (type : PolicyType) (accounts : List Address)
  | setPolicyAdmin (policyId : ℕ) (admin : Address)
  | modifyPolicyWhitelist (policyId : ℕ) (account : Address) (allowed : Bool)
  | modifyPolicyBlacklist (policyId : ℕ) (account : Address) (restricted : Bool)
  | createCompoundPolicy (compound : CompoundPolicyData)
  | setReceivePolicy (senderPolicyId tokenFilterId : ℕ) (recoveryAuthority : Address)
  deriving DecidableEq, Repr

/-- `TIP403Registry::call`, with the forks that calls are scheduled for. -/
def dispatch (spec : TempoHardfork) (msgSender : Address) : Call → RegistryM Unit
  | .createPolicy admin type => do
    let _ ← createPolicy spec admin type
  | .createPolicyWithAccounts admin type accounts => do
    let _ ← createPolicyWithAccounts spec admin type accounts
  | .setPolicyAdmin policyId admin => setPolicyAdmin spec msgSender policyId admin
  | .modifyPolicyWhitelist policyId account allowed =>
    modifyPolicyWhitelist spec msgSender policyId account allowed
  | .modifyPolicyBlacklist policyId account restricted =>
    modifyPolicyBlacklist spec msgSender policyId account restricted
  | .createCompoundPolicy compound => do
    require (spec.isT2 = true) .unknownFunctionSelector
    let _ ← createCompoundPolicy spec compound
  | .setReceivePolicy senderPolicyId tokenFilterId recoveryAuthority => do
    require (spec.isT6 = true) .unknownFunctionSelector
    setReceivePolicy spec msgSender senderPolicyId tokenFilterId recoveryAuthority

/-- A call as a transaction: an error undoes it. -/
def Registry.transact (s : Registry) (spec : TempoHardfork) (msgSender : Address) (call : Call) :
    Registry :=
  match dispatch spec msgSender call s with
  | .ok _ s' => s'
  | .error _ _ => s

/-- The registry after transactions, each at its own fork and from its own sender. -/
def Registry.run (s : Registry) (txs : List (TempoHardfork × Address × Call)) : Registry :=
  txs.foldl (fun s tx => s.transact tx.1 tx.2.1 tx.2.2) s

end Monotempo.Policy
