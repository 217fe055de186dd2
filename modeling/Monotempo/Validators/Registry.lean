/-
  The registry of consensus validators.

  Source: `crates/precompiles/src/validator_config_v2/mod.rs`, and the views of
  `crates/precompiles/src/validator_config/mod.rs` that the migration reads.

  Validators are records in a list that only grows.  A record is active until it is deactivated.
  Active records are also listed in `activeIndices`, with a pointer back from the record, and are
  found by public key, by address and by the ingress they listen on.  Parsing of endpoints, hashes
  and signatures are taken as given.  Events are left out.
-/
import Monotempo.Chain.Hardfork
import Monotempo.Foundation.Program

set_option autoImplicit false

namespace Monotempo.Validators

open Chain Foundation Function

/-! ## Storage -/

/-- `ValidatorConfigV2Error`, and an index out of bounds of the old registry. -/
inductive ValidatorError where
  | notInitialized
  | alreadyInitialized
  | unauthorized
  | validatorNotFound
  | validatorAlreadyDeactivated
  | invalidValidatorAddress
  | addressAlreadyHasValidator
  | invalidPublicKey
  | publicKeyAlreadyExists
  | notIpPort (input : String)
  | notIp (input : String)
  | ingressAlreadyExists (ingress : String)
  | invalidSignatureFormat
  | invalidSignature
  | invalidOwner
  | emptyV1ValidatorSet
  | invalidMigrationIndex
  | migrationNotComplete
  | arrayOutOfBounds
  deriving DecidableEq, Repr

/-- `Config`. -/
structure Config where
  owner : Address
  isInit : Bool
  initAtHeight : ℕ
  migrationSkippedCount : ℕ
  v1ValidatorCount : ℕ
  deriving DecidableEq, Repr

/-- `ValidatorRecord`. -/
structure ValidatorRecord where
  publicKey : B256
  validatorAddress : Address
  ingress : String
  egress : String
  feeRecipient : Address
  index : ℕ
  activeIdx : ℕ
  addedAtHeight : ℕ
  deactivatedAtHeight : ℕ
  deriving DecidableEq, Repr, Inhabited

/-- `ValidatorConfigV2`. -/
structure ValidatorConfig where
  config : Config
  validators : List ValidatorRecord
  addressToIndex : Address → ℕ
  pubkeyToIndex : B256 → ℕ
  nextNetworkIdentityRotationEpoch : ℕ
  activeIngressIps : B256 → Bool
  activeIndices : List ℕ

/-- A registry without validators. -/
def ValidatorConfig.start (config : Config) : ValidatorConfig where
  config := config
  validators := []
  addressToIndex _ := 0
  pubkeyToIndex _ := 0
  nextNetworkIdentityRotationEpoch := 0
  activeIngressIps _ := false
  activeIndices := []

/-- `Config` in empty storage. -/
def Config.unset : Config := ⟨0, false, 0, 0, 0⟩

/-- `Validator` of the old registry. -/
structure V1Validator where
  publicKey : B256
  active : Bool
  validatorAddress : Address
  inboundAddress : String
  outboundAddress : String
  deriving DecidableEq, Repr

/-- The old registry. -/
structure V1 where
  owner : Address
  validatorsArray : List Address
  validators : Address → V1Validator
  nextDkgCeremony : ℕ

/-- `SignatureKind`. -/
inductive SignatureKind where
  | add (feeRecipient : Address)
  | rotate
  deriving DecidableEq, Repr

/-- Endpoints, public keys and signatures. -/
class Codec where
  /-- `ingress_key`, which parses `<ip>:<port>` -/
  ingressKey : String → Option B256
  /-- the address of `<ip>:<port>`, as text -/
  socketIp : String → Option String
  /-- `ensure_address_is_ip` -/
  isIp : String → Bool
  /-- `PublicKey::decode` -/
  isPublicKey : B256 → Bool
  /-- `Signature::decode` -/
  isSignature : List UInt8 → Bool
  /-- `verify`, on the message of a kind, an address and two endpoints -/
  verifies : SignatureKind → B256 → List UInt8 → Address → String → String → Bool

/-- What a call runs under. -/
structure Context where
  blockNumber : ℕ
  v1 : V1

abbrev ValidatorM := EStateM ValidatorError ValidatorConfig

namespace ValidatorConfig

/-- Change a record. -/
def modifyRecord (s : ValidatorConfig) (idx : ℕ) (f : ValidatorRecord → ValidatorRecord) :
    ValidatorConfig :=
  { s with validators := s.validators.modify idx f }

/-- Add a record at the end. -/
def pushRecord (s : ValidatorConfig) (record : ValidatorRecord) : ValidatorConfig :=
  { s with validators := s.validators ++ [record] }

def setPubkeyIndex (s : ValidatorConfig) (pubkey : B256) (position : ℕ) : ValidatorConfig :=
  { s with pubkeyToIndex := update s.pubkeyToIndex pubkey position }

def setAddressIndex (s : ValidatorConfig) (addr : Address) (position : ℕ) : ValidatorConfig :=
  { s with addressToIndex := update s.addressToIndex addr position }

def setIngressIp (s : ValidatorConfig) (key : B256) (used : Bool) : ValidatorConfig :=
  { s with activeIngressIps := update s.activeIngressIps key used }

/-- `deactivated_at_height` of a record, zero beyond the end. -/
def deactivatedAt (s : ValidatorConfig) (idx : ℕ) : ℕ :=
  (s.validators[idx]?).elim 0 ValidatorRecord.deactivatedAtHeight

/-- `append_validator`. -/
def append (s : ValidatorConfig) (addr : Address) (pubkey : B256) (ingress egress : String)
    (feeRecipient : Address) (addedAtHeight deactivatedAtHeight : ℕ) : ValidatorConfig :=
  let count := s.validators.length
  let listed : ValidatorConfig :=
    if deactivatedAtHeight = 0 then { s with activeIndices := s.activeIndices ++ [count + 1] }
    else s
  let activeIdx := if deactivatedAtHeight = 0 then listed.activeIndices.length else 0
  ((listed.pushRecord ⟨pubkey, addr, ingress, egress, feeRecipient, count, activeIdx,
    addedAtHeight, deactivatedAtHeight⟩).setPubkeyIndex pubkey (count + 1)).setAddressIndex addr
      (count + 1)

/-- The removal from `active_indices` in `deactivate_validator`: the last entry takes the place. -/
def swapAndPop (s : ValidatorConfig) (idx activeIdx : ℕ) : ValidatorConfig :=
  let activeIndex := activeIdx - 1
  let lastPos := s.activeIndices.length - 1
  let moved : ValidatorConfig :=
    if activeIndex ≠ lastPos then
      let movedVal := s.activeIndices.getD lastPos 0
      { s.modifyRecord (movedVal - 1) fun r => { r with activeIdx := activeIndex + 1 } with
        activeIndices := s.activeIndices.set activeIndex movedVal }
    else s
  { moved with activeIndices := moved.activeIndices.take lastPos }.modifyRecord idx
    fun r => { r with activeIdx := 0 }

end ValidatorConfig

/-! ## Guards -/

/-- `require_init`. -/
def requireInit (config : Config) : ValidatorM Unit :=
  require (config.isInit = true) .notInitialized

/-- `require_not_init`. -/
def requireNotInit (config : Config) : ValidatorM Unit :=
  require (config.isInit = false) .alreadyInitialized

/-- `require_owner`. -/
def requireOwner (config : Config) (caller : Address) : ValidatorM Unit :=
  require (config.owner = caller) .unauthorized

/-- `require_owner_or_validator`. -/
def requireOwnerOrValidator (config : Config) (caller validator : Address) : ValidatorM Unit :=
  require (caller = validator ∨ config.owner = caller) .unauthorized

/-- `get_active_validator`. -/
def getActiveValidator (idx : ℕ) : ValidatorM ValidatorRecord := do
  let s ← get
  let v ← okOr s.validators[idx]? .validatorNotFound
  require (v.deactivatedAtHeight = 0) .validatorAlreadyDeactivated
  pure v

/-- `read_validator_at`, which reads zeros beyond the records. -/
def ValidatorConfig.readValidatorAt (s : ValidatorConfig) (index : ℕ) : ValidatorRecord :=
  s.validators.getD index default

/-- `get_active_validators`. -/
def ValidatorConfig.getActiveValidators (s : ValidatorConfig) : List ValidatorRecord :=
  s.activeIndices.map fun globalIdx1 => s.readValidatorAt (globalIdx1 - 1)

/-- `require_new_address`. -/
def requireNewAddress (addr : Address) : ValidatorM Unit := do
  require (addr ≠ 0) .invalidValidatorAddress
  let s ← get
  let idx1 := s.addressToIndex addr
  require (¬ (idx1 ≠ 0 ∧ s.deactivatedAt (idx1 - 1) = 0)) .addressAlreadyHasValidator

/-- `require_new_pubkey`. -/
def requireNewPubkey (pubkey : B256) : ValidatorM Unit := do
  require (pubkey ≠ 0) .invalidPublicKey
  let s ← get
  require (s.pubkeyToIndex pubkey = 0) .publicKeyAlreadyExists

section Calls

variable [Codec]

/-- `ingress_key`. -/
def ingressKey (ingress : String) : ValidatorM B256 :=
  okOr (Codec.ingressKey ingress) (.notIpPort ingress)

/-- `validate_endpoints`. -/
def validateEndpoints (ingress egress : String) : ValidatorM Unit := do
  require ((Codec.ingressKey ingress).isSome = true) (.notIpPort ingress)
  require (Codec.isIp egress = true) (.notIp egress)

/-- `require_unique_ingress`. -/
def requireUniqueIngress (ingress : String) : ValidatorM B256 := do
  let key ← ingressKey ingress
  let s ← get
  require (s.activeIngressIps key = false) (.ingressAlreadyExists ingress)
  pure key

/-- `update_ingress_ip_tracking`. -/
def updateIngressIpTracking (oldIngress newIngress : String) : ValidatorM Unit := do
  let oldKey ← ingressKey oldIngress
  let newKey ← ingressKey newIngress
  onlyIf (oldKey ≠ newKey) do
    let s ← get
    require (s.activeIngressIps newKey = false) (.ingressAlreadyExists newIngress)
    modify fun s => (s.setIngressIp oldKey false).setIngressIp newKey true

/-- `verify_validator_signature`. -/
def verifyValidatorSignature (kind : SignatureKind) (pubkey : B256) (signature : List UInt8)
    (validatorAddress : Address) (ingress egress : String) : ValidatorM Unit := do
  require (Codec.isSignature signature = true) .invalidSignatureFormat
  require (Codec.isPublicKey pubkey = true) .invalidPublicKey
  require (Codec.verifies kind pubkey signature validatorAddress ingress egress = true)
    .invalidSignature

/-! ## Calls of the owner and of validators -/

/-- `addValidatorCall`. -/
structure AddValidatorCall where
  validatorAddress : Address
  publicKey : B256
  ingress : String
  egress : String
  feeRecipient : Address
  signature : List UInt8
  deriving DecidableEq, Repr

/-- `rotateValidatorCall`. -/
structure RotateValidatorCall where
  idx : ℕ
  publicKey : B256
  ingress : String
  egress : String
  signature : List UInt8
  deriving DecidableEq, Repr

/-- `add_validator`. -/
def addValidator (ctx : Context) (sender : Address) (call : AddValidatorCall) :
    ValidatorM Unit := do
  let s ← get
  requireInit s.config
  requireOwner s.config sender
  requireNewPubkey call.publicKey
  requireNewAddress call.validatorAddress
  validateEndpoints call.ingress call.egress
  let key ← requireUniqueIngress call.ingress
  verifyValidatorSignature (.add call.feeRecipient) call.publicKey call.signature
    call.validatorAddress call.ingress call.egress
  modify fun s => s.setIngressIp key true
  modify fun s => s.append call.validatorAddress call.publicKey call.ingress call.egress
    call.feeRecipient ctx.blockNumber 0

/-- `deactivate_validator`. -/
def deactivateValidator (ctx : Context) (sender : Address) (idx : ℕ) : ValidatorM Unit := do
  let v ← getActiveValidator idx
  let s ← get
  requireOwnerOrValidator s.config sender v.validatorAddress
  let key ← ingressKey v.ingress
  modify fun s => s.setIngressIp key false
  modify fun s => s.modifyRecord idx fun r => { r with deactivatedAtHeight := ctx.blockNumber }
  modify fun s => s.swapAndPop idx v.activeIdx

/-- `transfer_ownership`. -/
def transferOwnership (sender newOwner : Address) : ValidatorM Unit := do
  require (newOwner ≠ 0) .invalidOwner
  let s ← get
  requireInit s.config
  requireOwner s.config sender
  modify fun s => { s with config := { s.config with owner := newOwner } }

/-- `set_network_identity_rotation_epoch`. -/
def setNetworkIdentityRotationEpoch (sender : Address) (epoch : ℕ) : ValidatorM Unit := do
  let s ← get
  requireInit s.config
  requireOwner s.config sender
  modify fun s => { s with nextNetworkIdentityRotationEpoch := epoch }

/-- `rotate_validator`. -/
def rotateValidator (ctx : Context) (sender : Address) (call : RotateValidatorCall) :
    ValidatorM Unit := do
  let v ← getActiveValidator call.idx
  let s ← get
  requireInit s.config
  requireOwnerOrValidator s.config sender v.validatorAddress
  requireNewPubkey call.publicKey
  validateEndpoints call.ingress call.egress
  let _ ← requireUniqueIngress call.ingress
  verifyValidatorSignature .rotate call.publicKey call.signature v.validatorAddress call.ingress
    call.egress
  updateIngressIpTracking v.ingress call.ingress
  let appendedIdx := s.validators.length
  modify fun s => s.pushRecord { v with
    index := appendedIdx, activeIdx := 0, deactivatedAtHeight := ctx.blockNumber }
  modify fun s => s.setPubkeyIndex v.publicKey (appendedIdx + 1)
  modify fun s => s.modifyRecord call.idx fun r => { r with
    publicKey := call.publicKey, ingress := call.ingress, egress := call.egress,
    addedAtHeight := ctx.blockNumber }
  modify fun s => s.setPubkeyIndex call.publicKey (call.idx + 1)

/-- `set_fee_recipient`. -/
def setFeeRecipient (sender : Address) (idx : ℕ) (feeRecipient : Address) : ValidatorM Unit := do
  let v ← getActiveValidator idx
  let s ← get
  requireInit s.config
  requireOwnerOrValidator s.config sender v.validatorAddress
  modify fun s => s.modifyRecord idx fun _ => { v with feeRecipient := feeRecipient }

/-- `set_ip_addresses`. -/
def setIpAddresses (sender : Address) (idx : ℕ) (ingress egress : String) : ValidatorM Unit := do
  let v ← getActiveValidator idx
  let s ← get
  requireInit s.config
  requireOwnerOrValidator s.config sender v.validatorAddress
  validateEndpoints ingress egress
  updateIngressIpTracking v.ingress ingress
  modify fun s => s.modifyRecord idx fun _ => { v with ingress := ingress, egress := egress }

/-- `transfer_validator_ownership`. -/
def transferValidatorOwnership (sender : Address) (idx : ℕ) (newAddress : Address) :
    ValidatorM Unit := do
  let v ← getActiveValidator idx
  let s ← get
  requireInit s.config
  requireOwnerOrValidator s.config sender v.validatorAddress
  requireNewAddress newAddress
  modify fun s => s.modifyRecord idx fun _ => { v with validatorAddress := newAddress }
  modify fun s => s.setAddressIndex v.validatorAddress 0
  modify fun s => s.setAddressIndex newAddress (idx + 1)

/-! ## Migration -/

/-- `require_migration_owner`.  The count of the old registry is narrowed to a `u8`. -/
def requireMigrationOwner (v1 : V1) (caller : Address) : ValidatorM Config := do
  let s ← get
  requireNotInit s.config
  if s.config.owner = 0 then do
    require (v1.validatorsArray.length ≠ 0) .emptyV1ValidatorSet
    let config : Config := ⟨v1.owner, false, 0, 0, v1.validatorsArray.length % 2 ^ 8⟩
    modify fun s => { s with config := config }
    -- the count of skipped validators is that of storage before the write
    let config :=
      { s.config with owner := config.owner, v1ValidatorCount := config.v1ValidatorCount }
    requireOwner config caller
    pure config
  else do
    requireOwner s.config caller
    pure s.config

/-- The closure `skip` of `migrate_validator`: `saturating_add` of a `u8`. -/
def skipMigration (skipped : ℕ) : ValidatorM Unit :=
  modify fun s => { s with
    config := { s.config with migrationSkippedCount := min (skipped + 1) 255 } }

/-- The checks of `migrate_validator` after the index, and what they do with the validator. -/
def migrateEntry (ctx : Context) (skipped : ℕ) (v1Val : V1Validator) : ValidatorM Unit :=
  if Codec.isPublicKey v1Val.publicKey = false then skipMigration skipped
  else
    match Codec.socketIp v1Val.outboundAddress with
    | none => skipMigration skipped
    | some egress => do
      let s ← get
      if s.pubkeyToIndex v1Val.publicKey ≠ 0 then skipMigration skipped
      else do
        let addrIdx := s.addressToIndex v1Val.validatorAddress
        require (¬ (addrIdx ≠ 0 ∧ s.deactivatedAt (addrIdx - 1) = 0)) .addressAlreadyHasValidator
        let key ← ingressKey v1Val.inboundAddress
        if v1Val.active = true ∧ s.activeIngressIps key = true then skipMigration skipped
        else do
          modify fun s => s.append v1Val.validatorAddress v1Val.publicKey v1Val.inboundAddress
            egress 0 ctx.blockNumber (if v1Val.active then 0 else ctx.blockNumber)
          onlyIf (v1Val.active = true) do modify fun s => s.setIngressIp key true

/-- `migrate_validator`. -/
def migrateValidator (ctx : Context) (sender : Address) (idx : ℕ) : ValidatorM Unit := do
  let config ← requireMigrationOwner ctx.v1 sender
  let s ← get
  let totalProcessed := s.validators.length + config.migrationSkippedCount
  require (totalProcessed < config.v1ValidatorCount ∧
    idx = config.v1ValidatorCount - totalProcessed - 1) .invalidMigrationIndex
  let address ← okOr ctx.v1.validatorsArray[idx]? .arrayOutOfBounds
  migrateEntry ctx config.migrationSkippedCount (ctx.v1.validators address)

/-- `initialize_if_migrated`. -/
def initializeIfMigrated (ctx : Context) (sender : Address) : ValidatorM Unit := do
  let config ← requireMigrationOwner ctx.v1 sender
  let s ← get
  require (¬ (config.v1ValidatorCount = 0 ∨
    s.validators.length + config.migrationSkippedCount < config.v1ValidatorCount))
    .migrationNotComplete
  modify fun s => { s with
    nextNetworkIdentityRotationEpoch := ctx.v1.nextDkgCeremony
    config := { config with initAtHeight := ctx.blockNumber, isInit := true } }

/-! ## Transactions -/

/-- The calls that change the registry. -/
inductive Call where
  | addValidator (call : AddValidatorCall)
  | deactivateValidator (idx : ℕ)
  | rotateValidator (call : RotateValidatorCall)
  | setFeeRecipient (idx : ℕ) (feeRecipient : Address)
  | setIpAddresses (idx : ℕ) (ingress egress : String)
  | transferValidatorOwnership (idx : ℕ) (newAddress : Address)
  | transferOwnership (newOwner : Address)
  | setNetworkIdentityRotationEpoch (epoch : ℕ)
  | migrateValidator (idx : ℕ)
  | initializeIfMigrated
  deriving DecidableEq, Repr

/-- `ValidatorConfigV2::call`. -/
def dispatch (ctx : Context) (sender : Address) : Call → ValidatorM Unit
  | .addValidator call => addValidator ctx sender call
  | .deactivateValidator idx => deactivateValidator ctx sender idx
  | .rotateValidator call => rotateValidator ctx sender call
  | .setFeeRecipient idx feeRecipient => setFeeRecipient sender idx feeRecipient
  | .setIpAddresses idx ingress egress => setIpAddresses sender idx ingress egress
  | .transferValidatorOwnership idx newAddress => transferValidatorOwnership sender idx newAddress
  | .transferOwnership newOwner => transferOwnership sender newOwner
  | .setNetworkIdentityRotationEpoch epoch => setNetworkIdentityRotationEpoch sender epoch
  | .migrateValidator idx => migrateValidator ctx sender idx
  | .initializeIfMigrated => initializeIfMigrated ctx sender

/-- A transaction: its block with the old registry at that point, its sender and its call. -/
structure Tx where
  ctx : Context
  sender : Address
  call : Call

/-- A call as a transaction: an error undoes it. -/
def ValidatorConfig.transact (s : ValidatorConfig) (tx : Tx) : ValidatorConfig :=
  match dispatch tx.ctx tx.sender tx.call s with
  | .ok _ s' => s'
  | .error _ _ => s

/-- The registry after transactions. -/
def ValidatorConfig.run (s : ValidatorConfig) (txs : List Tx) : ValidatorConfig :=
  txs.foldl ValidatorConfig.transact s

end Calls

end Monotempo.Validators
