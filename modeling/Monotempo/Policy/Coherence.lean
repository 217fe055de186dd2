/-
  Policies refer to policies that exist, and keep their type.

  A policy is meant as the set of accounts that it allows.  Once created, a policy keeps its type
  and, if it is compound, the policies it is made of; these are simple and exist.  So an
  authorization check finds the set that is meant, and a receive policy may keep the types of its
  two policies.
-/
import Monotempo.Policy.Registry

set_option autoImplicit false

namespace Monotempo.Policy

open Chain Foundation Function Registry
open PolicyType (byte compound invalid ofByte)

variable {u : Unit} {data : PolicyData} {policyType newPolicyId policyId : ℕ} {type : PolicyType}
  {admin user msgSender : Address} {spec : TempoHardfork} {s s' s'' : Registry}

/-! ## What policies mean -/

/-- The type of a policy, as it is stored. -/
def Registry.typeOf (s : Registry) (policyId : ℕ) : ℕ := (s.policyRecords policyId).base.policyType

/-- The policies that a compound policy is made of. -/
def Registry.partsOf (s : Registry) (policyId : ℕ) : CompoundPolicyData :=
  (s.policyRecords policyId).compound

/-- The accounts that are listed in a policy. -/
def Registry.members (s : Registry) (policyId : ℕ) : Set Address :=
  { user | s.policySet policyId user = true }

/-- The accounts that a simple policy allows. -/
def Registry.allowed (s : Registry) (policyId : ℕ) : Set Address :=
  match policyId with
  | 0 => ∅
  | 1 => Set.univ
  | _ =>
    if s.typeOf policyId = PolicyType.whitelist.byte then s.members policyId
    else (s.members policyId)ᶜ

/-- The accounts that a compound policy allows in a role. -/
def Registry.allowedIn (s : Registry) (compound : CompoundPolicyData) : AuthRole → Set Address
  | .sender => s.allowed compound.senderPolicyId
  | .recipient => s.allowed compound.recipientPolicyId
  | .mintRecipient => s.allowed compound.mintRecipientPolicyId
  | .transfer => s.allowed compound.senderPolicyId ∩ s.allowed compound.recipientPolicyId

/-- The accounts that a policy allows in a role.  Some system addresses cannot be policed. -/
def Registry.allowedAs (s : Registry) (spec : TempoHardfork) (policyId : ℕ) (role : AuthRole) :
    Set Address :=
  { user | alwaysAuthorized spec user = true } ∪
    if 2 ≤ policyId ∧ s.typeOf policyId = PolicyType.compound.byte then
      s.allowedIn (s.partsOf policyId) role
    else s.allowed policyId

/-! ## Simple policies -/

/-- A policy that is built in, or exists and is a whitelist or a blacklist. -/
def Registry.Simple (s : Registry) (policyId : ℕ) : Prop :=
  policyId < 2 ∨ (policyId < s.policyIdCounter ∧ s.typeOf policyId < 2)

/-- The parts of a compound policy are simple. -/
structure Registry.SimpleParts (s : Registry) (compound : CompoundPolicyData) : Prop where
  sender : s.Simple compound.senderPolicyId
  recipient : s.Simple compound.recipientPolicyId
  mintRecipient : s.Simple compound.mintRecipientPolicyId

theorem builtinAuthorization_eq_none : builtinAuthorization policyId = none ↔ 2 ≤ policyId := by
  match policyId with
  | 0 => simp [builtinAuthorization]
  | 1 => simp [builtinAuthorization]
  | n + 2 => simp [builtinAuthorization]

theorem builtinAuthorization_isSome :
    (builtinAuthorization policyId).isSome = true ↔ policyId < 2 := by
  rw [← Nat.not_le, ← builtinAuthorization_eq_none, Option.isSome_iff_ne_none]

theorem isSimple_iff : data.isSimple = true ↔ data.policyType < 2 := by
  unfold PolicyData.isSimple
  rw [Bool.or_eq_true, beq_iff_eq, beq_iff_eq]
  show data.policyType = 0 ∨ data.policyType = 1 ↔ _
  omega

theorem ofByte_isSome {byte : ℕ} : (ofByte byte).isSome = true ↔ byte ≤ 2 := by
  match byte with
  | 0 => simp [ofByte]
  | 1 => simp [ofByte]
  | 2 => simp [ofByte]
  | n + 3 => simp [ofByte]

theorem getPolicyData_ok (h : getPolicyData spec s policyId = .ok data) :
    data = (s.policyRecords policyId).base := by
  unfold getPolicyData at h
  dsimp only at h
  split at h
  · exact nomatch h
  · exact (Except.ok.inj h).symm

theorem getPolicyData_of_lt (h : policyId < s.policyIdCounter) :
    getPolicyData spec s policyId = .ok (s.policyRecords policyId).base :=
  if_neg fun hnone => Nat.not_le.mpr h hnone.2.2

theorem validateSimplePolicy_ok (h : validateSimplePolicy spec s policyId = .ok ()) :
    s.Simple policyId := by
  unfold validateSimplePolicy at h
  split at h
  · rename_i hbuiltin
    exact .inl (builtinAuthorization_isSome.mp hbuiltin)
  split at h
  · exact nomatch h
  rename_i hexists
  obtain ⟨data, hdata, h⟩ := except_bind_ok.mp h
  obtain rfl := getPolicyData_ok hdata
  split at h
  · rename_i hsimple
    exact .inr ⟨Nat.lt_of_not_le hexists, isSimple_iff.mp hsimple⟩
  · exact nomatch h

/-- The type that a receive policy keeps. -/
def Registry.KeptType (s : Registry) (policyId policyType : ℕ) : Prop :=
  s.Simple policyId ∧ (2 ≤ policyId → policyType = s.typeOf policyId)

theorem validateReceivePolicyId_ok (h : validateReceivePolicyId spec s policyId = .ok policyType) :
    s.KeptType policyId policyType := by
  unfold validateReceivePolicyId at h
  split at h
  · rename_i hbuiltin
    have hlt := builtinAuthorization_isSome.mp hbuiltin
    exact ⟨.inl hlt, fun hle => absurd hlt (Nat.not_lt.mpr hle)⟩
  split at h
  · exact nomatch h
  rename_i hexists
  obtain ⟨data, hdata, h⟩ := except_bind_ok.mp h
  obtain rfl := getPolicyData_ok hdata
  split at h
  · rename_i hsimple
    exact ⟨.inr ⟨Nat.lt_of_not_le hexists, isSimple_iff.mp hsimple⟩,
      fun _ => (Except.ok.inj h).symm⟩
  · exact nomatch h

/-! ## What a call does -/

/-- The ids of a receive policy are simple policies, and it keeps their types. -/
structure Registry.KeptTypes (s : Registry) (config : ReceivePolicyConfig) : Prop where
  sender : s.KeptType config.senderPolicyId config.senderPolicyType
  token : s.KeptType config.tokenFilterId config.tokenFilterType

/-- What any call may do to the registry. -/
structure Evolves (s s' : Registry) : Prop where
  counter : s.policyIdCounter ≤ s'.policyIdCounter
  types : ∀ policyId < s.policyIdCounter, s'.typeOf policyId = s.typeOf policyId
  parts : ∀ policyId < s.policyIdCounter, s'.partsOf policyId = s.partsOf policyId
  created : ∀ policyId, s.policyIdCounter ≤ policyId → policyId < s'.policyIdCounter →
    s'.typeOf policyId = PolicyType.compound.byte → s.SimpleParts (s'.partsOf policyId)
  received : ∀ account, (s'.receivePolicies account).config.hasReceivePolicy = true →
    s'.receivePolicies account = s.receivePolicies account ∨
      s.KeptTypes (s'.receivePolicies account).config

theorem Evolves.refl (s : Registry) : Evolves s s where
  counter := Nat.le_refl _
  types _ _ := rfl
  parts _ _ := rfl
  created _ hle hlt := absurd hlt (Nat.not_lt.mpr hle)
  received _ _ := .inl rfl

theorem evolves_create {record : PolicyRecord} (hcounter : s'.counter = s.policyIdCounter + 1)
    (hrecords : s'.policyRecords = update s.policyRecords s.policyIdCounter record)
    (hreceive : s'.receivePolicies = s.receivePolicies)
    (hparts : record.base.policyType = compound.byte → s.SimpleParts record.compound) :
    Evolves s s' := by
  have hnext : s'.policyIdCounter = s.policyIdCounter + 1 := by
    unfold policyIdCounter at hcounter ⊢
    omega
  have hold : ∀ policyId < s.policyIdCounter,
      s'.policyRecords policyId = s.policyRecords policyId := by
    intro policyId hlt
    rw [hrecords]
    exact update_of_ne (Nat.ne_of_lt hlt) _ _
  refine ⟨by omega, fun policyId hlt => ?_, fun policyId hlt => ?_, fun policyId hle hlt => ?_,
    fun account _ => .inl (by rw [hreceive])⟩
  · unfold typeOf
    rw [hold policyId hlt]
  · unfold partsOf
    rw [hold policyId hlt]
  · obtain rfl : policyId = s.policyIdCounter := by omega
    unfold typeOf partsOf
    rw [hrecords, update_self]
    exact hparts

/-- A change of the data of a policy that keeps its type, or of listed accounts. -/
theorem evolves_same (hcounter : s'.counter = s.counter)
    (htypes : ∀ policyId, s'.typeOf policyId = s.typeOf policyId)
    (hparts : ∀ policyId, s'.partsOf policyId = s.partsOf policyId)
    (hreceive : s'.receivePolicies = s.receivePolicies) : Evolves s s' := by
  have hnext : s'.policyIdCounter = s.policyIdCounter := by
    unfold policyIdCounter
    rw [hcounter]
  refine ⟨hnext.ge, fun policyId _ => htypes policyId, fun policyId _ => hparts policyId,
    fun policyId hle hlt => ?_, fun account _ => .inl (by rw [hreceive])⟩
  exact absurd hlt (by omega)

theorem takePolicyId_ok (h : takePolicyId s = .ok newPolicyId s') :
    newPolicyId = s.policyIdCounter ∧ s' = { s with counter := s.policyIdCounter + 1 } := by
  replace h := require_rest h
  obtain ⟨rfl, rfl⟩ := pure_ok.mp h
  exact ⟨rfl, rfl⟩

/-- A type that is created is not compound. -/
theorem ensureIsSimple_ne (h : type.ensureIsSimple spec = .ok policyType) :
    policyType ≠ compound.byte := by
  have hinvalid : ∀ {policyType : ℕ}, (if spec.isT2 = true then
      (.error .incompatiblePolicyType : Except PolicyError ℕ)
      else .ok invalid.byte) = .ok policyType →
      policyType ≠ compound.byte := by
    intro policyType h
    split at h
    · exact nomatch h
    · obtain rfl := Except.ok.inj h
      decide
  cases type with
  | whitelist | blacklist =>
    obtain rfl := Except.ok.inj h
    decide
  | compound | invalid => exact hinvalid h

variable {accounts : List Address}

/-- The accounts of a new policy are all that the loop writes. -/
theorem addAccounts_ok (h : addAccounts policyId type accounts s = .ok u s') :
    s'.counter = s.counter ∧ s'.policyRecords = s.policyRecords ∧
      s'.receivePolicies = s.receivePolicies := by
  induction accounts generalizing s with
  | nil =>
    obtain ⟨-, rfl⟩ := pure_ok.mp h
    exact ⟨rfl, rfl, rfl⟩
  | cons account accounts ih =>
    have h := modify_bind_ok.mp h
    replace h := require_rest h
    obtain ⟨hcounter, hrecords, hreceive⟩ := ih h
    exact ⟨hcounter, hrecords, hreceive⟩

theorem evolves_setPolicyData (h : data.policyType = s.typeOf policyId) :
    Evolves s (s.setPolicyData policyId data) := by
  refine evolves_same rfl (fun other => ?_) (fun other => ?_) rfl
  · unfold typeOf setPolicyData setPolicyRecord
    dsimp only
    by_cases heq : other = policyId
    · subst heq
      rw [update_self]
      exact h
    · rw [update_of_ne heq]
  · unfold partsOf setPolicyData setPolicyRecord
    dsimp only
    by_cases heq : other = policyId
    · subst heq
      rw [update_self]
    · rw [update_of_ne heq]

theorem modifyPolicySet_evolves {required : PolicyType} {account : Address} {value : Bool}
    (h : modifyPolicySet required spec msgSender policyId account value s = .ok u s') :
    Evolves s s' := by
  replace h := require_rest h
  obtain ⟨data, -, h⟩ := fromExcept_bind_ok.mp h
  replace h := require_rest h
  obtain ⟨type, -, h⟩ := fromExcept_bind_ok.mp h
  replace h := require_rest h
  obtain rfl := modify_ok.mp h
  exact evolves_same rfl (fun _ => rfl) (fun _ => rfl) rfl

theorem createPolicy_evolves (h : createPolicy spec admin type s = .ok newPolicyId s') :
    Evolves s s' := by
  obtain ⟨policyType, htype, h⟩ := fromExcept_bind_ok.mp h
  obtain ⟨_, t, ⟨rfl, rfl⟩, h⟩ := step_bind_ok takePolicyId_ok h
  obtain ⟨-, rfl⟩ := pure_ok.mp h
  exact evolves_create rfl rfl rfl fun hcompound => absurd hcompound (ensureIsSimple_ne htype)

theorem createPolicyWithAccounts_evolves
    (h : createPolicyWithAccounts spec admin type accounts s = .ok newPolicyId s') :
    Evolves s s' := by
  obtain ⟨policyType, htype, h⟩ := fromExcept_bind_ok.mp h
  replace h := require_rest h
  obtain ⟨_, t, ⟨rfl, rfl⟩, h⟩ := step_bind_ok takePolicyId_ok h
  obtain ⟨_, t, ⟨hcounter, hrecords, hreceive⟩, h⟩ := step_bind_ok addAccounts_ok h
  obtain ⟨-, rfl⟩ := pure_ok.mp h
  exact evolves_create hcounter hrecords hreceive
    fun hcompound => absurd hcompound (ensureIsSimple_ne htype)

theorem setPolicyAdmin_evolves (h : setPolicyAdmin spec msgSender policyId admin s = .ok u s') :
    Evolves s s' := by
  obtain ⟨data, hdata, h⟩ := fromExcept_bind_ok.mp h
  obtain rfl := getPolicyData_ok hdata
  replace h := require_rest h
  obtain rfl := modify_ok.mp h
  exact evolves_setPolicyData rfl

theorem createCompoundPolicy_evolves {compound : CompoundPolicyData}
    (h : createCompoundPolicy spec compound s = .ok newPolicyId s') : Evolves s s' := by
  obtain ⟨_, hsender, h⟩ := fromExcept_bind_ok.mp h
  obtain ⟨_, hrecipient, h⟩ := fromExcept_bind_ok.mp h
  obtain ⟨_, hmint, h⟩ := fromExcept_bind_ok.mp h
  obtain ⟨_, t, ⟨rfl, rfl⟩, h⟩ := step_bind_ok takePolicyId_ok h
  obtain ⟨-, rfl⟩ := pure_ok.mp h
  exact evolves_create rfl rfl rfl fun _ => ⟨validateSimplePolicy_ok hsender,
    validateSimplePolicy_ok hrecipient, validateSimplePolicy_ok hmint⟩

theorem setReceivePolicy_evolves {senderPolicyId tokenFilterId : ℕ} {recoveryAuthority : Address}
    (h : setReceivePolicy spec msgSender senderPolicyId tokenFilterId recoveryAuthority s =
      .ok u s') : Evolves s s' := by
  replace h := require_rest h
  replace h := require_rest h
  obtain ⟨senderPolicyType, hsender, h⟩ := fromExcept_bind_ok.mp h
  obtain ⟨tokenFilterType, htoken, h⟩ := fromExcept_bind_ok.mp h
  obtain rfl := modify_ok.mp h
  refine { Evolves.refl s with received := fun account _ => ?_ }
  dsimp only
  by_cases heq : account = msgSender
  · subst heq
    rw [update_self]
    exact .inr ⟨validateReceivePolicyId_ok hsender, validateReceivePolicyId_ok htoken⟩
  · rw [update_of_ne heq]
    exact .inl rfl

theorem dispatch_evolves {call : Call} (h : dispatch spec msgSender call s = .ok u s') :
    Evolves s s' := by
  cases call with
  | createPolicy admin type =>
    obtain ⟨_, t, hcall, h⟩ := bind_ok.mp h
    obtain ⟨-, rfl⟩ := pure_ok.mp h
    exact createPolicy_evolves hcall
  | createPolicyWithAccounts admin type accounts =>
    obtain ⟨_, t, hcall, h⟩ := bind_ok.mp h
    obtain ⟨-, rfl⟩ := pure_ok.mp h
    exact createPolicyWithAccounts_evolves hcall
  | setPolicyAdmin policyId admin => exact setPolicyAdmin_evolves h
  | modifyPolicyWhitelist | modifyPolicyBlacklist => exact modifyPolicySet_evolves h
  | createCompoundPolicy compound =>
    replace h := require_rest h
    obtain ⟨_, t, hcall, h⟩ := bind_ok.mp h
    obtain ⟨-, rfl⟩ := pure_ok.mp h
    exact createCompoundPolicy_evolves hcall
  | setReceivePolicy senderPolicyId tokenFilterId recoveryAuthority =>
    replace h := require_rest h
    exact setReceivePolicy_evolves h

theorem transact_evolves (s : Registry) (spec : TempoHardfork) (msgSender : Address)
    (call : Call) : Evolves s (s.transact spec msgSender call) := by
  unfold transact
  cases h : dispatch spec msgSender call s with
  | ok u s' => exact dispatch_evolves h
  | error e s' => exact .refl s

/-! ## Coherence -/

/-- Compound policies are made of simple ones, and receive policies keep the types of theirs. -/
structure Coherent (s : Registry) : Prop where
  parts : ∀ policyId < s.policyIdCounter, s.typeOf policyId = PolicyType.compound.byte →
    s.SimpleParts (s.partsOf policyId)
  received : ∀ account, (s.receivePolicies account).config.hasReceivePolicy = true →
    s.KeptTypes (s.receivePolicies account).config

theorem Coherent.fresh : Coherent .fresh := by
  refine ⟨fun policyId _ hcompound => ?_, fun account hset => ?_⟩
  · exact nomatch hcompound
  · exact nomatch hset

theorem Registry.Simple.evolves (h : s.Simple policyId) (hev : Evolves s s') :
    s'.Simple policyId := by
  obtain hbuiltin | ⟨hexists, hsimple⟩ := h
  · exact .inl hbuiltin
  · refine .inr ⟨Nat.lt_of_lt_of_le hexists hev.counter, ?_⟩
    rw [hev.types policyId hexists]
    exact hsimple

theorem Registry.SimpleParts.evolves {compound : CompoundPolicyData} (h : s.SimpleParts compound)
    (hev : Evolves s s') : s'.SimpleParts compound :=
  ⟨h.sender.evolves hev, h.recipient.evolves hev, h.mintRecipient.evolves hev⟩

theorem Registry.KeptType.evolves (h : s.KeptType policyId policyType) (hev : Evolves s s') :
    s'.KeptType policyId policyType := by
  refine ⟨h.1.evolves hev, fun hle => ?_⟩
  obtain hbuiltin | ⟨hexists, -⟩ := h.1
  · exact absurd hbuiltin (Nat.not_lt.mpr hle)
  · rw [hev.types policyId hexists]
    exact h.2 hle

theorem Coherent.evolves (h : Coherent s) (hev : Evolves s s') : Coherent s' := by
  refine ⟨fun policyId hlt hcompound => ?_, fun account hset => ?_⟩
  · rcases Nat.lt_or_ge policyId s.policyIdCounter with hold | hnew
    · rw [hev.types policyId hold] at hcompound
      rw [hev.parts policyId hold]
      exact (h.parts policyId hold hcompound).evolves hev
    · exact (hev.created policyId hnew hlt hcompound).evolves hev
  · obtain hsame | hkept := hev.received account hset
    · rw [hsame] at hset ⊢
      obtain ⟨hsender, htoken⟩ := h.received account hset
      exact ⟨hsender.evolves hev, htoken.evolves hev⟩
    · exact ⟨hkept.sender.evolves hev, hkept.token.evolves hev⟩

variable {txs : List (TempoHardfork × Address × Call)}

theorem Coherent.run :
    ∀ {s : Registry}, Coherent s → Coherent (s.run txs) := by
  induction txs with
  | nil => exact id
  | cons tx txs ih => exact fun h => ih (h.evolves (transact_evolves _ _ _ _))

/-- A policy that exists keeps its type and its parts. -/
theorem run_fixed :
    ∀ {s : Registry}, policyId < s.policyIdCounter →
      (s.run txs).typeOf policyId = s.typeOf policyId ∧
        (s.run txs).partsOf policyId = s.partsOf policyId := by
  induction txs with
  | nil => exact fun _ => ⟨rfl, rfl⟩
  | cons tx txs ih =>
    intro s hexists
    have hev := transact_evolves s tx.1 tx.2.1 tx.2.2
    obtain ⟨htype, hparts⟩ := ih (Nat.lt_of_lt_of_le hexists hev.counter)
    exact ⟨htype.trans (hev.types policyId hexists), hparts.trans (hev.parts policyId hexists)⟩

/-! ## Authorization -/

section Authorization

variable (hspec : spec.isT2 = true)

include hspec

/-- The check of a simple policy with the right type. -/
theorem isAuthorizedSimpleInner_eq (user : Address) (hle : 2 ≤ policyId)
    (hsimple : s.typeOf policyId < 2) (hdata : data.policyType = s.typeOf policyId) :
    ∃ auth, isAuthorizedSimpleInner spec s policyId user data = .ok auth ∧
      (auth = true ↔ user ∈ s.allowed policyId) := by
  obtain ⟨n, rfl⟩ : ∃ n, policyId = n + 2 := ⟨policyId - 2, by omega⟩
  have hdecode : ∀ type, ofByte (s.typeOf (n + 2)) = some type →
      data.decode spec = .ok type := by
    intro type htype
    unfold PolicyData.decode
    rw [hdata, htype]
    exact if_pos (.inl hspec)
  have hcases : s.typeOf (n + 2) = 0 ∨ s.typeOf (n + 2) = 1 := by omega
  rcases hcases with htype | htype
  · refine ⟨s.policySet (n + 2) user, ?_, ?_⟩
    · exact except_bind_ok.mpr ⟨.whitelist, hdecode _ (by rw [htype]; rfl), rfl⟩
    · simp [allowed, htype, byte, members]
  · refine ⟨!s.policySet (n + 2) user, ?_, ?_⟩
    · exact except_bind_ok.mpr ⟨.blacklist, hdecode _ (by rw [htype]; rfl), rfl⟩
    · simp [allowed, htype, byte, members]

/-- The check of a simple policy, with data that is read or with a type that was kept. -/
theorem isAuthorizedSimple_eq (user : Address) (hsimple : s.Simple policyId)
    {cache : Option PolicyData}
    (hcache : ∀ data ∈ cache, 2 ≤ policyId → data.policyType = s.typeOf policyId) :
    ∃ auth, isAuthorizedSimple spec s policyId user cache = .ok auth ∧
      (auth = true ↔ user ∈ s.allowed policyId) := by
  match policyId, hsimple, hcache with
  | 0, _, _ => exact ⟨false, rfl, by simp [allowed]⟩
  | 1, _, _ => exact ⟨true, rfl, by simp [allowed]⟩
  | n + 2, hsimple, hcache =>
    obtain ⟨hexists, htype⟩ := hsimple.resolve_left (by omega)
    cases cache with
    | some data =>
      exact isAuthorizedSimpleInner_eq hspec user (by omega) htype
        (hcache data rfl (by omega))
    | none =>
      obtain ⟨auth, hauth, hallowed⟩ :=
        isAuthorizedSimpleInner_eq hspec user (Nat.le_add_left 2 n) htype rfl
      refine ⟨auth, ?_, hallowed⟩
      exact except_bind_ok.mpr ⟨_, getPolicyData_of_lt hexists, hauth⟩

theorem isAuthorizedSimple_read (user : Address) (hsimple : s.Simple policyId) :
    ∃ auth, isAuthorizedSimple spec s policyId user none = .ok auth ∧
      (auth = true ↔ user ∈ s.allowed policyId) :=
  isAuthorizedSimple_eq hspec user hsimple nofun

theorem isAuthorizedAs_compound (user : Address) (role : AuthRole)
    (hpoliced : alwaysAuthorized spec user = false) (hle : 2 ≤ policyId)
    (hexists : policyId < s.policyIdCounter)
    (hcompound : s.typeOf policyId = compound.byte)
    (hparts : s.SimpleParts (s.partsOf policyId)) :
    ∃ auth, isAuthorizedAs spec s policyId user role = .ok auth ∧
      (auth = true ↔ user ∈ s.allowedIn (s.partsOf policyId) role) := by
  have hdata : (s.policyRecords policyId).base.isCompound = true := beq_iff_eq.mpr hcompound
  unfold isAuthorizedAs
  rw [if_neg (by simp [hpoliced]), builtinAuthorization_eq_none.mpr hle,
    getPolicyData_of_lt hexists]
  simp only [bind, Except.bind, hdata, if_true]
  obtain ⟨senderAuth, hsender, hsenderAllowed⟩ :=
    isAuthorizedSimple_read hspec user hparts.sender
  obtain ⟨recipientAuth, hrecipient, hrecipientAllowed⟩ :=
    isAuthorizedSimple_read hspec user hparts.recipient
  unfold partsOf at hsender hrecipient
  cases role with
  | sender => exact ⟨senderAuth, hsender, hsenderAllowed⟩
  | recipient => exact ⟨recipientAuth, hrecipient, hrecipientAllowed⟩
  | mintRecipient => exact isAuthorizedSimple_read hspec user hparts.mintRecipient
  | transfer =>
    refine ⟨senderAuth && recipientAuth, ?_, ?_⟩
    · simp only [hsender, hrecipient]
      -- a sender that is rejected ends the check
      cases senderAuth with
      | true => simp
      | false => simp [hspec]
    · rw [Bool.and_eq_true, hsenderAllowed, hrecipientAllowed]
      rfl

/-- The check of any policy that exists and has a valid type. -/
theorem isAuthorizedAs_eq (hcoherent : Coherent s) (user : Address) (role : AuthRole)
    (hexists : policyExists s policyId = true)
    (hvalid : 2 ≤ policyId → (ofByte (s.typeOf policyId)).isSome = true) :
    ∃ auth, isAuthorizedAs spec s policyId user role = .ok auth ∧
      (auth = true ↔ user ∈ s.allowedAs spec policyId role) := by
  unfold allowedAs
  cases hpoliced : alwaysAuthorized spec user with
  | true =>
    refine ⟨true, ?_, by simp [hpoliced]⟩
    exact if_pos hpoliced
  | false =>
    rw [Set.mem_union, Set.mem_ofPred_eq, hpoliced]
    simp only [Bool.false_eq_true, false_or]
    rcases Nat.lt_or_ge policyId 2 with hbuiltin | hle
    · rw [if_neg (by omega)]
      obtain ⟨auth, hauth⟩ :=
        Option.isSome_iff_exists.mp (builtinAuthorization_isSome.mpr hbuiltin)
      obtain ⟨auth', hsimple, hallowed⟩ :=
        isAuthorizedSimple_read (s := s) hspec user (.inl hbuiltin)
      refine ⟨auth', ?_, hallowed⟩
      unfold isAuthorizedAs
      rw [if_neg (by simp [hpoliced]), hauth]
      unfold isAuthorizedSimple at hsimple
      rw [hauth] at hsimple
      exact hsimple
    have hlt : policyId < s.policyIdCounter := by
      unfold policyExists at hexists
      rw [builtinAuthorization_eq_none.mpr hle] at hexists
      simpa using hexists
    by_cases hcompound : s.typeOf policyId = compound.byte
    · rw [if_pos ⟨hle, hcompound⟩]
      exact isAuthorizedAs_compound hspec user role hpoliced hle hlt hcompound
        (hcoherent.parts policyId hlt hcompound)
    · rw [if_neg fun h => hcompound h.2]
      have htype : s.typeOf policyId < 2 := by
        have hbyte := ofByte_isSome.mp (hvalid hle)
        have hne : s.typeOf policyId ≠ 2 := hcompound
        omega
      obtain ⟨auth, hauth, hallowed⟩ :=
        isAuthorizedSimpleInner_eq hspec user hle htype rfl
      refine ⟨auth, ?_, hallowed⟩
      have hdata : (s.policyRecords policyId).base.isCompound = false :=
        beq_eq_false_iff_ne.mpr hcompound
      unfold isAuthorizedAs
      rw [if_neg (by simp [hpoliced]), builtinAuthorization_eq_none.mpr hle,
        getPolicyData_of_lt hlt]
      simp only [bind, Except.bind, hdata, Bool.false_eq_true, if_false]
      exact hauth

/-- A type that was kept gives the answer of the data that is read. -/
theorem isAuthorizedSimple_kept (user : Address) (hkept : s.KeptType policyId policyType) :
    isAuthorizedSimple spec s policyId user (some ⟨policyType, 0⟩) =
      isAuthorizedSimple spec s policyId user none := by
  have hcache : ∀ data ∈ some (PolicyData.mk policyType 0), 2 ≤ policyId →
      data.policyType = s.typeOf policyId := by
    intro data hdata hle
    obtain rfl := Option.some.inj hdata
    exact hkept.2 hle
  obtain ⟨auth, hauth, hallowed⟩ := isAuthorizedSimple_eq hspec user hkept.1 hcache
  obtain ⟨auth', hauth', hallowed'⟩ := isAuthorizedSimple_read hspec user hkept.1
  rw [hauth, hauth', Bool.eq_iff_iff.mpr (hallowed.trans hallowed'.symm)]

/-- The receive policy of a coherent registry, checked with the types that it keeps. -/
theorem checkReceivePolicy_eq (hcoherent : Coherent s) (token sender receiver : Address) :
    checkReceivePolicy spec s token sender receiver =
      recheckReceivePolicy spec s token sender receiver := by
  unfold checkReceivePolicy recheckReceivePolicy checkReceivePolicyWith
  dsimp only
  cases hset : (s.receivePolicies receiver).config.hasReceivePolicy with
  | false => rfl
  | true =>
    obtain ⟨hsender, htoken⟩ := hcoherent.received receiver hset
    rw [isAuthorizedSimple_kept hspec token htoken, isAuthorizedSimple_kept hspec sender hsender]

/-- The check of a receive policy does not fail. -/
theorem recheckReceivePolicy_ok (hcoherent : Coherent s) (token sender receiver : Address) :
    ∃ verdict, recheckReceivePolicy spec s token sender receiver = .ok verdict := by
  unfold recheckReceivePolicy checkReceivePolicyWith
  dsimp only
  cases hset : (s.receivePolicies receiver).config.hasReceivePolicy with
  | false => exact ⟨none, rfl⟩
  | true =>
    obtain ⟨hsender, htoken⟩ := hcoherent.received receiver hset
    obtain ⟨tokenAllowed, htokenAllowed, -⟩ := isAuthorizedSimple_read hspec token htoken.1
    obtain ⟨senderAllowed, hsenderAllowed, -⟩ := isAuthorizedSimple_read hspec sender hsender.1
    simp only [htokenAllowed, hsenderAllowed, bind, Except.bind]
    cases tokenAllowed with
    | false => exact ⟨_, rfl⟩
    | true =>
      cases senderAllowed with
      | false | true => exact ⟨_, rfl⟩

end Authorization

/-- After any transactions: a policy that exists keeps its type and its parts from then on; the
parts of a compound policy are built in, or exist and are simple; a check of a policy that exists
and has a valid type returns, and says whether the account is in the set that the policy allows in
the role; and the check of a receive policy returns what it would with data that is read again. -/
theorem policy_registry_coherent (txs : List (TempoHardfork × Address × Call))
    (hspec : spec.isT2 = true) :
    let s := Registry.fresh.run txs
    (∀ policyId, policyExists s policyId = true → ∀ later,
      (s.run later).typeOf policyId = s.typeOf policyId ∧
        (s.run later).partsOf policyId = s.partsOf policyId) ∧
    (∀ policyId, policyExists s policyId = true →
      s.typeOf policyId = PolicyType.compound.byte → s.SimpleParts (s.partsOf policyId)) ∧
    (∀ policyId user role, policyExists s policyId = true →
      (2 ≤ policyId → (PolicyType.ofByte (s.typeOf policyId)).isSome = true) →
      ∃ auth, isAuthorizedAs spec s policyId user role = .ok auth ∧
        (auth = true ↔ user ∈ s.allowedAs spec policyId role)) ∧
    (∀ token sender receiver,
      checkReceivePolicy spec s token sender receiver =
          recheckReceivePolicy spec s token sender receiver ∧
        ∃ verdict, checkReceivePolicy spec s token sender receiver = .ok verdict) := by
  intro s
  have hcoherent : Coherent s := Coherent.fresh.run
  have hlt : ∀ policyId, policyExists s policyId = true → policyId < s.policyIdCounter := by
    intro policyId hexists
    obtain hbuiltin | hcreated := Bool.or_eq_true_iff.mp hexists
    · exact Nat.lt_of_lt_of_le (builtinAuthorization_isSome.mp hbuiltin) (Nat.le_max_right _ _)
    · exact of_decide_eq_true hcreated
  refine ⟨fun policyId hexists later => run_fixed (hlt policyId hexists),
    fun policyId hexists => hcoherent.parts policyId (hlt policyId hexists),
    fun policyId user role hexists hvalid =>
      isAuthorizedAs_eq hspec hcoherent user role hexists hvalid,
    fun token sender receiver => ?_⟩
  have hsame := checkReceivePolicy_eq hspec hcoherent token sender receiver
  refine ⟨hsame, ?_⟩
  rw [hsame]
  exact recheckReceivePolicy_ok hspec hcoherent token sender receiver

/-- A whitelist of account `7`, a compound policy of it, and a receive policy that filters senders
by it. -/
def samplePolicies : List (TempoHardfork × Address × Call) :=
  [(.T8, 5, .createPolicyWithAccounts 5 .whitelist [7]),
   (.T8, 5, .createCompoundPolicy ⟨2, 1, 0⟩),
   (.T8, 9, .setReceivePolicy 2 1 0)]

theorem policy_registry_coherent_sample :
    (7 ∈ (Registry.fresh.run samplePolicies).allowedAs .T8 3 .transfer) ∧
      recheckReceivePolicy .T8 (Registry.fresh.run samplePolicies) 20 8 9 =
        .ok (some (.receivePolicy, 0)) := by
  have hspec : TempoHardfork.T8.isT2 = true := by decide
  obtain ⟨-, -, hauthorized, hreceive⟩ := policy_registry_coherent samplePolicies hspec
  obtain ⟨auth, hauth, hallowed⟩ :=
    hauthorized 3 7 .transfer (by decide +kernel) (fun _ => by decide +kernel)
  refine ⟨hallowed.mp ?_, ?_⟩
  · have hchecked : isAuthorizedAs .T8 (fresh.run samplePolicies) 3 7 .transfer =
        .ok true := rfl
    exact Except.ok.inj (hauth.symm.trans hchecked)
  · rw [← (hreceive 20 8 9).1]
    rfl

end Monotempo.Policy
