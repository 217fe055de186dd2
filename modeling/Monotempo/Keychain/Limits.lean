/-
  What an access key can spend.

  A history of charges and refunds follows one limit of one key.  What is left and what
  was charged since the last rollover stay within the maximum of a periodic limit; what
  is left and all that was charged stay within the first amount of a plain one.  Limits
  start within their maximum in every keychain that calls have built.
-/
import Monotempo.Keychain.Lifecycle
import Mathlib.Tactic.Linarith

set_option autoImplicit false

namespace Monotempo.Keychain

open Chain Foundation Function SpendingLimitState

/-! ## One row -/

namespace SpendingLimitState

/-- What is left to spend, with the sentinel of a periodic limit read as zero. -/
def available (limit : SpendingLimitState) : ℕ :=
  if limit.period ≠ 0 ∧ limit.remaining = zeroPeriodicRemainingSentinel then 0
  else limit.remaining

/-- A periodic limit has at most its maximum left. -/
def Configured (limit : SpendingLimitState) : Prop :=
  limit.period ≠ 0 → limit.available ≤ limit.max

variable {spec : TempoHardfork} {limit updated : SpendingLimitState} {now amount : ℕ}

theorem available_le_remaining : limit.available ≤ limit.remaining := by
  unfold available
  split
  · exact Nat.zero_le _
  · exact Nat.le_refl _

theorem decoded_eq_available (hT7 : spec.isT7 = true) : limit.decoded spec = limit.available := by
  unfold decoded available
  simp only [hT7, true_and]

/-- What a spend can draw on. -/
def drawn (limit : SpendingLimitState) (now : ℕ) : ℕ :=
  if limit.rollsOver now then limit.max else limit.available

/-- A spend takes its amount from what it can draw on. -/
theorem spend_some (hT7 : spec.isT7 = true) (h : limit.spend spec now amount = some updated) :
    updated.available + amount ≤ limit.drawn now := by
  have hfrom : (if limit.rollsOver now then limit.max else limit.available) = limit.drawn now :=
    rfl
  unfold spend at h
  simp only [decoded_eq_available hT7, hfrom] at h
  split at h
  · exact nomatch h
  · obtain rfl := Option.some.inj h
    unfold available
    simp only [rolled_period]
    split_ifs <;> simp_all

theorem drawn_plain (h : limit.period = 0) : limit.drawn now = limit.available := by
  have hstays : limit.rollsOver now = false := by
    unfold rollsOver
    simp [h]
  unfold drawn
  rw [hstays]
  rfl

/-- A refund adds at most its amount, and fills the limit at most to its maximum. -/
theorem refund_spec (hT7 : spec.isT7 = true) :
    (limit.refund spec amount).max = limit.max ∧
      (limit.refund spec amount).period = limit.period ∧
      (limit.refund spec amount).available ≤ limit.available + amount ∧
      (limit.max ≠ 0 → (limit.refund spec amount).available ≤ limit.max) := by
  refine ⟨rfl, rfl, Nat.le_trans available_le_remaining ?_,
    fun hmax => Nat.le_trans available_le_remaining ?_⟩
  · unfold refund
    rw [decoded_eq_available hT7]
    simp only
    split <;> omega
  · unfold refund
    simp only [if_neg hmax]
    exact Nat.min_le_right _ _

end SpendingLimitState

/-! ## Histories -/

/-- What happened to a limit. -/
inductive LimitEvent where
  /-- a spend, and whether it started a new period -/
  | charged (amount : ℕ) (rolledOver : Bool)
  | refunded (amount : ℕ)
  deriving DecidableEq, Repr

/-- The charges less the refunds of a history. -/
def netCharged : List LimitEvent → ℤ
  | [] => 0
  | .charged amount _ :: earlier => netCharged earlier + amount
  | .refunded amount :: earlier => netCharged earlier - amount

/-- The charges less the refunds since the last rollover; histories have the newest event
first. -/
def chargedThisPeriod : List LimitEvent → ℤ
  | [] => 0
  | .charged amount true :: _ => amount
  | .charged amount false :: earlier => chargedThisPeriod earlier + amount
  | .refunded amount :: earlier => chargedThisPeriod earlier - amount

section Run

variable [KeyHash]

/-- The row of a limit. -/
def KeychainState.limit (s : KeychainState) (account keyId token : Address) :
    SpendingLimitState :=
  s.spendingLimits (spendingLimitKey account keyId) token

/-- The transaction is signed by the key, which has enforced limits. -/
structure SignedBy (s : KeychainState) (account keyId : Address) : Prop where
  key : s.transactionKey = keyId
  origin : s.txOrigin = account
  enforced : (s.keys account keyId).enforceLimits = true

/-- The calls a key makes under one of its limits, over non-decreasing timestamps, from an
initial state: the time of the last one, the history of the limit, and the state reached. -/
inductive SpendingRun (account keyId token : Address) (initial : KeychainState) :
    ℕ → List LimitEvent → KeychainState → Prop where
  | start (clock : ℕ) : SpendingRun account keyId token initial clock [] initial
  | transfer {clock : ℕ} {history : List LimitEvent} {s s' : KeychainState}
      (run : SpendingRun account keyId token initial clock history s) (ctx : Context)
      (amount : ℕ) (fork : ctx.spec.isT7 = true) (later : clock ≤ ctx.now)
      (signed : SignedBy s account keyId)
      (call : authorizeTransfer ctx account token amount s = .ok () s') :
      SpendingRun account keyId token initial ctx.now
        (.charged amount ((s.limit account keyId token).rollsOver ctx.now) :: history) s'
  /-- An approval is charged for its increase only. -/
  | approve {clock : ℕ} {history : List LimitEvent} {s s' : KeychainState}
      (run : SpendingRun account keyId token initial clock history s) (ctx : Context)
      (oldApproval newApproval : ℕ) (fork : ctx.spec.isT7 = true) (later : clock ≤ ctx.now)
      (signed : SignedBy s account keyId)
      (call : authorizeApprove ctx account token oldApproval newApproval s = .ok () s') :
      SpendingRun account keyId token initial ctx.now
        (if newApproval ≤ oldApproval then history
        else .charged (newApproval - oldApproval)
          ((s.limit account keyId token).rollsOver ctx.now) :: history) s'
  /-- A fee refund is at most a charge made before; an inactive key gets none. -/
  | refund {clock : ℕ} {history : List LimitEvent} {s s' : KeychainState}
      (run : SpendingRun account keyId token initial clock history s) (ctx : Context)
      (amount charge : ℕ) (rolledOver : Bool) (fork : ctx.spec.isT7 = true)
      (later : clock ≤ ctx.now) (signed : SignedBy s account keyId)
      (paid : .charged charge rolledOver ∈ history) (partly : amount ≤ charge)
      (call : refundSpendingLimit ctx account token amount s = .ok () s') :
      SpendingRun account keyId token initial ctx.now
        (if isActiveKey s account keyId ctx.now then .refunded amount :: history
        else history) s'
  /-- Calls that do not touch the limit, rejected ones among them. -/
  | elsewhere {clock : ℕ} {history : List LimitEvent} {s s' : KeychainState}
      (run : SpendingRun account keyId token initial clock history s)
      (same : s'.limit account keyId token = s.limit account keyId token) :
      SpendingRun account keyId token initial clock history s'

/-! ## The calls -/

variable {ctx : Context} {account keyId token : Address} {amount : ℕ} {s s' : KeychainState}
  {updated : SpendingLimitState}

theorem limit_setLimit :
    (s.setLimit (spendingLimitKey account keyId) token updated).limit account keyId token =
      updated := by
  unfold KeychainState.limit KeychainState.setLimit
  simp only [update_self]

/-- A spend under an enforced limit updates the row as `spend` says. -/
theorem verifyAndUpdateSpending_ok (hT3 : ctx.spec.isT3 = true) (hkey : keyId ≠ 0)
    (henforced : (s.keys account keyId).enforceLimits = true)
    (h : verifyAndUpdateSpending ctx account keyId token amount s = .ok () s') :
    (s.limit account keyId token).spend ctx.spec ctx.now amount =
      some (s'.limit account keyId token) := by
  obtain ⟨-, h⟩ | ⟨hcontra, -⟩ := onlyIf_ok.mp h
  · obtain ⟨key, t, hload, h⟩ := bind_ok.mp (get_bind_ok.mp h)
    obtain ⟨hactive, rfl⟩ := fromExcept_ok.mp hload
    obtain ⟨rfl, -⟩ := loadActiveKey_ok hactive
    obtain ⟨-, h⟩ | ⟨hcontra, -⟩ := onlyIf_ok.mp h
    · simp only [hT3, Bool.not_true, Bool.false_eq_true, if_false] at h
      obtain ⟨updated, hspent, h⟩ := okOr_bind_ok.mp h
      obtain rfl := modify_ok.mp h
      rw [limit_setLimit]
      exact hspent
    · exact absurd henforced hcontra
  · exact absurd hkey hcontra

/-- A rejected spend has written nothing. -/
theorem verifyAndUpdateSpending_error :
    Triple (· = s) (verifyAndUpdateSpending ctx account keyId token amount)
      (fun _ _ => True) (fun _ t => t = s) := by
  refine triple_onlyIf (fun _ => triple_get_bind ?_) fun _ _ _ => trivial
  rintro _ rfl
  refine triple_bind_keeps (keeps_fromExcept _) fun key => ?_
  refine triple_onlyIf (fun _ => triple_ite (fun _ => ?_) fun _ => ?_) fun _ _ _ => trivial
  · exact triple_bind_keeps (keeps_require _) fun _ => triple_modify fun _ _ => trivial
  · exact triple_bind_keeps (keeps_okOr _ _) fun _ => triple_modify fun _ _ => trivial

theorem authorizeTransfer_error :
    Triple (· = s) (authorizeTransfer ctx account token amount)
      (fun _ _ => True) (fun _ t => t = s) := by
  refine triple_get_bind ?_
  rintro _ rfl
  exact triple_onlyIf (fun _ => verifyAndUpdateSpending_error) fun _ _ _ => trivial

theorem authorizeApprove_error {oldApproval newApproval : ℕ} :
    Triple (· = s) (authorizeApprove ctx account token oldApproval newApproval)
      (fun _ _ => True) (fun _ t => t = s) := by
  refine triple_get_bind ?_
  rintro _ rfl
  exact triple_onlyIf (fun _ => verifyAndUpdateSpending_error) fun _ _ _ => trivial

omit [KeyHash] in
theorem SignedBy.spendsWithKey (h : SignedBy s account keyId) (hkey : keyId ≠ 0) :
    s.spendsWithKey account :=
  ⟨by rw [h.key]; exact hkey, h.origin.symm⟩

section Signed

variable (hT7 : ctx.spec.isT7 = true) (hkey : keyId ≠ 0) (hsigned : SignedBy s account keyId)

include hT7 hkey hsigned

theorem authorizeTransfer_ok (h : authorizeTransfer ctx account token amount s = .ok () s') :
    (s.limit account keyId token).spend ctx.spec ctx.now amount =
      some (s'.limit account keyId token) := by
  obtain ⟨-, h⟩ | ⟨hcontra, -⟩ := onlyIf_ok.mp h
  · rw [hsigned.key] at h
    exact verifyAndUpdateSpending_ok (TempoHardfork.isT3_of_isT7 hT7) hkey hsigned.enforced h
  · exact absurd (hsigned.spendsWithKey hkey) hcontra

theorem authorizeApprove_ok {oldApproval newApproval : ℕ}
    (h : authorizeApprove ctx account token oldApproval newApproval s = .ok () s') :
    if newApproval ≤ oldApproval then s = s'
    else (s.limit account keyId token).spend ctx.spec ctx.now (newApproval - oldApproval) =
      some (s'.limit account keyId token) := by
  obtain ⟨⟨-, hincrease⟩, h⟩ | ⟨hcontra, rfl⟩ := onlyIf_ok.mp h
  · rw [if_neg fun hle => hincrease (Nat.sub_eq_zero_of_le hle)]
    rw [hsigned.key] at h
    exact verifyAndUpdateSpending_ok (TempoHardfork.isT3_of_isT7 hT7) hkey hsigned.enforced h
  · rw [if_pos]
    by_contra hincrease
    exact hcontra ⟨hsigned.spendsWithKey hkey, by omega⟩

theorem refundSpendingLimit_ok (h : refundSpendingLimit ctx account token amount s = .ok () s') :
    if isActiveKey s account keyId ctx.now then
      s'.limit account keyId token = (s.limit account keyId token).refund ctx.spec amount
    else s = s' := by
  obtain ⟨-, h⟩ | ⟨hcontra, -⟩ := onlyIf_ok.mp h
  · rw [hsigned.key] at h
    unfold isActiveKey
    cases hload : loadActiveKey s account keyId ctx.now with
    | error e =>
      simp only [hload] at h
      exact (pure_ok.mp h).2
    | ok key =>
      simp only [hload] at h
      obtain ⟨rfl, -⟩ := loadActiveKey_ok hload
      obtain ⟨-, h⟩ | ⟨hcontra, -⟩ := onlyIf_ok.mp h
      · obtain rfl := modify_ok.mp h
        rw [if_pos (TempoHardfork.isT3_of_isT7 hT7)]
        exact limit_setLimit
      · exact absurd hsigned.enforced hcontra
  · exact absurd (hsigned.spendsWithKey hkey) hcontra

end Signed

/-! ## Configured limits -/

/-- Every limit is configured. -/
def KeychainState.Configured (s : KeychainState) : Prop :=
  ∀ limitKey token, (s.spendingLimits limitKey token).Configured

variable {limitKey : B256}

omit [KeyHash] in
theorem KeychainState.Configured.setLimit (h : s.Configured) (hupdated : updated.Configured) :
    (s.setLimit limitKey token updated).Configured := by
  intro otherKey otherToken
  unfold KeychainState.setLimit
  by_cases hkey : otherKey = limitKey
  · subst hkey
    by_cases htoken : otherToken = token
    · subst htoken
      simp only [update_self]
      exact hupdated
    · simp only [update_self, update_of_ne htoken]
      exact h otherKey otherToken
  · simp only [update_of_ne hkey]
    exact h otherKey otherToken

omit [KeyHash] in
theorem writeLimits_configured (hT3 : ctx.spec.isT3 = true) {limits : List TokenLimit} :
    Keeps KeychainState.Configured (writeLimits ctx limitKey limits) := by
  induction limits with
  | nil => exact keeps_pure _
  | cons limit rest ih =>
    refine keeps_bind ?_ fun _ => ih
    unfold writeLimit
    rw [if_pos hT3]
    intro s hs
    cases hcap : t3SpendingLimitCap limit.amount with
    | error e => exact hs
    | ok max =>
      obtain rfl := t3SpendingLimitCap_ok hcap
      exact hs.setLimit fun _ => available_le_remaining

variable {sender : Address}

theorem authorizeKeyInternal_configured (hT3 : ctx.spec.isT3 = true) {signatureType : SignatureType}
    {config : KeyRestrictions} {witness : Option B256} {isAdmin : Bool} :
    Keeps KeychainState.Configured
      (authorizeKeyInternal ctx sender keyId signatureType config witness isAdmin) := by
  refine keeps_bind keeps_ensureAdminCaller fun _ => keeps_require_bind fun _ =>
    keeps_require_bind fun _ => keeps_require_bind fun _ =>
    keeps_get_bind fun _ _ => keeps_require_bind fun _ =>
    keeps_require_bind fun _ => keeps_bind (keeps_fromExcept _) fun _ =>
    keeps_bind (keeps_fromExcept _) fun _ => keeps_bind ?_ fun _ =>
    keeps_bind (keeps_modify fun _ hs => hs) fun _ => keeps_onlyIf fun _ => ?_
  · cases witness with
    | none => exact keeps_pure _
    | some witness => exact keeps_get_bind fun _ _ => keeps_require _
  · refine keeps_bind (writeLimits_configured hT3) fun _ => keeps_onlyIf fun _ => ?_
    exact keeps_get_bind fun _ _ => keeps_bind (keeps_fromExcept _) fun _ =>
      keeps_modify fun _ hs => hs

theorem updateSpendingLimit_configured (hT3 : ctx.spec.isT3 = true) {newLimit : ℕ} :
    Keeps KeychainState.Configured (updateSpendingLimit ctx sender keyId token newLimit) := by
  refine keeps_bind keeps_ensureAdminCaller fun _ => keeps_bind keeps_loadRestrictedKey fun _ =>
    keeps_bind (keeps_onlyIf fun _ => keeps_modify fun _ hs => hs) fun _ =>
    keeps_get_bind fun s hs => ?_
  simp only [hT3, if_true]
  intro s hs
  cases hcap : t3SpendingLimitCap newLimit with
  | error e => exact hs
  | ok max =>
    obtain rfl := t3SpendingLimitCap_ok hcap
    exact hs.setLimit fun _ => available_le_remaining

theorem verifyAndUpdateSpending_configured (hT7 : ctx.spec.isT7 = true) :
    Keeps KeychainState.Configured (verifyAndUpdateSpending ctx account keyId token amount) := by
  refine keeps_onlyIf fun _ => keeps_get_bind fun s hs => keeps_bind (keeps_fromExcept _) fun _ =>
    keeps_onlyIf fun _ => keeps_ite (fun hfork => ?_) fun _ => keeps_okOr_bind fun updated hspend =>
    keeps_modify fun _ ht => ht.setLimit fun hperiodic => ?_
  · rw [TempoHardfork.isT3_of_isT7 hT7] at hfork
    exact absurd hfork (by decide)
  · obtain ⟨hmax, hperiod⟩ := spend_config hspend
    have hdrawn := spend_some hT7 hspend
    rw [hperiod] at hperiodic
    refine Nat.le_trans (Nat.le_of_add_right_le hdrawn) ?_
    rw [hmax]
    unfold drawn
    split
    · exact Nat.le_refl _
    · exact hs _ _ hperiodic

/-- A refund gives back what can have been charged: nothing under a periodic limit of zero. -/
def KeychainCall.Owed (s : KeychainState) : KeychainCall → Prop
  | .refundSpendingLimit account token amount =>
    (s.limit account s.transactionKey token).period ≠ 0 →
      (s.limit account s.transactionKey token).max = 0 → amount = 0
  | _ => True

theorem refundSpendingLimit_configured (hT7 : ctx.spec.isT7 = true)
    (howed : (KeychainCall.refundSpendingLimit account token amount).Owed s)
    (hs : s.Configured) (h : refundSpendingLimit ctx account token amount s = .ok () s') :
    s'.Configured := by
  obtain ⟨-, h⟩ | ⟨-, rfl⟩ := onlyIf_ok.mp h
  · cases hload : loadActiveKey s account s.transactionKey ctx.now with
    | error e =>
      simp only [hload] at h
      exact (pure_ok.mp h).2 ▸ hs
    | ok key =>
      simp only [hload] at h
      obtain ⟨-, h⟩ | ⟨-, rfl⟩ := onlyIf_ok.mp h
      · obtain rfl := modify_ok.mp h
        obtain ⟨-, -, hadded, hfilled⟩ :=
          @refund_spec ctx.spec (s.limit account s.transactionKey token) amount hT7
        rw [if_pos (TempoHardfork.isT3_of_isT7 hT7)]
        refine hs.setLimit fun hperiodic => ?_
        by_cases hzero : (s.limit account s.transactionKey token).max = 0
        · have hnone := howed hperiodic hzero
          have hleft := hs _ _ hperiodic
          subst hnone
          exact Nat.le_trans hadded hleft
        · exact hfilled hzero
      · exact hs
  · exact hs

/-- One step from T7 on. -/
inductive LimitStep : KeychainState → KeychainState → Prop where
  | call {s s' : KeychainState} (ctx : Context) (call : KeychainCall)
      (fork : ctx.spec.isT7 = true) (owed : call.Owed s) (ok : call.run ctx s = .ok () s') :
      LimitStep s s'
  | transaction {s : KeychainState} (transactionKey txOrigin : Address) :
      LimitStep s { s with transactionKey := transactionKey, txOrigin := txOrigin }

theorem LimitStep.configured (h : LimitStep s s') (hs : s.Configured) : s'.Configured := by
  cases h with
  | transaction transactionKey txOrigin => exact hs
  | call ctx call fork owed ok =>
    have hT3 := TempoHardfork.isT3_of_isT7 fork
    cases call with
    | authorizeKey | authorizeAdminKey => exact (authorizeKeyInternal_configured hT3).ok hs ok
    | burnKeyAuthorizationWitness sender witness =>
      obtain ⟨-, rfl⟩ := burnKeyAuthorizationWitness_ok ok
      exact hs
    | revokeKey sender keyId =>
      obtain ⟨-, -, rfl⟩ := revokeKey_ok ok
      exact hs
    | updateSpendingLimit sender keyId token newLimit =>
      exact (updateSpendingLimit_configured hT3).ok hs ok
    | setAllowedCalls sender keyId scopes =>
      obtain ⟨-, -, row, -, rfl⟩ := setAllowedCalls_ok ok
      exact hs
    | removeAllowedCalls sender keyId target =>
      obtain ⟨-, rfl⟩ := removeAllowedCalls_ok ok
      exact hs
    | authorizeTransfer account token amount =>
      exact Keeps.ok (keeps_get_bind fun _ _ => keeps_onlyIf fun _ =>
        verifyAndUpdateSpending_configured fork) hs ok
    | authorizeApprove account token oldApproval newApproval =>
      exact Keeps.ok (keeps_get_bind fun _ _ => keeps_onlyIf fun _ =>
        verifyAndUpdateSpending_configured fork) hs ok
    | refundSpendingLimit account token amount =>
      exact refundSpendingLimit_configured fork owed hs ok

/-- Every limit of a keychain that calls have built is configured. -/
theorem reachable_configured {origin : Address}
    (h : Relation.ReflTransGen LimitStep (.fresh origin) s) : s.Configured := by
  induction h with
  | refl => exact fun _ _ hperiodic => absurd rfl hperiodic
  | tail _ step ih => exact step.configured ih

/-! ## Whole runs -/

/-- What a history says about the row it led to. -/
structure Within (first limit : SpendingLimitState) (history : List LimitEvent) : Prop where
  max : limit.max = first.max
  period : limit.period = first.period
  /-- With a maximum of zero nothing can be spent, so there is nothing to refund. -/
  idle : first.period ≠ 0 → first.max = 0 →
    ∀ charge rolledOver, .charged charge rolledOver ∈ history → charge = 0
  left : first.period ≠ 0 → limit.available ≤ first.max
  periodic : first.period ≠ 0 → (limit.available : ℤ) + chargedThisPeriod history ≤ first.max
  plain : first.period = 0 → (limit.available : ℤ) + netCharged history ≤ first.remaining

variable {first limit updated : SpendingLimitState} {history : List LimitEvent}
  {spec : TempoHardfork} {now : ℕ}

omit [KeyHash] in
theorem Within.start (h : first.Configured) : Within first first [] where
  max := rfl
  period := rfl
  idle _ _ _ _ hmem := absurd hmem List.not_mem_nil
  left := h
  periodic hperiod := by
    have hle := h hperiod
    simp only [chargedThisPeriod]
    omega
  plain hperiod := by
    rw [available, if_neg fun hcontra => hcontra.1 hperiod]
    simp [netCharged]

omit [KeyHash] in
/-- A charge keeps the account: it is drawn from the maximum if it starts a period, and
from what is left otherwise. -/
theorem Within.spend (h : Within first limit history) (hT7 : spec.isT7 = true)
    (hspend : limit.spend spec now amount = some updated) :
    Within first updated (.charged amount (limit.rollsOver now) :: history) := by
  obtain ⟨hmax, hperiod⟩ := spend_config hspend
  have hdrawn := spend_some hT7 hspend
  have hcap : first.period ≠ 0 → limit.drawn now ≤ first.max := by
    intro hperiodic
    unfold drawn
    split
    · exact Nat.le_of_eq h.max
    · exact h.left hperiodic
  refine ⟨hmax.trans h.max, hperiod.trans h.period, ?_, ?_, ?_, ?_⟩
  · intro hperiodic hzero charge rolledOver hmem
    rcases List.mem_cons.mp hmem with heq | hearlier
    · obtain ⟨rfl, -⟩ := LimitEvent.charged.inj heq
      omega
    · exact h.idle hperiodic hzero charge rolledOver hearlier
  · intro hperiodic
    omega
  · intro hperiodic
    cases hrolls : limit.rollsOver now with
    | true =>
      simp only [chargedThisPeriod]
      omega
    | false =>
      have hleft := h.periodic hperiodic
      have hsame : limit.drawn now = limit.available := by
        unfold drawn
        rw [hrolls]
        rfl
      simp only [chargedThisPeriod]
      omega
  · intro hplain
    have hleft := h.plain hplain
    rw [drawn_plain (h.period.trans hplain)] at hdrawn
    simp only [netCharged]
    omega

omit [KeyHash] in
theorem Within.refund (h : Within first limit history) (hT7 : spec.isT7 = true) {charge : ℕ}
    {rolledOver : Bool} (hpaid : .charged charge rolledOver ∈ history) (hpartly : amount ≤ charge) :
    Within first (limit.refund spec amount) (.refunded amount :: history) := by
  obtain ⟨hmax, hperiod, hadded, hfilled⟩ :=
    @refund_spec spec limit amount hT7
  refine ⟨hmax.trans h.max, hperiod.trans h.period, ?_, ?_, ?_, ?_⟩
  · intro hperiodic hzero charge rolledOver hmem
    rcases List.mem_cons.mp hmem with heq | hearlier
    · exact nomatch heq
    · exact h.idle hperiodic hzero charge rolledOver hearlier
  · intro hperiodic
    by_cases hzero : first.max = 0
    · have hfree := h.idle hperiodic hzero charge rolledOver hpaid
      have hleft := h.left hperiodic
      omega
    · rw [← h.max] at hzero ⊢
      exact hfilled hzero
  · intro hperiodic
    have hleft := h.periodic hperiodic
    simp only [chargedThisPeriod]
    omega
  · intro hplain
    have hleft := h.plain hplain
    simp only [netCharged]
    omega

variable {initial : KeychainState} {clock : ℕ}

theorem SpendingRun.within (hkey : keyId ≠ 0)
    (hinitial : (initial.limit account keyId token).Configured)
    (run : SpendingRun account keyId token initial clock history s) :
    Within (initial.limit account keyId token) (s.limit account keyId token) history := by
  induction run with
  | start clock => exact Within.start hinitial
  | transfer run ctx amount fork later signed call ih =>
    exact ih.spend fork (authorizeTransfer_ok fork hkey signed call)
  | approve run ctx oldApproval newApproval fork later signed call ih =>
    have heffect := authorizeApprove_ok fork hkey signed call
    split
    · rename_i hfree
      rw [if_pos hfree] at heffect
      rw [← heffect]
      exact ih
    · rename_i hincrease
      rw [if_neg hincrease] at heffect
      exact ih.spend fork heffect
  | refund run ctx amount charge rolledOver fork later signed paid partly call ih =>
    have heffect := refundSpendingLimit_ok fork hkey signed call
    split
    · rename_i hactive
      rw [if_pos hactive] at heffect
      rw [heffect]
      exact ih.refund fork paid partly
    · rename_i hinactive
      rw [if_neg hinactive] at heffect
      rw [← heffect]
      exact ih
  | elsewhere run same ih =>
    rw [same]
    exact ih

/-- A keychain that calls have built needs no other hypothesis. -/
theorem SpendingRun.within_of_reachable (hkey : keyId ≠ 0) {origin : Address}
    (hreach : Relation.ReflTransGen LimitStep (.fresh origin) initial)
    (run : SpendingRun account keyId token initial clock history s) :
    Within (initial.limit account keyId token) (s.limit account keyId token) history :=
  run.within hkey (reachable_configured hreach _ _)

/-- In every run of a key under a configured limit, the net amount charged since the last
rollover and the amount left are within the maximum of a periodic limit, the net amount
charged in all is within the first amount of a plain limit, and a rejected spend leaves the
state as it was. -/
theorem spendingRun_within_limit (hkey : keyId ≠ 0)
    (hinitial : (initial.limit account keyId token).Configured)
    (run : SpendingRun account keyId token initial clock history s) :
    (s.limit account keyId token).max = (initial.limit account keyId token).max ∧
      (s.limit account keyId token).period = (initial.limit account keyId token).period ∧
      ((s.limit account keyId token).period ≠ 0 →
        chargedThisPeriod history ≤ (s.limit account keyId token).max ∧
          (s.limit account keyId token).available ≤ (s.limit account keyId token).max) ∧
      ((s.limit account keyId token).period = 0 →
        netCharged history ≤ (initial.limit account keyId token).remaining) ∧
      (∀ ctx amount e s', authorizeTransfer ctx account token amount s = .error e s' →
        s' = s) ∧
      ∀ ctx oldApproval newApproval e s',
        authorizeApprove ctx account token oldApproval newApproval s = .error e s' → s' = s := by
  have hwithin := run.within hkey hinitial
  refine ⟨hwithin.max, hwithin.period, ?_, ?_, ?_, ?_⟩
  · intro hperiodic
    rw [hwithin.period] at hperiodic
    rw [hwithin.max]
    have hwindow := hwithin.periodic hperiodic
    exact ⟨by omega, hwithin.left hperiodic⟩
  · intro hplain
    rw [hwithin.period] at hplain
    have htotal := hwithin.plain hplain
    omega
  · intro ctx amount e s' herror
    exact authorizeTransfer_error.error rfl herror
  · intro ctx oldApproval newApproval e s' herror
    exact authorizeApprove_error.error rfl herror

end Run

/-- A keychain whose keys have ten to spend in every period of five. -/
def limitedKeychain : KeychainState where
  keys _ _ := ⟨.secp256k1, 100, true, false, false⟩
  spendingLimits _ _ := ⟨10, 10, 5, 3⟩
  keyScopes _ := .empty
  keyAuthorizationWitnesses _ _ := false
  transactionKey := 7
  txOrigin := 1

/-- A T7 block at a time. -/
def blockAt (timestamp : ℕ) : Context := ⟨.T7, timestamp, fun _ => false⟩

/-- Four are charged and one refunded; six are charged in the next period. -/
theorem spendingRun_within_limit_two_periods :
    letI := KeyHash.concat
    ∃ s history, SpendingRun 1 7 2 limitedKeychain 4 history s ∧
      history = [.charged 6 true, .refunded 1, .charged 4 false] ∧
      chargedThisPeriod history ≤ (s.limit 1 7 2).max := by
  let := KeyHash.concat
  let s₁ := limitedKeychain.setLimit (spendingLimitKey 1 7) 2 ⟨6, 10, 5, 3⟩
  let s₂ := s₁.setLimit (spendingLimitKey 1 7) 2 ⟨7, 10, 5, 3⟩
  have hreturned : returned (authorizeTransfer (blockAt 4) 1 2 6 s₂) = true := by decide +kernel
  obtain ⟨_, s₃, hcall⟩ := returned_iff.mp hreturned
  have hfirst : SpendingRun 1 7 2 limitedKeychain 1 [.charged 4 false] s₁ :=
    .transfer (.start 0) (blockAt 1) 4 rfl (Nat.zero_le _) ⟨rfl, rfl, rfl⟩ rfl
  have hsecond : SpendingRun 1 7 2 limitedKeychain 1 [.refunded 1, .charged 4 false] s₂ :=
    .refund hfirst (blockAt 1) 1 4 false rfl (Nat.le_refl _) ⟨rfl, rfl, rfl⟩ (by simp)
      (by decide) rfl
  have hthird : SpendingRun 1 7 2 limitedKeychain 4
      [.charged 6 true, .refunded 1, .charged 4 false] s₃ :=
    .transfer hsecond (blockAt 4) 6 rfl (by decide) ⟨rfl, rfl, rfl⟩ hcall
  have hinitial : (limitedKeychain.limit 1 7 2).Configured := fun _ => by decide
  obtain ⟨-, hperiod, hperiodic, -⟩ := spendingRun_within_limit (by decide) hinitial hthird
  exact ⟨s₃, _, hthird, rfl, (hperiodic (by rw [hperiod]; decide)).1⟩

/-! ## The view of a limit -/

namespace SpendingLimitState

/-- What `effective_limit_state_with_key` reports of the row of an active key. -/
def viewAt (spec : TempoHardfork) (limit : SpendingLimitState) (now : ℕ) : ℕ × ℕ :=
  if !spec.isT3 then (limit.remaining, 0)
  else if limit.period = 0 then (limit.remaining, 0)
  else
    let remaining :=
      if spec.isT7 = true ∧ limit.remaining = zeroPeriodicRemainingSentinel then 0
      else limit.remaining
    if now < limit.periodEnd then (remaining, limit.periodEnd)
    else
      let elapsed := now - limit.periodEnd
      let periodsElapsed := min (elapsed / limit.period + 1) u64Max
      let advance := min (limit.period * periodsElapsed) u64Max
      (limit.max, min (limit.periodEnd + advance) u64Max)

/-- The row fits the types of its fields that hold amounts: `U256` and `u128`. -/
structure Fits (limit : SpendingLimitState) : Prop where
  remaining : limit.remaining ≤ u256Max
  max : limit.max ≤ u128Max

variable {spec : TempoHardfork} {limit updated : SpendingLimitState} {now amount : ℕ}

/-- A new period ends in the future, unless time has run out. -/
theorem lt_computeNextPeriodEnd (hperiod : limit.period ≠ 0) (hnow : now < u64Max) :
    now < limit.computeNextPeriodEnd now := by
  have hover := Nat.lt_mul_div_succ (now - limit.periodEnd) (Nat.pos_of_ne_zero hperiod)
  have helapsed := Nat.div_le_self (now - limit.periodEnd) limit.period
  unfold computeNextPeriodEnd
  simp only
  rw [Nat.min_eq_left (show (now - limit.periodEnd) / limit.period + 1 ≤ u64Max by omega)]
  generalize limit.period * ((now - limit.periodEnd) / limit.period + 1) = advance at hover ⊢
  omega

/-- The view shows what a spend would draw on, and the period it would fall in. -/
theorem viewAt_eq (hT3 : spec.isT3 = true) :
    limit.viewAt spec now = (if limit.rollsOver now then limit.max else limit.decoded spec,
      if limit.period = 0 then 0 else (limit.rolled now).periodEnd) := by
  unfold viewAt rolled rollsOver decoded
  simp only [hT3, Bool.not_true, Bool.false_eq_true, if_false]
  by_cases hperiod : limit.period = 0
  · simp [hperiod]
  · by_cases hend : now < limit.periodEnd
    · simp [hperiod, hend, Nat.not_le_of_lt hend]
    · simp [hperiod, hend, Nat.le_of_not_lt hend, computeNextPeriodEnd]

/-- A spend succeeds exactly if the view covers it. -/
theorem spend_eq_none (hT3 : spec.isT3 = true) :
    limit.spend spec now amount = none ↔ (limit.viewAt spec now).1 < amount := by
  rw [viewAt_eq hT3]
  unfold spend
  split <;> simp_all

theorem spend_eq_some {left : ℕ}
    (hleft : left = if limit.rollsOver now then limit.max else limit.decoded spec)
    (h : limit.spend spec now amount = some updated) :
    amount ≤ left ∧ updated = { limit.rolled now with
      remaining :=
        if limit.period ≠ 0 ∧ spec.isT7 = true ∧ left - amount = 0 then
          zeroPeriodicRemainingSentinel
        else left - amount } := by
  unfold spend at h
  rw [← hleft] at h
  by_cases henough : left < amount
  · rw [if_pos henough] at h
    exact nomatch h
  · rw [if_neg henough] at h
    exact ⟨Nat.le_of_not_lt henough, (Option.some.inj h).symm⟩

theorem rollsOver_spend (hnow : now < u64Max) (h : limit.spend spec now amount = some updated) :
    updated.rollsOver now = false := by
  obtain ⟨-, rfl⟩ := spend_eq_some rfl h
  unfold rollsOver
  simp only [rolled_period]
  by_cases hperiod : limit.period = 0
  · simp [hperiod]
  · unfold rolled
    split
    · simp [lt_computeNextPeriodEnd hperiod hnow]
    · rename_i hstays
      simpa [rollsOver] using hstays

/-- The view drops by what was spent, and the period stays. -/
theorem viewAt_spend (hT3 : spec.isT3 = true) (hfits : limit.Fits) (hnow : now < u64Max)
    (h : limit.spend spec now amount = some updated) :
    (updated.viewAt spec now).1 + amount = (limit.viewAt spec now).1 ∧
      (updated.viewAt spec now).2 = (limit.viewAt spec now).2 := by
  have hrolls := rollsOver_spend hnow h
  have hkept : updated.rolled now = updated := by
    rw [rolled, hrolls, if_neg Bool.false_ne_true]
  rw [viewAt_eq hT3, viewAt_eq hT3, hkept, hrolls, if_neg Bool.false_ne_true]
  -- At T7 a periodic row never stores the sentinel as an amount.
  have hsentinel : spec.isT7 = true → limit.period ≠ 0 →
      (if limit.rollsOver now then limit.max else limit.decoded spec) < u256Max := by
    intro hT7 hperiodic
    have hremaining := hfits.remaining
    have hmax : limit.max < u256Max := Nat.lt_of_le_of_lt hfits.max (by decide)
    split
    · exact hmax
    · unfold decoded zeroPeriodicRemainingSentinel
      split
      · decide
      · rename_i hother
        exact Nat.lt_of_le_of_ne hremaining fun heq => hother ⟨hT7, hperiodic, heq⟩
  obtain ⟨henough, rfl⟩ := spend_eq_some rfl h
  generalize (if limit.rollsOver now then limit.max else limit.decoded spec) = left at *
  refine ⟨?_, by simp only [rolled_period]⟩
  unfold decoded
  simp only [rolled_period]
  split_ifs with hzero hdecoded hdecoded
  · omega
  · exact absurd ⟨hzero.2.1, hzero.1, rfl⟩ hdecoded
  · have hlt := hsentinel hdecoded.1 hdecoded.2.1
    have hleft := hdecoded.2.2
    unfold zeroPeriodicRemainingSentinel at hleft
    omega
  · omega

end SpendingLimitState

/-- `effective_limit_state`: zero for the root key and for inactive keys. -/
def effectiveLimitState [KeyHash] (spec : TempoHardfork) (s : KeychainState)
    (account keyId token : Address) (now : ℕ) : ℕ × ℕ :=
  if keyId = 0 ∧ spec.isT3 = true then (0, 0)
  else
    let key := s.keys account keyId
    if key.isRevoked = true ∨ key.expiry = 0 then (0, 0)
    else if key.expiry ≤ now ∧ spec.isT3 = true then (0, 0)
    else (s.limit account keyId token).viewAt spec now

/-- `effective_remaining_limit`. -/
def effectiveRemainingLimit [KeyHash] (spec : TempoHardfork) (s : KeychainState)
    (account keyId token : Address) (now : ℕ) : ℕ :=
  (effectiveLimitState spec s account keyId token now).1

section View

variable [KeyHash] {key : AuthorizedKey} {ctx : Context} {account keyId token : Address}
  {amount : ℕ} {s : KeychainState}

/-- The view of an active key shows its row. -/
theorem effectiveLimitState_eq (hkey : keyId ≠ 0) {now : ℕ} {spec : TempoHardfork}
    (hactive : loadActiveKey s account keyId now = .ok key) :
    effectiveLimitState spec s account keyId token now =
      (s.limit account keyId token).viewAt spec now := by
  obtain ⟨rfl, hrevoked, hexpiry⟩ := loadActiveKey_ok hactive
  unfold effectiveLimitState
  rw [if_neg fun hcontra => hkey hcontra.1]
  simp only [hrevoked, Bool.false_eq_true, false_or]
  rw [if_neg (by omega), if_neg (by omega)]

/-- A spend by a key with enforced limits is a spend on its row. -/
theorem verifyAndUpdateSpending_eq (hT3 : ctx.spec.isT3 = true) (hkey : keyId ≠ 0)
    (hactive : loadActiveKey s account keyId ctx.now = .ok key)
    (henforced : key.enforceLimits = true) :
    verifyAndUpdateSpending ctx account keyId token amount s =
      match (s.limit account keyId token).spend ctx.spec ctx.now amount with
      | some updated => .ok () (s.setLimit (spendingLimitKey account keyId) token updated)
      | none => .error (.keychain .spendingLimitExceeded) s := by
  have hload :
      (fromExcept (loadActiveKey s account keyId ctx.now) : KeychainM _) s = .ok key s := by
    rw [hactive]
    rfl
  unfold verifyAndUpdateSpending onlyIf
  rw [if_pos hkey]
  refine (bind_eq_of_ok hload).trans ?_
  simp only [henforced, if_true, hT3, Bool.not_true, Bool.false_eq_true, if_false]
  show (okOr ((s.limit account keyId token).spend ctx.spec ctx.now amount) _ >>= _) s = _
  cases (s.limit account keyId token).spend ctx.spec ctx.now amount with
  | none | some => rfl

/-- The view and the enforcement of a limit agree.  A spend by an active key succeeds
exactly if the view at the time covers it; then the view at that time has dropped by the
amount and still reports the same end of the period. -/
theorem view_agrees_with_enforcement (s : KeychainState) (ctx : Context)
    (account keyId token : Address) (amount : ℕ) (hT3 : ctx.spec.isT3 = true) (hkey : keyId ≠ 0)
    (hactive : loadActiveKey s account keyId ctx.now = .ok key)
    (henforced : key.enforceLimits = true)
    (hexpiry : key.expiry ≤ u64Max) (hfits : (s.limit account keyId token).Fits) :
    ((∃ s', verifyAndUpdateSpending ctx account keyId token amount s = .ok () s') ↔
        amount ≤ effectiveRemainingLimit ctx.spec s account keyId token ctx.now) ∧
      ∀ s', verifyAndUpdateSpending ctx account keyId token amount s = .ok () s' →
        effectiveRemainingLimit ctx.spec s' account keyId token ctx.now + amount =
            effectiveRemainingLimit ctx.spec s account keyId token ctx.now ∧
          (effectiveLimitState ctx.spec s' account keyId token ctx.now).2 =
            (effectiveLimitState ctx.spec s account keyId token ctx.now).2 := by
  have hnow : ctx.now < u64Max := Nat.lt_of_lt_of_le (loadActiveKey_ok hactive).2.2 hexpiry
  unfold effectiveRemainingLimit
  rw [verifyAndUpdateSpending_eq hT3 hkey hactive henforced, effectiveLimitState_eq hkey hactive]
  cases hspend : (s.limit account keyId token).spend ctx.spec ctx.now amount with
  | none =>
    have hshort := (spend_eq_none hT3).mp hspend
    refine ⟨⟨?_, fun hle => absurd hle (Nat.not_le_of_lt hshort)⟩, ?_⟩
    · rintro ⟨_, ⟨⟩⟩
    · rintro _ ⟨⟩
  | some updated =>
    have hcovered : amount ≤ ((s.limit account keyId token).viewAt ctx.spec ctx.now).1 := by
      refine Nat.le_of_not_lt fun hshort => ?_
      rw [(spend_eq_none hT3).mpr hshort] at hspend
      exact nomatch hspend
    refine ⟨⟨fun _ => hcovered, fun _ => ⟨_, rfl⟩⟩, fun s' hrun => ?_⟩
    obtain rfl := (EStateM.Result.ok.inj hrun).2
    have hsame : loadActiveKey (s.setLimit (spendingLimitKey account keyId) token updated) account
        keyId ctx.now = .ok key := hactive
    rw [effectiveLimitState_eq hkey hsame, limit_setLimit]
    exact viewAt_spend hT3 hfits hnow hspend

end View

/-- In the period after the one stored, ten are left and all ten are spent. -/
theorem view_agrees_with_enforcement_depleted :
    letI := KeyHash.concat
    effectiveLimitState .T7 limitedKeychain 1 7 2 4 = (10, 8) ∧
      ∃ s', verifyAndUpdateSpending (blockAt 4) 1 7 2 10 limitedKeychain = .ok () s' ∧
        effectiveRemainingLimit .T7 s' 1 7 2 4 + 10 = 10 := by
  let := KeyHash.concat
  have hview : effectiveLimitState .T7 limitedKeychain 1 7 2 4 = (10, 8) := by decide +kernel
  obtain ⟨hiff, hdrop⟩ := view_agrees_with_enforcement limitedKeychain (blockAt 4) 1 7 2 10 rfl
    (by decide) rfl rfl (by decide) ⟨by decide, by decide⟩
  obtain ⟨s', hrun⟩ := hiff.mpr (congrArg Prod.fst hview).ge
  exact ⟨hview, s', hrun, (hdrop s' hrun).1.trans (congrArg Prod.fst hview)⟩

end Monotempo.Keychain
