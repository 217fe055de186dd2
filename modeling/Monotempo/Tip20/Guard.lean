/-
  The guard keeps what it owes.

  One account holds the funds of every blocked payment, and one slot per receipt says how
  much of them is unclaimed.  A slot is written when its receipt is issued and cleared when
  the receipt is consumed; the nonce keeps receipts apart.
-/
import Monotempo.Tip20.Calls

set_option autoImplicit false

namespace Monotempo.Tip20

open Chain Foundation Function

/-! ## Slots -/

section Guarded

variable [ReceiptHash] {ctx : Context} {w w' w'' : World} {receipt other : ClaimReceipt}
  {token : Address} {amount result : ℕ} {st st' : TokenState} {call : Call}

/-- The unclaimed amount of a receipt. -/
def World.slot (w : World) (receipt : ClaimReceipt) : ℕ := w.guard.balances (receiptKey receipt)

/-- The unclaimed amounts of the receipts of a token. -/
def World.unclaimed (w : World) (token : Address) (receipt : ClaimReceipt) : ℕ :=
  if receipt.token = token then w.slot receipt else 0

/-- The nonces below are used. -/
def World.nextNonce (w : World) : ℕ := max w.guard.nonce 1

theorem slot_record (w : World) (receipt : ClaimReceipt) (amount : ℕ) :
    (w.record receipt amount).slot = update w.slot receipt amount := by
  funext other
  by_cases heq : other = receipt
  · subst heq
    simp [World.slot, World.record]
  · have hkey : receiptKey other ≠ receiptKey receipt :=
      fun hkey => heq (ReceiptHash.injective hkey)
    simp [World.slot, World.record, heq, hkey]

theorem slot_clear (w : World) (receipt : ClaimReceipt) :
    (w.clear receipt).slot = update w.slot receipt 0 := by
  funext other
  by_cases heq : other = receipt
  · subst heq
    simp [World.slot, World.clear]
  · have hkey : receiptKey other ≠ receiptKey receipt :=
      fun hkey => heq (ReceiptHash.injective hkey)
    simp [World.slot, World.clear, heq, hkey]

/-- Changing the slot of a receipt changes what its token owes, and no other. -/
theorem unclaimed_update (h : w'.slot = update w.slot receipt amount) :
    w'.unclaimed receipt.token =
        update (w.unclaimed receipt.token) receipt amount ∧
      ∀ token, token ≠ receipt.token → w'.unclaimed token = w.unclaimed token := by
  refine ⟨?_, ?_⟩
  · funext other
    unfold World.unclaimed
    rw [h]
    by_cases heq : other = receipt
    · simp [heq]
    · simp [heq]
  · intro token hne
    funext other
    unfold World.unclaimed
    rw [h]
    by_cases heq : other = receipt
    · subst heq
      simp [hne.symm]
    · simp [heq]

/-! ## Custody -/

/-- What the guard has of every token covers the unclaimed receipts, receipts have nonces
that were used, and nobody may spend from the guard. -/
structure Custody (w : World) : Prop where
  backed : ∀ token, Backed (w.unclaimed token)
    ((w.tokens token).balances receivePolicyGuardAddress)
  issued : ∀ receipt, w.slot receipt ≠ 0 → receipt.blockedNonce < w.nextNonce
  allowances : ∀ token spender, (w.tokens token).allowances receivePolicyGuardAddress spender = 0

/-- The guard holds no receipts and has approved nobody. -/
structure NoReceipts (w : World) : Prop where
  slots : ∀ key, w.guard.balances key = 0
  allowances : ∀ token spender, (w.tokens token).allowances receivePolicyGuardAddress spender = 0

theorem NoReceipts.custody (h : NoReceipts w) : Custody w := by
  have hslot : ∀ receipt, w.slot receipt = 0 := fun receipt => h.slots _
  refine ⟨fun token => ?_, fun receipt hne => absurd (hslot receipt) hne, h.allowances⟩
  refine Backed.of_le (backed_zero (Int.natCast_nonneg _)) fun receipt => ?_
  unfold World.unclaimed
  simp [hslot]

/-- What a token may do without a receipt: the guard has as much as before and nobody may
spend it. -/
structure GuardKept (st st' : TokenState) : Prop where
  balance : st.balances receivePolicyGuardAddress ≤ st'.balances receivePolicyGuardAddress
  allowances : (∀ spender, st.allowances receivePolicyGuardAddress spender = 0) →
    ∀ spender, st'.allowances receivePolicyGuardAddress spender = 0

omit [ReceiptHash] in
theorem allowances_setToken
    (h : ∀ token spender, (w.tokens token).allowances receivePolicyGuardAddress spender = 0)
    (hst : ∀ spender, st.allowances receivePolicyGuardAddress spender = 0) :
    ∀ other spender,
      ((w.setToken token st).tokens other).allowances receivePolicyGuardAddress spender = 0 := by
  intro other spender
  by_cases heq : other = token
  · rw [heq, setToken_self]
    exact hst spender
  · rw [setToken_other heq]
    exact h other spender

theorem Custody.setToken (h : Custody w) (hkept : GuardKept (w.tokens token) st) :
    Custody (w.setToken token st) := by
  refine ⟨fun other => ?_, h.issued, allowances_setToken h.allowances
    (hkept.allowances (h.allowances token))⟩
  by_cases heq : other = token
  · rw [heq, setToken_self]
    exact (h.backed token).mono (Int.ofNat_le.mpr hkept.balance)
  · rw [setToken_other heq]
    exact h.backed other

/-- A receipt is issued for funds that the guard has received. -/
theorem Custody.record (h : Custody w) (hnonce : receipt.blockedNonce = w.nextNonce)
    (hallowances : ∀ spender, st.allowances receivePolicyGuardAddress spender = 0)
    (hfunds : (w.tokens receipt.token).balances receivePolicyGuardAddress + amount =
      st.balances receivePolicyGuardAddress) :
    Custody ((w.setToken receipt.token st).record receipt amount) := by
  have hslot : ((w.setToken receipt.token st).record receipt amount).slot =
      update w.slot receipt amount := slot_record _ _ _
  obtain ⟨hsame, hothers⟩ := unclaimed_update hslot
  refine ⟨fun token => ?_, fun other hne => ?_,
    allowances_setToken h.allowances hallowances⟩
  · show Backed _ (((w.setToken receipt.token st).tokens token).balances _ : ℕ)
    by_cases heq : token = receipt.token
    · rw [heq, hsame, setToken_self]
      refine (h.backed receipt.token).update receipt ?_
      omega
    · rw [hothers token heq, setToken_other heq]
      exact h.backed token
  · show other.blockedNonce < max (receipt.blockedNonce + 1) 1
    by_cases heq : other = receipt
    · rw [heq]
      omega
    · rw [hslot, update_of_ne heq] at hne
      have hissued := h.issued other hne
      omega

/-- A receipt is consumed, and the guard pays what it was for. -/
theorem Custody.clear (h : Custody w) (hallowances : st.allowances =
      (w.tokens receipt.token).allowances)
    (hfunds : (w.tokens receipt.token).balances receivePolicyGuardAddress ≤
      st.balances receivePolicyGuardAddress + w.slot receipt) :
    Custody ((w.clear receipt).setToken receipt.token st) := by
  have hslot : ((w.clear receipt).setToken receipt.token st).slot =
      update w.slot receipt 0 := slot_clear _ _
  obtain ⟨hsame, hothers⟩ := unclaimed_update hslot
  refine ⟨fun token => ?_, fun other hne => ?_, ?_⟩
  · by_cases heq : token = receipt.token
    · rw [heq, hsame, setToken_self]
      refine (h.backed receipt.token).update receipt ?_
      rw [World.unclaimed, if_pos rfl]
      omega
    · rw [hothers token heq, setToken_other heq]
      exact h.backed token
  · rw [hslot] at hne
    by_cases heq : other = receipt
    · rw [heq, update_self] at hne
      exact absurd rfl hne
    · rw [update_of_ne heq] at hne
      exact h.issued other hne
  · refine allowances_setToken h.allowances ?_
    rw [hallowances]
    exact h.allowances receipt.token

/-! ## Calls -/

/-- From T6 on the guard neither sends nor signs anything, so it never registers virtual
addresses either. -/
structure Guarded (ctx : Context) (call : Call) : Prop where
  fork : ctx.spec.isT6 = true
  onToken : isTip20 call.tokenAddress = true
  actor : call.actor ≠ some receivePolicyGuardAddress
  master : ∀ id, ctx.master id ≠ some receivePolicyGuardAddress

omit [ReceiptHash] in
/-- Only the guard itself resolves to the guard. -/
theorem resolve_ne_guard {dest : Address} {destination : Recipient}
    (hmaster : ∀ id, ctx.master id ≠ some receivePolicyGuardAddress)
    (hdest : dest ≠ receivePolicyGuardAddress)
    (h : Recipient.resolve ctx dest = .ok destination) :
    destination.target ≠ receivePolicyGuardAddress := by
  obtain ⟨effective, heffective, h⟩ := except_bind_ok.mp h
  have htarget : destination.target = effective := by
    obtain rfl := Except.ok.inj h
    split
    · rename_i hsame
      exact hsame.symm
    · rfl
  rw [htarget]
  unfold resolveRecipient at heffective
  split at heffective
  · obtain rfl := Except.ok.inj heffective
    exact hdest
  · split at heffective
    · cases hregistered : ctx.master (masterId dest) with
      | none =>
        rw [hregistered] at heffective
        exact nomatch heffective
      | some master =>
        rw [hregistered] at heffective
        obtain rfl := Except.ok.inj heffective
        exact fun hguard => hmaster _ (hguard ▸ hregistered)
    · obtain rfl := Except.ok.inj heffective
      exact hdest

omit [ReceiptHash] in
/-- The guard pays for no operation of a token: it is protected from `burn_blocked`. -/
theorem TokenOp.guardKept {op : TokenOp} (hT6 : ctx.spec.isT6 = true)
    (htoken : isTip20 token = true) (hactor : op.actor ≠ some receivePolicyGuardAddress)
    (hrun : op.run ctx token st = .ok () st') : GuardKept st st' := by
  have hzero := isTip20_ne_zero htoken
  refine ⟨?_, fun hnone => op.noAllowance hzero hactor hnone hrun⟩
  rcases op.effect hzero hrun with heffect | heffect
  · refine heffect.le_balance fun hpays => ?_
    cases op with
    | create => exact hpays
    | burn | transferFeePreTx | distributeReward => exact hactor (congrArg some hpays.symm)
    | burnBlocked sender owner amount =>
      refine (burnBlocked_ok hrun).1 ⟨rfl, ?_⟩
      have howner : owner = receivePolicyGuardAddress := hpays.symm
      simp [isProtected, howner, hT6]
    | channelReserveTransfer sender dest amount receivePolicySender =>
      exact hactor (congrArg some hpays.symm)
    | transferFeePostTx dest refund =>
      exact absurd (show receivePolicyGuardAddress = tipFeeManagerAddress from hpays)
        (by decide)
    | setRewardRecipient sender recipient => exact hpays
    | claimRewards sender =>
      have hguard : token = receivePolicyGuardAddress := hpays.symm
      rw [hguard] at htoken
      exact absurd htoken (by decide)
    | setSupplyCap | approve | permit => exact hpays
  · rw [heffect.balances]

/-- The receipt that a call consumes. -/
def Call.consumes : Call → Option ClaimReceipt
  | .claim _ _ receipt => some receipt
  | .burnBlockedReceipt _ receipt => some receipt
  | _ => none

/-- The amount that a call pays to its recipient. -/
def Call.inbound : Call → ℕ
  | .mint _ _ _ amount _ => amount
  | .transfer _ _ _ amount _ => amount
  | .transferFrom _ _ _ _ amount _ => amount
  | .systemTransferFrom _ _ _ amount => amount
  | _ => 0

/-- The address that a call pays. -/
def Call.dest : Call → Address
  | .mint _ _ dest _ _ => dest
  | .transfer _ _ dest _ _ => dest
  | .transferFrom _ _ _ dest _ _ => dest
  | .systemTransferFrom _ caller _ _ => caller
  | _ => 0

/-- What a call that consumes a receipt does with its amount: a claim pays it to the resolved
destination, which is not the guard, and a burn takes it off the supply. -/
inductive Released (ctx : Context) (call : Call) (receipt : ClaimReceipt) (st st' : TokenState)
    (amount : ℕ) : Prop where
  | paid {sender dest : Address} {destination : Recipient}
      (claim : call = .claim sender dest receipt)
      (resolved : Recipient.resolve ctx dest = .ok destination)
      (other : destination.target ≠ receivePolicyGuardAddress)
      (moved : Moved st st' receivePolicyGuardAddress destination.target amount)
  | burned {sender : Address} (burn : call = .burnBlockedReceipt sender receipt)
      (burned : Burned st st' receivePolicyGuardAddress amount)

omit [ReceiptHash] in
theorem Released.balance (h : Released ctx call receipt st st' amount) :
    st'.balances receivePolicyGuardAddress + amount = st.balances receivePolicyGuardAddress := by
  cases h with
  | paid claim resolved other moved =>
    have henough := moved.enough
    rw [moved.balances]
    simp only [credit, debit, update_of_ne other.symm, update_self]
    omega
  | burned burn burned =>
    have henough := burned.enough
    rw [burned.balances]
    simp only [debit, update_self]
    omega

omit [ReceiptHash] in
theorem Released.allowances (h : Released ctx call receipt st st' amount) :
    st'.allowances = st.allowances := by
  cases h with
  | paid claim resolved other moved => exact moved.allowances
  | burned burn burned => exact burned.allowances

/-- What a call did to the slot of a receipt. -/
inductive SlotChange (ctx : Context) (w : World) (call : Call) (result : ℕ) (w' : World)
    (receipt : ClaimReceipt) : Prop where
  | kept (consumes : call.consumes ≠ some receipt) (slot : w'.slot receipt = w.slot receipt)
  /-- the receipt was consumed for its amount, which the guard paid or burned -/
  | consumed (consumes : call.consumes = some receipt) (unclaimed : w.slot receipt ≠ 0)
      (slot : w'.slot receipt = 0) (returned : result = w.slot receipt)
      (funds : Released ctx call receipt (w.tokens receipt.token) (w'.tokens receipt.token)
        result)
      (balance : (w'.tokens receipt.token).balances receivePolicyGuardAddress + w.slot receipt =
        (w.tokens receipt.token).balances receivePolicyGuardAddress)
  /-- the receipt was issued for a blocked payment, and it encodes who may recover it -/
  | issued (recipient : Recipient) (consumes : call.consumes = none)
      (resolved : Recipient.resolve ctx call.dest = .ok recipient)
      (nonce : receipt.blockedNonce = w.nextNonce) (unused : w.slot receipt = 0)
      (slot : w'.slot receipt = call.inbound)
      (authority : receipt.recoveryAuthority =
        receivePolicyRecovery (ctx.receivePolicies recipient.target) recipient.target)

omit [ReceiptHash] in
/-- The answer of the receive policy names its recovery. -/
theorem checkReceivePolicy_recovery {sender receiver recovery : Address} {reason : BlockedReason}
    (h : checkReceivePolicy ctx token sender receiver = .ok (some (reason, recovery))) :
    recovery = receivePolicyRecovery (ctx.receivePolicies receiver) receiver := by
  unfold checkReceivePolicy at h
  simp only at h
  split at h
  · exact nomatch h
  · obtain ⟨tokenAllowed, -, h⟩ := except_bind_ok.mp h
    split at h
    · obtain ⟨-, rfl⟩ := Prod.mk.inj (Option.some.inj (Except.ok.inj h))
      rfl
    · obtain ⟨senderAllowed, -, h⟩ := except_bind_ok.mp h
      split at h
      · obtain ⟨-, rfl⟩ := Prod.mk.inj (Option.some.inj (Except.ok.inj h))
        rfl
      · exact nomatch h

omit [ReceiptHash] in
theorem Call.payment_facts {p : Payment} (h : call.payment = some p) :
    call.consumes = none ∧ call.inbound = p.amount ∧ call.dest = p.dest := by
  cases call with
  | transfer | transferFrom | systemTransferFrom =>
    obtain rfl := Option.some.inj h; exact ⟨rfl, rfl, rfl⟩
  | operation | mint | claim | burnBlockedReceipt => exact nomatch h

/-- What the step of an allowed call does to custody. -/
structure GuardStep (ctx : Context) (w : World) (call : Call) (result : ℕ) (w' : World) :
    Prop where
  custody : Custody w'
  slots : ∀ receipt, SlotChange ctx w call result w' receipt
  nonce : w.nextNonce ≤ w'.nextNonce
  balance : call.consumes = none → ∀ token,
    (w.tokens token).balances receivePolicyGuardAddress ≤
      (w'.tokens token).balances receivePolicyGuardAddress

omit [ReceiptHash] in
theorem setToken_balance (h : (w.tokens token).balances receivePolicyGuardAddress ≤
    st.balances receivePolicyGuardAddress) (other : Address) :
    (w.tokens other).balances receivePolicyGuardAddress ≤
      ((w.setToken token st).tokens other).balances receivePolicyGuardAddress := by
  by_cases heq : other = token
  · rw [heq, setToken_self]
    exact h
  · rw [setToken_other heq]

/-- A step that works on one token and leaves the guard alone. -/
theorem GuardStep.ofToken (h : Custody w) (hconsumes : call.consumes = none)
    (hkept : GuardKept (w.tokens token) st) :
    GuardStep ctx w call result (w.setToken token st) where
  custody := h.setToken hkept
  slots _ := .kept (by rw [hconsumes]; exact nofun) rfl
  nonce := Nat.le_refl _
  balance _ := setToken_balance hkept.balance

theorem GuardStep.ofReceipt (receipt : ClaimReceipt) (call : Call) {recipient : Recipient}
    (h : Custody w)
    (hconsumes : call.consumes = none)
    (hresolved : Recipient.resolve ctx call.dest = .ok recipient)
    (hnonce : receipt.blockedNonce = w.nextNonce)
    (hauthority : receipt.recoveryAuthority =
      receivePolicyRecovery (ctx.receivePolicies recipient.target) recipient.target)
    (hallowances : ∀ spender, st.allowances receivePolicyGuardAddress spender = 0)
    (hfunds : (w.tokens receipt.token).balances receivePolicyGuardAddress + call.inbound =
      st.balances receivePolicyGuardAddress) :
    GuardStep ctx w call result ((w.setToken receipt.token st).record receipt call.inbound) where
  custody := h.record hnonce hallowances hfunds
  slots other := by
    have hslot : ((w.setToken receipt.token st).record receipt call.inbound).slot =
        update w.slot receipt call.inbound := slot_record _ _ _
    by_cases heq : other = receipt
    · subst heq
      -- a slot that is not issued yet is empty
      have hunused : w.slot other = 0 := by
        by_contra hne
        exact absurd hnonce (Nat.ne_of_lt (h.issued other hne))
      refine .issued recipient hconsumes hresolved hnonce hunused ?_ hauthority
      rw [hslot, update_self]
    · refine .kept (by rw [hconsumes]; exact nofun) ?_
      rw [hslot, update_of_ne heq]
  nonce := by
    show w.nextNonce ≤ max (receipt.blockedNonce + 1) 1
    omega
  balance _ := setToken_balance (by omega)

theorem GuardStep.ofClear (h : Custody w) (hconsumes : call.consumes = some receipt)
    (hunclaimed : w.slot receipt ≠ 0)
    (hfunds : Released ctx call receipt (w.tokens receipt.token) st (w.slot receipt)) :
    GuardStep ctx w call (w.slot receipt) ((w.clear receipt).setToken receipt.token st) where
  custody := h.clear hfunds.allowances (Nat.le_of_eq hfunds.balance.symm)
  slots other := by
    have hslot : ((w.clear receipt).setToken receipt.token st).slot =
        update w.slot receipt 0 := slot_clear _ _
    by_cases heq : other = receipt
    · subst heq
      refine .consumed hconsumes hunclaimed ?_ rfl ?_ ?_
      · rw [hslot, update_self]
      · rw [setToken_self]
        exact hfunds
      · rw [setToken_self]
        exact hfunds.balance
    · refine .kept ?_ ?_
      · rw [hconsumes]
        exact fun hsame => heq (Option.some.inj hsame).symm
      · rw [hslot, update_of_ne heq]
  nonce := Nat.le_refl _
  balance hnone := by
    rw [hconsumes] at hnone
    exact nomatch hnone

theorem Custody.step (h : Custody w) (hguarded : Guarded ctx call)
    (hstep : CallStep ctx w call result w') : GuardStep ctx w call result w' := by
  obtain ⟨hT6, htoken, hactor, hmaster⟩ := hguarded
  cases hstep with
  | operation run => exact .ofToken h rfl (TokenOp.guardKept hT6 htoken hactor run)
  | @delivered _ p recipient st₁ st₂ payment valid direct spent transfer =>
    obtain ⟨hpays, hbalances, hallowances⟩ :=
      Call.payment_spent (h.allowances p.token) hactor payment spent
    have hmoved := innerTransfer_moved valid transfer
    refine .ofToken h (Call.payment_facts payment).1 ⟨?_, fun _ => ?_⟩
    · rw [hmoved.balanceOf hpays, hbalances]
      exact Nat.le_add_right _ _
    · rw [hmoved.allowances]
      exact hallowances
  | @diverted _ p recipient st₁ st₂ reason recovery payment resolved spent policy transfer =>
    obtain ⟨hpays, hbalances, hallowances⟩ :=
      Call.payment_spent (h.allowances p.token) hactor payment spent
    obtain ⟨hconsumes, hinbound, hdest⟩ := Call.payment_facts payment
    have hmoved := innerTransfer_moved (by decide) transfer
    rw [← hinbound]
    refine .ofReceipt (w.newReceipt ctx p.token p.sender recipient recovery reason .transfer
      p.memo) _ h hconsumes (hdest ▸ resolved) rfl
      (checkReceivePolicy_recovery policy) ?_ ?_
    · rw [hmoved.allowances]
      exact hallowances
    · rw [hmoved.balanceOf hpays, hbalances, hinbound]
      rfl
  | minted direct mint =>
    have hminted := innerMint_ok mint
    refine .ofToken h rfl ⟨?_, fun hnone => ?_⟩
    · rw [hminted.balanceOf]
      exact Nat.le_add_right _ _
    · rw [hminted.allowances]
      exact hnone
  | @mintDiverted token sender dest amount memo recipient st reason recovery resolved policy mint =>
    have hminted := innerMint_ok mint
    refine .ofReceipt (w.newReceipt ctx token sender recipient recovery reason .mint memo)
      (.mint token sender dest amount memo) h rfl
      resolved rfl (checkReceivePolicy_recovery policy) ?_ ?_
    · rw [hminted.allowances]
      exact h.allowances token
    · rw [hminted.balanceOf]
      rfl
  | claimed authority other unclaimed release =>
    obtain ⟨destination, hresolved, hmoved⟩ := releaseBlockedFunds_ok release
    have htarget := resolve_ne_guard hmaster other hresolved
    exact .ofClear h rfl unclaimed (.paid rfl hresolved htarget hmoved)
  | receiptBurned unclaimed burn =>
    exact .ofClear h rfl unclaimed (.burned rfl (burnBlocked_ok burn).2)

theorem Custody.run (h : Custody w) (run : WorldRun Guarded w w') : Custody w' := by
  induction run with
  | refl => exact h
  | tail _ step ih =>
    obtain ⟨ctx, call, result, hguarded, hcall⟩ := step
    exact (ih.step hguarded (Call.step hcall)).custody

/-! ## Receipts are consumed once -/

/-- A run with its calls and what they returned, the last one first. -/
inductive TracedRun (allowed : Context → Call → Prop) (w : World) :
    List (Call × ℕ) → World → Prop where
  | start : TracedRun allowed w [] w
  | call {trace : List (Call × ℕ)} {w' w'' : World} {ctx : Context} {call : Call} {result : ℕ}
      (run : TracedRun allowed w trace w') (allows : allowed ctx call)
      (returned : call.run ctx w' = .ok result w'') :
      TracedRun allowed w ((call, result) :: trace) w''

/-- What the consumption of a receipt returned, each time that it was consumed. -/
def consumptions (receipt : ClaimReceipt) (trace : List (Call × ℕ)) : List ℕ :=
  (trace.filter fun entry => entry.1.consumes = some receipt).map Prod.snd

/-- A receipt is untouched, or was consumed once for the amount recorded in its slot. -/
def ConsumedOnce (receipt : ClaimReceipt) (w : World) (trace : List (Call × ℕ)) (w' : World) :
    Prop :=
  (consumptions receipt trace = [] ∧ w'.slot receipt = w.slot receipt) ∨
    (consumptions receipt trace = [w.slot receipt] ∧ w.slot receipt ≠ 0 ∧ w'.slot receipt = 0)

theorem TracedRun.consumedOnce {trace : List (Call × ℕ)} (h : Custody w)
    (hissued : receipt.blockedNonce < w.nextNonce) (run : TracedRun Guarded w trace w') :
    Custody w' ∧ receipt.blockedNonce < w'.nextNonce ∧ ConsumedOnce receipt w trace w' := by
  induction run with
  | start => exact ⟨h, hissued, .inl ⟨rfl, rfl⟩⟩
  | call run allows returned ih =>
    obtain ⟨hcustody, hnonce, honce⟩ := ih
    have hstep := hcustody.step allows (Call.step returned)
    refine ⟨hstep.custody, Nat.lt_of_lt_of_le hnonce hstep.nonce, ?_⟩
    cases hstep.slots receipt with
    | kept consumes slot =>
      rw [ConsumedOnce, consumptions, List.filter_cons_of_neg (by simpa using consumes), slot]
      exact honce
    | consumed consumes unclaimed slot returned funds balance =>
      rcases honce with ⟨hnone, hsame⟩ | ⟨-, -, hzero⟩
      · rw [ConsumedOnce, consumptions, List.filter_cons_of_pos (by simpa using consumes),
          List.map_cons, returned, ← consumptions, hnone, ← hsame]
        exact .inr ⟨rfl, unclaimed, slot⟩
      · exact absurd hzero unclaimed
    | issued recipient consumes resolved nonce => omega

/-- In every state that calls reach from T6 on, the guard has at least the unclaimed amounts
of the receipts of every token.  A call leaves the slot of a receipt as it is, consumes the
receipt, or issues it with the recovery authority of the recipient's policy.  A consumed receipt
costs the guard exactly the recorded amount, which goes to the resolved destination of the claim
or is burned.  Only that authority claims it, only claims and burns of receipts lower the
balance of the guard, and whatever is called later an issued receipt is consumed at most once,
for the amount that was recorded. -/
theorem guard_custody {start : World} (hstart : NoReceipts start)
    (run : WorldRun Guarded start w) :
    (∀ token, Backed (w.unclaimed token) ((w.tokens token).balances receivePolicyGuardAddress)) ∧
      (∀ (ctx : Context) (call : Call) (result : ℕ) (w' : World), Guarded ctx call →
        call.run ctx w = .ok result w' →
        (∀ receipt, SlotChange ctx w call result w' receipt) ∧
        (∀ sender dest receipt, call = .claim sender dest receipt →
          sender = if receipt.recoveryAuthority = 0 then receipt.originator
            else receipt.recoveryAuthority) ∧
        (call.consumes = none → ∀ token,
          (w.tokens token).balances receivePolicyGuardAddress ≤
            (w'.tokens token).balances receivePolicyGuardAddress)) ∧
      ∀ receipt trace w', receipt.blockedNonce < w.nextNonce →
        TracedRun Guarded w trace w' → ConsumedOnce receipt w trace w' := by
  have hcustody := hstart.custody.run run
  refine ⟨hcustody.backed, ?_, ?_⟩
  · intro ctx call result w' hguarded hcall
    have hstep := hcustody.step hguarded (Call.step hcall)
    refine ⟨hstep.slots, ?_, hstep.balance⟩
    rintro sender dest receipt rfl
    cases Call.step hcall with
    | claimed authority other unclaimed release => exact authority
    | delivered payment | diverted payment => exact nomatch payment
  · intro receipt trace w' hissued htrace
    exact (htrace.consumedOnce hcustody hissued).2.2

end Guarded

/-- Account eight refuses a transfer, and claims it. -/
theorem guard_custody_claimed :
    letI := ReceiptHash.paired
    ∃ w w', WorldRun Guarded .empty w ∧ w.slot blockedReceipt = 30 ∧
      TracedRun Guarded w [(.claim 8 9 blockedReceipt, 30)] w' ∧
      ConsumedOnce blockedReceipt w [(.claim 8 9 blockedReceipt, 30)] w' := by
  let := ReceiptHash.paired
  let ctx := Context.permissive .T6 (· == 8)
  have hreturned : returned ((do
      runCalls ctx (blockedSample.take 3)
      let w ← get
      require (w.slot blockedReceipt = 30 ∧ blockedReceipt.blockedNonce < w.nextNonce)
        .underOverflow
      let paid ← (Call.claim 8 9 blockedReceipt).run ctx
      require (paid = 30) .underOverflow : WorldM Unit) .empty) = true := by
    decide +kernel
  obtain ⟨_, w', hrun⟩ := returned_iff.mp hreturned
  obtain ⟨_, w, hcalls, hrun⟩ := bind_ok.mp hrun
  rw [get_bind_ok, require_bind_ok] at hrun
  obtain ⟨⟨hslot, hissued⟩, hrun⟩ := hrun
  obtain ⟨paid, w₁, hclaim, hrun⟩ := bind_ok.mp hrun
  obtain ⟨rfl, rfl⟩ := require_ok.mp hrun
  have hguarded : ∀ call ∈ blockedSample, Guarded ctx call := by
    have hdecided : ∀ call ∈ blockedSample, isTip20 call.tokenAddress = true ∧
        call.actor ≠ some receivePolicyGuardAddress := by
      decide
    exact fun call hmem => ⟨rfl, (hdecided call hmem).1, (hdecided call hmem).2, nofun⟩
  have hreach : WorldRun Guarded .empty w :=
    worldRun_of_runCalls (fun call hmem => hguarded call (List.mem_of_mem_take hmem)) hcalls
  have htrace : TracedRun Guarded w [(.claim 8 9 blockedReceipt, 30)] w₁ :=
    .call .start (hguarded _ (by simp [blockedSample])) hclaim
  have hempty : NoReceipts .empty := ⟨fun _ => rfl, fun _ _ => rfl⟩
  exact ⟨w, w₁, hreach, hslot, htrace,
    (guard_custody hempty hreach).2.2 blockedReceipt _ w₁ hissued htrace⟩

end Monotempo.Tip20
