/-
  What a call of the channel reserve does.

  `Step` says, call by call, what a successful call does to the channels, the
  balances and the journal; the fork-dependent order of writes and transfers is
  gone there.
-/
import Monotempo.Channel.Reserve

set_option autoImplicit false

namespace Monotempo.Channel

open Chain Foundation Function ReserveCore

variable {token payer recipient policySender target : Address} {e : Error}
  {cumulativeAmount signature captureAmount slots additionalDeposit : ℕ} {c : ReserveCore}
  {d : ChannelDescriptor} {s s' : ReserveState} {spec : TempoHardfork} {ctx : Context} {u : Unit}

/-! ## Effects of the building blocks -/

variable {α : Type} {value : Except TokenError α}

theorem liftToken_ok {a : α} :
    liftToken value s = .ok a s' ↔ value = .ok a ∧ s = s' := by
  cases value with
  | error e => simp [liftToken, throw_ok]
  | ok b => simp [liftToken, pure_ok]

theorem liftToken_bind_ok {β : Type} {f : α → ReserveM β} {b : β} :
    (liftToken value >>= f) s = .ok b s' ↔ ∃ a, value = .ok a ∧ f a s = .ok b s' := by
  cases value with
  | error e => exact ⟨nofun, nofun⟩
  | ok a => exact ⟨fun h => ⟨a, rfl, h⟩, fun ⟨_, ha, h⟩ => Except.ok.inj ha ▸ h⟩

variable {state : PackedChannelState} {id : B256}

theorem writeChannel_core (h : writeChannel spec id state s = .ok u s') :
    s'.toReserveCore = s.toReserveCore.setChannel id state := by
  unfold writeChannel at h
  rw [modify_ok] at h
  rw [h]

theorem writeStorageCredits_core (h : writeStorageCredits spec payer slots s = .ok u s') :
    s'.toReserveCore = s.toReserveCore := by
  unfold writeStorageCredits at h
  rw [modify_ok] at h
  rw [h]

theorem withBudget_core {limit : ℕ} {f : ReserveM α} {result : α × ℤ}
    (h : withBudget spec limit f s = .ok result s') :
    ∃ t t', t.toReserveCore = s.toReserveCore ∧ f t = .ok result.1 t' ∧
      s'.toReserveCore = t'.toReserveCore :=
  withBudget_frame ReserveState.toReserveCore (fun _ _ => rfl) h

theorem creditChannelStorageSlots_core
    (h : creditChannelStorageSlots spec payer slots s = .ok u s') :
    s'.toReserveCore = s.toReserveCore := by
  rcases onlyIf_ok.mp h with ⟨_, h⟩ | ⟨_, rfl⟩
  · rw [get_bind_ok] at h
    split at h
    · simp only [bind_ok, require_ok] at h
      obtain ⟨_, t, hbudget, _, rfl⟩ := h
      obtain ⟨t₁, t₂, hstart, hrun, hstop⟩ := withBudget_core hbudget
      rw [hstop, writeStorageCredits_core hrun, hstart]
    · exact writeStorageCredits_core h
  · rfl

theorem deleteChannelState_core (h : deleteChannelStateAndCreditPayer spec id payer s = .ok u s') :
    s'.toReserveCore = s.toReserveCore.setChannel id .empty := by
  obtain ⟨minted, t, htrack, hcredit⟩ := bind_ok.mp h
  rw [creditChannelStorageSlots_core hcredit, writeChannel_core (trackMintedCredits_ok htrack)]

theorem writeChannelStateSpendingCredit_core
    (h : writeChannelStateSpendingCredit spec payer id state s = .ok u s') :
    s'.toReserveCore = s.toReserveCore.setChannel id state := by
  unfold writeChannelStateSpendingCredit at h
  split at h
  · exact writeChannel_core h
  · rw [get_bind_ok] at h
    split at h
    · exact writeChannel_core h
    · obtain ⟨_, t, hclear, h⟩ := bind_ok.mp h
      obtain ⟨written, t', hbudget, h⟩ := bind_ok.mp h
      obtain ⟨_, hcredit⟩ := require_bind_ok.mp h
      obtain ⟨t₁, t₂, hstart, hrun, hstop⟩ := withBudget_core hbudget
      rw [creditChannelStorageSlots_core hcredit, hstop, writeChannel_core hrun, hstart,
        writeStorageCredits_core hclear]

variable {amount : ℕ}

theorem transfer_core {sender : Address}
    (h : transfer ctx token sender recipient amount s = .ok u s') :
    ∃ target credited, resolveRecipient ctx.spec ctx.env recipient = .ok target ∧
      inboundTarget ctx.spec ctx.env token sender target = .ok credited ∧
      amount ≤ s.ledger token sender ∧
      s'.toReserveCore = s.toReserveCore.move token sender credited amount := by
  unfold transfer at h
  rw [get_bind_ok] at h
  simp only [bind_ok, liftToken_ok, modify_ok] at h
  obtain ⟨ledger, _, ⟨hdeliver, rfl⟩, rfl⟩ := h
  obtain ⟨target, credited, hresolve, htarget, hfunds, rfl⟩ := deliver_ok hdeliver
  exact ⟨target, credited, hresolve, htarget, hfunds, rfl⟩

theorem custodyTransfer_core {sender : Address}
    (h : custodyTransfer ctx token sender recipient target amount policySender s = .ok u s') :
    amount ≤ s.ledger token sender ∧
      s'.toReserveCore = s.toReserveCore.move token sender target amount := by
  unfold custodyTransfer at h
  rw [get_bind_ok] at h
  simp only [bind_ok, liftToken_ok, modify_ok] at h
  obtain ⟨ledger, _, ⟨hdeliver, rfl⟩, rfl⟩ := h
  obtain ⟨hfunds, rfl⟩ := channelReserveTransfer_ok hdeliver
  exact ⟨hfunds, rfl⟩

variable {payee : Address}

/-- A funded channel: the whole amount arrives at the reserve. -/
theorem fund_core (h : fund ctx token payer payee policySender amount s = .ok u s') :
    amount ≤ s.ledger token payer ∧
      s'.toReserveCore = s.toReserveCore.move token payer channelReserveAddress amount := by
  unfold fund at h
  split at h
  · simp only [bind_ok, liftToken_ok] at h
    obtain ⟨_, _, ⟨_, rfl⟩, _, _, ⟨_, rfl⟩, _, _, ⟨_, rfl⟩, hmove⟩ := h
    exact custodyTransfer_core hmove
  · simp only [bind_ok, liftToken_ok] at h
    obtain ⟨_, _, ⟨_, rfl⟩, _, _, ⟨_, rfl⟩, hmove⟩ := h
    obtain ⟨target, credited, hresolve, htarget, hfunds, hcore⟩ := transfer_core hmove
    have hself : target = channelReserveAddress := by
      rw [resolveRecipient_self (by decide)] at hresolve
      exact (Except.ok.inj hresolve).symm
    subst hself
    rw [inboundTarget_eq (ctx.accepts token payer) htarget] at hcore
    exact ⟨hfunds, hcore⟩

/-- The account that a payment of the reserve credits: the one that its recipient stands for or,
below T12, the guard if the receive policy of that account refuses the payment. -/
def Context.payoutTarget (ctx : Context) (token recipient : Address) :
    Except TokenError Address := do
  let target ← resolveRecipient ctx.spec ctx.env recipient
  if ctx.spec.isT12 then .ok target
  else inboundTarget ctx.spec ctx.env token channelReserveAddress target

/-- The reserve has an amount, and its payment to a recipient credits the target. -/
structure Payable (ctx : Context) (ledger : Ledger) (token recipient : Address) (amount : ℕ)
    (target : Address) : Prop where
  target : ctx.payoutTarget token recipient = .ok target
  funded : amount ≤ ledger token channelReserveAddress

/-- From T12 on a payment credits the account that its recipient stands for. -/
theorem custodyTransfer_payable (hT12 : ctx.spec.isT12 = true)
    (hresolve : resolveRecipient ctx.spec ctx.env recipient = .ok target)
    (h : custodyTransfer ctx token channelReserveAddress recipient target amount policySender s =
      .ok u s') :
    Payable ctx s.ledger token recipient amount target ∧
      s'.toReserveCore = s.toReserveCore.move token channelReserveAddress target amount := by
  obtain ⟨hfunds, hcore⟩ := custodyTransfer_core h
  refine ⟨⟨except_bind_ok.mpr ⟨target, hresolve, ?_⟩, hfunds⟩, hcore⟩
  rw [if_pos hT12]

theorem transfer_payable (hT12 : ctx.spec.isT12 ≠ true)
    (h : transfer ctx token channelReserveAddress recipient amount s = .ok u s') :
    ∃ target, Payable ctx s.ledger token recipient amount target ∧
      s'.toReserveCore = s.toReserveCore.move token channelReserveAddress target amount := by
  obtain ⟨target, credited, hresolve, htarget, hfunds, hcore⟩ := transfer_core h
  refine ⟨credited, ⟨except_bind_ok.mpr ⟨target, hresolve, ?_⟩, hfunds⟩, hcore⟩
  rw [if_neg hT12]
  exact htarget

theorem loadExistingState_ok :
    loadExistingState id s = .ok state s' ↔
      s.channelStates id = state ∧ state.isActive = true ∧ s = s' := by
  unfold loadExistingState
  rw [get_bind_ok, require_bind_ok, pure_ok]
  constructor
  · rintro ⟨hactive, rfl, rfl⟩
    exact ⟨rfl, hactive, rfl⟩
  · rintro ⟨rfl, hactive, rfl⟩
    exact ⟨hactive, rfl, rfl⟩

variable {descriptor : ChannelDescriptor}

theorem validateVoucher_core
    (h : validateVoucher ctx descriptor id cumulativeAmount signature s = .ok u s') :
    ctx.recover id cumulativeAmount signature = some (expectedSigner descriptor) ∧
      s'.toReserveCore = s.toReserveCore.record id (.voucher cumulativeAmount) := by
  unfold validateVoucher record at h
  rw [require_bind_ok, modify_ok] at h
  obtain ⟨hsigned, rfl⟩ := h
  exact ⟨hsigned, rfl⟩

/-! ## Calls -/

/-- The calls of the reserve, with their senders. -/
inductive ChannelCall where
  | open (sender : Address) (call : OpenCall)
  | settle (sender : Address) (descriptor : ChannelDescriptor)
      (cumulativeAmount signature : ℕ)
  | topUp (sender : Address) (descriptor : ChannelDescriptor) (additionalDeposit : ℕ)
  | requestClose (sender : Address) (descriptor : ChannelDescriptor)
  | close (sender : Address) (descriptor : ChannelDescriptor)
      (cumulativeAmount captureAmount signature : ℕ)
  | withdraw (sender : Address) (descriptor : ChannelDescriptor)
  deriving DecidableEq, Repr

def ChannelCall.sender : ChannelCall → Address
  | .open sender _ => sender
  | .settle sender _ _ _ => sender
  | .topUp sender _ _ => sender
  | .requestClose sender _ => sender
  | .close sender _ _ _ _ => sender
  | .withdraw sender _ => sender

/-- `preserve_storage_credits`, which the dispatcher runs before every call. -/
def preserveStorageCredits (spec : TempoHardfork) : ReserveM Unit :=
  modify fun s =>
    if spec.isT7 then { s with credits := { s.credits with mode := .preserve } } else s

/-- Run a call and return the channel it was about. -/
def ChannelCall.run [ChannelHash] (ctx : Context) : ChannelCall → ReserveM B256
  | .open sender call => do
    preserveStorageCredits ctx.spec
    openChannel ctx sender call
  | .settle sender descriptor cumulativeAmount signature => do
    preserveStorageCredits ctx.spec
    Channel.settle ctx sender descriptor cumulativeAmount signature
    pure (channelId descriptor)
  | .topUp sender descriptor additionalDeposit => do
    preserveStorageCredits ctx.spec
    Channel.topUp ctx sender descriptor additionalDeposit
    pure (channelId descriptor)
  | .requestClose sender descriptor => do
    preserveStorageCredits ctx.spec
    Channel.requestClose ctx sender descriptor
    pure (channelId descriptor)
  | .close sender descriptor cumulativeAmount captureAmount signature => do
    preserveStorageCredits ctx.spec
    Channel.close ctx sender descriptor cumulativeAmount captureAmount signature
    pure (channelId descriptor)
  | .withdraw sender descriptor => do
    preserveStorageCredits ctx.spec
    Channel.withdraw ctx sender descriptor
    pure (channelId descriptor)

/-- A payment out of the reserve; a zero amount is not sent. -/
def ReserveCore.payOut (c : ReserveCore) (id : B256) (token target : Address) (amount : ℕ)
    (movement : ℕ → Movement) : ReserveCore :=
  if amount = 0 then c
  else (c.move token channelReserveAddress target amount).record id (movement amount)

/-- A capture: a voucher and a payment, for what is not settled yet. -/
def ReserveCore.vouched (c : ReserveCore) (id : B256) (token target : Address)
    (settled captureAmount cumulativeAmount : ℕ) : ReserveCore :=
  (if settled < captureAmount then c.record id (.voucher cumulativeAmount) else c).payOut id token
    target (captureAmount - settled) .paid

/-- The funding of a top-up; a zero amount is not sent. -/
def ReserveCore.toppedUp (c : ReserveCore) (id : B256) (token payer : Address) (amount : ℕ) :
    ReserveCore :=
  if amount = 0 then c
  else (c.move token payer channelReserveAddress amount).record id (.toppedUp amount)

/-- What a successful call on the channel `id` does to the core. -/
inductive Step [ChannelHash] (ctx : Context) (c c' : ReserveCore) : B256 → ChannelCall → Prop
  | opened {sender : Address} {call : OpenCall} {id : B256}
      (hid : id = channelId (call.descriptor sender c.channelOpenContextHash))
      (hdeposit : call.deposit ≠ 0) (hnew : (c.channelStates id).isActive = false)
      (hfunds : call.deposit ≤ c.ledger call.token sender)
      (hcore : c' = { ((c.move call.token sender channelReserveAddress call.deposit).record id
          (.opened call.deposit)).setChannel id ⟨0, call.deposit, 0, ctx.spec.isT12⟩ with
        openedThisTx := update c.openedThisTx id true }) :
      Step ctx c c' id (.open sender call)
  | settled {sender : Address} {d : ChannelDescriptor} {state : PackedChannelState}
      {cumulativeAmount signature : ℕ} (target : Address)
      (hstate : c.channelStates (channelId d) = state) (hactive : state.isActive = true)
      (hbound : cumulativeAmount ≤ state.deposit) (hless : state.settled < cumulativeAmount)
      (hsigned : ctx.recover (channelId d) cumulativeAmount signature = some (expectedSigner d))
      (hpay : Payable ctx c.ledger d.token d.payee (cumulativeAmount - state.settled) target)
      (hcore : c' = (c.vouched (channelId d) d.token target state.settled cumulativeAmount
        cumulativeAmount).setChannel (channelId d) { state with settled := cumulativeAmount }) :
      Step ctx c c' (channelId d) (.settle sender d cumulativeAmount signature)
  | toppedUp {d : ChannelDescriptor} {state : PackedChannelState} {amount : ℕ}
      (hstate : c.channelStates (channelId d) = state) (hactive : state.isActive = true)
      (hfunds : amount = 0 ∨ amount ≤ c.ledger d.token d.payer)
      (hcore : c' = (c.toppedUp (channelId d) d.token d.payer amount).setChannel (channelId d)
        { state with deposit := state.deposit + amount, closeRequestedAt := 0 }) :
      Step ctx c c' (channelId d) (.topUp d.payer d amount)
  | requested {d : ChannelDescriptor} {state : PackedChannelState}
      (hstate : c.channelStates (channelId d) = state) (hactive : state.isActive = true)
      (hcore : c' = c.setChannel (channelId d)
        { state with
          closeRequestedAt :=
            if state.closeRequestedAt = 0 then ctx.nowU32 else state.closeRequestedAt }) :
      Step ctx c c' (channelId d) (.requestClose d.payer d)
  | closed {sender : Address} {d : ChannelDescriptor} {state : PackedChannelState}
      {cumulativeAmount captureAmount signature : ℕ} (target payer : Address)
      (hstate : c.channelStates (channelId d) = state) (hactive : state.isActive = true)
      (hsettled : state.settled ≤ captureAmount) (hbound : captureAmount ≤ state.deposit)
      (hvoucher : captureAmount ≤ cumulativeAmount)
      (hsigned : state.settled < captureAmount →
        ctx.recover (channelId d) cumulativeAmount signature = some (expectedSigner d))
      (hpay : captureAmount - state.settled ≠ 0 →
        Payable ctx c.ledger d.token d.payee (captureAmount - state.settled) target)
      (hback : state.deposit - captureAmount ≠ 0 → Payable ctx (c.vouched (channelId d) d.token
        target state.settled captureAmount cumulativeAmount).ledger d.token d.payer
        (state.deposit - captureAmount) payer)
      (hcore : c' = ((c.vouched (channelId d) d.token target state.settled captureAmount
          cumulativeAmount).payOut (channelId d) d.token payer (state.deposit - captureAmount)
          .refunded).setChannel (channelId d) .empty) :
      Step ctx c c' (channelId d)
        (.close sender d cumulativeAmount captureAmount signature)
  | withdrawn {d : ChannelDescriptor} {state : PackedChannelState} (payer : Address)
      (hstate : c.channelStates (channelId d) = state) (hactive : state.isActive = true)
      (hrequest : state.closeRequestedAt ≠ 0)
      (hready : state.closeRequestedAt + closeGracePeriod ≤ ctx.now)
      (hsettled : state.settled ≤ state.deposit)
      (hback : state.deposit - state.settled ≠ 0 →
        Payable ctx c.ledger d.token d.payer (state.deposit - state.settled) payer)
      (hcore : c' = (c.payOut (channelId d) d.token payer (state.deposit - state.settled)
        .refunded).setChannel (channelId d) .empty) :
      Step ctx c c' (channelId d) (.withdraw d.payer d)

variable {movement : Movement}

theorem record_core (h : record id movement s = .ok u s') :
    s'.toReserveCore = s.toReserveCore.record id movement := by
  unfold record at h
  rw [modify_ok] at h
  rw [h]

/-- A payment of the reserve that is recorded. -/
def PaysOut (ctx : Context) (id : B256) (token recipient : Address) (amount : ℕ)
    (movement : Movement) (pay : ReserveM Unit) : Prop :=
  ∀ {t t' : ReserveState}, pay t = .ok () t' → ∃ target,
    Payable ctx t.ledger token recipient amount target ∧ t'.toReserveCore =
      (t.toReserveCore.move token channelReserveAddress target amount).record id movement

theorem payOut_core (movement : ℕ → Movement) {pay : ReserveM Unit}
    (hpay : PaysOut ctx id token recipient amount (movement amount) pay)
    (h : onlyIf (amount ≠ 0) pay s = .ok u s') :
    ∃ target, (amount ≠ 0 → Payable ctx s.ledger token recipient amount target) ∧
      s'.toReserveCore = s.toReserveCore.payOut id token target amount movement := by
  unfold payOut
  rcases onlyIf_ok.mp h with ⟨hpositive, h⟩ | ⟨hzero, rfl⟩
  · obtain ⟨target, hpayable, hcore⟩ := hpay h
    exact ⟨target, fun _ => hpayable, by rw [if_neg hpositive]; exact hcore⟩
  · exact ⟨0, fun hne => absurd hne hzero, by rw [if_pos (not_not.mp hzero)]⟩

theorem ReserveCore.setChannel_payOut {id' : B256} {movement : ℕ → Movement} :
    (c.setChannel id state).payOut id' token target amount movement =
      (c.payOut id' token target amount movement).setChannel id state := by
  unfold payOut
  split <;> rfl

theorem ReserveCore.setChannel_setChannel {state' : PackedChannelState} :
    (c.setChannel id state).setChannel id state' = c.setChannel id state' := by
  unfold setChannel
  rw [update_idem]

theorem transfer_paysOut (hT12 : ctx.spec.isT12 ≠ true) :
    PaysOut ctx id token recipient amount movement
      (transfer ctx token channelReserveAddress recipient amount >>= fun _ =>
        record id movement) := by
  intro t t' h
  obtain ⟨_, t₁, ⟨target, hpayable, hcore⟩, hrecord⟩ := step_bind_ok (transfer_payable hT12) h
  exact ⟨target, hpayable, by rw [record_core hrecord, hcore]⟩

theorem payFromCustody_paysOut (hT12 : ctx.spec.isT12 = true) :
    PaysOut ctx id token recipient amount movement
      (payFromCustody ctx token recipient amount policySender >>= fun _ =>
        record id movement) := by
  intro t t' h
  obtain ⟨_, t₁, hpay, hrecord⟩ := bind_ok.mp h
  obtain ⟨target, hresolve, hmove⟩ := liftToken_bind_ok.mp hpay
  obtain ⟨hpayable, hcore⟩ := custodyTransfer_payable hT12 hresolve hmove
  exact ⟨target, hpayable, by rw [record_core hrecord, hcore]⟩

theorem preserveStorageCredits_core (h : preserveStorageCredits spec s = .ok u s') :
    s'.toReserveCore = s.toReserveCore := by
  rw [modify_ok.mp h]
  split <;> rfl

variable {call : ChannelCall} {x : ReserveM Unit}

section Steps

variable [ChannelHash] {descriptor : ChannelDescriptor} {sender : Address}

theorem openChannel_step {call : OpenCall} (h : openChannel ctx sender call s = .ok id s') :
    Step ctx s s' id (.open sender call) := by
  unfold openChannel record at h
  rw [require_bind_ok] at h
  obtain ⟨_, h⟩ := h
  obtain ⟨_, _, h⟩ := liftToken_bind_ok.mp h
  simp only [require_bind_ok, get_bind_ok] at h
  obtain ⟨hdeposit, _, hnew, h⟩ := h
  obtain ⟨_, t₁, hfund, h⟩ := bind_ok.mp h
  obtain ⟨_, t₂, hrecord, h⟩ := bind_ok.mp h
  obtain ⟨_, t₃, hwrite, h⟩ := bind_ok.mp h
  obtain ⟨_, t₄, hopened, h⟩ := bind_ok.mp h
  obtain ⟨rfl, rfl⟩ := pure_ok.mp h
  obtain ⟨hfunds, hcore₁⟩ := fund_core hfund
  have hcore₂ := modify_ok.mp hrecord
  have hcore₃ := writeChannelStateSpendingCredit_core hwrite
  have hcore₄ := modify_ok.mp hopened
  refine Step.opened rfl hdeposit ?_ hfunds ?_
  · simpa using fun hactive => hnew (.inl hactive)
  · rw [hcore₄]
    simp only [hcore₃, hcore₂, hcore₁]
    rfl

theorem settle_step (h : settle ctx sender descriptor cumulativeAmount signature s = .ok u s') :
    Step ctx s s' (channelId descriptor)
      (.settle sender descriptor cumulativeAmount signature) := by
  unfold settle ensurePayeeOrOperator at h
  obtain ⟨state, t₀, ⟨hstate, hactive, rfl⟩, h⟩ := step_bind_ok loadExistingState_ok.mp h
  simp only [require_bind_ok] at h
  obtain ⟨_, hbound, hless, h⟩ := h
  obtain ⟨_, t₁, hvoucher, h⟩ := bind_ok.mp h
  obtain ⟨delta, ⟨_, rfl⟩, h⟩ := value_bind_ok checkedSub_eq_some.mp h
  obtain ⟨_, _, h⟩ := liftToken_bind_ok.mp h
  obtain ⟨hsigned, hcore₁⟩ := validateVoucher_core hvoucher
  have hpositive : ¬ cumulativeAmount - state.settled = 0 := by omega
  have hledger : t₁.ledger = s.ledger := by
    rw [hcore₁]
    rfl
  split at h
  · rename_i hT12
    obtain ⟨target, hresolve, h⟩ := liftToken_bind_ok.mp h
    obtain ⟨_, _, h⟩ := liftToken_bind_ok.mp h
    obtain ⟨_, t₆, hmove, h⟩ := bind_ok.mp h
    obtain ⟨_, t₇, hpaid, hwrite⟩ := bind_ok.mp h
    obtain ⟨hpayable, hcore₂⟩ := custodyTransfer_payable hT12 hresolve hmove
    refine Step.settled target hstate hactive hbound hless hsigned (hledger ▸ hpayable) ?_
    rw [writeChannel_core hwrite, record_core hpaid, hcore₂, hcore₁]
    unfold vouched payOut
    rw [if_pos hless, if_neg hpositive]
  · rename_i hT12
    obtain ⟨_, _, h⟩ := liftToken_bind_ok.mp h
    obtain ⟨_, t₆, hwrite, h⟩ := bind_ok.mp h
    obtain ⟨_, t₇, ⟨target, hpayable, hcore₂⟩, hpaid⟩ := step_bind_ok (transfer_payable hT12) h
    have hwritten := writeChannel_core hwrite
    have hsame : t₆.ledger = s.ledger := (congrArg ReserveCore.ledger hwritten).trans hledger
    refine Step.settled target hstate hactive hbound hless hsigned (hsame ▸ hpayable) ?_
    rw [record_core hpaid, hcore₂, hwritten, hcore₁]
    unfold vouched payOut
    rw [if_pos hless, if_neg hpositive]
    rfl

theorem addDeposit_core {funded : PackedChannelState}
    (h : addDeposit ctx sender descriptor state additionalDeposit s = .ok funded s') :
    (additionalDeposit = 0 ∨ additionalDeposit ≤ s.ledger descriptor.token sender) ∧
      funded = { state with deposit := state.deposit + additionalDeposit } ∧
      s'.toReserveCore = s.toReserveCore.toppedUp (channelId descriptor) descriptor.token sender
        additionalDeposit := by
  unfold addDeposit at h
  unfold toppedUp
  split at h
  · rename_i hpositive
    obtain ⟨deposit, hadd, h⟩ := okOr_bind_ok.mp h
    obtain ⟨_, _, h⟩ := liftToken_bind_ok.mp h
    obtain ⟨_, t₃, hfund, h⟩ := bind_ok.mp h
    obtain ⟨_, t₄, hrecord, h⟩ := bind_ok.mp h
    obtain ⟨rfl, rfl⟩ := pure_ok.mp h
    obtain ⟨hfunds, hcore⟩ := fund_core hfund
    refine ⟨.inr hfunds, by rw [checkedAdd96_eq_some hadd], ?_⟩
    rw [if_neg hpositive, record_core hrecord, hcore]
  · rename_i hzero
    have hzero : additionalDeposit = 0 := not_not.mp hzero
    obtain ⟨rfl, rfl⟩ := pure_ok.mp h
    exact ⟨.inl hzero, by rw [hzero]; rfl, by rw [if_pos hzero]⟩

theorem topUp_step (h : topUp ctx sender descriptor additionalDeposit s = .ok u s') :
    Step ctx s s' (channelId descriptor)
      (.topUp sender descriptor additionalDeposit) := by
  obtain ⟨state, t₀, ⟨hstate, hactive, rfl⟩, h⟩ := step_bind_ok loadExistingState_ok.mp h
  obtain ⟨rfl, hrest⟩ := require_bind_ok.mp h
  -- A request that is not pending is zero, so clearing it changes nothing.
  have hrequest : state.closeRequest.isSome = false → state.closeRequestedAt = 0 := fun hnone =>
    PackedChannelState.closeRequest_eq_none.mp (by simpa using hnone)
  split at hrest
  · rename_i hidle
    obtain ⟨_, rfl⟩ := pure_ok.mp hrest
    refine Step.toppedUp hstate hactive (.inl hidle.1) ?_
    have hsame : ({ state with
        deposit := state.deposit + additionalDeposit, closeRequestedAt := 0 } :
        PackedChannelState) = s.channelStates (channelId descriptor) := by
      rw [hstate, hidle.1, Nat.add_zero, ← hrequest (by simpa using hidle.2)]
    rw [hsame]
    unfold toppedUp setChannel
    rw [if_pos hidle.1, update_eq_self]
  · obtain ⟨funded, t₁, ⟨hfunds, rfl, hcore⟩, hwrite⟩ := step_bind_ok addDeposit_core hrest
    refine Step.toppedUp hstate hactive hfunds ?_
    rw [writeChannel_core hwrite, hcore]
    split
    · rfl
    · rename_i hnone
      rw [← hrequest (by simpa using hnone)]

theorem requestClose_step (h : requestClose ctx sender descriptor s = .ok u s') :
    Step ctx s s' (channelId descriptor)
      (.requestClose sender descriptor) := by
  obtain ⟨state, t₀, ⟨hstate, hactive, rfl⟩, h⟩ := step_bind_ok loadExistingState_ok.mp h
  obtain ⟨rfl, hrest⟩ := require_bind_ok.mp h
  refine Step.requested hstate hactive ?_
  rcases onlyIf_ok.mp hrest with ⟨hnone, hwrite⟩ | ⟨hpending, rfl⟩
  · rw [writeChannel_core hwrite, if_pos (PackedChannelState.closeRequest_eq_none.mp hnone)]
  · have hpending : ¬ state.closeRequestedAt = 0 := fun hzero =>
      hpending (PackedChannelState.closeRequest_eq_none.mpr hzero)
    rw [if_neg hpending]
    unfold setChannel
    rw [← hstate, update_eq_self]

theorem close_step
    (h : close ctx sender descriptor cumulativeAmount captureAmount signature s = .ok u s') :
    Step ctx s s' (channelId descriptor)
      (.close sender descriptor cumulativeAmount captureAmount signature) := by
  unfold close ensurePayeeOrOperator at h
  obtain ⟨state, t₀, ⟨hstate, hactive, rfl⟩, h⟩ := step_bind_ok loadExistingState_ok.mp h
  simp only [require_bind_ok] at h
  obtain ⟨_, hvalid, hbound, h⟩ := h
  obtain ⟨_, t₁, hvoucher, h⟩ := bind_ok.mp h
  obtain ⟨delta, ⟨_, rfl⟩, h⟩ := value_bind_ok checkedSub_eq_some.mp h
  obtain ⟨refund, ⟨_, rfl⟩, h⟩ := value_bind_ok checkedSub_eq_some.mp h
  obtain ⟨hsigned, hcore₁⟩ : (state.settled < captureAmount → ctx.recover (channelId descriptor)
      cumulativeAmount signature = some (expectedSigner descriptor)) ∧
      t₁.toReserveCore = if state.settled < captureAmount then
        s.toReserveCore.record (channelId descriptor) (.voucher cumulativeAmount)
        else s.toReserveCore := by
    rcases onlyIf_ok.mp hvoucher with ⟨hless, hvoucher⟩ | ⟨hnot, rfl⟩
    · obtain ⟨hsigned, hcore⟩ := validateVoucher_core hvoucher
      exact ⟨fun _ => hsigned, by rw [if_pos hless, hcore]⟩
    · exact ⟨fun hless => absurd hless hnot, by rw [if_neg hnot]⟩
  have hledger : t₁.ledger = s.ledger := by
    rw [hcore₁]
    split <;> rfl
  split at h
  · rename_i hT12
    obtain ⟨_, _, h⟩ := liftToken_bind_ok.mp h
    obtain ⟨_, t₅, hpay, h⟩ := bind_ok.mp h
    obtain ⟨_, t₆, hback, hdelete⟩ := bind_ok.mp h
    obtain ⟨target, hpayable, hcore₂⟩ := payOut_core .paid (fun {t t'} hrun => by
      obtain ⟨target, hresolve, hrun⟩ := liftToken_bind_ok.mp hrun
      obtain ⟨_, _, hrun⟩ := liftToken_bind_ok.mp hrun
      obtain ⟨_, t₉, hmove, hrecord⟩ := bind_ok.mp hrun
      obtain ⟨hpayable, hcore⟩ := custodyTransfer_payable hT12 hresolve hmove
      exact ⟨target, hpayable, by rw [record_core hrecord, hcore]⟩) hpay
    obtain ⟨payer, hrefundable, hcore₃⟩ :=
      payOut_core .refunded (payFromCustody_paysOut hT12) hback
    rw [hcore₁] at hcore₂
    refine Step.closed target payer hstate hactive (by omega) hbound (by omega) hsigned
      (hledger ▸ hpayable) ?_ ?_
    · rw [hcore₂] at hrefundable
      exact hrefundable
    · rw [deleteChannelState_core hdelete, hcore₃, hcore₂]
      rfl
  · rename_i hT12
    obtain ⟨_, t₄, hdelete, h⟩ := bind_ok.mp h
    obtain ⟨_, _, h⟩ := liftToken_bind_ok.mp h
    obtain ⟨_, t₆, hpay, hback⟩ := bind_ok.mp h
    obtain ⟨target, hpayable, hcore₂⟩ := payOut_core .paid (fun {t t'} hrun => by
      obtain ⟨_, _, hrun⟩ := liftToken_bind_ok.mp hrun
      exact transfer_paysOut hT12 hrun) hpay
    obtain ⟨payer, hrefundable, hcore₃⟩ := payOut_core .refunded (transfer_paysOut hT12) hback
    have hdeleted := deleteChannelState_core hdelete
    have hsame : t₄.ledger = s.ledger := (congrArg ReserveCore.ledger hdeleted).trans hledger
    rw [hdeleted, hcore₁, setChannel_payOut] at hcore₂
    refine Step.closed target payer hstate hactive (by omega) hbound (by omega) hsigned
      (hsame ▸ hpayable) ?_ ?_
    · rw [hcore₂] at hrefundable
      exact hrefundable
    · rw [hcore₃, hcore₂, setChannel_payOut]
      rfl

theorem withdraw_step (h : withdraw ctx sender descriptor s = .ok u s') :
    Step ctx s s' (channelId descriptor)
      (.withdraw sender descriptor) := by
  obtain ⟨state, t₀, ⟨hstate, hactive, rfl⟩, h⟩ := step_bind_ok loadExistingState_ok.mp h
  simp only [require_bind_ok] at h
  obtain ⟨rfl, ⟨requestedAt, hmem, hready⟩, hrest⟩ := h
  obtain ⟨hrequest, rfl⟩ := PackedChannelState.mem_closeRequest.mp hmem
  obtain ⟨refund, ⟨hsettled, rfl⟩, h⟩ := value_bind_ok checkedSub_eq_some.mp hrest
  split at h
  · rename_i hT12
    obtain ⟨_, t₄, hback, hdelete⟩ := bind_ok.mp h
    obtain ⟨payer, hrefundable, hcore⟩ := payOut_core .refunded (fun {t t'} hrun => by
      obtain ⟨_, _, hrun⟩ := liftToken_bind_ok.mp hrun
      exact payFromCustody_paysOut hT12 hrun) hback
    refine Step.withdrawn payer hstate hactive hrequest hready hsettled hrefundable ?_
    rw [deleteChannelState_core hdelete, hcore]
  · rename_i hT12
    obtain ⟨_, t₄, hdelete, hback⟩ := bind_ok.mp h
    obtain ⟨payer, hrefundable, hcore⟩ := payOut_core .refunded (fun {t t'} hrun => by
      obtain ⟨_, _, hrun⟩ := liftToken_bind_ok.mp hrun
      exact transfer_paysOut hT12 hrun) hback
    have hdeleted := deleteChannelState_core hdelete
    have hsame : t₄.ledger = s.ledger := by
      rw [hdeleted]
      rfl
    refine Step.withdrawn payer hstate hactive hrequest hready hsettled (hsame ▸ hrefundable) ?_
    rw [hcore, hdeleted, setChannel_payOut]

/-- A call behind the dispatcher, which changes no channel. -/
theorem dispatched_step {id' : B256} (hstep : ∀ {t : ReserveState}, x t = .ok () s' →
      Step ctx t s' id call)
    (h : (preserveStorageCredits spec >>= fun _ => x >>= fun _ => pure id) s = .ok id' s') :
    Step ctx s s' id' call := by
  obtain ⟨_, t, hmode, hrest⟩ := bind_ok.mp h
  obtain ⟨_, t', hrun, hpure⟩ := bind_ok.mp hrest
  obtain ⟨rfl, rfl⟩ := pure_ok.mp hpure
  rw [← preserveStorageCredits_core hmode]
  exact hstep hrun

/-- Every successful call is a step on its channel. -/
theorem ChannelCall.step (h : call.run ctx s = .ok id s') :
    Step ctx s s' id call := by
  cases call with
  | «open» sender call =>
    obtain ⟨_, t, hmode, hrun⟩ := bind_ok.mp h
    rw [← preserveStorageCredits_core hmode]
    exact openChannel_step hrun
  | settle sender descriptor cumulativeAmount signature => exact dispatched_step settle_step h
  | topUp sender descriptor additionalDeposit => exact dispatched_step topUp_step h
  | requestClose sender descriptor => exact dispatched_step requestClose_step h
  | close sender descriptor cumulativeAmount captureAmount signature =>
    exact dispatched_step close_step h
  | withdraw sender descriptor => exact dispatched_step withdraw_step h

end Steps

end Monotempo.Channel
