/-
  The channel reserve keeps what it owes.

  Every channel has settled at most its deposit, the reserve holds the outstanding
  part of every channel, and over the life of a channel the payments, the refunds
  and the outstanding part add up to the deposits, with the payments covered by a
  voucher.
-/
import Monotempo.Channel.Effects

set_option autoImplicit false

namespace Monotempo.Channel

open Chain Foundation Function ReserveCore

variable {token payer payee recipient policySender target : Address} {e : Error}
  {amount cumulativeAmount signature captureAmount slots additionalDeposit : ℕ} {c : ReserveCore}
  {d descriptor : ChannelDescriptor} {s s' : ReserveState} {spec : TempoHardfork} {ctx : Context} {u : Unit}
  {α : Type} {state : PackedChannelState} {id : B256} {movement : Movement} {call : ChannelCall}
  {x : ReserveM Unit}

/-! ## The life of a channel -/

namespace Movement

/-- Whether the movement starts a new life of its channel. -/
def isOpening : Movement → Bool
  | .opened _ => true
  | _ => false

def deposit : Movement → ℕ
  | .opened amount => amount
  | .toppedUp amount => amount
  | _ => 0

def payment : Movement → ℕ
  | .paid amount => amount
  | _ => 0

def refund : Movement → ℕ
  | .refunded amount => amount
  | _ => 0

def vouched : Movement → ℕ
  | .voucher cumulativeAmount => cumulativeAmount
  | _ => 0

end Movement

/-- The movements of a channel since it was last opened, newest first. -/
def life (id : B256) : List (B256 × Movement) → List Movement
  | [] => []
  | (other, movement) :: rest =>
    if other = id then movement :: if movement.isOpening then [] else life id rest
    else life id rest

/-- The total of one kind of movement. -/
def total (amount : Movement → ℕ) (movements : List Movement) : ℕ := (movements.map amount).sum

/-- The largest cumulative amount of a voucher with a valid signature. -/
def largestVoucher (movements : List Movement) : ℕ :=
  (movements.map Movement.vouched).foldr max 0

section Posted

variable [ChannelHash]

/-- The balances before and after a movement of a channel: deposits go from the payer to the
reserve, payments and refunds from the reserve to the payee and to the payer, and a voucher that
its signer has signed moves nothing. -/
inductive Posted (ctx : Context) (d : ChannelDescriptor) (ledger : Ledger) :
    Movement → Ledger → Prop
  | opened {amount : ℕ} (funded : amount ≤ ledger d.token d.payer) :
      Posted ctx d ledger (.opened amount)
        (ledger.move d.token d.payer channelReserveAddress amount)
  | toppedUp {amount : ℕ} (funded : amount ≤ ledger d.token d.payer) :
      Posted ctx d ledger (.toppedUp amount)
        (ledger.move d.token d.payer channelReserveAddress amount)
  | voucher {cumulativeAmount signature : ℕ} (signed : ctx.recover (channelId d) cumulativeAmount
      signature = some (expectedSigner d)) : Posted ctx d ledger (.voucher cumulativeAmount) ledger
  | paid {amount : ℕ} {target : Address}
      (payable : Payable ctx ledger d.token d.payee amount target) :
      Posted ctx d ledger (.paid amount) (ledger.move d.token channelReserveAddress target amount)
  | refunded {amount : ℕ} {target : Address}
      (payable : Payable ctx ledger d.token d.payer amount target) :
      Posted ctx d ledger (.refunded amount)
        (ledger.move d.token channelReserveAddress target amount)

/-- The journal grew by movements of one channel, and the balances changed by them. -/
inductive Postings (ctx : Context) (d : ChannelDescriptor) (c : ReserveCore) :
    Ledger → List (B256 × Movement) → Prop
  | none : Postings ctx d c c.ledger c.journal
  | post {ledger ledger' : Ledger} {journal : List (B256 × Movement)} {movement : Movement}
      (rest : Postings ctx d c ledger journal) (posted : Posted ctx d ledger movement ledger') :
      Postings ctx d c ledger' ((channelId d, movement) :: journal)

theorem Postings.payOut {c₀ : ReserveCore} (movement : ℕ → Movement)
    (h : Postings ctx d c₀ c.ledger c.journal)
    (hpay : amount ≠ 0 → Posted ctx d c.ledger (movement amount)
      (c.ledger.move token channelReserveAddress target amount)) :
    Postings ctx d c₀ (c.payOut (channelId d) token target amount movement).ledger
      (c.payOut (channelId d) token target amount movement).journal := by
  unfold ReserveCore.payOut
  split
  · exact h
  · rename_i hpositive
    exact h.post (hpay hpositive)

theorem Postings.vouched {settled : ℕ} (hsigned : settled < captureAmount →
      ctx.recover (channelId d) cumulativeAmount signature = some (expectedSigner d))
    (hpay : captureAmount - settled ≠ 0 →
      Payable ctx c.ledger d.token d.payee (captureAmount - settled) target) :
    Postings ctx d c
      (c.vouched (channelId d) d.token target settled captureAmount cumulativeAmount).ledger
      (c.vouched (channelId d) d.token target settled captureAmount cumulativeAmount).journal := by
  unfold ReserveCore.vouched
  split
  · rename_i hless
    have hvoucher : Postings ctx d c (c.record (channelId d) (.voucher cumulativeAmount)).ledger
        (c.record (channelId d) (.voucher cumulativeAmount)).journal :=
      .post .none (.voucher (hsigned hless))
    exact hvoucher.payOut .paid fun hpositive => .paid (hpay hpositive)
  · exact Postings.none.payOut .paid fun hpositive => .paid (hpay hpositive)

/-- What a call does to the balances is what it writes to the journal. -/
theorem Step.postings {c' : ReserveCore} {call : ChannelCall} (h : Step ctx c c' id call) :
    ∃ d, id = channelId d ∧ Postings ctx d c c'.ledger c'.journal := by
  cases h with
  | opened hid hdeposit hnew hfunds hcore =>
    rename_i sender call
    subst hcore
    exact ⟨call.descriptor sender c.channelOpenContextHash, hid,
      hid ▸ Postings.none.post (.opened hfunds)⟩
  | settled target hstate hactive hbound hless hsigned hpay hcore =>
    subst hcore
    exact ⟨_, rfl, Postings.vouched (fun _ => hsigned) fun _ => hpay⟩
  | toppedUp hstate hactive hfunds hcore =>
    rename_i d state amount
    subst hcore
    refine ⟨d, rfl, ?_⟩
    show Postings ctx d c (c.toppedUp _ _ _ _).ledger (c.toppedUp _ _ _ _).journal
    unfold ReserveCore.toppedUp
    split
    · exact .none
    · rename_i hpositive
      exact Postings.none.post (.toppedUp (hfunds.resolve_left hpositive))
  | requested hstate hactive hcore =>
    subst hcore
    exact ⟨_, rfl, .none⟩
  | closed target payer hstate hactive hsettled hbound hvoucher hsigned hpay hback hcore =>
    subst hcore
    exact ⟨_, rfl, (Postings.vouched hsigned hpay).payOut .refunded fun hpositive =>
      .refunded (hback hpositive)⟩
  | withdrawn payer hstate hactive hrequest hready hsettled hback hcore =>
    subst hcore
    exact ⟨_, rfl, Postings.none.payOut .refunded fun hpositive => .refunded (hback hpositive)⟩

end Posted

/-- The account of one channel: its payments are what it settled and are vouched for,
and deposits are paid, refunded or outstanding. -/
structure Accounted (state : PackedChannelState) (movements : List Movement) : Prop where
  covered : state.settled ≤ state.deposit
  paid : state.isActive = true → total Movement.payment movements = state.settled
  unrefunded : state.isActive = true → total Movement.refund movements = 0
  balanced : total Movement.payment movements + total Movement.refund movements +
    (state.deposit - state.settled) = total Movement.deposit movements
  vouched : total Movement.payment movements ≤ largestVoucher movements

section Records

variable {id : B256} {movement : Movement} {journal : List (B256 × Movement)}

theorem life_record_of_ne {other : B256} (h : other ≠ id) :
    life id ((other, movement) :: journal) = life id journal :=
  if_neg h

theorem life_record :
    life id ((id, movement) :: journal) =
      movement :: if movement.isOpening then [] else life id journal :=
  if_pos rfl

variable {movements : List Movement}

theorem total_cons {amount : Movement → ℕ} :
    total amount (movement :: movements) = amount movement + total amount movements := by
  simp [total]

end Records

namespace Accounted

variable {state : PackedChannelState} {movements : List Movement} {amount : ℕ}

theorem opened (logical : Bool) :
    Accounted ⟨0, amount, 0, logical⟩ [.opened amount] where
  covered := Nat.zero_le _
  paid := fun _ => rfl
  unrefunded := fun _ => rfl
  balanced := by simp [total, Movement.payment, Movement.refund, Movement.deposit]
  vouched := Nat.zero_le _

section Accounting

variable (h : Accounted state movements)

include h

/-- A movement is recorded: an active channel settled its payment and refunded nothing, the
balance follows it, and a payment is vouched for. -/
theorem recorded {state' : PackedChannelState} (hcovered : state'.settled ≤ state'.deposit)
    (hactive : state'.isActive = true → state.isActive = true ∧
      movement.payment + state.settled = state'.settled ∧ movement.refund = 0)
    (hbalanced : movement.payment + movement.refund + (state'.deposit - state'.settled) =
      movement.deposit + (state.deposit - state.settled)) (hvouched : movement.payment = 0 ∨
      movement.payment + total Movement.payment movements ≤ largestVoucher movements) :
    Accounted state' (movement :: movements) where
  covered := hcovered
  paid := fun hopen => by
    obtain ⟨hold, hpayment, -⟩ := hactive hopen
    rw [total_cons, h.paid hold, hpayment]
  unrefunded := fun hopen => by
    obtain ⟨hold, -, hrefund⟩ := hactive hopen
    rw [total_cons, h.unrefunded hold, hrefund]
  balanced := by
    have hold := h.balanced
    simp only [total_cons]
    omega
  vouched := by
    have hold := h.vouched
    rw [total_cons]
    change _ ≤ max movement.vouched (largestVoucher movements)
    omega

/-- A voucher alone changes no balance. -/
theorem voucher (cumulativeAmount : ℕ) :
    Accounted state (.voucher cumulativeAmount :: movements) :=
  h.recorded h.covered (fun hopen => ⟨hopen, Nat.zero_add _, rfl⟩) rfl (.inl rfl)

/-- A payment up to a cumulative amount that a voucher covers. -/
theorem settled (hactive : state.isActive = true) (hless : state.settled ≤ amount)
    (hbound : amount ≤ state.deposit) (hvouched : amount ≤ largestVoucher movements) :
    Accounted { state with settled := amount } (.paid (amount - state.settled) :: movements) := by
  have hpaid := h.paid hactive
  refine h.recorded hbound (fun _ => ⟨hactive, Nat.sub_add_cancel hless, rfl⟩) ?_ (.inr ?_)
  · simp only [Movement.payment, Movement.refund, Movement.deposit]
    omega
  · simp only [Movement.payment]
    omega

theorem toppedUp (hactive : state.isActive = true) :
    Accounted { state with deposit := state.deposit + amount, closeRequestedAt := 0 }
      (.toppedUp amount :: movements) := by
  have hcovered := h.covered
  refine h.recorded (Nat.le_add_right_of_le hcovered)
    (fun _ => ⟨hactive, Nat.zero_add _, rfl⟩) ?_ (.inl rfl)
  simp only [Movement.payment, Movement.refund, Movement.deposit]
  omega

/-- The slot is deleted and what was outstanding goes back. -/
theorem refunded : Accounted .empty (.refunded (state.deposit - state.settled) :: movements) :=
  h.recorded le_rfl nofun rfl (.inl rfl)

theorem emptied (hnone : state.deposit - state.settled = 0) :
    Accounted .empty movements where
  covered := Nat.le_refl _
  paid := nofun
  unrefunded := nofun
  balanced := by
    have hbalanced := h.balanced
    simp only [PackedChannelState.empty]
    omega
  vouched := h.vouched

theorem timer (closeRequestedAt : ℕ) :
    Accounted { state with closeRequestedAt := closeRequestedAt } movements :=
  ⟨h.covered, h.paid, h.unrefunded, h.balanced, h.vouched⟩

end Accounting

end Accounted

/-! ## The invariant -/

variable {c' : ReserveCore}

/-- What a transfer from or to the reserve changes; a zero amount is not sent. -/
theorem ReserveCore.sent_frame {sender : Address} (hmovement : movement.isOpening = false)
    (h : c' = if amount = 0 then c
      else (c.move token sender target amount).record id movement) :
    c'.channelStates = c.channelStates ∧
      life id c'.journal =
        (if amount = 0 then life id c.journal else movement :: life id c.journal) ∧
      (∀ other, other ≠ id → life other c'.journal = life other c.journal) ∧
      ∀ other, other ≠ token →
        c'.ledger other channelReserveAddress = c.ledger other channelReserveAddress := by
  subst h
  split
  · exact ⟨rfl, rfl, fun _ _ => rfl, fun _ _ => rfl⟩
  · refine ⟨rfl, ?_, fun other hother => ?_, fun _ hother => Ledger.move_other_token hother⟩
    · show life id ((id, movement) :: c.journal) = _
      rw [life_record, hmovement]
      rfl
    · exact life_record_of_ne fun heq => hother heq.symm

theorem ReserveCore.payOut_ledger (c : ReserveCore) (id : B256) (token target : Address)
    (amount : ℕ) (movement : ℕ → Movement) :
    c.ledger token channelReserveAddress ≤
      (c.payOut id token target amount movement).ledger token channelReserveAddress +
        amount := by
  unfold payOut
  split
  · exact Nat.le_add_right _ _
  · show c.ledger token channelReserveAddress ≤
      c.ledger.move token channelReserveAddress target amount token channelReserveAddress + amount
    by_cases hself : channelReserveAddress = target
    · rw [← hself]
      unfold Ledger.move
      rw [update_self, update_self, update_self]
      omega
    · rw [Ledger.move_sender hself]
      omega

theorem ReserveCore.toppedUp_ledger (c : ReserveCore) (id : B256) (token : Address) (amount : ℕ)
    (hpayer : payer ≠ channelReserveAddress) :
    (c.toppedUp id token payer amount).ledger token channelReserveAddress =
      c.ledger token channelReserveAddress + amount := by
  unfold toppedUp
  split
  · rename_i hzero
    rw [hzero]
    rfl
  · exact Ledger.move_recipient hpayer.symm

/-- The account after a capture: with a voucher for what is new in it, or nothing new. -/
theorem Accounted.captured {c₁ : ReserveCore} (h : Accounted state (life id c.journal))
    (hactive : state.isActive = true) (hsettled : state.settled ≤ captureAmount)
    (hbound : captureAmount ≤ state.deposit) (hvoucher : captureAmount ≤ cumulativeAmount)
    (hc₁ : c₁ = if state.settled < captureAmount then c.record id (.voucher cumulativeAmount)
      else c) :
    Accounted { state with settled := captureAmount }
      (if captureAmount - state.settled = 0 then life id c₁.journal
        else .paid (captureAmount - state.settled) :: life id c₁.journal) := by
  by_cases hless : state.settled < captureAmount
  · have hvouched : life id (c.record id (.voucher cumulativeAmount)).journal =
        .voucher cumulativeAmount :: life id c.journal := life_record
    rw [if_neg (by omega), hc₁, if_pos hless, hvouched]
    refine (h.voucher cumulativeAmount).settled hactive hsettled hbound ?_
    exact le_max_of_le_left hvoucher
  · have heq : captureAmount = state.settled := by omega
    rw [if_pos (by omega), hc₁, if_neg hless, heq]
    exact h

section Invariant

variable [ChannelHash]

/-- What the reserve owes for a channel in `token`. -/
def ReserveCore.outstanding (c : ReserveCore) (token : Address) (d : ChannelDescriptor) : ℕ :=
  if d.token = token then
    (c.channelStates (channelId d)).deposit - (c.channelStates (channelId d)).settled
  else 0

/-- Every channel is accounted for, and the reserve holds what it owes. -/
structure Conserved (c : ReserveCore) : Prop where
  accounted : ∀ id, Accounted (c.channelStates id) (life id c.journal)
  backed : ∀ token, Backed (c.outstanding token) (c.ledger token channelReserveAddress)

/-- A change of one channel: its own account, the untouched journals, and the
balance of its token. -/
theorem Conserved.channel (h : Conserved c)
    (hstates : c'.channelStates = update c.channelStates (channelId d) state)
    (haccount : Accounted state (life (channelId d) c'.journal))
    (hjournal : ∀ id, id ≠ channelId d → life id c'.journal = life id c.journal)
    (hother : ∀ token, token ≠ d.token →
      c'.ledger token channelReserveAddress = c.ledger token channelReserveAddress)
    (hbalance : c.ledger d.token channelReserveAddress + (state.deposit - state.settled) ≤
      c'.ledger d.token channelReserveAddress +
      ((c.channelStates (channelId d)).deposit - (c.channelStates (channelId d)).settled)) :
    Conserved c' where
  accounted := fun id => by
    by_cases hid : id = channelId d
    · rw [hid, hstates, update_self]
      exact haccount
    · rw [hstates, update_of_ne hid, hjournal id hid]
      exact h.accounted id
  backed := fun token => by
    have hsame : ∀ d' : ChannelDescriptor, d' ≠ d →
        c'.outstanding token d' = c.outstanding token d' := by
      intro d' hd'
      unfold outstanding
      rw [hstates, update_of_ne fun hid => hd' (ChannelHash.injective hid)]
    refine (h.backed token).change d (fun d' hd' => (hsame d' hd').le) ?_
    unfold outstanding
    rw [hstates, update_self]
    by_cases htoken : d.token = token
    · subst htoken
      rw [if_pos rfl, if_pos rfl]
      omega
    · rw [if_neg htoken, if_neg htoken, hother token fun heq => htoken heq.symm]

/-- A capture: the payment of what is new in it, under a voucher. -/
theorem Conserved.captured (h : Conserved c) (target : Address)
    (hstate : c.channelStates (channelId d) = state) (hactive : state.isActive = true)
    (hsettled : state.settled ≤ captureAmount) (hbound : captureAmount ≤ state.deposit)
    (hvoucher : captureAmount ≤ cumulativeAmount) :
    Conserved ((c.vouched (channelId d) d.token target state.settled captureAmount
      cumulativeAmount).setChannel (channelId d) { state with settled := captureAmount }) := by
  unfold ReserveCore.vouched
  have haccount := h.accounted (channelId d)
  rw [hstate] at haccount
  generalize hc₁ : (if state.settled < captureAmount then
    c.record (channelId d) (.voucher cumulativeAmount) else c) = c₁
  have hvouched : c₁.channelStates = c.channelStates ∧ c₁.ledger = c.ledger ∧
      ∀ id, id ≠ channelId d → life id c₁.journal = life id c.journal := by
    rw [← hc₁]
    split
    · exact ⟨rfl, rfl, fun id hid => life_record_of_ne fun heq => hid heq.symm⟩
    · exact ⟨rfl, rfl, fun _ _ => rfl⟩
  obtain ⟨hstates₁, hledger₁, hjournal₁⟩ := hvouched
  obtain ⟨hstates, hlife, hjournal, hother⟩ := sent_frame rfl (show c₁.payOut
    (channelId d) d.token target (captureAmount - state.settled) .paid = _ from rfl)
  have hbalance := c₁.payOut_ledger (channelId d) d.token target (captureAmount - state.settled)
    .paid
  refine h.channel (by rw [setChannel, hstates, hstates₁]) ?_
    (fun id hid => (hjournal id hid).trans (hjournal₁ id hid))
    (fun token htoken => (hother token htoken).trans (by rw [hledger₁])) ?_
  · show Accounted _ (life (channelId d) (payOut _ _ _ _ _ _).journal)
    rw [hlife]
    exact haccount.captured hactive hsettled hbound hvoucher hc₁.symm
  · rw [hledger₁] at hbalance
    rw [hstate]
    show c.ledger d.token channelReserveAddress + (state.deposit - captureAmount) ≤
      (payOut _ _ _ _ _ _).ledger d.token channelReserveAddress + _
    omega

/-- The deletion of a channel, with the refund of what is outstanding. -/
theorem Conserved.emptied (h : Conserved c) (payer : Address)
    (hstate : c.channelStates (channelId d) = state) :
    Conserved ((c.payOut (channelId d) d.token payer (state.deposit - state.settled)
      .refunded).setChannel (channelId d) .empty) := by
  have haccount := h.accounted (channelId d)
  rw [hstate] at haccount
  obtain ⟨hstates, hlife, hjournal, hother⟩ := sent_frame rfl (show c.payOut
    (channelId d) d.token payer (state.deposit - state.settled) .refunded = _ from rfl)
  have hbalance := c.payOut_ledger (channelId d) d.token payer (state.deposit - state.settled)
    .refunded
  refine h.channel (by rw [setChannel, hstates]) ?_ hjournal hother ?_
  · show Accounted _ (life (channelId d) (payOut _ _ _ _ _ _).journal)
    rw [hlife]
    split
    · rename_i hzero
      exact haccount.emptied hzero
    · exact haccount.refunded
  · rw [hstate]
    show c.ledger d.token channelReserveAddress + 0 ≤
      (payOut _ _ _ _ _ _).ledger d.token channelReserveAddress + _
    omega

theorem Conserved.step (h : Conserved c) (hsender : call.sender ≠ channelReserveAddress)
    (hstep : Step ctx c c' id call) : Conserved c' := by
  cases hstep with
  | opened hid hdeposit hnew hfunds hcore =>
    rename_i sender call
    subst hid hcore
    refine h.channel (d := call.descriptor sender c.channelOpenContextHash) rfl ?_
      (fun other hother => life_record_of_ne fun heq => hother heq.symm)
      (fun token htoken => Ledger.move_other_token htoken) ?_
    · show Accounted _ (life _ ((_, .opened call.deposit) :: c.journal))
      rw [life_record]
      exact Accounted.opened _
    · show c.ledger call.token channelReserveAddress + (call.deposit - 0) ≤
        c.ledger.move call.token sender channelReserveAddress call.deposit call.token
          channelReserveAddress + _
      have hpayer : channelReserveAddress ≠ sender := Ne.symm hsender
      rw [Ledger.move_recipient hpayer]
      omega
  | settled target hstate hactive hbound hless hsigned hpay hcore =>
    rw [hcore]
    exact h.captured target hstate hactive hless.le hbound (Nat.le_refl _)
  | toppedUp hstate hactive hfunds hcore =>
    rename_i d state amount
    have haccount := h.accounted (channelId d)
    rw [hstate] at haccount
    have hpayer : d.payer ≠ channelReserveAddress := hsender
    obtain ⟨hstates, hlife, hjournal, hother⟩ := sent_frame rfl
      (show c.toppedUp (channelId d) d.token d.payer amount = _ from rfl)
    have hbalance := c.toppedUp_ledger (channelId d) d.token amount hpayer
    subst hcore
    refine h.channel (by rw [setChannel, hstates]) ?_ hjournal hother ?_
    · show Accounted _ (life (channelId d) (toppedUp _ _ _ _ _).journal)
      rw [hlife]
      split
      · rename_i hzero
        rw [hzero]
        exact haccount.timer 0
      · exact haccount.toppedUp hactive
    · rw [hstate]
      show c.ledger d.token channelReserveAddress + (state.deposit + amount - state.settled) ≤
        (toppedUp _ _ _ _ _).ledger d.token channelReserveAddress + _
      omega
  | requested hstate hactive hcore =>
    rename_i d state
    have haccount := h.accounted (channelId d)
    rw [hstate] at haccount
    subst hcore
    refine h.channel rfl (haccount.timer _) (fun _ _ => rfl) (fun _ _ => rfl) ?_
    rw [hstate]
    exact Nat.le_refl _
  | closed target payer hstate hactive hsettled hbound hvoucher hsigned hpay hback hcore =>
    have hcaptured := h.captured target hstate hactive hsettled hbound hvoucher
    have hemptied := hcaptured.emptied payer (update_self _ _ _)
    rw [setChannel_payOut, setChannel_setChannel] at hemptied
    rw [hcore]
    exact hemptied
  | withdrawn payer hstate hactive hrequest hready hsettled hback hcore =>
    rw [hcore]
    exact h.emptied payer hstate

end Invariant

/-! ## Panics and missing channels -/

section Faults

/-- The errors that a live channel never raises: panics and `ChannelNotFound`. -/
def Error.isFault : Error → Bool
  | .panicked => true
  | .reserve .channelNotFound => true
  | _ => false

/-- The program raises no fault. -/
def NoFault {α : Type} (x : ReserveM α) : Prop :=
  Avoids (fun e => Error.isFault e = true) (fun _ => True) x

theorem noFault_liftToken {value : Except TokenError α} :
    NoFault (liftToken value) := by
  cases value with
  | error e => exact avoids_throw nofun
  | ok a => exact avoids_pure a

theorem noFault_modify {f : ReserveState → ReserveState} :
    NoFault (modify f) :=
  avoids_modify fun _ _ => trivial

theorem noFault_transfer {sender : Address} :
    NoFault (transfer ctx token sender recipient amount) :=
  avoids_get_bind fun _ _ => avoids_bind noFault_liftToken fun _ => noFault_modify

theorem noFault_custodyTransfer {sender : Address} :
    NoFault
      (custodyTransfer ctx token sender recipient target amount policySender) :=
  avoids_get_bind fun _ _ => avoids_bind noFault_liftToken fun _ => noFault_modify

theorem noFault_payFromCustody :
    NoFault (payFromCustody ctx token recipient amount policySender) :=
  avoids_bind noFault_liftToken fun _ => noFault_custodyTransfer

theorem noFault_creditChannelStorageSlots :
    NoFault (creditChannelStorageSlots spec payer slots) := by
  refine avoids_onlyIf fun _ => avoids_get_bind fun s _ => ?_
  refine avoids_ite (fun _ => ?_) (fun _ => noFault_modify)
  exact avoids_bind (avoids_withBudget noFault_modify fun _ _ _ => trivial) fun _ =>
    avoids_require nofun

theorem noFault_deleteChannelState :
    NoFault (deleteChannelStateAndCreditPayer spec id payer) :=
  avoids_bind (avoids_trackMintedCredits noFault_modify fun _ _ => nofun) fun _ =>
    noFault_creditChannelStorageSlots

theorem noFault_writeChannelStateSpendingCredit :
    NoFault (writeChannelStateSpendingCredit spec payer id state) := by
  refine avoids_ite (fun _ => noFault_modify) (fun _ => ?_)
  refine avoids_get_bind fun s _ => avoids_ite (fun _ => noFault_modify) (fun _ => ?_)
  refine avoids_bind noFault_modify fun _ => ?_
  refine avoids_bind (avoids_withBudget noFault_modify fun _ _ _ => trivial) fun _ => ?_
  exact avoids_require_bind nofun fun _ => noFault_creditChannelStorageSlots

theorem noFault_fund :
    NoFault (fund ctx token payer payee policySender amount) := by
  refine avoids_ite (fun _ => ?_) (fun _ => ?_)
  · refine avoids_bind noFault_liftToken fun _ => avoids_bind noFault_liftToken fun _ => ?_
    exact avoids_bind noFault_liftToken fun _ => noFault_custodyTransfer
  · refine avoids_bind noFault_liftToken fun _ => avoids_bind noFault_liftToken fun _ => ?_
    exact noFault_transfer

theorem noFault_validateVoucher :
    NoFault (validateVoucher ctx descriptor id cumulativeAmount signature) :=
  avoids_require_bind nofun fun _ => noFault_modify

/-- A call on a channel fails with `ChannelNotFound` only if there is no such channel,
and it never panics. -/
structure Orderly (s : ReserveState) (id : B256) (e : Error) : Prop where
  noPanic : e ≠ .panicked
  missing : e = .reserve .channelNotFound → (s.channelStates id).isActive = false

theorem loadExistingState_error (h : loadExistingState id s = .error e s') :
    e = .reserve .channelNotFound ∧ (s.channelStates id).isActive = false := by
  have hrest : (require (s.channelStates id).isActive (.reserve .channelNotFound) >>= fun _ =>
      pure (s.channelStates id) : ReserveM PackedChannelState) s = .error e s' := h
  rcases bind_error.mp hrest with hrequire | ⟨_, _, _, hpure⟩
  · unfold require at hrequire
    split at hrequire
    · exact nomatch hrequire
    · rename_i hinactive
      cases hrequire
      exact ⟨rfl, Bool.eq_false_of_not_eq_true hinactive⟩
  · exact nomatch hpure

theorem loadExistingState_bind_error {f : PackedChannelState → ReserveM Unit}
    (hrest : NoFault (f (s.channelStates id))) (h : (loadExistingState id >>= f) s = .error e s') :
    Orderly s id e := by
  rcases bind_error.mp h with hload | ⟨state, t, hload, hrun⟩
  · obtain ⟨rfl, hinactive⟩ := loadExistingState_error hload
    exact ⟨nofun, fun _ => hinactive⟩
  · obtain ⟨rfl, _, rfl⟩ := loadExistingState_ok.mp hload
    have hfault := Triple.error hrest trivial hrun
    refine ⟨fun he => hfault ?_, fun he => absurd ?_ hfault⟩
    · rw [he]
      rfl
    · rw [he]
      rfl

/-- The dispatcher changes no channel, and the id is returned only at the end. -/
theorem dispatched_error
    (h : (preserveStorageCredits spec >>= fun _ => x >>= fun _ => pure id) s = .error e s') :
    ∃ t : ReserveState, t.toReserveCore = s ∧ x t = .error e s' := by
  rcases bind_error.mp h with hmode | ⟨_, t, hmode, hrest⟩
  · exact nomatch hmode
  · rcases bind_error.mp hrest with hrun | ⟨_, _, _, hpure⟩
    · exact ⟨t, preserveStorageCredits_core hmode, hrun⟩
    · exact nomatch hpure

variable [ChannelHash] {sender : Address}

theorem noFault_openChannel {call : OpenCall} :
    NoFault (openChannel ctx sender call) := by
  refine avoids_require_bind nofun fun _ => avoids_bind noFault_liftToken fun _ => ?_
  refine avoids_require_bind nofun fun _ => avoids_get_bind fun s _ => ?_
  refine avoids_require_bind nofun fun _ => ?_
  refine avoids_require_bind nofun fun _ => avoids_bind noFault_fund fun _ => ?_
  refine avoids_bind noFault_modify fun _ => ?_
  refine avoids_bind noFault_writeChannelStateSpendingCredit fun _ => ?_
  exact avoids_bind noFault_modify fun _ => avoids_pure _

theorem settle_error (h : settle ctx sender descriptor cumulativeAmount signature s = .error e s') :
    Orderly s (channelId descriptor) e := by
  refine loadExistingState_bind_error ?_ h
  refine avoids_require_bind nofun fun _ => ?_
  refine avoids_require_bind nofun fun _ => ?_
  refine avoids_require_bind nofun fun hless => ?_
  refine avoids_bind noFault_validateVoucher fun _ => ?_
  rw [checkedSub_eq_some.mpr ⟨hless.le, rfl⟩]
  refine avoids_bind (avoids_pure _) fun delta => avoids_bind noFault_liftToken fun _ => ?_
  refine avoids_ite (fun _ => ?_) (fun _ => ?_)
  · refine avoids_bind noFault_liftToken fun target => avoids_bind noFault_liftToken fun _ => ?_
    exact avoids_bind noFault_custodyTransfer fun _ =>
      avoids_bind noFault_modify fun _ => noFault_modify
  · refine avoids_bind noFault_liftToken fun _ => avoids_bind noFault_modify fun _ => ?_
    exact avoids_bind noFault_transfer fun _ => noFault_modify

theorem topUp_error (h : topUp ctx sender descriptor additionalDeposit s = .error e s') :
    Orderly s (channelId descriptor) e := by
  refine loadExistingState_bind_error ?_ h
  refine avoids_require_bind nofun fun _ => ?_
  refine avoids_ite (fun _ => avoids_pure _) (fun _ => ?_)
  refine avoids_bind (avoids_ite (fun _ => ?_) (fun _ => avoids_pure _)) fun _ => noFault_modify
  refine avoids_bind (avoids_okOr nofun) fun deposit => ?_
  refine avoids_bind noFault_liftToken fun _ => avoids_bind noFault_fund fun _ => ?_
  exact avoids_bind noFault_modify fun _ => avoids_pure _

theorem requestClose_error (h : requestClose ctx sender descriptor s = .error e s') :
    Orderly s (channelId descriptor) e := by
  refine loadExistingState_bind_error ?_ h
  exact avoids_require_bind nofun fun _ =>
    avoids_onlyIf fun _ => noFault_modify

theorem close_error
    (h : close ctx sender descriptor cumulativeAmount captureAmount signature s = .error e s') :
    Orderly s (channelId descriptor) e := by
  refine loadExistingState_bind_error ?_ h
  refine avoids_require_bind nofun fun _ => ?_
  refine avoids_require_bind nofun fun hcapture => ?_
  refine avoids_require_bind nofun fun hbound => ?_
  refine avoids_bind (avoids_onlyIf fun _ => noFault_validateVoucher) fun _ => ?_
  rw [checkedSub_eq_some.mpr ⟨Nat.not_lt.mp (not_or.mp hcapture).1, rfl⟩,
    checkedSub_eq_some.mpr ⟨hbound, rfl⟩]
  refine avoids_ite (fun _ => ?_) (fun _ => ?_)
  · refine avoids_bind noFault_liftToken fun _ => avoids_bind (avoids_onlyIf fun _ => ?_) fun _ =>
      avoids_bind (avoids_onlyIf fun _ => ?_) fun _ => noFault_deleteChannelState
    · refine avoids_bind noFault_liftToken fun target => avoids_bind noFault_liftToken fun _ => ?_
      exact avoids_bind noFault_custodyTransfer fun _ => noFault_modify
    · exact avoids_bind noFault_payFromCustody fun _ => noFault_modify
  · refine avoids_bind noFault_deleteChannelState fun _ => avoids_bind noFault_liftToken fun _ =>
      avoids_bind (avoids_onlyIf fun _ => ?_) fun _ => avoids_onlyIf fun _ => ?_
    · refine avoids_bind noFault_liftToken fun _ => ?_
      exact avoids_bind noFault_transfer fun _ => noFault_modify
    · exact avoids_bind noFault_transfer fun _ => noFault_modify

/-- `withdraw` is the one call that subtracts without a check of its own. -/
theorem withdraw_error (hcovered : (s.channelStates (channelId descriptor)).settled ≤
      (s.channelStates (channelId descriptor)).deposit)
    (h : withdraw ctx sender descriptor s = .error e s') :
    Orderly s (channelId descriptor) e := by
  refine loadExistingState_bind_error ?_ h
  refine avoids_require_bind nofun fun _ => ?_
  refine avoids_require_bind nofun fun _ => ?_
  rw [checkedSub_eq_some.mpr ⟨hcovered, rfl⟩]
  refine avoids_bind (avoids_pure _) fun refund => avoids_ite (fun _ => ?_) (fun _ => ?_)
  · refine avoids_bind (avoids_onlyIf fun _ => ?_) fun _ => noFault_deleteChannelState
    refine avoids_bind noFault_liftToken fun _ => ?_
    exact avoids_bind noFault_payFromCustody fun _ => noFault_modify
  · refine avoids_bind noFault_deleteChannelState fun _ => avoids_onlyIf fun _ => ?_
    refine avoids_bind noFault_liftToken fun _ => ?_
    exact avoids_bind noFault_transfer fun _ => noFault_modify

/-- No call panics when every channel holds at least what it settled. -/
theorem ChannelCall.error_ne_panicked
    (hcovered : ∀ id, (s.channelStates id).settled ≤ (s.channelStates id).deposit)
    (h : call.run ctx s = .error e s') : e ≠ .panicked := by
  cases call with
  | «open» sender call =>
    have hopen : NoFault ((ChannelCall.open sender call).run ctx) :=
      avoids_bind noFault_modify fun _ => noFault_openChannel
    rintro rfl
    exact Triple.error hopen trivial h rfl
  | settle sender descriptor cumulativeAmount signature =>
    obtain ⟨t, _, hrun⟩ := dispatched_error h
    exact (settle_error hrun).noPanic
  | topUp sender descriptor additionalDeposit =>
    obtain ⟨t, _, hrun⟩ := dispatched_error h
    exact (topUp_error hrun).noPanic
  | requestClose sender descriptor =>
    obtain ⟨t, _, hrun⟩ := dispatched_error h
    exact (requestClose_error hrun).noPanic
  | close sender descriptor cumulativeAmount captureAmount signature =>
    obtain ⟨t, _, hrun⟩ := dispatched_error h
    exact (close_error hrun).noPanic
  | withdraw sender descriptor =>
    obtain ⟨t, hcore, hrun⟩ := dispatched_error h
    refine (withdraw_error ?_ hrun).noPanic
    rw [hcore]
    exact hcovered _

end Faults

/-! ## Runs -/

section Runs

variable [ChannelHash]

/-- A successful call of a run: when it ran and which channel it was about. -/
structure Event where
  time : ℕ
  channel : B256
  call : ChannelCall
  deriving DecidableEq, Repr

/-- The runs of the reserve in which every call is `allowed`, with their events, newest
first.  Failed calls are reverted and leave no event.  Between calls a new transaction
clears the transient storage, and other accounts transfer; nobody else debits the
reserve. -/
inductive Run (allowed : Context → ChannelCall → Prop) : List Event → ReserveState → Prop
  | start {s : ReserveState} (hempty : ∀ id, s.channelStates id = .empty)
      (hjournal : s.journal = []) : Run allowed [] s
  | call {events : List Event} {s s' : ReserveState} {ctx : Context} {call : ChannelCall}
      {id : B256} (hrun : Run allowed events s) (hallowed : allowed ctx call)
      (hcall : call.run ctx s = .ok id s') :
      Run allowed (⟨ctx.timestamp, id, call⟩ :: events) s'
  | transaction {events : List Event} {s : ReserveState} (hrun : Run allowed events s)
      (contextHash : B256) (credits : CreditAccount) :
      Run allowed events { s with
        openedThisTx := fun _ => false
        channelOpenContextHash := contextHash
        credits := credits }
  | transfers {events : List Event} {s : ReserveState} (hrun : Run allowed events s)
      {ledger : Ledger}
      (hreserve : ∀ token, s.ledger token channelReserveAddress ≤
        ledger token channelReserveAddress) :
      Run allowed events { s with ledger := ledger }

theorem Conserved.start (hempty : ∀ id, c.channelStates id = .empty) (hjournal : c.journal = []) :
    Conserved c where
  accounted := fun id => by
    rw [hempty, hjournal]
    exact ⟨Nat.le_refl _, nofun, nofun, rfl, Nat.le_refl _⟩
  backed := fun token => by
    refine (backed_zero (Int.natCast_nonneg _)).of_le fun d => ?_
    unfold outstanding
    rw [hempty]
    split <;> exact Nat.le_refl _

/-- The reserve itself sends no calls. -/
abbrev Outside (_ : Context) (call : ChannelCall) : Prop := call.sender ≠ channelReserveAddress

theorem Run.conserved {events : List Event} (h : Run Outside events s) :
    Conserved s.toReserveCore := by
  induction h with
  | start hempty hjournal => exact Conserved.start hempty hjournal
  | call _ hallowed hcall ih => exact ih.step hallowed (ChannelCall.step hcall)
  | transaction _ _ _ ih => exact ⟨ih.accounted, ih.backed⟩
  | transfers _ hreserve ih =>
    exact ⟨ih.accounted, fun token => (ih.backed token).mono (Int.ofNat_le.mpr (hreserve token))⟩

/-- Conservation: in every reachable state no channel has settled more than its deposit,
so no call panics; the reserve holds, in every token, what its channels have not settled;
and what was paid and refunded in the life of a channel, with what is left in it, is what
was deposited, the payments being vouched for.  Every successful call changes the balances by
exactly the movements of its channel that it records: payments go to the payee and refunds to
the payer. -/
theorem run_conserves {events : List Event} {s : ReserveState} (h : Run Outside events s) :
    (∀ id, (s.channelStates id).settled ≤ (s.channelStates id).deposit) ∧
      (∀ (ctx : Context) (call : ChannelCall) (s' : ReserveState),
        call.run ctx s ≠ .error .panicked s') ∧
      (∀ (token : Address) (channels : Finset ChannelDescriptor),
        ∑ d ∈ channels, s.outstanding token d ≤ s.ledger token channelReserveAddress) ∧
      (∀ id, total Movement.payment (life id s.journal) +
            total Movement.refund (life id s.journal) +
            ((s.channelStates id).deposit - (s.channelStates id).settled) =
          total Movement.deposit (life id s.journal) ∧
        total Movement.payment (life id s.journal) ≤ largestVoucher (life id s.journal)) ∧
      ∀ (ctx : Context) (call : ChannelCall) (id : B256) (s' : ReserveState),
        call.run ctx s = .ok id s' → ∃ d, id = channelId d ∧
          Postings ctx d s s'.ledger s'.journal := by
  have hconserved := h.conserved
  refine ⟨fun id => (hconserved.accounted id).covered, fun ctx call s' hcall => ?_,
    fun token channels => ?_, fun id => ?_,
    fun ctx call id s' hcall => (ChannelCall.step hcall).postings⟩
  · exact ChannelCall.error_ne_panicked (fun id => (hconserved.accounted id).covered) hcall rfl
  · exact Int.ofNat_le.mp (hconserved.backed token channels)
  · exact ⟨(hconserved.accounted id).balanced, (hconserved.accounted id).vouched⟩

end Runs

/-- A payer with a funded account. -/
def fundedReserve : ReserveState where
  channelStates := fun _ => .empty
  openedThisTx := fun _ => false
  channelOpenContextHash := 7
  ledger := fun token account => if token = pathUsdAddress ∧ account = 9 then 100 else 0
  journal := []
  channelStorageCredits := fun _ => 0
  credits := default

/-- A block in which every voucher was signed by account 9. -/
def sampleContext : Context where
  spec := .T8
  env := .permissive pathUsdAddress
  recover := fun _ _ _ => some 9
  timestamp := 1000
  accepts := fun _ _ => rfl

/-- A channel from account 9 to account 5. -/
def sampleChannel : ChannelDescriptor := ⟨9, 5, 0, pathUsdAddress, 1, 0, 7⟩

/-- Of a deposit of 60, 40 are captured and 20 go back. -/
theorem run_conserves_open_close :
    letI := ChannelHash.pairing
    ∃ id s id' s',
      (ChannelCall.open 9 ⟨5, 0, pathUsdAddress, 60, 1, 0⟩).run sampleContext fundedReserve =
        .ok id s ∧
      (ChannelCall.close 5 sampleChannel 50 40 0).run sampleContext s = .ok id' s' ∧
      s'.ledger pathUsdAddress 5 = 40 ∧ s'.ledger pathUsdAddress 9 = 60 ∧
      total Movement.payment (life (channelId sampleChannel) s'.journal) +
          total Movement.refund (life (channelId sampleChannel) s'.journal) + 0 =
        total Movement.deposit (life (channelId sampleChannel) s'.journal) ∧
      ∃ d, id' = channelId d ∧ Postings sampleContext d s s'.ledger s'.journal := by
  let := ChannelHash.pairing
  have hreturned : returned ((do
      let _ ← (ChannelCall.open 9 ⟨5, 0, pathUsdAddress, 60, 1, 0⟩).run sampleContext
      let _ ← (ChannelCall.close 5 sampleChannel 50 40 0).run sampleContext
      let s ← get
      require (s.ledger pathUsdAddress 5 = 40 ∧ s.ledger pathUsdAddress 9 = 60 ∧
        s.channelStates (channelId sampleChannel) = .empty) .panicked : ReserveM Unit)
      fundedReserve) = true := by
    decide +kernel
  obtain ⟨_, s'', hrun⟩ := returned_iff.mp hreturned
  obtain ⟨id, s, hopen, hrun⟩ := bind_ok.mp hrun
  obtain ⟨id', s', hclose, hrun⟩ := bind_ok.mp hrun
  obtain ⟨⟨hpayee, hpayer, hempty⟩, rfl⟩ := require_ok.mp hrun
  have hopened : Run Outside [⟨1000, id, _⟩] s :=
    .call (.start (fun _ => rfl) rfl) (by decide) hopen
  have hclosed : Run Outside [⟨1000, id', _⟩, ⟨1000, id, _⟩] s' := .call hopened (by decide) hclose
  have hbalanced := ((run_conserves hclosed).2.2.2.1 (channelId sampleChannel)).1
  rw [hempty] at hbalanced
  exact ⟨id, s, id', s', hopen, hclose, hpayee, hpayer, hbalanced,
    (run_conserves hopened).2.2.2.2 _ _ _ _ hclose⟩

end Monotempo.Channel
