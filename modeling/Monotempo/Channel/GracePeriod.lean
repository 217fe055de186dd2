/-
  The time a payee has to capture its vouchers.

  Each channel follows a small state machine: absent, live, or closing since some
  time.  The packed slot refines it, so the phase of a channel is what a replay of the
  events of a run gives, and the grace period is a fact about replays.
-/
import Monotempo.Channel.Conservation

set_option autoImplicit false

namespace Monotempo.Channel

open Chain Foundation Function

/-! ## Phases -/

/-- The phase of a channel. -/
inductive Phase where
  | absent
  | live
  | closing (requestedAt : ℕ)
  deriving DecidableEq, Repr

/-- What a call at a time does to the phase of its channel; `none` if it fails. -/
def Phase.step (now : ℕ) : ChannelCall → Phase → Option Phase
  | .open _ _, .absent => some .live
  | .settle _ _ _ _, .live => some .live
  | .settle _ _ _ _, .closing requestedAt => some (.closing requestedAt)
  | .topUp _ _ _, .live => some .live
  | .topUp _ _ _, .closing _ => some .live
  | .requestClose _ _, .live => some (.closing now)
  | .requestClose _ _, .closing requestedAt => some (.closing requestedAt)
  | .close _ _ _ _ _, .live => some .absent
  | .close _ _ _ _ _, .closing _ => some .absent
  | .withdraw _ _, .closing requestedAt =>
    if requestedAt + closeGracePeriod ≤ now then some .absent else none
  | _, _ => none

/-- The phase that the packed slot stands for. -/
def PackedChannelState.phase (state : PackedChannelState) : Phase :=
  if state.isActive then
    if state.closeRequestedAt = 0 then .live else .closing state.closeRequestedAt
  else .absent

section Slots

variable {state : PackedChannelState}

theorem phase_live (hactive : state.isActive = true) (hrequest : state.closeRequestedAt = 0) :
    state.phase = .live := by
  unfold PackedChannelState.phase
  rw [if_pos hactive, if_pos hrequest]

theorem phase_closing (hactive : state.isActive = true) (hrequest : state.closeRequestedAt ≠ 0) :
    state.phase = .closing state.closeRequestedAt := by
  unfold PackedChannelState.phase
  rw [if_pos hactive, if_neg hrequest]

/-- An active channel is live or closing. -/
theorem phase_active (hactive : state.isActive = true) :
    state.phase = .live ∨ state.phase = .closing state.closeRequestedAt := by
  by_cases hrequest : state.closeRequestedAt = 0
  · exact .inl (phase_live hactive hrequest)
  · exact .inr (phase_closing hactive hrequest)

theorem isActive_of_phase (h : state.phase ≠ .absent) : state.isActive = true := by
  unfold PackedChannelState.phase at h
  split at h
  · assumption
  · exact absurd rfl h

end Slots

/-! ## The packed slot follows the phases -/

section Refinement

variable {ctx : Context} {c c' : ReserveCore} {id : B256} {call : ChannelCall}

theorem channelStates_payOut (token target : Address) (amount : ℕ) (movement : ℕ → Movement) :
    (c.payOut id token target amount movement).channelStates = c.channelStates := by
  unfold ReserveCore.payOut
  split <;> rfl

theorem channelStates_vouched (token target : Address) (settled captureAmount voucher : ℕ) :
    (c.vouched id token target settled captureAmount voucher).channelStates =
      c.channelStates := by
  unfold ReserveCore.vouched
  rw [channelStates_payOut]
  split <;> rfl

theorem phase_of_update {b : ReserveCore} {now : ℕ} {state' : PackedChannelState}
    (hstates : c'.channelStates = update b.channelStates id state')
    (hsame : b.channelStates = c.channelStates)
    (hphase : Phase.step now call (c.channelStates id).phase = some state'.phase) :
    (∀ other, other ≠ id → c'.channelStates other = c.channelStates other) ∧
      Phase.step now call (c.channelStates id).phase = some (c'.channelStates id).phase := by
  rw [hstates, hsame, update_self]
  exact ⟨fun other hother => update_of_ne hother _ _, hphase⟩

/-- A call changes the slot of its own channel only, and moves its phase. -/
theorem Step.phase [ChannelHash] (h : Step ctx c c' id call) (hpositive : 0 < ctx.timestamp)
    (hbound : ctx.timestamp < 2 ^ 32) :
    (∀ other, other ≠ id → c'.channelStates other = c.channelStates other) ∧
      Phase.step ctx.timestamp call (c.channelStates id).phase =
        some (c'.channelStates id).phase := by
  have hnow : ctx.now = ctx.timestamp := by
    unfold Context.now u64Max
    omega
  have hnowU32 : ctx.nowU32 = ctx.timestamp := by
    unfold Context.nowU32 u32Max
    omega
  cases h with
  | opened hid hdeposit hnew hfunds hcore =>
    refine phase_of_update (congrArg ReserveCore.channelStates hcore) rfl ?_
    rw [PackedChannelState.phase, hnew, phase_live (bne_iff_ne.mpr hdeposit) rfl]
    rfl
  | settled target hstate hactive hbound hless hsigned hpay hcore =>
    refine phase_of_update (congrArg ReserveCore.channelStates hcore) ?_ ?_
    · exact channelStates_vouched _ _ _ _ _
    · rw [hstate]
      rcases phase_active hactive with hphase | hphase
      · rw [hphase]
        exact congrArg some hphase.symm
      · rw [hphase]
        exact congrArg some hphase.symm
  | toppedUp hstate hactive hfunds hcore =>
    rename_i d state amount
    refine phase_of_update (congrArg ReserveCore.channelStates hcore) ?_ ?_
    · unfold ReserveCore.toppedUp
      split <;> rfl
    · have hdeposit : state.deposit + amount ≠ 0 := by
        have := bne_iff_ne.mp hactive
        omega
      have hlive := @phase_live
        { state with deposit := state.deposit + amount, closeRequestedAt := 0 }
        (bne_iff_ne.mpr hdeposit) rfl
      rw [hstate, hlive]
      rcases phase_active hactive with hphase | hphase
      · rw [hphase]
        rfl
      · rw [hphase]
        rfl
  | requested hstate hactive hcore =>
    rename_i d state
    refine phase_of_update (congrArg ReserveCore.channelStates hcore) rfl ?_
    rw [hstate, hnowU32]
    by_cases hrequest : state.closeRequestedAt = 0
    · rw [if_pos hrequest, phase_live hactive hrequest]
      have hclosing := @phase_closing { state with closeRequestedAt := ctx.timestamp } hactive
        hpositive.ne'
      exact congrArg some hclosing.symm
    · rw [if_neg hrequest, phase_closing hactive hrequest]
      rfl
  | closed target payer hstate hactive hsettled hbound hvoucher hsigned hpay hback hcore =>
    refine phase_of_update (congrArg ReserveCore.channelStates hcore) ?_ ?_
    · rw [channelStates_payOut, channelStates_vouched]
    · rw [hstate]
      rcases phase_active hactive with hphase | hphase
      · rw [hphase]
        rfl
      · rw [hphase]
        rfl
  | withdrawn payer hstate hactive hrequest hready hsettled hback hcore =>
    refine phase_of_update (congrArg ReserveCore.channelStates hcore) ?_ ?_
    · exact channelStates_payOut _ _ _ _
    · rw [hstate, phase_closing hactive hrequest]
      exact if_pos (hnow ▸ hready)

end Refinement

/-! ## Replays -/

/-- The phase of a channel after the events, newest first. -/
def replay (id : B256) : List Event → Option Phase
  | [] => some .absent
  | event :: earlier => do
    let phase ← replay id earlier
    if event.channel = id then phase.step event.time event.call else some phase

/-- A request to close the channel. -/
def Event.requests (event : Event) (id : B256) : Bool :=
  event.channel = id && match event.call with
    | .requestClose _ _ => true
    | _ => false

/-- A call that ends a pending request: `top_up`, `close` or `withdraw`. -/
def Event.endsRequest (event : Event) (id : B256) : Bool :=
  event.channel = id && match event.call with
    | .topUp _ _ _ => true
    | .close _ _ _ _ _ => true
    | .withdraw _ _ => true
    | _ => false

/-- The payer's acts that keep a channel alive: `open` and `top_up`. -/
def Event.funds (event : Event) (id : B256) : Bool :=
  event.channel = id && match event.call with
    | .open _ _ => true
    | .topUp _ _ _ => true
    | _ => false

/-- A `close` of the channel. -/
def Event.closes (event : Event) (id : B256) : Bool :=
  event.channel = id && match event.call with
    | .close _ _ _ _ _ => true
    | _ => false

section Replays

variable {id : B256} {events later earlier : List Event} {event : Event} {phase : Phase}

theorem replay_cons_ok (h : replay id (event :: earlier) = some phase) :
    ∃ before, replay id earlier = some before ∧
      (event.channel = id ∧ before.step event.time event.call = some phase ∨
        event.channel ≠ id ∧ before = phase) := by
  obtain ⟨before, hbefore, hstep⟩ := Option.bind_eq_some_iff.mp h
  refine ⟨before, hbefore, ?_⟩
  split at hstep
  · rename_i hchannel
    exact .inl ⟨hchannel, hstep⟩
  · rename_i hchannel
    exact .inr ⟨hchannel, Option.some.inj hstep⟩

/-- What an event does to its channel: it funds it, leaves it as it is, asks it to close, or
ends it, a withdrawal only after the grace period. -/
theorem Event.step_cases {before : Phase} (hchannel : event.channel = id)
    (hstep : before.step event.time event.call = some phase) :
    event.funds id = true ∧ phase = .live ∨ event.funds id = false ∧
      (before = phase ∧ event.endsRequest id = false ∨
        event.requests id = true ∧ phase = .closing event.time ∨
        phase = .absent ∧ (event.closes id = true ∨ ∃ requestedAt,
          before = .closing requestedAt ∧ requestedAt + closeGracePeriod ≤ event.time)) := by
  obtain ⟨time, channel, call⟩ := event
  subst hchannel
  cases call <;> cases before <;> simp_all [Phase.step, Event.funds, Event.endsRequest,
    Event.requests, Event.closes]

/-- A closing channel was asked to close at the recorded time, and nothing ended the
request since. -/
theorem replay_closing {requestedAt : ℕ} (h : replay id events = some (.closing requestedAt)) :
    ∃ later request earlier, events = later ++ request :: earlier ∧
      request.requests id = true ∧ request.time = requestedAt ∧
      ∀ event ∈ later, event.endsRequest id = false := by
  induction events with
  | nil => exact nomatch h
  | cons event earlier ih =>
    obtain ⟨before, hbefore, hstep⟩ := replay_cons_ok h
    -- A request that was pending before this event and is not ended by it.
    have hpending : before = .closing requestedAt → event.endsRequest id = false →
        ∃ later request earlier', event :: earlier = later ++ request :: earlier' ∧
          request.requests id = true ∧ request.time = requestedAt ∧
          ∀ event ∈ later, event.endsRequest id = false := by
      rintro rfl hends
      obtain ⟨later, request, rest, rfl, hrequest, htime, hlater⟩ := ih hbefore
      refine ⟨event :: later, request, rest, rfl, hrequest, htime, ?_⟩
      intro other hother
      rcases List.mem_cons.mp hother with rfl | hmem
      · exact hends
      · exact hlater other hmem
    rcases hstep with ⟨hchannel, hstep⟩ | ⟨hchannel, heq⟩
    · rcases Event.step_cases hchannel hstep with
        ⟨_, hlive⟩ | ⟨_, ⟨heq, hends⟩ | ⟨hrequest, hphase⟩ | ⟨habsent, _⟩⟩
      · exact nomatch hlive
      · exact hpending heq hends
      · exact ⟨[], event, earlier, rfl, hrequest, (Phase.closing.inj hphase).symm, nofun⟩
      · exact nomatch habsent
    · exact hpending heq (by simp [Event.endsRequest, hchannel])

/-- A channel that was funded, not closed since, and whose requests since are all younger
than the grace period, is live or closing since one of these requests. -/
theorem replay_funded {now : ℕ} {funding : Event}
    (h : replay id (later ++ funding :: earlier) = some phase) (hfunds : funding.funds id = true)
    (hclose : ∀ event ∈ later, event.closes id = false)
    (hyoung : ∀ event ∈ later, event.requests id = true → now < event.time + closeGracePeriod)
    (hpast : ∀ event ∈ later, event.time ≤ now) :
    phase = .live ∨ ∃ request ∈ later, request.requests id = true ∧
      phase = .closing request.time := by
  induction later generalizing phase with
  | nil =>
    obtain ⟨before, _, ⟨hchannel, hstep⟩ | ⟨hchannel, _⟩⟩ := replay_cons_ok h
    · rcases Event.step_cases hchannel hstep with ⟨_, hlive⟩ | ⟨hnot, _⟩
      · exact .inl hlive
      · exact nomatch hnot.symm.trans hfunds
    · simp [Event.funds, hchannel] at hfunds
  | cons event later ih =>
    obtain ⟨before, hbefore, hstep⟩ := replay_cons_ok h
    have hbefore' := ih hbefore (fun e he => hclose e (List.mem_cons_of_mem _ he))
      (fun e he => hyoung e (List.mem_cons_of_mem _ he))
      (fun e he => hpast e (List.mem_cons_of_mem _ he))
    -- An event that leaves the phase as it was.
    have hsame : before = phase → phase = .live ∨ ∃ request ∈ event :: later,
        request.requests id = true ∧ phase = .closing request.time := by
      rintro rfl
      rcases hbefore' with hlive | ⟨request, hmem, hrequest, hphase⟩
      · exact .inl hlive
      · exact .inr ⟨request, List.mem_cons_of_mem _ hmem, hrequest, hphase⟩
    rcases hstep with ⟨hchannel, hstep⟩ | ⟨_, heq⟩
    · rcases Event.step_cases hchannel hstep with ⟨_, hlive⟩ | ⟨_, ⟨heq, _⟩ |
        ⟨hrequest, hphase⟩ | ⟨_, hclosed | ⟨requestedAt, hclosing, hready⟩⟩⟩
      · exact .inl hlive
      · exact hsame heq
      · exact .inr ⟨event, List.mem_cons_self, hrequest, hphase⟩
      · exact nomatch (hclose event List.mem_cons_self).symm.trans hclosed
      · -- The request that a withdrawal needs would be too young.
        rcases hbefore' with hlive | ⟨request, hmem, hrequest, hphase⟩
        · exact nomatch hclosing.symm.trans hlive
        · obtain rfl := Phase.closing.inj (hclosing.symm.trans hphase)
          have hyounger := hyoung request (List.mem_cons_of_mem _ hmem) hrequest
          have hnow := hpast event List.mem_cons_self
          omega
    · exact hsame heq

end Replays

/-! ## Runs -/

section Runs

variable [ChannelHash]

/-- A block timestamp above zero that fits the packed timer. -/
abbrev Timely (ctx : Context) : Prop := 0 < ctx.timestamp ∧ ctx.timestamp < 2 ^ 32

/-- The slots of a run are in the phases that its events give. -/
theorem Run.replay {events : List Event} {s : ReserveState}
    (h : Run (fun ctx _ => Timely ctx) events s) (id : B256) :
    Channel.replay id events = some (s.channelStates id).phase := by
  induction h with
  | start hempty _ =>
    rw [hempty]
    rfl
  | call _ htimely hcall ih =>
    obtain ⟨hother, hphase⟩ := (ChannelCall.step hcall).phase htimely.1 htimely.2
    unfold Channel.replay
    rw [ih, Option.bind_eq_bind, Option.bind_some]
    split
    · rename_i hchannel
      rw [← hchannel]
      exact hphase
    · rename_i hchannel
      rw [hother id fun heq => hchannel heq.symm]
  | transaction _ _ _ ih | transfers _ _ ih => exact ih

/-- The grace period: at a time that no event is later than, a withdrawal succeeds only
if a request to close is at least the grace period old and nothing ended it since; and
as long as every request since the last funding is younger, and the channel was not
closed, no capture is rejected for a missing channel. -/
theorem run_grace_period {events : List Event} {s : ReserveState} {ctx : Context}
    (h : Run (fun ctx _ => Timely ctx) events s) (htimely : Timely ctx)
    (hpast : ∀ event ∈ events, event.time ≤ ctx.timestamp) (d : ChannelDescriptor) :
    (∀ (sender : Address) (id : B256) (s' : ReserveState),
      (ChannelCall.withdraw sender d).run ctx s = .ok id s' →
      ∃ later request earlier, events = later ++ request :: earlier ∧
        request.requests (channelId d) = true ∧
        request.time + closeGracePeriod ≤ ctx.timestamp ∧
        ∀ event ∈ later, event.endsRequest (channelId d) = false) ∧
      ∀ (later earlier : List Event) (funding : Event), events = later ++ funding :: earlier →
        funding.funds (channelId d) = true →
        (∀ event ∈ later, event.closes (channelId d) = false) →
        (∀ event ∈ later, event.requests (channelId d) = true →
          ctx.timestamp < event.time + closeGracePeriod) →
        ∀ (sender : Address) (cumulativeAmount captureAmount signature : ℕ) (s' : ReserveState),
          (ChannelCall.settle sender d cumulativeAmount signature).run ctx s ≠
            .error (.reserve .channelNotFound) s' ∧
          (ChannelCall.close sender d cumulativeAmount captureAmount signature).run ctx s ≠
            .error (.reserve .channelNotFound) s' := by
  have hreplay := h.replay (channelId d)
  refine ⟨fun sender id s' hrun => ?_, ?_⟩
  · obtain rfl : id = channelId d := by
      cases ChannelCall.step hrun with
      | withdrawn => rfl
    have hstep := (ChannelCall.step hrun).phase htimely.1 htimely.2
    cases hphase : (s.channelStates (channelId d)).phase with
    | absent | live =>
      rw [hphase] at hstep
      exact nomatch hstep.2
    | closing requestedAt =>
      rw [hphase] at hreplay hstep
      obtain ⟨later, request, earlier, hevents, hrequest, htime, hlater⟩ :=
        replay_closing hreplay
      refine ⟨later, request, earlier, hevents, hrequest, ?_, hlater⟩
      rw [htime]
      by_contra hearly
      simp only [Phase.step, if_neg hearly, reduceCtorEq, and_false] at hstep
  · rintro later earlier funding rfl hfunds hclose hyoung sender cumulativeAmount captureAmount
      signature s'
    have hphase := replay_funded hreplay hfunds hclose hyoung fun event hmem =>
      hpast event (List.mem_append_left _ hmem)
    have hactive : (s.channelStates (channelId d)).isActive = true := by
      refine isActive_of_phase fun habsent => ?_
      rcases hphase with hlive | ⟨request, _, _, hclosing⟩
      · exact nomatch habsent.symm.trans hlive
      · exact nomatch habsent.symm.trans hclosing
    have hfound : ∀ t : ReserveState, t.toReserveCore = s →
        ¬ Orderly t (channelId d) (.reserve .channelNotFound) := by
      intro t hcore horderly
      have hmissing := horderly.missing rfl
      rw [hcore, hactive] at hmissing
      exact nomatch hmissing
    refine ⟨fun hrun => ?_, fun hrun => ?_⟩
    · obtain ⟨t, hcore, hsettle⟩ := dispatched_error hrun
      exact hfound t hcore (settle_error hsettle)
    · obtain ⟨t, hcore, hclosed⟩ := dispatched_error hrun
      exact hfound t hcore (close_error hclosed)

end Runs

/-- A channel is opened and asked to close, and the payer withdraws after the grace
period. -/
theorem run_grace_period_withdraw :
    letI := ChannelHash.pairing
    ∃ events s id s',
      Run (fun ctx _ => Timely ctx) events s ∧
      (ChannelCall.withdraw 9 sampleChannel).run { sampleContext with timestamp := 2000 } s =
        .ok id s' ∧
      ∃ later request earlier, events = later ++ request :: earlier ∧
        request.time + closeGracePeriod ≤ 2000 := by
  let := ChannelHash.pairing
  have hreturned : returned
      (((ChannelCall.open 9 ⟨5, 0, pathUsdAddress, 60, 1, 0⟩).run sampleContext >>= fun _ =>
        (ChannelCall.requestClose 9 sampleChannel).run sampleContext >>= fun _ =>
        (ChannelCall.withdraw 9 sampleChannel).run { sampleContext with timestamp := 2000 })
        fundedReserve) = true := by
    decide +kernel
  obtain ⟨id, s', hrun⟩ := returned_iff.mp hreturned
  obtain ⟨idOpen, s₁, hopen, hrest⟩ := bind_ok.mp hrun
  obtain ⟨idRequest, s₂, hrequest, hwithdraw⟩ := bind_ok.mp hrest
  have hreach : Run (fun ctx _ => Timely ctx)
      [⟨1000, idRequest, .requestClose 9 sampleChannel⟩,
        ⟨1000, idOpen, .open 9 ⟨5, 0, pathUsdAddress, 60, 1, 0⟩⟩] s₂ :=
    .call (.call (.start (fun _ => rfl) rfl) (by decide) hopen) (by decide) hrequest
  obtain ⟨later, request, earlier, hevents, _, htime, _⟩ :=
    (@run_grace_period _ _ s₂ { sampleContext with timestamp := 2000 } hreach (by decide)
      (by simp) sampleChannel).1 9 id s' hwithdraw
  exact ⟨_, s₂, id, s', hreach, hwithdraw, later, request, earlier, hevents, htime⟩

end Monotempo.Channel
