/-
  Pending transactions are the executable ones.

  The invariant holds of the empty pool and is kept by every call.  Nothing is asked of the on-chain
  nonces that are reported, which may also go down.
-/
import Monotempo.Pool2d.Addition
import Monotempo.Pool2d.StateUpdates
import Mathlib.Data.Nat.Pairing

set_option autoImplicit false

namespace Monotempo.Pool2d

open Chain

variable [NonceSlots]

/-- Additions are made from T1 on and with a nonce that has a successor. -/
def Event.Admissible : Event → Prop
  | .addTransaction tx hardfork => hardfork.isT1 = true ∧ tx.nonce < 2 ^ 64 - 1
  | _ => True

theorem settled_new (config : PoolConfig) (nonces : SequenceId → ℕ) :
    Settled nonces (Pool.new config) :=
  ⟨⟨⟨List.nodup_nil, nofun, ⟨nofun, nofun⟩, nofun, nofun⟩, ⟨nofun, nofun⟩, nofun, nofun⟩, nofun⟩

theorem Settled.step {w : World} (h : Settled w.nonces w.pool) {event : Event}
    (hevent : event.Admissible) : Settled (w.step event).nonces (w.step event).pool := by
  cases event with
  | addTransaction tx hardfork => exact h.addTransaction hevent.1 hevent.2
  | removeTransactions hashes => exact h.removeTransactions
  | removeTransactionsAndDescendants hashes => exact h.removeTransactionsAndDescendants
  | removeTransactionsBySender sender => exact h.removeTransactionsBySender
  | onStateUpdates state => exact h.onStateUpdates state
  | setBaseFee baseFee => exact h.setBaseFee baseFee

theorem Settled.run {w : World} {events : List Event} (h : Settled w.nonces w.pool)
    (hevents : ∀ event ∈ events, event.Admissible) :
    Settled (w.run events).nonces (w.run events).pool := by
  induction events generalizing w with
  | nil => exact h
  | cons event events ih =>
    obtain ⟨hevent, hrest⟩ := List.forall_mem_cons.mp hevents
    exact ih (h.step hevent) hrest

/-- With no transaction below the on-chain nonce, the independent transaction is the one there. -/
theorem Settled.independent_iff {nonces : SequenceId → ℕ} {s : Pool} (h : Settled nonces s)
    (seqId : SequenceId) (tx : StoredTransaction) :
    s.independent seqId = some tx ↔
      ∃ e ∈ s.byId, e.id = ⟨seqId, nonces seqId⟩ ∧ e.inner = tx := by
  constructor
  · intro htx
    obtain ⟨e, he, hinner, rfl, hle⟩ := h.sound.fronted.stored seqId tx htx
    refine ⟨e, he, ?_, hinner⟩
    rw [← Nat.le_antisymm hle (h.current e he)]
    rfl
  · rintro ⟨e, he, hid, rfl⟩
    rw [← e.eta_id, TransactionId.mk.injEq] at hid
    obtain ⟨rfl, hnonce⟩ := hid
    exact h.sound.fronted.present e he hnonce

/-- After every run a transaction is pending if and only if all nonces from the on-chain nonce of
its lane to its own are in the pool, and the independent transaction of a lane is the one at the
on-chain nonce. -/
theorem pending_iff_executable (config : PoolConfig) (nonces : SequenceId → ℕ)
    (events : List Event) (hevents : ∀ event ∈ events, event.Admissible) :
    let w := (⟨Pool.new config, nonces⟩ : World).run events
    (∀ e ∈ w.pool.byId, w.nonces e.seqId ≤ e.nonce ∧
      (e.isPending = true ↔ ∀ nonce, w.nonces e.seqId ≤ nonce → nonce ≤ e.nonce →
        ∃ other ∈ w.pool.byId, other.id = ⟨e.seqId, nonce⟩)) ∧
      ∀ seqId tx, w.pool.independent seqId = some tx ↔
        ∃ e ∈ w.pool.byId, e.id = ⟨seqId, w.nonces seqId⟩ ∧ e.inner = tx := by
  intro w
  have hsettled : Settled w.nonces w.pool := (settled_new config nonces).run hevents
  refine ⟨fun e he => ⟨hsettled.current e he, ?_⟩, hsettled.independent_iff⟩
  rw [hsettled.sound.flagged e he (hsettled.current e he) nofun]
  refine forall_congr' fun nonce => forall_congr' fun _ => forall_congr' fun _ => ?_
  exact holds_iff

/-- Slots that number lanes. -/
@[reducible] def sampleSlots : NonceSlots where
  nonceKeySlot seqId := Nat.pair seqId.address seqId.nonceKey
  expiringNonceSlot hash := hash
  nonceKeySlot_injective := by
    rintro ⟨address, nonceKey⟩ ⟨address', nonceKey'⟩ hslot
    obtain ⟨rfl, rfl⟩ := Nat.pair_eq_pair.mp hslot
    rfl

/-- A transaction of one lane. -/
def sampleTx (nonce : ℕ) : PooledTransaction :=
  ⟨100 + nonce, 7, 1, nonce, none, 10, 1, 50, by decide⟩

/-- Nonces 0, 2 and 1 are added, then the chain goes on to nonce 1 and nonce 1 is removed. -/
def sampleEvents : List Event :=
  [.addTransaction (sampleTx 0) .T1, .addTransaction (sampleTx 2) .T1,
   .addTransaction (sampleTx 1) .T1,
   .onStateUpdates (some ⟨[(Nat.pair 7 1, 1)], by decide⟩), .removeTransactions [101]]

def sampleConfig : PoolConfig := ⟨fun _ _ => false, ⟨10, 1000⟩, ⟨10, 1000⟩, 10, 10⟩

/-- The pool at the end. -/
def sampleWorld : World :=
  @World.run sampleSlots ⟨Pool.new sampleConfig, fun _ => 0⟩ sampleEvents

omit [NonceSlots] in
theorem pending_iff_executable_sample :
    sampleWorld.pool.byId = [⟨⟨1, sampleTx 2⟩, false⟩] ∧ sampleWorld.nonces ⟨7, 1⟩ = 1 ∧
      sampleWorld.pool.independent ⟨7, 1⟩ = none := by
  have hevents : ∀ event ∈ sampleEvents, event.Admissible := by
    simp only [sampleEvents, List.forall_mem_cons, Event.Admissible]
    exact ⟨by decide, by decide, by decide, trivial, trivial, nofun⟩
  have hbyId : sampleWorld.pool.byId = [⟨⟨1, sampleTx 2⟩, false⟩] := by decide +kernel
  have hnonce : sampleWorld.nonces ⟨7, 1⟩ = 1 := by decide +kernel
  have hindependent : ∀ seqId tx, sampleWorld.pool.independent seqId = some tx ↔
      ∃ e ∈ sampleWorld.pool.byId, e.id = ⟨seqId, sampleWorld.nonces seqId⟩ ∧ e.inner = tx :=
    (@pending_iff_executable sampleSlots sampleConfig (fun _ => 0) sampleEvents hevents).2
  refine ⟨hbyId, hnonce, Option.eq_none_iff_forall_ne_some.mpr fun tx htx => ?_⟩
  obtain ⟨e, he, hid, -⟩ := (hindependent ⟨7, 1⟩ tx).mp htx
  rw [hbyId, List.mem_singleton] at he
  rw [hnonce, he] at hid
  exact absurd (congrArg TransactionId.nonce hid) (by decide)

end Monotempo.Pool2d
