/-
  A replayed transaction is charged what its recording was charged.

  Recording writes down a slot that leaves or reaches zero with its exact values.  Replay applies
  increments, decrements and swaps to whatever the block has in the slot, and there the slot may
  leave or reach zero although it did not in the recording.  Every step is charged as in the
  recording exactly where zeros are met and left as in the recording.
-/
import Monotempo.Replay.Refinement

set_option autoImplicit false

namespace Monotempo.Replay

open Chain Foundation

/-- `STORAGE_CREDIT_VALUE`. -/
def storageCreditValue : ℕ := 245000

/-- A price list that has only the creation of slots. -/
def creditSchedule : GasSchedule where
  gas
    | .creditCharge => storageCreditValue
    | _ => 0
  refund _ := 0

theorem Shifted.start (base base' : Storage) :
    Shifted base base' (fun _ => none) (fun _ => none) := by
  intro slot
  refine ⟨?_, fun _ => rfl, nofun⟩
  simp [changeAt]

section Charged

variable [NonceSlots] {env : CreditEnv} {policy : CreditPolicy} {cache : Cache} {valid : Bool}
  {blockTimestamp : ℕ} {e e' : Executor} {recorded : Storage} {α : Type} {program : Program α}
  {trace : Trace α}

/-- A program was recorded without failed arithmetic and its actions are replayed.  The program run
where it was replayed is charged step by step as it was charged when it was recorded, and so in
every price list, if and only if every replayed increment, decrement and swap meets and leaves zeros
as the recorded one did. -/
theorem replay_charges_as_recorded (htrusted : Trusted ⟨e.storage, cache⟩ recorded)
    (hrecorded : program.execute env policy recorded = some trace) (hfailed : trace.failed = false)
    (hreplay : executeTransactionWithActions env.spec cache blockTimestamp valid
      ⟨true, trace.actions, none⟩ e = .ok () e') :
    (∃ trace', program.execute env policy e.storage = some trace' ∧ trace'.costs = trace.costs ∧
      ∀ schedule : GasSchedule,
        schedule.gasUsed trace'.costs = schedule.gasUsed trace.costs ∧
          schedule.refunded trace'.costs = schedule.refunded trace.costs) ↔
      KeepsZeros ⟨e.storage, cache⟩ trace.steps e.replayState.resetTxChanges := by
  obtain ⟨replayed, -, -, hreproduced⟩ := executed_reproduced htrusted hrecorded hfailed hreplay
  have hstart := Shifted.start recorded e.storage
  constructor
  · rintro ⟨trace', hrun, hcosts, -⟩
    exact hreproduced.zeros hstart trace' hrun hcosts
  · intro hzeros
    obtain ⟨trace', hrun, -, -, hcosts⟩ := hreproduced.follows hzeros.keepsCredits
    have hsame := hcosts hstart hzeros
    exact ⟨trace', hrun, hsame, fun schedule => by rw [hsame]; exact ⟨rfl, rfl⟩⟩

end Charged

/-- Recorded where the target is 10 and replayed where it is 20: both pay for the marked slot. -/
theorem replay_charges_addition :
    ∃ trace', (addSlot ⟨1, 0⟩ ⟨1, 1⟩ ⟨1, 2⟩).execute startEnv startPolicy (targetStorage 20) =
      some trace' ∧ creditSchedule.gasUsed trace'.costs = 245000 := by
  let _ := NonceSlots.spread
  obtain ⟨trace, e', hrecorded, hfailed, -, hsteps, hexecute, -⟩ := addition_replayed
  have hgas : creditSchedule.gasUsed trace.costs = 245000 := by
    obtain rfl := Option.some.inj hrecorded
    rfl
  obtain ⟨trace', hrun, -, hcharged⟩ := (replay_charges_as_recorded (trusted_wholeCache _ _)
    hrecorded hfailed hexecute).mpr (addition_keepsZeros hsteps)
  exact ⟨trace', hrun, (hcharged creditSchedule).1.trans hgas⟩

/-- The target is 10 in the recording and has been emptied when it is replayed.  The replay
succeeds, and the program itself pays there for a second slot that leaves zero. -/
theorem replay_misses_creation :
    letI := NonceSlots.spread
    ∃ (trace trace' : Trace ℕ) (e' : Executor),
      Trusted ⟨targetStorage 0, wholeCache (targetStorage 0)⟩ (targetStorage 10) ∧
      (addSlot ⟨1, 0⟩ ⟨1, 1⟩ ⟨1, 2⟩).execute startEnv startPolicy (targetStorage 10) = some trace ∧
      trace.failed = false ∧
      executeTransactionWithActions .T8 (wholeCache (targetStorage 0)) 0 true
        ⟨true, trace.actions, none⟩ (.start (targetStorage 0)) = .ok () e' ∧
      (addSlot ⟨1, 0⟩ ⟨1, 1⟩ ⟨1, 2⟩).execute startEnv startPolicy (targetStorage 0) = some trace' ∧
      trace'.costs ≠ trace.costs ∧
      creditSchedule.gasUsed trace.costs = 245000 ∧
      creditSchedule.gasUsed trace'.costs = 490000 :=
  ⟨_, _, _, trusted_wholeCache _ _, rfl, rfl, rfl, rfl, by decide, rfl, rfl⟩

end Monotempo.Replay
