/-
  Replay does what the program would do.

  A program was recorded on one state and its actions are replayed on another.  Loads are checked
  to see the recorded values, so the program takes the same branches, and increments, decrements
  and swaps are applied as the program applies them.  The replay does not repeat the accounting of
  storage credits: it has the actions of the recorded accounting.  So it has the journal that the
  program itself would have where the slots whose writes are accounted for cross zero as they did
  in the recording.
-/
import Monotempo.Replay.Actions

set_option autoImplicit false

namespace Monotempo.Replay

open Chain Foundation FeeAmm Function

variable {action : StorageAction} {sloadValue value : ℕ} {actions : List StorageAction}
  {db : Database} {recorded base : Storage} {slot other : Slot}
  {r r' t : StorageActionReplayState} {changes : Changes} {written : Option ℕ}
  {f : ℕ → Option ℕ} {u : Unit}

/-! ## Two runs in step -/

variable {changes' : Changes} {value' : ℕ}

/-- Two journals of the same slots. -/
def SameDomain (changes changes' : Changes) : Prop :=
  ∀ slot, changes slot = none ↔ changes' slot = none

theorem SameDomain.access (h : SameDomain changes changes') {base base' : Storage}
    (slot : Slot) (written written' : Option ℕ) :
    SameDomain (access base changes slot written) (access base' changes' slot written') := by
  intro other
  unfold Replay.access
  by_cases heq : other = slot
  · subst heq
    simp
  · simpa [heq] using h other

theorem SameDomain.isCold (h : SameDomain changes changes') (slot : Slot) :
    isCold changes' slot = isCold changes slot := by
  have hiff := h slot
  unfold Replay.isCold
  cases hc : changes slot with
  | none => rw [hiff.mp hc]
  | some c =>
    cases hd : changes' slot with
    | none => exact absurd (hiff.mpr hd) (by simp [hc])
    | some d => rfl

theorem SameDomain.first (h : SameDomain changes changes') (base : Storage) :
    changes' slot = none → present base changes slot = base slot := by
  intro hnone
  rw [present, changeAt_none base ((h slot).mpr hnone)]

/-- The values of a slot in two runs differ by the same amount. -/
structure ShiftedChange (c d : SlotChange) : Prop where
  shift : (d.original : ℤ) - c.original = d.current - c.current
  unwritten : c.written = false → c.current = c.original
  zero : c.written = true → (c.original = 0 ↔ d.original = 0)

/-- Every slot differs by an amount of its own. -/
def Shifted (base base' : Storage) (changes changes' : Changes) : Prop :=
  ∀ slot, ShiftedChange (changeAt base changes slot) (changeAt base' changes' slot)

variable {base' : Storage} {c d : SlotChange}

theorem ShiftedChange.write (h : ShiftedChange c d) (hpresent : c.current = 0 ↔ d.current = 0)
    (hnew : value = 0 ↔ value' = 0) (hshift : (value' : ℤ) - value = d.current - c.current) :
    writeClass c.original c.current value = writeClass d.original d.current value' ∧
      ShiftedChange (c.access (some value)) (d.access (some value')) := by
  have hzero : c.original = 0 ↔ d.original = 0 := by
    cases hwritten : c.written with
    | true => exact h.zero hwritten
    | false =>
      have horiginal := h.unwritten hwritten
      have hdiff := h.shift
      omega
  have hdiff := h.shift
  refine ⟨?_, by dsimp only [SlotChange.access]; omega, nofun, fun _ => hzero⟩
  unfold writeClass
  congr 1 <;> rw [decide_eq_decide] <;> omega

theorem Shifted.access (h : Shifted base base' changes changes') (slot : Slot)
    {written written' : Option ℕ}
    (hentry : ShiftedChange ((changeAt base changes slot).access written)
      ((changeAt base' changes' slot).access written')) :
    Shifted base base' (access base changes slot written)
      (access base' changes' slot written') := by
  intro other
  rw [changeAt_access, changeAt_access]
  split
  · exact hentry
  · exact h other

/-- A write in two runs is of one class. -/
theorem Shifted.write (h : Shifted base base' changes changes') (slot : Slot)
    (hpresent : present base changes slot = 0 ↔ present base' changes' slot = 0)
    (hnew : value = 0 ↔ value' = 0)
    (hshift : (value' : ℤ) - value = present base' changes' slot - present base changes slot) :
    writeKind base' changes' slot value' = writeKind base changes slot value ∧
      Shifted base base' (Replay.access base changes slot (some value))
        (Replay.access base' changes' slot (some value')) := by
  obtain ⟨hclass, hentry⟩ := (h slot).write hpresent hnew hshift
  exact ⟨hclass.symm, h.access slot hentry⟩

/-- A write of one value over equal values, or a load. -/
theorem Shifted.exact (h : Shifted base base' changes changes')
    (hpresent : present base' changes' slot = present base changes slot) (written : Option ℕ) :
    written.map (writeKind base' changes' slot) = written.map (writeKind base changes slot) ∧
      Shifted base base' (Replay.access base changes slot written)
        (Replay.access base' changes' slot written) := by
  cases written with
  | none => exact ⟨rfl, h.access slot (h slot)⟩
  | some value =>
    have hzero : present base changes slot = 0 ↔ present base' changes' slot = 0 := by
      rw [hpresent]
    obtain ⟨hkind, hstored⟩ := h.write slot hzero (Iff.refl (value = 0)) (by rw [hpresent]; omega)
    exact ⟨congrArg some hkind, hstored⟩

/-- An increment, a decrement or a swap changes a slot by an amount that does not depend on the
slot. -/
theorem rebase_shift {a b : ℕ} (haction : action.rebase = some (slot, sloadValue, f))
    (ha : f a = some value) (hb : f b = some value') : (value' : ℤ) - value = b - a := by
  cases action with
  | sinc slot sloadValue delta =>
    cases haction
    obtain ⟨rfl, -⟩ := checkedAdd256_eq_some.mp ha
    obtain ⟨rfl, -⟩ := checkedAdd256_eq_some.mp hb
    omega
  | sdec slot sloadValue delta =>
    cases haction
    obtain ⟨hle, rfl⟩ := checkedSub_eq_some.mp ha
    obtain ⟨hle', rfl⟩ := checkedSub_eq_some.mp hb
    omega
  | feeAmmSwap key sloadValue amountIn =>
    cases haction
    obtain ⟨amountOut, hout, hvalue⟩ := swapSlot_eq_some ha
    obtain ⟨amountOut', hout', hvalue'⟩ := swapSlot_eq_some hb
    obtain rfl : amountOut = amountOut' := Option.some.inj (hout.symm.trans hout')
    omega
  | sload | sstore | feeAmmLiquidityCheck => exact nomatch haction

/-! ## Conditions on replayed steps -/

variable {step : Step} {steps rest : List Step}

/-- Two writes that meet a zero alike and leave a zero alike. -/
def SameZeros (current value current' value' : ℕ) : Prop :=
  (current = 0 ↔ current' = 0) ∧ (value = 0 ↔ value' = 0)

/-- Two writes that cross zero alike, if storage credits are accounted for with them. -/
def SameCrossing (counted : Bool) (current value current' value' : ℕ) : Prop :=
  counted = true → crossing current value = crossing current' value'

theorem SameZeros.crossing {current current' : ℕ} (h : SameZeros current value current' value')
    (counted : Bool) : SameCrossing counted current value current' value' := by
  intro _
  unfold Replay.crossing
  simp only [ne_eq, h.1, h.2]

/-- How a replayed increment, decrement or swap writes, compared with the recorded one. -/
def Rebased (db : Database) (R : ℕ → ℕ → ℕ → ℕ → Prop) (step : Step)
    (r : StorageActionReplayState) : Prop :=
  ∀ slot sloadValue f, step.action.rebase = some (slot, sloadValue, f) →
    ∀ value value', f sloadValue = some value →
      f (present db.storage r.txChanges slot) = some value' →
      R sloadValue value (present db.storage r.txChanges slot) value'

/-- A condition holds at every step of a replay. -/
def Along (db : Database) (P : Step → StorageActionReplayState → Prop) :
    List Step → StorageActionReplayState → Prop
  | [], _ => True
  | step :: steps, r =>
    P step r ∧ ∀ r', replayAction db step.action r = .ok () r' → Along db P steps r'

/-- Every replayed action meets and leaves zeros as the recorded one did. -/
def KeepsZeros (db : Database) : List Step → StorageActionReplayState → Prop :=
  Along db (Rebased db SameZeros)

/-- Every replayed action that storage credits are accounted for with crosses zero as the recorded
one did. -/
def KeepsCredits (db : Database) : List Step → StorageActionReplayState → Prop :=
  Along db fun step => Rebased db (SameCrossing step.counted) step

section Along

variable {P Q : Step → StorageActionReplayState → Prop}

theorem Along.mono (hmono : ∀ step r, P step r → Q step r) (h : Along db P steps r) :
    Along db Q steps r := by
  induction steps generalizing r with
  | nil => trivial
  | cons step steps ih => exact ⟨hmono step r h.1, fun t ht => ih (h.2 t ht)⟩

theorem Along.of_forall (h : ∀ step ∈ steps, ∀ r, P step r) : Along db P steps r := by
  induction steps generalizing r with
  | nil => trivial
  | cons step steps ih =>
    exact ⟨h step List.mem_cons_self r, fun _ _ => ih fun s hs => h s (List.mem_cons_of_mem _ hs)⟩

theorem Along.append (hreplay : replayEach db false (steps.map Step.action) r = .ok () t) :
    Along db P (steps ++ rest) r ↔ Along db P steps r ∧ Along db P rest t := by
  induction steps generalizing r with
  | nil =>
    obtain ⟨-, rfl⟩ := pure_ok.mp hreplay
    exact ⟨fun h => ⟨trivial, h⟩, And.right⟩
  | cons step steps ih =>
    obtain ⟨s, hs, hreplay⟩ := replayEach_cons.mp hreplay
    have hnext (Q : StorageActionReplayState → Prop) :
        (∀ s', replayAction db step.action r = .ok () s' → Q s') ↔ Q s := by
      rw [hs]
      exact ⟨fun h => h s rfl, fun h s' heq => by cases heq; exact h⟩
    simp only [List.cons_append, Along, hnext, ih hreplay, and_assoc]

end Along

theorem KeepsZeros.keepsCredits (h : KeepsZeros db steps r) : KeepsCredits db steps r :=
  Along.mono (fun step _ hstep slot sloadValue f haction value value' hvalue hvalue' =>
    (hstep slot sloadValue f haction value value' hvalue hvalue').crossing step.counted) h

/-- Steps that are replayed exactly. -/
def ExactSteps (steps : List Step) : Prop := ∀ step ∈ steps, step.action.rebase = none

theorem exactSteps_nil : ExactSteps [] := nofun

theorem ExactSteps.keepsZeros (h : ExactSteps steps) : KeepsZeros db steps r :=
  Along.of_forall fun step hstep _ _ _ _ hrebase => nomatch (h step hstep).symm.trans hrebase

/-- Zeros are kept by steps of which one is applied to the value of the block. -/
theorem keepsZeros_iff (step : Step) (hbefore : ExactSteps steps) (hafter : ExactSteps rest)
    (hreplay : replayEach db false (steps.map Step.action) r = .ok () t)
    (haction : step.action.rebase = some (slot, sloadValue, f)) (hvalue : f sloadValue = some value)
    (hvalue' : f (present db.storage t.txChanges slot) = some value') :
    KeepsZeros db (steps ++ step :: rest) r ↔
      SameZeros sloadValue value (present db.storage t.txChanges slot) value' := by
  rw [KeepsZeros, Along.append hreplay]
  refine ⟨fun h => h.2.1 slot sloadValue f haction value value' hvalue hvalue',
    fun h => ⟨hbefore.keepsZeros, ?_, fun _ _ => hafter.keepsZeros⟩⟩
  intro slot' sloadValue' f' haction' v v' hv hv'
  cases haction.symm.trans haction'
  obtain rfl := Option.some.inj (hvalue.symm.trans hv)
  obtain rfl := Option.some.inj (hvalue'.symm.trans hv')
  exact h

/-! ## Replayed accounting -/

variable {env : CreditEnv} {crossed crossed' : Option Crossing} {journal : Journal}
  {booked : Booked} {policy : CreditPolicy}

/-- Where its steps were replayed, a part of a program that left `j` with the costs `c` leaves the
journal of the replay, with the same costs if `zeros` are kept. -/
structure Follows (db : Database) (recorded : Storage) (changes : Changes)
    (r t : StorageActionReplayState) (zeros : Prop) (j j' : Journal) (c c' : List Cost) : Prop where
  journal : j' = ⟨t.txChanges, j.policy⟩
  domain : SameDomain j.changes t.txChanges
  costs : Shifted recorded db.storage changes r.txChanges → zeros →
    c' = c ∧ Shifted recorded db.storage j.changes t.txChanges

theorem creditSteps_actions (account : Slot) (credit : ℕ) (balance : Option ℕ) :
    (creditSteps account credit balance).map Step.action =
      .sload account credit :: (balance.map (.sstore account credit)).toList := by
  cases balance with
  | none => rfl
  | some value => rfl

theorem creditSlot_ne (h : counted env policy slot = true) : creditSlot slot.address ≠ slot := by
  intro heq
  have haddress : slot.address ≠ storageCreditsAddress := by
    simp only [counted, Bool.and_eq_true, decide_eq_true_eq] at h
    exact h.2
  exact haddress (congrArg Slot.address heq).symm

theorem sstoreStorageCredits_uncounted (h : counted env journal.policy slot = false) :
    sstoreStorageCredits env base slot crossed journal = some ⟨journal, [], []⟩ := by
  cases crossed with
  | none => rfl
  | some crossed =>
    unfold sstoreStorageCredits
    simp [h]

theorem sstoreStorageCredits_congr (h : counted env policy slot = true → crossed = crossed') :
    sstoreStorageCredits env base slot crossed ⟨changes, policy⟩ =
      sstoreStorageCredits env base slot crossed' ⟨changes, policy⟩ := by
  cases hcounted : counted env policy slot with
  | false => rw [sstoreStorageCredits_uncounted hcounted, sstoreStorageCredits_uncounted hcounted]
  | true => rw [h hcounted]

/-- Accounting writes down only exact actions. -/
theorem sstoreStorageCredits_exact
    (h : sstoreStorageCredits env base slot crossed journal = some booked) :
    ExactSteps booked.steps := by
  unfold sstoreStorageCredits at h
  split at h
  · obtain rfl := Option.some.inj h
    exact nofun
  split at h
  · dsimp only at h
    split at h
    · exact nomatch h
    obtain rfl := Option.some.inj h
    intro step hstep
    obtain rfl | hstep := List.mem_cons.mp hstep
    · rfl
    · obtain ⟨value, -, rfl⟩ := Option.map_eq_some_iff.mp (Option.mem_toList.mp hstep)
      rfl
  · obtain rfl := Option.some.inj h
    exact nofun

/-- The accounting of a write does not depend on when the slot itself is written. -/
theorem sstoreStorageCredits_access (written : Option ℕ) :
    sstoreStorageCredits env base slot crossed ⟨access base changes slot written, policy⟩ =
      (sstoreStorageCredits env base slot crossed ⟨changes, policy⟩).map fun booked =>
        { booked with journal :=
          ⟨access base booked.journal.changes slot written, booked.journal.policy⟩ } := by
  unfold sstoreStorageCredits
  cases crossed with
  | none => rfl
  | some crossed =>
    dsimp only
    cases hcounted : counted env policy slot with
    | false => rfl
    | true =>
      have hne := creditSlot_ne hcounted
      have hcold : isCold (access base changes slot written) (creditSlot slot.address) =
          isCold changes (creditSlot slot.address) := by
        unfold isCold access
        rw [update_of_ne hne]
      have hkind : writeKind base (access base changes slot written) (creditSlot slot.address) =
          writeKind base changes (creditSlot slot.address) := by
        funext value
        unfold writeKind
        rw [present_access_of_ne hne, changeAt_access_of_ne hne]
      simp only [if_true, present_access_of_ne hne, hcold, hkind, access_comm hne.symm]
      split <;> rfl

/-- The accounting of a write, where its steps were replayed: it sees the recorded balance. -/
theorem sstoreStorageCredits_replayed (htrusted : Trusted db recorded)
    (hdomain : SameDomain journal.changes r.txChanges)
    (hbooked : sstoreStorageCredits env recorded slot crossed journal = some booked)
    (hreplay : replayEach db false (booked.steps.map Step.action) r = .ok () t) :
    ∃ booked', sstoreStorageCredits env db.storage slot crossed ⟨r.txChanges, journal.policy⟩ =
        some booked' ∧
      Follows db recorded journal.changes r t True booked.journal booked'.journal booked.costs
        booked'.costs := by
  have hidle : booked = ⟨journal, [], []⟩ → Follows db recorded journal.changes r t True
      booked.journal ⟨r.txChanges, journal.policy⟩ booked.costs [] := by
    rintro rfl
    obtain ⟨-, rfl⟩ := pure_ok.mp hreplay
    exact ⟨rfl, hdomain, fun hshifted _ => ⟨rfl, hshifted⟩⟩
  cases hcounted : counted env journal.policy slot with
  | false =>
    rw [sstoreStorageCredits_uncounted hcounted] at hbooked
    exact ⟨_, sstoreStorageCredits_uncounted hcounted, hidle (Option.some.inj hbooked).symm⟩
  | true =>
    cases crossed with
    | none => exact ⟨_, rfl, hidle (Option.some.inj hbooked).symm⟩
    | some crossed =>
      unfold sstoreStorageCredits at hbooked ⊢
      simp only [hcounted, if_true] at hbooked ⊢
      split at hbooked
      · exact nomatch hbooked
      rename_i hbalance
      obtain rfl := Option.some.inj hbooked
      rw [creditSteps_actions] at hreplay
      obtain ⟨hpresent, ht⟩ := replay_exact htrusted (hdomain.first recorded) hreplay
      simp only [hpresent, if_neg hbalance, Option.some.injEq, exists_eq_left']
      refine ⟨by rw [ht], ?_, fun hshifted _ => ?_⟩
      · rw [ht]
        exact hdomain.access _ _ _
      · obtain ⟨hkind, hstored⟩ := hshifted.exact hpresent (accountCrossing
          (!env.nonCreditable slot && journal.policy.minting)
          (journal.policy.transient slot.address)
          (present recorded journal.changes (creditSlot slot.address)) crossed).balance
        rw [ht]
        refine ⟨?_, hstored⟩
        have hwrite := congrArg (Option.map Cost.creditWrite) hkind
        rw [Option.map_map, Option.map_map] at hwrite
        rw [hdomain.isCold]
        exact congrArg (fun costs => _ :: _ ++ Option.toList costs) hwrite

/-- Accounting leaves the written slot alone. -/
theorem sstoreStorageCredits_present
    (h : sstoreStorageCredits env base slot crossed journal = some booked) :
    present base booked.journal.changes slot = present base journal.changes slot := by
  cases hcounted : counted env journal.policy slot with
  | false =>
    rw [sstoreStorageCredits_uncounted hcounted] at h
    obtain rfl := Option.some.inj h
    rfl
  | true =>
    cases crossed with
    | none =>
      obtain rfl := Option.some.inj h
      rfl
    | some crossed =>
      unfold sstoreStorageCredits at h
      simp only [hcounted, if_true] at h
      split at h
      · exact nomatch h
      obtain rfl := Option.some.inj h
      exact present_access_of_ne (creditSlot_ne hcounted).symm

/-! ## Replayed updates -/

section Updates

variable {cold : Bool}

/-- An update writes `value` where it was recorded, and `value'` where its steps were replayed. -/
structure UpdateReplayed (db : Database) (recorded : Storage) (env : CreditEnv) (slot : Slot)
    (cold : Bool) (journal : Journal) (r t : StorageActionReplayState) (steps : List Step)
    (value value' : ℕ) (booked : Booked) : Prop where
  zeros : KeepsZeros db steps r ↔ SameZeros (present recorded journal.changes slot) value
    (present db.storage r.txChanges slot) value'
  follows : KeepsCredits db steps r → ∃ booked',
    sstoreInner env db.storage slot cold value' ⟨r.txChanges, journal.policy⟩ = some booked' ∧
      Follows db recorded journal.changes r t (KeepsZeros db steps r) booked.journal booked'.journal
        booked.costs booked'.costs

theorem sstoreInner_exact (h : sstoreInner env base slot cold value journal = some booked) :
    ExactSteps booked.steps := by
  obtain ⟨hook, hhook, rfl⟩ := Option.map_eq_some_iff.mp h
  show ExactSteps hook.steps
  exact sstoreStorageCredits_exact hhook

variable (htrusted : Trusted db recorded) (hdomain : SameDomain journal.changes r.txChanges)
  (hbooked : sstoreInner env recorded slot cold value journal = some booked)

include htrusted hdomain hbooked

/-- A write whose accounting is recorded after it. -/
theorem sstoreInner_replayed {zeros : Prop}
    (ht : t.txChanges = access db.storage r.txChanges slot (some value'))
    (hshift : (value' : ℤ) - value =
      present db.storage r.txChanges slot - present recorded journal.changes slot)
    (hreplay : replayEach db false (booked.steps.map Step.action) t = .ok () r')
    (hzeros : zeros → SameZeros (present recorded journal.changes slot) value
      (present db.storage r.txChanges slot) value')
    (hcrossing : SameCrossing (counted env journal.policy slot)
      (present recorded journal.changes slot) value (present db.storage r.txChanges slot) value') :
    ∃ booked',
      sstoreInner env db.storage slot cold value' ⟨r.txChanges, journal.policy⟩ = some booked' ∧
        Follows db recorded journal.changes r r' zeros booked.journal booked'.journal booked.costs
          booked'.costs := by
  obtain ⟨hook, hhook, rfl⟩ := Option.map_eq_some_iff.mp hbooked
  have hdomain' : SameDomain (access recorded journal.changes slot (some value)) t.txChanges := by
    rw [ht]
    exact hdomain.access slot _ _
  obtain ⟨hook', hdirect, hfollows⟩ := sstoreStorageCredits_replayed htrusted hdomain' hhook hreplay
  rw [sstoreStorageCredits_congr hcrossing, ht] at hdirect
  refine ⟨_, Option.map_eq_some_iff.mpr ⟨hook', hdirect, rfl⟩, hfollows.journal, hfollows.domain,
    fun hshifted hkept => ?_⟩
  obtain ⟨hkind, hstored⟩ := hshifted.write slot (hzeros hkept).1 (hzeros hkept).2 hshift
  rw [← ht] at hstored
  obtain ⟨hcosts, hshifted'⟩ := hfollows.costs hstored trivial
  exact ⟨congrArg₂ (Cost.write cold · :: ·) hkind hcosts, hshifted'⟩

/-- A replayed increment or decrement, recorded exactly or by what it does. -/
theorem delta_replayed (flag : Bool) (hflag : flag = counted env journal.policy slot)
    (haction : action.rebase = some (slot, present recorded journal.changes slot, f))
    (hvalue : f (present recorded journal.changes slot) = some value)
    (hactions : actions = [.sload slot (present recorded journal.changes slot),
      .sstore slot (present recorded journal.changes slot) value] ∨ actions = [action])
    (hreplay : replayEach db false
      ((actions.map (Step.mk · flag) ++ booked.steps).map Step.action) r = .ok () r') :
    ∃ value', f (present db.storage r.txChanges slot) = some value' ∧
      UpdateReplayed db recorded env slot cold journal r r'
        (actions.map (Step.mk · flag) ++ booked.steps) value value' booked := by
  have hexact := sstoreInner_exact hbooked
  have hmap : (actions.map (Step.mk · flag)).map Step.action = actions := by
    rw [List.map_map]
    exact List.map_id actions
  rw [List.map_append, hmap, replayEach_append] at hreplay
  obtain ⟨t, hfirst, hrest⟩ := hreplay
  rcases hactions with rfl | rfl
  · have hwhole : replayEach db false (.sload slot (present recorded journal.changes slot) ::
        ((some value).map (.sstore slot (present recorded journal.changes slot))).toList) r =
        .ok () t := hfirst
    obtain ⟨hpresent, ht⟩ := replay_exact htrusted (hdomain.first recorded) hwhole
    have hall : ExactSteps (⟨.sload slot (present recorded journal.changes slot), flag⟩ ::
        ⟨.sstore slot (present recorded journal.changes slot) value, flag⟩ :: booked.steps) :=
      List.forall_mem_cons.mpr ⟨rfl, List.forall_mem_cons.mpr ⟨rfl, hexact⟩⟩
    have hzeros : SameZeros (present recorded journal.changes slot) value
        (present db.storage r.txChanges slot) value := ⟨by rw [hpresent], Iff.rfl⟩
    refine ⟨value, by rw [hpresent, hvalue], iff_of_true hall.keepsZeros hzeros, fun _ => ?_⟩
    exact sstoreInner_replayed htrusted hdomain hbooked ht (by rw [hpresent]; omega) hrest
      (fun _ => hzeros) (hzeros.crossing _)
  · obtain ⟨s, hs, hnil⟩ := replayEach_cons.mp hfirst
    obtain ⟨-, rfl⟩ := pure_ok.mp hnil
    obtain ⟨value', hvalue', ht⟩ := replay_rebase htrusted haction (hdomain.first recorded) hs
    have hzeros := keepsZeros_iff ⟨action, flag⟩ exactSteps_nil hexact rfl haction hvalue hvalue'
    subst hflag
    exact ⟨value', hvalue', hzeros, fun hkeeps => sstoreInner_replayed htrusted hdomain hbooked ht
      (rebase_shift haction hvalue hvalue') hrest hzeros.mp
      (hkeeps.1 slot _ f haction value value' hvalue hvalue')⟩

/-- A replayed fee swap: it is recorded after its accounting. -/
theorem swap_replayed (flag : Bool) (hflag : flag = counted env journal.policy slot)
    (haction : action.rebase = some (slot, present recorded journal.changes slot, f))
    (hvalue : f (present recorded journal.changes slot) = some value)
    (hreplay : replayEach db false
      ((booked.steps ++ [Step.mk action flag]).map Step.action) r = .ok () r') :
    ∃ value', f (present db.storage r.txChanges slot) = some value' ∧
      UpdateReplayed db recorded env slot cold journal r r' (booked.steps ++ [Step.mk action flag])
        value value' booked := by
  unfold sstoreInner at hbooked
  rw [sstoreStorageCredits_access, Option.map_map] at hbooked
  obtain ⟨hook, hhook, rfl⟩ := Option.map_eq_some_iff.mp hbooked
  have hexact := sstoreStorageCredits_exact hhook
  rw [List.map_append, replayEach_append] at hreplay
  obtain ⟨t, hfirst, hrest⟩ := hreplay
  obtain ⟨s, hs, hnil⟩ := replayEach_cons.mp hrest
  obtain ⟨-, rfl⟩ := pure_ok.mp hnil
  obtain ⟨hook', hdirect, hfollows⟩ := sstoreStorageCredits_replayed htrusted hdomain hhook hfirst
  have hrecorded : present recorded hook.journal.changes slot =
      present recorded journal.changes slot := sstoreStorageCredits_present hhook
  have hpresent : present db.storage t.txChanges slot = present db.storage r.txChanges slot := by
    have hsame := sstoreStorageCredits_present hdirect
    rw [hfollows.journal] at hsame
    exact hsame
  obtain ⟨value', hvalue', ht⟩ := replay_rebase htrusted haction
    (by rw [← hrecorded]; exact hfollows.domain.first recorded) hs
  have hzeros := keepsZeros_iff ⟨action, flag⟩ hexact exactSteps_nil hfirst haction hvalue hvalue'
  have hcredits : KeepsCredits db (hook.steps ++ [⟨action, flag⟩]) r → SameCrossing flag _ _ _ _ :=
    fun hkeeps => ((Along.append hfirst).mp hkeeps).2.1 slot _ f haction value value' hvalue hvalue'
  rw [hpresent] at hzeros hcredits hvalue'
  subst hflag
  refine ⟨value', hvalue', hzeros, fun hkeeps => ?_⟩
  rw [sstoreStorageCredits_congr (hcredits hkeeps)] at hdirect
  unfold sstoreInner
  rw [sstoreStorageCredits_access, hdirect]
  refine ⟨_, rfl, ?_, ?_, fun hshifted hkept => ?_⟩
  · simp only [Function.comp_apply, hfollows.journal, ht]
  · rw [ht]
    exact hfollows.domain.access slot _ _
  · obtain ⟨hzero, hnew⟩ := hzeros.mp hkept
    have hshift := rebase_shift haction hvalue hvalue'
    obtain ⟨hkind, -⟩ := hshifted.write slot hzero hnew hshift
    obtain ⟨hcosts, hshifted'⟩ := hfollows.costs hshifted trivial
    obtain ⟨-, hstored⟩ := hshifted'.write slot (by rw [hrecorded, hpresent]; exact hzero) hnew
      (by rw [hrecorded, hpresent]; exact hshift)
    rw [ht]
    exact ⟨congrArg₂ (Cost.write cold · :: ·) hkind hcosts, hstored⟩

end Updates

/-! ## Replayed operations -/

section Operations

variable {ρ : Type} {p : Performed ρ} {direct : Option (Performed ρ)} {cold : Bool}

/-- An operation where its steps were replayed: it does the same if credits are kept, and zeros are
kept if it is charged the same. -/
structure Replayed (db : Database) (recorded : Storage) (changes : Changes)
    (r t : StorageActionReplayState) (p : Performed ρ) (direct : Option (Performed ρ)) : Prop where
  follows : KeepsCredits db p.steps r → ∃ p', direct = some p' ∧ p'.result = p.result ∧
    Follows db recorded changes r t (KeepsZeros db p.steps r) p.journal p'.journal p.costs p'.costs
  zeros : ∀ p', direct = some p' → ∀ costs costs', p'.costs ++ costs' = p.costs ++ costs →
    KeepsZeros db p.steps r

theorem Replayed.of_exact (hexact : ExactSteps p.steps)
    (h : ∃ p', direct = some p' ∧ p'.result = p.result ∧ Follows db recorded changes r t
      (KeepsZeros db p.steps r) p.journal p'.journal p.costs p'.costs) :
    Replayed db recorded changes r t p direct :=
  ⟨fun _ => h, fun _ _ _ _ _ => hexact.keepsZeros⟩

theorem Follows.load {zeros : Prop} (hdomain : SameDomain journal.changes r.txChanges)
    (ht : t.txChanges = access db.storage r.txChanges slot none) :
    Follows db recorded journal.changes r t zeros
      ⟨access recorded journal.changes slot none, journal.policy⟩
      ⟨access db.storage r.txChanges slot none, journal.policy⟩
      [.read (isCold journal.changes slot)] [.read (isCold r.txChanges slot)] := by
  rw [← ht]
  refine ⟨rfl, ?_, fun hshifted _ => ?_⟩
  · rw [ht]
    exact hdomain.access slot none none
  · rw [ht, hdomain.isCold]
    exact ⟨rfl, hshifted.access slot (hshifted slot)⟩

variable {record : ℕ → ℕ → List Step → List Step}

theorem updateSlot_eq (hvalue : f (present base journal.changes slot) = some value) :
    updateSlot env base slot f record journal =
      (sstoreInner env base slot false value journal).map fun booked => ⟨true, booked.journal,
        record (present base journal.changes slot) value booked.steps,
        .read (isCold journal.changes slot) :: booked.costs, false⟩ := by
  simp only [updateSlot, hvalue]

/-- An update whose steps are replayed as `delta_replayed` or `swap_replayed` says. -/
theorem updateSlot_replayed (hdomain : SameDomain journal.changes r.txChanges)
    {p : Performed Bool} (hp : updateSlot env recorded slot f record journal = some p)
    (hfailed : p.failed = false)
    (hreplay : ∀ value booked, f (present recorded journal.changes slot) = some value →
      sstoreInner env recorded slot false value journal = some booked →
      p.steps = record (present recorded journal.changes slot) value booked.steps →
      ∃ value', f (present db.storage r.txChanges slot) = some value' ∧
        UpdateReplayed db recorded env slot false journal r t p.steps value value' booked) :
    Replayed db recorded journal.changes r t p
      (updateSlot env db.storage slot f record ⟨r.txChanges, journal.policy⟩) := by
  cases hvalue : f (present recorded journal.changes slot) with
  | none =>
    simp only [updateSlot, hvalue] at hp
    obtain rfl := Option.some.inj hp
    exact nomatch hfailed
  | some value =>
    rw [updateSlot_eq hvalue] at hp
    obtain ⟨booked, hbooked, rfl⟩ := Option.map_eq_some_iff.mp hp
    obtain ⟨value', hvalue', hupdate⟩ := hreplay value booked hvalue hbooked rfl
    have hdirect : updateSlot env db.storage slot f record ⟨r.txChanges, journal.policy⟩ = _ :=
      updateSlot_eq hvalue'
    rw [hdirect]
    refine ⟨fun hkeeps => ?_, fun p' hp' costs costs' hcosts => ?_⟩
    · obtain ⟨booked', hbooked', hfollows⟩ := hupdate.follows hkeeps
      refine ⟨_, Option.map_eq_some_iff.mpr ⟨booked', hbooked', rfl⟩, rfl, hfollows.journal,
        hfollows.domain, fun hshifted hzeros => ?_⟩
      obtain ⟨hcosts, hshifted'⟩ := hfollows.costs hshifted hzeros
      dsimp only
      rw [hcosts, hdomain.isCold]
      exact ⟨rfl, hshifted'⟩
    · obtain ⟨booked', hbooked', rfl⟩ := Option.map_eq_some_iff.mp hp'
      obtain ⟨hook, -, rfl⟩ := Option.map_eq_some_iff.mp hbooked
      obtain ⟨hook', -, rfl⟩ := Option.map_eq_some_iff.mp hbooked'
      rw [hupdate.zeros]
      simp only [List.cons_append, List.cons.injEq, Cost.write.injEq, writeKind, writeClass,
        WriteClass.mk.injEq, decide_eq_decide] at hcosts
      exact ⟨hcosts.2.1.2.2.1.symm, hcosts.2.1.2.2.2.1.symm⟩

variable {op : Operation}

theorem Operation.replayed (htrusted : Trusted db recorded)
    (hdomain : SameDomain journal.changes r.txChanges) {p : Performed op.Result}
    (hp : op.perform env recorded journal = some p) (hfailed : p.failed = false)
    (hreplay : replayEach db false (p.steps.map Step.action) r = .ok () t) :
    Replayed db recorded journal.changes r t p
      (op.perform env db.storage ⟨r.txChanges, journal.policy⟩) := by
  have hfirst {slot : Slot} : r.txChanges slot = none →
      present recorded journal.changes slot = recorded slot := hdomain.first recorded
  cases op with
  | sload slot =>
    obtain rfl := Option.some.inj hp
    obtain ⟨s, hload, hnil⟩ := replayEach_cons.mp hreplay
    obtain ⟨-, rfl⟩ := pure_ok.mp hnil
    obtain ⟨hpresent, ht⟩ := replay_sload htrusted hfirst hload
    exact .of_exact (List.forall_mem_singleton.mpr rfl) ⟨_, rfl, hpresent, .load hdomain ht⟩
  | sstore slot value =>
    obtain ⟨booked, hbooked, rfl⟩ := Option.map_eq_some_iff.mp hp
    obtain ⟨s, hstore, hrest⟩ := replayEach_cons.mp hreplay
    obtain ⟨hpresent, hs⟩ := replay_sstore htrusted hfirst hstore
    have hzeros : SameZeros (present recorded journal.changes slot) value
        (present db.storage r.txChanges slot) value := ⟨by rw [hpresent], Iff.rfl⟩
    obtain ⟨booked', hdirect, hfollows⟩ := sstoreInner_replayed htrusted hdomain hbooked hs
      (by rw [hpresent]; omega) hrest (fun _ => hzeros) (hzeros.crossing _)
    rw [← hdomain.isCold slot] at hdirect
    exact .of_exact (List.forall_mem_cons.mpr ⟨rfl, sstoreInner_exact hbooked⟩)
      ⟨_, Option.map_eq_some_iff.mpr ⟨booked', hdirect, rfl⟩, rfl, hfollows⟩
  | sinc | sdec =>
    simp only [Operation.perform] at hp ⊢
    refine updateSlot_replayed hdomain hp hfailed fun value booked hvalue hbooked hsteps => ?_
    rw [hsteps] at hreplay ⊢
    exact delta_replayed htrusted hdomain hbooked _ rfl rfl hvalue (ite_eq_or_eq _ _ _) hreplay
  | liquidityCheck key amountOut =>
    obtain rfl := Option.some.inj hp
    obtain ⟨s, hcheck, hnil⟩ := replayEach_cons.mp hreplay
    obtain ⟨-, rfl⟩ := pure_ok.mp hnil
    obtain ⟨henough, ht⟩ :=
      replay_liquidityCheck htrusted (by rw [encode_decode]; exact hfirst) hcheck
    exact .of_exact (List.forall_mem_singleton.mpr rfl) ⟨_, rfl, henough, .load hdomain ht⟩
  | feeSwap key amountIn =>
    cases hout : computeAmountOut amountIn with
    | none =>
      simp only [Operation.perform, hout, Option.some.injEq] at hp
      subst hp
      exact nomatch hfailed
    | some amountOut =>
      simp only [Operation.perform, hout, encode_decode] at hp ⊢
      refine updateSlot_replayed hdomain hp hfailed fun value booked hvalue hbooked hsteps => ?_
      rw [hsteps] at hreplay ⊢
      exact swap_replayed htrusted hdomain hbooked _ rfl rfl hvalue hreplay
  | setPolicy change =>
    obtain rfl := Option.some.inj hp
    obtain ⟨-, rfl⟩ := pure_ok.mp hreplay
    exact .of_exact exactSteps_nil ⟨_, rfl, rfl, rfl, hdomain, fun hshifted _ => ⟨rfl, hshifted⟩⟩

end Operations

/-! ## Replayed programs -/

section Programs

variable {α : Type} {trace trace' : Trace α} {op : Operation} {next : op.Result → Program α}

theorem Program.run_perform (h : (Program.perform op next).run env base journal = some trace) :
    ∃ p rest, op.perform env base journal = some p ∧
      (next p.result).run env base p.journal = some rest ∧ trace = rest.after p := by
  obtain ⟨p, hp, h⟩ := Option.bind_eq_some_iff.mp h
  obtain ⟨rest, hrest, rfl⟩ := Option.map_eq_some_iff.mp h
  exact ⟨p, rest, hp, hrest, rfl⟩

/-- A program where its actions were replayed: as `Replayed` says of an operation. -/
structure Reproduced (db : Database) (recorded : Storage) (changes : Changes)
    (r r' : StorageActionReplayState) (trace : Trace α) (direct : Option (Trace α)) : Prop where
  follows : KeepsCredits db trace.steps r → ∃ trace', direct = some trace' ∧
    trace'.output = trace.output ∧ trace'.changes = r'.txChanges ∧
      (Shifted recorded db.storage changes r.txChanges → KeepsZeros db trace.steps r →
        trace'.costs = trace.costs)
  zeros : Shifted recorded db.storage changes r.txChanges → ∀ trace', direct = some trace' →
    trace'.costs = trace.costs → KeepsZeros db trace.steps r

/-- A program that was recorded, where its actions are replayed. -/
theorem Program.reproduced (htrusted : Trusted db recorded)
    (hdomain : SameDomain journal.changes r.txChanges) {program : Program α}
    (hrun : program.run env recorded journal = some trace) (hfailed : trace.failed = false)
    (hreplay : replayEach db false trace.actions r = .ok () r') :
    Reproduced db recorded journal.changes r r' trace
      (program.run env db.storage ⟨r.txChanges, journal.policy⟩) := by
  induction program generalizing journal r trace with
  | ret output =>
    obtain rfl := Option.some.inj hrun
    obtain ⟨-, rfl⟩ := pure_ok.mp hreplay
    exact ⟨fun _ => ⟨_, rfl, rfl, rfl, fun _ _ => rfl⟩, fun _ _ _ _ => trivial⟩
  | fail => exact nomatch hrun
  | perform op next ih =>
    obtain ⟨p, rest, hp, hrest, rfl⟩ := Program.run_perform hrun
    obtain ⟨hpfailed, hrestfailed⟩ := Bool.or_eq_false_iff.mp hfailed
    rw [Trace.actions, Trace.after, List.map_append, replayEach_append] at hreplay
    obtain ⟨t, hfirst, hreplay⟩ := hreplay
    have hop := Operation.replayed htrusted hdomain hp hpfailed hfirst
    -- Once its first operation follows the recorded one, the rest follows by induction.
    have hrest {p' : Performed op.Result} (hresult : p'.result = p.result)
        (hfollows : Follows db recorded journal.changes r t (KeepsZeros db p.steps r) p.journal
          p'.journal p.costs p'.costs) := by
      have hih := ih p.result hfollows.domain hrest hrestfailed hreplay
      rw [← hfollows.journal, ← hresult] at hih
      exact hih
    refine ⟨fun hkeeps => ?_, fun hshifted trace' hrun' hcosts => ?_⟩
    · obtain ⟨hkeeps, hkeeps'⟩ := (Along.append hfirst).mp hkeeps
      obtain ⟨p', hp', hresult, hfollows⟩ := hop.follows hkeeps
      obtain ⟨rest', hrest', houtput, hchanges, hcosts⟩ := (hrest hresult hfollows).follows hkeeps'
      refine ⟨rest'.after p', ?_, houtput, hchanges, fun hshifted hzeros => ?_⟩
      · rw [Program.run, hp', Option.bind_some, hrest']
        rfl
      · obtain ⟨hzeros, hzeros'⟩ := (Along.append hfirst).mp hzeros
        obtain ⟨hcost, hshifted'⟩ := hfollows.costs hshifted hzeros
        exact congrArg₂ (· ++ ·) hcost (hcosts hshifted' hzeros')
    · obtain ⟨p', rest', hp', hrest', rfl⟩ := Program.run_perform hrun'
      have hzeros := hop.zeros p' hp' _ _ hcosts
      obtain ⟨p'', hp'', hresult, hfollows⟩ := hop.follows hzeros.keepsCredits
      obtain rfl := Option.some.inj (hp'.symm.trans hp'')
      obtain ⟨hcost, hshifted'⟩ := hfollows.costs hshifted hzeros
      rw [Trace.after, Trace.after, hcost] at hcosts
      exact (Along.append hfirst).mpr ⟨hzeros, (hrest hresult hfollows).zeros hshifted' rest' hrest'
        (List.append_cancel_left hcosts)⟩

end Programs

/-! ## Transactions -/

section Transactions

variable [NonceSlots] {spec : TempoHardfork} {cache : Cache} {blockTimestamp : ℕ} {valid : Bool}
  {replay : StorageActionReplay} {e e' : Executor} {storage : Storage}

/-- A replay that fails changes no storage.  It fails before the first action, at an action, or
after the last one. -/
theorem execute_error {error : ReplayError}
    (h : executeTransactionWithActions spec cache blockTimestamp valid replay e =
      .error error e') :
    e'.storage = e.storage ∧
      ((replay.success ≠ true ∧ e'.replayState = e.replayState.resetTxChanges) ∨
        (∃ failed, replayActions spec ⟨e.storage, cache⟩ blockTimestamp replay.actions
            replay.expiringNonce e.replayState.resetTxChanges = .error error failed ∧
          e'.replayState = failed.resetTxChanges) ∨
        replayActions spec ⟨e.storage, cache⟩ blockTimestamp replay.actions
          replay.expiringNonce e.replayState.resetTxChanges = .ok () e'.replayState) := by
  obtain h | ⟨_, t, hreset, h⟩ := bind_error.mp h
  · cases h
  obtain rfl := modify_ok.mp hreset
  obtain ⟨hfailed, -, rfl⟩ | ⟨-, h⟩ := require_bind_error.mp h
  · exact ⟨rfl, .inl ⟨hfailed, rfl⟩⟩
  rw [get_bind_error] at h
  cases hreplay : replayActions spec ⟨e.storage, cache⟩ blockTimestamp replay.actions
      replay.expiringNonce e.replayState.resetTxChanges with
  | error error' failed =>
    simp only [hreplay] at h
    obtain h | ⟨_, t, hfailed, h⟩ := bind_error.mp h
    · cases h
    obtain rfl := modify_ok.mp hfailed
    cases h
    exact ⟨rfl, .inr (.inl ⟨failed, rfl, rfl⟩)⟩
  | ok u replayed =>
    simp only [hreplay] at h
    obtain h | ⟨_, t, hreplayed, h⟩ := bind_error.mp h
    · cases h
    obtain rfl := modify_ok.mp hreplayed
    obtain ⟨-, -, rfl⟩ | ⟨-, h⟩ := require_bind_error.mp h
    · exact ⟨rfl, .inr (.inr rfl)⟩
    · cases h

/-- A replay that succeeds commits the slots it has written. -/
theorem execute_ok
    (h : executeTransactionWithActions spec cache blockTimestamp valid replay e = .ok u e') :
    ∃ replayed, replayActions spec ⟨e.storage, cache⟩ blockTimestamp replay.actions
        replay.expiringNonce e.replayState.resetTxChanges = .ok () replayed ∧
      e' = ⟨commitChanges e.storage replayed.txChanges, replayed.commitTxChanges⟩ := by
  have h := modify_bind_ok.mp h
  replace h := require_rest h
  rw [get_bind_ok] at h
  cases hreplay : replayActions spec ⟨e.storage, cache⟩ blockTimestamp replay.actions
      replay.expiringNonce e.replayState.resetTxChanges with
  | error error failed =>
    simp only [hreplay] at h
    exact nomatch h
  | ok u replayed =>
    simp only [hreplay] at h
    replace h := require_rest h
    exact ⟨replayed, rfl, modify_ok.mp h⟩

/-- What the replay of a program stands for: the program itself succeeds, with the recorded output
and the given changes of slots. -/
def Program.Reproduces {α : Type} (program : Program α) (env : CreditEnv) (policy : CreditPolicy)
    (storage : Storage) (output : α) (changes : Changes) : Prop :=
  ∃ trace, program.execute env policy storage = some trace ∧ trace.output = output ∧
    trace.changes = changes

variable {α : Type} {program : Program α} {trace : Trace α}

/-- A replayed transaction, at the state it starts in. -/
theorem executed_reproduced (htrusted : Trusted ⟨e.storage, cache⟩ recorded)
    (hrecorded : program.execute env policy recorded = some trace) (hfailed : trace.failed = false)
    (h : executeTransactionWithActions spec cache blockTimestamp valid
      ⟨true, trace.actions, none⟩ e = .ok u e') :
    ∃ replayed, replayEach ⟨e.storage, cache⟩ false trace.actions e.replayState.resetTxChanges =
        .ok () replayed ∧
      e'.storage = commitChanges e.storage replayed.txChanges ∧
      Reproduced ⟨e.storage, cache⟩ recorded (fun _ => none) e.replayState.resetTxChanges replayed
        trace (program.execute env policy e.storage) := by
  obtain ⟨replayed, hreplay, rfl⟩ := execute_ok h
  have hreplayed : replayEach ⟨e.storage, cache⟩ false trace.actions
      e.replayState.resetTxChanges = .ok () replayed := hreplay
  have hdomain : SameDomain (Journal.mk (fun _ => none) policy).changes
      e.replayState.resetTxChanges.txChanges := fun _ => Iff.rfl
  exact ⟨replayed, hreplayed, rfl,
    Program.reproduced htrusted hdomain hrecorded hfailed hreplayed⟩

/-- A program was recorded without failed arithmetic, and its actions are replayed where slots that
are not cached have the recorded values.  If the replay succeeds, its slots are committed.  They are
those that the program itself would touch there, with their original and current values and whether
they were written, if storage credits are kept.  If the replay fails, no slot is changed. -/
theorem replay_reproduces_execution (htrusted : Trusted ⟨e.storage, cache⟩ recorded)
    (hrecorded : program.execute env policy recorded = some trace)
    (hfailed : trace.failed = false) :
    (∀ e', executeTransactionWithActions env.spec cache blockTimestamp valid
        ⟨true, trace.actions, none⟩ e = .ok () e' →
      ∃ replayed, replayActions env.spec ⟨e.storage, cache⟩ blockTimestamp trace.actions none
          e.replayState.resetTxChanges = .ok () replayed ∧
        e'.storage = commitChanges e.storage replayed.txChanges ∧
        (KeepsCredits ⟨e.storage, cache⟩ trace.steps e.replayState.resetTxChanges →
          program.Reproduces env policy e.storage trace.output replayed.txChanges)) ∧
    (∀ error e', executeTransactionWithActions env.spec cache blockTimestamp valid
        ⟨true, trace.actions, none⟩ e = .error error e' → e'.storage = e.storage) := by
  refine ⟨fun e' h => ?_, fun error e' h => (execute_error h).1⟩
  obtain ⟨replayed, hreplayed, hstorage, hreproduced⟩ :=
    executed_reproduced htrusted hrecorded hfailed h
  refine ⟨replayed, hreplayed, hstorage, fun hkeeps => ?_⟩
  obtain ⟨trace', hrun, houtput, hchanges, -⟩ := hreproduced.follows hkeeps
  exact ⟨trace', hrun, houtput, hchanges⟩

end Transactions

/-! ## Three programs -/

/-- The accounts of a state that is cached as a whole. -/
def wholeCache (storage : Storage) : Cache :=
  fun address => some ⟨some fun key => some (storage ⟨address, key⟩), true⟩

theorem trusted_wholeCache (storage recorded : Storage) :
    Trusted ⟨storage, wholeCache storage⟩ recorded :=
  ⟨fun _ _ h => Option.some.inj h, nofun⟩

/-- Storage credits as a transaction starts with them. -/
def startPolicy : CreditPolicy := ⟨true, true, fun _ => ⟨.refund, 0, 0⟩⟩

/-- Storage credits at T8, with no slot excepted. -/
def startEnv : CreditEnv := ⟨.T8, fun _ => false⟩

/-- A program that adds one slot to another and marks a third. -/
def addSlot (source target mark : Slot) : Program ℕ :=
  .perform (.sload source) fun value => .perform (.sinc target value) fun done =>
    if done then .perform (.sstore mark 1) fun _ => .ret value else .fail

/-- A state with 3 in the slot that is read and nothing in the slot that is marked. -/
def targetStorage (target : ℕ) : Storage :=
  fun slot => if slot = ⟨1, 0⟩ then 3 else if slot = ⟨1, 1⟩ then target else 0

/-- Recorded where the target is 10 and replayed where it is 20.  The marked slot is created, so
the credits of its account are loaded. -/
theorem addition_replayed [NonceSlots] : ∃ trace e',
    (addSlot ⟨1, 0⟩ ⟨1, 1⟩ ⟨1, 2⟩).execute startEnv startPolicy (targetStorage 10) = some trace ∧
      trace.failed = false ∧ trace.output = 3 ∧
      trace.steps = [⟨.sload ⟨1, 0⟩ 3, false⟩, ⟨.sinc ⟨1, 1⟩ 10 3, true⟩,
        ⟨.sstore ⟨1, 2⟩ 0 1, false⟩, ⟨.sload (creditSlot 1) 0, false⟩] ∧
      executeTransactionWithActions .T8 (wholeCache (targetStorage 20)) 0 true
        ⟨true, trace.actions, none⟩ (.start (targetStorage 20)) = .ok () e' ∧
      e'.storage ⟨1, 1⟩ = 23 :=
  ⟨_, _, rfl, rfl, rfl, rfl, rfl, rfl⟩

/-- The replayed addition meets and leaves no zero, as the recorded one. -/
theorem addition_keepsZeros {trace : Trace ℕ}
    (hsteps : trace.steps = [⟨.sload ⟨1, 0⟩ 3, false⟩, ⟨.sinc ⟨1, 1⟩ 10 3, true⟩,
      ⟨.sstore ⟨1, 2⟩ 0 1, false⟩, ⟨.sload (creditSlot 1) 0, false⟩]) :
    KeepsZeros ⟨targetStorage 20, wholeCache (targetStorage 20)⟩ trace.steps
      (Executor.start (targetStorage 20)).replayState.resetTxChanges := by
  rw [hsteps]
  refine ⟨nofun, fun r' hload => ⟨?_, fun _ _ => ⟨nofun, fun _ _ => ⟨nofun, fun _ _ => trivial⟩⟩⟩⟩
  obtain ⟨-, hr⟩ := replay_sload (trusted_wholeCache _ (targetStorage 10)) (fun _ => rfl) hload
  intro slot sloadValue f haction value value' hvalue hvalue'
  cases haction
  rw [hr] at hvalue' ⊢
  obtain rfl : 13 = value := Option.some.inj hvalue
  obtain rfl : 23 = value' := Option.some.inj hvalue'
  exact ⟨by decide, by decide⟩

theorem replay_reproduces_addition :
    (addSlot ⟨1, 0⟩ ⟨1, 1⟩ ⟨1, 2⟩).execute startEnv startPolicy (targetStorage 10) ≠ none ∧
      ∃ trace', (addSlot ⟨1, 0⟩ ⟨1, 1⟩ ⟨1, 2⟩).execute startEnv startPolicy (targetStorage 20) =
        some trace' ∧ trace'.output = 3 ∧
        commitChanges (targetStorage 20) trace'.changes ⟨1, 1⟩ = 23 := by
  let _ := NonceSlots.spread
  obtain ⟨trace, e', hrecorded, hfailed, houtput, hsteps, hexecute, hstored⟩ := addition_replayed
  obtain ⟨replayed, -, hcommitted, hkeeps⟩ := (replay_reproduces_execution
    (trusted_wholeCache _ _) hrecorded hfailed).1 e' hexecute
  obtain ⟨trace', hrun, hsame, hchanges⟩ := hkeeps (addition_keepsZeros hsteps).keepsCredits
  refine ⟨by rw [hrecorded]; nofun, trace', hrun, hsame.trans houtput, ?_⟩
  rw [hchanges]
  exact (congrFun hcommitted _).symm.trans hstored

/-- A recorded program that is replayed and leaves a slot otherwise than the program itself. -/
def Diverges {α : Type} (program : Program α) (recorded storage : Storage) (slot : Slot)
    (replayed direct : ℕ) : Prop :=
  letI := NonceSlots.spread
  ∃ (trace trace' : Trace α) (e' : Executor),
    Trusted ⟨storage, wholeCache storage⟩ recorded ∧
    program.execute startEnv startPolicy recorded = some trace ∧
    executeTransactionWithActions .T8 (wholeCache storage) 0 true ⟨true, trace.actions, none⟩
      (.start storage) = .ok () e' ∧
    program.execute startEnv startPolicy storage = some trace' ∧
    e'.storage slot = replayed ∧ commitChanges storage trace'.changes slot = direct

/-- A program that goes on after a decrement fails. -/
def noteDecrement (counter note : Slot) : Program Unit :=
  .perform (.sdec counter 3) fun done => .perform (.sstore note (if done then 2 else 1)) fun _ =>
    .ret ()

/-- A decrement by 3 is recorded where the counter is 10 and replayed where it is 3: the program
itself clears the slot there and is given a storage credit.  And a failed decrement is not
recorded: where it succeeds, the replay still writes what was written after the failure. -/
theorem replay_misses_credit :
    Diverges (noteDecrement ⟨1, 0⟩ ⟨1, 1⟩) (fun slot => if slot = creditSlot 1 then 0 else 10)
      (fun slot => if slot = ⟨1, 0⟩ then 3 else if slot = ⟨1, 1⟩ then 10 else 0)
      (creditSlot 1) 0 1 ∧
    Diverges (noteDecrement ⟨1, 0⟩ ⟨1, 1⟩) (fun _ => 0)
      (fun slot => if slot = ⟨1, 0⟩ then 10 else 0) ⟨1, 1⟩ 1 2 :=
  ⟨⟨_, _, _, trusted_wholeCache _ _, rfl, rfl, rfl, rfl, rfl⟩,
    ⟨_, _, _, trusted_wholeCache _ _, rfl, rfl, rfl, rfl, rfl⟩⟩

end Monotempo.Replay
