/-
  The migration from the old registry.

  How far the migration has come is not stored: it is the number of records and of skipped
  validators.  Against that stands the list of the calls that have migrated something.  The number
  of validators to migrate is taken once, and narrowed to a byte.
-/
import Monotempo.Validators.Consistency

set_option autoImplicit false

namespace Monotempo.Validators

open Chain Foundation

/-! ## Calls that migrate -/

/-- A call of `migrate_validator` that has succeeded, with the registry before and after it. -/
structure Migration where
  before : ValidatorConfig
  ctx : Context
  idx : ℕ
  after : ValidatorConfig

/-- A record for the validator of the old registry has been appended. -/
def Migration.Appended (m : Migration) : Prop :=
  ∃ address r, m.ctx.v1.validatorsArray[m.idx]? = some address ∧
    m.after.validators = m.before.validators ++ [r] ∧
    r.publicKey = (m.ctx.v1.validators address).publicKey ∧
    r.validatorAddress = (m.ctx.v1.validators address).validatorAddress ∧
    m.after.config.migrationSkippedCount = m.before.config.migrationSkippedCount

/-- The validator of the old registry has been counted as skipped. -/
def Migration.Skipped (m : Migration) : Prop :=
  m.after.validators = m.before.validators ∧
    m.after.config.migrationSkippedCount = m.before.config.migrationSkippedCount + 1

section Runs

variable [Codec]

/-- What a transaction migrates. -/
def migrationOf (s : ValidatorConfig) (tx : Tx) : Option Migration :=
  match tx.call, dispatch tx.ctx tx.sender tx.call s with
  | .migrateValidator idx, .ok _ s' => some ⟨s, tx.ctx, idx, s'⟩
  | _, _ => none

/-- What transactions migrate. -/
def ValidatorConfig.migrations (s : ValidatorConfig) : List Tx → List Migration
  | [] => []
  | tx :: txs => (migrationOf s tx).toList ++ (s.transact tx).migrations txs

end Runs

/-! ## Progress -/

variable {s s' t : ValidatorConfig} {ctx : Context} {sender : Address} {idx count : ℕ} {u : Unit}
  {done : List Migration}

/-- A registry that has an owner and a count, with what has been migrated. -/
structure Counted (done : List Migration) (count : ℕ) (s : ValidatorConfig) : Prop where
  owned : s.config.owner ≠ 0
  count_eq : s.config.v1ValidatorCount = count
  narrow : count < 2 ^ 8
  processed : s.validators.length + s.config.migrationSkippedCount = done.length
  within : done.length ≤ count
  order : done.map Migration.idx = (List.range count).reverse.take done.length
  recorded : ∀ m ∈ done, m.Appended ∨ m.Skipped

theorem Counted.congr (h : Counted done count s) (hconfig : s'.config = s.config)
    (hlength : s'.validators.length = s.validators.length) : Counted done count s' where
  owned := hconfig ▸ h.owned
  count_eq := hconfig ▸ h.count_eq
  narrow := h.narrow
  processed := by
    rw [hconfig, hlength]
    exact h.processed
  within := h.within
  order := h.order
  recorded := h.recorded

/-- The index that comes next in the order. -/
theorem order_extend {n : ℕ} (hn : n < count) :
    (List.range count).reverse.take n ++ [count - n - 1] =
      (List.range count).reverse.take (n + 1) := by
  have hnext : (List.range count).reverse[n]? = some (count - n - 1) := by
    rw [List.getElem?_reverse (by simpa using hn), List.length_range,
      List.getElem?_range (by omega)]
    congr 1
    omega
  rw [List.take_add_one, hnext]
  rfl

/-- How far the migration has come. -/
inductive Progress : List Migration → ValidatorConfig → Prop where
  | fresh {s : ValidatorConfig} (hconfig : s.config = Config.unset) (hempty : s.validators = []) :
      Progress [] s
  | underway {done : List Migration} {s : ValidatorConfig} {first : Migration}
      (hfirst : done.head? = some first)
      (hcounted : Counted done (first.ctx.v1.validatorsArray.length % 2 ^ 8) s) : Progress done s
  | finished {done : List Migration} {s : ValidatorConfig} (hinit : s.config.isInit = true) :
      Progress done s

variable [Codec]

theorem migrateEntry_recorded {skipped : ℕ} {v1Val : V1Validator}
    (h : migrateEntry ctx skipped v1Val s = .ok u s') :
    (s'.validators = s.validators ∧
      s'.config = { s.config with migrationSkippedCount := min (skipped + 1) 255 }) ∨
    (s'.config = s.config ∧ ∃ r, s'.validators = s.validators ++ [r] ∧
      r.publicKey = v1Val.publicKey ∧ r.validatorAddress = v1Val.validatorAddress) := by
  obtain rfl | ⟨-, -, egress, ⟨-, key, -, -, rfl⟩ | ⟨-, rfl⟩⟩ := migrateEntry_ok h
  · exact .inl ⟨rfl, rfl⟩
  · have hconfig : (s.append v1Val.validatorAddress v1Val.publicKey v1Val.inboundAddress egress 0
        ctx.blockNumber 0).config = s.config := append_config
    exact .inr ⟨hconfig, _, append_validators, rfl, rfl⟩
  · exact .inr ⟨append_config, _, append_validators, rfl, rfl⟩

theorem Counted.extend (h : Counted done count t) {address : Address} (before : ValidatorConfig)
    (hvalidators : before.validators = t.validators)
    (hskipped : before.config.migrationSkippedCount = t.config.migrationSkippedCount)
    (hopen : t.validators.length + t.config.migrationSkippedCount < count)
    (hidx : idx = count - (t.validators.length + t.config.migrationSkippedCount) - 1)
    (haddress : ctx.v1.validatorsArray[idx]? = some address)
    (hentry : migrateEntry ctx t.config.migrationSkippedCount (ctx.v1.validators address) t =
      .ok u s') : Counted (done ++ [⟨before, ctx, idx, s'⟩]) count s' := by
  have hnarrow := h.narrow
  have hlength : (done ++ [(⟨before, ctx, idx, s'⟩ : Migration)]).length = done.length + 1 := by
    simp
  have hprocessed := h.processed
  rw [hprocessed] at hopen hidx
  have horder : (done ++ [(⟨before, ctx, idx, s'⟩ : Migration)]).map Migration.idx =
      (List.range count).reverse.take (done.length + 1) := by
    rw [List.map_append, h.order, List.map_singleton, hidx, order_extend hopen]
  obtain ⟨hvalidators', hconfig'⟩ | ⟨hconfig', r, hvalidators', hpubkey, haddr⟩ :=
    migrateEntry_recorded hentry
  · -- the count of skipped validators is below that of all, so it does not saturate
    have hskips : s'.config.migrationSkippedCount = t.config.migrationSkippedCount + 1 := by
      rw [hconfig']
      show min _ 255 = _
      omega
    refine ⟨?_, ?_, hnarrow, ?_, ?_, ?_, ?_⟩
    · rw [hconfig']
      exact h.owned
    · rw [hconfig']
      exact h.count_eq
    · rw [hlength, hvalidators', hskips]
      omega
    · rw [hlength]
      exact hopen
    · rw [horder, hlength]
    · refine List.forall_mem_append.mpr ⟨h.recorded, List.forall_mem_singleton.mpr (.inr ?_)⟩
      exact ⟨hvalidators'.trans hvalidators.symm, by rw [hskipped]; exact hskips⟩
  · refine ⟨?_, ?_, hnarrow, ?_, ?_, ?_, ?_⟩
    · rw [hconfig']
      exact h.owned
    · rw [hconfig']
      exact h.count_eq
    · rw [hlength, hvalidators', hconfig', List.length_append, List.length_singleton]
      omega
    · rw [hlength]
      exact hopen
    · rw [horder, hlength]
    · refine List.forall_mem_append.mpr ⟨h.recorded, List.forall_mem_singleton.mpr (.inl ?_)⟩
      refine ⟨address, r, haddress, ?_, hpubkey, haddr, ?_⟩
      · rw [hvalidators]
        exact hvalidators'
      · rw [hskipped]
        exact congrArg Config.migrationSkippedCount hconfig'

theorem migrateValidator_ok (h : migrateValidator ctx sender idx s = .ok u s') :
    ∃ config t address, requireMigrationOwner ctx.v1 sender s = .ok config t ∧
      t.validators.length + config.migrationSkippedCount < config.v1ValidatorCount ∧
      idx = config.v1ValidatorCount - (t.validators.length + config.migrationSkippedCount) - 1 ∧
      ctx.v1.validatorsArray[idx]? = some address ∧
      migrateEntry ctx config.migrationSkippedCount (ctx.v1.validators address) t = .ok u s' := by
  obtain ⟨config, t, howner, h⟩ := bind_ok.mp h
  obtain ⟨⟨hopen, hidx⟩, h⟩ := require_bind_ok.mp h
  obtain ⟨address, haddress, h⟩ := okOr_bind_ok.mp h
  exact ⟨config, t, address, howner, hopen, hidx, haddress, h⟩

/-- A call of `migrate_validator` brings the migration on by one validator. -/
theorem Progress.migrate (h : Progress done s)
    (hok : migrateValidator ctx sender idx s = .ok u s')
    (howner : done = [] → ctx.v1.owner ≠ 0) : Progress (done ++ [⟨s, ctx, idx, s'⟩]) s' := by
  obtain ⟨config, t, address, hguard, hopen, hidx, haddress, hentry⟩ := migrateValidator_ok hok
  obtain ⟨hinit, -, hcases⟩ := requireMigrationOwner_ok hguard
  cases h with
  | fresh hconfig hempty =>
    obtain ⟨hzero, -⟩ | ⟨-, -, rfl, rfl⟩ := hcases
    · rw [hconfig] at hzero
      exact absurd rfl hzero
    · have hcounted :
          Counted [] (ctx.v1.validatorsArray.length % 2 ^ 8) (s.snapshotV1 ctx.v1) := by
        refine ⟨howner rfl, rfl, Nat.mod_lt _ (by decide), ?_, Nat.zero_le _, rfl, nofun⟩
        show s.validators.length + 0 = 0
        rw [hempty]
        rfl
      have hskipped : s.config.migrationSkippedCount = 0 := by
        rw [hconfig]
        rfl
      rw [hskipped] at hopen hidx hentry
      exact .underway rfl (hcounted.extend s rfl hskipped hopen hidx haddress hentry)
  | @underway _ _ first hfirst hcounted =>
    obtain ⟨-, rfl, rfl⟩ | ⟨hzero, -⟩ := hcases
    · rw [hcounted.count_eq] at hopen hidx
      refine .underway ?_ (hcounted.extend t rfl rfl hopen hidx haddress hentry)
      rw [List.head?_append, hfirst]
      rfl
    · exact absurd hzero hcounted.owned
  | finished hdone =>
    rw [hinit] at hdone
    exact nomatch hdone

theorem Effect.isInit {block : ℕ} (heffect : Effect block s s') (hinit : s.config.isInit = true) :
    s'.config.isInit = true := by
  cases heffect with
  | configured config epoch stays => exact stays hinit
  | added config stays hpubkey haddr hkey hingress =>
    exact stays hinit
  | retired config stays hpubkey haddr =>
    rw [append_config]
    exact stays hinit
  | deactivated hactive hkey =>
    rw [swapAndPop_config]
    exact hinit
  | rotated | moved =>
    show (s.moveIngress _ _).config.isInit = true
    rw [moveIngress_config]
    exact hinit
  | feeChanged feeRecipient hactive => exact hinit
  | transferred hactive haddr => exact hinit

omit [Codec] in
theorem initializeIfMigrated_ok (h : initializeIfMigrated ctx sender s = .ok u s') :
    ∃ config t, requireMigrationOwner ctx.v1 sender s = .ok config t ∧
      config.v1ValidatorCount ≠ 0 ∧
      config.v1ValidatorCount ≤ t.validators.length + config.migrationSkippedCount ∧
      s'.config.isInit = true := by
  obtain ⟨config, t, howner, h⟩ := bind_ok.mp h
  obtain ⟨hcomplete, h⟩ := require_bind_ok.mp h
  obtain ⟨hcount, hreached⟩ := not_or.mp hcomplete
  obtain rfl := modify_ok.mp h
  exact ⟨config, t, howner, hcount, Nat.le_of_not_lt hreached, rfl⟩

/-- A call that migrates nothing leaves the progress. -/
theorem Progress.other (h : Progress done s) {call : Call}
    (hok : dispatch ctx sender call s = .ok u s')
    (hother : ∀ idx, call ≠ .migrateValidator idx) : Progress done s' := by
  obtain hinit | ⟨idx, rfl⟩ | ⟨idx, rfl⟩ | rfl := dispatch_isInit hok
  · exact .finished ((dispatch_effect hok).isInit hinit)
  · obtain ⟨v, key, hactive, -, rfl⟩ := deactivateValidator_ok hok
    cases h with
    | fresh hconfig hempty =>
      have hfound := hactive.1
      rw [hempty] at hfound
      exact nomatch hfound
    | underway hfirst hcounted =>
      refine .underway hfirst (hcounted.congr swapAndPop_config ?_)
      rw [swapAndPop_validators_length]
      exact List.length_modify ..
    | finished hinit =>
      refine .finished ?_
      rw [swapAndPop_config]
      exact hinit
  · exact absurd rfl (hother idx)
  · obtain ⟨-, -, -, -, -, hinit⟩ := initializeIfMigrated_ok hok
    exact .finished hinit

variable {tx : Tx}

theorem migrationOf_of_ok (hcall : tx.call = .migrateValidator idx)
    (hok : dispatch tx.ctx tx.sender tx.call s = .ok u s') :
    migrationOf s tx = some ⟨s, tx.ctx, idx, s'⟩ := by
  unfold migrationOf
  rw [hok, hcall]

theorem migrationOf_of_ne (hother : ∀ idx, tx.call ≠ .migrateValidator idx) :
    migrationOf s tx = none := by
  unfold migrationOf
  cases hcall : tx.call with
  | migrateValidator idx => exact absurd hcall (hother idx)
  | _ => rfl

/-- A transaction brings the migration on by what it migrates. -/
theorem Progress.transact (h : Progress done s)
    (howner : done = [] → ∀ m, migrationOf s tx = some m → m.ctx.v1.owner ≠ 0) :
    Progress (done ++ (migrationOf s tx).toList) (s.transact tx) := by
  unfold ValidatorConfig.transact
  cases hok : dispatch tx.ctx tx.sender tx.call s with
  | error e s' =>
    have hnone : migrationOf s tx = none := by
      unfold migrationOf
      rw [hok]
      cases tx.call <;> rfl
    rw [hnone, Option.toList_none, List.append_nil]
    exact h
  | ok u s' =>
    by_cases hmigrates : ∃ idx, tx.call = .migrateValidator idx
    · obtain ⟨idx, hcall⟩ := hmigrates
      have hlogged := migrationOf_of_ok hcall hok
      rw [hlogged] at howner ⊢
      rw [hcall] at hok
      exact h.migrate hok fun hempty => howner hempty _ rfl
    · rw [migrationOf_of_ne fun idx hcall => hmigrates ⟨idx, hcall⟩, Option.toList_none,
        List.append_nil]
      exact h.other hok fun idx hcall => hmigrates ⟨idx, hcall⟩

theorem Progress.run {txs : List Tx} (h : Progress done s)
    (howner : ∀ m, (done ++ s.migrations txs).head? = some m → m.ctx.v1.owner ≠ 0) :
    Progress (done ++ s.migrations txs) (s.run txs) := by
  induction txs generalizing s done with
  | nil =>
    rw [ValidatorConfig.migrations, List.append_nil]
    exact h
  | cons tx txs ih =>
    rw [ValidatorConfig.migrations, ← List.append_assoc] at howner ⊢
    refine ih (h.transact fun hempty m hm => howner m ?_) howner
    rw [hempty, hm]
    rfl

/-! ## Completeness -/

omit [Codec] in
/-- The migration can be completed only when nothing is left of the count. -/
theorem Progress.complete (h : Progress done s)
    (hok : initializeIfMigrated ctx sender s = .ok u s')
    (hnarrow : ∀ m, done.head? = some m → m.ctx.v1.validatorsArray.length < 2 ^ 8) :
    ∃ first, done.head? = some first ∧
      done.map Migration.idx = (List.range first.ctx.v1.validatorsArray.length).reverse ∧
      ∀ m ∈ done, m.Appended ∨ m.Skipped := by
  obtain ⟨config, t, hguard, hcount, hreached, -⟩ := initializeIfMigrated_ok hok
  obtain ⟨hinit, -, hcases⟩ := requireMigrationOwner_ok hguard
  cases h with
  | fresh hconfig hempty =>
    obtain ⟨hzero, -⟩ | ⟨-, -, rfl, rfl⟩ := hcases
    · rw [hconfig] at hzero
      exact absurd rfl hzero
    · have hnone :
          (s.snapshotV1 ctx.v1).validators.length + s.config.migrationSkippedCount = 0 := by
        show s.validators.length + _ = 0
        rw [hempty, hconfig]
        rfl
      exact absurd (Nat.le_zero.mp (hnone ▸ hreached)) hcount
  | @underway _ _ first hfirst hcounted =>
    obtain ⟨-, rfl, rfl⟩ | ⟨hzero, -⟩ := hcases
    · rw [hcounted.processed, hcounted.count_eq] at hreached
      have hcomplete : done.length = first.ctx.v1.validatorsArray.length := by
        rw [← Nat.mod_eq_of_lt (hnarrow first hfirst)]
        exact Nat.le_antisymm hcounted.within hreached
      have horder := hcounted.order
      rw [Nat.mod_eq_of_lt (hnarrow first hfirst), hcomplete, List.take_of_length_le] at horder
      · exact ⟨first, hfirst, horder, hcounted.recorded⟩
      · simp
    · exact absurd hzero hcounted.owned
  | finished hdone =>
    rw [hinit] at hdone
    exact nomatch hdone

/-- When the registry is initialized after a migration from empty storage, every validator of the
old registry has been migrated, once, from the last index down, provided that the old registry had
an owner and less than 256 validators when the migration began. -/
theorem migration_complete (txs : List Tx) (ctx : Context) (sender : Address)
    (hfirst : ∀ m, ((ValidatorConfig.start Config.unset).migrations txs).head? = some m →
      m.ctx.v1.validatorsArray.length < 2 ^ 8 ∧ m.ctx.v1.owner ≠ 0)
    (hok : initializeIfMigrated ctx sender ((ValidatorConfig.start Config.unset).run txs) =
      .ok u s') :
    ∃ first, ((ValidatorConfig.start Config.unset).migrations txs).head? = some first ∧
      ((ValidatorConfig.start Config.unset).migrations txs).map Migration.idx =
        (List.range first.ctx.v1.validatorsArray.length).reverse ∧
      ∀ m ∈ (ValidatorConfig.start Config.unset).migrations txs, m.Appended ∨ m.Skipped := by
  have hprogress : Progress ((ValidatorConfig.start Config.unset).migrations txs)
      ((ValidatorConfig.start Config.unset).run txs) :=
    Progress.run (.fresh rfl rfl) fun m hm => (hfirst m hm).2
  exact hprogress.complete hok fun m hm => (hfirst m hm).1

/-- An old registry with as many validators as asked for, each with its own key and address. -/
def crowdedV1 (count : ℕ) : V1 where
  owner := 1
  validatorsArray := (List.range count).map (· + 1)
  validators address :=
    ⟨address, true, address, String.ofList (List.replicate address 'i'),
      String.ofList (List.replicate address 'o')⟩
  nextDkgCeremony := 9

/-- The owner migrates two validators. -/
def sampleMigration : List Tx :=
  [⟨⟨5, crowdedV1 2⟩, 1, .migrateValidator 1⟩,
   ⟨⟨5, crowdedV1 2⟩, 1, .migrateValidator 0⟩]

omit [Codec] in
theorem migration_complete_sample :
    let _ : Codec := sampleCodec
    ((ValidatorConfig.start Config.unset).migrations sampleMigration).map Migration.idx =
        [1, 0] ∧
      ∀ m ∈ (ValidatorConfig.start Config.unset).migrations sampleMigration,
        m.Appended ∨ m.Skipped := by
  intro codec
  obtain ⟨first, hfirst, horder, hrecorded⟩ :=
    migration_complete sampleMigration ⟨6, crowdedV1 2⟩ 1
      (fun m hm => by
        obtain rfl := Option.some.inj hm
        exact ⟨by decide, by decide⟩) rfl
  obtain rfl := Option.some.inj hfirst
  exact ⟨horder, hrecorded⟩

omit [Codec] in
/-- With 257 validators in the old registry the count wraps around to one. -/
theorem migration_loses_validators :
    let _ : Codec := sampleCodec
    let txs : List Tx := [⟨⟨5, crowdedV1 257⟩, 1, .migrateValidator 0⟩]
    returned (initializeIfMigrated ⟨6, crowdedV1 257⟩ 1
        ((ValidatorConfig.start Config.unset).run txs)) = true ∧
      ((ValidatorConfig.start Config.unset).migrations txs).map Migration.idx = [0] ∧
      (crowdedV1 257).validatorsArray.length = 257 := by
  decide +kernel

end Monotempo.Validators
