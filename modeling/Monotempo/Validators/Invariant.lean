/-
  The tables of the registry agree with its records.

  The records are the truth.  What a call does to them comes down to writes of their views, beside
  writes of the tables that the views are about.
-/
import Monotempo.Foundation.ReverseIndex
import Monotempo.Validators.Views

set_option autoImplicit false

namespace Monotempo.Validators

open Chain Foundation Function
open ValidatorConfig (activeSet deactivatedAt modifyRecord pushRecord setIngressIp setPubkeyIndex)

variable [Codec]

/-- The tables agree with the records. -/
structure Intact (s : ValidatorConfig) : Prop where
  active : s.activeSet.Intact
  listed : ∀ i, i + 1 ∈ s.activeIndices ↔ view s.validators activeOf i = some ()
  pubkeys : Indexed s.pubkeyToIndex (view s.validators publicKeyOf)
  addresses : Indexed s.addressToIndex (view s.validators activeAddressOf)
  ingress : Flagged s.activeIngressIps (view s.validators activeIngressOf)
  keyed : ∀ i, view s.validators activeOf i = some () →
    (view s.validators activeIngressOf i).isSome = true

theorem Intact.start (config : Config) : Intact (ValidatorConfig.start config) := by
  have hset : (ValidatorConfig.start config).activeSet = StoredSet.empty := by
    unfold ValidatorConfig.activeSet StoredSet.empty ValidatorConfig.start
    congr 1
    funext k
    cases k with
    | zero | succ => rfl
  refine ⟨hset ▸ StoredSet.Intact.empty, fun i => ⟨nofun, nofun⟩, nofun, nofun,
    ⟨fun k => ⟨nofun, ?_⟩, nofun⟩, nofun⟩
  rintro ⟨i, hi⟩
  exact nomatch hi

variable {s s' : ValidatorConfig} {block idx : ℕ} {v : ValidatorRecord}

/-! ## What holds of an intact registry -/

omit [Codec] in
theorem ValidatorConfig.ActiveAt.view_eq {β : Type} (h : s.ActiveAt idx v)
    (g : ValidatorRecord → Option β) : view s.validators g idx = g v :=
  view_of_getElem? h.1

omit [Codec] in
theorem ValidatorConfig.ActiveAt.activeOf_eq (h : s.ActiveAt idx v) : activeOf v = some () :=
  if_pos h.2

omit [Codec] in
theorem view_activeOf_iff {i : ℕ} :
    view s.validators activeOf i = some () ↔ ∃ v, s.ActiveAt i v := by
  constructor
  · intro h
    obtain ⟨v, hv, hactive⟩ := Option.bind_eq_some_iff.mp h
    refine ⟨v, hv, ?_⟩
    unfold activeOf at hactive
    split at hactive
    · assumption
    · exact nomatch hactive
  · rintro ⟨v, hactive⟩
    rw [hactive.view_eq, hactive.activeOf_eq]

/-- An active record is listed at its place. -/
theorem Intact.listed_at (h : Intact s) (hactive : s.ActiveAt idx v) :
    v.activeIdx ≠ 0 ∧ s.activeIndices[v.activeIdx - 1]? = some (idx + 1) := by
  have hmem : idx + 1 ∈ s.activeIndices := (h.listed idx).mpr (view_activeOf_iff.mpr ⟨v, hactive⟩)
  have hposition : s.activeSet.positions (idx + 1) = v.activeIdx :=
    activePosition_of_getElem? hactive.1
  have hplace := h.active.mem_iff.mp hmem
  have hlisted := h.active.getElem?_position hplace
  rw [hposition] at hplace hlisted
  exact ⟨hplace, hlisted⟩

/-- An address that is free is not that of an active record. -/
theorem Intact.address_unused (h : Intact s) {addr : Address} (hfree : s.FreeAddress addr)
    (j : ℕ) : view s.validators activeAddressOf j ≠ some addr := by
  intro hj
  obtain ⟨w, hw, haddr⟩ := Option.bind_eq_some_iff.mp hj
  refine hfree ?_
  rw [h.addresses j addr hj, Nat.add_sub_cancel]
  refine ⟨Nat.succ_ne_zero j, ?_⟩
  unfold activeAddressOf at haddr
  split at haddr
  · rename_i hactive
    unfold deactivatedAt
    rw [hw]
    exact hactive
  · exact nomatch haddr

/-! ## Effects keep the registry intact -/

/-- Fields that the tables do not depend on. -/
theorem Intact.congr (h : Intact s) (hvalidators : s'.validators = s.validators)
    (haddress : s'.addressToIndex = s.addressToIndex)
    (hpubkey : s'.pubkeyToIndex = s.pubkeyToIndex)
    (hingress : s'.activeIngressIps = s.activeIngressIps)
    (hactive : s'.activeIndices = s.activeIndices) : Intact s' := by
  obtain ⟨active, listed, pubkeys, addresses, ingress, keyed⟩ := h
  refine ⟨?_, ?_, ?_, ?_, ?_, ?_⟩
  · unfold activeSet
    rw [hvalidators, hactive]
    exact active
  · rw [hvalidators, hactive]
    exact listed
  · rw [hvalidators, hpubkey]
    exact pubkeys
  · rw [hvalidators, haddress]
    exact addresses
  · rw [hvalidators, hingress]
    exact ingress
  · rw [hvalidators]
    exact keyed

section Append

variable {addr feeRecipient : Address} {pubkey key : B256} {ingress egress : String}

section Append

variable (h : Intact s) (hnew : s.pubkeyToIndex pubkey = 0)

include h hnew

theorem Intact.append_pubkeys {added deactivated : ℕ} :
    Indexed (s.append addr pubkey ingress egress feeRecipient added deactivated).pubkeyToIndex
      (view (s.append addr pubkey ingress egress feeRecipient added deactivated).validators
        publicKeyOf) := by
  rw [append_validators, append_pubkeyToIndex, view_append]
  exact h.pubkeys.write fun j _ => h.pubkeys.unused hnew j

theorem Intact.added (hfree : s.FreeAddress addr) (hkey : Codec.ingressKey ingress = some key)
    (hunused : s.activeIngressIps key = false) :
    Intact ((s.append addr pubkey ingress egress feeRecipient block 0).setIngressIp key true) := by
  have habsent : s.validators.length + 1 ∉ s.activeIndices := by
    rw [h.listed, view_length]
    exact nofun
  refine ⟨?_, fun i => ?_, h.append_pubkeys hnew, ?_, ?_, fun i hi => ?_⟩
  · unfold activeSet setIngressIp
    simp only [append_validators, append_activeIndices, if_true]
    rw [activePosition_append]
    refine ⟨?_, ?_⟩
    · rw [← List.concat_eq_append, List.nodup_concat]
      exact ⟨habsent, h.active.nodup⟩
    · show update s.activeSet.positions _ _ = _
      rw [h.active.positions, StoredSet.positionsOf_concat habsent]
      rfl
  · unfold setIngressIp
    simp only [append_validators, append_activeIndices, if_true, view_append]
    by_cases hi : i = s.validators.length
    · subst hi
      simp [activeOf]
    · rw [update_of_ne hi, ← h.listed i]
      simp [hi]
  · unfold setIngressIp
    simp only [append_validators, append_addressToIndex, view_append]
    exact h.addresses.write fun j _ => h.address_unused hfree j
  · unfold setIngressIp
    simp only [append_validators, append_activeIngressIps, view_append]
    have hgets : activeIngressOf ⟨pubkey, addr, ingress, egress, feeRecipient, s.validators.length,
        s.activeIndices.length + 1, block, 0⟩ = some key := hkey
    simp only [if_true, hgets]
    exact h.ingress.write view_length hunused
  · unfold setIngressIp at hi ⊢
    simp only [append_validators, view_append] at hi ⊢
    by_cases heq : i = s.validators.length
    · subst heq
      rw [update_self]
      show (Codec.ingressKey ingress).isSome = true
      rw [hkey]
      rfl
    · rw [update_of_ne heq] at hi ⊢
      exact h.keyed i hi

/-- A validator that is migrated as deactivated. -/
theorem Intact.retired (hfree : s.FreeAddress addr) (hblock : block ≠ 0) :
    Intact (s.append addr pubkey ingress egress feeRecipient block block) := by
  have hview : ∀ {β : Type} (g : ValidatorRecord → Option β),
      g ⟨pubkey, addr, ingress, egress, feeRecipient, s.validators.length, 0, block, block⟩ = none →
      view (s.append addr pubkey ingress egress feeRecipient block block).validators g =
        view s.validators g := by
    intro β g hnone
    rw [append_validators, if_neg hblock]
    exact view_append_none hnone
  have hactive := hview activeOf (if_neg hblock)
  have haddress := hview activeAddressOf (if_neg hblock)
  have hingress := hview activeIngressOf (if_neg hblock)
  refine ⟨?_, fun i => ?_, h.append_pubkeys hnew, ?_, ?_, fun i hi => ?_⟩
  · unfold activeSet
    rw [append_activeIndices, append_validators, if_neg hblock, if_neg hblock,
      activePosition_append_zero rfl]
    exact h.active
  · rw [append_activeIndices, if_neg hblock, hactive]
    exact h.listed i
  · rw [haddress, append_addressToIndex]
    exact h.addresses.forget (h.address_unused hfree) _
  · rw [hingress, append_activeIngressIps]
    exact h.ingress
  · rw [hactive] at hi
    rw [hingress]
    exact h.keyed i hi

end Append

end Append

section Records

variable {addr : Address} {pubkey key oldKey newKey : B256}
  {ingress egress : String}

omit [Codec] in
theorem view_activeAddressOf (hactive : s.ActiveAt idx v) :
    view s.validators activeAddressOf idx = some v.validatorAddress := by
  rw [hactive.view_eq, activeAddressOf, if_pos hactive.2]

theorem view_activeIngressOf (hactive : s.ActiveAt idx v) :
    view s.validators activeIngressOf idx = Codec.ingressKey v.ingress := by
  rw [hactive.view_eq, activeIngressOf, if_pos hactive.2]

/-- A change of an active record that leaves it active with its public key and its place. -/
theorem Intact.edited (v' : ValidatorRecord) (h : Intact s) (hactive : s.ActiveAt idx v)
    (hv' : v'.deactivatedAtHeight = 0) (hplace : v'.activeIdx = v.activeIdx)
    (hpubkey : v'.publicKey = v.publicKey)
    (hvalidators : s'.validators = s.validators.modify idx fun _ => v')
    (hpubkeys : s'.pubkeyToIndex = s.pubkeyToIndex) (hindices : s'.activeIndices = s.activeIndices)
    (haddresses : Indexed s'.addressToIndex
      (update (view s.validators activeAddressOf) idx (some v'.validatorAddress)))
    (hingress : Flagged s'.activeIngressIps
      (update (view s.validators activeIngressOf) idx (some key)))
    (hkey : Codec.ingressKey v'.ingress = some key) : Intact s' := by
  have hview : ∀ {β : Type} (g : ValidatorRecord → Option β),
      view s'.validators g = update (view s.validators g) idx (g v') := by
    intro β g
    rw [hvalidators, view_modify hactive.1]
  have hsame : ∀ {β : Type} (g : ValidatorRecord → Option β), g v' = g v →
      view s'.validators g = view s.validators g := by
    intro β g hg
    rw [hview, hg, ← hactive.view_eq g, update_eq_self]
  have hactiveOf : view s'.validators activeOf = view s.validators activeOf :=
    hsame activeOf ((if_pos hv').trans hactive.activeOf_eq.symm)
  have hingressOf : activeIngressOf v' = some key := (if_pos hv').trans hkey
  refine ⟨?_, fun i => ?_, ?_, ?_, ?_, fun i hi => ?_⟩
  · unfold activeSet
    rw [hindices, activePosition_congr (hsame activeIdxOf (congrArg some hplace))]
    exact h.active
  · rw [hindices, hactiveOf]
    exact h.listed i
  · rw [hpubkeys, hsame publicKeyOf (congrArg some hpubkey)]
    exact h.pubkeys
  · rw [hview, activeAddressOf, if_pos hv']
    exact haddresses
  · rw [hview, hingressOf]
    exact hingress
  · rw [hactiveOf] at hi
    rw [hview, hingressOf]
    by_cases heq : i = idx
    · subst heq
      rw [update_self]
      rfl
    · rw [update_of_ne heq]
      exact h.keyed i hi

section Active

variable (h : Intact s) (hactive : s.ActiveAt idx v)

include h hactive

/-- The ingress of an active record moves to another key, or stays. -/
theorem Intact.moveIngress (hold : Codec.ingressKey v.ingress = some oldKey)
    (hfree : oldKey ≠ newKey → s.activeIngressIps newKey = false) :
    Flagged (s.moveIngress oldKey newKey).activeIngressIps
      (update (view s.validators activeIngressOf) idx (some newKey)) := by
  have hkey := (view_activeIngressOf hactive).trans hold
  unfold ValidatorConfig.moveIngress
  by_cases hne : oldKey = newKey
  · subst hne
    rw [if_neg (not_not.mpr rfl), ← hkey, update_eq_self]
    exact h.ingress
  · rw [if_pos hne]
    have hunused : update s.activeIngressIps oldKey false newKey = false := by
      rw [update_of_ne (Ne.symm hne)]
      exact hfree hne
    have hmoved := (h.ingress.clear hkey).write (i := idx) (update_self ..) hunused
    rwa [update_idem] at hmoved

theorem Intact.ingressKey_eq : ∃ key, Codec.ingressKey v.ingress = some key := by
  have hkeyed := h.keyed idx (view_activeOf_iff.mpr ⟨v, hactive⟩)
  rw [view_activeIngressOf hactive] at hkeyed
  exact Option.isSome_iff_exists.mp hkeyed

theorem Intact.feeChanged (feeRecipient : Address) :
    Intact (s.modifyRecord idx fun _ => { v with feeRecipient := feeRecipient }) := by
  obtain ⟨key, hkey⟩ := h.ingressKey_eq hactive
  refine Intact.edited { v with feeRecipient := feeRecipient } h hactive hactive.2 rfl rfl rfl rfl
    rfl ?_ ?_ hkey
  · rw [← view_activeAddressOf hactive, update_eq_self]
    exact h.addresses
  · rw [← hkey, ← view_activeIngressOf hactive, update_eq_self]
    exact h.ingress

theorem Intact.moved (hold : Codec.ingressKey v.ingress = some oldKey)
    (hnew : Codec.ingressKey ingress = some newKey)
    (hfree : oldKey ≠ newKey → s.activeIngressIps newKey = false) :
    Intact ((s.moveIngress oldKey newKey).modifyRecord idx fun _ =>
      { v with ingress := ingress, egress := egress }) := by
  refine Intact.edited { v with ingress := ingress, egress := egress } h hactive hactive.2 rfl rfl
    ?_ ?_ ?_ ?_ (h.moveIngress hactive hold hfree) hnew
  · simp [modifyRecord]
  · simp [modifyRecord]
  · simp [modifyRecord]
  · rw [← view_activeAddressOf hactive, update_eq_self]
    simpa [modifyRecord] using h.addresses

theorem Intact.transferred (hfree : s.FreeAddress addr) :
    Intact (((s.modifyRecord idx fun _ =>
      { v with validatorAddress := addr }).setAddressIndex v.validatorAddress 0).setAddressIndex
        addr (idx + 1)) := by
  obtain ⟨key, hkey⟩ := h.ingressKey_eq hactive
  refine Intact.edited { v with validatorAddress := addr } h hactive hactive.2 rfl rfl rfl rfl
    rfl ?_ ?_ hkey
  · exact h.addresses.rename (view_activeAddressOf hactive) (h.address_unused hfree)
  · rw [← hkey, ← view_activeIngressOf hactive, update_eq_self]
    exact h.ingress

theorem Intact.deactivated (hkey : Codec.ingressKey v.ingress = some key) (hblock : block ≠ 0) :
    Intact (((s.setIngressIp key false).modifyRecord idx fun r =>
      { r with deactivatedAtHeight := block }).swapAndPop idx v.activeIdx) := by
  obtain ⟨hplace, -⟩ := h.listed_at hactive
  let t : ValidatorConfig := (s.setIngressIp key false).modifyRecord idx fun r =>
    { r with deactivatedAtHeight := block }
  have hfound : t.validators[idx]? = some { v with deactivatedAtHeight := block } := by
    show (s.validators.modify idx _)[idx]? = _
    rw [List.getElem?_modify_eq, hactive.1]
    rfl
  have hset : t.activeSet = s.activeSet := by
    unfold activeSet
    congr 1
    exact activePosition_congr (view_modify_same fun r _ => rfl)
  have hremoved : (t.swapAndPop idx v.activeIdx).activeSet = (s.activeSet.remove (idx + 1)).2 := by
    rw [← hset]
    exact activeSet_swapAndPop (v := { v with deactivatedAtHeight := block }) (hset ▸ h.active)
      hfound hplace
  have hview : ∀ {β : Type} {g : ValidatorRecord → Option β},
      (∀ r activeIdx, g { r with activeIdx := activeIdx } = g r) →
      view (t.swapAndPop idx v.activeIdx).validators g =
        update (view s.validators g) idx (g { v with deactivatedAtHeight := block }) := by
    intro β g hg
    rw [view_swapAndPop hg]
    exact view_modify hactive.1
  have hactiveOf := hview (g := activeOf) fun _ _ => rfl
  have hinactive : activeOf { v with deactivatedAtHeight := block } = none := if_neg hblock
  rw [hinactive] at hactiveOf
  obtain ⟨hintact, -, hmem⟩ := @StoredSet.Intact.remove _ _ s.activeSet (idx + 1) _ h.active
  refine ⟨hremoved ▸ hintact, fun i => ?_, ?_, ?_, ?_, fun i hi => ?_⟩
  · have hindices : (t.swapAndPop idx v.activeIdx).activeIndices =
        (s.activeSet.remove (idx + 1)).2.values := congrArg StoredSet.values hremoved
    rw [hindices, hmem, hactiveOf]
    by_cases heq : i = idx
    · subst heq
      simp
    · rw [update_of_ne heq, ← h.listed i]
      simp [heq, activeSet]
  · rw [swapAndPop_pubkeyToIndex, view_swapAndPop fun _ _ => rfl]
    have hkept : view t.validators publicKeyOf = view s.validators publicKeyOf :=
      view_modify_same fun _ _ => rfl
    rw [hkept]
    exact h.pubkeys
  · rw [swapAndPop_addressToIndex, hview fun _ _ => rfl]
    refine h.addresses.mono fun j k hj => ?_
    by_cases heq : j = idx
    · subst heq
      rw [update_self, activeAddressOf, if_neg hblock] at hj
      exact nomatch hj
    · rwa [update_of_ne heq] at hj
  · rw [swapAndPop_activeIngressIps, hview fun _ _ => rfl]
    have hnone : activeIngressOf { v with deactivatedAtHeight := block } = none := if_neg hblock
    rw [hnone]
    exact h.ingress.clear ((view_activeIngressOf hactive).trans hkey)
  · rw [hactiveOf] at hi
    rw [hview fun _ _ => rfl]
    by_cases heq : i = idx
    · subst heq
      rw [update_self] at hi
      exact nomatch hi
    · rw [update_of_ne heq] at hi ⊢
      exact h.keyed i hi

/-- A validator that is rotated: a snapshot keeps the old public key. -/
theorem Intact.rotated (hpubkey : s.pubkeyToIndex pubkey = 0)
    (hold : Codec.ingressKey v.ingress = some oldKey)
    (hnew : Codec.ingressKey ingress = some newKey) (hfree : s.activeIngressIps newKey = false)
    (hblock : block ≠ 0) :
    Intact (((((s.moveIngress oldKey newKey).pushRecord
      (v.snapshot s.validators.length block)).setPubkeyIndex v.publicKey
      (s.validators.length + 1)).modifyRecord idx fun r =>
        r.renewed pubkey ingress egress block).setPubkeyIndex pubkey (idx + 1)) := by
  let records : List ValidatorRecord :=
    (s.validators ++ [v.snapshot s.validators.length block]).modify idx fun r =>
      r.renewed pubkey ingress egress block
  have hfound := getElem?_append_of_some hactive.1 (v.snapshot s.validators.length block)
  have hview : ∀ {β : Type} (g : ValidatorRecord → Option β), view records g =
      update (update (view s.validators g) s.validators.length
        (g (v.snapshot s.validators.length block))) idx
          (g (v.renewed pubkey ingress egress block)) := by
    intro β g
    rw [view_modify hfound, view_append]
  -- the snapshot does not count among the active records
  have hrenewed : ∀ {β : Type} (g : ValidatorRecord → Option β),
      g (v.snapshot s.validators.length block) = none →
      view records g = update (view s.validators g) idx
        (g (v.renewed pubkey ingress egress block)) := by
    intro β g hnone
    rw [view_modify hfound, view_append_none hnone]
  have hactiveOf : view records activeOf = view s.validators activeOf := by
    have hsame : activeOf (v.renewed pubkey ingress egress block) =
        view s.validators activeOf idx :=
      (if_pos hactive.2).trans (hactive.view_eq activeOf ▸ hactive.activeOf_eq).symm
    rw [hrenewed activeOf (if_neg hblock), hsame, update_eq_self]
  have hingressOf : view records activeIngressOf =
      update (view s.validators activeIngressOf) idx (some newKey) := by
    have hkey : activeIngressOf (v.renewed pubkey ingress egress block) = some newKey :=
      (if_pos hactive.2).trans hnew
    rw [hrenewed activeIngressOf (if_neg hblock), hkey]
  have hpositions : activePosition records = activePosition s.validators := by
    have hsame : (v.renewed pubkey ingress egress block).activeIdx =
        activePosition s.validators (idx + 1) := (activePosition_of_getElem? hactive.1).symm
    rw [activePosition_modify hfound, activePosition_append_zero rfl, hsame,
      update_eq_self]
  have hvalidators : ∀ t : ValidatorConfig, t.validators = records →
      t.activeIndices = s.activeIndices → t.addressToIndex = s.addressToIndex →
      t.activeIngressIps = (s.moveIngress oldKey newKey).activeIngressIps →
      t.pubkeyToIndex = update (update s.pubkeyToIndex v.publicKey
        (s.validators.length + 1)) pubkey (idx + 1) → Intact t := by
    intro t hrecords hindices haddresses hips hpubkeys
    refine ⟨?_, fun i => ?_, ?_, ?_, ?_, fun i hi => ?_⟩
    · unfold activeSet
      rw [hindices, hrecords, hpositions]
      exact h.active
    · rw [hindices, hrecords, hactiveOf]
      exact h.listed i
    · rw [hpubkeys, hrecords, hview]
      exact h.pubkeys.handOver (hactive.view_eq publicKeyOf) view_length (h.pubkeys.unused hpubkey)
    · have hsame : activeAddressOf (v.renewed pubkey ingress egress block) =
          view s.validators activeAddressOf idx :=
        (if_pos hactive.2).trans (view_activeAddressOf hactive).symm
      rw [haddresses, hrecords, hrenewed activeAddressOf (if_neg hblock), hsame,
        update_eq_self]
      exact h.addresses
    · rw [hips, hrecords, hingressOf]
      exact h.moveIngress hactive hold fun _ => hfree
    · rw [hrecords, hactiveOf] at hi
      rw [hrecords, hingressOf]
      by_cases heq : i = idx
      · subst heq
        rw [update_self]
        rfl
      · rw [update_of_ne heq]
        exact h.keyed i hi
  refine hvalidators _ ?_ ?_ ?_ ?_ ?_ <;>
    simp [records, setPubkeyIndex, modifyRecord,
      pushRecord]

end Active

end Records

/-! ## Runs -/

theorem Intact.step (h : Intact s) (heffect : Effect block s s') (hblock : block ≠ 0) :
    Intact s' := by
  cases heffect with
  | configured config epoch hinit => exact h.congr rfl rfl rfl rfl rfl
  | added config hinit hpubkey haddr hkey hingress =>
    have hconfigured : Intact { s with config := config } := h.congr rfl rfl rfl rfl rfl
    exact hconfigured.added hpubkey haddr hkey hingress
  | retired config hinit hpubkey haddr =>
    have hconfigured : Intact { s with config := config } := h.congr rfl rfl rfl rfl rfl
    exact hconfigured.retired hpubkey haddr hblock
  | deactivated hactive hkey => exact h.deactivated hactive hkey hblock
  | rotated hactive hpubkey hold hnew hingress =>
    exact h.rotated hactive hpubkey hold hnew hingress hblock
  | feeChanged feeRecipient hactive => exact h.feeChanged hactive feeRecipient
  | moved hactive hold hnew hingress => exact h.moved hactive hold hnew hingress
  | transferred hactive haddr => exact h.transferred hactive haddr

theorem Intact.transact (h : Intact s) {tx : Tx} (hblock : 1 ≤ tx.ctx.blockNumber) :
    Intact (s.transact tx) := by
  obtain hsame | heffect := transact_effect s tx
  · rwa [hsame]
  · exact h.step heffect (Nat.ne_of_gt hblock)

theorem Intact.run (h : Intact s) {txs : List Tx}
    (hblocks : ∀ tx ∈ txs, 1 ≤ tx.ctx.blockNumber) : Intact (s.run txs) := by
  induction txs generalizing s with
  | nil => exact h
  | cons tx txs ih =>
    exact ih (h.transact (hblocks tx List.mem_cons_self))
      fun tx' hmem => hblocks tx' (List.mem_cons_of_mem tx hmem)

end Monotempo.Validators
