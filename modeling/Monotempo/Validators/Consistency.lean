/-
  The registry after any transactions.

  The tables lead to the records they should, and a deactivated record is never touched again.
-/
import Monotempo.Validators.Invariant

set_option autoImplicit false

namespace Monotempo.Validators

open Chain Foundation

variable [Codec] {s s' : ValidatorConfig} {block idx : ℕ} {v : ValidatorRecord}

/-! ## Deactivated records -/

section Deactivated

variable {i : ℕ} {r : ValidatorRecord}

omit [Codec] in
/-- The removal writes the record that is removed and the one that is moved. -/
theorem swapAndPop_getElem? {activeIdx : ℕ} (hidx : idx ≠ i)
    (hmoved : s.activeIndices.getD (s.activeIndices.length - 1) 0 - 1 ≠ i) :
    (s.swapAndPop idx activeIdx).validators[i]? = s.validators[i]? := by
  by_cases hlast : activeIdx - 1 = s.activeIndices.length - 1
  · rw [swapAndPop_of_eq hlast]
    exact List.getElem?_modify_ne _ _ hidx
  · rw [swapAndPop_of_ne hlast]
    exact (List.getElem?_modify_ne _ _ hidx).trans (List.getElem?_modify_ne _ _ hmoved)

omit [Codec] in
theorem ValidatorConfig.ActiveAt.ne (h : s.ActiveAt idx v) (hr : s.validators[i]? = some r)
    (hdeactivated : r.deactivatedAtHeight ≠ 0) : idx ≠ i := by
  rintro rfl
  obtain rfl := Option.some.inj (h.1.symm.trans hr)
  exact hdeactivated h.2

/-- The last entry of `active_indices`, if there is one, is that of an active record. -/
theorem Intact.last_active (h : Intact s) (hactive : s.ActiveAt idx v) :
    ∃ w, s.ActiveAt (s.activeIndices.getD (s.activeIndices.length - 1) 0 - 1) w := by
  obtain ⟨-, hlisted⟩ := h.listed_at hactive
  have hlength : s.activeIndices.length - 1 < s.activeIndices.length :=
    Nat.sub_lt (Nat.zero_lt_of_lt (List.getElem?_eq_some_iff.mp hlisted).1) Nat.one_pos
  have hmem : s.activeIndices.getD (s.activeIndices.length - 1) 0 ∈ s.activeIndices := by
    rw [List.getD_eq_getElem?_getD, List.getElem?_eq_getElem hlength]
    exact List.getElem_mem hlength
  obtain ⟨j, -, hj, -⟩ := getElem?_of_activePosition (h.active.mem_iff.mp hmem)
  rw [hj] at hmem ⊢
  exact view_activeOf_iff.mp ((h.listed j).mp hmem)

/-- A deactivated record is not changed any more. -/
theorem Effect.deactivated_getElem? (heffect : Effect block s s') (h : Intact s)
    (hr : s.validators[i]? = some r) (hdeactivated : r.deactivatedAtHeight ≠ 0) :
    s'.validators[i]? = some r := by
  have hkept : ∀ (f : ValidatorRecord → ValidatorRecord) {idx : ℕ} {v : ValidatorRecord},
      s.ActiveAt idx v → (s.validators.modify idx f)[i]? = some r := by
    intro f idx v hactive
    rw [List.getElem?_modify_ne _ _ (hactive.ne hr hdeactivated), hr]
  have happended := getElem?_append_of_some hr
  cases heffect with
  | configured config epoch hinit => exact hr
  | added config hinit hpubkey haddr hkey hingress =>
    show (ValidatorConfig.append _ _ _ _ _ _ _ _).validators[i]? = _
    exact happended _
  | retired config hinit hpubkey haddr =>
    rw [append_validators]
    exact happended _
  | deactivated hactive hkey =>
    obtain ⟨w, hlast⟩ := h.last_active hactive
    refine (swapAndPop_getElem? (hactive.ne hr hdeactivated) ?_).trans (hkept _ hactive)
    exact hlast.ne hr hdeactivated
  | rotated hactive hpubkey hold hnew hingress =>
    refine (List.getElem?_modify_ne _ _ (hactive.ne hr hdeactivated)).trans ?_
    show ((s.moveIngress _ _).validators ++ [_])[i]? = _
    rw [moveIngress_validators]
    exact happended _
  | feeChanged feeRecipient hactive | transferred hactive haddr => exact hkept _ hactive
  | moved hactive hold hnew hingress =>
    show ((s.moveIngress _ _).validators.modify _ _)[i]? = _
    rw [moveIngress_validators]
    exact hkept _ hactive

theorem run_deactivated_getElem? (h : Intact s) {txs : List Tx}
    (hblocks : ∀ tx ∈ txs, 1 ≤ tx.ctx.blockNumber) (hr : s.validators[i]? = some r)
    (hdeactivated : r.deactivatedAtHeight ≠ 0) : (s.run txs).validators[i]? = some r := by
  induction txs generalizing s with
  | nil => exact hr
  | cons tx txs ih =>
    have hblock := hblocks tx List.mem_cons_self
    have hkept : (s.transact tx).validators[i]? = some r := by
      obtain hsame | heffect := transact_effect s tx
      · rwa [hsame]
      · exact heffect.deactivated_getElem? h hr hdeactivated
    exact ih (h.transact hblock) (fun tx' hmem => hblocks tx' (List.mem_cons_of_mem tx hmem))
      hkept

end Deactivated

/-! ## The registry in its own terms -/

/-- What the tables say about the records. -/
structure Consistent (s : ValidatorConfig) : Prop where
  /-- `active_indices` has no duplicates -/
  nodup : s.activeIndices.Nodup
  /-- and lists the active records, counted from one. -/
  lists : ∀ k, k ∈ s.activeIndices ↔ ∃ i v, k = i + 1 ∧ s.ActiveAt i v
  /-- `active_idx` of an active record is its position there, counted from one. -/
  place : ∀ i v, s.ActiveAt i v →
    v.activeIdx ≠ 0 ∧ s.activeIndices[v.activeIdx - 1]? = some (i + 1)
  /-- `pubkey_to_index` leads to the record of a public key -/
  pubkeyIndex : ∀ (i : ℕ) (v : ValidatorRecord), s.validators[i]? = some v →
    s.pubkeyToIndex v.publicKey = i + 1
  /-- of which there is one. -/
  pubkeyUnique : ∀ (i j : ℕ) (v w : ValidatorRecord), s.validators[i]? = some v →
    s.validators[j]? = some w → v.publicKey = w.publicKey → i = j
  /-- `address_to_index` leads to the active record of an address -/
  addressIndex : ∀ i v, s.ActiveAt i v → s.addressToIndex v.validatorAddress = i + 1
  /-- of which there is one. -/
  addressUnique : ∀ i j v w, s.ActiveAt i v → s.ActiveAt j w →
    v.validatorAddress = w.validatorAddress → i = j
  /-- Every active record has an ingress key, -/
  ingressKey : ∀ i v, s.ActiveAt i v → ∃ key, Codec.ingressKey v.ingress = some key
  /-- `active_ingress_ips` has exactly these keys -/
  ingressIps : ∀ key, s.activeIngressIps key = true ↔
    ∃ i v, s.ActiveAt i v ∧ Codec.ingressKey v.ingress = some key
  /-- and no two active records share one. -/
  ingressUnique : ∀ i j v w, s.ActiveAt i v → s.ActiveAt j w →
    Codec.ingressKey v.ingress = Codec.ingressKey w.ingress → i = j

/-- A record that counts for an ingress key is active. -/
theorem activeAt_of_view_activeIngressOf {key : B256}
    (h : view s.validators activeIngressOf idx = some key) :
    ∃ v, s.ActiveAt idx v ∧ Codec.ingressKey v.ingress = some key := by
  obtain ⟨v, hv, hkey⟩ := Option.bind_eq_some_iff.mp h
  unfold activeIngressOf at hkey
  split at hkey
  · rename_i hactive
    exact ⟨v, ⟨hv, hactive⟩, hkey⟩
  · exact nomatch hkey

theorem Intact.consistent (h : Intact s) : Consistent s where
  nodup := h.active.nodup
  lists k := by
    constructor
    · intro hmem
      obtain ⟨i, -, rfl, -⟩ := getElem?_of_activePosition (h.active.mem_iff.mp hmem)
      obtain ⟨v, hactive⟩ := view_activeOf_iff.mp ((h.listed i).mp hmem)
      exact ⟨i, v, rfl, hactive⟩
    · rintro ⟨i, v, rfl, hactive⟩
      exact (h.listed i).mpr (view_activeOf_iff.mpr ⟨v, hactive⟩)
  place i v hactive := h.listed_at hactive
  pubkeyIndex i v hv := h.pubkeys i v.publicKey (view_of_getElem? hv)
  pubkeyUnique i j v w hv hw heq :=
    h.pubkeys.unique (view_of_getElem? hv) ((view_of_getElem? hw).trans (congrArg some heq.symm))
  addressIndex i v hactive := h.addresses i v.validatorAddress (view_activeAddressOf hactive)
  addressUnique i j v w hv hw heq :=
    h.addresses.unique (view_activeAddressOf hv)
      ((view_activeAddressOf hw).trans (congrArg some heq.symm))
  ingressKey i v hactive := h.ingressKey_eq hactive
  ingressIps key := by
    rw [h.ingress.set key]
    constructor
    · rintro ⟨i, hi⟩
      exact ⟨i, activeAt_of_view_activeIngressOf hi⟩
    · rintro ⟨i, v, hactive, hkey⟩
      exact ⟨i, (view_activeIngressOf hactive).trans hkey⟩
  ingressUnique i j v w hv hw heq := by
    obtain ⟨key, hkey⟩ := h.ingressKey_eq hv
    exact h.ingress.unique i j key ((view_activeIngressOf hv).trans hkey)
      ((view_activeIngressOf hw).trans (heq.symm.trans hkey))

/-- After any transactions in blocks from one on, the tables agree with the records, and whatever
comes next, the records that are deactivated by then stay as they are. -/
theorem validator_registry_consistent (config : Config) (txs : List Tx)
    (hblocks : ∀ tx ∈ txs, 1 ≤ tx.ctx.blockNumber) :
    Consistent ((ValidatorConfig.start config).run txs) ∧
      ∀ later : List Tx, (∀ tx ∈ later, 1 ≤ tx.ctx.blockNumber) →
        ∀ (i : ℕ) (r : ValidatorRecord),
        ((ValidatorConfig.start config).run txs).validators[i]? = some r →
        r.deactivatedAtHeight ≠ 0 →
        ((ValidatorConfig.start config).run (txs ++ later)).validators[i]? = some r := by
  have hintact : Intact ((ValidatorConfig.start config).run txs) :=
    (Intact.start config).run hblocks
  refine ⟨hintact.consistent, fun later hlater i r hr hdeactivated => ?_⟩
  rw [ValidatorConfig.run, List.foldl_append]
  exact run_deactivated_getElem? hintact hlater hr hdeactivated

/-- Endpoints and signatures that are all accepted, with keys by length. -/
@[reducible] def sampleCodec : Codec where
  ingressKey ingress := some ingress.length
  socketIp := some
  isIp _ := true
  isPublicKey _ := true
  isSignature _ := true
  verifies _ _ _ _ _ _ := true

/-- An old registry without validators. -/
def sampleV1 : V1 := ⟨0, [], fun _ => ⟨0, false, 0, "", ""⟩, 0⟩

/-- Two validators are added, one is rotated and the other one deactivated. -/
def sampleTxs : List Tx :=
  [⟨⟨5, sampleV1⟩, 1, .addValidator ⟨7, 100, "a", "e", 0, []⟩⟩,
   ⟨⟨5, sampleV1⟩, 1, .addValidator ⟨8, 200, "bb", "e", 0, []⟩⟩,
   ⟨⟨6, sampleV1⟩, 7, .rotateValidator ⟨0, 101, "ccc", "e", []⟩⟩,
   ⟨⟨7, sampleV1⟩, 8, .deactivateValidator 1⟩]

omit [Codec] in
theorem validator_registry_consistent_sample :
    let _ : Codec := sampleCodec
    ((ValidatorConfig.start ⟨1, true, 0, 0, 0⟩).run sampleTxs).activeIndices = [1] ∧
      ((ValidatorConfig.start ⟨1, true, 0, 0, 0⟩).run sampleTxs).addressToIndex 7 = 1 ∧
      ((ValidatorConfig.start ⟨1, true, 0, 0, 0⟩).run sampleTxs).activeIngressIps 2 = false := by
  intro codec
  have hblocks : ∀ tx ∈ sampleTxs, 1 ≤ tx.ctx.blockNumber := by decide
  obtain ⟨hconsistent, -⟩ := validator_registry_consistent ⟨1, true, 0, 0, 0⟩ sampleTxs hblocks
  refine ⟨by decide +kernel, ?_, by decide +kernel⟩
  exact hconsistent.addressIndex 0 ⟨101, 7, "ccc", "e", 0, 0, 1, 6, 0⟩ ⟨by decide +kernel, rfl⟩

end Monotempo.Validators
