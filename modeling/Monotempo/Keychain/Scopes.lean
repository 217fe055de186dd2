/-
  The calls a key may make are those of the last policy written.

  A policy is a map from targets to selector rules, or nothing for an unrestricted key.
  The stored tree of sets represents a policy when its sets are intact, list what the
  policy lists, and are empty everywhere else.  Every call keeps the tree a
  representation of the policy replayed beside it.
-/
import Monotempo.Keychain.Calls

set_option autoImplicit false

namespace Monotempo.Keychain

open Chain Foundation Function

variable {scopes : List CallScope}

/-! ## Policies -/

/-- The rules of the targets that may be called. -/
abbrev TargetMap := Address → Option (List SelectorRule)

/-- Give a target its rules. -/
def TargetMap.set (map : TargetMap) (scope : CallScope) : TargetMap :=
  update map scope.target (some scope.selectorRules)

/-- Give targets their rules, one after the other. -/
def TargetMap.setAll (map : TargetMap) (scopes : List CallScope) : TargetMap :=
  scopes.foldl TargetMap.set map

/-- The map that allows no target. -/
def TargetMap.none : TargetMap := fun _ => Option.none

/-- The calls a key may make; nothing restricts an unscoped key. -/
inductive Policy where
  | unrestricted
  | restricted (map : TargetMap)

namespace Policy

/-- The map of a policy. -/
def map : Policy → TargetMap
  | .unrestricted => TargetMap.none
  | .restricted map => map

/-- Whether a policy restricts the key. -/
def isScoped : Policy → Bool
  | .unrestricted => false
  | .restricted _ => true

/-- The policy of a list of scopes. -/
def ofScopes : Option (List CallScope) → Policy
  | none => .unrestricted
  | some scopes => .restricted (TargetMap.none.setAll scopes)

/-- The policy of a new key. -/
def authorize (config : KeyRestrictions) : Policy :=
  ofScopes (if config.allowAnyCalls then none else some config.allowedCalls)

/-- The policy after new scopes. -/
def set (policy : Policy) (scopes : List CallScope) : Policy :=
  .restricted (policy.map.setAll scopes)

/-- The policy without a target. -/
def remove (policy : Policy) (target : Address) : Policy :=
  match policy with
  | .unrestricted => .unrestricted
  | .restricted map => .restricted (update map target Option.none)

/-- The first word of the arguments is a zero-padded address of the list; the empty list
stands for any. -/
def recipientAllowed (recipients : List Address) (input : List UInt8) : Prop :=
  recipients = [] ∨
    (36 ≤ input.length ∧ (∀ byte ∈ ((input.drop 4).take 32).take 12, byte = 0) ∧
      fromBigEndian (((input.drop 4).take 32).drop 12) ∈ recipients)

/-- A rule for the selector allows the call; no rules at all stand for any selector. -/
def rulesAllow (rules : List SelectorRule) (input : List UInt8) : Prop :=
  rules = [] ∨
    (4 ≤ input.length ∧ ∃ rule ∈ rules, rule.selector = fromBigEndian (input.take 4) ∧
      recipientAllowed rule.recipients input)

/-- What a policy accepts. -/
def Accepts (policy : Policy) : TxKind → List UInt8 → Prop
  | .create, _ => False
  | .call target, input =>
    match policy with
    | .unrestricted => True
    | .restricted map => ∃ rules, map target = some rules ∧ rulesAllow rules input

end Policy

/-! ## Valid rules -/

/-- Rules with one entry for each selector, and recipients listed once. -/
structure ValidRules (rules : List SelectorRule) : Prop where
  selectors : (rules.map SelectorRule.selector).Nodup
  recipients : ∀ rule ∈ rules, rule.recipients.Nodup

variable {ctx : Context} {account keyId target : Address} {s s' : KeychainState}

/-- Rules that pass have new selectors, below T11, and recipients listed once. -/
theorem validateRules_ok {seen : List Selector} {rules : List SelectorRule}
    (h : validateRules ctx target seen rules = .ok ()) :
    (∀ rule ∈ rules, rule.recipients.Nodup) ∧
      (ctx.spec.isT11 = false → (rules.map SelectorRule.selector).Nodup ∧
        ∀ rule ∈ rules, rule.selector ∉ seen) := by
  induction rules generalizing seen with
  | nil => exact ⟨by simp, fun _ => by simp⟩
  | cons rule rest ih =>
    unfold validateRules at h
    split at h
    · exact nomatch h
    · rename_i hseen
      have hnew : ctx.spec.isT11 = false → rule.selector ∉ seen := by
        intro hT11 hmem
        simp [hT11, hmem] at hseen
      -- both branches that go on have recipients without duplicates
      have hrest : rule.recipients.Nodup ∧
          validateRules ctx target (rule.selector :: seen) rest = .ok () := by
        split at h
        · rename_i hempty
          exact ⟨by rw [hempty]; exact List.nodup_nil, h⟩
        · split at h
          · exact nomatch h
          · split at h
            · exact nomatch h
            · rename_i hvalid
              exact ⟨not_not.mp (not_or.mp hvalid).2, h⟩
      obtain ⟨hrecipients, hselectors⟩ := ih hrest.2
      refine ⟨?_, fun hT11 => ?_⟩
      · intro other hother
        rcases List.mem_cons.mp hother with rfl | hother
        · exact hrest.1
        · exact hrecipients other hother
      · obtain ⟨hnodup, hfresh⟩ := hselectors hT11
        refine ⟨?_, ?_⟩
        · rw [List.map_cons, List.nodup_cons]
          refine ⟨fun hmem => ?_, hnodup⟩
          obtain ⟨other, hother, heq⟩ := List.mem_map.mp hmem
          exact hfresh other hother (heq ▸ List.mem_cons_self)
        · intro other hother
          rcases List.mem_cons.mp hother with rfl | hother
          · exact hnew hT11
          · exact fun hmem => hfresh other hother (List.mem_cons_of_mem _ hmem)

theorem validateCallScope_ok {scope : CallScope} (h : validateCallScope ctx scope = .ok ()) :
    ValidRules scope.selectorRules := by
  unfold validateCallScope at h
  split at h
  · exact nomatch h
  · split at h
    · rename_i hempty
      rw [hempty]
      exact ⟨List.nodup_nil, fun _ hmem => absurd hmem List.not_mem_nil⟩
    · unfold validateSelectorRules at h
      split at h
      · exact nomatch h
      · rename_i hsorted
        obtain ⟨hrecipients, hselectors⟩ := validateRules_ok h
        refine ⟨?_, hrecipients⟩
        cases hT11 : ctx.spec.isT11 with
        | true => simpa [hT11] using hsorted
        | false => exact (hselectors hT11).1

theorem validateScopes_ok (hT4 : ctx.spec.isT4 = true) {seen : List Address}
    (h : validateScopes ctx seen scopes = .ok ()) :
    ∀ scope ∈ scopes, ValidRules scope.selectorRules := by
  induction scopes generalizing seen with
  | nil => exact fun _ hmem => absurd hmem List.not_mem_nil
  | cons scope rest ih =>
    unfold validateScopes at h
    split at h
    · exact nomatch h
    · obtain ⟨_, hscope, hrest⟩ := except_bind_ok.mp h
      intro other hother
      rcases List.mem_cons.mp hother with rfl | hother
      · exact validateCallScope_ok hscope
      · exact ih hrest other hother

theorem forM_validateCallScope_ok (h : scopes.forM (validateCallScope ctx) = .ok ()) :
    ∀ scope ∈ scopes, ValidRules scope.selectorRules := by
  induction scopes with
  | nil => exact fun _ hmem => absurd hmem List.not_mem_nil
  | cons scope rest ih =>
    obtain ⟨_, hscope, hrest⟩ := except_bind_ok.mp h
    intro other hother
    rcases List.mem_cons.mp hother with rfl | hother
    · exact validateCallScope_ok hscope
    · exact ih hrest other hother

theorem validateCallScopes_ok (hT4 : ctx.spec.isT4 = true)
    (h : validateCallScopes ctx scopes = .ok ()) :
    ∀ scope ∈ scopes, ValidRules scope.selectorRules := by
  unfold validateCallScopes at h
  split at h
  · split at h
    · exact nomatch h
    · exact forM_validateCallScope_ok h
  · exact validateScopes_ok hT4 h

/-! ## The stored tree -/

/-- The scope of a target holds these rules and nothing else. -/
structure RepresentsRules (scope : TargetScope) (rules : List SelectorRule) : Prop where
  intact : scope.selectors.Intact
  selectors : scope.selectors.values = rules.map SelectorRule.selector
  recipientsIntact : ∀ selector, (scope.selectorScopes selector).recipients.Intact
  listed : ∀ rule ∈ rules,
    (scope.selectorScopes rule.selector).recipients.values = rule.recipients
  unlisted : ∀ selector, selector ∉ rules.map SelectorRule.selector →
    (scope.selectorScopes selector).recipients = .empty

/-- The tree of a key holds this map and nothing else. -/
structure RepresentsMap (row : KeyScope) (map : TargetMap) : Prop where
  intact : row.targets.Intact
  members : ∀ target, target ∈ row.targets.values ↔ map target ≠ Option.none
  scopes : ∀ target, RepresentsRules (row.targetScopes target) ((map target).getD [])

/-- The tree of a key holds this policy and nothing else. -/
structure Represents (row : KeyScope) (policy : Policy) : Prop where
  mode : row.isScoped = policy.isScoped
  tree : RepresentsMap row policy.map

/-- Updating a function at every member of a list without duplicates. -/
theorem foldl_update_nodup {α β : Type} [DecidableEq α] (change : β → β) {values : List α}
    (hnodup : values.Nodup) (f : α → β) (value : α) :
    values.foldl (fun g member => update g member (change (g member))) f value =
      if value ∈ values then change (f value) else f value := by
  induction values generalizing f with
  | nil => rfl
  | cons head rest ih =>
    obtain ⟨hhead, hrest⟩ := List.nodup_cons.mp hnodup
    rw [List.foldl_cons, ih hrest]
    by_cases heq : value = head
    · subst heq
      simp [hhead]
    · simp [heq]

theorem liftSet_ok {α : Type} {set : Option (StoredSet α)} {result : StoredSet α} :
    liftSet set = .ok result ↔ set = some result := by
  cases set with
  | none | some => simp [liftSet]

variable {scope scope' : TargetScope} {rules : List SelectorRule}

theorem RepresentsRules.empty : RepresentsRules ⟨.empty, fun _ => ⟨.empty⟩⟩ [] :=
  ⟨.empty, rfl, fun _ => .empty, fun _ hmem => absurd hmem List.not_mem_nil, fun _ _ => rfl⟩

theorem RepresentsRules.clear (h : RepresentsRules scope rules) :
    RepresentsRules scope.clear [] := by
  have hcleared : ∀ selector, (scope.clear.selectorScopes selector).recipients = .empty := by
    intro selector
    have hfold := foldl_update_nodup (fun scope : SelectorScope => ⟨scope.recipients.delete⟩)
      h.intact.nodup scope.selectorScopes selector
    unfold TargetScope.clear
    simp only [hfold]
    split
    · exact (h.recipientsIntact selector).delete
    · rename_i hunlisted
      rw [h.selectors] at hunlisted
      exact h.unlisted selector hunlisted
  have hselectors : scope.clear.selectors = .empty := h.intact.delete
  refine ⟨?_, ?_, ?_, ?_, ?_⟩
  · rw [hselectors]
    exact .empty
  · rw [hselectors]
    rfl
  · intro selector
    rw [hcleared]
    exact .empty
  · exact fun _ hmem => absurd hmem List.not_mem_nil
  · exact fun selector _ => hcleared selector

theorem store_ok (hT4 : ctx.spec.isT4 = true) {before after : SelectorScope}
    {recipients : List Address} (hbefore : before.recipients = .empty)
    (hnodup : recipients.Nodup) (h : before.store ctx recipients = .ok after) :
    after.recipients.Intact ∧ after.recipients.values = recipients := by
  have hintact : before.recipients.Intact := by
    rw [hbefore]
    exact .empty
  unfold SelectorScope.store at h
  split at h
  · rename_i hempty
    obtain rfl := Except.ok.inj h
    refine ⟨hintact, ?_⟩
    rw [hbefore, hempty]
    rfl
  · obtain ⟨stored, hwrite, h⟩ := except_bind_ok.mp h
    obtain rfl := Except.ok.inj h
    exact hintact.write hnodup (liftSet_ok.mp hwrite)

theorem RepresentsRules.insertRule (h : RepresentsRules scope rules) {rule : SelectorRule}
    (hnew : rule.selector ∉ rules.map SelectorRule.selector) {selectors : StoredSet Selector}
    {stored : SelectorScope} (hinsert : scope.selectors.insert rule.selector = some selectors)
    (hstored : stored.recipients.Intact ∧ stored.recipients.values = rule.recipients) :
    RepresentsRules
      ⟨selectors, update scope.selectorScopes rule.selector stored⟩
      (rules ++ [rule]) := by
  obtain ⟨hintact, hvalues⟩ := h.intact.insert hinsert
  rw [h.selectors, if_neg hnew] at hvalues
  refine ⟨hintact, ?_, ?_, ?_, ?_⟩
  · rw [hvalues, List.map_append, List.map_singleton]
  · intro selector
    by_cases heq : selector = rule.selector
    · subst heq
      simp only [update_self]
      exact hstored.1
    · simp only [update_of_ne heq]
      exact h.recipientsIntact selector
  · intro other hother
    rcases List.mem_append.mp hother with hother | hother
    · have hne : other.selector ≠ rule.selector := by
        intro heq
        exact hnew (heq ▸ List.mem_map_of_mem hother)
      simp only [update_of_ne hne]
      exact h.listed other hother
    · obtain rfl := List.mem_singleton.mp hother
      simp only [update_self]
      exact hstored.2
  · intro selector hunlisted
    rw [List.map_append, List.mem_append, not_or, List.map_singleton,
      List.mem_singleton] at hunlisted
    simp only [update_of_ne hunlisted.2]
    exact h.unlisted selector hunlisted.1

theorem RepresentsRules.insertRules (hT4 : ctx.spec.isT4 = true) {rest : List SelectorRule}
    (h : RepresentsRules scope rules) (hvalid : ValidRules (rules ++ rest))
    (hinsert : TargetScope.insertRules ctx rest scope = .ok scope') :
    RepresentsRules scope' (rules ++ rest) := by
  induction rest generalizing scope rules with
  | nil =>
    obtain rfl := Except.ok.inj hinsert
    rw [List.append_nil]
    exact h
  | cons rule rest ih =>
    obtain ⟨selectors, hselectors, hinsert⟩ := except_bind_ok.mp hinsert
    obtain ⟨stored, hstore, hinsert⟩ := except_bind_ok.mp hinsert
    have hnew : rule.selector ∉ rules.map SelectorRule.selector := by
      have hnodup := hvalid.selectors
      rw [List.map_append, List.map_cons, List.nodup_append] at hnodup
      exact fun hmem => hnodup.2.2 _ hmem _ List.mem_cons_self rfl
    have hrecipients := hvalid.recipients rule (by simp)
    rw [List.append_cons] at hvalid ⊢
    exact ih (h.insertRule hnew (liftSet_ok.mp hselectors)
      (store_ok hT4 (h.unlisted _ hnew) hrecipients hstore)) hvalid hinsert

variable {row row' : KeyScope} {map : TargetMap}

/-- The tree after the scope of one target was replaced. -/
theorem RepresentsMap.setTarget (h : RepresentsMap row map) {entry : Option (List SelectorRule)}
    {targets : StoredSet Address} (hintact : targets.Intact)
    (hmembers : ∀ other, other ∈ targets.values ↔ update map target entry other ≠ none)
    (hscope : RepresentsRules scope (entry.getD [])) :
    RepresentsMap { row.setTarget target scope with targets := targets }
      (update map target entry) := by
  refine ⟨hintact, hmembers, fun other => ?_⟩
  unfold KeyScope.setTarget
  by_cases heq : other = target
  · subst heq
    simp only [update_self]
    exact hscope
  · simp only [update_of_ne heq]
    exact h.scopes other

theorem RepresentsMap.upsert (hT4 : ctx.spec.isT4 = true) {scope : CallScope}
    (h : RepresentsMap row map) (hvalid : ValidRules scope.selectorRules)
    (hupsert : row.upsert ctx scope = .ok row') : RepresentsMap row' (map.set scope) := by
  obtain ⟨_, -, hupsert⟩ := except_bind_ok.mp hupsert
  obtain ⟨targets, htargets, hupsert⟩ := except_bind_ok.mp hupsert
  obtain ⟨updated, hrules, hupsert⟩ := except_bind_ok.mp hupsert
  obtain rfl := Except.ok.inj hupsert
  obtain ⟨hintact, hvalues⟩ := h.intact.insert (liftSet_ok.mp htargets)
  refine h.setTarget hintact (fun other => ?_)
    ((h.scopes scope.target).clear.insertRules hT4 hvalid hrules)
  have hmember := h.members other
  rw [hvalues]
  by_cases heq : other = scope.target
  · subst heq
    simp only [update_self, ne_eq, reduceCtorEq, not_false_iff, iff_true]
    split
    · assumption
    · simp
  · rw [update_of_ne heq, ← hmember]
    split
    · rfl
    · simp [heq]

theorem RepresentsMap.upsertAll (hT4 : ctx.spec.isT4 = true) (h : RepresentsMap row map)
    (hvalid : ∀ scope ∈ scopes, ValidRules scope.selectorRules)
    (hupsert : KeyScope.upsertAll ctx scopes row = .ok row') :
    RepresentsMap row' (map.setAll scopes) := by
  induction scopes generalizing row map with
  | nil =>
    obtain rfl := Except.ok.inj hupsert
    exact h
  | cons scope rest ih =>
    obtain ⟨middle, hfirst, hrest⟩ := except_bind_ok.mp hupsert
    exact ih (h.upsert hT4 (hvalid scope List.mem_cons_self) hfirst)
      (fun other hother => hvalid other (List.mem_cons_of_mem _ hother)) hrest

theorem upsertAll_isScoped (hupsert : KeyScope.upsertAll ctx scopes row = .ok row') :
    row'.isScoped = row.isScoped := by
  induction scopes generalizing row with
  | nil =>
    obtain rfl := Except.ok.inj hupsert
    rfl
  | cons scope rest ih =>
    obtain ⟨middle, hfirst, hrest⟩ := except_bind_ok.mp hupsert
    obtain ⟨_, -, hfirst⟩ := except_bind_ok.mp hfirst
    obtain ⟨targets, -, hfirst⟩ := except_bind_ok.mp hfirst
    obtain ⟨updated, -, hfirst⟩ := except_bind_ok.mp hfirst
    obtain rfl := Except.ok.inj hfirst
    have hmode := ih hrest
    exact hmode

/-- Clearing the listed targets leaves nothing behind. -/
theorem RepresentsMap.clearAll (h : RepresentsMap row map) :
    RepresentsMap row.clearAll TargetMap.none := by
  have htargets : row.clearAll.targets = .empty := h.intact.delete
  refine ⟨?_, ?_, ?_⟩
  · rw [htargets]
    exact .empty
  · intro target
    rw [htargets]
    simp [StoredSet.empty, TargetMap.none]
  · intro target
    have hfold := foldl_update_nodup TargetScope.clear h.intact.nodup row.targetScopes target
    unfold KeyScope.clearAll
    simp only [hfold]
    split
    · exact (h.scopes target).clear
    · rename_i hunlisted
      have hnone : map target = none := not_not.mp fun hsome => hunlisted ((h.members _).mpr hsome)
      have hscope := h.scopes target
      rw [hnone] at hscope
      exact hscope

theorem RepresentsMap.removeTarget (h : RepresentsMap row map) :
    RepresentsMap (row.removeTarget target) (update map target none) := by
  obtain ⟨hintact, hremoved, hvalues⟩ := @StoredSet.Intact.remove _ _ _ target _ h.intact
  have hmembers : ∀ other, other ∈ (row.targets.remove target).2.values ↔
      update map target none other ≠ none := by
    intro other
    rw [hvalues]
    by_cases heq : other = target
    · simp [heq]
    · simp [heq, h.members other]
  unfold KeyScope.removeTarget
  simp only [hremoved, decide_eq_true_eq]
  split
  · exact h.setTarget hintact hmembers (h.scopes target).clear
  · rename_i habsent
    have hnone : map target = none := not_not.mp fun hsome => habsent ((h.members _).mpr hsome)
    refine ⟨hintact, hmembers, fun other => ?_⟩
    have hscope := h.scopes other
    by_cases heq : other = target
    · subst heq
      rw [hnone] at hscope
      simpa using hscope
    · simpa [heq] using hscope

theorem removeTarget_isScoped : (row.removeTarget target).isScoped = row.isScoped := by
  unfold KeyScope.removeTarget
  simp only
  split <;> rfl

theorem RepresentsMap.withFlag (h : RepresentsMap row map) (flag : Bool) :
    RepresentsMap { row with isScoped := flag } map :=
  ⟨h.intact, h.members, h.scopes⟩

variable {allowedCalls : Option (List CallScope)}

theorem RepresentsMap.replace (hT4 : ctx.spec.isT4 = true) (h : RepresentsMap row map)
    (hreplace : row.replace ctx allowedCalls = .ok row') :
    Represents row' (Policy.ofScopes allowedCalls) := by
  cases allowedCalls with
  | none =>
    obtain rfl := Except.ok.inj hreplace
    exact ⟨rfl, h.clearAll.withFlag false⟩
  | some scopes =>
    obtain ⟨_, hchecked, hupsert⟩ := except_bind_ok.mp hreplace
    have hvalid : ∀ scope ∈ scopes, ValidRules scope.selectorRules := by
      split at hchecked
      · rename_i hempty
        rw [hempty]
        exact fun _ hmem => absurd hmem List.not_mem_nil
      · exact validateCallScopes_ok hT4 hchecked
    exact ⟨upsertAll_isScoped hupsert, (h.clearAll.withFlag true).upsertAll hT4 hvalid hupsert⟩

/-! ## Reading the tree -/

variable {condition : Prop} {x : Except Error Unit}

theorem ite_error_ok [Decidable condition] {e : Error} :
    (if condition then .error e else x) = .ok () ↔ ¬ condition ∧ x = .ok () := by
  split
  · rename_i h
    simp [h]
  · rename_i h
    simp [h]

theorem ite_ok_ok [Decidable condition] :
    (if condition then .ok () else x) = .ok () ↔ condition ∨ x = .ok () := by
  split
  · rename_i h
    simp [h]
  · rename_i h
    simp [h]

variable {input : List UInt8}

/-- The check of the recipients, as the code makes it. -/
theorem recipients_check {recipients : StoredSet Address} (hintact : recipients.Intact) :
    (if recipients.values = [] then .ok ()
      else if input.length < 36 then .error (.keychain .callNotAllowed)
      else if ((input.drop 4).take 32 |>.take 12).any (· != 0) then
        .error (.keychain .callNotAllowed)
      else if recipients.contains (fromBigEndian (((input.drop 4).take 32).drop 12)) then .ok ()
      else .error (.keychain .callNotAllowed) : Except Error Unit) = .ok () ↔
      Policy.recipientAllowed recipients.values input := by
  rw [ite_ok_ok, ite_error_ok, ite_error_ok, ite_ok_ok, hintact.contains]
  unfold Policy.recipientAllowed
  simp only [Nat.not_lt, List.any_eq_true, bne_iff_ne, ne_eq, not_exists, not_and, not_not,
    decide_eq_true_eq, reduceCtorEq, or_false]

/-- The check of the selector, as the code makes it. -/
theorem rules_check (h : RepresentsRules scope rules) :
    (if scope.selectors.values = [] then .ok ()
      else if input.length < 4 then .error (.keychain .callNotAllowed)
      else if !scope.selectors.contains (fromBigEndian (input.take 4)) then
        .error (.keychain .callNotAllowed)
      else if (scope.selectorScopes (fromBigEndian (input.take 4))).recipients.values = [] then
        .ok ()
      else if input.length < 36 then .error (.keychain .callNotAllowed)
      else if ((input.drop 4).take 32 |>.take 12).any (· != 0) then
        .error (.keychain .callNotAllowed)
      else if (scope.selectorScopes (fromBigEndian (input.take 4))).recipients.contains
          (fromBigEndian (((input.drop 4).take 32).drop 12)) then .ok ()
      else .error (.keychain .callNotAllowed) : Except Error Unit) = .ok () ↔
      Policy.rulesAllow rules input := by
  rw [ite_ok_ok, ite_error_ok, ite_error_ok, recipients_check (h.recipientsIntact _),
    h.intact.contains, h.selectors]
  simp only [List.map_eq_nil_iff, Nat.not_lt, Bool.not_eq_true', decide_eq_false_iff_not, not_not,
    List.mem_map]
  refine or_congr Iff.rfl (and_congr_right fun _ => ?_)
  constructor
  · rintro ⟨⟨rule, hrule, hselector⟩, hallowed⟩
    rw [← hselector, h.listed rule hrule] at hallowed
    exact ⟨rule, hrule, hselector, hallowed⟩
  · rintro ⟨rule, hrule, hselector, hallowed⟩
    refine ⟨⟨rule, hrule, hselector⟩, ?_⟩
    rw [← hselector, h.listed rule hrule]
    exact hallowed

/-- The tree accepts what its policy accepts. -/
theorem Represents.validateCall {policy : Policy} (h : Represents row policy) (kind : TxKind)
    (input : List UInt8) : row.validateCall kind input = .ok () ↔ policy.Accepts kind input := by
  cases kind with
  | create => simp [KeyScope.validateCall, Policy.Accepts]
  | call target =>
    unfold KeyScope.validateCall
    simp only [h.mode]
    cases policy with
    | unrestricted => simp [Policy.isScoped, Policy.Accepts]
    | restricted map =>
      have hmember := h.tree.members target
      have hscope := h.tree.scopes target
      simp only [Policy.map] at hmember hscope
      simp only [Policy.isScoped, Bool.not_true, Bool.false_eq_true, if_false,
        h.tree.intact.contains, Policy.Accepts]
      rw [ite_error_ok, rules_check hscope]
      cases hentry : map target with
      | none | some => simp [hmember, hentry]

/-- The rules of a target are read back as they were written. -/
theorem RepresentsRules.read (h : RepresentsRules scope rules) :
    (scope.selectors.values.map fun selector =>
      (⟨selector, (scope.selectorScopes selector).recipients.values⟩ : SelectorRule)) =
      rules := by
  rw [h.selectors, List.map_map]
  refine (List.map_congr_left fun rule hrule => ?_).trans (List.map_id rules)
  simp only [comp_apply, h.listed rule hrule]
  rfl

theorem RepresentsMap.mem_read (h : RepresentsMap row map) {entry : CallScope} :
    entry ∈ row.read ↔ map entry.target = some entry.selectorRules := by
  unfold KeyScope.read
  rw [List.mem_map]
  constructor
  · rintro ⟨target, hmem, rfl⟩
    obtain ⟨rules, hrules⟩ := Option.ne_none_iff_exists'.mp ((h.members target).mp hmem)
    have hscope := h.scopes target
    simp only [hrules, hscope.read, Option.getD_some]
  · intro hrules
    have hscope := h.scopes entry.target
    rw [hrules] at hscope
    refine ⟨entry.target, (h.members _).mpr (by rw [hrules]; exact nofun), ?_⟩
    simp only [hscope.read, Option.getD_some]

theorem RepresentsMap.nodup_read (h : RepresentsMap row map) :
    (row.read.map CallScope.target).Nodup := by
  have htargets : row.read.map CallScope.target = row.targets.values := by
    unfold KeyScope.read
    rw [List.map_map]
    exact (List.map_congr_left fun _ _ => rfl).trans (List.map_id _)
  rw [htargets]
  exact h.intact.nodup

/-! ## Runs -/

section Run

variable [KeyHash]

/-- The calls on the scopes of one key, with the policy replayed beside them. -/
inductive ScopeRun (account keyId : Address) : Policy → KeychainState → Prop where
  | start {s : KeychainState} (fresh : s.keyScopes (spendingLimitKey account keyId) = .empty) :
      ScopeRun account keyId .unrestricted s
  | authorize {policy : Policy} {s s' : KeychainState} (run : ScopeRun account keyId policy s)
      (ctx : Context) (signatureType : SignatureType) (config : KeyRestrictions)
      (witness : Option B256) (fork : ctx.spec.isT4 = true)
      (ok : authorizeKey ctx account keyId signatureType config witness s = .ok () s') :
      ScopeRun account keyId (.authorize config) s'
  | set {policy : Policy} {s s' : KeychainState} (run : ScopeRun account keyId policy s)
      (ctx : Context) (scopes : List CallScope) (fork : ctx.spec.isT4 = true)
      (ok : setAllowedCalls ctx account keyId scopes s = .ok () s') :
      ScopeRun account keyId (policy.set scopes) s'
  | remove {policy : Policy} {s s' : KeychainState} (run : ScopeRun account keyId policy s)
      (ctx : Context) (target : Address) (fork : ctx.spec.isT4 = true)
      (ok : removeAllowedCalls ctx account keyId target s = .ok () s') :
      ScopeRun account keyId (policy.remove target) s'
  /-- Calls that do not touch the scopes of the key, failed ones among them. -/
  | elsewhere {policy : Policy} {s s' : KeychainState} (run : ScopeRun account keyId policy s)
      (same : s'.keyScopes (spendingLimitKey account keyId) =
        s.keyScopes (spendingLimitKey account keyId)) :
      ScopeRun account keyId policy s'

variable {policy : Policy} {config : KeyRestrictions}

omit [KeyHash] in
theorem allowedCallConfigs_ok (hT4 : ctx.spec.isT4 = true)
    (h : allowedCallConfigs ctx config = .ok allowedCalls) :
    allowedCalls = if config.allowAnyCalls then none else some config.allowedCalls := by
  unfold allowedCallConfigs at h
  rw [if_pos (TempoHardfork.isT3_of_isT4 hT4)] at h
  split at h
  · exact nomatch h
  · split at h
    · rename_i hany
      rw [if_pos hany]
      split at h
      · exact nomatch h
      · exact (Except.ok.inj h).symm
    · rename_i hlisted
      rw [if_neg hlisted]
      exact (Except.ok.inj h).symm

/-- A successful authorization replaces the whole tree. -/
theorem authorizeKey_scope (hT4 : ctx.spec.isT4 = true) {signatureType : SignatureType}
    {witness : Option B256}
    (h : authorizeKey ctx account keyId signatureType config witness s = .ok () s') :
    (s.keyScopes (spendingLimitKey account keyId)).replace ctx
      (if config.allowAnyCalls then none else some config.allowedCalls) =
      .ok (s'.keyScopes (spendingLimitKey account keyId)) := by
  obtain ⟨-, -, -, -, -, -, stored, allowedCalls, hallowed, hrest⟩ := authorizeKeyInternal_ok h
  obtain rfl := allowedCallConfigs_ok hT4 hallowed
  obtain ⟨-, hrest⟩ | ⟨hcontra, -⟩ := onlyIf_ok.mp hrest
  · obtain ⟨_, t, hlimits, hrest⟩ := bind_ok.mp hrest
    have hkeeps : Keeps (fun t : KeychainState => t.keyScopes = s.keyScopes)
        (writeLimits ctx (spendingLimitKey account keyId)
          (if config.enforceLimits then config.limits else [])) :=
      keeps_writeLimits fun _ _ _ hs => hs
    have hkept := hkeeps.ok (by rfl) hlimits
    obtain ⟨-, hrest⟩ | ⟨hcontra, -⟩ := onlyIf_ok.mp hrest
    · unfold replaceAllowedCalls at hrest
      obtain ⟨row, hreplaced, hrest⟩ := fromExcept_bind_ok.mp hrest
      obtain rfl := modify_ok.mp hrest
      rw [hkept] at hreplaced
      rw [hreplaced]
      simp [KeychainState.setScope]
    · exact absurd (TempoHardfork.isT3_of_isT4 hT4) hcontra
  · exact absurd rfl hcontra

/-- The stored tree represents the replayed policy throughout. -/
theorem ScopeRun.represents (run : ScopeRun account keyId policy s) :
    Represents (s.keyScopes (spendingLimitKey account keyId)) policy := by
  induction run with
  | start fresh =>
    rw [fresh]
    exact ⟨rfl, .empty, fun _ => by simp [KeyScope.empty, StoredSet.empty, Policy.map,
      TargetMap.none], fun _ => RepresentsRules.empty⟩
  | authorize run ctx signatureType config witness fork ok ih =>
    exact ih.tree.replace fork (authorizeKey_scope fork ok)
  | set run ctx scopes fork ok ih =>
    obtain ⟨-, hvalid, row, hupsert, rfl⟩ := setAllowedCalls_ok ok
    have htree := ih.tree.upsertAll fork (validateCallScopes_ok fork hvalid) hupsert
    simp only [KeychainState.setScope, update_self]
    exact ⟨rfl, htree.withFlag true⟩
  | @remove policy s s' run ctx target fork ok ih =>
    obtain ⟨-, rfl⟩ := removeAllowedCalls_ok ok
    simp only [KeychainState.setScope, update_self, ih.mode]
    cases policy with
    | unrestricted => exact ih
    | restricted map => exact ⟨(removeTarget_isScoped).trans ih.mode, ih.tree.removeTarget⟩
  | elsewhere run same ih =>
    rw [same]
    exact ih

/-- After every run a transaction of the key is accepted exactly when the replayed policy
accepts it.  While the key is active `get_allowed_calls` returns exactly the map of the
policy; for a missing, revoked or expired key it returns a scope without targets. -/
theorem scopeRun_refines_policy (hkey : keyId ≠ 0) (run : ScopeRun account keyId policy s) :
    (∀ ctx kind input, ctx.spec.isT4 = true →
      (validateCallScopeForTransaction ctx s account keyId kind input = .ok () ↔
        policy.Accepts kind input)) ∧
      ∀ ctx,
        (isActiveKey s account keyId ctx.now = true →
          (getAllowedCalls ctx s account keyId).isScoped = policy.isScoped ∧
            ((getAllowedCalls ctx s account keyId).scopes.map CallScope.target).Nodup ∧
            ∀ target rules, ⟨target, rules⟩ ∈ (getAllowedCalls ctx s account keyId).scopes ↔
              policy.map target = some rules) ∧
        (isActiveKey s account keyId ctx.now = false →
          getAllowedCalls ctx s account keyId = ⟨true, []⟩) := by
  have hrow := run.represents
  refine ⟨?_, fun ctx => ⟨?_, ?_⟩⟩
  · intro ctx kind input hT4
    unfold validateCallScopeForTransaction
    rw [if_neg fun hskip => hskip.elim hkey fun hT3 => by
      rw [TempoHardfork.isT3_of_isT4 hT4] at hT3
      exact Bool.noConfusion hT3]
    exact hrow.validateCall kind input
  · intro hactive
    have hlive := (isActiveKey_iff.mp hactive)
    have hread : getAllowedCalls ctx s account keyId =
        if !policy.isScoped then ⟨false, []⟩
        else ⟨true, (s.keyScopes (spendingLimitKey account keyId)).read⟩ := by
      unfold getAllowedCalls
      rw [if_neg hkey]
      simp only [if_neg hlive, hrow.mode]
    rw [hread]
    cases policy with
    | unrestricted => simp [Policy.isScoped, Policy.map, TargetMap.none]
    | restricted map => exact ⟨rfl, hrow.tree.nodup_read, fun _ _ => hrow.tree.mem_read⟩
  · intro hinactive
    unfold getAllowedCalls
    rw [if_neg hkey]
    have hdead := isActiveKey_iff.not.mp (by rw [hinactive]; exact Bool.false_ne_true)
    simp only [if_pos (not_not.mp hdead)]

end Run

/-- A T4 block at a time. -/
def scopeBlock (timestamp : ℕ) : Context := ⟨.T4, timestamp, fun _ => false⟩

/-- A key that expires at twenty and may call target nine only. -/
def scopedConfig : KeyRestrictions := ⟨20, false, [], false, [⟨9, []⟩]⟩

/-- A property of the state that a call leads to. -/
def leadsTo (result : EStateM.Result Error KeychainState Unit) (check : KeychainState → Bool) :
    Bool :=
  match result with
  | .ok _ s => check s
  | .error _ _ => false

theorem leadsTo_iff {result : EStateM.Result Error KeychainState Unit}
    {check : KeychainState → Bool} (h : leadsTo result check = true) :
    ∃ s, result = .ok () s ∧ check s = true := by
  cases result with
  | ok _ s => exact ⟨s, rfl, h⟩
  | error _ _ => exact nomatch h

/-- Transfers of pathUSD to one recipient. -/
def transferScope (recipient : Address) : CallScope :=
  ⟨pathUsdAddress, [⟨0xa9059cbb, [recipient]⟩]⟩

/-- The calldata of a transfer. -/
def transferInput (recipient : UInt8) : List UInt8 :=
  [0xa9, 0x05, 0x9c, 0xbb] ++ List.replicate 31 0 ++ [recipient]

/-- Target nine is allowed and removed, and the recipient of transfers is set and replaced. -/
theorem scopeRun_refines_policy_replaced :
    letI := KeyHash.concat
    ∃ s, ScopeRun 1 7 ((((Policy.authorize scopedConfig).set [transferScope 5]).set
        [transferScope 6]).remove 9) s ∧
      transferScope 6 ∈ (getAllowedCalls (scopeBlock 15) s 1 7).scopes ∧
      validateCallScopeForTransaction (scopeBlock 15) s 1 7 (.call pathUsdAddress)
        (transferInput 6) = .ok () ∧
      validateCallScopeForTransaction (scopeBlock 15) s 1 7 (.call pathUsdAddress)
        (transferInput 5) ≠ .ok () ∧
      validateCallScopeForTransaction (scopeBlock 15) s 1 7 (.call 9) [] ≠ .ok () := by
  let := KeyHash.concat
  have hrun : leadsTo ((do
      authorizeKey (scopeBlock 10) 1 7 .p256 scopedConfig none
      setAllowedCalls (scopeBlock 10) 1 7 [transferScope 5]
      setAllowedCalls (scopeBlock 10) 1 7 [transferScope 6]
      removeAllowedCalls (scopeBlock 10) 1 7 9 : KeychainM Unit) (.fresh 1))
      (fun s => isActiveKey s 1 7 15) = true := by
    decide +kernel
  obtain ⟨s, hcalls, hactive⟩ := leadsTo_iff hrun
  obtain ⟨_, s₁, hauthorize, hcalls⟩ := bind_ok.mp hcalls
  obtain ⟨_, s₂, hset, hcalls⟩ := bind_ok.mp hcalls
  obtain ⟨_, s₃, hreplace, hremove⟩ := bind_ok.mp hcalls
  have hreach : ScopeRun 1 7 _ s :=
    .remove (.set (.set (.authorize (.start rfl) (scopeBlock 10) .p256 scopedConfig none rfl
      hauthorize) (scopeBlock 10) _ rfl hset) (scopeBlock 10) _ rfl hreplace) (scopeBlock 10) 9
      rfl hremove
  obtain ⟨haccepts, hread⟩ := scopeRun_refines_policy (by decide) hreach
  refine ⟨s, hreach, (((hread (scopeBlock 15)).1 hactive).2.2 _ _).mpr rfl,
    (haccepts (scopeBlock 15) _ _ rfl).mpr ?_, fun hcall => ?_, fun hcall => ?_⟩
  · exact ⟨_, rfl, .inr ⟨by decide, _, List.mem_singleton_self _, by decide,
      .inr ⟨by decide, by decide +kernel, by decide⟩⟩⟩
  · obtain ⟨_, hmap, hrules⟩ := (haccepts (scopeBlock 15) _ _ rfl).mp hcall
    obtain rfl := Option.some.inj hmap
    revert hrules
    unfold Policy.rulesAllow Policy.recipientAllowed
    decide +kernel
  · obtain ⟨_, hmap, -⟩ := (haccepts (scopeBlock 15) _ _ rfl).mp hcall
    exact nomatch hmap

/-- Once the key has expired they are not, although the policy is the same. -/
theorem getAllowedCalls_expired_hides_policy :
    letI := KeyHash.concat
    ∃ s, ScopeRun 1 7 (.authorize scopedConfig) s ∧
      (Policy.authorize scopedConfig).map 9 = some [] ∧
      (getAllowedCalls (scopeBlock 30) s 1 7).scopes = [] := by
  let := KeyHash.concat
  have hrun : leadsTo (authorizeKey (scopeBlock 10) 1 7 .p256 scopedConfig none (.fresh 1))
      (fun s => decide ((getAllowedCalls (scopeBlock 30) s 1 7).scopes = [])) = true := by
    decide +kernel
  obtain ⟨s, hauthorize, hread⟩ := leadsTo_iff hrun
  exact ⟨s, .authorize (.start rfl) (scopeBlock 10) .p256 scopedConfig none rfl hauthorize, rfl,
    of_decide_eq_true hread⟩

end Monotempo.Keychain
