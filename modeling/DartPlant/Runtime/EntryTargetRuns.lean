import DartPlant.Runtime.EntryTargetLaws

/-! # Runs of the registry of entry targets

A target lies in its payload and ends with it, whatever evidence comes in which order; a payload is
exchanged only while it is provisional and unhooked; and the registry finds every live target and
payload again unless the image was erased since (`entry_target_registry`).
-/

namespace DartPlant
open KeyedTable EntryTargetRegistry DartEntryTargetRegistry List

/-! ## Steps and runs -/

section Runs
variable {registry : EntryTargetRegistry} {action : RegistryAction}
  {actions : List RegistryAction}

theorem withTarget_spec {id : TargetId} {change : SharedEntryTarget → SharedEntryTarget}
    (hinv : RegistryInvariant registry)
    (hchange : ∀ target : SharedEntryTarget, (change target).key = target.key ∧
      (change target).codeSize = target.codeSize ∧ (change target).payload = target.payload ∧
        (target.contents.isShared = true → (change target).contents.isShared = true)) :
    RegistryInvariant (registry.withTarget id change) ∧
      Keeps registry (registry.withTarget id change) := by
  unfold withTarget
  split
  · cases hget : registry.targets[id]? with
    | none =>
      have hidle : registry.targets.modify id change = registry.targets := by
        rw [modify_eq_set_getElem?, hget]
        rfl
      rw [hidle]
      exact ⟨hinv, Keeps.refl⟩
    | some target =>
      have hset : { registry with targets := registry.targets.modify id change } =
          registry.setTarget id (change target) := by
        rw [modify_eq_set_getElem?, hget]
        rfl
      rw [hset]
      obtain ⟨hkey, hsize, hpayload, hshared⟩ := hchange target
      obtain ⟨payload, hat, hfits⟩ := hinv.fits id target hget
      obtain ⟨howner, hentry⟩ := (ImageAddressKey.mk.injEq ..).mp hkey
      refine ⟨hinv.setTarget hget hkey ⟨payload, by rw [hpayload]; exact hat, ?_⟩,
        setTarget_keeps hget hkey hshared (Or.inl hpayload)⟩
      refine ⟨hfits.owner.trans howner.symm, ?_, ?_, ?_⟩
      · rw [hentry]
        exact hfits.start
      · rw [hentry, hsize]
        exact hfits.stop
      · rw [hsize]
        exact hfits.size
  · exact ⟨hinv, Keeps.refl⟩

theorem addAlias_frame (target : SharedEntryTarget) (identity : DartMethodIdentity) :
    (target.addAlias identity).key = target.key ∧
      (target.addAlias identity).codeSize = target.codeSize ∧
      (target.addAlias identity).payload = target.payload := by
  have hadded : (target.withAlias identity).key = target.key ∧
      (target.withAlias identity).codeSize = target.codeSize ∧
      (target.withAlias identity).payload = target.payload := by
    unfold SharedEntryTarget.withAlias
    split <;> exact ⟨rfl, rfl, rfl⟩
  unfold SharedEntryTarget.addAlias
  dsimp only
  split
  · exact hadded
  · exact hadded

theorem handles_keeps {after : EntryTargetRegistry} (htargets : after.targets = registry.targets)
    (hpayloads : after.payloads = registry.payloads)
    (htargetTable : after.targetTable = registry.targetTable)
    (hpayloadTable : after.payloadTable = registry.payloadTable)
    (hlive : ∀ id, after.liveTarget id = true → registry.liveTarget id = true)
    (hlive' : ∀ id, after.livePayload id = true → registry.livePayload id = true) :
    Keeps registry after where
  targets id target hget := ⟨target, by rw [htargets]; exact hget, rfl, fun hshared => hshared⟩
  payloads id payload hget := ⟨payload, by rw [hpayloads]; exact hget, SameBody.refl⟩
  goodTarget id hgood target hget := by
    rw [htargets] at hget
    rw [htargetTable]
    exact (hgood target hget).imp_right fun hdead => dead_after hdead (hlive id)
  goodPayload id hgood payload hget := by
    rw [hpayloads] at hget
    rw [hpayloadTable]
    exact (hgood payload hget).imp_right fun hdead => dead_after hdead (hlive' id)

theorem RegistryInvariant.step (hinv : RegistryInvariant registry) (action : RegistryAction) :
    RegistryInvariant (registry.step action) := by
  cases action with
  | getOrCreate request => exact (getOrCreate_spec hinv).1
  | addAlias id identity =>
    refine (withTarget_spec hinv fun target => ?_).1
    obtain ⟨hkey, hsize, hpayload⟩ := addAlias_frame target identity
    exact ⟨hkey, hsize, hpayload, addAlias_shared⟩
  | bindHookRecord id hook | unbindHookRecord id hook =>
    refine (withTarget_spec hinv fun target => ?_).1
    exact ⟨rfl, rfl, rfl, fun hshared => hshared⟩
  | eraseImage imageId epoch =>
    refine ⟨hinv.handles, hinv.payloadHandles, hinv.fits, fun entry hentry => ?_,
      fun entry hentry => ?_, hinv.targetsKeyed.filter _, hinv.payloadsKeyed.filter _⟩
    · exact hinv.targetKeys entry (mem_filter.mp hentry).1
    · exact hinv.payloadKeys entry (mem_filter.mp hentry).1
  | copyHandle id =>
    rw [EntryTargetRegistry.step]
    split
    next hlive => exact hinv.hold (hinv.handles id (liveTarget_iff.mp hlive))
    · exact hinv
  | dropHandle id =>
    exact ⟨fun other hother => hinv.handles other (mem_of_mem_erase hother),
      hinv.payloadHandles, hinv.fits, hinv.targetKeys, hinv.payloadKeys, hinv.targetsKeyed,
      hinv.payloadsKeyed⟩
  | retainPayload id =>
    rw [EntryTargetRegistry.step]
    split
    next target htarget =>
      split at htarget
      · obtain ⟨payload, hpayload, -⟩ := hinv.fits id target htarget
        refine ⟨hinv.handles, fun other hother => ?_, hinv.fits, hinv.targetKeys,
          hinv.payloadKeys, hinv.targetsKeyed, hinv.payloadsKeyed⟩
        rcases mem_cons.mp hother with rfl | hother
        · exact (List.getElem?_eq_some_iff.mp hpayload).1
        · exact hinv.payloadHandles other hother
      · cases htarget
    · exact hinv
  | dropPayload id =>
    exact ⟨hinv.handles, fun other hother =>
      hinv.payloadHandles other (mem_of_mem_erase hother), hinv.fits, hinv.targetKeys,
      hinv.payloadKeys, hinv.targetsKeyed, hinv.payloadsKeyed⟩

/-- Every action but an erasure keeps what the registry finds. -/
theorem step_keeps (hinv : RegistryInvariant registry)
    (herase : ∀ imageId epoch, action ≠ .eraseImage imageId epoch) :
    Keeps registry (registry.step action) := by
  cases action with
  | getOrCreate request => exact (getOrCreate_spec hinv).2
  | addAlias id identity =>
    refine (withTarget_spec hinv fun target => ?_).2
    obtain ⟨hkey, hsize, hpayload⟩ := addAlias_frame target identity
    exact ⟨hkey, hsize, hpayload, addAlias_shared⟩
  | bindHookRecord id hook | unbindHookRecord id hook =>
    refine (withTarget_spec hinv fun target => ?_).2
    exact ⟨rfl, rfl, rfl, fun hshared => hshared⟩
  | eraseImage imageId epoch => exact absurd rfl (herase imageId epoch)
  | copyHandle id =>
    rw [EntryTargetRegistry.step]
    split
    next hlive => exact hold_keeps (liveTarget_iff.mp hlive)
    · exact Keeps.refl
  | dropHandle id =>
    refine handles_keeps rfl rfl rfl rfl (fun other hother => ?_) fun other hother => ?_
    · rw [liveTarget_iff] at hother ⊢
      exact mem_of_mem_erase hother
    · rw [livePayload_iff] at hother ⊢
      refine hother.imp_right ?_
      rintro ⟨held, hheld, target, hat⟩
      exact ⟨held, mem_of_mem_erase hheld, target, hat⟩
  | retainPayload id =>
    rw [EntryTargetRegistry.step]
    split
    next target htarget =>
      split at htarget
      next hlive =>
        refine handles_keeps rfl rfl rfl rfl (fun _ hother => hother) fun other hother => ?_
        rw [livePayload_iff] at hother ⊢
        rcases hother with hheld | hheld
        · rcases mem_cons.mp hheld with rfl | hheld
          · exact Or.inr ⟨id, liveTarget_iff.mp hlive, target, htarget, rfl⟩
          · exact Or.inl hheld
        · exact Or.inr hheld
      · cases htarget
    · exact Keeps.refl
  | dropPayload id =>
    refine handles_keeps rfl rfl rfl rfl (fun _ hother => hother) fun other hother => ?_
    rw [livePayload_iff] at hother ⊢
    exact hother.imp_left mem_of_mem_erase

/-- The action takes the entries of this owner's image out of the tables. -/
def RegistryAction.Erases (action : RegistryAction) (key : ImageAddressKey) : Prop :=
  ∃ imageId epoch, action = .eraseImage imageId epoch ∧
    matchesImage imageId epoch key = true

/-- An erasure keeps what it is not about. -/
theorem eraseImage_good {imageId : RuntimeImageId} {epoch : RuntimeImageIncarnationEpoch}
    {id : TargetId} {target : SharedEntryTarget} (hget : registry.targets[id]? = some target)
    (hgood : GoodTarget registry id)
    (hother : matchesImage imageId epoch target.key = false) :
    GoodTarget (registry.eraseImage imageId epoch) id := by
  intro found hfound
  obtain rfl := Option.some.inj (hget.symm.trans hfound)
  refine (hgood target hget).imp_left fun hmem => mem_filter.mpr ⟨hmem, ?_⟩
  rw [hother]
  rfl

theorem eraseImage_goodPayload {imageId : RuntimeImageId} {epoch : RuntimeImageIncarnationEpoch}
    {id : PayloadId} {payload : RegisteredPayload} (hget : registry.payloads[id]? = some payload)
    (hgood : GoodPayload registry id)
    (hother : matchesImage imageId epoch payload.key = false) :
    GoodPayload (registry.eraseImage imageId epoch) id := by
  intro found hfound
  obtain rfl := Option.some.inj (hget.symm.trans hfound)
  refine (hgood payload hget).imp_left fun hmem => mem_filter.mpr ⟨hmem, ?_⟩
  rw [hother]
  rfl

/-- The image of the target was erased when the target was already there. -/
def DetachedTarget (actions : List RegistryAction) (id : TargetId) : Prop :=
  ∃ before action after target, actions = before ++ action :: after ∧
    (registryRun before).targets[id]? = some target ∧ action.Erases target.key

def DetachedPayload (actions : List RegistryAction) (id : PayloadId) : Prop :=
  ∃ before action after payload, actions = before ++ action :: after ∧
    (registryRun before).payloads[id]? = some payload ∧ action.Erases payload.key

theorem registryRun_concat : registryRun (actions ++ [action]) =
    (registryRun actions).step action := by
  rw [registryRun, foldl_append]
  rfl

/-- What is live is registered, unless it was detached. -/
theorem run_good (actions : List RegistryAction) : RegistryInvariant (registryRun actions) ∧
    (∀ id, GoodTarget (registryRun actions) id ∨ DetachedTarget actions id) ∧
      ∀ id, GoodPayload (registryRun actions) id ∨ DetachedPayload actions id := by
  induction actions using List.reverseRecOn with
  | nil =>
    refine ⟨⟨nofun, nofun, nofun, nofun, nofun, nodup_nil, nodup_nil⟩,
      fun id => Or.inl nofun, fun id => Or.inl nofun⟩
  | append_singleton actions action ih =>
    obtain ⟨hinv, htargets, hpayloads⟩ := ih
    rw [registryRun_concat]
    have hdetached : ∀ {id : TargetId}, DetachedTarget actions id →
        DetachedTarget (actions ++ [action]) id := by
      rintro id ⟨before, erasure, after, target, rfl, hget, herases⟩
      exact ⟨before, erasure, after ++ [action], target, by simp, hget, herases⟩
    have hdetached' : ∀ {id : PayloadId}, DetachedPayload actions id →
        DetachedPayload (actions ++ [action]) id := by
      rintro id ⟨before, erasure, after, payload, rfl, hget, herases⟩
      exact ⟨before, erasure, after ++ [action], payload, by simp, hget, herases⟩
    refine ⟨hinv.step action, ?_, ?_⟩
    · intro id
      rcases htargets id with hgood | hgone
      on_goal 2 => exact Or.inr (hdetached hgone)
      by_cases herase : ∀ imageId epoch, action ≠ .eraseImage imageId epoch
      · exact Or.inl ((step_keeps hinv herase).goodTarget id hgood)
      · obtain ⟨imageId, epoch, rfl⟩ : ∃ imageId epoch, action = .eraseImage imageId epoch := by
          simpa only [ne_eq, not_forall, not_not] using herase
        cases hget : (registryRun actions).targets[id]? with
        | none => exact Or.inl fun target hsome => absurd (hget.symm.trans hsome) nofun
        | some target =>
          cases hmatch : matchesImage imageId epoch target.key with
          | false => exact Or.inl (eraseImage_good hget hgood hmatch)
          | true => exact Or.inr ⟨actions, _, [], target, rfl, hget, imageId, epoch, rfl, hmatch⟩
    · intro id
      rcases hpayloads id with hgood | hgone
      on_goal 2 => exact Or.inr (hdetached' hgone)
      by_cases herase : ∀ imageId epoch, action ≠ .eraseImage imageId epoch
      · exact Or.inl ((step_keeps hinv herase).goodPayload id hgood)
      · obtain ⟨imageId, epoch, rfl⟩ : ∃ imageId epoch, action = .eraseImage imageId epoch := by
          simpa only [ne_eq, not_forall, not_not] using herase
        cases hget : (registryRun actions).payloads[id]? with
        | none => exact Or.inl fun payload hsome => absurd (hget.symm.trans hsome) nofun
        | some payload =>
          cases hmatch : matchesImage imageId epoch payload.key with
          | false => exact Or.inl (eraseImage_goodPayload hget hgood hmatch)
          | true => exact Or.inr ⟨actions, _, [], payload, rfl, hget, imageId, epoch, rfl, hmatch⟩

end Runs

/-! ## Payloads of targets -/

/-- The payload of a target is exchanged only while the target is unhooked and the payload is
provisional. -/
def KeepsPayloads (before after : EntryTargetRegistry) : Prop :=
  ∀ (id : TargetId) target, before.targets[id]? = some target →
    ∃ target', after.targets[id]? = some target' ∧ (target'.payload = target.payload ∨
      target.hookRecord = none ∧ ∃ payload, before.payloads[target.payload]? = some payload ∧
        payload.exactIdentity = false)

section Payloads
variable {registry after : EntryTargetRegistry} {request : EntryTargetRequest}
  {range : PayloadRange} {id : TargetId} {target target' : SharedEntryTarget}

theorem keepsPayloads_of_targets (h : after.targets = registry.targets) :
    KeepsPayloads registry after :=
  fun _ target hget => ⟨target, by rw [h]; exact hget, Or.inl rfl⟩

theorem keepsPayloads_set (hget : registry.targets[id]? = some target)
    (h : after.targets = registry.targets.set id target')
    (hpayload : target'.payload = target.payload ∨ target.hookRecord = none ∧
      ∃ payload, registry.payloads[target.payload]? = some payload ∧
        payload.exactIdentity = false) : KeepsPayloads registry after := by
  intro other found hfound
  by_cases heq : id = other
  · subst heq
    obtain rfl := Option.some.inj (hget.symm.trans hfound)
    refine ⟨target', ?_, hpayload⟩
    rw [h, List.getElem?_set_self (List.getElem?_eq_some_iff.mp hget).1]
  · exact ⟨found, by rw [h, List.getElem?_set_ne heq]; exact hfound, Or.inl rfl⟩

theorem mergeEvidence_targets
    (h : registry.mergeEvidence id target request = some after) :
    after.targets = registry.targets.set id (target.withEvidence request) := by
  unfold mergeEvidence at h
  split at h
  · cases h
  · rw [← Option.some.inj h]
    rfl

theorem updateTarget_payloads (hinv : RegistryInvariant registry)
    (hget : registry.targets[id]? = some target) :
    KeepsPayloads registry (registry.updateTarget request range id target).2 := by
  unfold updateTarget
  split
  · cases hmerge : registry.mergeEvidence id target request with
    | none => exact keepsPayloads_of_targets rfl
    | some merged =>
      have htargets := mergeEvidence_targets hmerge
      exact keepsPayloads_set hget htargets (Or.inl rfl)
  obtain ⟨payload, hpayload, -⟩ := hinv.fits id target hget
  rw [hpayload]
  dsimp only
  split
  · split
    · exact keepsPayloads_of_targets rfl
    next hopen =>
    cases hfind : registry.findOrCreatePayload range request.codeObject true with
    | mk found between =>
      have hsame := (findOrCreatePayload_spec hinv hfind).1
      cases found with
      | none => exact keepsPayloads_of_targets hsame.targets
      | some replacement =>
        dsimp only
        cases hmerge : between.mergeEvidenceAndUpgradePayload id target request replacement with
        | none => exact keepsPayloads_of_targets hsame.targets
        | some merged =>
          have htargets : merged.targets = registry.targets.set id
              ((target.withEvidence request).withPayload replacement) := by
            unfold mergeEvidenceAndUpgradePayload at hmerge
            split at hmerge
            · cases hmerge
            · rw [← Option.some.inj hmerge, ← hsame.targets]
              rfl
          obtain ⟨hexact, hhook⟩ := not_or.mp hopen
          refine keepsPayloads_set hget htargets (Or.inr ⟨?_, payload, hpayload, ?_⟩)
          · exact Option.not_isSome_iff_eq_none.mp hhook
          · exact Bool.eq_false_iff.mpr hexact
  · cases hmerge : registry.mergeEvidence id target request with
    | none => exact keepsPayloads_of_targets rfl
    | some merged =>
      have htargets := mergeEvidence_targets hmerge
      exact keepsPayloads_set hget htargets (Or.inl rfl)

theorem getOrCreate_payloads (hinv : RegistryInvariant registry) :
    KeepsPayloads registry (registry.getOrCreate request).2 := by
  unfold getOrCreate
  cases request.range with
  | none => exact keepsPayloads_of_targets rfl
  | some range =>
    dsimp only
    cases hlock : registry.lockTarget ⟨range.owner, request.entry⟩ with
    | some locked => exact updateTarget_payloads hinv (lockTarget_some hinv hlock).2.1
    | none =>
      dsimp only
      cases hfind : registry.findOrCreatePayload range request.codeObject range.explicit with
      | mk found between =>
        have hsame := (findOrCreatePayload_spec hinv hfind).1
        cases found with
        | none => exact keepsPayloads_of_targets hsame.targets
        | some payload =>
          intro other found hfound
          refine ⟨found, ?_, Or.inl rfl⟩
          have hbound := (List.getElem?_eq_some_iff.mp hfound).1
          rw [← hsame.targets] at hfound hbound
          exact (List.getElem?_append_left hbound).trans hfound

theorem withTarget_payloads {change : SharedEntryTarget → SharedEntryTarget}
    (hchange : ∀ target : SharedEntryTarget, (change target).payload = target.payload) :
    KeepsPayloads registry (registry.withTarget id change) := by
  unfold withTarget
  split
  · intro other found hfound
    refine ⟨if id = other then change found else found, ?_, Or.inl ?_⟩
    · dsimp only
      rw [List.getElem?_modify, hfound]
      rfl
    · split
      · exact hchange found
      · rfl
  · exact keepsPayloads_of_targets rfl

theorem step_payloads (hinv : RegistryInvariant registry) (action : RegistryAction) :
    KeepsPayloads registry (registry.step action) := by
  cases action with
  | getOrCreate request => exact getOrCreate_payloads hinv
  | addAlias id identity =>
    refine withTarget_payloads fun target => ?_
    exact (addAlias_frame target identity).2.2
  | bindHookRecord id hook | unbindHookRecord id hook =>
    refine withTarget_payloads fun target => ?_
    rfl
  | eraseImage imageId epoch | dropHandle id | dropPayload id => exact keepsPayloads_of_targets rfl
  | copyHandle id | retainPayload id =>
    rw [EntryTargetRegistry.step]
    split <;> exact keepsPayloads_of_targets rfl

end Payloads

/-! ## What a run guarantees -/

/-- What no action undoes: a target's key and that it is shared, a payload's range, and which payload
a target has once that payload is exact. -/
structure Stays (before after : EntryTargetRegistry) : Prop where
  shared : ∀ (id : TargetId) target, before.targets[id]? = some target →
    target.contents.isShared = true → ∃ target', after.targets[id]? = some target' ∧
      target'.contents.isShared = true
  exact : ∀ (id : TargetId) target payload, before.targets[id]? = some target →
    before.payloads[target.payload]? = some payload → payload.exactIdentity = true →
      ∃ target' payload', after.targets[id]? = some target' ∧ target'.payload = target.payload ∧
        after.payloads[target.payload]? = some payload' ∧ payload'.exactIdentity = true

section Guarantees
variable {registry : EntryTargetRegistry}

theorem step_stays (hinv : RegistryInvariant registry) (action : RegistryAction) :
    Stays registry (registry.step action) := by
  have hbodies : (∀ (id : TargetId) target, registry.targets[id]? = some target →
      ∃ target', (registry.step action).targets[id]? = some target' ∧ target'.key = target.key ∧
        (target.contents.isShared = true → target'.contents.isShared = true)) ∧
      ∀ (id : PayloadId) payload, registry.payloads[id]? = some payload →
        ∃ payload', (registry.step action).payloads[id]? = some payload' ∧
          SameBody payload payload' := by
    by_cases herase : ∀ imageId epoch, action ≠ .eraseImage imageId epoch
    · have hkeeps := step_keeps hinv herase
      exact ⟨hkeeps.targets, hkeeps.payloads⟩
    · obtain ⟨imageId, epoch, rfl⟩ : ∃ imageId epoch, action = .eraseImage imageId epoch := by
        simpa only [ne_eq, not_forall, not_not] using herase
      exact ⟨Keeps.refl.targets, Keeps.refl.payloads⟩
  refine ⟨fun id target hget hshared => ?_, fun id target payload hget hpayload hexact => ?_⟩
  · obtain ⟨target', hget', -, hkept⟩ := hbodies.1 id target hget
    exact ⟨target', hget', hkept hshared⟩
  · obtain ⟨payload', hpayload', hsame⟩ := hbodies.2 _ payload hpayload
    obtain ⟨target', hget', hkept⟩ := step_payloads hinv action id target hget
    refine ⟨target', payload', hget', hkept.resolve_right ?_, hpayload', hsame.exactIdentity hexact⟩
    rintro ⟨-, found, hfound, hopen⟩
    obtain rfl := Option.some.inj (hpayload.symm.trans hfound)
    rw [hexact] at hopen
    cases hopen

theorem run_stays (actions later : List RegistryAction) :
    Stays (registryRun actions) (registryRun (actions ++ later)) := by
  induction later using List.reverseRecOn with
  | nil =>
    rw [append_nil]
    exact ⟨fun id target hget hshared => ⟨target, hget, hshared⟩,
      fun id target payload hget hpayload hexact =>
        ⟨target, payload, hget, rfl, hpayload, hexact⟩⟩
  | append_singleton later action ih =>
    rw [← append_assoc, registryRun_concat]
    have hstep := step_stays (run_good (actions ++ later)).1 action
    refine ⟨fun id target hget hshared => ?_, fun id target payload hget hpayload hexact => ?_⟩
    · obtain ⟨target', hget', hshared'⟩ := ih.shared id target hget hshared
      exact hstep.shared id target' hget' hshared'
    · obtain ⟨target', payload', hget', hsame, hpayload', hexact'⟩ :=
        ih.exact id target payload hget hpayload hexact
      rw [← hsame] at hpayload' ⊢
      exact hstep.exact id target' payload' hget' hpayload' hexact'

end Guarantees

/-- Two live targets of one owner and entry, of which no erasure took one out of the tables, are one
target. -/
theorem oneTarget {actions : List RegistryAction} {left right : TargetId}
    {target target' : SharedEntryTarget}
    (hlive : (registryRun actions).liveTarget left = true)
    (hlive' : (registryRun actions).liveTarget right = true)
    (hget : (registryRun actions).targets[left]? = some target)
    (hget' : (registryRun actions).targets[right]? = some target')
    (hkey : target.key = target'.key) (hkept : ¬ DetachedTarget actions left)
    (hkept' : ¬ DetachedTarget actions right) : left = right := by
  obtain ⟨hinv, hgood, -⟩ := run_good actions
  have hmem := ((hgood left).resolve_right hkept target hget).resolve_right
    (by rw [hlive]; exact nofun)
  have hmem' := ((hgood right).resolve_right hkept' target' hget').resolve_right
    (by rw [hlive']; exact nofun)
  rw [hkey] at hmem
  exact hinv.targetsKeyed.unique hmem hmem'

theorem onePayload {actions : List RegistryAction} {left right : PayloadId}
    {payload payload' : RegisteredPayload}
    (hlive : (registryRun actions).livePayload left = true)
    (hlive' : (registryRun actions).livePayload right = true)
    (hget : (registryRun actions).payloads[left]? = some payload)
    (hget' : (registryRun actions).payloads[right]? = some payload')
    (hkey : payload.key = payload'.key) (hkept : ¬ DetachedPayload actions left)
    (hkept' : ¬ DetachedPayload actions right) : left = right := by
  obtain ⟨hinv, -, hgood⟩ := run_good actions
  have hmem := ((hgood left).resolve_right hkept payload hget).resolve_right
    (by rw [hlive]; exact nofun)
  have hmem' := ((hgood right).resolve_right hkept' payload' hget').resolve_right
    (by rw [hlive']; exact nofun)
  rw [hkey] at hmem
  exact hinv.payloadsKeyed.unique hmem hmem'

/-- What holds after any actions. -/
structure RegistryGuarantees (actions : List RegistryAction) : Prop where
  oneTarget : ∀ left right target target', (registryRun actions).liveTarget left = true →
    (registryRun actions).liveTarget right = true →
    (registryRun actions).targets[left]? = some target →
    (registryRun actions).targets[right]? = some target' → target.key = target'.key →
    ¬ DetachedTarget actions left → ¬ DetachedTarget actions right → left = right
  onePayload : ∀ left right payload payload', (registryRun actions).livePayload left = true →
    (registryRun actions).livePayload right = true →
    (registryRun actions).payloads[left]? = some payload →
    (registryRun actions).payloads[right]? = some payload' → payload.key = payload'.key →
    ¬ DetachedPayload actions left → ¬ DetachedPayload actions right → left = right
  fits : ∀ (id : TargetId) target, (registryRun actions).targets[id]? = some target →
    ∃ payload, (registryRun actions).payloads[target.payload]? = some payload ∧
      payload.start.toNat ≤ target.entry.toNat ∧
      target.entry.toNat + target.codeSize.toNat =
        payload.start.toNat + payload.instructionsLength.toNat
  hookedKept : ∀ action (id : TargetId) target,
    (registryRun actions).targets[id]? = some target → target.hookRecord ≠ none →
    ∃ target', (registryRun (actions ++ [action])).targets[id]? = some target' ∧
      target'.payload = target.payload
  exactKept : ∀ later (id : TargetId) target payload,
    (registryRun actions).targets[id]? = some target →
    (registryRun actions).payloads[target.payload]? = some payload →
    payload.exactIdentity = true →
    ∃ target', (registryRun (actions ++ later)).targets[id]? = some target' ∧
      target'.payload = target.payload
  sharedKept : ∀ later (id : TargetId) target,
    (registryRun actions).targets[id]? = some target → target.contents.isShared = true →
    ∃ target', (registryRun (actions ++ later)).targets[id]? = some target' ∧
      target'.contents.isShared = true
  oneFunction : ∀ (id : TargetId) target, (registryRun actions).targets[id]? = some target →
    target.contents.hasProvenUniqueIdentity = true → ∀ left ∈ target.aliases,
    ∀ right ∈ target.aliases, sameLogicalFunctionIdentity left right = true

theorem entry_target_registry (actions : List RegistryAction) : RegistryGuarantees actions := by
  obtain ⟨hinv, -, -⟩ := run_good actions
  refine ⟨fun left right target target' => oneTarget, fun left right payload payload' => onePayload,
    ?_, ?_, ?_, fun later => (run_stays actions later).shared, ?_⟩
  · intro id target hget
    obtain ⟨payload, hpayload, hfits⟩ := hinv.fits id target hget
    exact ⟨payload, hpayload, hfits.start, hfits.stop⟩
  · intro action id target hget hhooked
    rw [registryRun_concat]
    obtain ⟨target', hget', hkept⟩ := step_payloads hinv action id target hget
    exact ⟨target', hget', hkept.resolve_right fun hopen => hhooked hopen.1⟩
  · intro later id target payload hget hpayload hexact
    obtain ⟨target', -, hget', hsame, -⟩ :=
      (run_stays actions later).exact id target payload hget hpayload hexact
    exact ⟨target', hget', hsame⟩
  · intro id target hget hunique left hleft right hright
    rw [DartEntryTarget.hasProvenUniqueIdentity, Bool.and_eq_true, decide_eq_true_iff] at hunique
    exact sameLogicalFunctionIdentity_of_count hunique.2 hleft hright

/-- An image that was erased comes back: its old target still lives, and a new one beside it. -/
theorem erased_target_made_again :
    let owner : DartRuntimeOwnerIdentity := ⟨1, 1, 1, 7, 1⟩
    let request : EntryTargetRequest := { entry := 4096, codeSize := 64, imageId := 7, owner }
    let registry := registryRun [.getOrCreate request, .eraseImage 7 1, .getOrCreate request]
    registry.liveTarget 0 = true ∧ registry.liveTarget 1 = true ∧
      registry.targets.map SharedEntryTarget.key = [⟨owner, 4096⟩, ⟨owner, 4096⟩] := by
  decide

end DartPlant
