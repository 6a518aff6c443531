import DartPlant.Runtime.EntryTargetRegistry

/-! # Laws of the registry of entry targets

What a request, and each part of one, keeps up: `RegistryInvariant` ties every target to a payload
that it ends with, and `Keeps` says that targets and payloads stay what they are and that the
registry finds again what it found before.
-/

namespace DartPlant
open KeyedTable EntryTargetRegistry SharedEntryTarget List

/-! ## Aliases -/

section Aliases
variable {identity left right : DartMethodIdentity} {earlier rest aliases : List DartMethodIdentity}

theorem sameLogicalFunctionIdentity_iff :
    sameLogicalFunctionIdentity left right = true ↔ left.libraryUri = right.libraryUri ∧
      left.className = right.className ∧ left.functionName = right.functionName ∧
        left.signature = right.signature := by
  simp only [sameLogicalFunctionIdentity, Bool.and_eq_true, beq_iff_eq, and_assoc]

theorem sameLogicalFunctionIdentity_trans {last : DartMethodIdentity}
    (h : sameLogicalFunctionIdentity left right = true)
    (hlast : sameLogicalFunctionIdentity right last = true) :
    sameLogicalFunctionIdentity left last = true := by
  rw [sameLogicalFunctionIdentity_iff] at h hlast ⊢
  obtain ⟨h1, h2, h3, h4⟩ := h
  obtain ⟨hl1, hl2, hl3, hl4⟩ := hlast
  exact ⟨h1.trans hl1, h2.trans hl2, h3.trans hl3, h4.trans hl4⟩

theorem sameLogicalFunctionIdentity_symm (h : sameLogicalFunctionIdentity left right = true) :
    sameLogicalFunctionIdentity right left = true := by
  rw [sameLogicalFunctionIdentity_iff] at h ⊢
  exact ⟨h.1.symm, h.2.1.symm, h.2.2.1.symm, h.2.2.2.symm⟩

open DartEntryTarget.distinctLogicalFunctionAliasCount in
theorem go_append_le : go earlier aliases ≤ go earlier (aliases ++ rest) := by
  induction aliases generalizing earlier with
  | nil => exact Nat.zero_le _
  | cons identity aliases ih =>
    rw [cons_append, go, go]
    exact Nat.add_le_add_left ih _

/-- Nothing new among the aliases: each is an earlier one's function. -/
theorem of_go_eq_zero (h : DartEntryTarget.distinctLogicalFunctionAliasCount.go earlier aliases = 0)
    {identity : DartMethodIdentity} (hmem : identity ∈ aliases) :
    ∃ known ∈ earlier, sameLogicalFunctionIdentity identity known = true := by
  induction aliases generalizing earlier with
  | nil => cases hmem
  | cons first aliases ih =>
    rw [DartEntryTarget.distinctLogicalFunctionAliasCount.go] at h
    obtain ⟨hfirst, hrest⟩ := Nat.add_eq_zero_iff.mp h
    have hknown : ∃ known ∈ earlier, sameLogicalFunctionIdentity first known = true := by
      by_contra hnone
      rw [if_neg (by simpa using hnone)] at hfirst
      cases hfirst
    rcases mem_cons.mp hmem with rfl | hmem
    · exact hknown
    · obtain ⟨known, hknownMem, hsame⟩ := ih hrest hmem
      rcases mem_append.mp hknownMem with hearlier | hlast
      · exact ⟨known, hearlier, hsame⟩
      · obtain rfl := mem_singleton.mp hlast
        obtain ⟨known', hmem', hsame'⟩ := hknown
        exact ⟨known', hmem', sameLogicalFunctionIdentity_trans hsame hsame'⟩

/-- Aliases that count for one function at most are all the same one. -/
theorem sameLogicalFunctionIdentity_of_count {target : DartEntryTarget}
    (h : target.distinctLogicalFunctionAliasCount ≤ 1) (hleft : left ∈ target.aliases)
    (hright : right ∈ target.aliases) : sameLogicalFunctionIdentity left right = true := by
  unfold DartEntryTarget.distinctLogicalFunctionAliasCount at h
  cases haliases : target.aliases with
  | nil =>
    rw [haliases] at hleft
    cases hleft
  | cons first aliases =>
    rw [haliases] at h hleft hright
    have hzero : DartEntryTarget.distinctLogicalFunctionAliasCount.go [first] aliases = 0 := by
      rw [DartEntryTarget.distinctLogicalFunctionAliasCount.go, nil_append] at h
      simp only [any_nil, Bool.false_eq_true, if_false] at h
      omega
    have hall : ∀ identity ∈ first :: aliases,
        sameLogicalFunctionIdentity identity first = true := by
      intro identity hmem
      rcases mem_cons.mp hmem with rfl | hmem
      · rw [sameLogicalFunctionIdentity_iff]
        exact ⟨rfl, rfl, rfl, rfl⟩
      · obtain ⟨known, hknown, hsame⟩ := of_go_eq_zero hzero hmem
        obtain rfl := mem_singleton.mp hknown
        exact hsame
    exact sameLogicalFunctionIdentity_trans (hall left hleft)
      (sameLogicalFunctionIdentity_symm (hall right hright))

end Aliases

/-! ## Targets that change -/

section Targets
variable {target : SharedEntryTarget} {request : EntryTargetRequest}

theorem isShared_iff {contents : DartEntryTarget} : contents.isShared = true ↔
    contents.identityProof = .shared ∨ contents.reportedAliasCount > 1 ∨
      contents.distinctLogicalFunctionAliasCount > 1 := by
  simp only [DartEntryTarget.isShared, Bool.or_eq_true, beq_iff_eq, decide_eq_true_eq, or_assoc]

theorem withEvidence_shared (h : target.contents.isShared = true) :
    (target.withEvidence request).contents.isShared = true := by
  rw [isShared_iff] at h ⊢
  rcases h with hproof | hcount | hdistinct
  · refine Or.inl ?_
    have hproof : target.identityProof = .shared := hproof
    simp only [withEvidence, contents, hproof, reduceCtorEq,
      and_false, if_false, ite_self]
  · refine Or.inr (Or.inl ?_)
    have hcount : target.reportedAliasCount > 1 := hcount
    simp only [withEvidence, contents]
    split
    next hlt => exact BitVec.lt_trans hcount hlt
    · exact hcount
  · exact Or.inr (Or.inr hdistinct)

theorem withAlias_shared {identity : DartMethodIdentity}
    (h : target.contents.isShared = true) :
    (target.withAlias identity).contents.isShared = true := by
  unfold withAlias
  split
  · exact h
  · rw [isShared_iff] at h ⊢
    refine h.imp_right (Or.imp_right fun hdistinct => ?_)
    exact Nat.lt_of_lt_of_le hdistinct go_append_le

theorem addAlias_shared {identity : DartMethodIdentity} (h : target.contents.isShared = true) :
    (target.addAlias identity).contents.isShared = true := by
  unfold addAlias
  dsimp only
  split
  · exact isShared_iff.mpr (Or.inl rfl)
  · exact withAlias_shared h

/-- Evidence does not change the size that is known. -/
theorem withEvidence_codeSize (h : target.codeSize ≠ 0) :
    (target.withEvidence request).codeSize = target.codeSize := if_neg h

end Targets

/-! ## Requests -/

/-- A request that passes its checks is for code that ends with its payload. -/
theorem EntryTargetRequest.range_spec {request : EntryTargetRequest} {range : PayloadRange}
    (h : request.range = some range) : range.start.toNat ≤ request.entry.toNat ∧
      request.entry.toNat + request.codeSize.toNat = range.start.toNat + range.length.toNat ∧
        request.codeSize ≠ 0 := by
  unfold EntryTargetRequest.range at h
  split at h
  · cases h
  split at h
  · cases h
  split at h
  · cases h
  next hstart =>
  split at h
  · cases h
  next length hlength =>
  dsimp only at h
  split at h
  · cases h
  next hfits =>
  split at h
  · cases h
  next hexact =>
  obtain rfl := Option.some.inj h
  have hend : request.codeSize.toNat =
      request.start.toNat + length.toNat - request.entry.toNat := by
    cases hexplicit : request.explicit with
    | true => exact by_contra fun hne => hexact ⟨hexplicit, hne⟩
    | false =>
      -- The payload is the code of the entry itself.
      rw [EntryTargetRequest.explicit, Bool.or_eq_false_iff, bne_eq_false_iff_eq,
        bne_eq_false_iff_eq] at hexplicit
      have hentry : request.start = request.entry := if_pos hexplicit.1
      rw [EntryTargetRequest.payloadLength, if_neg (not_not.mpr hexplicit.2), hentry] at hlength
      dsimp only at hlength
      split at hlength
      · cases hlength
      next =>
        have hbound := request.codeSize.isLt
        rw [← Option.some.inj hlength, hentry, BitVec.toNat_ofNat]
        omega
  have hle : request.start.toNat ≤ request.entry.toNat := BitVec.not_lt.mp hstart
  obtain ⟨-, -, hinside, -⟩ : length ≠ 0 ∧ _ ∧ _ ∧ _ := by simpa only [not_or] using hfits
  refine ⟨hle, by dsimp only; omega, fun hzero => ?_⟩
  have hsize : request.codeSize.toNat = 0 := congrArg BitVec.toNat hzero
  omega

/-! ## The invariant -/

/-- The target lies in the payload and ends with it. -/
structure Fits (target : SharedEntryTarget) (payload : RegisteredPayload) : Prop where
  owner : payload.owner = target.owner
  start : payload.start.toNat ≤ target.entry.toNat
  stop : target.entry.toNat + target.codeSize.toNat =
    payload.start.toNat + payload.instructionsLength.toNat
  size : target.codeSize ≠ 0

/-- The same range of code; what is exact stays so. -/
structure SameBody (payload payload' : RegisteredPayload) : Prop where
  owner : payload'.owner = payload.owner
  start : payload'.start = payload.start
  length : payload'.instructionsLength = payload.instructionsLength
  exactIdentity : payload.exactIdentity = true → payload'.exactIdentity = true

def SharedEntryTarget.key (target : SharedEntryTarget) : ImageAddressKey :=
  ⟨target.owner, target.entry⟩

def RegisteredPayload.key (payload : RegisteredPayload) : ImageAddressKey :=
  ⟨payload.owner, payload.start⟩

/-- The references of the registry are good, its tables have what their keys say, and every target
fits its payload. -/
structure RegistryInvariant (registry : EntryTargetRegistry) : Prop where
  handles : ∀ id ∈ registry.targetHandles, id < registry.targets.length
  payloadHandles : ∀ id ∈ registry.payloadHandles, id < registry.payloads.length
  fits : ∀ (id : TargetId) target, registry.targets[id]? = some target →
    ∃ payload, registry.payloads[target.payload]? = some payload ∧ Fits target payload
  targetKeys : ∀ entry ∈ registry.targetTable, ∃ target,
    registry.targets[entry.2]? = some target ∧ entry.1 = target.key
  payloadKeys : ∀ entry ∈ registry.payloadTable, ∃ payload,
    registry.payloads[entry.2]? = some payload ∧ entry.1 = payload.key
  targetsKeyed : Keyed registry.targetTable
  payloadsKeyed : Keyed registry.payloadTable

section Invariant
variable {registry : EntryTargetRegistry} {target target' : SharedEntryTarget}
  {payload payload' : RegisteredPayload} {id : TargetId}

theorem SameBody.refl : SameBody payload payload := ⟨rfl, rfl, rfl, fun h => h⟩

theorem SameBody.trans {last : RegisteredPayload} (h : SameBody payload payload')
    (hlast : SameBody payload' last) : SameBody payload last :=
  ⟨hlast.owner.trans h.owner, hlast.start.trans h.start, hlast.length.trans h.length,
    fun hexact => hlast.exactIdentity (h.exactIdentity hexact)⟩

theorem SameBody.key (h : SameBody payload payload') : payload'.key = payload.key := by
  simp only [RegisteredPayload.key, h.owner, h.start]

theorem SameBody.fits (h : SameBody payload payload') (hfits : Fits target payload) :
    Fits target payload' := by
  obtain ⟨howner, hstart, hstop, hsize⟩ := hfits
  rw [← h.start] at hstart hstop
  rw [← h.length] at hstop
  exact ⟨h.owner.trans howner, hstart, hstop, hsize⟩

theorem observe_sameBody {codeObject : BitVec 64} :
    SameBody payload (payload.observe codeObject) := ⟨rfl, rfl, rfl, fun h => h⟩

/-- A change of one payload that keeps its range is found at its place. -/
theorem getElem?_modify_sameBody {payloads : List RegisteredPayload} (at' : PayloadId)
    {change : RegisteredPayload → RegisteredPayload}
    (hchange : ∀ payload, SameBody payload (change payload)) {id : PayloadId}
    (hget : payloads[id]? = some payload) :
    ∃ payload', (payloads.modify at' change)[id]? = some payload' ∧ SameBody payload payload' := by
  rw [List.getElem?_modify, hget]
  refine ⟨_, rfl, ?_⟩
  split
  · exact hchange payload
  · exact SameBody.refl

namespace RegistryInvariant

theorem modifyPayload (h : RegistryInvariant registry) {at' : PayloadId}
    {change : RegisteredPayload → RegisteredPayload}
    (hchange : ∀ payload, SameBody payload (change payload)) :
    RegistryInvariant (registry.modifyPayload at' change) where
  handles := h.handles
  payloadHandles id hid := by
    rw [modifyPayload_payloads, length_modify]
    exact h.payloadHandles id hid
  fits id target hget := by
    obtain ⟨payload, hpayload, hfits⟩ := h.fits id target hget
    obtain ⟨payload', hpayload', hsame⟩ := getElem?_modify_sameBody at' hchange hpayload
    exact ⟨payload', hpayload', hsame.fits hfits⟩
  targetKeys := h.targetKeys
  payloadKeys entry hentry := by
    obtain ⟨payload, hpayload, hkey⟩ := h.payloadKeys entry hentry
    obtain ⟨payload', hpayload', hsame⟩ := getElem?_modify_sameBody at' hchange hpayload
    exact ⟨payload', hpayload', hkey.trans hsame.key.symm⟩
  targetsKeyed := h.targetsKeyed
  payloadsKeyed := h.payloadsKeyed

theorem setTarget (h : RegistryInvariant registry) (hget : registry.targets[id]? = some target)
    (hkey : target'.key = target.key)
    (hfits : ∃ payload, registry.payloads[target'.payload]? = some payload ∧
      Fits target' payload) :
    RegistryInvariant (registry.setTarget id target') where
  handles other hother := by
    rw [setTarget_targets, length_set]
    exact h.handles other hother
  payloadHandles := h.payloadHandles
  fits other found hfound := by
    by_cases heq : id = other
    · subst heq
      rw [setTarget_targets, List.getElem?_set_self (List.getElem?_eq_some_iff.mp hget).1] at hfound
      obtain rfl := Option.some.inj hfound
      exact hfits
    · rw [setTarget_targets, List.getElem?_set_ne heq] at hfound
      exact h.fits other found hfound
  targetKeys entry hentry := by
    obtain ⟨found, hfound, hentryKey⟩ := h.targetKeys entry hentry
    by_cases heq : id = entry.2
    · rw [← heq] at hfound ⊢
      obtain rfl := Option.some.inj (hget.symm.trans hfound)
      exact ⟨target', List.getElem?_set_self (List.getElem?_eq_some_iff.mp hget).1,
        hentryKey.trans hkey.symm⟩
    · exact ⟨found, by rw [setTarget_targets, List.getElem?_set_ne heq]; exact hfound, hentryKey⟩
  payloadKeys := h.payloadKeys
  targetsKeyed := h.targetsKeyed
  payloadsKeyed := h.payloadsKeyed

theorem hold (h : RegistryInvariant registry) (hid : id < registry.targets.length) :
    RegistryInvariant (registry.hold id) where
  handles other hother := by
    rcases mem_cons.mp hother with rfl | hother
    · exact hid
    · exact h.handles other hother
  payloadHandles := h.payloadHandles
  fits := h.fits
  targetKeys := h.targetKeys
  payloadKeys := h.payloadKeys
  targetsKeyed := h.targetsKeyed
  payloadsKeyed := h.payloadsKeyed

end RegistryInvariant

end Invariant

/-! ## What is found again -/

/-- The registry has the target, or no one does. -/
def GoodTarget (registry : EntryTargetRegistry) (id : TargetId) : Prop :=
  ∀ target, registry.targets[id]? = some target →
    (target.key, id) ∈ registry.targetTable ∨ registry.liveTarget id = false

def GoodPayload (registry : EntryTargetRegistry) (id : PayloadId) : Prop :=
  ∀ payload, registry.payloads[id]? = some payload →
    (payload.key, id) ∈ registry.payloadTable ∨ registry.livePayload id = false

/-- What every action but an erasure keeps: targets and payloads stay where they are, shared targets
shared, and what the registry finds it finds again. -/
structure Keeps (before after : EntryTargetRegistry) : Prop where
  targets : ∀ (id : TargetId) target, before.targets[id]? = some target →
    ∃ target', after.targets[id]? = some target' ∧ target'.key = target.key ∧
      (target.contents.isShared = true → target'.contents.isShared = true)
  payloads : ∀ (id : PayloadId) payload, before.payloads[id]? = some payload →
    ∃ payload', after.payloads[id]? = some payload' ∧ SameBody payload payload'
  goodTarget : ∀ id, GoodTarget before id → GoodTarget after id
  goodPayload : ∀ id, GoodPayload before id → GoodPayload after id

section Found
variable {registry after : EntryTargetRegistry} {id : PayloadId}

theorem Keeps.refl : Keeps registry registry :=
  ⟨fun _ target h => ⟨target, h, rfl, fun hshared => hshared⟩,
    fun _ payload h => ⟨payload, h, SameBody.refl⟩, fun _ h => h, fun _ h => h⟩

theorem Keeps.trans {last : EntryTargetRegistry} (h : Keeps registry after)
    (hlast : Keeps after last) : Keeps registry last where
  targets id target hget := by
    obtain ⟨target', hget', hkey, hshared⟩ := h.targets id target hget
    obtain ⟨target'', hget'', hkey', hshared'⟩ := hlast.targets id target' hget'
    exact ⟨target'', hget'', hkey'.trans hkey, fun hbefore => hshared' (hshared hbefore)⟩
  payloads id payload hget := by
    obtain ⟨payload', hget', hsame⟩ := h.payloads id payload hget
    obtain ⟨payload'', hget'', hsame'⟩ := hlast.payloads id payload' hget'
    exact ⟨payload'', hget'', hsame.trans hsame'⟩
  goodTarget id hgood := hlast.goodTarget id (h.goodTarget id hgood)
  goodPayload id hgood := hlast.goodPayload id (h.goodPayload id hgood)

theorem liveTarget_iff : registry.liveTarget id = true ↔ id ∈ registry.targetHandles := by
  rw [liveTarget, contains_iff_mem]

theorem livePayload_iff : registry.livePayload id = true ↔ id ∈ registry.payloadHandles ∨
    ∃ held ∈ registry.targetHandles, ∃ target, registry.targets[held]? = some target ∧
      target.payload = id := by
  simp only [livePayload, Bool.or_eq_true, contains_iff_mem, any_eq_true,
    Option.any_eq_true, beq_iff_eq]

/-- The scan keeps what lives, and finds what lives at the address. -/
theorem scanPayloads_spec {owner : DartRuntimeOwnerIdentity} {start : Address}
    {table kept : List (ImageAddressKey × PayloadId)} {found : Option PayloadId}
    (h : registry.scanPayloads owner start table = (found, kept)) :
    kept.Sublist table ∧
      (∀ entry ∈ table, registry.livePayload entry.2 = true → entry ∈ kept) ∧
      (∀ id, found = some id → registry.livePayload id = true ∧ (∃ key, (key, id) ∈ kept) ∧
        ∃ payload, registry.payloads[id]? = some payload ∧ payload.key = ⟨owner, start⟩) ∧
      (found = none → ∀ entry ∈ table, registry.livePayload entry.2 = true →
        ∀ payload, registry.payloads[entry.2]? = some payload → payload.key ≠ ⟨owner, start⟩) := by
  induction table generalizing found kept with
  | nil =>
    obtain ⟨rfl, rfl⟩ := Prod.mk.inj h
    exact ⟨List.Sublist.refl _, fun _ hmem _ => hmem, nofun, fun _ _ hmem => nomatch hmem⟩
  | cons entry rest ih =>
    rw [scanPayloads] at h
    split at h
    next hdead =>
      obtain ⟨hsub, hlive, hfound, hnone⟩ := ih h
      refine ⟨hsub.trans (sublist_cons_self _ _), ?_, hfound, ?_⟩
      · intro other hother hlives
        rcases mem_cons.mp hother with rfl | hother
        · rw [hdead] at hlives
          cases hlives
        · exact hlive other hother hlives
      · intro hmiss other hother hlives
        rcases mem_cons.mp hother with rfl | hother
        · rw [hdead] at hlives
          cases hlives
        · exact hnone hmiss other hother hlives
    next hlives =>
      have hat : ∀ payload, registry.payloads[entry.2]? = some payload →
          (registry.payloads[entry.2]?.any
            (fun payload => payload.owner == owner && payload.start == start) = true ↔
              payload.key = ⟨owner, start⟩) := by
        intro payload hpayload
        simp only [hpayload, Option.any_some, Bool.and_eq_true, beq_iff_eq, RegisteredPayload.key,
          ImageAddressKey.mk.injEq]
      split at h
      next hmatch =>
        obtain ⟨rfl, rfl⟩ := Prod.mk.inj h
        refine ⟨List.Sublist.refl _, fun _ hmem _ => hmem, ?_, nofun⟩
        rintro _ ⟨⟩
        refine ⟨Bool.eq_true_of_not_eq_false hlives, ⟨entry.1, mem_cons_self⟩, ?_⟩
        cases hpayload : registry.payloads[entry.2]? with
        | none =>
          rw [hpayload] at hmatch
          cases hmatch
        | some payload => exact ⟨payload, rfl, (hat payload hpayload).mp hmatch⟩
      next hmatch =>
        cases hscan : registry.scanPayloads owner start rest with
        | mk found' kept' =>
          rw [hscan] at h
          obtain ⟨rfl, rfl⟩ := Prod.mk.inj h
          obtain ⟨hsub, hlive, hfound, hnone⟩ := ih hscan
          refine ⟨hsub.cons_cons entry, ?_, ?_, ?_⟩
          · intro other hother hlives'
            rcases mem_cons.mp hother with rfl | hother
            · exact mem_cons_self
            · exact mem_cons_of_mem _ (hlive other hother hlives')
          · intro id hid
            obtain ⟨hlives', ⟨key, hkey⟩, hpayload⟩ := hfound id hid
            exact ⟨hlives', ⟨key, mem_cons_of_mem _ hkey⟩, hpayload⟩
          · intro hmiss other hother hlives' payload hpayload
            rcases mem_cons.mp hother with rfl | hother
            · exact fun hkey => hmatch ((hat payload hpayload).mpr hkey)
            · exact hnone hmiss other hother hlives' payload hpayload

/-- The payloads live as before when the targets and all handles are the same. -/
theorem livePayload_congr (htargets : after.targets = registry.targets)
    (hhandles : after.targetHandles = registry.targetHandles)
    (hpayloads : after.payloadHandles = registry.payloadHandles) :
    after.livePayload id = registry.livePayload id := by
  simp only [livePayload, htargets, hhandles, hpayloads]

theorem liveTarget_congr (hhandles : after.targetHandles = registry.targetHandles) :
    after.liveTarget id = registry.liveTarget id := by
  simp only [liveTarget, hhandles]

/-- What the lookup of a payload leaves alone. -/
structure SameTargets (before after : EntryTargetRegistry) : Prop where
  targets : after.targets = before.targets
  targetTable : after.targetTable = before.targetTable
  targetHandles : after.targetHandles = before.targetHandles
  payloadHandles : after.payloadHandles = before.payloadHandles

theorem SameTargets.keeps (h : SameTargets registry after)
    (hpayloads : ∀ (id : PayloadId) payload, registry.payloads[id]? = some payload →
      ∃ payload', after.payloads[id]? = some payload' ∧ SameBody payload payload')
    (hgood : ∀ (id : PayloadId) payload, after.payloads[id]? = some payload →
      registry.livePayload id = true → GoodPayload registry id →
        (payload.key, id) ∈ after.payloadTable) : Keeps registry after where
  targets id target hget := ⟨target, by rw [h.targets]; exact hget, rfl, fun hshared => hshared⟩
  payloads := hpayloads
  goodTarget id hbefore target hget := by
    rw [h.targets] at hget
    rw [h.targetTable, liveTarget_congr h.targetHandles]
    exact hbefore target hget
  goodPayload id hbefore payload hget := by
    rw [livePayload_congr h.targets h.targetHandles h.payloadHandles]
    cases hlive : registry.livePayload id with
    | false => exact Or.inr rfl
    | true => exact Or.inl (hgood id payload hget hlive hbefore)

/-- A payload that the lookup returns: it has the range that was asked for, and is registered. -/
structure FoundPayload (after : EntryTargetRegistry) (range : PayloadRange) (exactIdentity : Bool)
    (id : PayloadId) : Prop where
  payload : ∃ payload, after.payloads[id]? = some payload ∧ payload.owner = range.owner ∧
    payload.start = range.start ∧ payload.instructionsLength = range.length ∧
      (exactIdentity = true → payload.exactIdentity = true) ∧
        (payload.key, id) ∈ after.payloadTable

theorem findOrCreatePayload_spec {range : PayloadRange} {codeObject : BitVec 64}
    {exactIdentity : Bool} {found : Option PayloadId} (hinv : RegistryInvariant registry)
    (h : registry.findOrCreatePayload range codeObject exactIdentity = (found, after)) :
    SameTargets registry after ∧ RegistryInvariant after ∧ Keeps registry after ∧
      ∀ id, found = some id → FoundPayload after range exactIdentity id := by
  unfold findOrCreatePayload at h
  cases hscan : registry.scanPayloads range.owner range.start registry.payloadTable with
  | mk scanned kept =>
    rw [hscan] at h
    obtain ⟨hsub, hlive, hfound, hnone⟩ := scanPayloads_spec hscan
    have hkeyed := hinv.payloadsKeyed.sublist hsub
    have hkept : ∀ (id : PayloadId) payload, registry.payloads[id]? = some payload →
        registry.livePayload id = true → GoodPayload registry id → (payload.key, id) ∈ kept := by
      intro id payload hget hlives hgood
      have hmem := (hgood payload hget).resolve_right (by rw [hlives]; exact nofun)
      exact hlive _ hmem hlives
    have htrim : RegistryInvariant { registry with payloadTable := kept } :=
      ⟨hinv.handles, hinv.payloadHandles, hinv.fits, hinv.targetKeys,
        fun entry hentry => hinv.payloadKeys entry (hsub.subset hentry), hinv.targetsKeyed, hkeyed⟩
    cases scanned with
    | some id =>
      dsimp only at h
      obtain ⟨hlives, ⟨key, hmem⟩, payload, hpayload, hkey⟩ := hfound id rfl
      split at h
      · obtain ⟨rfl, rfl⟩ := Prod.mk.inj h
        refine ⟨⟨rfl, rfl, rfl, rfl⟩, htrim, ?_, nofun⟩
        exact SameTargets.keeps ⟨rfl, rfl, rfl, rfl⟩
          (fun id payload hget => ⟨payload, hget, SameBody.refl⟩)
          fun id payload hget hlives hgood => hkept id payload hget hlives hgood
      next hlength =>
        obtain ⟨rfl, rfl⟩ := Prod.mk.inj h
        have hchange : ∀ payload : RegisteredPayload, SameBody payload
            { payload.observe codeObject with
              exactIdentity := payload.exactIdentity || exactIdentity } :=
          fun payload => ⟨rfl, rfl, rfl, fun hexact => by simp only [hexact, Bool.true_or]⟩
        refine ⟨⟨rfl, rfl, rfl, rfl⟩, htrim.modifyPayload hchange, ?_, ?_⟩
        · refine SameTargets.keeps ⟨rfl, rfl, rfl, rfl⟩
            (fun other payload hget => getElem?_modify_sameBody id hchange hget) ?_
          intro other changed hget hlives' hgood
          rw [modifyPayload_payloads, List.getElem?_modify] at hget
          obtain ⟨before, hbefore, hchanged⟩ := Option.map_eq_some_iff.mp hget
          have hsame : changed.key = before.key := by
            rw [← hchanged]
            split <;> rfl
          rw [hsame]
          exact hkept other before hbefore hlives' hgood
        · rintro _ ⟨⟩
          refine ⟨{ payload.observe codeObject with
            exactIdentity := payload.exactIdentity || exactIdentity }, ?_, ?_⟩
          · simp only [modifyPayload_payloads, List.getElem?_modify, hpayload, if_true, Option.map_eq_map, Option.map_some]
          rw [hpayload, Option.any_some, bne_iff_ne, not_not] at hlength
          obtain ⟨howner, hstart⟩ := (ImageAddressKey.mk.injEq ..).mp hkey
          refine ⟨howner, hstart, hlength, fun hexact => by rw [hexact, Bool.or_true], ?_⟩
          obtain ⟨payload', hpayload', hentry⟩ := hinv.payloadKeys _ (hsub.subset hmem)
          obtain rfl := Option.some.inj (hpayload.symm.trans hpayload')
          dsimp only at hentry
          rw [hentry] at hmem
          exact hmem
    | none =>
      obtain ⟨rfl, rfl⟩ := Prod.mk.inj h
      have hnew : ∀ (id : PayloadId) payload, registry.payloads[id]? = some payload →
          registry.livePayload id = true → GoodPayload registry id →
            payload.key ≠ ⟨range.owner, range.start⟩ := by
        intro id payload hget hlives hgood
        have hmem := (hgood payload hget).resolve_right (by rw [hlives]; exact nofun)
        exact hnone rfl _ hmem hlives payload hget
      have hold : ∀ (id : PayloadId) payload, registry.payloads[id]? = some payload →
          (registry.payloads ++ [⟨range.owner.imageId, range.owner, range.start, range.length,
            codeObject, exactIdentity⟩])[id]? = some payload := by
        intro id payload hget
        rw [List.getElem?_append_left (List.getElem?_eq_some_iff.mp hget).1]
        exact hget
      refine ⟨⟨rfl, rfl, rfl, rfl⟩, ?_, ?_, ?_⟩
      · refine ⟨hinv.handles, fun id hid => ?_, fun id target hget => ?_, hinv.targetKeys,
          fun entry hentry => ?_, hinv.targetsKeyed, hkeyed.assign⟩
        · rw [length_append]
          exact Nat.lt_add_right _ (hinv.payloadHandles id hid)
        · obtain ⟨payload, hpayload, hfits⟩ := hinv.fits id target hget
          exact ⟨payload, hold _ payload hpayload, hfits⟩
        · rcases mem_assign.mp hentry with rfl | ⟨hentry, -⟩
          · exact ⟨_, List.getElem?_concat_length, rfl⟩
          · obtain ⟨payload, hpayload, hkey⟩ := hinv.payloadKeys entry (hsub.subset hentry)
            exact ⟨payload, hold _ payload hpayload, hkey⟩
      · refine SameTargets.keeps ⟨rfl, rfl, rfl, rfl⟩
          (fun id payload hget => ⟨payload, hold id payload hget, SameBody.refl⟩) ?_
        intro id payload hget hlives hgood
        rw [mem_assign]
        by_cases hid : id < registry.payloads.length
        · rw [List.getElem?_append_left hid] at hget
          exact Or.inr ⟨hkept id payload hget hlives hgood, hnew id payload hget hlives hgood⟩
        · refine Or.inl ?_
          have hlast : id = registry.payloads.length := by
            have hbound := (List.getElem?_eq_some_iff.mp hget).1
            rw [length_append, length_singleton] at hbound
            exact Nat.le_antisymm (Nat.le_of_lt_succ hbound) (Nat.not_lt.mp hid)
          subst hlast
          rw [List.getElem?_concat_length] at hget
          rw [← Option.some.inj hget]
          rfl
      · rintro _ ⟨⟩
        exact ⟨_, List.getElem?_concat_length, rfl, rfl, rfl, fun hexact => hexact,
          mem_assign.mpr (Or.inl rfl)⟩

end Found

/-! ## Targets -/

section Update
variable {registry after : EntryTargetRegistry} {request : EntryTargetRequest}
  {range : PayloadRange} {id : TargetId} {target target' : SharedEntryTarget}

theorem lockTarget_some {key : ImageAddressKey} (hinv : RegistryInvariant registry)
    (h : registry.lockTarget key = some (id, target)) :
    id ∈ registry.targetHandles ∧ registry.targets[id]? = some target ∧ target.key = key := by
  obtain ⟨found, hlookup, hfound⟩ := Option.bind_eq_some_iff.mp h
  split at hfound
  next hlive =>
    obtain ⟨contents, hget, hpair⟩ := Option.map_eq_some_iff.mp hfound
    obtain ⟨rfl, rfl⟩ := Prod.mk.inj hpair
    have hmem := (lookup_eq_some_iff hinv.targetsKeyed).mp hlookup
    obtain ⟨contents', hget', hkey⟩ := hinv.targetKeys _ hmem
    obtain rfl := Option.some.inj (hget.symm.trans hget')
    exact ⟨liveTarget_iff.mp hlive, hget, hkey.symm⟩
  · cases hfound

/-- Nothing that lives is registered at an address where nothing is found. -/
theorem lockTarget_none {key : ImageAddressKey} (hinv : RegistryInvariant registry)
    (h : registry.lockTarget key = none) (hlive : registry.liveTarget id = true) :
    (key, id) ∉ registry.targetTable := by
  intro hmem
  obtain ⟨contents, hget, -⟩ := hinv.targetKeys _ hmem
  dsimp only at hget
  have hlookup := (lookup_eq_some_iff hinv.targetsKeyed).mpr hmem
  rw [lockTarget, hlookup, Option.bind_some, if_pos hlive, hget] at h
  cases h

theorem dead_after {before after : Bool} (hdead : before = false)
    (h : after = true → before = true) : after = false := by
  cases after with
  | false => rfl
  | true => rw [h rfl] at hdead; cases hdead

theorem modifyPayload_keeps {at' : PayloadId} {change : RegisteredPayload → RegisteredPayload}
    (hchange : ∀ payload, SameBody payload (change payload)) :
    Keeps registry (registry.modifyPayload at' change) := by
  refine SameTargets.keeps ⟨rfl, rfl, rfl, rfl⟩
    (fun id payload hget => getElem?_modify_sameBody at' hchange hget) ?_
  intro id changed hget hlives hgood
  rw [modifyPayload_payloads, List.getElem?_modify] at hget
  obtain ⟨before, hbefore, hchanged⟩ := Option.map_eq_some_iff.mp hget
  have hsame : changed.key = before.key := by
    rw [← hchanged]
    split
    · exact (hchange before).key
    · rfl
  rw [hsame]
  exact (hgood before hbefore).resolve_right (by rw [hlives]; exact nofun)

/-- A target that changes in place, and keeps its payload or gets a registered one. -/
theorem setTarget_keeps (hget : registry.targets[id]? = some target)
    (hkey : target'.key = target.key)
    (hshared : target.contents.isShared = true → target'.contents.isShared = true)
    (hpayload : target'.payload = target.payload ∨ ∃ payload,
      registry.payloads[target'.payload]? = some payload ∧
        (payload.key, target'.payload) ∈ registry.payloadTable) :
    Keeps registry (registry.setTarget id target') where
  targets other found hfound := by
    by_cases heq : id = other
    · subst heq
      obtain rfl := Option.some.inj (hget.symm.trans hfound)
      exact ⟨target', List.getElem?_set_self (List.getElem?_eq_some_iff.mp hget).1, hkey, hshared⟩
    · exact ⟨found, by rw [setTarget_targets, List.getElem?_set_ne heq]; exact hfound, rfl, fun h => h⟩
  payloads _ payload h := ⟨payload, h, SameBody.refl⟩
  goodTarget other hgood found hfound := by
    by_cases heq : id = other
    · subst heq
      rw [setTarget_targets, List.getElem?_set_self (List.getElem?_eq_some_iff.mp hget).1] at hfound
      rw [← Option.some.inj hfound, hkey]
      exact hgood target hget
    · rw [setTarget_targets, List.getElem?_set_ne heq] at hfound
      exact hgood found hfound
  goodPayload other hgood payload hfound := by
    rcases hgood payload hfound with hmem | hdead
    · exact Or.inl hmem
    rcases hpayload with hsame | ⟨found, hat, hmem⟩
    · refine Or.inr (dead_after hdead fun hlive => ?_)
      rw [livePayload_iff] at hlive ⊢
      refine hlive.imp_right ?_
      rintro ⟨held, hheld, found, hat, hother⟩
      by_cases heq : id = held
      · subst heq
        rw [setTarget_targets, List.getElem?_set_self (List.getElem?_eq_some_iff.mp hget).1] at hat
        obtain rfl := Option.some.inj hat
        exact ⟨id, hheld, target, hget, hsame.symm.trans hother⟩
      · rw [setTarget_targets, List.getElem?_set_ne heq] at hat
        exact ⟨held, hheld, found, hat, hother⟩
    · by_cases hother : target'.payload = other
      · subst hother
        obtain rfl := Option.some.inj (hat.symm.trans hfound)
        exact Or.inl hmem
      · refine Or.inr (dead_after hdead fun hlive => ?_)
        rw [livePayload_iff] at hlive ⊢
        refine hlive.imp_right ?_
        rintro ⟨held, hheld, contents, hcontents, heq⟩
        by_cases hid : id = held
        · subst hid
          rw [setTarget_targets, List.getElem?_set_self (List.getElem?_eq_some_iff.mp hget).1] at hcontents
          obtain rfl := Option.some.inj hcontents
          exact absurd heq hother
        · rw [setTarget_targets, List.getElem?_set_ne hid] at hcontents
          exact ⟨held, hheld, contents, hcontents, heq⟩

/-- A handle more of a target that lives. -/
theorem hold_keeps (hlive : id ∈ registry.targetHandles) : Keeps registry (registry.hold id) where
  targets _ target h := ⟨target, h, rfl, fun hshared => hshared⟩
  payloads _ payload h := ⟨payload, h, SameBody.refl⟩
  goodTarget other hgood target hget := by
    refine (hgood target hget).imp_right fun hdead => dead_after hdead fun halive => ?_
    rw [liveTarget_iff] at halive ⊢
    rcases mem_cons.mp halive with rfl | halive
    · exact hlive
    · exact halive
  goodPayload other hgood payload hget := by
    refine (hgood payload hget).imp_right fun hdead => dead_after hdead fun halive => ?_
    rw [livePayload_iff] at halive ⊢
    refine halive.imp_right ?_
    rintro ⟨held, hheld, target, hat⟩
    rcases mem_cons.mp hheld with rfl | hheld
    · exact ⟨held, hlive, target, hat⟩
    · exact ⟨held, hheld, target, hat⟩

/-- A size that does not conflict is the one that is known. -/
theorem sizeConflicts_false (hsize : target.codeSize ≠ 0) (hrequest : request.codeSize ≠ 0)
    (h : target.sizeConflicts request.codeSize = false) : request.codeSize = target.codeSize := by
  by_contra hne
  have hconflict : target.sizeConflicts request.codeSize = true := by
    simp only [sizeConflicts, Bool.and_eq_true, bne_iff_ne]
    exact ⟨⟨hsize, hrequest⟩, fun heq => hne heq.symm⟩
  rw [h] at hconflict
  cases hconflict

variable (hinv : RegistryInvariant registry)
include hinv

theorem mergeEvidence_some (hget : registry.targets[id]? = some target)
    (h : registry.mergeEvidence id target request = some after) :
    RegistryInvariant after ∧ Keeps registry after ∧
      after.targetHandles = registry.targetHandles := by
  unfold mergeEvidence at h
  split at h
  · cases h
  obtain rfl := Option.some.inj h
  obtain ⟨payload, hpayload, hfits⟩ := hinv.fits id target hget
  have hfits' : Fits (target.withEvidence request) payload := by
    refine ⟨hfits.owner, hfits.start, ?_, ?_⟩
    · rw [withEvidence_codeSize hfits.size]
      exact hfits.stop
    · rw [withEvidence_codeSize hfits.size]
      exact hfits.size
  have hset : RegistryInvariant (registry.setTarget id (target.withEvidence request)) :=
    hinv.setTarget hget rfl ⟨payload, hpayload, hfits'⟩
  have hkeeps : Keeps registry (registry.setTarget id (target.withEvidence request)) :=
    setTarget_keeps hget rfl withEvidence_shared (Or.inl rfl)
  exact ⟨hset.modifyPayload fun _ => observe_sameBody,
    hkeeps.trans (modifyPayload_keeps fun _ => observe_sameBody), rfl⟩

/-- The exchange of a provisional payload for one of the range that was asked for. -/
theorem mergeEvidenceAndUpgradePayload_some {replacement : PayloadId}
     (hget : registry.targets[id]? = some target)
    (hkey : target.key = ⟨range.owner, request.entry⟩) (hrange : request.range = some range)
    (hfound : FoundPayload registry range true replacement)
    (h : registry.mergeEvidenceAndUpgradePayload id target request replacement = some after) :
    RegistryInvariant after ∧ Keeps registry after ∧
      after.targetHandles = registry.targetHandles := by
  unfold mergeEvidenceAndUpgradePayload at h
  split at h
  · cases h
  next hopen =>
  obtain rfl := Option.some.inj h
  obtain ⟨old, hold, hfits⟩ := hinv.fits id target hget
  obtain ⟨payload, hpayload, howner, hstart, hlength, -, hmem⟩ := hfound.payload
  obtain ⟨hlow, hstop, hnonzero⟩ := EntryTargetRequest.range_spec hrange
  obtain ⟨htargetOwner, htargetEntry⟩ := (ImageAddressKey.mk.injEq ..).mp hkey
  have hsize : request.codeSize = target.codeSize := by
    refine sizeConflicts_false hfits.size hnonzero (Bool.eq_false_iff.mpr fun hconflict => ?_)
    exact hopen (Or.inr hconflict)
  have hfits' : Fits ((target.withEvidence request).withPayload replacement) payload := by
    refine ⟨howner.trans htargetOwner.symm, ?_, ?_, ?_⟩
    · rw [hstart]
      exact htargetEntry ▸ hlow
    · have hcode : (target.withEvidence request).codeSize = target.codeSize :=
        withEvidence_codeSize hfits.size
      have hentry : target.entry = request.entry := htargetEntry
      rw [hstart, hlength, ← hstop, hsize, ← hcode, ← hentry]
      rfl
    · have hcode : (target.withEvidence request).codeSize = target.codeSize :=
        withEvidence_codeSize hfits.size
      exact hcode ▸ hfits.size
  have hset : RegistryInvariant (registry.setTarget id
      ((target.withEvidence request).withPayload replacement)) :=
    hinv.setTarget hget rfl ⟨payload, hpayload, hfits'⟩
  have hkeeps : Keeps registry (registry.setTarget id
      ((target.withEvidence request).withPayload replacement)) :=
    setTarget_keeps hget rfl withEvidence_shared (Or.inr ⟨payload, hpayload, hmem⟩)
  exact ⟨hset.modifyPayload fun _ => observe_sameBody,
    hkeeps.trans (modifyPayload_keeps fun _ => observe_sameBody), rfl⟩

/-- A new target, at an address where nothing lives, of a payload that is registered. -/
theorem createTarget_spec {payload : PayloadId} {exactIdentity : Bool}
     (hrange : request.range = some range) (hfree : ∀ id, registry.liveTarget id = true →
      (⟨range.owner, request.entry⟩, id) ∉ registry.targetTable)
    (hfound : FoundPayload registry range exactIdentity payload) :
    RegistryInvariant ((registry.createTarget request range.owner payload).hold
        registry.targets.length) ∧
      Keeps registry ((registry.createTarget request range.owner payload).hold
        registry.targets.length) := by
  obtain ⟨contents, hcontents, howner, hstart, hlength, -, hmem⟩ := hfound.payload
  obtain ⟨hlow, hstop, hnonzero⟩ := EntryTargetRequest.range_spec hrange
  have hlast : ∃ created, (registry.createTarget request range.owner payload).targets =
      registry.targets ++ [created] ∧ created.key = ⟨range.owner, request.entry⟩ ∧
        created.payload = payload ∧ Fits created contents := by
    refine ⟨_, rfl, rfl, rfl, howner, ?_, ?_, hnonzero⟩
    · rw [hstart]
      exact hlow
    · rw [hstart, hlength]
      exact hstop
  obtain ⟨created, htargets, hkey, hpayload, hfits⟩ := hlast
  have hold : ∀ (id : TargetId) target, registry.targets[id]? = some target →
      (registry.createTarget request range.owner payload).targets[id]? = some target := by
    intro id target hget
    rw [htargets, List.getElem?_append_left (List.getElem?_eq_some_iff.mp hget).1]
    exact hget
  have hnew : (registry.createTarget request range.owner payload).targets[
      registry.targets.length]? = some created := by
    rw [htargets, List.getElem?_concat_length]
  have hsplit : ∀ (id : TargetId) target,
      (registry.createTarget request range.owner payload).targets[id]? = some target →
        registry.targets[id]? = some target ∨ id = registry.targets.length ∧ target = created := by
    intro id target hget
    rw [htargets] at hget
    rcases Nat.lt_or_ge id registry.targets.length with hlt | hge
    · rw [List.getElem?_append_left hlt] at hget
      exact Or.inl hget
    · have hbound := (List.getElem?_eq_some_iff.mp hget).1
      rw [length_append, length_singleton] at hbound
      have hid : id = registry.targets.length := Nat.le_antisymm (Nat.le_of_lt_succ hbound) hge
      rw [hid, List.getElem?_concat_length] at hget
      exact Or.inr ⟨hid, (Option.some.inj hget).symm⟩
  refine ⟨⟨fun id hid => ?_, hinv.payloadHandles, fun id target hget => ?_, fun entry hentry => ?_,
    hinv.payloadKeys, hinv.targetsKeyed.assign, hinv.payloadsKeyed⟩,
    fun id target hget => ⟨target, hold id target hget, rfl, fun hshared => hshared⟩,
    fun id payload hget => ⟨payload, hget, SameBody.refl⟩, fun id hgood target hget => ?_,
    fun id hgood body hget => ?_⟩
  · have hgrown : (registry.createTarget request range.owner payload).targets.length =
        registry.targets.length + 1 := by rw [htargets, length_append, length_singleton]
    change id < (registry.createTarget request range.owner payload).targets.length
    rw [hgrown]
    rcases mem_cons.mp hid with rfl | hid
    · exact Nat.lt_succ_self _
    · exact Nat.lt_succ_of_lt (hinv.handles id hid)
  · rcases hsplit id target hget with hget | ⟨-, rfl⟩
    · exact hinv.fits id target hget
    · exact ⟨contents, by rw [hpayload]; exact hcontents, hfits⟩
  · rcases mem_assign.mp hentry with rfl | ⟨hentry, -⟩
    · exact ⟨created, hnew, hkey.symm⟩
    · obtain ⟨target, hget, hentryKey⟩ := hinv.targetKeys entry hentry
      exact ⟨target, hold _ target hget, hentryKey⟩
  · -- A target that lives elsewhere keeps its entry, and the new one has its own.
    rcases hsplit id target hget with hget | ⟨rfl, rfl⟩
    · cases hlive : registry.liveTarget id with
      | true =>
        have hentry := (hgood target hget).resolve_right (by rw [hlive]; exact nofun)
        refine Or.inl (mem_assign.mpr (Or.inr ⟨hentry, fun heq => hfree id hlive ?_⟩))
        exact heq ▸ hentry
      | false =>
        refine Or.inr (dead_after hlive fun halive => ?_)
        rw [liveTarget_iff] at halive ⊢
        refine (mem_cons.mp halive).resolve_left fun heq => ?_
        have hbound := (List.getElem?_eq_some_iff.mp hget).1
        exact absurd heq (Nat.ne_of_lt hbound)
    · exact Or.inl (mem_assign.mpr (Or.inl (by rw [hkey])))
  · by_cases hsame : id = payload
    · subst hsame
      obtain rfl := Option.some.inj (hcontents.symm.trans hget)
      exact Or.inl hmem
    · refine (hgood body hget).imp_right fun hdead => dead_after hdead fun halive => ?_
      rw [livePayload_iff] at halive ⊢
      refine halive.imp_right ?_
      rintro ⟨held, hheld, target, hat, heq⟩
      rcases hsplit held target hat with hat | ⟨rfl, rfl⟩
      · refine ⟨held, (mem_cons.mp hheld).resolve_left fun heq => ?_, target, hat, heq⟩
        exact absurd heq (Nat.ne_of_lt (List.getElem?_eq_some_iff.mp hat).1)
      · exact absurd (heq.symm.trans hpayload) hsame

theorem updateTarget_spec {result : Option TargetId} (hrange : request.range = some range)
    (hlock : registry.lockTarget ⟨range.owner, request.entry⟩ = some (id, target))
    (h : registry.updateTarget request range id target = (result, after)) :
    RegistryInvariant after ∧ Keeps registry after := by
  obtain ⟨hlive, hget, hkey⟩ := lockTarget_some hinv hlock
  have hbound : id < registry.targets.length := (List.getElem?_eq_some_iff.mp hget).1
  -- Whatever a merge makes, a handle of the target goes to the caller.
  have hheld : ∀ merged, RegistryInvariant merged → Keeps registry merged →
      merged.targetHandles = registry.targetHandles →
      RegistryInvariant (merged.hold id) ∧ Keeps registry (merged.hold id) := by
    intro merged hmerged hkeeps hhandles
    obtain ⟨target', hget', -⟩ := hkeeps.targets id target hget
    exact ⟨hmerged.hold (List.getElem?_eq_some_iff.mp hget').1,
      hkeeps.trans (hold_keeps (by rw [hhandles]; exact hlive))⟩
  unfold updateTarget at h
  split at h
  · cases hmerge : registry.mergeEvidence id target request with
    | none =>
      rw [hmerge] at h
      obtain ⟨-, rfl⟩ := Prod.mk.inj h
      exact ⟨hinv, Keeps.refl⟩
    | some merged =>
      rw [hmerge] at h
      obtain ⟨-, rfl⟩ := Prod.mk.inj h
      obtain ⟨hmerged, hkeeps, hhandles⟩ := mergeEvidence_some hinv hget hmerge
      exact hheld merged hmerged hkeeps hhandles
  obtain ⟨payload, hpayload, -⟩ := hinv.fits id target hget
  rw [hpayload] at h
  dsimp only at h
  split at h
  · split at h
    · obtain ⟨-, rfl⟩ := Prod.mk.inj h
      exact ⟨hinv, Keeps.refl⟩
    cases hfind : registry.findOrCreatePayload range request.codeObject true with
    | mk found between =>
      rw [hfind] at h
      obtain ⟨hsame, hbetween, hkeeps, hfound⟩ := findOrCreatePayload_spec hinv hfind
      cases found with
      | none =>
        obtain ⟨-, rfl⟩ := Prod.mk.inj h
        exact ⟨hbetween, hkeeps⟩
      | some replacement =>
        have hget' : between.targets[id]? = some target := by rw [hsame.targets]; exact hget
        dsimp only at h
        cases hmerge : between.mergeEvidenceAndUpgradePayload id target request replacement with
        | none =>
          rw [hmerge] at h
          obtain ⟨-, rfl⟩ := Prod.mk.inj h
          exact ⟨hbetween, hkeeps⟩
        | some merged =>
          rw [hmerge] at h
          obtain ⟨-, rfl⟩ := Prod.mk.inj h
          obtain ⟨hmerged, hkeeps', hhandles⟩ := mergeEvidenceAndUpgradePayload_some hbetween hget'
            hkey hrange (hfound replacement rfl) hmerge
          exact hheld merged hmerged (hkeeps.trans hkeeps') (hhandles.trans hsame.targetHandles)
  · cases hmerge : registry.mergeEvidence id target request with
    | none =>
      rw [hmerge] at h
      obtain ⟨-, rfl⟩ := Prod.mk.inj h
      exact ⟨hinv, Keeps.refl⟩
    | some merged =>
      rw [hmerge] at h
      obtain ⟨-, rfl⟩ := Prod.mk.inj h
      obtain ⟨hmerged, hkeeps, hhandles⟩ := mergeEvidence_some hinv hget hmerge
      have hexact : ∀ payload : RegisteredPayload,
          SameBody payload { payload with exactIdentity := true } :=
        fun _ => ⟨rfl, rfl, rfl, fun _ => rfl⟩
      exact hheld _ (hmerged.modifyPayload hexact) (hkeeps.trans (modifyPayload_keeps hexact))
        hhandles

theorem getOrCreate_spec : RegistryInvariant (registry.getOrCreate request).2 ∧
      Keeps registry (registry.getOrCreate request).2 := by
  unfold getOrCreate
  cases hrange : request.range with
  | none => exact ⟨hinv, Keeps.refl⟩
  | some range =>
    dsimp only
    cases hlock : registry.lockTarget ⟨range.owner, request.entry⟩ with
    | some locked => exact updateTarget_spec hinv hrange hlock rfl
    | none =>
      dsimp only
      cases hfind : registry.findOrCreatePayload range request.codeObject range.explicit with
      | mk found between =>
        obtain ⟨hsame, hbetween, hkeeps, hfound⟩ := findOrCreatePayload_spec hinv hfind
        cases found with
        | none => exact ⟨hbetween, hkeeps⟩
        | some payload =>
          have hfree : ∀ id, between.liveTarget id = true →
              (⟨range.owner, request.entry⟩, id) ∉ between.targetTable := by
            intro id hlive
            rw [liveTarget_congr hsame.targetHandles] at hlive
            rw [hsame.targetTable]
            exact lockTarget_none hinv hlock hlive
          obtain ⟨hcreated, hkeeps'⟩ := createTarget_spec hbetween hrange hfree
            (hfound payload rfl)
          exact ⟨hcreated, hkeeps.trans hkeeps'⟩

end Update

end DartPlant
