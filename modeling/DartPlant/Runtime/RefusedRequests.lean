import DartPlant.Runtime.EntryTargetRuns

/-! # Refused requests of the registry of entry targets

A request that gets no target should leave every target and payload as it was.  One refusal does
not: an exchange of a provisional payload takes up the registered payload of the new range, and
makes it exact, before the target refuses the size (`refused_request_keeps_iff`).
-/

namespace DartPlant
open KeyedTable EntryTargetRegistry

/-- Every live target and payload is as before. -/
def KeepsLive (before after : EntryTargetRegistry) : Prop :=
  (∀ (id : TargetId) target, before.liveTarget id = true → before.targets[id]? = some target →
    after.targets[id]? = some target) ∧
  ∀ (id : PayloadId) payload, before.livePayload id = true → before.payloads[id]? = some payload →
    after.payloads[id]? = some payload

/-- The payload as an exchange takes it up. -/
def RegisteredPayload.taken (payload : RegisteredPayload) (codeObject : BitVec 64) :
    RegisteredPayload :=
  { payload.observe codeObject with exactIdentity := payload.exactIdentity || true }

/-- The target may exchange its provisional payload for one of the range. -/
structure Exchanges (registry : EntryTargetRegistry) (range : PayloadRange)
    (target : SharedEntryTarget) : Prop where
  explicit : range.explicit = true
  hook : target.hookRecord = none
  payload : ∃ payload, registry.payloads[target.payload]? = some payload ∧
    payload.exactIdentity = false ∧
      (payload.start ≠ range.start ∨ payload.instructionsLength ≠ range.length)

/-- The live payload that is registered for the range. -/
structure HasPayload (registry : EntryTargetRegistry) (range : PayloadRange) (id : PayloadId)
    (payload : RegisteredPayload) : Prop where
  entry : (⟨range.owner, range.start⟩, id) ∈ registry.payloadTable
  live : registry.livePayload id = true
  payload : registry.payloads[id]? = some payload

/-- The request asks for an exchange of payloads and knows another size of the target, where the
registered payload of the range is not yet what an exchange makes of it. -/
def Clashes (registry : EntryTargetRegistry) (request : EntryTargetRequest) : Prop :=
  ∃ range id target replacement payload, request.range = some range ∧
    registry.lockTarget ⟨range.owner, request.entry⟩ = some (id, target) ∧
    Exchanges registry range target ∧ target.sizeConflicts request.codeSize = true ∧
    HasPayload registry range replacement payload ∧ payload.instructionsLength = range.length ∧
    (payload.exactIdentity = false ∨
      request.codeObject ≠ 0 ∧ payload.codeObject ≠ request.codeObject)

section Refused
variable {registry after : EntryTargetRegistry} {request : EntryTargetRequest}
  {range : PayloadRange} {id : TargetId} {target : SharedEntryTarget}

theorem keepsLive_of_eq (htargets : after.targets = registry.targets)
    (hpayloads : after.payloads = registry.payloads) : KeepsLive registry after :=
  ⟨fun id target _ hget => by rw [htargets]; exact hget,
    fun id payload _ hget => by rw [hpayloads]; exact hget⟩

theorem taken_eq_iff {payload : RegisteredPayload} {codeObject : BitVec 64} :
    payload.taken codeObject = payload ↔ ¬ (payload.exactIdentity = false ∨
      codeObject ≠ 0 ∧ payload.codeObject ≠ codeObject) := by
  cases payload with
  | mk imageId owner start length object exact =>
    simp only [RegisteredPayload.taken, RegisteredPayload.observe, RegisteredPayload.mk.injEq,
      true_and, Bool.or_true]
    constructor
    · rintro ⟨hobject, rfl⟩ (hopen | ⟨hknown, hother⟩)
      · cases hopen
      · rw [if_pos hknown] at hobject
        exact hother hobject.symm
    · intro hsame
      obtain ⟨hexact, hobject⟩ := not_or.mp hsame
      refine ⟨?_, (Bool.eq_true_of_not_eq_false hexact).symm⟩
      split
      next hknown => exact (by_contra fun hother => hobject ⟨hknown, Ne.symm hother⟩)
      · rfl

/-- The lookup of a payload finds the registered one, or makes a new one. -/
theorem findOrCreatePayload_cases (hinv : RegistryInvariant registry) (range : PayloadRange)
    (codeObject : BitVec 64) (exactIdentity : Bool) :
    (∃ id payload, HasPayload registry range id payload ∧
      ((payload.instructionsLength ≠ range.length ∧
        (registry.findOrCreatePayload range codeObject exactIdentity).1 = none ∧
        (registry.findOrCreatePayload range codeObject exactIdentity).2.payloads =
          registry.payloads) ∨
      (payload.instructionsLength = range.length ∧
        (registry.findOrCreatePayload range codeObject exactIdentity).1 = some id ∧
        (registry.findOrCreatePayload range codeObject exactIdentity).2.payloads =
          registry.payloads.modify id fun payload =>
            { payload.observe codeObject with
              exactIdentity := payload.exactIdentity || exactIdentity }))) ∨
    (∀ id payload, ¬ HasPayload registry range id payload) ∧ ∃ fresh,
      (registry.findOrCreatePayload range codeObject exactIdentity).1 =
        some registry.payloads.length ∧
      (registry.findOrCreatePayload range codeObject exactIdentity).2.payloads =
        registry.payloads ++ [fresh] := by
  unfold findOrCreatePayload
  cases hscan : registry.scanPayloads range.owner range.start registry.payloadTable with
  | mk scanned kept =>
    obtain ⟨hsub, -, hfound, hnone⟩ := scanPayloads_spec hscan
    cases scanned with
    | none =>
      refine Or.inr ⟨fun id payload hhas => ?_, _, rfl, rfl⟩
      obtain ⟨payload', hpayload', hkey⟩ := hinv.payloadKeys _ hhas.entry
      exact hnone rfl _ hhas.entry hhas.live payload' hpayload' hkey.symm
    | some id =>
      obtain ⟨hlive, ⟨key, hmem⟩, payload, hpayload, hkey⟩ := hfound id rfl
      obtain ⟨payload', hpayload', hentry⟩ := hinv.payloadKeys _ (hsub.subset hmem)
      obtain rfl := Option.some.inj (hpayload.symm.trans hpayload')
      have hat : key = ⟨range.owner, range.start⟩ := hentry.trans hkey
      refine Or.inl ⟨id, payload, ⟨hat ▸ hsub.subset hmem, hlive, hpayload⟩, ?_⟩
      dsimp only
      rw [hpayload, Option.any_some]
      by_cases hlength : payload.instructionsLength = range.length
      · rw [if_neg (by simpa using hlength)]
        exact Or.inr ⟨hlength, rfl, rfl⟩
      · rw [if_pos (by simpa using hlength)]
        exact Or.inl ⟨hlength, rfl, rfl⟩

/-- A lookup that finds a payload of another length changes nothing. -/
theorem findOrCreatePayload_refused (hinv : RegistryInvariant registry) {codeObject : BitVec 64}
    {exactIdentity : Bool}
    (h : registry.findOrCreatePayload range codeObject exactIdentity = (none, after)) :
    KeepsLive registry after := by
  have htargets := (findOrCreatePayload_spec hinv h).1.targets
  have hcases := findOrCreatePayload_cases hinv range codeObject exactIdentity
  rw [h] at hcases
  rcases hcases with ⟨id, payload, -, ⟨-, -, hpayloads⟩ | ⟨-, hfound, -⟩⟩ |
    ⟨-, fresh, hfound, -⟩
  · exact keepsLive_of_eq htargets hpayloads
  · cases hfound
  · cases hfound

/-- To take up a payload changes nothing that lives, when it is new or was taken up before. -/
theorem findOrCreatePayload_unchanged (hinv : RegistryInvariant registry) {codeObject : BitVec 64}
    {replacement : PayloadId}
    (h : registry.findOrCreatePayload range codeObject true = (some replacement, after))
    (htaken : ∀ id payload, HasPayload registry range id payload →
      payload.instructionsLength = range.length → payload.taken codeObject = payload) :
    KeepsLive registry after := by
  have htargets := (findOrCreatePayload_spec hinv h).1.targets
  have hcases := findOrCreatePayload_cases hinv range codeObject true
  rw [h] at hcases
  rcases hcases with ⟨id, payload, hhas, ⟨-, hfound, -⟩ | ⟨hlength, -, hpayloads⟩⟩ |
    ⟨-, fresh, -, hpayloads⟩
  · cases hfound
  · refine keepsLive_of_eq htargets ?_
    obtain ⟨hbound, hat⟩ := List.getElem?_eq_some_iff.mp hhas.payload
    dsimp only at hpayloads
    rw [hpayloads, List.modify_eq_set_getElem?, hhas.payload]
    change registry.payloads.set id (payload.taken codeObject) = _
    rw [htaken id payload hhas hlength, ← hat, List.set_getElem_self]
  · refine ⟨fun id target _ hget => by rw [htargets]; exact hget, fun id payload _ hget => ?_⟩
    dsimp only at hpayloads
    rw [hpayloads, List.getElem?_append_left (List.getElem?_eq_some_iff.mp hget).1]
    exact hget

theorem HasPayload.unique (hinv : RegistryInvariant registry) {left right : PayloadId}
    {payload payload' : RegisteredPayload} (h : HasPayload registry range left payload)
    (h' : HasPayload registry range right payload') : left = right ∧ payload = payload' := by
  obtain rfl := hinv.payloadsKeyed.unique h.entry h'.entry
  exact ⟨rfl, Option.some.inj (h.payload.symm.trans h'.payload)⟩

/-- An exchange is refused where the sizes differ, and then the registered payload is taken up. -/
theorem updateTarget_exchange (hexchange : Exchanges registry range target) :
    registry.updateTarget request range id target =
      match registry.findOrCreatePayload range request.codeObject true with
      | (none, between) => (none, between)
      | (some replacement, between) =>
        if target.sizeConflicts request.codeSize then (none, between)
        else (some id, ((between.setTarget id
          ((target.withEvidence request).withPayload replacement)).modifyPayload replacement
            (·.observe request.codeObject)).hold id) := by
  obtain ⟨payload, hpayload, hopen, hother⟩ := hexchange.payload
  rw [updateTarget, hexchange.explicit, if_neg Bool.noConfusion, hpayload]
  dsimp only
  rw [if_pos hother, hopen, hexchange.hook, if_neg (by simp)]
  cases registry.findOrCreatePayload range request.codeObject true with
  | mk found between =>
    cases found with
    | none => rfl
    | some replacement =>
      dsimp only
      rw [mergeEvidenceAndUpgradePayload, hexchange.hook]
      by_cases hsize : target.sizeConflicts request.codeSize = true
      · rw [if_pos (Or.inr hsize), if_pos hsize]
      · rw [if_neg (not_or.mpr ⟨nofun, hsize⟩), if_neg hsize]

/-- Without an exchange a refusal comes before any change. -/
theorem updateTarget_refused (hinv : RegistryInvariant registry)
    (hget : registry.targets[id]? = some target) (hexchange : ¬ Exchanges registry range target)
    (h : (registry.updateTarget request range id target).1 = none) :
    (registry.updateTarget request range id target).2 = registry := by
  unfold updateTarget at h ⊢
  obtain ⟨payload, hpayload, -⟩ := hinv.fits id target hget
  have hstuck : ¬ range.explicit = false →
      (payload.start ≠ range.start ∨ payload.instructionsLength ≠ range.length) →
      payload.exactIdentity = true ∨ target.hookRecord.isSome = true := by
    intro hexplicit hother
    by_contra hopen
    obtain ⟨hprovisional, hhook⟩ := not_or.mp hopen
    exact hexchange ⟨Bool.eq_true_of_not_eq_false hexplicit,
      Option.not_isSome_iff_eq_none.mp hhook, payload, hpayload,
      Bool.eq_false_iff.mpr hprovisional, hother⟩
  rw [hpayload] at h ⊢
  dsimp only at h ⊢
  cases hmerge : registry.mergeEvidence id target request with
  | none =>
    split
    · rfl
    next hexplicit =>
    split
    next hother => rw [if_pos (hstuck hexplicit hother)]
    · rfl
  | some merged =>
    rw [hmerge] at h
    split at h
    · cases h
    next hexplicit =>
    rw [if_neg hexplicit]
    split at h
    next hother => rw [if_pos hother, if_pos (hstuck hexplicit hother)]
    · cases h

end Refused

/-- A refused request changes nothing exactly where it does not clash. -/
theorem refused_request_keeps_iff (actions : List RegistryAction) (request : EntryTargetRequest) :
    (((registryRun actions).getOrCreate request).1 = none →
      KeepsLive (registryRun actions) ((registryRun actions).getOrCreate request).2) ↔
    ¬ Clashes (registryRun actions) request := by
  obtain ⟨hinv, -⟩ := run_good actions
  generalize registryRun actions = registry at hinv
  constructor
  · rintro hkeeps ⟨range, id, target, replacement, payload, hrange, hlock, hexchange, hsize, hhas,
      hlength, hother⟩
    have hcall : registry.getOrCreate request = registry.updateTarget request range id target := by
      rw [getOrCreate, hrange]
      dsimp only
      rw [hlock]
    rw [hcall, updateTarget_exchange hexchange] at hkeeps
    rcases findOrCreatePayload_cases hinv range request.codeObject true with
      ⟨found, payload', hhas', hcases⟩ | ⟨hnone, -⟩
    on_goal 2 => exact hnone replacement payload hhas
    obtain ⟨rfl, rfl⟩ := hhas.unique hinv hhas'
    rcases hcases with ⟨hlength', -⟩ | ⟨-, hfound, hpayloads⟩
    · exact hlength' hlength
    cases hfind : registry.findOrCreatePayload range request.codeObject true with
    | mk found between =>
      rw [hfind] at hkeeps hfound hpayloads
      dsimp only at hkeeps hfound hpayloads
      rw [hfound] at hkeeps
      dsimp only at hkeeps
      rw [if_pos hsize] at hkeeps
      have hsame := (hkeeps rfl).2 replacement payload hhas.live hhas.payload
      rw [hpayloads, List.getElem?_modify, hhas.payload] at hsame
      simp only [if_true] at hsame
      exact taken_eq_iff.mp (Option.some.inj hsame) hother
  · intro hnot hnull
    unfold getOrCreate at hnull ⊢
    cases hrange : request.range with
    | none => exact keepsLive_of_eq rfl rfl
    | some range =>
      rw [hrange] at hnull
      dsimp only at hnull ⊢
      cases hlock : registry.lockTarget ⟨range.owner, request.entry⟩ with
      | none =>
        rw [hlock] at hnull
        dsimp only at hnull ⊢
        cases hfind : registry.findOrCreatePayload range request.codeObject range.explicit with
        | mk found between =>
          rw [hfind] at hnull
          cases found with
          | some payload => cases hnull
          | none => exact findOrCreatePayload_refused hinv hfind
      | some locked =>
        obtain ⟨id, target⟩ := locked
        rw [hlock] at hnull
        dsimp only at hnull ⊢
        have hget := (lockTarget_some hinv hlock).2.1
        by_cases hexchange : Exchanges registry range target
        on_goal 2 =>
          rw [updateTarget_refused hinv hget hexchange hnull]
          exact keepsLive_of_eq rfl rfl
        rw [updateTarget_exchange hexchange] at hnull ⊢
        cases hfind : registry.findOrCreatePayload range request.codeObject true with
        | mk found between =>
          rw [hfind] at hnull
          cases found with
          | none => exact findOrCreatePayload_refused hinv hfind
          | some replacement =>
            dsimp only at hnull ⊢
            split at hnull
            on_goal 2 => cases hnull
            next hsize =>
            rw [if_pos hsize]
            refine findOrCreatePayload_unchanged hinv hfind fun found payload hhas hlength => ?_
            refine taken_eq_iff.mpr fun hother => hnot ?_
            exact ⟨range, id, target, found, payload, hrange, hlock, hexchange, hsize, hhas,
              hlength, hother⟩

/-- A body of code from 4096 to 4160 gets its target, and so does, provisionally, an entry in the
middle of it; the request for that entry with the body's start and another end of the entry's code
is refused, and the body's payload is exact. -/
theorem refused_request_marks_payload :
    let request (entry : Address) (codeSize : BitVec 32) : EntryTargetRequest :=
      { entry, codeSize, imageId := 7 }
    let registry := registryRun [.getOrCreate (request 4096 64), .getOrCreate (request 4112 16)]
    let refused : EntryTargetRequest :=
      { request 4112 48 with payloadStart := 4096, instructionsLength := 64 }
    (registry.getOrCreate refused).1 = none ∧ registry.livePayload 0 = true ∧
      (registry.payloads[0]?).map (·.exactIdentity) = some false ∧
      ((registry.getOrCreate refused).2.payloads[0]?).map (·.exactIdentity) = some true := by
  decide

end DartPlant
