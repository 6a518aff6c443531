import DartPlant.Interceptor.ReturnSites
import DartPlant.Lib.NoteFormat

/-! # Code under managed patches

`NormalizeManagedCodeBytesLocked` undoes, on a copy of the code, what the hooks have done to it.  A
hook keeps the bytes of its entry from before and from after its installation, which hold what other
hooks had done by then too, and those may be unhooked in any order.  But where the two differ the
older byte is the pristine one, and so it does no harm to undo a patch that is gone.

Addresses are natural numbers below 2^64, and a buffer is read by the addresses that its bytes were
copied from.  An installation that fails leaves no hook.
-/

namespace DartPlant
open List NoteFormat

structure ManagedCodePatch where
  address : Nat
  originalBytes : List Byte
  patchedBytes : List Byte

/-- `OverlayOriginalBytes`, on the bytes from `start` to `end_`. -/
def overlayOriginalBytes (start end_ : Nat) (bytes : Nat → Byte) (patch : ManagedCodePatch) :
    Nat → Byte :=
  let size := patch.originalBytes.length
  let patchEnd := min (2 ^ 64 - 1) (patch.address + size)
  let overlapStart := max start patch.address
  let overlapEnd := min end_ patchEnd
  if patch.address ≥ end_ ∨ size = 0 ∨ size ≠ patch.patchedBytes.length ∨ patchEnd ≤ start ∨
      overlapStart ≥ overlapEnd then bytes
  else fun address =>
    let source := address - patch.address
    if overlapStart ≤ address ∧ address < overlapEnd ∧
        patch.patchedBytes[source]? = some (bytes address) then patch.originalBytes.getD source 0
    else bytes address

/-- The bytes of an instruction. -/
def instructionBytes (instruction : Instruction) : List Byte :=
  [instruction.setWidth 8, (instruction >>> 8).setWidth 8, (instruction >>> 16).setWidth 8,
    (instruction >>> 24).setWidth 8]

/-- The `return_patch` of a RET site. -/
def Arm64ReturnPatch.managed (patch : Arm64ReturnPatch) : ManagedCodePatch :=
  ⟨patch.address.toNat, instructionBytes patch.originalInstruction,
    instructionBytes patch.patchedInstruction⟩

/-- A hook of the registry.  `backup` has the bytes that the host overwrote and can restore. -/
structure PatchedHook (κ : Type) where
  unhooked : Bool
  payload : Option κ
  managedBackendPatches : List ManagedCodePatch
  backup : Nat → Option Byte

structure PatchedCode (κ : Type) where
  code : Nat → Byte
  hooks : List (PatchedHook κ)
  returnPatches : κ → List Arm64ReturnPatch

section Normalize
variable {κ : Type} [DecidableEq κ]

/-- What is undone: the patches of the entries, the newest hook first, then the RET patches of each
payload. -/
def PatchedCode.managedPatches (w : PatchedCode κ) : List ManagedCodePatch :=
  let live := w.hooks.reverse.filter fun hook => !hook.unhooked
  live.flatMap PatchedHook.managedBackendPatches ++
    (live.filterMap PatchedHook.payload).eraseDups.flatMap fun payload =>
      (w.returnPatches payload).map Arm64ReturnPatch.managed

/-- `NormalizeManagedCodeBytesLocked`. -/
def normalizeManagedCodeBytesLocked (w : PatchedCode κ) (start size : Nat) : Option (List Byte) :=
  if start = 0 ∨ size = 0 ∨ start > 2 ^ 64 - 1 - size then none
  else
    let bytes := w.managedPatches.foldl (overlayOriginalBytes start (start + size)) w.code
    some ((range size).map fun index => bytes (start + index))

end Normalize

/-! ## Undoing patches -/

/-- The patch replaces one byte by another at the address. -/
structure ManagedCodePatch.Replaces (patch : ManagedCodePatch) (address : Nat)
    (original patched : Byte) : Prop where
  same : patch.originalBytes.length = patch.patchedBytes.length
  low : patch.address ≤ address
  original : patch.originalBytes[address - patch.address]? = some original
  patched : patch.patchedBytes[address - patch.address]? = some patched

/-- Where the patch changes anything, it has the pristine byte. -/
def ManagedCodePatch.Sound (pristine : Nat → Byte) (patch : ManagedCodePatch) : Prop :=
  ∀ address original patched, patch.Replaces address original patched →
    original = patched ∨ original = pristine address

section Undo
variable {pristine : Nat → Byte} {patch : ManagedCodePatch} {start end_ address : Nat}
  {bytes : Nat → Byte} (hlow : start ≤ address) (hhigh : address < end_) (hend : end_ < 2 ^ 64)
include hlow hhigh hend

theorem overlay_of_replaces {original : Byte} (h : patch.Replaces address original (bytes address)) :
    overlayOriginalBytes start end_ bytes patch address = original := by
  obtain ⟨hsame, hfrom, horiginal, hpatched⟩ := h
  obtain ⟨hinside, -⟩ := List.getElem?_eq_some_iff.mp horiginal
  unfold overlayOriginalBytes
  dsimp only
  rw [if_neg (by omega), if_pos ⟨by omega, by omega, hpatched⟩, getD_eq_getElem?_getD, horiginal,
    Option.getD_some]

/-- A byte changes to the pristine one, or not at all. -/
theorem overlay_cases (hsound : patch.Sound pristine) :
    overlayOriginalBytes start end_ bytes patch address = pristine address ∨
      overlayOriginalBytes start end_ bytes patch address = bytes address ∧
        ¬patch.Replaces address (pristine address) (bytes address) := by
  by_cases h : ∃ original, patch.Replaces address original (bytes address)
  · obtain ⟨original, h⟩ := h
    rw [overlay_of_replaces hlow hhigh hend h]
    by_cases hpristine : original = pristine address
    · exact Or.inl hpristine
    · refine Or.inr ⟨(hsound _ _ _ h).resolve_right hpristine, fun hother => hpristine ?_⟩
      exact Option.some.inj (h.original.symm.trans hother.original)
  · refine Or.inr ⟨?_, fun hreplaces => h ⟨_, hreplaces⟩⟩
    unfold overlayOriginalBytes
    dsimp only
    split
    · rfl
    next hoverlap =>
    dsimp only
    split
    next hhit =>
      refine absurd ⟨patch.originalBytes.getD (address - patch.address) 0, ?_⟩ h
      obtain ⟨hsource, -⟩ := List.getElem?_eq_some_iff.mp hhit.2.2
      have hsame : patch.originalBytes.length = patch.patchedBytes.length := by omega
      refine ⟨hsame, by omega, ?_, hhit.2.2⟩
      rw [getD_eq_getElem?_getD, List.getElem?_eq_getElem (by omega), Option.getD_some]
    · rfl

/-- A byte is pristine after all the patches when it is so before, or one of them is in place. -/
theorem foldl_overlay {patches : List ManagedCodePatch}
    (hsound : ∀ patch ∈ patches, patch.Sound pristine) (h : bytes address = pristine address ∨
      ∃ patch ∈ patches, patch.Replaces address (pristine address) (bytes address)) :
    patches.foldl (overlayOriginalBytes start end_) bytes address = pristine address := by
  induction patches generalizing bytes with
  | nil => exact h.resolve_right fun ⟨_, hmem, _⟩ => not_mem_nil hmem
  | cons patch patches ih =>
    refine ih (fun other hother => hsound other (mem_cons_of_mem _ hother)) ?_
    have hcases : overlayOriginalBytes start end_ bytes patch address = _ ∨ _ :=
      overlay_cases hlow hhigh hend (hsound patch mem_cons_self)
    rcases hcases with hpristine | ⟨hkept, hnot⟩
    · exact Or.inl hpristine
    · rw [hkept]
      refine h.imp_right fun ⟨other, hother, hreplaces⟩ => ⟨other, ?_, hreplaces⟩
      exact (mem_cons.mp hother).resolve_left fun heq => hnot (heq ▸ hreplaces)

end Undo

/-! ## Runs of the registry -/

/-- The bytes that a hook keeps of its entry. -/
def copiedBytes (code : Nat → Byte) (start size : Nat) : List Byte :=
  (range size).map fun index => code (start + index)

theorem replaces_copied {before after : Nat → Byte} {entry size address : Nat} {o p : Byte} :
    ManagedCodePatch.Replaces ⟨entry, copiedBytes before entry size, copiedBytes after entry size⟩
        address o p ↔
      (entry ≤ address ∧ address < entry + size) ∧ before address = o ∧ after address = p := by
  have hlength (code : Nat → Byte) : (copiedBytes code entry size).length = size := by
    rw [copiedBytes, length_map, length_range]
  have hbyte (code : Nat → Byte) (byte : Byte) (hlow : entry ≤ address) :
      (copiedBytes code entry size)[address - entry]? = some byte ↔
        address < entry + size ∧ code address = byte := by
    by_cases hhigh : address < entry + size
    · rw [copiedBytes, List.getElem?_map, List.getElem?_range (by omega), Option.map_some,
        Nat.add_sub_cancel' hlow, Option.some.injEq, and_iff_right hhigh]
    · rw [List.getElem?_eq_none (by rw [hlength]; omega)]
      simp only [reduceCtorEq, hhigh, false_and]
  constructor
  · rintro ⟨-, hlow, ho, hp⟩
    obtain ⟨hhigh, ho⟩ := (hbyte before o hlow).mp ho
    exact ⟨⟨hlow, hhigh⟩, ho, ((hbyte after p hlow).mp hp).2⟩
  · rintro ⟨⟨hlow, hhigh⟩, ho, hp⟩
    exact ⟨(hlength before).trans (hlength after).symm, hlow, (hbyte before o hlow).mpr ⟨hhigh, ho⟩,
      (hbyte after p hlow).mpr ⟨hhigh, hp⟩⟩

section Registry
variable {κ : Type} [DecidableEq κ] {pristine : Nat → Byte} {w w' : PatchedCode κ}

/-- What a call does to code that was `pristine` before the first hook.  An installation writes
branches over RET sites, and has the host write over bytes of the entry that nobody has written over;
it keeps the bytes of the entry from before and after.  An unhook gives the RET sites back that no
other hook of the payload uses. -/
inductive PatchStep (pristine : Nat → Byte) (w : PatchedCode κ) : PatchedCode κ → Prop
  | install (entry codeSize : Nat) (payload : Option κ) (sites : List Arm64ReturnPatch)
      (branched code : Nat → Byte) (write : Nat → Option Byte)
      (hpayload : payload = none → sites = [])
      (hsites : ∀ site ∈ sites, ∀ address original patched,
        site.managed.Replaces address original patched → original = pristine address)
      (hbranched : ∀ address, branched address = w.code address ∨ ∃ site ∈ sites,
        w.code address = pristine address ∧
          site.managed.Replaces address (w.code address) (branched address))
      (hwrite : ∀ address, write address ≠ none → entry ≤ address ∧ address < entry + codeSize ∧
        w.code address = pristine address ∧ branched address = w.code address)
      (hcode : ∀ address, code address = (write address).getD (branched address)) :
      PatchStep pristine w {
        code
        hooks := w.hooks ++ [{
          unhooked := false
          payload
          managedBackendPatches :=
            [⟨entry, copiedBytes w.code entry codeSize, copiedBytes code entry codeSize⟩]
          backup := fun address => (write address).map fun _ => branched address }]
        returnPatches := fun owner =>
          w.returnPatches owner ++ if payload = some owner then sites else [] }
  | restoreBackend (before after : List (PatchedHook κ)) (hook : PatchedHook κ)
      (hhooks : w.hooks = before ++ hook :: after) :
      PatchStep pristine w { w with
        code := fun address => (hook.backup address).getD (w.code address)
        hooks := before ++ { hook with backup := fun _ => none } :: after }
  | finishUnhook (before after : List (PatchedHook κ)) (hook : PatchedHook κ)
      (released : Arm64ReturnPatch → Bool) (restored : Nat → Byte)
      (hhooks : w.hooks = before ++ hook :: after) (hbackend : hook.backup = fun _ => none)
      (hreleased : ∀ owner, ∀ site ∈ w.returnPatches owner, released site = true →
        ∀ address original patched, site.managed.Replaces address original patched →
          restored address = original)
      (hrestored : ∀ address, restored address = w.code address ∨ ∃ owner,
        ∃ site ∈ w.returnPatches owner, ∃ patched,
          site.managed.Replaces address (restored address) patched)
      (hlast : ∀ owner, ∀ site ∈ w.returnPatches owner, released site = false →
        ∃ other ∈ before ++ after, other.unhooked = false ∧ other.payload = some owner) :
      PatchStep pristine w {
        code := restored
        hooks := before ++ { hook with unhooked := true } :: after
        returnPatches := fun owner => (w.returnPatches owner).filter fun site => !released site }

/-- A member of a list is the one that another takes the place of, or stays. -/
theorem mem_split_cases {α : Type} {before after : List α} {item other : α}
    (h : other ∈ before ++ item :: after) :
    other = item ∨ ∀ new, other ∈ before ++ new :: after := by
  simp only [mem_append, mem_cons] at h ⊢
  tauto

/-- What the registry knows of the code: a byte that is not pristine has been written over by the
host of a live hook, which has both bytes, or by the branch of a RET site. -/
structure Recoverable (pristine : Nat → Byte) (w : PatchedCode κ) : Prop where
  sound : ∀ hook ∈ w.hooks, ∀ patch ∈ hook.managedBackendPatches, patch.Sound pristine
  sites : ∀ owner, ∀ site ∈ w.returnPatches owner,
    (∃ hook ∈ w.hooks, hook.unhooked = false ∧ hook.payload = some owner) ∧
      ∀ address original patched, site.managed.Replaces address original patched →
        original = pristine address
  backup : ∀ hook ∈ w.hooks, ∀ address, ∀ byte ∈ hook.backup address, byte = pristine address
  changed : ∀ address, w.code address = pristine address ∨
    (∃ hook ∈ w.hooks, hook.unhooked = false ∧ hook.backup address ≠ none ∧
      ∃ patch ∈ hook.managedBackendPatches,
        patch.Replaces address (pristine address) (w.code address)) ∨
    ∃ owner, ∃ site ∈ w.returnPatches owner,
      site.managed.Replaces address (pristine address) (w.code address)

theorem Recoverable.step (h : Recoverable pristine w) (hstep : PatchStep pristine w w') :
    Recoverable pristine w' := by
  cases hstep with
  | install entry codeSize payload sites branched code write hpayload hsites hbranched hwrite hcode =>
    have hkept {address : Nat} (h : write address = none) : code address = branched address := by
      rw [hcode, h, Option.getD_none]
    refine ⟨forall_mem_append.mpr ⟨h.sound, ?_⟩, fun owner site hsite => ?_,
      forall_mem_append.mpr ⟨h.backup, ?_⟩, fun address => ?_⟩
    · simp only [mem_singleton, forall_eq]
      intro address original patched hreplaces
      obtain ⟨-, rfl, rfl⟩ := replaces_copied.mp hreplaces
      cases hwritten : write address with
      | some byte => exact Or.inr (hwrite address (by simp only [hwritten, ne_eq, reduceCtorEq,
          not_false_eq_true])).2.2.1
      | none =>
        rw [hkept hwritten]
        rcases hbranched address with hsame | ⟨_, _, hpristine, _⟩
        · exact Or.inl hsame.symm
        · exact Or.inr hpristine
    · rcases mem_append.mp hsite with hold | hnew
      · obtain ⟨⟨hook, hhook, hlive⟩, hpristine⟩ := h.sites owner site hold
        exact ⟨⟨hook, mem_append_left _ hhook, hlive⟩, hpristine⟩
      · split at hnew
        next howner =>
          exact ⟨⟨_, mem_append_right _ mem_cons_self, rfl, howner⟩, hsites site hnew⟩
        next => exact absurd hnew not_mem_nil
    · simp only [mem_singleton, forall_eq, Option.mem_def, Option.map_eq_some_iff]
      rintro address byte ⟨written, hwritten, rfl⟩
      obtain ⟨-, -, hpristine, hsame⟩ := hwrite address (hwritten ▸ Option.some_ne_none _)
      exact hsame.trans hpristine
    · cases hwritten : write address with
      | some byte =>
        have hne : write address ≠ none := hwritten ▸ Option.some_ne_none _
        obtain ⟨hlow, hhigh, hpristine, -⟩ := hwrite address hne
        refine Or.inr (Or.inl ⟨_, mem_append_right _ mem_cons_self, rfl, ?_, _, mem_cons_self,
          replaces_copied.mpr ⟨⟨hlow, hhigh⟩, hpristine, rfl⟩⟩)
        simp only [hwritten, Option.map_some, ne_eq, reduceCtorEq, not_false_eq_true]
      | none =>
        dsimp only
        rw [hkept hwritten]
        rcases hbranched address with hsame | ⟨site, hsite, hpristine, hreplaces⟩
        · rw [hsame]
          refine (h.changed address).imp_right (Or.imp ?_ ?_)
          · exact fun ⟨hook, hhook, hother⟩ => ⟨hook, mem_append_left _ hhook, hother⟩
          · exact fun ⟨owner, site, hsite, hother⟩ => ⟨owner, site, mem_append_left _ hsite, hother⟩
        · cases howner : payload with
          | none => exact absurd (hpayload howner ▸ hsite) not_mem_nil
          | some owner =>
            refine Or.inr (Or.inr ⟨owner, site, ?_, hpristine ▸ hreplaces⟩)
            simpa only [howner, if_pos] using mem_append_right _ hsite
  | restoreBackend before after hook hhooks =>
    obtain ⟨hsound, hsites, hbackup, hchanged⟩ := h
    simp only [hhooks, forall_mem_append, forall_mem_cons] at hsound hbackup
    refine ⟨?_, fun owner site hsite => ⟨?_, (hsites owner site hsite).2⟩, ?_, fun address => ?_⟩
    · simpa only [forall_mem_append, forall_mem_cons] using hsound
    · obtain ⟨other, hother, hlive⟩ := (hsites owner site hsite).1
      rcases mem_split_cases (hhooks ▸ hother) with rfl | hother
      · exact ⟨_, mem_append_right _ mem_cons_self, hlive⟩
      · exact ⟨other, hother _, hlive⟩
    · simp only [forall_mem_append, forall_mem_cons]
      exact ⟨hbackup.1, fun _ _ h => absurd h (Option.not_mem_none _), hbackup.2.2⟩
    · dsimp only
      cases hsaved : hook.backup address with
      | some byte => exact Or.inl (hbackup.2.1 address byte hsaved)
      | none =>
        rw [Option.getD_none]
        refine (hchanged address).imp_right (Or.imp_left ?_)
        rintro ⟨other, hother, hlive, hown, hpatch⟩
        rcases mem_split_cases (hhooks ▸ hother) with rfl | hother
        · exact absurd hsaved hown
        · exact ⟨other, hother _, hlive, hown, hpatch⟩
  | finishUnhook before after hook released restored hhooks hbackend hreleased hrestored hlast =>
    obtain ⟨hsound, hsites, hbackup, hchanged⟩ := h
    simp only [hhooks, forall_mem_append, forall_mem_cons] at hsound hbackup
    refine ⟨?_, fun owner site hsite => ?_, ?_, fun address => ?_⟩
    · simpa only [forall_mem_append, forall_mem_cons] using hsound
    · obtain ⟨hsite, hkept⟩ := mem_filter.mp hsite
      obtain ⟨other, hother, hlive⟩ := hlast owner site hsite (by simpa using hkept)
      refine ⟨⟨other, ?_, hlive⟩, (hsites owner site hsite).2⟩
      exact (mem_append.mp hother).elim (mem_append_left _) fun h =>
        mem_append_right _ (mem_cons_of_mem _ h)
    · simpa only [forall_mem_append, forall_mem_cons] using hbackup
    · dsimp only
      rcases hrestored address with hsame | ⟨owner, site, hsite, patched, hreplaces⟩
      · rw [hsame]
        rcases hchanged address with hpristine | ⟨other, hother, hlive, hown, hpatch⟩ |
          ⟨owner, site, hsite, hreplaces⟩
        · exact Or.inl hpristine
        · rcases mem_split_cases (hhooks ▸ hother) with rfl | hother
          · exact absurd (congrFun hbackend address) hown
          · exact Or.inr (Or.inl ⟨other, hother _, hlive, hown, hpatch⟩)
        · cases hgone : released site with
          | true => exact Or.inl (hsame.symm.trans (hreleased owner site hsite hgone _ _ _ hreplaces))
          | false =>
            refine Or.inr (Or.inr ⟨owner, site, mem_filter.mpr ⟨hsite, ?_⟩, hreplaces⟩)
            rw [hgone, Bool.not_false]
      · exact Or.inl ((hsites owner site hsite).2 _ _ _ hreplaces)

end Registry

end DartPlant
