import Esptool.PatchUniqueness

/-!
# The compat patch

The six bytes at the located site are rewritten between two changes of the
page protection.  A call that fails leaves the image as it was.  A call that
succeeds leaves a site that the search finds again: the new bytes occur in
none of the patterns around a site, so they neither make nor break another
one.  What they can break is the header, when the site lies in it; the run
theorem is about the images where it does not.
-/

namespace Esptool.Esp

def kPageExecuteReadWrite : ℕ := 0x40

structure ProtectCall where
  rva : ℕ
  size : ℕ
  newProtect : ℕ
deriving DecidableEq, Repr

/-- What the protect hook answers to its first and to its second call: the
old protection, or the error code. -/
abbrev ProtectHook := ℕ → ProtectCall → Except ℕ ℕ

/-- The hooks of a patch call.  `moduleBase` says whether the module is
loaded; the digest hook only feeds a log line and is left out. -/
structure CompatPatchHooks where
  moduleBase : Option Bool
  protect : Option ProtectHook

structure PatchOutcome where
  result : Bool
  error : String := ""
  protects : List ProtectCall := []
  image : MappedImage

def writeBytes (memory : ℕ → UInt8) (offset : ℕ) (bytes : List UInt8) :
    ℕ → UInt8 := fun cell =>
  if offset ≤ cell ∧ cell < offset + bytes.length then
    bytes.getD (cell - offset) 0
  else memory cell

def MappedImage.write (image : MappedImage) (offset : ℕ)
    (bytes : List UInt8) : MappedImage :=
  { image with memory := writeBytes image.memory offset bytes }

@[simp] theorem MappedImage.write_memory (image : MappedImage) (offset : ℕ)
    (bytes : List UInt8) :
    (image.write offset bytes).memory = writeBytes image.memory offset bytes :=
  rfl

def win32Message (context : String) (code : ℕ) : String :=
  context ++ " (error " ++ toString code ++ ")"

def upperHex (value : ℕ) : String :=
  String.ofList ((Nat.toDigits 16 value).map Char.toUpper)

/-- The writes of the patch, once the site is known to hold the original
bytes. -/
def rewriteSite (protect : ProtectHook) (image : MappedImage) (rva : ℕ)
    (current : List UInt8) : PatchOutcome :=
  let unlock : ProtectCall := ⟨rva, current.length, kPageExecuteReadWrite⟩
  match protect 0 unlock with
  | .error code =>
      ⟨false, win32Message "VirtualProtect failed" code, [unlock], image⟩
  | .ok originalProtect =>
      let patched := image.write rva kFromFfiPatchedBytes
      let restore : ProtectCall := ⟨rva, current.length, originalProtect⟩
      match protect 1 restore with
      | .error code =>
          ⟨false, win32Message ("VirtualProtect restore failed after the " ++
              "enforce-compat patch; the patch was reverted") code,
            [unlock, restore], patched.write rva current⟩
      | .ok _ => ⟨true, "", [unlock, restore], patched⟩

def applyFromFfiCompatPatchWithHooks (hooks : CompatPatchHooks)
    (image : MappedImage) : PatchOutcome :=
  match hooks.moduleBase, hooks.protect with
  | some loaded, some protect =>
      if !loaded then
        ⟨false, "espclient.dll is not loaded in this process", [], image⟩
      else
        let located := findFromFfiPatchSite (some image)
        if !located.result then
          ⟨false, located.error, [], image⟩
        else
          let rva := located.outRva
          let current :=
            (List.range' rva kFromFfiPatchBytes).map image.memory
          if current = kFromFfiPatchedBytes then
            ⟨true, "", [], image⟩
          else if current ≠ kFromFfiOriginalBytes then
            ⟨false, "espclient.dll EventModify::from_ffi bytes at RVA 0x" ++
              upperHex rva ++ " match neither the original nor the patched " ++
              "pattern; refusing the enforce-compat patch", [], image⟩
          else
            rewriteSite protect image rva current
  | _, _ =>
      ⟨false, "the enforce-compat patch hooks are incomplete", [], image⟩

/-! ## Bytes under a write -/

section

variable {memory : ℕ → UInt8} {offset : ℕ} {bytes : List UInt8}

theorem writeBytes_outside {cell : ℕ}
    (h : cell < offset ∨ offset + bytes.length ≤ cell) :
    writeBytes memory offset bytes cell = memory cell := by
  unfold writeBytes
  rw [if_neg (by omega)]

theorem writeBytes_inside {i : ℕ} (h : i < bytes.length) :
    writeBytes memory offset bytes (offset + i) = bytes[i] := by
  have hinside : offset ≤ offset + i ∧ offset + i < offset + bytes.length :=
    ⟨Nat.le_add_right offset i, Nat.add_lt_add_left h offset⟩
  have hindex : offset + i - offset = i :=
    Nat.add_sub_cancel_left offset i
  unfold writeBytes
  rw [if_pos hinside, hindex, List.getD_eq_getElem?_getD,
    List.getElem?_eq_getElem h, Option.getD_some]

theorem holdsAt_writeBytes :
    HoldsAt (writeBytes memory offset bytes) offset bytes :=
  fun _ h => writeBytes_inside h

theorem HoldsAt.range' {pattern : List UInt8}
    (h : HoldsAt memory offset pattern) :
    (List.range' offset pattern.length).map memory = pattern := by
  apply List.ext_getElem
  · simp
  · intro i _ hi
    simpa using h i hi

/-- Writing back what was there undoes a write. -/
theorem writeBytes_restore {current : List UInt8}
    (hlength : current.length = bytes.length)
    (hcurrent : HoldsAt memory offset current) :
    writeBytes (writeBytes memory offset bytes) offset current = memory := by
  funext cell
  by_cases hcell : offset ≤ cell ∧ cell < offset + current.length
  · obtain ⟨i, rfl⟩ := Nat.exists_eq_add_of_le hcell.1
    have hi : i < current.length := by omega
    rw [writeBytes_inside hi, hcurrent i hi]
  · rw [writeBytes_outside (by omega), writeBytes_outside (by omega)]

theorem MappedImage.write_restore {image : MappedImage}
    {current : List UInt8} (hlength : current.length = bytes.length)
    (hcurrent : HoldsAt image.memory offset current) :
    (image.write offset bytes).write offset current = image := by
  unfold MappedImage.write
  rw [writeBytes_restore hlength hcurrent]

end

/-! ## The patterns after the rewrite -/

section

variable {memory : ℕ → UInt8} {rva : ℕ}

/-- A byte that the patch does not write was there before. -/
theorem foreign_of_rewritten {cell : ℕ} {byte : UInt8}
    (hforeign : byte ∉ kFromFfiPatchedBytes)
    (h : writeBytes memory rva kFromFfiPatchedBytes cell = byte) :
    memory cell = byte := by
  by_cases hcell :
      rva ≤ cell ∧ cell < rva + kFromFfiPatchedBytes.length
  · obtain ⟨i, rfl⟩ := Nat.exists_eq_add_of_le hcell.1
    have hi : i < kFromFfiPatchedBytes.length := by omega
    rw [writeBytes_inside hi] at h
    exact absurd (h ▸ List.getElem_mem hi) hforeign
  · rwa [writeBytes_outside (by omega)] at h

theorem HoldsAt.of_rewritten {p : ℕ} {pattern : List UInt8}
    (hforeign : ∀ byte ∈ pattern, byte ∉ kFromFfiPatchedBytes)
    (h : HoldsAt (writeBytes memory rva kFromFfiPatchedBytes) p pattern) :
    HoldsAt memory p pattern := by
  intro i hi
  exact foreign_of_rewritten (hforeign _ (List.getElem_mem hi)) (h i hi)

theorem HoldsAt.rewritten_of_outside {p : ℕ} {pattern bytes : List UInt8}
    (houtside : p + pattern.length ≤ rva ∨ rva + bytes.length ≤ p) :
    HoldsAt (writeBytes memory rva bytes) p pattern ↔
      HoldsAt memory p pattern := by
  have hsame : ∀ i < pattern.length,
      writeBytes memory rva bytes (p + i) = memory (p + i) := by
    intro i hi
    exact writeBytes_outside (by omega)
  constructor
  · intro h i hi
    rw [← hsame i hi]
    exact h i hi
  · intro h i hi
    rw [hsame i hi]
    exact h i hi

/-- The new bytes overlap themselves at no shift: their first byte occurs
only once. -/
theorem patched_apart {p : ℕ}
    (h : HoldsAt (writeBytes memory rva kFromFfiPatchedBytes) p
      kFromFfiPatchedBytes) : p = rva ∨ p + 6 ≤ rva ∨ rva + 6 ≤ p := by
  by_contra hoverlap
  have hself : HoldsAt (writeBytes memory rva kFromFfiPatchedBytes) rva
      kFromFfiPatchedBytes := holdsAt_writeBytes
  have hlater : ∀ i (hi : i < kFromFfiPatchedBytes.length), 0 < i →
      kFromFfiPatchedBytes[i] ≠ 0x39 := by
    decide
  have hlength : kFromFfiPatchedBytes.length = 6 := rfl
  rcases Nat.lt_or_ge p rva with hlt | hge
  · obtain ⟨i, rfl⟩ := Nat.exists_eq_add_of_le hlt.le
    have hi : i < kFromFfiPatchedBytes.length := by omega
    apply hlater i hi (by omega)
    rw [← h i hi]
    exact hself 0 (by decide)
  · obtain ⟨i, rfl⟩ := Nat.exists_eq_add_of_le hge
    have hi : i < kFromFfiPatchedBytes.length := by omega
    apply hlater i hi (by omega)
    rw [← hself i hi]
    exact h 0 (by decide)

theorem pattern_of_rewritten {p : ℕ}
    (hsite : HoldsAt memory rva kFromFfiOriginalBytes)
    (h : HoldsAt (writeBytes memory rva kFromFfiPatchedBytes) p
        kFromFfiOriginalBytes ∨
      HoldsAt (writeBytes memory rva kFromFfiPatchedBytes) p
        kFromFfiPatchedBytes) :
    HoldsAt memory p kFromFfiOriginalBytes ∨
      HoldsAt memory p kFromFfiPatchedBytes := by
  rcases h with h | h
  · exact .inl (h.of_rewritten (by decide +kernel))
  · rcases patched_apart h with rfl | hapart
    · exact .inl hsite
    · exact .inr ((HoldsAt.rewritten_of_outside hapart).mp h)

theorem JeAt.of_rewritten {nextInst secEnd jeLen : ℕ}
    (h : JeAt (writeBytes memory rva kFromFfiPatchedBytes) nextInst secEnd
      jeLen) : JeAt memory nextInst secEnd jeLen := by
  rcases h with ⟨hshort, hlen⟩ | ⟨hfirst, hsecond, hrest⟩
  · exact .inl ⟨foreign_of_rewritten (by decide) hshort, hlen⟩
  · exact .inr ⟨foreign_of_rewritten (by decide) hfirst,
      foreign_of_rewritten (by decide) hsecond, hrest⟩

/-- The rewrite makes no new site. -/
theorem CandidateSite.of_rewritten {candidate secStart secEnd : ℕ}
    (hsite : HoldsAt memory rva kFromFfiOriginalBytes)
    (h : CandidateSite (writeBytes memory rva kFromFfiPatchedBytes)
      candidate secStart secEnd) :
    CandidateSite memory candidate secStart secEnd := by
  obtain ⟨before, hbefore, hnear, hend, hpreceding⟩ := h.preceding
  obtain ⟨jeLen, hje, after, hafter, hfits, hwithin, hfollowing⟩ :=
    h.following
  exact
    { starts := h.starts
      fits := h.fits
      pattern := pattern_of_rewritten hsite h.pattern
      preceding := ⟨before, hbefore, hnear, hend,
        hpreceding.of_rewritten (by decide +kernel)⟩
      following := ⟨jeLen, hje.of_rewritten, after, hafter, hfits, hwithin,
        hfollowing.of_rewritten (by decide +kernel)⟩ }

/-- The rewritten site is still one. -/
theorem CandidateSite.rewritten {secStart secEnd : ℕ}
    (h : CandidateSite memory rva secStart secEnd) :
    CandidateSite (writeBytes memory rva kFromFfiPatchedBytes) rva secStart
      secEnd := by
  have hlength : kFromFfiPatchedBytes.length = 6 := rfl
  obtain ⟨before, hbefore, hnear, hend, hpreceding⟩ := h.preceding
  obtain ⟨jeLen, hje, after, hafter, hfits, hwithin, hfollowing⟩ :=
    h.following
  have hnext : ∀ cell, rva + 6 ≤ cell →
      writeBytes memory rva kFromFfiPatchedBytes cell = memory cell := by
    intro cell hcell
    exact writeBytes_outside (.inr hcell)
  exact
    { starts := h.starts
      fits := h.fits
      pattern := .inr holdsAt_writeBytes
      preceding := ⟨before, hbefore, hnear, hend,
        (HoldsAt.rewritten_of_outside (.inl hend)).mpr hpreceding⟩
      following := by
        refine ⟨jeLen, ?_, after, hafter, hfits, hwithin, ?_⟩
        · unfold JeAt
          rw [hnext _ (by omega), hnext _ (by omega)]
          exact hje
        · apply (HoldsAt.rewritten_of_outside (.inr _)).mpr hfollowing
          omega }

end

/-! ## Finding the rewritten site again -/

/-- Rewriting the six bytes at the offset changes nothing that the headers
say. -/
def MappedImage.HeadersSpared (image : MappedImage) (rva : ℕ) : Prop :=
  (image.write rva kFromFfiPatchedBytes).sections = image.sections

instance (image : MappedImage) (rva : ℕ) :
    Decidable (image.HeadersSpared rva) :=
  inferInstanceAs (Decidable (_ = _))

/-- A site outside the bytes that the headers were read from spares them. -/
theorem headersSpared_of_outside {image : MappedImage} {rva : ℕ}
    (h : ∀ cell ∈
        (readMappedImageSections image.region).touched image.memory,
      cell < rva ∨ rva + kFromFfiPatchBytes ≤ cell) :
    image.HeadersSpared rva := by
  apply Probe.value_congr
  intro cell hcell
  exact writeBytes_outside (h cell hcell)

theorem MappedImage.HeadersSpared.execSections {image : MappedImage}
    {rva : ℕ} (h : image.HeadersSpared rva) :
    (image.write rva kFromFfiPatchedBytes).execSections =
      image.execSections := by
  unfold MappedImage.execSections
  rw [h]

theorem exists_sections_of_found {image : MappedImage}
    (h : (findFromFfiPatchSite (some image)).result = true) :
    ∃ sections, image.sections = .ok sections := by
  cases hsections : image.sections with
  | error message =>
      rw [findFromFfiPatchSite_of_error hsections] at h
      cases h
  | ok sections => exact ⟨sections, rfl⟩

section

variable {image : MappedImage} {rva : ℕ}

theorem validOffset_of_rewritten (hspared : image.HeadersSpared rva)
    (hsite : HoldsAt image.memory rva kFromFfiOriginalBytes) {other : ℕ}
    (h : (image.write rva kFromFfiPatchedBytes).ValidOffset other) :
    image.ValidOffset other := by
  obtain ⟨sec, hsec, hvalid⟩ := h
  rw [hspared.execSections] at hsec
  rw [validateCandidateSite_iff, MappedImage.write_memory] at hvalid
  refine ⟨sec, hsec, ?_⟩
  rw [validateCandidateSite_iff]
  exact hvalid.of_rewritten hsite

theorem validOffset_rewritten (hspared : image.HeadersSpared rva)
    (h : image.ValidOffset rva) :
    (image.write rva kFromFfiPatchedBytes).ValidOffset rva := by
  obtain ⟨sec, hsec, hvalid⟩ := h
  rw [validateCandidateSite_iff] at hvalid
  refine ⟨sec, ?_, ?_⟩
  · rw [hspared.execSections]
    exact hsec
  · rw [validateCandidateSite_iff, MappedImage.write_memory]
    exact hvalid.rewritten

theorem knownOffset_of_rewritten (hspared : image.HeadersSpared rva)
    (hsite : HoldsAt image.memory rva kFromFfiOriginalBytes) {other : ℕ}
    (h : (image.write rva kFromFfiPatchedBytes).KnownOffset other) :
    image.KnownOffset other := by
  obtain ⟨hmem, sections, hsections, hpasses⟩ := h
  obtain ⟨hsize, sec, hfind, hvalid⟩ := hintPasses_iff.mp hpasses
  refine ⟨hmem, sections, hspared ▸ hsections, hintPasses_iff.mpr ?_⟩
  exact ⟨hsize, sec, hfind, hvalid.of_rewritten hsite⟩

theorem knownOffset_rewritten (hspared : image.HeadersSpared rva)
    (h : image.KnownOffset rva) :
    (image.write rva kFromFfiPatchedBytes).KnownOffset rva := by
  obtain ⟨hmem, sections, hsections, hpasses⟩ := h
  obtain ⟨hsize, sec, hfind, hvalid⟩ := hintPasses_iff.mp hpasses
  refine ⟨hmem, sections, hspared.trans hsections, hintPasses_iff.mpr ?_⟩
  exact ⟨hsize, sec, hfind, hvalid.rewritten⟩

/-- The search returns the rewritten site as it returned the original. -/
theorem found_rewritten (hspared : image.HeadersSpared rva)
    (hsite : HoldsAt image.memory rva kFromFfiOriginalBytes)
    (h : (findFromFfiPatchSite (some image)).result = true ∧
      (findFromFfiPatchSite (some image)).outRva = rva) :
    (findFromFfiPatchSite
        (some (image.write rva kFromFfiPatchedBytes))).result = true ∧
      (findFromFfiPatchSite
        (some (image.write rva kFromFfiPatchedBytes))).outRva = rva := by
  obtain ⟨sections, hsections⟩ := exists_sections_of_found h.1
  rw [findFromFfiPatchSite_iff (hspared.trans hsections)]
  rcases (findFromFfiPatchSite_iff hsections rva).mp h with
    ⟨hknown, honly⟩ | ⟨hnone, hvalid, honly⟩
  · refine .inl ⟨knownOffset_rewritten hspared hknown, ?_⟩
    intro other hother
    exact honly other (knownOffset_of_rewritten hspared hsite hother)
  · refine .inr ⟨?_, validOffset_rewritten hspared hvalid, ?_⟩
    · intro hint hhint
      exact hnone hint (knownOffset_of_rewritten hspared hsite hhint)
    · intro other hother
      exact honly other (validOffset_of_rewritten hspared hsite hother)

end

/-! ## One call -/

/-- The search returns a site that holds the patched bytes. -/
def MappedImage.Settled (image : MappedImage) : Prop :=
  (findFromFfiPatchSite (some image)).result = true ∧
    HoldsAt image.memory (findFromFfiPatchSite (some image)).outRva
      kFromFfiPatchedBytes

theorem holdsAt_of_range' {memory : ℕ → UInt8} {offset : ℕ}
    {pattern : List UInt8}
    (h : (List.range' offset pattern.length).map memory = pattern) :
    HoldsAt memory offset pattern := by
  rw [← memcmp_iff]
  simp [memcmp, copyBytes, h]

/-- All that a call with complete hooks on a loaded module can do. -/
theorem applyFromFfiCompatPatch_cases (protect : ProtectHook)
    (image : MappedImage) :
    let outcome :=
      applyFromFfiCompatPatchWithHooks ⟨some true, some protect⟩ image
    let located := findFromFfiPatchSite (some image)
    (outcome.result = false ∧ outcome.image = image) ∨
      (outcome.result = true ∧ outcome.protects = [] ∧
        outcome.image = image ∧ image.Settled) ∨
      (outcome.result = true ∧ located.result = true ∧
        HoldsAt image.memory located.outRva kFromFfiOriginalBytes ∧
        outcome.image = image.write located.outRva kFromFfiPatchedBytes) := by
  intro outcome located
  have houtcome : outcome =
      applyFromFfiCompatPatchWithHooks ⟨some true, some protect⟩ image := rfl
  clear_value outcome
  unfold applyFromFfiCompatPatchWithHooks at houtcome
  simp only [Bool.not_true, Bool.false_eq_true, if_false] at houtcome
  by_cases hfound : located.result = true
  · have hguard : ¬ (!(findFromFfiPatchSite (some image)).result) = true := by
      simpa using hfound
    rw [if_neg hguard] at houtcome
    split at houtcome
    · rename_i hpatched
      subst houtcome
      exact .inr (.inl ⟨rfl, rfl, rfl, hfound, holdsAt_of_range' hpatched⟩)
    · split at houtcome
      · subst houtcome
        exact .inl ⟨rfl, rfl⟩
      · rename_i horiginal
        rw [ne_eq, not_not] at horiginal
        have hsite : HoldsAt image.memory located.outRva
            kFromFfiOriginalBytes := holdsAt_of_range' horiginal
        simp only [rewriteSite] at houtcome
        split at houtcome
        · subst houtcome
          exact .inl ⟨rfl, rfl⟩
        · split at houtcome
          · -- the restore failed and the old bytes are written back
            subst houtcome
            refine .inl ⟨rfl, ?_⟩
            rw [horiginal]
            exact MappedImage.write_restore rfl hsite
          · subst houtcome
            exact .inr (.inr ⟨rfl, hfound, hsite, rfl⟩)
  · have hguard : (!(findFromFfiPatchSite (some image)).result) = true := by
      simpa using hfound
    rw [if_pos hguard] at houtcome
    subst houtcome
    exact .inl ⟨rfl, rfl⟩

theorem applyFromFfiCompatPatch_settled {image : MappedImage}
    (h : image.Settled) (protect : ProtectHook) :
    applyFromFfiCompatPatchWithHooks ⟨some true, some protect⟩ image =
      ⟨true, "", [], image⟩ := by
  obtain ⟨hfound, hpatched⟩ := h
  have hcurrent : (List.range' (findFromFfiPatchSite (some image)).outRva
      kFromFfiPatchBytes).map image.memory = kFromFfiPatchedBytes :=
    hpatched.range'
  unfold applyFromFfiCompatPatchWithHooks
  simp only [Bool.not_true, Bool.false_eq_true, if_false, hfound]
  rw [if_pos hcurrent]

/-- A call that succeeds leaves a settled image. -/
theorem applyFromFfiCompatPatch_settles {image : MappedImage}
    {protect : ProtectHook}
    (hspared : (findFromFfiPatchSite (some image)).result = true →
      image.HeadersSpared (findFromFfiPatchSite (some image)).outRva)
    (h : (applyFromFfiCompatPatchWithHooks ⟨some true, some protect⟩
      image).result = true) :
    (applyFromFfiCompatPatchWithHooks ⟨some true, some protect⟩
      image).image.Settled := by
  rcases applyFromFfiCompatPatch_cases protect image with
    ⟨hfalse, -⟩ | ⟨-, -, himage, hsettled⟩ | ⟨-, hfound, hsite, himage⟩
  · rw [hfalse] at h
    cases h
  · rw [himage]
    exact hsettled
  · rw [himage]
    obtain ⟨hresult, hrva⟩ :=
      found_rewritten (hspared hfound) hsite ⟨hfound, rfl⟩
    refine ⟨hresult, ?_⟩
    rw [hrva, MappedImage.write_memory]
    exact holdsAt_writeBytes

/-! ## Runs of calls -/

/-- The calls of a run, each with the image before it; only the answers of the
protect hook vary. -/
def patchCalls (image : MappedImage) :
    List ProtectHook → List (MappedImage × PatchOutcome)
  | [] => []
  | protect :: rest =>
      let outcome :=
        applyFromFfiCompatPatchWithHooks ⟨some true, some protect⟩ image
      (image, outcome) :: patchCalls outcome.image rest

/-- A failed call changes no byte; a successful one changes at most the six
bytes of the located site, which then hold the patched pattern. -/
structure AtomicCall (call : MappedImage × PatchOutcome) : Prop where
  reverted : call.2.result = false → call.2.image.memory = call.1.memory
  patched : call.2.result = true →
    (findFromFfiPatchSite (some call.1)).result = true ∧
      (∀ cell, cell < (findFromFfiPatchSite (some call.1)).outRva ∨
          (findFromFfiPatchSite (some call.1)).outRva +
            kFromFfiPatchBytes ≤ cell →
        call.2.image.memory cell = call.1.memory cell) ∧
      HoldsAt call.2.image.memory
        (findFromFfiPatchSite (some call.1)).outRva kFromFfiPatchedBytes

/-- The call succeeds, asks for no protection and changes no byte. -/
structure IdleCall (call : MappedImage × PatchOutcome) : Prop where
  succeeds : call.2.result = true
  unprotected : call.2.protects = []
  unchanged : call.2.image.memory = call.1.memory

def AtomicAndIdempotent (calls : List (MappedImage × PatchOutcome)) : Prop :=
  (∀ call ∈ calls, AtomicCall call) ∧
    calls.Pairwise fun earlier later =>
      earlier.2.result = true → IdleCall later

theorem applyFromFfiCompatPatch_atomic (protect : ProtectHook)
    (image : MappedImage) :
    AtomicCall (image,
      applyFromFfiCompatPatchWithHooks ⟨some true, some protect⟩ image) := by
  rcases applyFromFfiCompatPatch_cases protect image with
    ⟨hfalse, himage⟩ | ⟨htrue, -, himage, hfound, hpatched⟩ |
      ⟨htrue, hfound, -, himage⟩
  · refine ⟨fun _ => congrArg MappedImage.memory himage, ?_⟩
    intro h
    rw [hfalse] at h
    cases h
  · refine ⟨fun _ => congrArg MappedImage.memory himage, fun _ => ?_⟩
    refine ⟨hfound, ?_, ?_⟩
    · intro cell _
      rw [himage]
    · rw [himage]
      exact hpatched
  · constructor
    · intro h
      rw [htrue] at h
      cases h
    · intro _
      refine ⟨hfound, ?_, ?_⟩
      · intro cell houtside
        rw [himage, MappedImage.write_memory]
        exact writeBytes_outside houtside
      · rw [himage, MappedImage.write_memory]
        exact holdsAt_writeBytes

theorem patchCalls_atomic (image : MappedImage)
    (protects : List ProtectHook) :
    ∀ call ∈ patchCalls image protects, AtomicCall call := by
  induction protects generalizing image with
  | nil =>
      intro call hcall
      cases hcall
  | cons protect rest ih =>
      intro call hcall
      rcases List.mem_cons.mp hcall with rfl | hcall
      · exact applyFromFfiCompatPatch_atomic protect image
      · exact ih _ call hcall

theorem patchCalls_settled {image : MappedImage} (h : image.Settled)
    (protects : List ProtectHook) :
    ∀ call ∈ patchCalls image protects, IdleCall call := by
  induction protects with
  | nil =>
      intro call hcall
      cases hcall
  | cons protect rest ih =>
      intro call hcall
      rw [patchCalls, applyFromFfiCompatPatch_settled h] at hcall
      rcases List.mem_cons.mp hcall with rfl | hcall
      · exact ⟨rfl, rfl, rfl⟩
      · exact ih call hcall

/-- Every run of patch calls whose sites spare the headers is atomic and
idempotent. -/
theorem patchCalls_atomicAndIdempotent (image : MappedImage)
    (protects : List ProtectHook)
    (hspared : ∀ call ∈ patchCalls image protects,
      (findFromFfiPatchSite (some call.1)).result = true →
        call.1.HeadersSpared (findFromFfiPatchSite (some call.1)).outRva) :
    AtomicAndIdempotent (patchCalls image protects) := by
  refine ⟨patchCalls_atomic image protects, ?_⟩
  induction protects generalizing image with
  | nil => exact List.Pairwise.nil
  | cons protect rest ih =>
      rw [patchCalls] at hspared ⊢
      rw [List.pairwise_cons]
      constructor
      · intro later hlater hsuccess
        have hsettled := applyFromFfiCompatPatch_settles
          (hspared _ List.mem_cons_self) hsuccess
        exact patchCalls_settled hsettled rest later hlater
      · apply ih
        intro call hcall
        exact hspared call (List.mem_cons_of_mem _ hcall)

def acceptingProtect : ProtectHook := fun _ call => .ok call.newProtect

def oneSiteImage : MappedImage where
  memory := imageBytes (headerBlocks 64 0x50000 ++ [siteBlock 0x48515])
  region := .ok ⟨0, 0x50000⟩

theorem patchCalls_oneSite :
    (∀ call ∈ patchCalls oneSiteImage
        [fun _ _ => .error 5, acceptingProtect, acceptingProtect],
      (findFromFfiPatchSite (some call.1)).result = true →
        call.1.HeadersSpared (findFromFfiPatchSite (some call.1)).outRva) ∧
      AtomicAndIdempotent (patchCalls oneSiteImage
        [fun _ _ => .error 5, acceptingProtect, acceptingProtect]) := by
  have hspared : ∀ call ∈ patchCalls oneSiteImage
        [fun _ _ => .error 5, acceptingProtect, acceptingProtect],
      (findFromFfiPatchSite (some call.1)).result = true →
        call.1.HeadersSpared (findFromFfiPatchSite (some call.1)).outRva := by
    decide +kernel
  exact ⟨hspared, patchCalls_atomicAndIdempotent _ _ hspared⟩

/-- The check lies over the end of the DOS header, and its last four bytes are
the offset of the NT headers. -/
def overlappingImage : MappedImage where
  memory := imageBytes
    ((58, kFromFfiOriginalBytes) :: (50, kFromFfiPrecedingAnchor) ::
      (64, [0x74, 0x10] ++ kFromFfiFollowingAnchor) ::
      headerBlocks 2000 80)
  region := .ok ⟨0, 4096⟩

theorem patchCalls_overlapping :
    ¬ AtomicAndIdempotent
      (patchCalls overlappingImage [acceptingProtect, acceptingProtect]) := by
  have hfirst : (applyFromFfiCompatPatchWithHooks
      ⟨some true, some acceptingProtect⟩ overlappingImage).result = true := by
    decide +kernel
  have hsecond : (applyFromFfiCompatPatchWithHooks
      ⟨some true, some acceptingProtect⟩
      (applyFromFfiCompatPatchWithHooks ⟨some true, some acceptingProtect⟩
        overlappingImage).image).result = false := by
    decide +kernel
  generalize overlappingImage = image at hfirst hsecond ⊢
  rintro ⟨-, hidle⟩
  rw [patchCalls, patchCalls, List.pairwise_cons] at hidle
  have hlater := (hidle.1 _ List.mem_cons_self hfirst).succeeds
  rw [hsecond] at hlater
  cases hlater

end Esptool.Esp
