import Esptool.Lib.Loops
import Esptool.Lib.Probe

/-!
# The `from_ffi` patch site

The six bytes of the client's event-type check are located in the mapped
`espclient.dll` by their own pattern, the conditional jump that follows and
two anchors around them.  Two known offsets are tried first; only when neither
passes are all executable sections scanned.

The image is read through probes, so a search has a value and the list of the
byte offsets, from the module base, that it examined.
-/

namespace Esptool.Esp

def kFromFfiOriginalBytes : List UInt8 := [0x81, 0xFA, 0xD0, 0x07, 0x00, 0x00]
def kFromFfiPatchedBytes : List UInt8 := [0x39, 0xD2, 0x90, 0x90, 0x90, 0x90]
def kFromFfiPatchBytes : ℕ := kFromFfiPatchedBytes.length
def kFromFfiPrecedingAnchor : List UInt8 :=
  [0x81, 0xFA, 0x3F, 0x1F, 0x00, 0x00]
def kFromFfiFollowingAnchor : List UInt8 :=
  [0x81, 0xFA, 0xBF, 0x0B, 0x00, 0x00]
def kFromFfiPrecedingMaxDistance : ℕ := 16
def kFromFfiFollowingMaxDistance : ℕ := 24
def kKnownCandidateRvas : List ℕ := [0x48515, 0x49C27]

abbrev ImageProbe := Probe ℕ UInt8

/-- What `VirtualQuery` tells about the region that holds the module base. -/
structure Region where
  offsetInRegion : ℕ
  regionSize : ℕ

/-- A mapped module: its bytes by their offset from the base, and the region
of its base or the error of the query. -/
structure MappedImage where
  memory : ℕ → UInt8
  region : Except String Region

/-! ## The PE headers -/

def kImageDosSignature : ℕ := 0x5A4D
def kImageNtSignature : ℕ := 0x4550
def kImageNtOptionalHdr64Magic : ℕ := 0x20B
def kImageScnMemExecute : ℕ := 0x20000000
def kImageDosHeaderBytes : ℕ := 64
def kImageNtHeaders64Bytes : ℕ := 264
def kImageFileHeaderBytes : ℕ := 20
def kImageSectionHeaderBytes : ℕ := 40
def kMaxPeHeaderOffset : ℕ := 0x10000000

def byteAt (bytes : List UInt8) (offset : ℕ) : ℕ :=
  (bytes.getD offset 0).toNat

def wordAt (bytes : List UInt8) (offset : ℕ) : ℕ :=
  byteAt bytes offset + 0x100 * byteAt bytes (offset + 1)

def dwordAt (bytes : List UInt8) (offset : ℕ) : ℕ :=
  wordAt bytes offset + 0x10000 * wordAt bytes (offset + 2)

/-- `memcpy` out of the image. -/
def copyBytes (offset size : ℕ) : ImageProbe (List UInt8) :=
  Probe.copy (List.range' offset size)

structure ExecutableSection where
  rva : ℕ := 0
  size : ℕ := 0
deriving DecidableEq, Repr

def ExecutableSection.limit (sec : ExecutableSection) : ℕ :=
  sec.rva + sec.size

structure ImageSections where
  imageSize : ℕ
  execSections : List ExecutableSection
deriving DecidableEq, Repr

/-- One turn of the loop over the section table. -/
def readSectionHeader (imageSize secTableOffset : ℕ)
    (execSections : List ExecutableSection) (i : ℕ) :
    ImageProbe (List ExecutableSection) := do
  let sec ← copyBytes (secTableOffset + i * kImageSectionHeaderBytes)
    kImageSectionHeaderBytes
  let virtualSize := dwordAt sec 8
  let virtualAddress := dwordAt sec 12
  let sizeOfRawData := dwordAt sec 16
  let characteristics := dwordAt sec 36
  let secSize := if virtualSize ≠ 0 then virtualSize else sizeOfRawData
  if characteristics &&& kImageScnMemExecute ≠ 0 ∧
      virtualAddress < imageSize ∧ secSize > 0 then
    return execSections ++ [⟨virtualAddress, secSize⟩]
  else
    return execSections

/-- The section table, once the NT headers are known to be in the region. -/
def readSectionTable (region : Region) (ntOffset : ℕ) (nt : List UInt8) :
    ImageProbe (Except String ImageSections) :=
  let imageSize := dwordAt nt 80
  let numSections := wordAt nt 6
  let secTableOffset := ntOffset + 4 + kImageFileHeaderBytes + wordAt nt 20
  if numSections = 0 then
    pure (.ok ⟨imageSize, [⟨0, imageSize⟩]⟩)
  else if region.offsetInRegion + secTableOffset +
      numSections * kImageSectionHeaderBytes > region.regionSize then
    pure (.error
      "the mapped module's section headers lie outside the committed region")
  else do
    let execSections ← Probe.fold (readSectionHeader imageSize secTableOffset)
      (List.range numSections) []
    return .ok ⟨imageSize,
      if execSections.isEmpty then [⟨0, imageSize⟩] else execSections⟩

def readMappedImageSections (region : Except String Region) :
    ImageProbe (Except String ImageSections) := do
  let dos ← copyBytes 0 kImageDosHeaderBytes
  let ntOffset := dwordAt dos 60
  if wordAt dos 0 ≠ kImageDosSignature then
    return .error "the mapped module has no DOS header (MZ signature)"
  else if ntOffset < kImageDosHeaderBytes ∨ ntOffset > kMaxPeHeaderOffset then
    return .error "the mapped module's PE header offset is out of range"
  else
    match region with
    | .error message => return .error message
    | .ok region =>
        if region.offsetInRegion + ntOffset + kImageNtHeaders64Bytes >
            region.regionSize then
          return .error
            "the mapped module's PE header lies outside the committed region"
        else
          let nt ← copyBytes ntOffset kImageNtHeaders64Bytes
          if dwordAt nt 0 ≠ kImageNtSignature then
            return .error "the mapped module has no PE header"
          else if wordAt nt 24 ≠ kImageNtOptionalHdr64Magic then
            return .error "the mapped module is not a PE32+ image"
          else
            readSectionTable region ntOffset nt

/-! ## One candidate -/

/-- `memcmp(...) == 0`: all the bytes are compared. -/
def memcmp (offset : ℕ) (pattern : List UInt8) : ImageProbe Bool := do
  let bytes ← copyBytes offset pattern.length
  return bytes == pattern

/-- The length of the `je` at `nextInst`, short or near. -/
def jeLength (nextInst secEnd : ℕ) : ImageProbe (Option ℕ) :=
  .read nextInst fun short =>
    if short = 0x74 then
      pure (some 2)
    else if nextInst + 6 ≤ secEnd then
      .read nextInst fun first =>
        if first = 0x0F then
          .read (nextInst + 1) fun second =>
            pure (if second = 0x84 then some 6 else none)
        else
          pure none
    else
      pure none

/-- Look for an anchor of six bytes at every offset of a window. -/
def findAnchor (anchor : List UInt8) (start length : ℕ) : ImageProbe Bool :=
  Probe.anyOf (fun p => memcmp p anchor)
    (List.range' start (length + 1 - anchor.length))

/-- The two anchors around a candidate that is followed by a `je`. -/
def findAnchors (candidate secStart secEnd jeLen : ℕ) : ImageProbe Bool := do
  let lookback := min (candidate - secStart) kFromFfiPrecedingMaxDistance
  let hasPrecedingAnchor ←
    findAnchor kFromFfiPrecedingAnchor (candidate - lookback) lookback
  if !hasPrecedingAnchor then
    return false
  else
    let lookaheadStart := candidate + kFromFfiPatchBytes + jeLen
    if lookaheadStart + kFromFfiFollowingAnchor.length > secEnd then
      return false
    else
      let lookahead :=
        min (secEnd - lookaheadStart) kFromFfiFollowingMaxDistance
      findAnchor kFromFfiFollowingAnchor lookaheadStart lookahead

def validateCandidateSite (candidate secStart secEnd : ℕ) :
    ImageProbe Bool :=
  if candidate < secStart ∨ candidate + kFromFfiPatchBytes + 2 > secEnd then
    pure false
  else do
    let isOriginal ← memcmp candidate kFromFfiOriginalBytes
    let isPatched ← memcmp candidate kFromFfiPatchedBytes
    if !isOriginal && !isPatched then
      return false
    else
      match ← jeLength (candidate + kFromFfiPatchBytes) secEnd with
      | none => return false
      | some jeLen => findAnchors candidate secStart secEnd jeLen

/-! ## The search -/

def checkHint (sections : ImageSections) (found : List ℕ) (hintRva : ℕ) :
    ImageProbe (List ℕ) :=
  if hintRva + kFromFfiPatchBytes > sections.imageSize then
    pure found
  else
    -- the loop over the sections stops at the first that holds the hint
    match sections.execSections.find? fun sec =>
        sec.rva ≤ hintRva ∧ hintRva + kFromFfiPatchBytes ≤ sec.limit with
    | none => pure found
    | some sec => do
        if ← validateCandidateSite hintRva sec.rva sec.limit then
          return found ++ [hintRva]
        else
          return found

def scanAt (sec : ExecutableSection) (found : List ℕ) (p : ℕ) :
    ImageProbe (List ℕ) := do
  if ← validateCandidateSite p sec.rva sec.limit then
    return if p ∈ found then found else found ++ [p]
  else
    return found

/-- The offsets of a section at which the pattern and a short jump fit. -/
def ExecutableSection.candidates (sec : ExecutableSection) : List ℕ :=
  if sec.size < kFromFfiPatchBytes + 2 then []
  else List.range' sec.rva (sec.size - (kFromFfiPatchBytes + 2) + 1)

def scanSection (found : List ℕ) (sec : ExecutableSection) :
    ImageProbe (List ℕ) :=
  Probe.fold (scanAt sec) sec.candidates found

def findMatches (sections : ImageSections) : ImageProbe (List ℕ) := do
  let hints ← Probe.fold (checkHint sections) kKnownCandidateRvas []
  if hints.isEmpty then
    Probe.fold scanSection sections.execSections hints
  else
    return hints

structure PatchSearch where
  result : Bool
  outRva : ℕ
  error : String
deriving DecidableEq, Repr

def searchResult : List ℕ → PatchSearch
  | [] => ⟨false, 0,
      "could not locate EventModify::from_ffi patch site in espclient.dll " ++
        "(signature not found or context anchors mismatched)"⟩
  | [rva] => ⟨true, rva, ""⟩
  | found => ⟨false, 0,
      "ambiguous EventModify::from_ffi patch site in espclient.dll (" ++
        toString found.length ++ " matches found)"⟩

def searchImage (region : Except String Region) : ImageProbe PatchSearch := do
  match ← readMappedImageSections region with
  | .error message => return ⟨false, 0, message⟩
  | .ok sections =>
      let found ← findMatches sections
      return searchResult found

def findFromFfiPatchSite (moduleBase : Option MappedImage) : PatchSearch :=
  match moduleBase with
  | none => ⟨false, 0, "module base is null"⟩
  | some image => (searchImage image.region).value image.memory

/-! ## What a valid candidate is -/

/-- The image holds the pattern at the offset. -/
def HoldsAt (memory : ℕ → UInt8) (offset : ℕ) (pattern : List UInt8) : Prop :=
  ∀ i (h : i < pattern.length), memory (offset + i) = pattern[i]

/-- A `je` of `jeLen` bytes starts at `nextInst`. -/
def JeAt (memory : ℕ → UInt8) (nextInst secEnd jeLen : ℕ) : Prop :=
  (memory nextInst = 0x74 ∧ jeLen = 2) ∨
    (memory nextInst = 0x0F ∧ memory (nextInst + 1) = 0x84 ∧
      nextInst + 6 ≤ secEnd ∧ jeLen = 6)

/-- The check, the jump and the two anchors, all within one section. -/
structure CandidateSite (memory : ℕ → UInt8)
    (candidate secStart secEnd : ℕ) : Prop where
  starts : secStart ≤ candidate
  fits : candidate + 8 ≤ secEnd
  pattern : HoldsAt memory candidate kFromFfiOriginalBytes ∨
    HoldsAt memory candidate kFromFfiPatchedBytes
  preceding : ∃ p, secStart ≤ p ∧ candidate ≤ p + 16 ∧ p + 6 ≤ candidate ∧
    HoldsAt memory p kFromFfiPrecedingAnchor
  following : ∃ jeLen, JeAt memory (candidate + 6) secEnd jeLen ∧
    ∃ p, candidate + 6 + jeLen ≤ p ∧ p + 6 ≤ secEnd ∧
      p + 6 ≤ candidate + 6 + jeLen + 24 ∧
      HoldsAt memory p kFromFfiFollowingAnchor

variable {memory : ℕ → UInt8}

theorem memcmp_iff (offset : ℕ) (pattern : List UInt8) :
    (memcmp offset pattern).value memory = true ↔
      HoldsAt memory offset pattern := by
  simp only [memcmp, copyBytes, Probe.value_bind, Probe.value_copy,
    Probe.value_pure, beq_iff_eq, HoldsAt]
  constructor
  · intro h i hi
    have hbyte : ((List.range' offset pattern.length).map memory)[i]? =
        pattern[i]? := by rw [h]
    simpa [hi] using hbyte
  · intro h
    apply List.ext_getElem
    · simp
    · intro i _ hi
      simpa using h i hi

theorem jeLength_iff (nextInst secEnd jeLen : ℕ) :
    (jeLength nextInst secEnd).value memory = some jeLen ↔
      JeAt memory nextInst secEnd jeLen := by
  unfold JeAt
  simp only [jeLength, Probe.value]
  by_cases hshort : memory nextInst = 0x74
  · simp [hshort, eq_comm]
  · by_cases hroom : nextInst + 6 ≤ secEnd
    · by_cases hfirst : memory nextInst = 0x0F
      · by_cases hsecond : memory (nextInst + 1) = 0x84
        · simp [hroom, hfirst, hsecond, Probe.value, eq_comm]
        · simp [hroom, hfirst, hsecond, Probe.value]
      · simp [hshort, hroom, hfirst, Probe.value]
    · simp [hshort, hroom]

theorem findAnchor_iff (anchor : List UInt8) (start length : ℕ) :
    (findAnchor anchor start length).value memory = true ↔
      ∃ p, start ≤ p ∧ p < start + (length + 1 - anchor.length) ∧
        HoldsAt memory p anchor := by
  rw [findAnchor, Probe.value_anyOf, List.any_eq_true]
  simp only [memcmp_iff, List.mem_range'_1]
  constructor
  · rintro ⟨p, ⟨hstart, hlimit⟩, hp⟩
    exact ⟨p, hstart, hlimit, hp⟩
  · rintro ⟨p, hstart, hlimit, hp⟩
    exact ⟨p, ⟨hstart, hlimit⟩, hp⟩

theorem precedingAnchor_iff {candidate secStart : ℕ}
    (hstart : secStart ≤ candidate) :
    (findAnchor kFromFfiPrecedingAnchor
        (candidate - min (candidate - secStart) 16)
        (min (candidate - secStart) 16)).value memory = true ↔
      ∃ p, secStart ≤ p ∧ candidate ≤ p + 16 ∧ p + 6 ≤ candidate ∧
        HoldsAt memory p kFromFfiPrecedingAnchor := by
  rw [findAnchor_iff, show kFromFfiPrecedingAnchor.length = 6 from rfl]
  constructor
  · rintro ⟨p, hlow, hhigh, hp⟩
    exact ⟨p, by omega, by omega, by omega, hp⟩
  · rintro ⟨p, hsec, hnear, hend, hp⟩
    exact ⟨p, by omega, by omega, hp⟩

theorem findAnchors_iff {candidate secStart secEnd jeLen : ℕ}
    (hstart : secStart ≤ candidate) :
    (findAnchors candidate secStart secEnd jeLen).value memory = true ↔
      (∃ p, secStart ≤ p ∧ candidate ≤ p + 16 ∧ p + 6 ≤ candidate ∧
        HoldsAt memory p kFromFfiPrecedingAnchor) ∧
      ∃ p, candidate + 6 + jeLen ≤ p ∧ p + 6 ≤ secEnd ∧
        p + 6 ≤ candidate + 6 + jeLen + 24 ∧
        HoldsAt memory p kFromFfiFollowingAnchor := by
  have hafter : (findAnchor kFromFfiFollowingAnchor (candidate + 6 + jeLen)
      (min (secEnd - (candidate + 6 + jeLen)) 24)).value memory = true ↔
      ∃ p, candidate + 6 + jeLen ≤ p ∧ p + 6 ≤ secEnd ∧
        p + 6 ≤ candidate + 6 + jeLen + 24 ∧
        HoldsAt memory p kFromFfiFollowingAnchor := by
    rw [findAnchor_iff, show kFromFfiFollowingAnchor.length = 6 from rfl]
    constructor
    · rintro ⟨p, hlow, hhigh, hp⟩
      exact ⟨p, hlow, by omega, by omega, hp⟩
    · rintro ⟨p, hlow, hend, hnear, hp⟩
      exact ⟨p, hlow, by omega, hp⟩
  rw [← precedingAnchor_iff hstart, ← hafter]
  unfold findAnchors
  simp only [kFromFfiPrecedingMaxDistance, kFromFfiFollowingMaxDistance,
    show kFromFfiPatchBytes = 6 from rfl,
    show kFromFfiFollowingAnchor.length = 6 from rfl, Probe.value_bind]
  cases (findAnchor kFromFfiPrecedingAnchor
      (candidate - min (candidate - secStart) 16)
      (min (candidate - secStart) 16)).value memory with
  | false => simp
  | true =>
      by_cases hroom : candidate + 6 + jeLen + 6 > secEnd
      · -- no window is left, so the second search would fail as well
        have hnone : ¬ (findAnchor kFromFfiFollowingAnchor
            (candidate + 6 + jeLen)
            (min (secEnd - (candidate + 6 + jeLen)) 24)).value memory =
              true := by
          rw [hafter]
          rintro ⟨p, hlow, hend, -, -⟩
          omega
        simp [hroom, hnone]
      · simp [hroom]

/-- What `ValidateCandidateSite` decides. -/
theorem validateCandidateSite_iff (candidate secStart secEnd : ℕ) :
    (validateCandidateSite candidate secStart secEnd).value memory = true ↔
      CandidateSite memory candidate secStart secEnd := by
  unfold validateCandidateSite
  rw [show kFromFfiPatchBytes = 6 from rfl]
  by_cases hbounds : candidate < secStart ∨ candidate + 6 + 2 > secEnd
  · rw [if_pos hbounds]
    constructor
    · intro h
      simp at h
    · intro hsite
      have hstarts := hsite.starts
      have hfits := hsite.fits
      omega
  · rw [if_neg hbounds]
    have hstart : secStart ≤ candidate := by omega
    simp only [Probe.value_bind]
    by_cases hpattern : HoldsAt memory candidate kFromFfiOriginalBytes ∨
        HoldsAt memory candidate kFromFfiPatchedBytes
    · have hcompared : ((!(memcmp candidate kFromFfiOriginalBytes).value memory
          && !(memcmp candidate kFromFfiPatchedBytes).value memory) = true) ↔
          False := by
        rw [← memcmp_iff, ← memcmp_iff] at hpattern
        simp only [Bool.and_eq_true, Bool.not_eq_true', iff_false, not_and]
        rcases hpattern with h | h
        · simp [h]
        · simp [h]
      rw [if_neg hcompared.mp]
      cases hje : (jeLength (candidate + 6) secEnd).value memory with
      | none =>
          simp only [Probe.value_bind, hje, Probe.value_pure,
            Bool.false_eq_true, false_iff]
          intro hsite
          obtain ⟨jeLen, hjeAt, -⟩ := hsite.following
          rw [← jeLength_iff, hje] at hjeAt
          cases hjeAt
      | some jeLen =>
          simp only [Probe.value_bind, hje, findAnchors_iff hstart]
          constructor
          · rintro ⟨hbefore, hafter⟩
            exact ⟨hstart, by omega, hpattern, hbefore, jeLen,
              (jeLength_iff _ _ _).mp hje, hafter⟩
          · intro hsite
            obtain ⟨jeLen', hjeAt, hafter⟩ := hsite.following
            rw [← jeLength_iff, hje, Option.some.injEq] at hjeAt
            subst hjeAt
            exact ⟨hsite.preceding, hafter⟩
    · have hcompared : (!(memcmp candidate kFromFfiOriginalBytes).value memory
          && !(memcmp candidate kFromFfiPatchedBytes).value memory) =
          true := by
        rw [not_or, ← memcmp_iff, ← memcmp_iff] at hpattern
        simp [hpattern]
      rw [if_pos hcompared]
      simp only [Probe.value_pure, Bool.false_eq_true, false_iff]
      intro hsite
      exact hpattern hsite.pattern

/-! ## What the search collects -/

def hintPasses (memory : ℕ → UInt8) (sections : ImageSections)
    (hintRva : ℕ) : Bool :=
  decide (hintRva + kFromFfiPatchBytes ≤ sections.imageSize) &&
    match sections.execSections.find? fun sec =>
        sec.rva ≤ hintRva ∧ hintRva + kFromFfiPatchBytes ≤ sec.limit with
    | none => false
    | some sec =>
        (validateCandidateSite hintRva sec.rva sec.limit).value memory

theorem checkHint_value (sections : ImageSections) (found : List ℕ)
    (hintRva : ℕ) :
    (checkHint sections found hintRva).value memory =
      if hintPasses memory sections hintRva then found ++ [hintRva]
      else found := by
  unfold checkHint hintPasses
  by_cases hsize : hintRva + kFromFfiPatchBytes > sections.imageSize
  · rw [if_pos hsize, decide_eq_false (Nat.not_le.mpr hsize)]
    rfl
  · rw [if_neg hsize, decide_eq_true (Nat.not_lt.mp hsize), Bool.true_and]
    split
    · rfl
    · rw [Probe.value_bind]
      split <;> rfl

theorem hints_value (sections : ImageSections) (hints found : List ℕ) :
    (Probe.fold (checkHint sections) hints found).value memory =
      found ++ hints.filter (hintPasses memory sections) := by
  rw [Probe.value_fold]
  induction hints generalizing found with
  | nil => simp
  | cons hint rest ih =>
      rw [List.foldl_cons, ih, checkHint_value, List.filter_cons]
      split
      · rw [List.append_assoc, List.singleton_append]
      · rfl

theorem hintPasses_iff {sections : ImageSections} {hintRva : ℕ} :
    hintPasses memory sections hintRva = true ↔
      hintRva + kFromFfiPatchBytes ≤ sections.imageSize ∧
        ∃ sec, (sections.execSections.find? fun sec =>
            sec.rva ≤ hintRva ∧ hintRva + kFromFfiPatchBytes ≤ sec.limit) =
              some sec ∧
          CandidateSite memory hintRva sec.rva sec.limit := by
  unfold hintPasses
  rw [Bool.and_eq_true, decide_eq_true_iff]
  apply and_congr_right
  intro _
  split
  · rename_i hnone
    rw [hnone]
    simp
  · rename_i sec hsome
    rw [hsome]
    simp [validateCandidateSite_iff]

theorem hintPasses_valid {sections : ImageSections} {hintRva : ℕ}
    (h : hintPasses memory sections hintRva = true) :
    ∃ sec ∈ sections.execSections,
      CandidateSite memory hintRva sec.rva sec.limit := by
  obtain ⟨-, sec, hfind, hsite⟩ := hintPasses_iff.mp h
  exact ⟨sec, List.mem_of_find?_eq_some hfind, hsite⟩

theorem scanAt_value (sec : ExecutableSection) (found : List ℕ) (p : ℕ) :
    (scanAt sec found p).value memory =
      if (validateCandidateSite p sec.rva sec.limit).value memory then
        if p ∈ found then found else found ++ [p]
      else found := by
  unfold scanAt
  rw [Probe.value_bind]
  split <;> rfl

theorem mem_scanAt (sec : ExecutableSection) (found : List ℕ) (p rva : ℕ) :
    rva ∈ (scanAt sec found p).value memory ↔
      rva ∈ found ∨
        (CandidateSite memory p sec.rva sec.limit ∧ rva = p) := by
  rw [scanAt_value, ← validateCandidateSite_iff]
  by_cases hvalid :
      (validateCandidateSite p sec.rva sec.limit).value memory = true
  · rw [if_pos hvalid]
    by_cases hmem : p ∈ found
    · rw [if_pos hmem]
      constructor
      · exact Or.inl
      · rintro (h | ⟨-, rfl⟩)
        · exact h
        · exact hmem
    · rw [if_neg hmem, List.mem_append, List.mem_singleton]
      simp [hvalid]
  · rw [if_neg hvalid]
    simp [hvalid]

theorem CandidateSite.mem_candidates {sec : ExecutableSection} {rva : ℕ}
    (h : CandidateSite memory rva sec.rva sec.limit) :
    rva ∈ sec.candidates := by
  have hstarts := h.starts
  have hfits := h.fits
  unfold ExecutableSection.limit at hfits
  unfold ExecutableSection.candidates
  rw [show kFromFfiPatchBytes = 6 from rfl, if_neg (by omega),
    List.mem_range'_1]
  omega

theorem mem_scanSection (sec : ExecutableSection) (found : List ℕ)
    (rva : ℕ) :
    rva ∈ (scanSection found sec).value memory ↔
      rva ∈ found ∨ CandidateSite memory rva sec.rva sec.limit := by
  rw [scanSection, Probe.value_fold,
    Loops.mem_foldl_iff (fun st p rva => mem_scanAt sec st p rva)]
  apply or_congr Iff.rfl
  constructor
  · rintro ⟨p, -, hsite, rfl⟩
    exact hsite
  · intro hsite
    exact ⟨rva, hsite.mem_candidates, hsite, rfl⟩

theorem nodup_scanAt {sec : ExecutableSection} {found : List ℕ}
    (h : found.Nodup) (p : ℕ) : ((scanAt sec found p).value memory).Nodup := by
  rw [scanAt_value]
  split
  · split
    · exact h
    · rename_i hmem
      exact List.Nodup.append h (List.nodup_singleton p)
        (List.disjoint_singleton.mpr hmem)
  · exact h

theorem nodup_scanSection {sec : ExecutableSection} {found : List ℕ}
    (h : found.Nodup) : ((scanSection found sec).value memory).Nodup := by
  rw [scanSection, Probe.value_fold]
  apply List.foldlRecOn
  · exact h
  · intro st hst p _
    exact nodup_scanAt hst p

/-- The offsets at which the search looks for a site in vain or with
success: a known offset when one passes, every valid offset otherwise. -/
theorem findMatches_spec (sections : ImageSections) :
    ((findMatches sections).value memory).Nodup ∧
      ((∀ hint ∈ kKnownCandidateRvas,
          hintPasses memory sections hint = false) →
        ∀ rva, rva ∈ (findMatches sections).value memory ↔
          ∃ sec ∈ sections.execSections,
            CandidateSite memory rva sec.rva sec.limit) ∧
      ((∃ hint ∈ kKnownCandidateRvas,
          hintPasses memory sections hint = true) →
        ∀ rva, rva ∈ (findMatches sections).value memory ↔
          rva ∈ kKnownCandidateRvas ∧
            hintPasses memory sections rva = true) := by
  have hvalue : (findMatches sections).value memory =
      if (kKnownCandidateRvas.filter (hintPasses memory sections)).isEmpty
      then (Probe.fold scanSection sections.execSections []).value memory
      else kKnownCandidateRvas.filter (hintPasses memory sections) := by
    rw [findMatches, Probe.value_bind, hints_value, List.nil_append]
    split
    · rename_i hempty
      rw [List.isEmpty_iff.mp hempty]
    · rfl
  rw [hvalue]
  refine ⟨?_, ?_, ?_⟩
  · split
    · rw [Probe.value_fold]
      apply List.foldlRecOn
      · exact List.nodup_nil
      · intro st hst sec _
        exact nodup_scanSection hst
    · apply List.Nodup.filter
      decide
  · intro hnone rva
    have hempty :
        kKnownCandidateRvas.filter (hintPasses memory sections) = [] := by
      rw [List.filter_eq_nil_iff]
      intro hint hmem
      simp [hnone hint hmem]
    rw [hempty, List.isEmpty_nil, if_pos rfl, Probe.value_fold,
      Loops.mem_foldl_iff fun st sec rva => mem_scanSection sec st rva]
    simp
  · rintro ⟨hint, hmem, hpasses⟩ rva
    have hne :
        kKnownCandidateRvas.filter (hintPasses memory sections) ≠ [] := by
      apply List.ne_nil_of_mem
      exact List.mem_filter.mpr ⟨hmem, hpasses⟩
    rw [if_neg (by simpa using hne), List.mem_filter]

theorem searchResult_outRva {found : List ℕ}
    (h : (searchResult found).result = false) :
    (searchResult found).outRva = 0 := by
  unfold searchResult at h ⊢
  split at h
  · rfl
  · cases h
  · rfl

theorem searchResult_iff {found : List ℕ} (hnodup : found.Nodup) (rva : ℕ) :
    (searchResult found).result = true ∧ (searchResult found).outRva = rva ↔
      rva ∈ found ∧ ∀ other ∈ found, other = rva := by
  match found with
  | [] => simp [searchResult]
  | [only] =>
      simp only [searchResult, List.mem_singleton, forall_eq, true_and]
      constructor
      · rintro rfl
        exact ⟨rfl, rfl⟩
      · exact And.right
  | first :: second :: rest =>
      simp only [searchResult, Bool.false_eq_true, false_and, false_iff,
        not_and]
      intro _ hall
      have hfirst := hall first (by simp)
      have hsecond := hall second (by simp)
      rw [List.nodup_cons] at hnodup
      apply hnodup.1
      rw [hfirst, ← hsecond]
      exact List.mem_cons_self

end Esptool.Esp
