import Esptool.PatchSite

/-!
# Which offset the search returns

The search is meant to return an offset only when it is the one valid offset
of the image.  A scan of every section decides that, but the scan is left out
as soon as a known offset passes; the results below say exactly when leaving
it out matters.
-/

namespace Esptool.Esp

namespace MappedImage

def sections (image : MappedImage) : Except String ImageSections :=
  (readMappedImageSections image.region).value image.memory

def execSections (image : MappedImage) : List ExecutableSection :=
  match image.sections with
  | .error _ => []
  | .ok sections => sections.execSections

/-- `ValidateCandidateSite` holds at the offset in some executable section. -/
def ValidOffset (image : MappedImage) (rva : ℕ) : Prop :=
  ∃ sec ∈ image.execSections,
    (validateCandidateSite rva sec.rva sec.limit).value image.memory = true

/-- A known offset that lies in the image and is valid in the first section
that holds it. -/
def KnownOffset (image : MappedImage) (rva : ℕ) : Prop :=
  rva ∈ kKnownCandidateRvas ∧
    ∃ sections, image.sections = .ok sections ∧
      hintPasses image.memory sections rva = true

end MappedImage

theorem findFromFfiPatchSite_of_sections {image : MappedImage}
    {sections : ImageSections} (h : image.sections = .ok sections) :
    findFromFfiPatchSite (some image) =
      searchResult ((findMatches sections).value image.memory) := by
  unfold MappedImage.sections at h
  simp only [findFromFfiPatchSite, searchImage, Probe.value_bind, h,
    Probe.value_pure]

theorem findFromFfiPatchSite_of_error {image : MappedImage}
    {message : String} (h : image.sections = .error message) :
    findFromFfiPatchSite (some image) = ⟨false, 0, message⟩ := by
  unfold MappedImage.sections at h
  simp only [findFromFfiPatchSite, searchImage, Probe.value_bind, h,
    Probe.value_pure]

theorem validOffset_iff {image : MappedImage} {sections : ImageSections}
    (h : image.sections = .ok sections) (rva : ℕ) :
    image.ValidOffset rva ↔ ∃ sec ∈ sections.execSections,
      CandidateSite image.memory rva sec.rva sec.limit := by
  simp only [MappedImage.ValidOffset, MappedImage.execSections, h,
    validateCandidateSite_iff]

theorem knownOffset_iff {image : MappedImage} {sections : ImageSections}
    (h : image.sections = .ok sections) (rva : ℕ) :
    image.KnownOffset rva ↔ rva ∈ kKnownCandidateRvas ∧
      hintPasses image.memory sections rva = true := by
  simp [MappedImage.KnownOffset, h]

theorem MappedImage.KnownOffset.valid {image : MappedImage} {rva : ℕ}
    (h : image.KnownOffset rva) : image.ValidOffset rva := by
  obtain ⟨-, sections, hsections, hpasses⟩ := h
  rw [validOffset_iff hsections]
  exact hintPasses_valid hpasses

/-- What a search that returns an offset has established: the offset is the
one known offset that passes, or none passes and it is the one valid offset. -/
theorem findFromFfiPatchSite_iff {image : MappedImage}
    {sections : ImageSections} (h : image.sections = .ok sections) (rva : ℕ) :
    (findFromFfiPatchSite (some image)).result = true ∧
      (findFromFfiPatchSite (some image)).outRva = rva ↔
    (image.KnownOffset rva ∧
      ∀ other, image.KnownOffset other → other = rva) ∨
    ((∀ hint, ¬ image.KnownOffset hint) ∧ image.ValidOffset rva ∧
      ∀ other, image.ValidOffset other → other = rva) := by
  obtain ⟨hnodup, hscan, hhints⟩ :=
    @findMatches_spec image.memory sections
  rw [findFromFfiPatchSite_of_sections h, searchResult_iff hnodup]
  by_cases hknown : ∃ hint, image.KnownOffset hint
  · have hmem : ∀ rva, rva ∈ (findMatches sections).value image.memory ↔
        image.KnownOffset rva := by
      obtain ⟨hint, hhint⟩ := hknown
      intro rva
      rw [knownOffset_iff h] at hhint ⊢
      exact hhints ⟨hint, hhint⟩ rva
    simp only [hmem]
    rw [or_iff_left]
    intro hnone
    obtain ⟨hint, hhint⟩ := hknown
    exact hnone.1 hint hhint
  · rw [not_exists] at hknown
    have hnone : ∀ hint ∈ kKnownCandidateRvas,
        hintPasses image.memory sections hint = false := by
      intro hint hmem
      rw [← Bool.not_eq_true]
      intro hpasses
      exact hknown hint ((knownOffset_iff h hint).mpr ⟨hmem, hpasses⟩)
    simp only [hscan hnone, ← validOffset_iff h]
    rw [or_iff_right]
    · exact (and_iff_right hknown).symm
    · intro hsome
      exact hknown rva hsome.1

/-- The search returns an offset exactly when it is the one valid offset,
unless a single known offset passes while another offset is valid too. -/
theorem findFromFfiPatchSite_unique_iff (image : MappedImage) :
    ((∀ rva, (findFromFfiPatchSite (some image)).result = true ∧
          (findFromFfiPatchSite (some image)).outRva = rva ↔
        image.ValidOffset rva ∧
          ∀ other, image.ValidOffset other → other = rva) ∧
      ((findFromFfiPatchSite (some image)).result = false →
        (findFromFfiPatchSite (some image)).outRva = 0)) ↔
    ¬ ∃ hint, image.KnownOffset hint ∧
      (∀ other, image.KnownOffset other → other = hint) ∧
      ∃ other, image.ValidOffset other ∧ other ≠ hint := by
  cases hsections : image.sections with
  | error message =>
      -- without sections nothing is valid, and the search gives up
      have hinvalid : ∀ rva, ¬ image.ValidOffset rva := by
        intro rva
        simp [MappedImage.ValidOffset, MappedImage.execSections, hsections]
      rw [findFromFfiPatchSite_of_error hsections]
      simp [hinvalid]
  | ok sections =>
      have hzero : (findFromFfiPatchSite (some image)).result = false →
          (findFromFfiPatchSite (some image)).outRva = 0 := by
        rw [findFromFfiPatchSite_of_sections hsections]
        exact searchResult_outRva
      rw [and_iff_left hzero]
      simp only [findFromFfiPatchSite_iff hsections]
      constructor
      · rintro hunique ⟨hint, hknown, honly, other, hvalid, hne⟩
        have hhint := (hunique hint).mp (.inl ⟨hknown, honly⟩)
        exact hne (hhint.2 other hvalid)
      · intro hclear rva
        constructor
        · rintro (⟨hknown, honly⟩ | ⟨-, hvalid⟩)
          · refine ⟨hknown.valid, ?_⟩
            intro other hvalid
            by_contra hne
            exact hclear ⟨rva, hknown, honly, other, hvalid, hne⟩
          · exact hvalid
        · rintro ⟨hvalid, honly⟩
          by_cases hsome : ∃ hint, image.KnownOffset hint
          · obtain ⟨hint, hknown⟩ := hsome
            have hhint : hint = rva := honly hint hknown.valid
            subst hhint
            exact .inl ⟨hknown, fun other hother => honly other hother.valid⟩
          · exact .inr ⟨not_exists.mp hsome, hvalid, honly⟩

/-! ## An image with two sites -/

/-- An image that is zero outside the given blocks. -/
def imageBytes (blocks : List (ℕ × List UInt8)) (offset : ℕ) : UInt8 :=
  match blocks.find? fun block =>
      block.1 ≤ offset ∧ offset < block.1 + block.2.length with
  | none => 0
  | some block => block.2.getD (offset - block.1) 0

def dwordBytes (value : ℕ) : List UInt8 :=
  [UInt8.ofNat value, UInt8.ofNat (value / 0x100),
    UInt8.ofNat (value / 0x10000), UInt8.ofNat (value / 0x1000000)]

/-- The headers of a PE32+ image without a section table. -/
def headerBlocks (ntOffset imageSize : ℕ) : List (ℕ × List UInt8) :=
  [(0, [0x4D, 0x5A]), (60, dwordBytes ntOffset),
    (ntOffset, [0x50, 0x45, 0x00, 0x00]), (ntOffset + 24, [0x0B, 0x02]),
    (ntOffset + 80, dwordBytes imageSize)]

/-- The code around an unpatched check at `rva`. -/
def siteBlock (rva : ℕ) : ℕ × List UInt8 :=
  (rva - 8, kFromFfiPrecedingAnchor ++ [0x72, 0x20] ++ kFromFfiOriginalBytes ++
    [0x74, 0x10] ++ kFromFfiFollowingAnchor)

def twoSitesImage : MappedImage where
  memory := imageBytes
    (headerBlocks 64 0x50000 ++ [siteBlock 0x48515, siteBlock 0x4A000])
  region := .ok ⟨0, 0x50000⟩

theorem findFromFfiPatchSite_twoSites :
    ¬ ∀ rva, (findFromFfiPatchSite (some twoSitesImage)).result = true ∧
        (findFromFfiPatchSite (some twoSitesImage)).outRva = rva ↔
      twoSitesImage.ValidOffset rva ∧
        ∀ other, twoSitesImage.ValidOffset other → other = rva := by
  intro hunique
  have hfound : (findFromFfiPatchSite (some twoSitesImage)).result = true ∧
      (findFromFfiPatchSite (some twoSitesImage)).outRva = 0x48515 := by
    decide +kernel
  have hsections : twoSitesImage.execSections = [⟨0, 0x50000⟩] := by
    decide +kernel
  have hother : twoSitesImage.ValidOffset 0x4A000 := by
    refine ⟨⟨0, 0x50000⟩, ?_, ?_⟩
    · rw [hsections]
      exact List.mem_singleton_self _
    · decide +kernel
  have hclash := ((hunique 0x48515).mp hfound).2 0x4A000 hother
  omega

end Esptool.Esp
