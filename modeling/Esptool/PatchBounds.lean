import Esptool.PatchUniqueness

/-!
# Which bytes the search examines

The section table is taken as it stands: a section has to start below
`SizeOfImage`, but nothing cuts it there.  So the search stays inside the image
exactly when the headers do and, around each candidate that it validates, the
bytes that are compared do: the check, the jump behind it and the window of the
following anchor.
-/

namespace Esptool.Esp

/-! ## The header bytes -/

def ntOffset (memory : ℕ → UInt8) : ℕ :=
  dwordAt ((List.range' 0 kImageDosHeaderBytes).map memory) 60

def ntHeaders (memory : ℕ → UInt8) : List UInt8 :=
  (List.range' (ntOffset memory) kImageNtHeaders64Bytes).map memory

def secTableOffset (memory : ℕ → UInt8) : ℕ :=
  ntOffset memory + 4 + kImageFileHeaderBytes + wordAt (ntHeaders memory) 20

/-- One past the last header byte: the NT headers or the section table,
whichever ends later. -/
def headersEnd (memory : ℕ → UInt8) : ℕ :=
  if wordAt (ntHeaders memory) 6 = 0 then
    ntOffset memory + kImageNtHeaders64Bytes
  else
    max (ntOffset memory + kImageNtHeaders64Bytes)
      (secTableOffset memory +
        wordAt (ntHeaders memory) 6 * kImageSectionHeaderBytes)

section

variable {memory : ℕ → UInt8}

@[simp] theorem value_copyBytes (offset size : ℕ) :
    (copyBytes offset size).value memory =
      (List.range' offset size).map memory :=
  Probe.value_copy memory _

@[simp] theorem touched_copyBytes (offset size : ℕ) :
    (copyBytes offset size).touched memory = List.range' offset size :=
  Probe.touched_copy memory _

theorem mem_touched_readSectionHeader (imageSize table cell : ℕ)
    (execSections : List ExecutableSection) (i : ℕ) :
    cell ∈ (readSectionHeader imageSize table execSections i).touched
        memory ↔
      table + i * kImageSectionHeaderBytes ≤ cell ∧
        cell < table + i * kImageSectionHeaderBytes +
          kImageSectionHeaderBytes := by
  unfold readSectionHeader
  rw [Probe.touched_bind, List.mem_append, touched_copyBytes,
    List.mem_range'_1]
  apply or_iff_left
  simp only [apply_ite (Probe.touched memory), Probe.touched_pure, ite_self,
    List.not_mem_nil, not_false_iff]

theorem mem_touched_sectionTable (imageSize table count cell : ℕ) :
    cell ∈ (Probe.fold (readSectionHeader imageSize table)
        (List.range count) []).touched memory ↔
      table ≤ cell ∧ cell < table + count * kImageSectionHeaderBytes := by
  rw [Probe.mem_touched_fold fun st i =>
    mem_touched_readSectionHeader imageSize table cell st i]
  simp only [List.mem_range, kImageSectionHeaderBytes]
  constructor
  · rintro ⟨i, hi, hlow, hhigh⟩
    omega
  · rintro ⟨hlow, hhigh⟩
    exact ⟨(cell - table) / 40, by omega, by omega, by omega⟩

theorem mem_touched_readSectionTable {region : Region} {offset : ℕ}
    {nt : List UInt8} {sections : ImageSections}
    (h : (readSectionTable region offset nt).value memory = .ok sections)
    (cell : ℕ) :
    cell ∈ (readSectionTable region offset nt).touched memory ↔
      wordAt nt 6 ≠ 0 ∧
        offset + 4 + kImageFileHeaderBytes + wordAt nt 20 ≤ cell ∧
        cell < offset + 4 + kImageFileHeaderBytes + wordAt nt 20 +
          wordAt nt 6 * kImageSectionHeaderBytes := by
  unfold readSectionTable at h ⊢
  dsimp only at h ⊢
  by_cases hcount : wordAt nt 6 = 0
  · rw [if_pos hcount]
    simp [hcount]
  · rw [if_neg hcount] at h ⊢
    split at h
    · simp at h
    · rename_i hfits
      rw [if_neg hfits, Probe.touched_bind, Probe.touched_pure,
        List.append_nil, mem_touched_sectionTable]
      exact (and_iff_right hcount).symm

/-- The bytes that accepted headers were read from. -/
theorem mem_touched_headers {region : Except String Region}
    {sections : ImageSections}
    (h : (readMappedImageSections region).value memory = .ok sections)
    (cell : ℕ) :
    kImageDosHeaderBytes ≤ ntOffset memory ∧
      (cell ∈ (readMappedImageSections region).touched memory ↔
        cell < kImageDosHeaderBytes ∨
          (ntOffset memory ≤ cell ∧
            cell < ntOffset memory + kImageNtHeaders64Bytes) ∨
          (wordAt (ntHeaders memory) 6 ≠ 0 ∧ secTableOffset memory ≤ cell ∧
            cell < secTableOffset memory +
              wordAt (ntHeaders memory) 6 * kImageSectionHeaderBytes)) := by
  unfold readMappedImageSections at h ⊢
  simp only [Probe.value_bind, Probe.touched_bind, value_copyBytes,
    touched_copyBytes, List.mem_append, List.mem_range'_1] at h ⊢
  split at h
  · simp at h
  · split at h
    · simp at h
    · rename_i hmagic hrange
      rw [if_neg hmagic, if_neg hrange]
      cases region with
      | error message => simp at h
      | ok region =>
          dsimp only at h ⊢
          split at h
          · simp at h
          · rename_i hfits
            rw [if_neg hfits]
            simp only [Probe.value_bind, Probe.touched_bind, value_copyBytes,
              touched_copyBytes, List.mem_append, List.mem_range'_1] at h ⊢
            split at h
            · simp at h
            · split at h
              · simp at h
              · rename_i hsignature hpe
                rw [if_neg hsignature, if_neg hpe]
                refine ⟨by unfold ntOffset; omega, ?_⟩
                rw [mem_touched_readSectionTable h, Nat.zero_add]
                apply or_congr
                · exact and_iff_right (Nat.zero_le cell)
                · exact Iff.rfl

theorem headers_below_iff {region : Except String Region}
    {sections : ImageSections}
    (h : (readMappedImageSections region).value memory = .ok sections)
    (bound : ℕ) :
    (∀ cell ∈ (readMappedImageSections region).touched memory,
      cell < bound) ↔ headersEnd memory ≤ bound := by
  have htouched := fun cell => (mem_touched_headers h cell).2
  have hstart := (mem_touched_headers h 0).1
  simp only [htouched]
  unfold headersEnd
  unfold kImageDosHeaderBytes at hstart ⊢
  unfold kImageNtHeaders64Bytes kImageSectionHeaderBytes
  constructor
  · intro hbelow
    have hnt := hbelow (ntOffset memory + 263) (.inr (.inl (by omega)))
    split
    · omega
    · rename_i hcount
      have htable := hbelow (secTableOffset memory +
        wordAt (ntHeaders memory) 6 * 40 - 1)
        (.inr (.inr ⟨hcount, by omega, by omega⟩))
      omega
  · intro hend cell hcell
    split at hend
    · omega
    · omega

/-! ## The bytes around a candidate -/

theorem touched_memcmp (offset : ℕ) (pattern : List UInt8) :
    (memcmp offset pattern).touched memory =
      List.range' offset pattern.length := by
  simp [memcmp]

theorem keeps_memcmp {offset bound : ℕ} {pattern : List UInt8}
    (h : 0 < pattern.length) :
    Probe.Keeps memory (· < bound) (memcmp offset pattern) ↔
      offset + pattern.length ≤ bound := by
  unfold Probe.Keeps
  rw [touched_memcmp]
  simp only [List.mem_range'_1]
  constructor
  · intro hall
    have hlast := hall (offset + pattern.length - 1) ⟨by omega, by omega⟩
    omega
  · rintro hend cell ⟨-, hcell⟩
    omega

theorem keeps_jeLength (nextInst secEnd bound : ℕ) :
    Probe.Keeps memory (· < bound) (jeLength nextInst secEnd) ↔
      nextInst + 1 ≤ bound ∧
        (memory nextInst = 0x0F → nextInst + 6 ≤ secEnd →
          nextInst + 2 ≤ bound) := by
  unfold jeLength
  rw [Probe.keeps_read]
  apply and_congr_right
  intro hfirst
  by_cases hshort : memory nextInst = 0x74
  · simp [hshort]
  · rw [if_neg hshort]
    by_cases hroom : nextInst + 6 ≤ secEnd
    · rw [if_pos hroom, Probe.keeps_read]
      by_cases hnear : memory nextInst = 0x0F
      · rw [if_pos hnear, Probe.keeps_read]
        simp only [Probe.keeps_pure, and_true, hnear, hroom, forall_const]
        omega
      · simp [hnear, hfirst]
    · simp [hroom]

/-- An anchor is compared at the positions of its window, up to and with the
first that holds it. -/
theorem keeps_findAnchor {anchor : List UInt8} (h : anchor.length = 6)
    (start length bound : ℕ) :
    Probe.Keeps memory (· < bound) (findAnchor anchor start length) ↔
      ∀ p, start ≤ p → p + 6 ≤ start + length →
        (∀ q, start ≤ q → q < p → ¬ HoldsAt memory q anchor) →
        p + 6 ≤ bound := by
  have hpositive : 0 < anchor.length := by omega
  unfold findAnchor
  simp only [Probe.keeps_anyOf_range', keeps_memcmp hpositive,
    ← Bool.not_eq_true, memcmp_iff]
  rw [h]
  constructor
  · intro hall p hlow hhigh hfirst
    exact hall p hlow (by omega) hfirst
  · intro hall p hlow hhigh hfirst
    exact hall p hlow (by omega) hfirst

/-- What has to lie below the bound when a candidate that fits in its section
is validated: the six bytes of the check; where they are the check, the byte
behind it, and the next one when a near jump may start there; and where a jump
and the preceding anchor stand, every position of the lookahead window up to
and with the first that holds the following anchor. -/
structure ReadsBelow (memory : ℕ → UInt8) (bound : ℕ)
    (candidate secStart secEnd : ℕ) : Prop where
  check : candidate + 6 ≤ bound
  behind : HoldsAt memory candidate kFromFfiOriginalBytes ∨
      HoldsAt memory candidate kFromFfiPatchedBytes →
    candidate + 7 ≤ bound ∧
      (memory (candidate + 6) = 0x0F → candidate + 12 ≤ secEnd →
        candidate + 8 ≤ bound)
  window : HoldsAt memory candidate kFromFfiOriginalBytes ∨
      HoldsAt memory candidate kFromFfiPatchedBytes →
    ∀ jeLen, JeAt memory (candidate + 6) secEnd jeLen →
      (∃ p, secStart ≤ p ∧ candidate ≤ p + 16 ∧ p + 6 ≤ candidate ∧
        HoldsAt memory p kFromFfiPrecedingAnchor) →
      ∀ p, candidate + 6 + jeLen ≤ p → p + 6 ≤ secEnd →
        p + 6 ≤ candidate + 6 + jeLen + 24 →
        (∀ q, candidate + 6 + jeLen ≤ q → q < p →
          ¬ HoldsAt memory q kFromFfiFollowingAnchor) →
        p + 6 ≤ bound

/-- Thirty-six bytes are room for the check, the longer jump and the
window. -/
theorem ReadsBelow.of_room {bound candidate secStart secEnd : ℕ}
    (h : candidate + 36 ≤ bound) :
    ReadsBelow memory bound candidate secStart secEnd := by
  refine ⟨by omega, fun _ => ⟨by omega, fun _ _ => by omega⟩, ?_⟩
  intro _ jeLen hje _ p _ _ hnear _
  have hlength : jeLen ≤ 6 := by
    rcases hje with ⟨-, rfl⟩ | ⟨-, -, -, rfl⟩
    · decide
    · decide
  omega

theorem keeps_findAnchors {candidate secStart secEnd jeLen bound : ℕ}
    (hstart : secStart ≤ candidate) (hbound : candidate ≤ bound) :
    Probe.Keeps memory (· < bound)
        (findAnchors candidate secStart secEnd jeLen) ↔
      ((∃ p, secStart ≤ p ∧ candidate ≤ p + 16 ∧ p + 6 ≤ candidate ∧
          HoldsAt memory p kFromFfiPrecedingAnchor) →
        ∀ p, candidate + 6 + jeLen ≤ p → p + 6 ≤ secEnd →
          p + 6 ≤ candidate + 6 + jeLen + 24 →
          (∀ q, candidate + 6 + jeLen ≤ q → q < p →
            ¬ HoldsAt memory q kFromFfiFollowingAnchor) →
          p + 6 ≤ bound) := by
  -- the lookback window ends at the candidate
  have hbefore : Probe.Keeps memory (· < bound)
      (findAnchor kFromFfiPrecedingAnchor
        (candidate - min (candidate - secStart) 16)
        (min (candidate - secStart) 16)) := by
    rw [keeps_findAnchor rfl]
    intro p _ hend _
    omega
  rw [← precedingAnchor_iff hstart]
  unfold findAnchors
  simp only [kFromFfiPrecedingMaxDistance, kFromFfiFollowingMaxDistance,
    show kFromFfiPatchBytes = 6 from rfl,
    show kFromFfiFollowingAnchor.length = 6 from rfl, Probe.keeps_bind]
  rw [and_iff_right hbefore]
  cases (findAnchor kFromFfiPrecedingAnchor
      (candidate - min (candidate - secStart) 16)
      (min (candidate - secStart) 16)).value memory with
  | false => simp
  | true =>
      simp only [Bool.not_true, Bool.false_eq_true, if_false, forall_const]
      by_cases hroom : candidate + 6 + jeLen + 6 > secEnd
      · rw [if_pos hroom]
        simp only [Probe.keeps_pure, true_iff]
        intro p hlow hend
        omega
      · rw [if_neg hroom, keeps_findAnchor rfl]
        constructor
        · intro hall p hlow hend hnear hfirst
          exact hall p hlow (by omega) hfirst
        · intro hall p hlow hend hfirst
          exact hall p hlow (by omega) (by omega) hfirst

/-- The bytes that validating a candidate reads. -/
theorem keeps_validateCandidateSite
    {candidate secStart secEnd bound : ℕ} (hstart : secStart ≤ candidate)
    (hfits : candidate + 8 ≤ secEnd) :
    Probe.Keeps memory (· < bound)
        (validateCandidateSite candidate secStart secEnd) ↔
      ReadsBelow memory bound candidate secStart secEnd := by
  have hcheck : ∀ pattern : List UInt8, pattern.length = 6 →
      (Probe.Keeps memory (· < bound) (memcmp candidate pattern) ↔
        candidate + 6 ≤ bound) := by
    intro pattern hlength
    rw [keeps_memcmp (by omega), hlength]
  unfold validateCandidateSite
  rw [show kFromFfiPatchBytes = 6 from rfl, if_neg (by omega)]
  simp only [Probe.keeps_bind]
  rw [hcheck _ rfl, hcheck _ rfl]
  by_cases hpattern : HoldsAt memory candidate kFromFfiOriginalBytes ∨
      HoldsAt memory candidate kFromFfiPatchedBytes
  · have hcompared : ¬ ((!(memcmp candidate kFromFfiOriginalBytes).value
        memory && !(memcmp candidate kFromFfiPatchedBytes).value memory) =
          true) := by
      rw [← memcmp_iff, ← memcmp_iff] at hpattern
      rcases hpattern with h | h
      · simp [h]
      · simp [h]
    rw [if_neg hcompared, Probe.keeps_bind, keeps_jeLength]
    constructor
    · rintro ⟨hbound, -, hjump, hanchors⟩
      refine ⟨hbound, fun _ => hjump, ?_⟩
      intro _ jeLen hje
      rw [(jeLength_iff (candidate + 6) secEnd jeLen).mpr hje] at hanchors
      exact (keeps_findAnchors hstart (by omega)).mp hanchors
    · intro hreads
      refine ⟨hreads.check, hreads.check, hreads.behind hpattern, ?_⟩
      cases hje : (jeLength (candidate + 6) secEnd).value memory with
      | none => simp
      | some jeLen =>
          have hbound := hreads.check
          exact (keeps_findAnchors hstart (by omega)).mpr
            (hreads.window hpattern jeLen ((jeLength_iff _ _ _).mp hje))
  · have hcompared : (!(memcmp candidate kFromFfiOriginalBytes).value memory
        && !(memcmp candidate kFromFfiPatchedBytes).value memory) = true := by
      rw [not_or, ← memcmp_iff, ← memcmp_iff] at hpattern
      simp [hpattern]
    rw [if_pos hcompared]
    simp only [Probe.keeps_pure, and_true]
    constructor
    · rintro ⟨hbound, -⟩
      exact ⟨hbound, fun h => absurd h hpattern, fun h => absurd h hpattern⟩
    · intro hreads
      exact ⟨hreads.check, hreads.check⟩

/-! ## The bytes of the search -/

/-- The candidates that the search validates with their section: a known
offset that lies in the image, in the first section that holds it; and when no
known offset passes, every offset of every section. -/
inductive Visits (memory : ℕ → UInt8) (sections : ImageSections) :
    ExecutableSection → ℕ → Prop
  | known {sec : ExecutableSection} {hint : ℕ}
      (hmem : hint ∈ kKnownCandidateRvas)
      (hsize : hint + kFromFfiPatchBytes ≤ sections.imageSize)
      (hfirst : (sections.execSections.find? fun sec =>
        sec.rva ≤ hint ∧ hint + kFromFfiPatchBytes ≤ sec.limit) = some sec)
      (hfits : hint + 8 ≤ sec.limit) :
      Visits memory sections sec hint
  | scanned {sec : ExecutableSection} {p : ℕ}
      (hnone : ∀ hint ∈ kKnownCandidateRvas,
        hintPasses memory sections hint = false)
      (hsec : sec ∈ sections.execSections)
      (hstart : sec.rva ≤ p) (hfits : p + 8 ≤ sec.limit) :
      Visits memory sections sec p

theorem keeps_checkHint (sections : ImageSections) (bound : ℕ)
    (found : List ℕ) (hint : ℕ) :
    Probe.Keeps memory (· < bound) (checkHint sections found hint) ↔
      (hint + kFromFfiPatchBytes ≤ sections.imageSize →
        ∀ sec, (sections.execSections.find? fun sec =>
            sec.rva ≤ hint ∧ hint + kFromFfiPatchBytes ≤ sec.limit) =
              some sec →
          hint + 8 ≤ sec.limit →
          ReadsBelow memory bound hint sec.rva sec.limit) := by
  unfold checkHint
  by_cases hsize : hint + kFromFfiPatchBytes > sections.imageSize
  · rw [if_pos hsize]
    simp [Nat.not_le.mpr hsize]
  · rw [if_neg hsize]
    simp only [Nat.not_lt.mp hsize, forall_const]
    split
    · rename_i hnone
      rw [hnone]
      simp
    · rename_i sec hfind
      rw [hfind]
      simp only [Option.some.injEq, forall_eq', Probe.keeps_bind]
      have hstart : sec.rva ≤ hint := by
        have hholds := List.find?_some hfind
        simp only [decide_eq_true_eq] at hholds
        exact hholds.1
      rw [and_iff_left (by split <;> simp)]
      by_cases hfits : hint + 8 ≤ sec.limit
      · rw [keeps_validateCandidateSite hstart hfits]
        simp only [hfits, forall_const]
      · -- the jump does not fit, and nothing is compared
        unfold validateCandidateSite
        rw [show kFromFfiPatchBytes = 6 from rfl, if_pos (by omega)]
        simp [hfits]

theorem ExecutableSection.mem_candidates (sec : ExecutableSection) (p : ℕ) :
    p ∈ sec.candidates ↔ sec.rva ≤ p ∧ p + 8 ≤ sec.limit := by
  unfold ExecutableSection.candidates ExecutableSection.limit
  rw [show kFromFfiPatchBytes = 6 from rfl]
  split
  · rw [List.mem_nil_iff, false_iff]
    omega
  · rw [List.mem_range'_1]
    omega

theorem keeps_scanSection (bound : ℕ) (found : List ℕ)
    (sec : ExecutableSection) :
    Probe.Keeps memory (· < bound) (scanSection found sec) ↔
      ∀ p, sec.rva ≤ p → p + 8 ≤ sec.limit →
        ReadsBelow memory bound p sec.rva sec.limit := by
  have hstep : ∀ found p,
      Probe.Keeps memory (· < bound) (scanAt sec found p) ↔
        Probe.Keeps memory (· < bound)
          (validateCandidateSite p sec.rva sec.limit) := by
    intro found p
    unfold scanAt
    rw [Probe.keeps_bind, and_iff_left (by split <;> simp)]
  unfold scanSection
  rw [Probe.keeps_fold hstep]
  simp only [sec.mem_candidates]
  constructor
  · intro hall p hstart hfits
    exact (keeps_validateCandidateSite hstart hfits).mp
      (hall p ⟨hstart, hfits⟩)
  · rintro hall p ⟨hstart, hfits⟩
    exact (keeps_validateCandidateSite hstart hfits).mpr
      (hall p hstart hfits)

theorem hints_isEmpty_iff (sections : ImageSections) :
    ((Probe.fold (checkHint sections) kKnownCandidateRvas []).value
        memory).isEmpty = true ↔
      ∀ hint ∈ kKnownCandidateRvas,
        hintPasses memory sections hint = false := by
  rw [hints_value, List.nil_append, List.isEmpty_iff,
    List.filter_eq_nil_iff]
  simp

/-- The bytes that the search reads behind the headers. -/
theorem keeps_findMatches (sections : ImageSections) (bound : ℕ) :
    Probe.Keeps memory (· < bound) (findMatches sections) ↔
      ∀ sec candidate, Visits memory sections sec candidate →
        ReadsBelow memory bound candidate sec.rva sec.limit := by
  unfold findMatches
  rw [Probe.keeps_bind, Probe.keeps_fold fun found hint =>
    keeps_checkHint sections bound found hint]
  constructor
  · rintro ⟨hhints, hscan⟩ sec candidate hvisits
    cases hvisits with
    | known hmem hsize hfirst hfits =>
        exact hhints candidate hmem hsize sec hfirst hfits
    | scanned hnone hsec hstart hfits =>
        rw [if_pos ((hints_isEmpty_iff sections).mpr hnone),
          Probe.keeps_fold fun found sec =>
            keeps_scanSection bound found sec] at hscan
        exact hscan sec hsec candidate hstart hfits
  · intro hall
    constructor
    · intro hint hmem hsize sec hfirst hfits
      exact hall sec hint (.known hmem hsize hfirst hfits)
    · split
      · rename_i hempty
        rw [Probe.keeps_fold fun found sec =>
          keeps_scanSection bound found sec]
        intro sec hsec p hstart hfits
        exact hall sec p
          (.scanned ((hints_isEmpty_iff sections).mp hempty) hsec hstart
            hfits)
      · rw [Probe.keeps_pure]
        trivial

end

/-! ## The search and the image -/

structure MappedImage.StaysInside (image : MappedImage)
    (sections : ImageSections) : Prop where
  examined : ∀ cell ∈ (searchImage image.region).touched image.memory,
    cell < sections.imageSize
  located : (findFromFfiPatchSite (some image)).result = true →
    (findFromFfiPatchSite (some image)).outRva + kFromFfiPatchBytes ≤
        sections.imageSize ∧
      ∃ sec ∈ sections.execSections,
        sec.rva ≤ (findFromFfiPatchSite (some image)).outRva ∧
          (findFromFfiPatchSite (some image)).outRva + kFromFfiPatchBytes ≤
            sec.limit

theorem keeps_searchImage {image : MappedImage} {sections : ImageSections}
    (h : image.sections = .ok sections) (bound : ℕ) :
    Probe.Keeps image.memory (· < bound) (searchImage image.region) ↔
      headersEnd image.memory ≤ bound ∧
        ∀ sec candidate, Visits image.memory sections sec candidate →
          ReadsBelow image.memory bound candidate sec.rva sec.limit := by
  unfold MappedImage.sections at h
  unfold searchImage
  rw [Probe.keeps_bind, h, ← headers_below_iff h, ← keeps_findMatches]
  apply and_congr Iff.rfl
  rw [Probe.keeps_bind, and_iff_left]
  rw [Probe.keeps_pure]
  trivial

/-- A site that is returned was compared, so it lies where the search
reads. -/
theorem located_inside {image : MappedImage} {sections : ImageSections}
    (hsections : image.sections = .ok sections)
    (hreads : ∀ sec candidate,
      Visits image.memory sections sec candidate →
        ReadsBelow image.memory sections.imageSize candidate sec.rva
          sec.limit)
    (hfound : (findFromFfiPatchSite (some image)).result = true) :
    (findFromFfiPatchSite (some image)).outRva + kFromFfiPatchBytes ≤
        sections.imageSize ∧
      ∃ sec ∈ sections.execSections,
        sec.rva ≤ (findFromFfiPatchSite (some image)).outRva ∧
          (findFromFfiPatchSite (some image)).outRva + kFromFfiPatchBytes ≤
            sec.limit := by
  rw [show kFromFfiPatchBytes = 6 from rfl]
  generalize hrva : (findFromFfiPatchSite (some image)).outRva = rva
  rcases (findFromFfiPatchSite_iff hsections rva).mp ⟨hfound, hrva⟩ with
    ⟨hknown, -⟩ | ⟨hnone, hvalid, -⟩
  · obtain ⟨-, hpasses⟩ := (knownOffset_iff hsections rva).mp hknown
    obtain ⟨hsize, sec, hfind, hsite⟩ := hintPasses_iff.mp hpasses
    have hfits := hsite.fits
    exact ⟨hsize, sec, List.mem_of_find?_eq_some hfind, hsite.starts,
      by omega⟩
  · obtain ⟨sec, hsec, hsite⟩ := (validOffset_iff hsections rva).mp hvalid
    have hfits := hsite.fits
    have hvisits : Visits image.memory sections sec rva := by
      refine .scanned ?_ hsec hsite.starts hfits
      intro hint hmem
      rw [← Bool.not_eq_true]
      intro hpasses
      exact hnone hint ((knownOffset_iff hsections hint).mpr
        ⟨hmem, hpasses⟩)
    exact ⟨(hreads sec rva hvisits).check, sec, hsec, hsite.starts,
      by omega⟩

/-- The search stays inside the image exactly when the headers do and what it
reads around each candidate does. -/
theorem staysInside_iff {image : MappedImage} {sections : ImageSections}
    (h : image.sections = .ok sections) :
    image.StaysInside sections ↔
      headersEnd image.memory ≤ sections.imageSize ∧
        ∀ sec candidate, Visits image.memory sections sec candidate →
          ReadsBelow image.memory sections.imageSize candidate sec.rva
            sec.limit := by
  constructor
  · intro hstays
    exact (keeps_searchImage h sections.imageSize).mp hstays.examined
  · intro hreads
    exact
      { examined := (keeps_searchImage h sections.imageSize).mpr hreads
        located := located_inside h hreads.2 }

/-- Headers with a table of one executable section. -/
def sectionImage (imageSize virtualAddress virtualSize site : ℕ) :
    MappedImage where
  memory := imageBytes
    (headerBlocks 64 imageSize ++
      [(70, [0x01]), (84, [0xF0]), (336, dwordBytes virtualSize),
        (340, dwordBytes virtualAddress), (364, dwordBytes 0x60000020),
        siteBlock site])
  region := .ok ⟨0, 0x1000⟩

/-- The section ends far behind the image, but the first known offset passes
and nothing is scanned. -/
theorem staysInside_sectionImage :
    (sectionImage 0x50000 0x1000 0x100000 0x48515).sections =
        .ok ⟨0x50000, [⟨0x1000, 0x100000⟩]⟩ ∧
      (sectionImage 0x50000 0x1000 0x100000 0x48515).StaysInside
        ⟨0x50000, [⟨0x1000, 0x100000⟩]⟩ := by
  have hsections :
      (sectionImage 0x50000 0x1000 0x100000 0x48515).sections =
        .ok ⟨0x50000, [⟨0x1000, 0x100000⟩]⟩ := by
    decide +kernel
  have hpasses :
      hintPasses (sectionImage 0x50000 0x1000 0x100000 0x48515).memory
        ⟨0x50000, [⟨0x1000, 0x100000⟩]⟩ 0x48515 = true := by
    decide +kernel
  have hroom : ∀ hint ∈ kKnownCandidateRvas, hint + 36 ≤ 0x50000 := by
    decide
  refine ⟨hsections, (staysInside_iff hsections).mpr ⟨?_, ?_⟩⟩
  · decide +kernel
  · intro sec candidate hvisits
    cases hvisits with
    | known hmem hsize hfirst hfits =>
        exact .of_room (hroom candidate hmem)
    | scanned hnone hsec hstart hfits =>
        have hfails := hnone 0x48515 (by decide)
        rw [hpasses] at hfails
        cases hfails

/-- The section starts in the image and ends 48 bytes past it, and the site
lies past the image. -/
theorem staysInside_overhanging :
    (sectionImage 0x200 0x1F0 0x40 0x210).sections =
        .ok ⟨0x200, [⟨0x1F0, 0x40⟩]⟩ ∧
      ¬ (sectionImage 0x200 0x1F0 0x40 0x210).StaysInside
        ⟨0x200, [⟨0x1F0, 0x40⟩]⟩ := by
  have hfound : (findFromFfiPatchSite
        (some (sectionImage 0x200 0x1F0 0x40 0x210))).result = true ∧
      (findFromFfiPatchSite
        (some (sectionImage 0x200 0x1F0 0x40 0x210))).outRva = 0x210 := by
    decide +kernel
  refine ⟨by decide +kernel, ?_⟩
  intro hstays
  have hinside := (hstays.located hfound.1).1
  rw [hfound.2] at hinside
  revert hinside
  decide

end Esptool.Esp
