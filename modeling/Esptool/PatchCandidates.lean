import Esptool.PatchSite

/-!
# Validating one candidate

`ValidateCandidateSite` compares at the candidate, at the instruction behind
it and in two windows that are cut at the ends of the section.  Every byte it
reads lies in the section, and its answer is the description of the site.
-/

namespace Esptool.Esp

/-- The cells of a section. -/
def InSection (secStart secEnd cell : ℕ) : Prop :=
  secStart ≤ cell ∧ cell < secEnd

section

variable {secStart secEnd : ℕ}

theorem memcmp_stays {offset : ℕ} {pattern : List UInt8}
    (hlow : secStart ≤ offset) (hhigh : offset + pattern.length ≤ secEnd) :
    Probe.Stays (InSection secStart secEnd) (memcmp offset pattern) := by
  unfold memcmp copyBytes
  refine .bind (.copy fun cell hcell => ?_) fun bytes => .pure _
  rw [List.mem_range'_1] at hcell
  exact ⟨by omega, by omega⟩

theorem jeLength_stays {nextInst : ℕ} (hlow : secStart ≤ nextInst)
    (hhigh : nextInst + 2 ≤ secEnd) :
    Probe.Stays (InSection secStart secEnd) (jeLength nextInst secEnd) := by
  have hfirst : InSection secStart secEnd nextInst := ⟨hlow, by omega⟩
  have hsecond : InSection secStart secEnd (nextInst + 1) :=
    ⟨by omega, by omega⟩
  unfold jeLength
  refine .read hfirst fun short => .ite (fun _ => .pure _) fun _ =>
    .ite (fun _ => ?_) fun _ => .pure _
  exact .read hfirst fun first => .ite
    (fun _ => .read hsecond fun second => .pure _) fun _ => .pure _

/-- An anchor is compared only where it fits in its window. -/
theorem findAnchor_stays {anchor : List UInt8} {start length : ℕ}
    (hlow : secStart ≤ start) (hhigh : start + length ≤ secEnd) :
    Probe.Stays (InSection secStart secEnd)
      (findAnchor anchor start length) := by
  refine .anyOf fun p hp => ?_
  rw [List.mem_range'_1] at hp
  exact memcmp_stays (by omega) (by omega)

theorem findAnchors_stays {candidate jeLen : ℕ}
    (hlow : secStart ≤ candidate) (hhigh : candidate ≤ secEnd) :
    Probe.Stays (InSection secStart secEnd)
      (findAnchors candidate secStart secEnd jeLen) := by
  unfold findAnchors
  dsimp only
  refine .bind (findAnchor_stays (by omega) (by omega)) fun preceding =>
    .ite (fun _ => .pure _) fun _ => .ite (fun _ => .pure _) fun hroom => ?_
  exact findAnchor_stays (by omega) (by omega)

theorem validateCandidateSite_stays (candidate secStart secEnd : ℕ) :
    Probe.Stays (InSection secStart secEnd)
      (validateCandidateSite candidate secStart secEnd) := by
  unfold validateCandidateSite
  refine .ite (fun _ => .pure _) fun hbounds => ?_
  rw [show kFromFfiPatchBytes = 6 from rfl, not_or] at hbounds
  have hfits : candidate + 6 ≤ secEnd := by omega
  refine .bind (memcmp_stays (by omega) hfits) fun isOriginal =>
    .bind (memcmp_stays (by omega) hfits) fun isPatched =>
      .ite (fun _ => .pure _) fun _ => ?_
  rw [show kFromFfiPatchBytes = 6 from rfl]
  refine .bind (jeLength_stays (by omega) (by omega)) fun jeLen => ?_
  cases jeLen with
  | none => exact .pure _
  | some jeLen => exact findAnchors_stays (by omega) (by omega)

end

theorem holdsAt_short {memory : ℕ → UInt8} {offset : ℕ} :
    HoldsAt memory offset [0x74] ↔ memory offset = 0x74 := by
  constructor
  · exact fun h => h 0 (by decide)
  · intro h i hi
    obtain rfl : i = 0 := by simpa using hi
    exact h

theorem holdsAt_near {memory : ℕ → UInt8} {offset : ℕ} :
    HoldsAt memory offset [0x0F, 0x84] ↔
      memory offset = 0x0F ∧ memory (offset + 1) = 0x84 := by
  constructor
  · exact fun h => ⟨h 0 (by decide), h 1 (by decide)⟩
  · rintro ⟨hfirst, hsecond⟩ i hi
    match i, hi with
    | 0, _ => exact hfirst
    | 1, _ => exact hsecond

/-- The validation reads bytes of the section only, and accepts exactly the
sites with the pattern, a jump and the two anchors in their windows. -/
theorem validateCandidateSite_exact (memory : ℕ → UInt8)
    (candidate secStart secEnd : ℕ) :
    (∀ cell ∈ (validateCandidateSite candidate secStart secEnd).touched
      memory, secStart ≤ cell ∧ cell < secEnd) ∧
    ((validateCandidateSite candidate secStart secEnd).value memory = true ↔
      secStart ≤ candidate ∧
      (HoldsAt memory candidate kFromFfiOriginalBytes ∨
        HoldsAt memory candidate kFromFfiPatchedBytes) ∧
      (∃ p, max secStart (candidate - 16) ≤ p ∧ p + 6 ≤ candidate ∧
        HoldsAt memory p kFromFfiPrecedingAnchor) ∧
      ∃ jeLen,
        (HoldsAt memory (candidate + 6) [0x74] ∧ jeLen = 2 ∨
          HoldsAt memory (candidate + 6) [0x0F, 0x84] ∧
            candidate + 6 + 6 ≤ secEnd ∧ jeLen = 6) ∧
        ∃ p, candidate + 6 + jeLen ≤ p ∧
          p + 6 ≤ min secEnd (candidate + 6 + jeLen + 24) ∧
          HoldsAt memory p kFromFfiFollowingAnchor) := by
  refine ⟨validateCandidateSite_stays candidate secStart secEnd memory, ?_⟩
  rw [validateCandidateSite_iff]
  simp only [holdsAt_short, holdsAt_near]
  constructor
  · rintro ⟨hstart, -, hpattern, ⟨p, hsec, hnear, hend, hpreceding⟩, jeLen,
      hje, q, hlow, hfits, hclose, hfollowing⟩
    refine ⟨hstart, hpattern, ⟨p, by omega, hend, hpreceding⟩, jeLen, ?_,
      q, hlow, by omega, hfollowing⟩
    rcases hje with hshort | ⟨hfirst, hsecond, hroom, hlength⟩
    · exact .inl hshort
    · exact .inr ⟨⟨hfirst, hsecond⟩, hroom, hlength⟩
  · rintro ⟨hstart, hpattern, ⟨p, hwindow, hend, hpreceding⟩, jeLen, hje, q,
      hlow, hhigh, hfollowing⟩
    have hjeAt : JeAt memory (candidate + 6) secEnd jeLen := by
      rcases hje with hshort | ⟨⟨hfirst, hsecond⟩, hroom, hlength⟩
      · exact .inl hshort
      · exact .inr ⟨hfirst, hsecond, hroom, hlength⟩
    have hlength : 2 ≤ jeLen := by omega
    exact ⟨hstart, by omega, hpattern,
      ⟨p, by omega, by omega, hend, hpreceding⟩, jeLen, hjeAt, q, hlow,
      by omega, by omega, hfollowing⟩

end Esptool.Esp
