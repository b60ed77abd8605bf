import Esptool.PatchBounds
import Esptool.TrustPlan

/-!
# The permission record in the token attributes

The attributes of the token arrive as one blob.  The decoder looks for the
name of the permission claim and then, from the name on, for a window whose
first dword is the tag of the octet string that `ApplyOperation` writes.  The
blob is read through a probe, so the decoder has a value and the offsets of
the bytes it read.
-/

namespace Esptool.Cli

open Esp

def kOctetStringBytes : ℕ := 16
def kOctetTagDword : ℕ := 1
def kOctetTagBytes : ℕ := 4
def kOctetPermissionOffset : ℕ := 4

/-- The bytes of UTF-16 units in memory. -/
def utf16Bytes (units : List UInt16) : List UInt8 :=
  units.flatMap fun unit : UInt16 => [unit.toUInt8, (unit >>> 8).toUInt8]

def kWespPermissionAttributeName : List UInt16 :=
  Text.wide kWespPermissionClaim

/-- The name without its terminator. -/
def attributeNameBytes : List UInt8 :=
  utf16Bytes kWespPermissionAttributeName

def dwordBytes (value : ℕ) : List UInt8 :=
  [UInt8.ofNat value, UInt8.ofNat (value / 0x100),
    UInt8.ofNat (value / 0x10000), UInt8.ofNat (value / 0x1000000)]

def kOctetTag : List UInt8 := [1, 0, 0, 0]

/-- The octet string that `ApplyOperation` stamps: the tag, the permission and
zeros. -/
def octetPayload (permission : UInt32) : List UInt8 :=
  kOctetTag ++ dwordBytes permission.toNat ++
    List.replicate (kOctetStringBytes - kOctetTagBytes - 4) 0

/-! ## The decoder -/

def nameAt (offset : ℕ) : ImageProbe (Option ℕ) := do
  if ← memcmp offset attributeNameBytes then
    return some offset
  else
    return none

/-- The permission of a window that starts with the tag. -/
def octetWindow (offset : ℕ) : ImageProbe (Option ℕ) := do
  let tag ← copyBytes offset 4
  let permission ← copyBytes (offset + kOctetPermissionOffset) 4
  return if dwordAt tag 0 = kOctetTagDword then some (dwordAt permission 0)
    else none

/-- `DecodeWespPermissionBlob` on a span of `size` bytes. -/
def decodeWespPermissionBlob (size : ℕ) (out : TokenAttributeState) :
    ImageProbe (Bool × TokenAttributeState) := do
  let absent := { out with present := false, permission := 0 }
  if size = 0 then
    return (true, absent)
  else if size < attributeNameBytes.length then
    return (true, absent)
  else
    -- offset + name_bytes <= size
    match ← Probe.firstOf nameAt
        (List.range' 0 (size + 1 - attributeNameBytes.length)) with
    | none => return (true, absent)
    | some nameOffset =>
        -- offset + 16 <= size, from the name on
        let permission ← Probe.firstOf octetWindow
          (List.range' nameOffset (size + 1 - kOctetStringBytes - nameOffset))
        return (true,
          { absent with present := true, permission := permission.getD 0 })

/-- The bytes of a span by their offset. -/
def spanMemory (data : List UInt8) (offset : ℕ) : UInt8 :=
  data.getD offset 0

/-! ## Patterns in a span -/

theorem holdsAt_of_begins {data pattern : List UInt8} {offset : ℕ}
    (h : pattern <+: data.drop offset) :
    HoldsAt (spanMemory data) offset pattern := by
  obtain ⟨rest, hrest⟩ := h
  intro i hi
  have hbyte : (data.drop offset)[i]? = some pattern[i] := by
    rw [← hrest, List.getElem?_append_left hi, List.getElem?_eq_getElem hi]
  rw [List.getElem?_drop] at hbyte
  rw [spanMemory, List.getD_eq_getElem?_getD, hbyte]
  rfl

theorem prefix_of_holdsAt {data pattern : List UInt8} {offset : ℕ}
    (hfits : offset + pattern.length ≤ data.length)
    (h : HoldsAt (spanMemory data) offset pattern) :
    pattern <+: data.drop offset := by
  rw [List.prefix_iff_eq_take]
  apply List.ext_getElem
  · rw [List.length_take, List.length_drop]
    omega
  · intro i hi _
    have hbyte := h i hi
    rw [spanMemory, List.getD_eq_getElem?_getD,
      List.getElem?_eq_getElem (by omega), Option.getD_some] at hbyte
    rw [List.getElem_take, List.getElem_drop, hbyte]

theorem nameAt_value (memory : ℕ → UInt8) (offset : ℕ) :
    (nameAt offset).value memory =
      if (memcmp offset attributeNameBytes).value memory then some offset
      else none := by
  rw [nameAt, Probe.value_bind]
  cases (memcmp offset attributeNameBytes).value memory with
  | true => rfl
  | false => rfl

theorem nameAt_some_iff {memory : ℕ → UInt8} {offset found : ℕ} :
    (nameAt offset).value memory = some found ↔
      found = offset ∧ HoldsAt memory offset attributeNameBytes := by
  rw [nameAt_value, ← memcmp_iff]
  cases (memcmp offset attributeNameBytes).value memory with
  | true => simp [eq_comm]
  | false => simp

theorem nameAt_none_iff {memory : ℕ → UInt8} {offset : ℕ} :
    (nameAt offset).value memory = none ↔
      ¬ HoldsAt memory offset attributeNameBytes := by
  rw [nameAt_value, ← memcmp_iff]
  cases (memcmp offset attributeNameBytes).value memory with
  | true => simp
  | false => simp

theorem map_range'_four (memory : ℕ → UInt8) (offset : ℕ) :
    (List.range' offset 4).map memory =
      [memory offset, memory (offset + 1), memory (offset + 2),
        memory (offset + 3)] := rfl

/-- The dword of four bytes in memory. -/
theorem dwordAt_four (a b c d : UInt8) :
    dwordAt [a, b, c, d] 0 = a.toNat + 0x100 * b.toNat +
      0x10000 * (c.toNat + 0x100 * d.toNat) := rfl

theorem tag_iff (memory : ℕ → UInt8) (offset : ℕ) :
    dwordAt ((List.range' offset 4).map memory) 0 = kOctetTagDword ↔
      HoldsAt memory offset kOctetTag := by
  rw [map_range'_four, dwordAt_four]
  have hlow := (memory (offset + 1)).toNat_lt
  constructor
  · intro h
    unfold kOctetTagDword at h
    have hfirst : memory offset = 1 := UInt8.toNat_inj.mp (by
      change _ = 1
      omega)
    have hrest : ∀ i, i = 1 ∨ i = 2 ∨ i = 3 → memory (offset + i) = 0 := by
      intro i hi
      apply UInt8.toNat_inj.mp
      change _ = 0
      rcases hi with rfl | rfl | rfl
      · omega
      · omega
      · omega
    intro i hi
    change i < 4 at hi
    interval_cases i
    · exact hfirst
    · exact hrest 1 (by simp)
    · exact hrest 2 (by simp)
    · exact hrest 3 (by simp)
  · intro h
    have h0 : memory offset = 1 := h 0 (by decide)
    have h1 : memory (offset + 1) = 0 := h 1 (by decide)
    have h2 : memory (offset + 2) = 0 := h 2 (by decide)
    have h3 : memory (offset + 3) = 0 := h 3 (by decide)
    rw [h0, h1, h2, h3]
    rfl

theorem octetWindow_value (memory : ℕ → UInt8) (offset : ℕ) :
    (octetWindow offset).value memory =
      if dwordAt ((List.range' offset 4).map memory) 0 = kOctetTagDword
      then some (dwordAt ((List.range' (offset + 4) 4).map memory) 0)
      else none := by
  rw [octetWindow, Probe.value_bind, value_copyBytes, Probe.value_bind,
    value_copyBytes]
  rfl

theorem octetWindow_none {memory : ℕ → UInt8} {offset : ℕ}
    (h : ¬ HoldsAt memory offset kOctetTag) :
    (octetWindow offset).value memory = none := by
  rw [octetWindow_value, if_neg (fun htag => h ((tag_iff _ _).mp htag))]

theorem dwordAt_dwordBytes {value : ℕ} (h : value < 2 ^ 32) :
    dwordAt (dwordBytes value) 0 = value := by
  unfold dwordBytes
  rw [dwordAt_four]
  simp only [UInt8.toNat_ofNat']
  omega

theorem holdsAt_left {memory : ℕ → UInt8} {offset : ℕ}
    {first second : List UInt8} (h : HoldsAt memory offset (first ++ second)) :
    HoldsAt memory offset first := by
  intro i hi
  rw [h i (by rw [List.length_append]; omega), List.getElem_append_left hi]

theorem holdsAt_right {memory : ℕ → UInt8} {offset : ℕ}
    {first second : List UInt8} (h : HoldsAt memory offset (first ++ second)) :
    HoldsAt memory (offset + first.length) second := by
  intro i hi
  have hbyte := h (first.length + i) (by rw [List.length_append]; omega)
  rw [List.getElem_append_right (by omega)] at hbyte
  simpa [Nat.add_assoc] using hbyte

theorem map_of_holdsAt {memory : ℕ → UInt8} {offset : ℕ}
    {pattern : List UInt8} (h : HoldsAt memory offset pattern) :
    (List.range' offset pattern.length).map memory = pattern := by
  simpa [memcmp] using (memcmp_iff offset pattern).mpr h

/-- A window on the octet string gives its permission. -/
theorem octetWindow_payload {memory : ℕ → UInt8} {offset : ℕ}
    {permission : UInt32}
    (h : HoldsAt memory offset (octetPayload permission)) :
    (octetWindow offset).value memory = some permission.toNat := by
  have hfields : HoldsAt memory offset
      (kOctetTag ++ dwordBytes permission.toNat) := holdsAt_left h
  have hbytes : (List.range' (offset + 4) 4).map memory =
      dwordBytes permission.toNat := map_of_holdsAt (holdsAt_right hfields)
  rw [octetWindow_value, if_pos ((tag_iff _ _).mpr (holdsAt_left hfields)),
    hbytes, dwordAt_dwordBytes permission.toNat_lt]

/-! ## The results -/

/-- The name begins at this offset. -/
def NameBegins (data : List UInt8) (offset : ℕ) : Prop :=
  attributeNameBytes <+: data.drop offset

theorem attributeNameBytes_tagless : (1 : UInt8) ∉ attributeNameBytes := by
  decide

theorem octetPayload_length (permission : UInt32) :
    (octetPayload permission).length = 16 := rfl

theorem attributeNameBytes_length : attributeNameBytes.length = 34 := by
  decide

theorem NameBegins.fits {data : List UInt8} {offset : ℕ}
    (h : NameBegins data offset) :
    offset + attributeNameBytes.length ≤ data.length := by
  have hlength := h.length_le
  rw [List.length_drop] at hlength
  have := attributeNameBytes_length
  omega

theorem infix_iff_nameBegins (data : List UInt8) :
    attributeNameBytes <:+: data ↔ ∃ offset, NameBegins data offset := by
  constructor
  · rintro ⟨before, after, rfl⟩
    refine ⟨before.length, after, ?_⟩
    simp
  · rintro ⟨offset, hprefix⟩
    exact hprefix.isInfix.trans (List.drop_suffix _ _).isInfix

section

variable {data : List UInt8} {out : TokenAttributeState}

theorem nameAt_none {offset : ℕ}
    (hfits : offset + attributeNameBytes.length ≤ data.length)
    (h : ¬ NameBegins data offset) :
    (nameAt offset).value (spanMemory data) = none := by
  rw [nameAt_none_iff]
  exact fun hholds => h (prefix_of_holdsAt hfits hholds)

/-- Without the name the blob is reported absent. -/
theorem decode_absent (h : ∀ offset, ¬ NameBegins data offset) :
    (decodeWespPermissionBlob data.length out).value (spanMemory data) =
      (true, { out with present := false, permission := 0 }) := by
  have hsearch : (Probe.firstOf nameAt (List.range' 0
      (data.length + 1 - attributeNameBytes.length))).value
        (spanMemory data) = none := by
    rw [Probe.value_firstOf, List.findSome?_eq_none_iff]
    intro offset hoffset
    rw [List.mem_range'_1] at hoffset
    exact nameAt_none (by omega) (h offset)
  unfold decodeWespPermissionBlob
  dsimp only
  split
  · rfl
  split
  · rfl
  rw [Probe.value_bind, hsearch]
  rfl

/-- The windows of the blob from its first name on decide the permission. -/
theorem decode_found {hit : ℕ} (hhit : NameBegins data hit)
    (hfirst : ∀ offset < hit, ¬ NameBegins data offset) :
    (decodeWespPermissionBlob data.length out).value (spanMemory data) =
      (true,
        { out with
          present := true
          permission := ((List.range' hit
            (data.length + 1 - kOctetStringBytes - hit)).findSome?
              fun offset =>
                (octetWindow offset).value (spanMemory data)).getD 0 }) := by
  have hfits := hhit.fits
  have hlength := attributeNameBytes_length
  have hsearch : (Probe.firstOf nameAt (List.range' 0
      (data.length + 1 - attributeNameBytes.length))).value
        (spanMemory data) = some hit := by
    rw [Probe.value_firstOf]
    refine Loops.findSome?_range' (Nat.zero_le _) (by omega)
      (nameAt_some_iff.mpr ⟨rfl, holdsAt_of_begins hhit⟩) ?_
    intro offset _ hlt
    exact nameAt_none (by omega) (hfirst offset hlt)
  unfold decodeWespPermissionBlob
  dsimp only
  rw [if_neg (by omega), if_neg (by omega), Probe.value_bind, hsearch]
  dsimp only
  rw [Probe.value_bind, Probe.value_firstOf]
  rfl

/-- The name is reported exactly when it occurs. -/
theorem decode_present_iff :
    ((decodeWespPermissionBlob data.length out).value
        (spanMemory data)).2.present = true ↔
      attributeNameBytes <:+: data := by
  classical
  rw [infix_iff_nameBegins]
  by_cases hname : ∃ offset, NameBegins data offset
  · rw [decode_found (Nat.find_spec hname)
      fun offset hlt => Nat.find_min hname hlt]
    simp [hname]
  · rw [decode_absent fun offset h => hname ⟨offset, h⟩]
    simp [hname]

theorem mem_touched_nameAt {memory : ℕ → UInt8} {start offset : ℕ}
    (h : offset ∈ (nameAt start).touched memory) :
    start ≤ offset ∧ offset < start + attributeNameBytes.length := by
  rw [nameAt, Probe.touched_bind, touched_memcmp, List.mem_append,
    List.mem_range'_1] at h
  rcases h with h | h
  · exact h
  · split at h
    · cases h
    · cases h

theorem mem_touched_octetWindow {memory : ℕ → UInt8} {start offset : ℕ}
    (h : offset ∈ (octetWindow start).touched memory) :
    start ≤ offset ∧ offset < start + 8 := by
  unfold octetWindow kOctetPermissionOffset at h
  simp only [Probe.touched_bind, touched_copyBytes, Probe.touched_pure,
    List.append_nil, List.mem_append, List.mem_range'_1] at h
  omega

/-- Only bytes of the span are read. -/
theorem decode_touched {offset : ℕ}
    (h : offset ∈ (decodeWespPermissionBlob data.length out).touched
      (spanMemory data)) : offset < data.length := by
  unfold decodeWespPermissionBlob at h
  dsimp only at h
  split at h
  · cases h
  split at h
  · cases h
  rename_i hempty hshort
  rw [Probe.touched_bind, List.mem_append] at h
  rcases h with h | h
  · obtain ⟨start, hstart, hcell⟩ := Probe.touched_firstOf h
    rw [List.mem_range'_1] at hstart
    have hname := mem_touched_nameAt hcell
    omega
  · split at h
    · cases h
    · rw [Probe.touched_bind, List.mem_append] at h
      rcases h with h | h
      · obtain ⟨start, hstart, hcell⟩ := Probe.touched_firstOf h
        rw [List.mem_range'_1] at hstart
        have hwindow := mem_touched_octetWindow hcell
        unfold kOctetStringBytes at hstart
        omega
      · cases h

/-- The first window with the tag behind the first name is the payload, when
no tag begins in the gap between the two. -/
theorem decode_payload {front gap tail : List UInt8} {permission : UInt32}
    (hdata : data = front ++ attributeNameBytes ++ gap ++
      octetPayload permission ++ tail)
    (hfront : ∀ offset < front.length, ¬ NameBegins data offset)
    (hgap : ∀ offset < gap.length,
      ¬ kOctetTag <+: data.drop
        (front.length + attributeNameBytes.length + offset)) :
    (decodeWespPermissionBlob data.length out).value (spanMemory data) =
      (true,
        { out with present := true, permission := permission.toNat }) := by
  have hhit : NameBegins data front.length :=
    ⟨gap ++ octetPayload permission ++ tail, by simp [hdata]⟩
  have hpayload : octetPayload permission <+: data.drop
      (front.length + attributeNameBytes.length + gap.length) := by
    refine ⟨tail, ?_⟩
    rw [hdata, List.append_assoc _ (octetPayload permission), List.drop_left']
    rw [List.length_append, List.length_append]
  have hsize : data.length = front.length + attributeNameBytes.length +
      gap.length + 16 + tail.length := by
    rw [hdata, List.length_append, List.length_append, List.length_append,
      List.length_append, octetPayload_length]
  have hnone : ∀ offset, front.length ≤ offset →
      offset < front.length + attributeNameBytes.length + gap.length →
      (octetWindow offset).value (spanMemory data) = none := by
    intro offset hstart hlt
    apply octetWindow_none
    intro htag
    by_cases hname : offset < front.length + attributeNameBytes.length
    · -- no byte of the name is the first byte of the tag
      have hbyte := holdsAt_of_begins hhit (offset - front.length) (by omega)
      rw [Nat.add_sub_cancel' hstart] at hbyte
      have hone : spanMemory data offset = 1 := htag 0 (by decide)
      rw [hone] at hbyte
      apply attributeNameBytes_tagless
      rw [hbyte]
      exact List.getElem_mem _
    · refine hgap (offset - (front.length + attributeNameBytes.length))
        (by omega) ?_
      rw [Nat.add_sub_cancel' (by omega)]
      exact prefix_of_holdsAt (by change offset + 4 ≤ _; omega) htag
  have hsearch : (List.range' front.length
      (data.length + 1 - kOctetStringBytes - front.length)).findSome?
        (fun offset => (octetWindow offset).value (spanMemory data)) =
      some permission.toNat := by
    refine Loops.findSome?_range' ?_ ?_
      (octetWindow_payload (holdsAt_of_begins hpayload)) hnone
    · omega
    · unfold kOctetStringBytes
      omega
  rw [decode_found hhit hfront, hsearch]
  rfl

end

/-- The decoder reads back the permission that `ApplyOperation` writes,
reports the claim exactly when its name occurs, and stays inside the data. -/
theorem decodeWespPermissionBlob_inverts (data : List UInt8)
    (out : TokenAttributeState) :
    (∀ (front gap tail : List UInt8) (permission : UInt32),
      data = front ++ attributeNameBytes ++ gap ++
        octetPayload permission ++ tail →
      (∀ offset < front.length, ¬ NameBegins data offset) →
      (∀ offset < gap.length, ¬ kOctetTag <+: data.drop
        (front.length + attributeNameBytes.length + offset)) →
      (decodeWespPermissionBlob data.length out).value (spanMemory data) =
        (true,
          { out with present := true, permission := permission.toNat })) ∧
    (((decodeWespPermissionBlob data.length out).value
        (spanMemory data)).2.present = true ↔
      attributeNameBytes <:+: data) ∧
    ∀ offset ∈ (decodeWespPermissionBlob data.length out).touched
      (spanMemory data), offset < data.length := by
  refine ⟨?_, decode_present_iff, ?_⟩
  · intro front gap tail permission hdata hfront hgap
    exact decode_payload hdata hfront hgap
  · intro offset hoffset
    exact decode_touched hoffset

/-- A payload of permission 2 that ends at the end of the blob, after a gap
of five bytes. -/
theorem decodeWespPermissionBlob_ends :
    let data := [7, 1] ++ attributeNameBytes ++ [204, 204, 204, 204, 1] ++
      octetPayload 2 ++ []
    (decodeWespPermissionBlob data.length {}).value (spanMemory data) =
      (true, { present := true, permission := 2 }) := by
  intro data
  refine (decodeWespPermissionBlob_inverts data {}).1 [7, 1]
    [204, 204, 204, 204, 1] [] 2 rfl ?_ ?_
  · unfold NameBegins
    decide
  · decide

end Esptool.Cli
