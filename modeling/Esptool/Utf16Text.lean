import Esptool.NtPath

/-!
# UTF-16 text and back

Arguments and paths cross between UTF-16 and UTF-8 at the borders of the tool.
From UTF-8 nothing is lost; from UTF-16 exactly the texts are kept that have
no surrogate without its other half.
-/

namespace Esptool.Text

/-- A surrogate without its other half, with the high surrogate read last. -/
def hasLoneSurrogate : Option UInt16 → List UInt16 → Bool
  | none, [] => false
  | some _, [] => true
  | none, unit :: rest =>
      if isHighSurrogate unit then hasLoneSurrogate (some unit) rest
      else isLowSurrogate unit || hasLoneSurrogate none rest
  | some _, unit :: rest =>
      !isLowSurrogate unit || hasLoneSurrogate none rest

section

variable {unit high low : UInt16} {c : Char}

theorem isHighSurrogate_iff :
    isHighSurrogate unit = true ↔
      0xD800 ≤ unit.toNat ∧ unit.toNat < 0xDC00 := by
  rw [isHighSurrogate, decide_eq_true_iff, UInt16.le_iff_toNat_le,
    UInt16.lt_iff_toNat_lt]
  rfl

theorem isLowSurrogate_iff :
    isLowSurrogate unit = true ↔
      0xDC00 ≤ unit.toNat ∧ unit.toNat < 0xE000 := by
  rw [isLowSurrogate, decide_eq_true_iff, UInt16.le_iff_toNat_le,
    UInt16.lt_iff_toNat_lt]
  rfl

/-- The units of one character. -/
def unitsOf (c : Char) : List UInt16 := toUtf16 [c]

theorem toUtf16_cons (c : Char) (value : List Char) :
    toUtf16 (c :: value) = unitsOf c ++ toUtf16 value := by
  rw [unitsOf, toUtf16, toUtf16, toUtf16, List.flatMap_cons,
    List.flatMap_singleton]

theorem unitsOf_short (h : c.toNat < 0x10000) :
    unitsOf c = [UInt16.ofNat c.toNat] := by
  rw [unitsOf, toUtf16, List.flatMap_singleton, if_pos h]

theorem unitsOf_long (h : ¬c.toNat < 0x10000) :
    unitsOf c =
      [UInt16.ofNat (0xD800 + (c.toNat - 0x10000) / 0x400),
        UInt16.ofNat (0xDC00 + (c.toNat - 0x10000) % 0x400)] := by
  rw [unitsOf, toUtf16, List.flatMap_singleton, if_neg h]

/-- A character is no surrogate. -/
theorem char_ranges (c : Char) :
    c.toNat < 0xD800 ∨ 0xDFFF < c.toNat ∧ c.toNat < 0x110000 := c.valid

theorem toNat_charOfNat {n : ℕ} (h : n < 0xD800 ∨ 0xDFFF < n ∧ n < 0x110000) :
    (Char.ofNat n).toNat = n := by
  have hvalid : n.isValidChar := h
  rw [Char.ofNat, dif_pos hvalid]
  rfl

theorem unitsOf_replacement : unitsOf kReplacement = [0xFFFD] := by
  decide

theorem unitsOf_unit (hhigh : isHighSurrogate unit = false)
    (hlow : isLowSurrogate unit = false) :
    unitsOf (Char.ofNat unit.toNat) = [unit] := by
  rw [← Bool.not_eq_true, isHighSurrogate_iff] at hhigh
  rw [← Bool.not_eq_true, isLowSurrogate_iff] at hlow
  have hbound : unit.toNat < 0x10000 := unit.toNat_lt
  have hvalue : (Char.ofNat unit.toNat).toNat = unit.toNat :=
    toNat_charOfNat (by omega)
  rw [unitsOf_short (by omega), hvalue, UInt16.ofNat_toNat]

theorem unitsOf_pair (hhigh : isHighSurrogate high = true)
    (hlow : isLowSurrogate low = true) :
    unitsOf (Char.ofNat (0x10000 + (high.toNat - 0xD800) * 0x400 +
      (low.toNat - 0xDC00))) = [high, low] := by
  rw [isHighSurrogate_iff] at hhigh
  rw [isLowSurrogate_iff] at hlow
  have hvalue := toNat_charOfNat
    (n := 0x10000 + (high.toNat - 0xD800) * 0x400 + (low.toNat - 0xDC00))
    (by omega)
  have hfirst : 0xD800 + ((0x10000 + (high.toNat - 0xD800) * 0x400 +
      (low.toNat - 0xDC00)) - 0x10000) / 0x400 = high.toNat := by
    omega
  have hsecond : 0xDC00 + ((0x10000 + (high.toNat - 0xD800) * 0x400 +
      (low.toNat - 0xDC00)) - 0x10000) % 0x400 = low.toNat := by
    omega
  rw [unitsOf_long (by omega), hvalue, hfirst, hsecond, UInt16.ofNat_toNat,
    UInt16.ofNat_toNat]

/-- The units of a character are read back as the character. -/
theorem decodeUtf16_unitsOf (c : Char) (rest : List UInt16) :
    decodeUtf16 none (unitsOf c ++ rest) = c :: decodeUtf16 none rest := by
  have hranges := char_ranges c
  by_cases hshort : c.toNat < 0x10000
  · have hunit : (UInt16.ofNat c.toNat).toNat = c.toNat := by
      rw [UInt16.toNat_ofNat']
      exact Nat.mod_eq_of_lt hshort
    have hhigh : ¬isHighSurrogate (UInt16.ofNat c.toNat) = true := by
      rw [isHighSurrogate_iff, hunit]
      omega
    have hlow : ¬isLowSurrogate (UInt16.ofNat c.toNat) = true := by
      rw [isLowSurrogate_iff, hunit]
      omega
    rw [unitsOf_short hshort, List.singleton_append, decodeUtf16,
      if_neg hhigh, if_neg hlow, hunit, Char.ofNat_toNat]
  · have hupper : (c.toNat - 0x10000) / 0x400 < 0x400 := by omega
    have hfirst : (UInt16.ofNat
        (0xD800 + (c.toNat - 0x10000) / 0x400)).toNat =
        0xD800 + (c.toNat - 0x10000) / 0x400 := by
      rw [UInt16.toNat_ofNat']
      exact Nat.mod_eq_of_lt (by omega)
    have hsecond : (UInt16.ofNat
        (0xDC00 + (c.toNat - 0x10000) % 0x400)).toNat =
        0xDC00 + (c.toNat - 0x10000) % 0x400 := by
      rw [UInt16.toNat_ofNat']
      exact Nat.mod_eq_of_lt (by omega)
    have hhigh : isHighSurrogate (UInt16.ofNat
        (0xD800 + (c.toNat - 0x10000) / 0x400)) = true := by
      rw [isHighSurrogate_iff, hfirst]
      omega
    have hlow : isLowSurrogate (UInt16.ofNat
        (0xDC00 + (c.toNat - 0x10000) % 0x400)) = true := by
      rw [isLowSurrogate_iff, hsecond]
      omega
    have hvalue : 0x10000 +
        (0xD800 + (c.toNat - 0x10000) / 0x400 - 0xD800) * 0x400 +
        (0xDC00 + (c.toNat - 0x10000) % 0x400 - 0xDC00) = c.toNat := by
      omega
    rw [unitsOf_long hshort, List.cons_append, List.cons_append,
      List.nil_append, decodeUtf16, if_pos hhigh, decodeUtf16, if_pos hlow,
      hfirst, hsecond, hvalue, Char.ofNat_toNat]

end

theorem toUtf8_toUtf16 (value : List Char) :
    toUtf8 (toUtf16 value) = value := by
  induction value with
  | nil => rfl
  | cons c value ih =>
      rw [toUtf8] at ih ⊢
      rw [toUtf16_cons, decodeUtf16_unitsOf, ih]

/-- The decoder loses nothing as long as it meets no lone surrogate: there it
writes the replacement character instead. -/
theorem toUtf16_decodeUtf16_iff (value : List UInt16)
    {pending : Option UInt16}
    (hpending : ∀ high ∈ pending, isHighSurrogate high = true) :
    toUtf16 (decodeUtf16 pending value) = pending.toList ++ value ↔
      hasLoneSurrogate pending value = false := by
  have hreplaced {unit : UInt16} (chars : List Char) (rest : List UInt16)
      (hunit : isHighSurrogate unit = true ∨ isLowSurrogate unit = true) :
      toUtf16 (kReplacement :: chars) ≠ unit :: rest := by
    rw [toUtf16_cons, unitsOf_replacement, List.singleton_append]
    intro h
    rw [← (List.cons.inj h).1] at hunit
    revert hunit
    decide
  induction value generalizing pending with
  | nil =>
      cases pending with
      | none => exact ⟨fun _ => rfl, fun _ => rfl⟩
      | some high =>
          refine ⟨fun h => absurd h ?_, nofun⟩
          exact hreplaced [] [] (.inl (hpending high rfl))
  | cons unit rest ih =>
      have hnone := @ih none nofun
      rw [Option.toList_none, List.nil_append] at hnone
      cases pending with
      | none =>
          rw [decodeUtf16, hasLoneSurrogate, Option.toList_none,
            List.nil_append]
          by_cases hhigh : isHighSurrogate unit = true
          · rw [if_pos hhigh, if_pos hhigh]
            refine @ih (some unit) fun high hmem => ?_
            rw [← Option.some.inj hmem]
            exact hhigh
          rw [if_neg hhigh, if_neg hhigh]
          by_cases hlow : isLowSurrogate unit = true
          · rw [if_pos hlow, hlow]
            exact ⟨fun h => absurd h (hreplaced _ _ (.inr hlow)), nofun⟩
          · have hunits := unitsOf_unit (Bool.eq_false_iff.mpr hhigh)
              (Bool.eq_false_iff.mpr hlow)
            rw [if_neg hlow, Bool.eq_false_iff.mpr hlow, Bool.false_or,
              toUtf16_cons, hunits, List.singleton_append, List.cons_inj_right]
            exact hnone
      | some high =>
          have hfirst := hpending high rfl
          rw [decodeUtf16, hasLoneSurrogate, Option.toList_some]
          by_cases hlow : isLowSurrogate unit = true
          · rw [if_pos hlow, hlow, Bool.not_true, Bool.false_or, toUtf16_cons,
              unitsOf_pair hfirst hlow]
            change high :: unit :: _ = high :: unit :: rest ↔ _
            rw [List.cons_inj_right, List.cons_inj_right]
            exact hnone
          · have hlone : (!isLowSurrogate unit) = true := by
              simpa using hlow
            rw [if_neg hlow, hlone, Bool.true_or]
            refine ⟨fun h => absurd h ?_, nofun⟩
            split
            · exact hreplaced _ _ (.inl hfirst)
            · exact hreplaced _ _ (.inl hfirst)

theorem toUtf16_toUtf8_iff (value : List UInt16) :
    toUtf16 (toUtf8 value) = value ↔ hasLoneSurrogate none value = false :=
  toUtf16_decodeUtf16_iff value nofun

/-! ## Text without NUL -/

theorem nul_mem_toUtf16 {value : List Char} (h : 0 ∈ toUtf16 value) :
    Char.ofNat 0 ∈ value := by
  obtain ⟨c, hmem, hunit⟩ := List.mem_flatMap.mp h
  split at hunit
  · rename_i hshort
    have hzero := congrArg UInt16.toNat (List.mem_singleton.mp hunit)
    rw [UInt16.toNat_ofNat', Nat.mod_eq_of_lt hshort] at hzero
    have hnul : c.toNat = 0 := hzero.symm
    rw [← hnul, Char.ofNat_toNat]
    exact hmem
  · have hranges := char_ranges c
    exfalso
    rcases List.mem_cons.mp hunit with hzero | hunit
    · have hvalue := congrArg UInt16.toNat hzero
      rw [UInt16.toNat_ofNat', Nat.mod_eq_of_lt (by omega)] at hvalue
      have : (0 : UInt16).toNat = 0 := rfl
      omega
    · have hvalue := congrArg UInt16.toNat (List.mem_singleton.mp hunit)
      rw [UInt16.toNat_ofNat', Nat.mod_eq_of_lt (by omega)] at hvalue
      have : (0 : UInt16).toNat = 0 := rfl
      omega

theorem nul_mem_decodeUtf16 {pending : Option UInt16} {value : List UInt16}
    (hpending : ∀ high ∈ pending, isHighSurrogate high = true)
    (h : Char.ofNat 0 ∈ decodeUtf16 pending value) : 0 ∈ value := by
  have hreplacement : Char.ofNat 0 ≠ kReplacement := by decide
  have hplain {unit : UInt16} (hhigh : ¬isHighSurrogate unit = true)
      (hlow : ¬isLowSurrogate unit = true)
      (heq : Char.ofNat 0 = Char.ofNat unit.toNat) : unit = 0 := by
    rw [isHighSurrogate_iff] at hhigh
    rw [isLowSurrogate_iff] at hlow
    have hbound : unit.toNat < 0x10000 := unit.toNat_lt
    have hvalue : (Char.ofNat unit.toNat).toNat = unit.toNat :=
      toNat_charOfNat (by omega)
    rw [← heq] at hvalue
    exact UInt16.toNat_inj.mp hvalue.symm
  induction value generalizing pending with
  | nil =>
      cases pending with
      | none => cases h
      | some high => exact absurd (List.mem_singleton.mp h) hreplacement
  | cons unit rest ih =>
      have hrest (h : Char.ofNat 0 ∈ decodeUtf16 none rest) :
          0 ∈ unit :: rest :=
        List.mem_cons_of_mem unit (@ih none nofun h)
      have hawaits (hhigh : isHighSurrogate unit = true)
          (h : Char.ofNat 0 ∈ decodeUtf16 (some unit) rest) :
          0 ∈ unit :: rest := by
        refine List.mem_cons_of_mem unit (ih (fun high hmem => ?_) h)
        rw [← Option.some.inj hmem]
        exact hhigh
      cases pending with
      | none =>
          rw [decodeUtf16] at h
          split at h
          · rename_i hhigh
            exact hawaits hhigh h
          rename_i hhigh
          split at h
          · rcases List.mem_cons.mp h with heq | h
            · exact absurd heq hreplacement
            · exact hrest h
          · rename_i hlow
            rcases List.mem_cons.mp h with heq | h
            · rw [hplain hhigh hlow heq]
              exact List.mem_cons_self
            · exact hrest h
      | some high =>
          rw [decodeUtf16] at h
          split at h
          · rename_i hlow
            have hfirst := hpending high rfl
            rw [isHighSurrogate_iff] at hfirst
            rw [isLowSurrogate_iff] at hlow
            rcases List.mem_cons.mp h with heq | h
            · have hvalue := congrArg Char.toNat heq
              rw [toNat_charOfNat
                (n := 0x10000 + (high.toNat - 0xD800) * 0x400 +
                  (unit.toNat - 0xDC00)) (by omega)] at hvalue
              have : (Char.ofNat 0).toNat = 0 := rfl
              omega
            · exact hrest h
          rename_i hlow
          split at h
          · rename_i hhigh
            rcases List.mem_cons.mp h with heq | h
            · exact absurd heq hreplacement
            · exact hawaits hhigh h
          · rename_i hhigh
            rcases List.mem_cons.mp h with heq | h
            · exact absurd heq hreplacement
            rcases List.mem_cons.mp h with heq | h
            · rw [hplain hhigh hlow heq]
              exact List.mem_cons_self
            · exact hrest h

theorem nul_mem_toUtf8 {value : List UInt16}
    (h : Char.ofNat 0 ∈ toUtf8 value) : 0 ∈ value :=
  nul_mem_decodeUtf16 (fun _ hnone => by cases hnone) h

end Esptool.Text
