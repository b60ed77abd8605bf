import Esptool.NotifySafety
import Mathlib.Data.List.TakeWhile

/-!
# Paths that stand in the notification

A path that stands in the notification as UTF-16 text without a length is read
unit by unit.  The loop ends at the terminator, but also at a unit that is not
printable ASCII and after 260 units, and the path so far is the answer in each
case.
-/

namespace Esptool.Esp

open CheckedRead

def isPrintable (unit : UInt16) : Bool :=
  decide (0x20 ≤ unit.toNat ∧ unit.toNat ≤ 0x7E)

/-! ## Conversion of a printable prefix -/

theorem isPrintable_notSurrogate {unit : UInt16}
    (h : isPrintable unit = true) :
    Text.isHighSurrogate unit = false ∧ Text.isLowSurrogate unit = false := by
  have hrange := of_decide_eq_true h
  simp only [Text.isHighSurrogate, Text.isLowSurrogate, decide_eq_false_iff_not,
    UInt16.le_iff_toNat_le, UInt16.lt_iff_toNat_lt, UInt16.reduceToNat]
  omega

theorem toUtf8_append {front : List UInt16}
    (h : ∀ unit ∈ front, isPrintable unit = true) (rest : List UInt16) :
    Text.toUtf8 (front ++ rest) =
      front.map (fun unit => Char.ofNat unit.toNat) ++ Text.toUtf8 rest := by
  induction front with
  | nil => rfl
  | cons unit front ih =>
      obtain ⟨hhigh, hlow⟩ := isPrintable_notSurrogate
        (h unit List.mem_cons_self)
      have hrest := ih fun other hother =>
        h other (List.mem_cons_of_mem unit hother)
      unfold Text.toUtf8 at hrest ⊢
      rw [List.cons_append, Text.decodeUtf16, hhigh, hlow, hrest]
      rfl

theorem decodeUtf16_high_ne_nil (high : UInt16) (rest : List UInt16) :
    Text.decodeUtf16 (some high) rest ≠ [] := by
  cases rest with
  | nil => simp [Text.decodeUtf16]
  | cons unit rest =>
      rw [Text.decodeUtf16]
      split
      · simp
      split
      · simp
      · simp

/-- No text of at least one unit is converted to the empty text. -/
theorem toUtf8_ne_nil {units : List UInt16} (h : units ≠ []) :
    Text.toUtf8 units ≠ [] := by
  cases units with
  | nil => exact absurd rfl h
  | cons unit rest =>
      rw [Text.toUtf8, Text.decodeUtf16]
      split
      · exact decodeUtf16_high_ne_nil unit rest
      split
      · simp
      · simp

/-- A printable prefix is converted to the same text only when it is the
whole. -/
theorem toUtf8_prefix_iff {front units : List UInt16} (hfront : front <+: units)
    (h : ∀ unit ∈ front, isPrintable unit = true) :
    Text.toUtf8 front = Text.toUtf8 units ↔ front = units := by
  obtain ⟨rest, rfl⟩ := hfront
  have hself := toUtf8_append h []
  rw [List.append_nil] at hself
  rw [toUtf8_append h rest, hself]
  constructor
  · intro heq
    have hrest : Text.toUtf8 rest = [] := (List.append_cancel_left heq).symm
    by_contra hne
    refine toUtf8_ne_nil ?_ hrest
    rintro rfl
    exact hne (List.append_nil front).symm
  · intro heq
    have hrest : rest = [] := List.self_eq_append_right.mp heq
    rw [hrest]

/-! ## The loop -/

/-- A text of these units and a terminator stands in memory, and each of its
units can be read. -/
structure HoldsText (m : Memory) (text : ℕ) (units : List UInt16) : Prop where
  units_read : ∀ i (hi : i < units.length),
    eval m (notifyReadU16 text (i * 2)) = some units[i].toNat
  terminated : eval m (notifyReadU16 text (units.length * 2)) = some 0
  noNul : ∀ unit ∈ units, unit ≠ 0

section

variable {m : Memory} {text : ℕ} {units : List UInt16}

theorem eval_inlineUnits (htext : HoldsText m text units) (count : ℕ) :
    ∀ start, start ≤ units.length →
      eval m (inlineUnits text (List.range' start count)) =
        some (((units.drop start).take count).takeWhile isPrintable) := by
  induction count with
  | zero => intro start _; rfl
  | succ count ih =>
      intro start hstart
      rw [List.range'_succ, inlineUnits, eval_bind, eval_attempt,
        Option.bind_some]
      by_cases hend : start = units.length
      · rw [hend, htext.terminated, List.drop_length]
        rfl
      · have hlt : start < units.length := by omega
        rw [htext.units_read start hlt, List.drop_eq_getElem_cons hlt,
          List.take_succ_cons, List.takeWhile_cons]
        dsimp only
        by_cases hprintable : isPrintable units[start] = true
        · have hrange := of_decide_eq_true hprintable
          rw [if_neg (by omega), eval_bind, ih (start + 1) hlt,
            if_pos hprintable]
          simp
        · have hrange := of_decide_eq_false (Bool.eq_false_iff.mpr hprintable)
          rw [if_pos (by omega), if_neg hprintable]
          rfl

/-- The path is the printable part of the first 260 units. -/
theorem eval_tryReadInlineNtPath (htext : HoldsText m text units)
    (hnt : units.head? = some 0x5C) :
    eval m (tryReadInlineNtPath text) =
      some (String.ofList (Text.toUtf8
        ((units.take kMaxInlineChars).takeWhile isPrintable))) := by
  obtain ⟨rest, rfl⟩ : ∃ rest, units = 0x5C :: rest := by
    cases units with
    | nil => cases hnt
    | cons unit rest => exact ⟨rest, by rw [Option.some.inj hnt]⟩
  have hfirst : eval m (notifyReadU16 text 0) = some 0x5C :=
    htext.units_read 0 (by simp)
  have hbase : text ≠ 0 := by
    rintro rfl
    simp [notifyReadU16, readPod] at hfirst
  have hstarts : eval m (startsNtPath text) = some () := by
    rw [startsNtPath, eval_bind, hfirst]
    rfl
  have hloop := eval_inlineUnits htext kMaxInlineChars 0 (Nat.zero_le _)
  rw [tryReadInlineNtPath, eval_bind, eval_guard, if_pos hbase,
    Option.bind_some, eval_bind, hstarts, Option.bind_some, eval_bind,
    List.range_eq_range', hloop]
  rfl

theorem takeWhile_isPrintable_iff :
    (units.take kMaxInlineChars).takeWhile isPrintable = units ↔
      (∀ unit ∈ units, isPrintable unit = true) ∧
        units.length ≤ kMaxInlineChars := by
  constructor
  · intro h
    constructor
    · intro unit hunit
      rw [← h] at hunit
      exact List.mem_takeWhile_imp hunit
    · have hlength := (List.takeWhile_sublist isPrintable
        (l := units.take kMaxInlineChars)).length_le
      rw [h, List.length_take] at hlength
      omega
  · rintro ⟨hprintable, hlength⟩
    rw [List.take_of_length_le hlength]
    exact List.takeWhile_eq_self_iff.mpr hprintable

end

/-- The path is the whole text exactly when all its units are printable ASCII
and there are at most 260 of them; otherwise it is a proper prefix. -/
theorem tryReadInlineNtPath_whole_iff {m : Memory} {text : ℕ}
    {units : List UInt16} (htext : HoldsText m text units)
    (hnt : units.head? = some 0x5C) :
    (eval m (tryReadInlineNtPath text) = none ∨
      eval m (tryReadInlineNtPath text) =
        some (String.ofList (Text.toUtf8 units))) ↔
    (∀ unit ∈ units, 0x20 ≤ unit.toNat ∧ unit.toNat ≤ 0x7E) ∧
      units.length ≤ 260 := by
  have hbegins : (units.take kMaxInlineChars).takeWhile isPrintable <+:
      units := by
    apply List.IsPrefix.trans
    · exact List.takeWhile_prefix isPrintable
    · exact List.take_prefix _ units
  have hprintable : ∀ unit ∈ (units.take kMaxInlineChars).takeWhile
      isPrintable, isPrintable unit = true :=
    fun unit hunit => List.mem_takeWhile_imp hunit
  rw [eval_tryReadInlineNtPath htext hnt, Option.some.injEq,
    String.ofList_inj, toUtf8_prefix_iff hbegins hprintable,
    takeWhile_isPrintable_iff]
  simp [isPrintable, kMaxInlineChars]

def textMemory (first : ℕ) : Memory :=
  wordMemory fun word => if word = 0x1000 / 4 then first else 0

theorem holdsText_letter :
    HoldsText (textMemory 0x0061005C) 0x1000 [0x5C, 0x61] :=
  ⟨by decide, by decide +kernel, by simp⟩

/-- A path of a backslash and a letter is read as a whole. -/
theorem tryReadInlineNtPath_letter :
    eval (textMemory 0x0061005C) (tryReadInlineNtPath 0x1000) = none ∨
      eval (textMemory 0x0061005C) (tryReadInlineNtPath 0x1000) =
        some (String.ofList (Text.toUtf8 [0x5C, 0x61])) := by
  have hwhole := tryReadInlineNtPath_whole_iff holdsText_letter rfl
  exact hwhole.mpr (by simp)

/-- Of a name with an accented letter only the part before it is read. -/
theorem tryReadInlineNtPath_accent :
    HoldsText (textMemory 0x00E9005C) 0x1000 [0x5C, 0xE9] ∧
    ¬ (eval (textMemory 0x00E9005C) (tryReadInlineNtPath 0x1000) = none ∨
      eval (textMemory 0x00E9005C) (tryReadInlineNtPath 0x1000) =
        some (String.ofList (Text.toUtf8 [0x5C, 0xE9]))) := by
  constructor
  · exact ⟨by decide, by decide +kernel, by simp⟩
  · decide

end Esptool.Esp
