import Esptool.Text
import Mathlib.Data.List.Forall2
import Mathlib.Tactic.IntervalCases

/-!
# Hexadecimal digits

What `HexValue` returns by code point, and how it meets the other characters
that the parsers treat specially: white space, decimal digits, the two cases
of a letter and the digits that a formatter prints.
-/

namespace Esptool.Text

theorem hexValue_eq (c : Char) :
    hexValue c =
      if 48 ≤ c.toNat ∧ c.toNat ≤ 57 then some (c.toNat - 48)
      else if 97 ≤ c.toNat ∧ c.toNat ≤ 102 then some (c.toNat - 97 + 10)
      else if 65 ≤ c.toNat ∧ c.toNat ≤ 70 then some (c.toNat - 65 + 10)
      else none :=
  rfl

/-- The digits are those of the three ranges. -/
theorem hexValue_eq_some_iff {c : Char} {digit : ℕ} :
    hexValue c = some digit ↔
      48 ≤ c.toNat ∧ c.toNat ≤ 57 ∧ digit + 48 = c.toNat ∨
      97 ≤ c.toNat ∧ c.toNat ≤ 102 ∧ digit + 87 = c.toNat ∨
      65 ≤ c.toNat ∧ c.toNat ≤ 70 ∧ digit + 55 = c.toNat := by
  rw [hexValue_eq]
  split_ifs <;> simp <;> omega

theorem hexValue_lt {c : Char} {digit : ℕ} (h : hexValue c = some digit) :
    digit < 16 := by
  rw [hexValue_eq_some_iff] at h
  omega

theorem hexValue_decimal {c : Char} {digit : ℕ} :
    hexValue c = some digit ∧ digit < 10 ↔
      c.isDigit = true ∧ digit = c.toNat - 48 := by
  rw [hexValue_eq_some_iff, Char.isDigit_iff_toNat]
  change _ ↔ (48 ≤ c.toNat ∧ c.toNat ≤ 57) ∧ _
  omega

theorem isSpace_iff {c : Char} :
    isSpace c = true ↔
      c.toNat = 32 ∨ c.toNat = 9 ∨ c.toNat = 13 ∨ c.toNat = 10 ∨
        c.toNat = 12 ∨ c.toNat = 11 := by
  simp only [isSpace, Bool.or_eq_true, beq_iff_eq, ← Char.toNat_inj, or_assoc]
  rfl

/-- No digit is white space. -/
theorem isSpace_of_hexValue {c : Char} {digit : ℕ}
    (h : hexValue c = some digit) : isSpace c = false := by
  rw [hexValue_eq_some_iff] at h
  rw [Bool.eq_false_iff, ne_eq, isSpace_iff]
  omega

theorem hexValue_digitChar {digit : ℕ} (h : digit < 16) :
    hexValue digit.digitChar = some digit := by
  interval_cases digit <;> rfl

/-- A property of the ASCII characters, one after the other. -/
theorem forall_ascii {P : Char → Prop} (h : ∀ n < 128, P (Char.ofNat n))
    {c : Char} (hc : c.toNat < 128) : P c := by
  have hchar := h c.toNat hc
  rwa [Char.ofNat_toNat] at hchar

theorem hexValue_ascii {c : Char} {digit : ℕ} (h : hexValue c = some digit) :
    c.toNat < 128 := by
  rw [hexValue_eq_some_iff] at h
  omega

/-- A digit is printed in lower case. -/
theorem digitChar_of_hexValue {c : Char} {digit : ℕ}
    (h : hexValue c = some digit) : digit.digitChar = foldAscii c := by
  have hall : (hexValue c).all fun value => value.digitChar == foldAscii c :=
    forall_ascii (P := fun c => (hexValue c).all
      (fun value => value.digitChar == foldAscii c) = true) (by decide)
      (hexValue_ascii h)
  simpa [h] using hall

/-! ## Runs of digits -/

/-- The values of the digits of a text, one by one. -/
theorem mapM_eq_some_iff {α β : Type} {f : α → Option β} {items : List α}
    {values : List β} :
    items.mapM f = some values ↔
      List.Forall₂ (fun item value => f item = some value) items values := by
  induction items generalizing values with
  | nil => cases values <;> simp
  | cons item rest ih =>
      rw [List.mapM_cons, List.forall₂_cons_left_iff]
      cases hvalue : f item with
      | none => simp
      | some value =>
          simp only [Option.some.injEq, ← ih]
          cases rest.mapM f <;> simp [eq_comm]

theorem exists_value_of_mem {α β : Type} {f : α → Option β} {items : List α}
    {values : List β} (h : items.mapM f = some values) {item : α}
    (hitem : item ∈ items) : ∃ value, f item = some value := by
  have hall := mapM_eq_some_iff.mp h
  induction hall with
  | nil => cases hitem
  | @cons _ value _ _ hvalue hrest ih =>
      rcases List.mem_cons.mp hitem with rfl | hmem
      · exact ⟨value, hvalue⟩
      · exact ih (mapM_eq_some_iff.mpr hrest) hmem

theorem exists_mapM {α β : Type} {f : α → Option β} {items : List α}
    (h : ∀ item ∈ items, (f item).isSome = true) :
    ∃ values, items.mapM f = some values := by
  induction items with
  | nil => exact ⟨[], rfl⟩
  | cons item rest ih =>
      obtain ⟨value, hvalue⟩ :=
        Option.isSome_iff_exists.mp (h item List.mem_cons_self)
      obtain ⟨values, hvalues⟩ :=
        ih fun other hother => h other (List.mem_cons_of_mem item hother)
      exact ⟨value :: values, by rw [List.mapM_cons, hvalue, hvalues]; rfl⟩

theorem lt_of_mem_hexValues {digits : List Char} {values : List ℕ}
    (h : digits.mapM hexValue = some values) {value : ℕ}
    (hvalue : value ∈ values) : value < 16 := by
  have hall := mapM_eq_some_iff.mp h
  induction hall with
  | nil => cases hvalue
  | cons hdigit hrest ih =>
      rcases List.mem_cons.mp hvalue with rfl | hmem
      · exact hexValue_lt hdigit
      · exact ih (mapM_eq_some_iff.mpr hrest) hmem

/-! ## Bytes -/

/-- The bytes that a run of hexadecimal digits writes, two for each. -/
def Decodes (hex : List Char) (bytes : List UInt8) : Prop :=
  ∃ digits, hex.mapM hexValue = some digits ∧
    digits.length = 2 * bytes.length ∧
    ∀ i < bytes.length, (bytes.getD i 0).toNat =
      16 * digits.getD (2 * i) 0 + digits.getD (2 * i + 1) 0

theorem decodes_nil : Decodes [] [] :=
  ⟨[], rfl, rfl, nofun⟩

theorem Decodes.length_eq {hex : List Char} {bytes : List UInt8}
    (h : Decodes hex bytes) : hex.length = 2 * bytes.length := by
  obtain ⟨digits, hdigits, hlength, -⟩ := h
  rw [← hlength, (mapM_eq_some_iff.mp hdigits).length_eq]

theorem decodes_cons_iff {high low : Char} {rest : List Char} {byte : UInt8}
    {bytes : List UInt8} :
    Decodes (high :: low :: rest) (byte :: bytes) ↔
      (∃ first second, hexValue high = some first ∧
        hexValue low = some second ∧ byte.toNat = 16 * first + second) ∧
      Decodes rest bytes := by
  unfold Decodes
  simp only [mapM_eq_some_iff, List.forall₂_cons_left_iff]
  constructor
  · rintro ⟨_, ⟨first, _, hfirst, ⟨second, digits, hsecond, hrest, rfl⟩,
      rfl⟩, hlength, hbytes⟩
    refine ⟨⟨first, second, hfirst, hsecond, ?_⟩, digits, hrest, ?_, ?_⟩
    · simpa using hbytes 0 (by simp)
    · simp only [List.length_cons] at hlength
      omega
    · intro i hi
      simpa [Nat.mul_add] using hbytes (i + 1) (by simpa using hi)
  · rintro ⟨⟨first, second, hfirst, hsecond, hbyte⟩, digits, hrest, hlength,
      hbytes⟩
    refine ⟨_, ⟨first, _, hfirst, ⟨second, digits, hsecond, hrest, rfl⟩, rfl⟩,
      ?_, ?_⟩
    · simp only [List.length_cons]
      omega
    · rintro (_ | i) hi
      · simpa using hbyte
      · simpa [Nat.mul_add] using hbytes i (by simpa using hi)

/-- White space is no digit. -/
theorem not_decodes_of_space {hex : List Char}
    (hspace : ∃ c ∈ hex, isSpace c = true) (bytes : List UInt8) :
    ¬ Decodes hex bytes := by
  rintro ⟨digits, hdigits, -⟩
  obtain ⟨c, hc, hblank⟩ := hspace
  obtain ⟨digit, hdigit⟩ := exists_value_of_mem hdigits hc
  rw [isSpace_of_hexValue hdigit] at hblank
  cases hblank

end Esptool.Text
