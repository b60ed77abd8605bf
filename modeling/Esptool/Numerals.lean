import Esptool.Text
import Mathlib.Data.Nat.Digits.Defs

/-!
# The numbers that texts write

The number of a numeral is defined on its digits, however many there are.  The
two parsers of the source, which accumulate digit by digit with an overflow
test, return that number when it fits in 64 bits and refuse the text
otherwise.
-/

namespace Esptool.Text

/-- The base of a numeral and its digits. -/
def numeralDigits (text : List Char) : ℕ × List Char :=
  match text with
  | '0' :: x :: d :: rest =>
      if x = 'x' ∨ x = 'X' then (16, d :: rest)
      else (10, '0' :: x :: d :: rest)
  | digits => (10, digits)

/-- The number a text writes, however large it is. -/
def numeralValue (text : List Char) : Option ℕ :=
  let numeral := numeralDigits (trim text)
  if numeral.2 = [] then none
  else
    match numeral.2.mapM hexValue with
    | none => none
    | some digits =>
        if digits.all (· < numeral.1) then
          some (Nat.ofDigits numeral.1 digits.reverse)
        else none

/-- One digit more in front. -/
theorem accumulate_cons (basis accumulator digit : ℕ) (digits : List ℕ) :
    accumulator * basis ^ (digit :: digits).length +
        Nat.ofDigits basis (digit :: digits).reverse =
      (accumulator * basis + digit) * basis ^ digits.length +
        Nat.ofDigits basis digits.reverse := by
  have hdigits : Nat.ofDigits basis (digit :: digits).reverse =
      Nat.ofDigits basis digits.reverse +
        basis ^ digits.length * digit := by
    rw [List.reverse_cons, Nat.ofDigits_append, Nat.ofDigits_singleton,
      List.length_reverse]
  calc
    accumulator * basis ^ (digit :: digits).length +
          Nat.ofDigits basis (digit :: digits).reverse =
        accumulator * basis ^ (digits.length + 1) +
          (Nat.ofDigits basis digits.reverse +
            basis ^ digits.length * digit) := by
      rw [hdigits, List.length_cons]
    _ = (accumulator * basis + digit) * basis ^ digits.length +
          Nat.ofDigits basis digits.reverse := by ring

/-- The digit loop accepts the digits of a number below the bound. -/
theorem accumulateDigits_iff {basis : ℕ} (hbasis : basis = 10 ∨ basis = 16)
    {text : List Char} {accumulator value : ℕ}
    (haccumulator : accumulator < 2 ^ 64) :
    accumulateDigits basis accumulator text = some value ↔
      ∃ digits, text.mapM hexValue = some digits ∧
        digits.all (· < basis) = true ∧ value < 2 ^ 64 ∧
        value = accumulator * basis ^ digits.length +
          Nat.ofDigits basis digits.reverse := by
  induction text generalizing accumulator with
  | nil =>
      constructor
      · intro h
        cases h
        exact ⟨[], rfl, rfl, haccumulator, by simp⟩
      · rintro ⟨digits, hdigits, -, -, rfl⟩
        cases hdigits
        simp [accumulateDigits]
  | cons c rest ih =>
      rw [accumulateDigits]
      cases hdigit : hexValue c with
      | none =>
          constructor
          · nofun
          · rintro ⟨digits, hdigits, -⟩
            rw [List.mapM_cons, hdigit] at hdigits
            cases hdigits
      | some digit =>
          have hmap : ∀ digits, (c :: rest).mapM hexValue = some digits ↔
              ∃ others, rest.mapM hexValue = some others ∧
                digits = digit :: others := by
            intro digits
            rw [List.mapM_cons, hdigit]
            cases rest.mapM hexValue <;> simp [eq_comm]
          simp only [hmap]
          have hlimit : digit > (if basis = 16 then 15 else 9) ↔
              ¬ digit < basis := by
            rcases hbasis with rfl | rfl
            · rw [if_neg (by decide)]
              omega
            · rw [if_pos rfl]
              omega
          by_cases hsmall : digit < basis
          · rw [if_neg (by rw [hlimit]; exact not_not.mpr hsmall)]
            have hover : accumulator > (2 ^ 64 - 1 - digit) / basis ↔
                2 ^ 64 ≤ accumulator * basis + digit := by
              rcases hbasis with rfl | rfl
              · omega
              · omega
            by_cases hlarge : 2 ^ 64 ≤ accumulator * basis + digit
            · rw [if_pos (hover.mpr hlarge)]
              constructor
              · nofun
              · rintro ⟨digits, ⟨others, -, rfl⟩, -, hvalue, rfl⟩
                rw [accumulate_cons] at hvalue
                have hone : 1 ≤ basis ^ others.length :=
                  Nat.one_le_pow _ _ (by omega)
                have hgrows : accumulator * basis + digit ≤
                    (accumulator * basis + digit) * basis ^ others.length :=
                  Nat.le_mul_of_pos_right _ hone
                omega
            · rw [if_neg (fun h => hlarge (hover.mp h)), ih (by omega)]
              constructor
              · rintro ⟨others, hothers, hall, hvalue, hsum⟩
                refine ⟨digit :: others, ⟨others, hothers, rfl⟩, ?_, hvalue, ?_⟩
                · rw [List.all_cons, hall]
                  simpa using hsmall
                · rw [hsum, accumulate_cons]
              · rintro ⟨digits, ⟨others, hothers, rfl⟩, hall, hvalue, hsum⟩
                rw [List.all_cons, Bool.and_eq_true] at hall
                refine ⟨others, hothers, hall.2, hvalue, ?_⟩
                rw [hsum, accumulate_cons]
          · rw [if_pos (hlimit.mpr hsmall)]
            constructor
            · nofun
            · rintro ⟨digits, ⟨others, -, rfl⟩, hall, -⟩
              rw [List.all_cons, Bool.and_eq_true] at hall
              exact absurd (by simpa using hall.1) hsmall

theorem numeralDigits_nil : numeralDigits [] = (10, []) :=
  rfl

theorem numeralDigits_hex {x : Char} (hx : x = 'x' ∨ x = 'X') (d : Char)
    (rest : List Char) :
    numeralDigits ('0' :: x :: d :: rest) = (16, d :: rest) :=
  if_pos hx

theorem numeralDigits_decimal {x : Char} (hx : ¬ (x = 'x' ∨ x = 'X'))
    (d : Char) (rest : List Char) :
    numeralDigits ('0' :: x :: d :: rest) = (10, '0' :: x :: d :: rest) :=
  if_neg hx

/-- The digit loop runs over the digits of the numeral in its base. -/
theorem parseUnsigned_digits (text : List Char) :
    parseUnsigned text =
      if (numeralDigits (trim text)).2 = [] then none
      else accumulateDigits (numeralDigits (trim text)).1 0
        (numeralDigits (trim text)).2 := by
  unfold parseUnsigned
  split
  · rename_i hempty
    rw [hempty, numeralDigits_nil, if_pos rfl]
  · rename_i x d rest htrim
    rw [htrim]
    by_cases hx : x = 'x' ∨ x = 'X'
    · rw [if_pos hx, numeralDigits_hex hx, if_neg (List.cons_ne_nil _ _)]
    · rw [if_neg hx, numeralDigits_decimal hx, if_neg (List.cons_ne_nil _ _)]
  · rename_i hempty hshape
    have hnumeral : numeralDigits (trim text) = (10, trim text) := by
      unfold numeralDigits
      split
      · rename_i x d rest htrim
        exact absurd htrim (hshape x d rest)
      · rfl
    rw [hnumeral, if_neg hempty]

theorem numeralDigits_basis (text : List Char) :
    (numeralDigits text).1 = 10 ∨ (numeralDigits text).1 = 16 := by
  unfold numeralDigits
  split
  · split
    · exact .inr rfl
    · exact .inl rfl
  · exact .inl rfl

/-- `ParseUnsigned` accepts the numerals of 64-bit numbers. -/
theorem parseUnsigned_eq (text : List Char) :
    parseUnsigned text = (numeralValue text).filter (· < 2 ^ 64) := by
  rw [parseUnsigned_digits, numeralValue]
  by_cases hempty : (numeralDigits (trim text)).2 = []
  · rw [if_pos hempty, if_pos hempty]
    rfl
  · rw [if_neg hempty, if_neg hempty]
    apply Option.ext
    intro value
    rw [accumulateDigits_iff (numeralDigits_basis _) (by norm_num)]
    cases (numeralDigits (trim text)).2.mapM hexValue with
    | none => simp
    | some digits =>
        simp only [Option.some.injEq, exists_eq_left', Nat.zero_mul,
          Nat.zero_add]
        by_cases hall : digits.all (· < (numeralDigits (trim text)).1) = true
        · rw [if_pos hall]
          simp only [hall, true_and, Option.filter_eq_some_iff,
            Option.some.injEq, decide_eq_true_eq]
          constructor
          · rintro ⟨hvalue, rfl⟩
            exact ⟨rfl, hvalue⟩
          · rintro ⟨rfl, hvalue⟩
            exact ⟨hvalue, rfl⟩
        · rw [if_neg hall]
          simp [hall]

/-- A text that the parser accepts writes the number it returns. -/
theorem parseUnsigned_value {text : List Char} {value : ℕ}
    (h : parseUnsigned text = some value) : numeralValue text = some value := by
  rw [parseUnsigned_eq, Option.filter_eq_some_iff] at h
  exact h.1

/-! ## Decimal literals -/

/-- The number of a decimal literal, however large it is. -/
def decimalValue (text : List Char) : Option ℕ :=
  if text ≠ [] ∧ text.all Char.isDigit then
    some (Nat.ofDigits 10 (text.reverse.map fun c => c.toNat - '0'.toNat))
  else none

theorem foldl_decimal (text : List Char) (accumulator : ℕ) :
    text.foldl (fun n c => n * 10 + (c.toNat - '0'.toNat)) accumulator =
      accumulator * 10 ^ text.length +
        Nat.ofDigits 10 (text.reverse.map fun c => c.toNat - '0'.toNat) := by
  induction text generalizing accumulator with
  | nil => simp
  | cons c rest ih =>
      rw [List.foldl_cons, ih, List.reverse_cons, List.map_append,
        Nat.ofDigits_append, List.length_map, List.length_reverse,
        List.length_cons, pow_succ]
      simp only [List.map_cons, List.map_nil, Nat.ofDigits_singleton]
      ring

/-- `std::from_chars` accepts the decimal literals of 64-bit numbers. -/
theorem fromChars_eq (text : List Char) :
    fromChars text = (decimalValue text).filter (· < 2 ^ 64) := by
  unfold fromChars decimalValue
  by_cases hdigits : text ≠ [] ∧ text.all Char.isDigit = true
  · rw [if_pos hdigits, if_pos hdigits]
    dsimp only
    rw [foldl_decimal, Nat.zero_mul, Nat.zero_add]
    simp only [Option.filter, decide_eq_true_eq]
  · rw [if_neg hdigits, if_neg hdigits]
    rfl

end Esptool.Text
