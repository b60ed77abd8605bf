import Esptool.HexDigits
import Esptool.Numerals
import Esptool.RuleParser
import Esptool.Trimming

/-!
# Integer parsing on machine words

`ParseUnsigned` accumulates in a 64-bit word behind an overflow test, and the
32-bit parsers narrow what it returns, the signed one through the wrap-around
of a subtraction.  On words, and with their output variables, the three accept
exactly the literals that their type can hold and return their value.
-/

namespace Esptool.Text

/-! ## The parsers on words -/

/-- One execution of `accumulator = accumulator * basis + digit`. -/
structure WordUpdate where
  accumulator : UInt64
  basis : UInt64
  digit : UInt64

def WordUpdate.value (update : WordUpdate) : UInt64 :=
  update.accumulator * update.basis + update.digit

/-- The update computes the sum of the numbers, with no carry out of the
word. -/
def WordUpdate.Exact (update : WordUpdate) : Prop :=
  update.value.toNat =
    update.accumulator.toNat * update.basis.toNat + update.digit.toNat

/-- The updates that the digit loop makes, and the accumulator at its end
unless it gives up. -/
structure DigitRun where
  updates : List WordUpdate
  result : Option UInt64

def digitRun (basis accumulator : UInt64) : List Char → DigitRun
  | [] => ⟨[], some accumulator⟩
  | c :: rest =>
      match hexValue c with
      | none => ⟨[], none⟩
      | some digit =>
          if digit > (if basis = 16 then 15 else 9) then ⟨[], none⟩
          else if accumulator > (0xFFFFFFFFFFFFFFFF - .ofNat digit) / basis then
            ⟨[], none⟩
          else
            let update : WordUpdate := ⟨accumulator, basis, .ofNat digit⟩
            let run := digitRun basis update.value rest
            ⟨update :: run.updates, run.result⟩

def unsignedRun (value : List Char) : DigitRun :=
  let trimmed := trim value
  if trimmed = [] then ⟨[], none⟩
  else
    let hexadecimal := trimmed.length > 2 ∧ trimmed[0]? = some '0' ∧
      (trimmed[1]? = some 'x' ∨ trimmed[1]? = some 'X')
    let basis : UInt64 := if hexadecimal then 16 else 10
    let index := if hexadecimal then 2 else 0
    if index ≥ trimmed.length then ⟨[], none⟩
    else digitRun basis 0 (trimmed.drop index)

/-- `ParseUnsigned` with its output variable. -/
def parseUnsignedTo (value : List Char) (out : UInt64) : Bool × UInt64 :=
  match (unsignedRun value).result with
  | none => (false, out)
  | some accumulator => (true, accumulator)

def parseUnsigned32To (text : List Char) (out : UInt32) : Bool × UInt32 :=
  let parsed := parseUnsignedTo text 0
  if !parsed.1 || decide (parsed.2 > 0xFFFFFFFF) then (false, out)
  else (true, parsed.2.toUInt32)

def parseSigned32To (text : List Char) (out : Int32) : Bool × Int32 :=
  if text = [] then (false, out)
  else
    let negative := text.head? = some '-'
    let body := if negative then text.drop 1 else text
    let parsed := parseUnsignedTo body 0
    let limit : UInt64 := if negative then (1 : UInt64) <<< 31 else 0x7FFFFFFF
    if !parsed.1 || decide (parsed.2 > limit) then (false, out)
    else if negative then (true, (0 - parsed.2.toUInt32).toInt32)
    else (true, parsed.2.toUInt32.toInt32)

/-! ## Literals -/

/-- The texts that write a number: decimal digits, or hexadecimal ones behind
`0x`. -/
inductive Literal : List Char → ℕ → Prop
  | decimal {digits : List Char} (hdigits : digits ≠ [])
      (hall : ∀ c ∈ digits, c.isDigit = true) :
      Literal digits (Nat.ofDigitChars 10 digits 0)
  | hexadecimal {x : Char} {digits : List Char} {values : List ℕ}
      (hx : x = 'x' ∨ x = 'X') (hdigits : digits ≠ [])
      (hvalues : digits.mapM hexValue = some values) :
      Literal ('0' :: x :: digits) (Nat.ofDigits 16 values.reverse)

/-- Decimal digits, as the digit loop reads them. -/
theorem mapM_decimal {digits : List Char} {values : List ℕ} :
    digits.mapM hexValue = some values ∧ values.all (· < 10) = true ↔
      (∀ c ∈ digits, c.isDigit = true) ∧
        values = digits.map fun c => c.toNat - '0'.toNat := by
  rw [mapM_eq_some_iff]
  constructor
  · rintro ⟨hdigits, hall⟩
    induction hdigits with
    | nil => simp
    | cons hdigit _ ih =>
        rw [List.all_cons, Bool.and_eq_true, decide_eq_true_eq] at hall
        obtain ⟨hdecimal, rfl⟩ := hexValue_decimal.mp ⟨hdigit, hall.1⟩
        obtain ⟨hrest, rfl⟩ := ih hall.2
        exact ⟨List.forall_mem_cons.mpr ⟨hdecimal, hrest⟩, rfl⟩
  · rintro ⟨hdecimal, rfl⟩
    have hvalue := fun c (hc : c ∈ digits) =>
      hexValue_decimal.mpr ⟨hdecimal c hc, rfl⟩
    constructor
    · rw [List.forall₂_map_right_iff, List.forall₂_same]
      exact fun c hc => (hvalue c hc).1
    · simp only [List.all_map, List.all_eq_true, Function.comp_apply,
        decide_eq_true_eq]
      exact fun c hc => (hvalue c hc).2

theorem ofDigitChars_decimal (digits : List Char) :
    Nat.ofDigitChars 10 digits 0 =
      Nat.ofDigits 10 (digits.map fun c => c.toNat - '0'.toNat).reverse := by
  have h := foldl_decimal digits 0
  rw [Nat.zero_mul, Nat.zero_add] at h
  rw [← List.map_reverse, ← h, Nat.ofDigitChars_eq_foldl]
  congr 1
  funext n c
  rw [Nat.mul_comm]

/-- Either the text has the two characters in front of hexadecimal digits, or
it stands for its own digits. -/
theorem numeralDigits_cases (text : List Char) :
    (∃ x d rest, (x = 'x' ∨ x = 'X') ∧ text = '0' :: x :: d :: rest) ∨
      numeralDigits text = (10, text) ∧
        ∀ x d rest, text = '0' :: x :: d :: rest → ¬ (x = 'x' ∨ x = 'X') := by
  by_cases hhex :
      ∃ x d rest, (x = 'x' ∨ x = 'X') ∧ text = '0' :: x :: d :: rest
  · exact .inl hhex
  · refine .inr ⟨?_, fun x d rest htext hx => hhex ⟨x, d, rest, hx, htext⟩⟩
    unfold numeralDigits
    split
    · rename_i x d rest
      rw [if_neg fun hx => hhex ⟨x, d, rest, hx, rfl⟩]
    · rfl

theorem literal_hexadecimal_iff {x d : Char} {rest : List Char} {value : ℕ}
    (hx : x = 'x' ∨ x = 'X') :
    Literal ('0' :: x :: d :: rest) value ↔
      ∃ values, (d :: rest).mapM hexValue = some values ∧
        Nat.ofDigits 16 values.reverse = value := by
  constructor
  · rintro (⟨-, hall⟩ | ⟨-, -, hvalues⟩)
    · have hdigit := hall x (by simp)
      rcases hx with rfl | rfl <;> cases hdigit
    · exact ⟨_, hvalues, rfl⟩
  · rintro ⟨values, hvalues, rfl⟩
    exact .hexadecimal hx (List.cons_ne_nil d rest) hvalues

theorem literal_decimal_iff {digits : List Char} {value : ℕ}
    (hplain : ∀ x d rest, digits = '0' :: x :: d :: rest →
      ¬ (x = 'x' ∨ x = 'X')) :
    Literal digits value ↔
      digits ≠ [] ∧ ∃ values, digits.mapM hexValue = some values ∧
        values.all (· < 10) = true ∧
        Nat.ofDigits 10 values.reverse = value := by
  constructor
  · rintro (⟨hne, hall⟩ | ⟨hx, hne, -⟩)
    · obtain ⟨hvalues, hsmall⟩ := mapM_decimal.mpr ⟨hall, rfl⟩
      exact ⟨hne, _, hvalues, hsmall, (ofDigitChars_decimal digits).symm⟩
    · obtain ⟨d, rest, rfl⟩ := List.exists_cons_of_ne_nil hne
      exact absurd hx (hplain _ d rest rfl)
  · rintro ⟨hne, values, hvalues, hsmall, rfl⟩
    obtain ⟨hall, rfl⟩ := mapM_decimal.mp ⟨hvalues, hsmall⟩
    rw [← ofDigitChars_decimal]
    exact .decimal hne hall

/-- The number of a text is the one that its literal writes. -/
theorem numeralValue_eq_some_iff {text : List Char} {value : ℕ} :
    numeralValue text = some value ↔ Literal (trim text) value := by
  rw [numeralValue]
  obtain ⟨x, d, rest, hx, htrim⟩ | ⟨hnumeral, hplain⟩ :=
    numeralDigits_cases (trim text)
  · rw [htrim, literal_hexadecimal_iff hx, numeralDigits_hex hx]
    dsimp only
    rw [if_neg (List.cons_ne_nil d rest)]
    cases hvalues : (d :: rest).mapM hexValue with
    | none => simp
    | some values =>
        have hall : values.all (· < 16) = true := by
          rw [List.all_eq_true]
          exact fun digit hdigit =>
            decide_eq_true (lt_of_mem_hexValues hvalues hdigit)
        simp only [hall, if_true, Option.some.injEq, exists_eq_left']
  · rw [literal_decimal_iff hplain, hnumeral]
    dsimp only
    by_cases hempty : trim text = []
    · rw [if_pos hempty]
      simp [hempty]
    · rw [if_neg hempty]
      cases (trim text).mapM hexValue with
      | none => simp
      | some values => simp [hempty]

/-! ## The digit loop -/

/-- The test in front of an update admits exactly the sums that fit. -/
theorem overflowTest_iff (basis accumulator : UInt64) {digit : UInt64}
    (hdigit : digit.toNat < 16) :
    accumulator > (0xFFFFFFFFFFFFFFFF - digit) / basis ↔
      accumulator.toNat >
        (2 ^ 64 - 1 - digit.toNat) / basis.toNat := by
  have hle : digit ≤ (0xFFFFFFFFFFFFFFFF : UInt64) := by
    rw [UInt64.le_iff_toNat_le]
    change digit.toNat ≤ 18446744073709551615
    omega
  rw [gt_iff_lt, UInt64.lt_iff_toNat_lt, UInt64.toNat_div,
    UInt64.toNat_sub_of_le _ _ hle]
  rfl

theorem WordUpdate.exact_of_lt {update : WordUpdate}
    (h : update.accumulator.toNat * update.basis.toNat +
      update.digit.toNat < 2 ^ 64) : update.Exact := by
  rw [WordUpdate.Exact, WordUpdate.value, UInt64.toNat_add, UInt64.toNat_mul,
    Nat.mod_eq_of_lt (a := _ * _) (by omega), Nat.mod_eq_of_lt h]

/-- On words the digit loop computes what it computes on numbers. -/
theorem digitRun_spec {basis : UInt64} (hbasis : basis = 10 ∨ basis = 16)
    (text : List Char) (accumulator : UInt64) :
    (digitRun basis accumulator text).result.map UInt64.toNat =
        accumulateDigits basis.toNat accumulator.toNat text ∧
      ∀ update ∈ (digitRun basis accumulator text).updates,
        update.Exact := by
  induction text generalizing accumulator with
  | nil => exact ⟨rfl, by simp [digitRun]⟩
  | cons c rest ih =>
      rw [digitRun, accumulateDigits]
      cases hvalue : hexValue c with
      | none => exact ⟨rfl, by simp⟩
      | some digit =>
          have hdigit := hexValue_lt hvalue
          have hword : (UInt64.ofNat digit).toNat = digit := by
            rw [UInt64.toNat_ofNat']
            exact Nat.mod_eq_of_lt (by omega)
          have hlimit : (if basis = 16 then 15 else 9) =
              if basis.toNat = 16 then 15 else 9 := by
            rcases hbasis with rfl | rfl <;> rfl
          have hover := overflowTest_iff basis accumulator
            (by rw [hword]; exact hdigit)
          rw [hword] at hover
          dsimp only
          rw [hlimit]
          by_cases hlarge : digit > if basis.toNat = 16 then 15 else 9
          · rw [if_pos hlarge, if_pos hlarge]
            exact ⟨rfl, by simp⟩
          · rw [if_neg hlarge, if_neg hlarge]
            by_cases htest : accumulator >
                (0xFFFFFFFFFFFFFFFF - UInt64.ofNat digit) / basis
            · rw [if_pos htest, if_pos (hover.mp htest)]
              exact ⟨rfl, by simp⟩
            · rw [if_neg htest, if_neg (fun h => htest (hover.mpr h))]
              let update : WordUpdate :=
                ⟨accumulator, basis, UInt64.ofNat digit⟩
              have hexact : update.Exact := by
                apply WordUpdate.exact_of_lt
                change accumulator.toNat * basis.toNat +
                  (UInt64.ofNat digit).toNat < 2 ^ 64
                rw [hword]
                have hle := Nat.le_of_not_gt fun h => htest (hover.mpr h)
                rcases hbasis with rfl | rfl
                · change _ ≤ (2 ^ 64 - 1 - digit) / 10 at hle
                  change _ * 10 + _ < _
                  omega
                · change _ ≤ (2 ^ 64 - 1 - digit) / 16 at hle
                  change _ * 16 + _ < _
                  omega
              obtain ⟨hresult, hupdates⟩ := ih update.value
              constructor
              · rw [hexact] at hresult
                rw [hresult, hword]
              · exact List.forall_mem_cons.mpr ⟨hexact, hupdates⟩

theorem hexadecimal_iff (text : List Char) :
    (text.length > 2 ∧ text[0]? = some '0' ∧
        (text[1]? = some 'x' ∨ text[1]? = some 'X')) ↔
      ∃ x d rest, (x = 'x' ∨ x = 'X') ∧ text = '0' :: x :: d :: rest := by
  constructor
  · rintro ⟨hlength, hzero, hx⟩
    match text, hlength, hzero, hx with
    | zero :: x :: d :: rest, _, hzero, hx =>
        rw [List.getElem?_cons_zero, Option.some.injEq] at hzero
        rw [List.getElem?_cons_succ, List.getElem?_cons_zero,
          Option.some.injEq, Option.some.injEq] at hx
        exact ⟨x, d, rest, hx, by rw [hzero]⟩
  · rintro ⟨x, d, rest, hx, rfl⟩
    refine ⟨by simp, rfl, ?_⟩
    simpa using hx

theorem unsignedRun_spec (text : List Char) :
    (unsignedRun text).result.map UInt64.toNat = parseUnsigned text ∧
      ∀ update ∈ (unsignedRun text).updates, update.Exact := by
  rw [parseUnsigned_digits, unsignedRun]
  dsimp only
  obtain ⟨x, d, rest, hx, htrim⟩ | ⟨hnumeral, hplain⟩ :=
    numeralDigits_cases (trim text)
  · have hhex := (hexadecimal_iff (trim text)).mpr ⟨x, d, rest, hx, htrim⟩
    rw [if_pos hhex, if_pos hhex, htrim, numeralDigits_hex hx,
      if_neg (List.cons_ne_nil _ _), if_neg (List.cons_ne_nil _ _),
      if_neg (by simp)]
    exact digitRun_spec (.inr rfl) (d :: rest) 0
  · have hhex := mt (hexadecimal_iff (trim text)).mp
      fun ⟨y, e, others, hy, htext⟩ => hplain y e others htext hy
    rw [if_neg hhex, if_neg hhex, hnumeral]
    by_cases hempty : trim text = []
    · rw [if_pos hempty, if_pos hempty]
      exact ⟨rfl, by simp⟩
    · have hlength := List.length_pos_iff.mpr hempty
      rw [if_neg hempty, if_neg hempty, if_neg (by omega), List.drop_zero]
      exact digitRun_spec (.inl rfl) (trim text) 0

/-! ## The three parsers -/

section

variable {text : List Char}

/-- `ParseUnsigned` stores exactly the values of literals. -/
theorem parseUnsignedTo_iff {out value : UInt64} :
    parseUnsignedTo text out = (true, value) ↔
      Literal (trim text) value.toNat := by
  have hvalue : parseUnsigned text = some value.toNat ↔
      Literal (trim text) value.toNat := by
    rw [parseUnsigned_eq, Option.filter_eq_some_iff, decide_eq_true_eq,
      and_iff_left value.toNat_lt, numeralValue_eq_some_iff]
  rw [← hvalue, ← (unsignedRun_spec text).1, parseUnsignedTo]
  cases (unsignedRun text).result with
  | none => simp
  | some accumulator => simp [UInt64.toNat_inj]

/-- Either the text is refused whatever the output variable holds, or it is a
literal that a word can hold. -/
theorem parseUnsignedTo_cases (text : List Char) :
    (∀ out, parseUnsignedTo text out = (false, out)) ∧
        (∀ number, Literal (trim text) number → 2 ^ 64 ≤ number) ∨
      ∃ word : UInt64, (∀ out, parseUnsignedTo text out = (true, word)) ∧
        ∀ number, Literal (trim text) number ↔ number = word.toNat := by
  cases hresult : (unsignedRun text).result with
  | none =>
      have hparsed : ∀ out, parseUnsignedTo text out = (false, out) :=
        fun out => by rw [parseUnsignedTo, hresult]
      refine .inl ⟨hparsed, fun number hliteral => ?_⟩
      by_contra hsmall
      have hword : (UInt64.ofNat number).toNat = number := by
        rw [UInt64.toNat_ofNat']
        exact Nat.mod_eq_of_lt (by omega)
      rw [← hword] at hliteral
      have hstored : parseUnsignedTo text 0 = (true, .ofNat number) :=
        parseUnsignedTo_iff.mpr hliteral
      rw [hparsed] at hstored
      cases hstored
  | some word =>
      have hparsed : ∀ out, parseUnsignedTo text out = (true, word) :=
        fun out => by rw [parseUnsignedTo, hresult]
      have hword := parseUnsignedTo_iff.mp (hparsed 0)
      refine .inr ⟨word, hparsed, fun number => ⟨fun hliteral => ?_, ?_⟩⟩
      · rw [← numeralValue_eq_some_iff] at hword hliteral
        exact Option.some.inj (hliteral.symm.trans hword)
      · rintro rfl
        exact hword

theorem parseUnsigned32To_iff {out value : UInt32} :
    parseUnsigned32To text out = (true, value) ↔
      Literal (trim text) value.toNat := by
  have hvalue := value.toNat_lt
  unfold parseUnsigned32To
  obtain ⟨hparsed, hlarge⟩ | ⟨word, hparsed, hliteral⟩ :=
    parseUnsignedTo_cases text
  · rw [hparsed]
    refine iff_of_false nofun fun h => ?_
    have := hlarge _ h
    omega
  · rw [hparsed, hliteral]
    by_cases hbound : word > 0xFFFFFFFF
    · rw [if_pos (by simpa using hbound)]
      refine iff_of_false nofun fun h => ?_
      have : 0xFFFFFFFF < word.toNat := UInt64.lt_iff_toNat_lt.mp hbound
      omega
    · have hsmall : ¬ 0xFFFFFFFF < word.toNat :=
        fun h => hbound (UInt64.lt_iff_toNat_lt.mpr h)
      rw [if_neg (by simpa using hbound), Prod.mk.injEq,
        and_iff_right rfl, ← UInt32.toNat_inj, UInt64.toNat_toUInt32,
        Nat.mod_eq_of_lt (a := word.toNat) (by omega), eq_comm]

theorem toInt_toInt32 (word : UInt32) :
    word.toInt32.toInt =
      if 2 * word.toNat < 2 ^ 32 then (word.toNat : ℤ)
      else word.toNat - 2 ^ 32 :=
  rfl

theorem toInt_positive (word : UInt64) (h : word.toNat < 2 ^ 31) :
    word.toUInt32.toInt32.toInt = word.toNat := by
  rw [toInt_toInt32, UInt64.toNat_toUInt32, Nat.mod_eq_of_lt (by omega),
    if_pos (by omega)]

/-- The wrap-around of the subtraction is the sign, also at the lowest
value. -/
theorem toInt_negative (word : UInt64) (h : word.toNat ≤ 2 ^ 31) :
    (0 - word.toUInt32).toInt32.toInt = -word.toNat := by
  rw [toInt_toInt32, UInt32.toNat_sub, UInt64.toNat_toUInt32,
    Nat.mod_eq_of_lt (a := word.toNat) (by omega), UInt32.toNat_zero,
    Nat.add_zero]
  split <;> omega

/-- Trimming keeps a first character that is not white space. -/
theorem trim_cons {c : Char} (hc : isSpace c = false) (body : List Char) :
    ∃ rest, trim (c :: body) = c :: rest := by
  refine ⟨(body.reverse.dropWhile isSpace).reverse, ?_⟩
  rw [trim, List.dropWhile_cons_of_neg (by simp [hc]), List.reverse_cons,
    List.dropWhile_append]
  cases hrest : body.reverse.dropWhile isSpace with
  | nil => simp [hc]
  | cons d rest => simp

theorem not_literal_minus (body : List Char) (number : ℕ) :
    ¬ Literal (trim ('-' :: body)) number := by
  obtain ⟨rest, hrest⟩ := trim_cons (c := '-') rfl body
  rw [hrest]
  rintro (⟨-, hall⟩ | _)
  have := hall '-' List.mem_cons_self
  cases this

theorem parseSigned32To_positive (hempty : text ≠ [])
    (hsign : text.head? ≠ some '-') {out value : Int32} :
    parseSigned32To text out = (true, value) ↔
      ∃ number, Literal (trim text) number ∧ value.toInt = number := by
  have hhigh := value.toInt_lt
  unfold parseSigned32To
  rw [if_neg hempty]
  simp only [if_neg hsign]
  obtain ⟨hparsed, hlarge⟩ | ⟨word, hparsed, hliteral⟩ :=
    parseUnsignedTo_cases text
  · rw [hparsed]
    refine iff_of_false nofun ?_
    rintro ⟨number, hnumber, hvalue⟩
    have := hlarge number hnumber
    omega
  · rw [hparsed]
    simp only [hliteral, exists_eq_left]
    by_cases hbound : word > 0x7FFFFFFF
    · rw [if_pos (by simpa using hbound)]
      refine iff_of_false nofun fun h => ?_
      have : 0x7FFFFFFF < word.toNat := UInt64.lt_iff_toNat_lt.mp hbound
      omega
    · have hsmall : ¬ 0x7FFFFFFF < word.toNat :=
        fun h => hbound (UInt64.lt_iff_toNat_lt.mpr h)
      rw [if_neg (by simpa using hbound), Prod.mk.injEq, and_iff_right rfl,
        ← Int32.toInt_inj, toInt_positive word (by omega), eq_comm]

theorem parseSigned32To_negative {body : List Char} {out value : Int32} :
    parseSigned32To ('-' :: body) out = (true, value) ↔
      ∃ number, Literal (trim body) number ∧ value.toInt = -number := by
  have hlow := value.le_toInt
  unfold parseSigned32To
  rw [if_neg (List.cons_ne_nil _ _)]
  simp only [List.head?_cons, if_true, List.drop_succ_cons, List.drop_zero]
  obtain ⟨hparsed, hlarge⟩ | ⟨word, hparsed, hliteral⟩ :=
    parseUnsignedTo_cases body
  · rw [hparsed]
    refine iff_of_false nofun ?_
    rintro ⟨number, hnumber, hvalue⟩
    have := hlarge number hnumber
    omega
  · rw [hparsed]
    simp only [hliteral, exists_eq_left]
    by_cases hbound : word > (1 : UInt64) <<< 31
    · rw [if_pos (by simpa using hbound)]
      refine iff_of_false nofun fun h => ?_
      have : 2 ^ 31 < word.toNat := UInt64.lt_iff_toNat_lt.mp hbound
      omega
    · have hsmall : ¬ 2 ^ 31 < word.toNat :=
        fun h => hbound (UInt64.lt_iff_toNat_lt.mpr h)
      rw [if_neg (by simpa using hbound), Prod.mk.injEq, and_iff_right rfl,
        ← Int32.toInt_inj, toInt_negative word (by omega), eq_comm]

/-- `ParseSigned32` stores exactly the values of literals and of literals
behind a minus sign. -/
theorem parseSigned32To_iff {out value : Int32} :
    parseSigned32To text out = (true, value) ↔
      (∃ number, Literal (trim text) number ∧ value.toInt = number) ∨
        ∃ body number, text = '-' :: body ∧ Literal (trim body) number ∧
          value.toInt = -number := by
  cases text with
  | nil =>
      refine iff_of_false nofun ?_
      rintro (⟨number, hliteral, -⟩ | ⟨body, number, hbody, -⟩)
      · rcases hliteral with ⟨hne, -⟩
        exact hne rfl
      · cases hbody
  | cons c body =>
      by_cases hsign : c = '-'
      · subst hsign
        rw [parseSigned32To_negative, or_iff_right
          fun ⟨number, h, _⟩ => not_literal_minus body number h]
        simp
      · rw [parseSigned32To_positive (List.cons_ne_nil _ _)
          (by simpa using hsign), or_iff_left]
        rintro ⟨other, number, htext, -⟩
        exact hsign (List.cons.inj htext).1

end

/-- The integer parsers are exact: what they store is the value of a literal,
for every literal whose value the type holds; the digit loop never overflows;
and a refused text leaves the output variable as it was. -/
theorem integerParsers_exact (text : List Char) :
    (∀ out value, parseUnsignedTo text out = (true, value) ↔
      Literal (trim text) value.toNat) ∧
    (∀ update ∈ (unsignedRun text).updates, update.Exact) ∧
    (∀ out value, parseUnsigned32To text out = (true, value) ↔
      Literal (trim text) value.toNat) ∧
    (∀ out value, parseSigned32To text out = (true, value) ↔
      (∃ number, Literal (trim text) number ∧ value.toInt = number) ∨
        ∃ body number, text = '-' :: body ∧ Literal (trim body) number ∧
          value.toInt = -number) ∧
    (∀ out, (parseUnsignedTo text out).1 = false →
      (parseUnsignedTo text out).2 = out) ∧
    (∀ out, (parseUnsigned32To text out).1 = false →
      (parseUnsigned32To text out).2 = out) ∧
    ∀ out, (parseSigned32To text out).1 = false →
      (parseSigned32To text out).2 = out := by
  refine ⟨fun _ _ => parseUnsignedTo_iff, (unsignedRun_spec text).2,
    fun _ _ => parseUnsigned32To_iff, fun _ _ => parseSigned32To_iff, ?_, ?_, ?_⟩
  · intro out
    unfold parseUnsignedTo
    split <;> simp
  · intro out
    unfold parseUnsigned32To
    dsimp only
    split <;> simp
  · intro out
    unfold parseSigned32To
    dsimp only
    split_ifs <;> simp

/-- What is read is the literal between the white space; a sign has to come
first, and white space may follow it. -/
theorem integerParsers_trims {text core : List Char} (h : Trims text core) :
    (∀ out value, parseUnsignedTo text out = (true, value) ↔
      Literal core value.toNat) ∧
    (∀ out value, parseUnsigned32To text out = (true, value) ↔
      Literal core value.toNat) ∧
    ∀ out value, parseSigned32To text out = (true, value) ↔
      (∃ number, Literal core number ∧ value.toInt = number) ∨
        ∃ body bare number, text = '-' :: body ∧ Trims body bare ∧
          Literal bare number ∧ value.toInt = -number := by
  have hcore : trim text = core := trims_iff.mp h
  refine ⟨?_, ?_, ?_⟩
  · intro out value
    rw [parseUnsignedTo_iff, hcore]
  · intro out value
    rw [parseUnsigned32To_iff, hcore]
  · intro out value
    rw [parseSigned32To_iff, hcore]
    apply or_congr Iff.rfl
    simp only [trims_iff]
    constructor
    · rintro ⟨body, number, htext, hliteral, hvalue⟩
      exact ⟨body, trim body, number, htext, rfl, hliteral, hvalue⟩
    · rintro ⟨body, bare, number, htext, rfl, hliteral, hvalue⟩
      exact ⟨body, number, htext, hliteral, hvalue⟩

/-! ## The parsers on numbers -/

theorem parseUnsigned_lt {text : List Char} {value : ℕ}
    (h : parseUnsigned text = some value) : value < 2 ^ 64 := by
  rw [parseUnsigned_eq, Option.filter_eq_some_iff, decide_eq_true_eq] at h
  exact h.2

theorem parseUnsignedTo_eq (text : List Char) (out : UInt64) :
    parseUnsignedTo text out =
      match parseUnsigned text with
      | none => (false, out)
      | some value => (true, .ofNat value) := by
  rw [← (unsignedRun_spec text).1, parseUnsignedTo]
  cases (unsignedRun text).result with
  | none => rfl
  | some accumulator => simp

theorem toNat_word {value : ℕ} (h : value < 2 ^ 64) :
    (UInt64.ofNat value).toNat = value := by
  rw [UInt64.toNat_ofNat']
  exact Nat.mod_eq_of_lt h

theorem word_gt_iff {value : ℕ} (h : value < 2 ^ 64) (limit : UInt64) :
    UInt64.ofNat value > limit ↔ value > limit.toNat := by
  rw [gt_iff_lt, UInt64.lt_iff_toNat_lt, toNat_word h]

theorem parseUnsigned32To_eq (text : String) (out : UInt32) :
    parseUnsigned32To text.toList out =
      match Model.parseUnsigned32 text with
      | none => (false, out)
      | some value => (true, .ofNat value) := by
  unfold parseUnsigned32To Model.parseUnsigned32
  rw [parseUnsignedTo_eq]
  cases hparsed : parseUnsigned text.toList with
  | none => rfl
  | some value =>
      have hbound := word_gt_iff (parseUnsigned_lt hparsed) 0xFFFFFFFF
      change _ ↔ value > 2 ^ 32 - 1 at hbound
      by_cases hlarge : value > 2 ^ 32 - 1
      · simp only [if_pos hlarge, hbound.mpr hlarge, decide_true, Bool.or_true]
        rfl
      · simp only [if_neg hlarge, mt hbound.mp hlarge, decide_false]
        simp

theorem parseSigned32_plain {text : String} {c : Char} {body : List Char}
    (htext : text.toList = c :: body) (hsign : c ≠ '-') :
    Model.parseSigned32 text =
      match parseUnsigned (c :: body) with
      | none => none
      | some value =>
          if value > 2 ^ 31 - 1 then none else some (value : ℤ) := by
  unfold Model.parseSigned32
  split
  · rename_i hempty
    rw [htext] at hempty
    cases hempty
  · rename_i hminus
    rw [htext] at hminus
    exact absurd (List.cons.inj hminus).1 hsign
  · exact htext ▸ rfl

theorem parseSigned32To_eq (text : String) (out : Int32) :
    parseSigned32To text.toList out =
      match Model.parseSigned32 text with
      | none => (false, out)
      | some value => (true, .ofInt value) := by
  cases htext : text.toList with
  | nil =>
      unfold Model.parseSigned32
      rw [htext]
      rfl
  | cons c body =>
      unfold parseSigned32To
      rw [if_neg (List.cons_ne_nil c body)]
      by_cases hsign : c = '-'
      · subst hsign
        unfold Model.parseSigned32
        rw [htext]
        simp only [List.head?_cons, if_true, List.drop_succ_cons,
          List.drop_zero, parseUnsignedTo_eq]
        cases hparsed : parseUnsigned body with
        | none => rfl
        | some value =>
            have hword := toNat_word (parseUnsigned_lt hparsed)
            have hbound := word_gt_iff (parseUnsigned_lt hparsed)
              ((1 : UInt64) <<< 31)
            change _ ↔ value > 2 ^ 31 at hbound
            by_cases hlarge : value > 2 ^ 31
            · simp only [if_pos hlarge, hbound.mpr hlarge, decide_true,
                Bool.or_true, if_true]
            · have hvalue := toInt_negative (.ofNat value)
                (by rw [hword]; omega)
              rw [hword] at hvalue
              simp only [if_neg hlarge, mt hbound.mp hlarge, decide_false]
              rw [← hvalue, Int32.ofInt_toInt]
              rfl
      · have hhead : (c :: body).head? ≠ some '-' := by simpa using hsign
        rw [parseSigned32_plain htext hsign]
        simp only [if_neg hhead, parseUnsignedTo_eq]
        cases hparsed : parseUnsigned (c :: body) with
        | none => rfl
        | some value =>
            have hword := toNat_word (parseUnsigned_lt hparsed)
            have hbound := word_gt_iff (parseUnsigned_lt hparsed) 0x7FFFFFFF
            change _ ↔ value > 2 ^ 31 - 1 at hbound
            by_cases hlarge : value > 2 ^ 31 - 1
            · simp only [if_pos hlarge, hbound.mpr hlarge, decide_true,
                Bool.or_true, if_true]
            · have hvalue := toInt_positive (.ofNat value)
                (by rw [hword]; omega)
              rw [hword] at hvalue
              simp only [if_neg hlarge, mt hbound.mp hlarge, decide_false]
              rw [← hvalue, Int32.ofInt_toInt]
              rfl

end Esptool.Text
