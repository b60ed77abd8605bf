import Esptool.Utf16Text

/-!
# The conversions on bytes

The rest of the development works on the characters of a text.  The source
works on its bytes, and asks the system to convert them: once for the length
of the result, and once more for the result.  What the system does with bytes
that are no UTF-8 is its own affair; it is only relied on for a replacement
that is some text.
-/

namespace Esptool.Text

/-- The UTF-8 bytes of a text. -/
def encodeUtf8 (text : List Char) : List UInt8 :=
  text.flatMap String.utf8EncodeChar

/-- The two calls on the code page `CP_UTF8`, without flags: from the units and
the room for the result, the count and what is written.  The size of the input
is passed as an `int`. -/
structure CodePage where
  wideCharToMultiByte : List UInt16 → ℤ → ℕ → ℤ × List UInt8
  multiByteToWideChar : List UInt8 → ℤ → ℕ → ℤ × List UInt16

/-- `static_cast<int>` of a size. -/
def intOfSize (size : ℕ) : ℤ := (size : ℤ).bmod (2 ^ 32)

/-- What a buffer holds after a write at its start. -/
def overwrite {Unit : Type} (buffer written : List Unit) : List Unit :=
  written.take buffer.length ++ buffer.drop written.length

/-- Ask for the length, make a buffer of zeros, and have it filled. -/
def convert {Unit : Type} (zero : Unit) (call : ℕ → ℤ × List Unit) :
    List Unit :=
  let required := (call 0).1
  if required ≤ 0 then []
  else
    overwrite (List.replicate required.toNat zero) (call required.toNat).2

namespace CodePage

variable (page : CodePage)

/-- `ToUtf8`. -/
def toUtf8 (value : List UInt16) : List UInt8 :=
  if value = [] then []
  else convert 0 (page.wideCharToMultiByte value (intOfSize value.length))

/-- `ToUtf16`. -/
def toUtf16 (value : List UInt8) : List UInt16 :=
  if value = [] then []
  else convert 0 (page.multiByteToWideChar value (intOfSize value.length))

end CodePage

/-! ## What is documented of the calls -/

/-- Without room a call counts; with enough room it writes the result. -/
structure Answers {Unit : Type} (call : ℕ → ℤ × List Unit)
    (result : List Unit) : Prop where
  counted : (call 0).1 = result.length
  written : result ≠ [] → (call result.length).2 = result

/-- The calls convert texts whose sizes are positive `int`s; a surrogate
without its other half becomes a replacement character, and so does a sequence
of bytes that is no UTF-8, in no more units than there are bytes. -/
structure CodePage.Documented (page : CodePage) : Prop where
  encodes : ∀ value : List UInt16, value ≠ [] → value.length < 2 ^ 31 →
    (encodeUtf8 (Text.toUtf8 value)).length < 2 ^ 31 →
    Answers (page.wideCharToMultiByte value value.length)
      (encodeUtf8 (Text.toUtf8 value))
  decodes : ∀ text : List Char, text ≠ [] →
    (encodeUtf8 text).length < 2 ^ 31 →
    Answers (page.multiByteToWideChar (encodeUtf8 text)
      (encodeUtf8 text).length) (Text.toUtf16 text)
  replaces : ∀ bytes : List UInt8, bytes.length < 2 ^ 31 →
    (∀ text, bytes ≠ encodeUtf8 text) →
    ∃ text, (Text.toUtf16 text).length ≤ bytes.length ∧
      Answers (page.multiByteToWideChar bytes bytes.length)
        (Text.toUtf16 text)

theorem intOfSize_of_lt {size : ℕ} (h : size < 2 ^ 31) :
    intOfSize size = size := by
  unfold intOfSize
  rw [Int.bmod_eq_of_le]
  · omega
  · omega

theorem overwrite_replicate {Unit : Type} (zero : Unit)
    (written : List Unit) :
    overwrite (List.replicate written.length zero) written = written := by
  have hfront : written.take (List.replicate written.length zero).length =
      written := by
    rw [List.length_replicate, List.take_length]
  have hrest : (List.replicate written.length zero).drop written.length =
      [] := by
    rw [List.drop_replicate, Nat.sub_self, List.replicate_zero]
  calc
    overwrite (List.replicate written.length zero) written =
        written ++ [] := by rw [overwrite, hfront, hrest]
    _ = written := List.append_nil written

theorem Answers.convert_eq {Unit : Type} {zero : Unit}
    {call : ℕ → ℤ × List Unit} {result : List Unit}
    (h : Answers call result) : convert zero call = result := by
  unfold convert
  dsimp only
  rw [h.counted, Int.toNat_natCast]
  by_cases hempty : result = []
  · subst hempty
    rfl
  · have hpositive : 0 < result.length := List.length_pos_iff.mpr hempty
    rw [if_neg (by omega), h.written hempty, overwrite_replicate]

/-! ## Lengths -/

theorem encodeUtf8_cons (c : Char) (text : List Char) :
    encodeUtf8 (c :: text) = String.utf8EncodeChar c ++ encodeUtf8 text :=
  List.flatMap_cons

theorem encodeUtf8_ne_nil {text : List Char} (h : text ≠ []) :
    encodeUtf8 text ≠ [] := by
  cases text with
  | nil => exact absurd rfl h
  | cons c text =>
      have hfirst : 0 < (String.utf8EncodeChar c).length := by
        rw [String.length_utf8EncodeChar]
        exact c.utf8Size_pos
      rw [encodeUtf8_cons]
      apply List.append_ne_nil_of_left_ne_nil
      exact List.length_pos_iff.mp hfirst

/-- A character below `0x10000` has one unit and at most three bytes, any
other one two units and four bytes. -/
theorem utf8Size_cases (c : Char) :
    (c.toNat < 0x10000 ∧ c.utf8Size ≤ 3) ∨
      (¬c.toNat < 0x10000 ∧ c.utf8Size = 4) := by
  by_cases hshort : c.toNat < 0x10000
  · refine .inl ⟨hshort, ?_⟩
    have hval : c.val ≤ 0xFFFF := by
      rw [UInt32.le_iff_toNat_le]
      exact Nat.le_of_lt_succ hshort
    unfold Char.utf8Size
    dsimp only
    split
    · decide
    split
    · decide
    · exact Nat.le_of_eq (if_pos hval)
  · refine .inr ⟨hshort, ?_⟩
    have hlong : ∀ bound : UInt32, bound.toNat ≤ 0xFFFF →
        ¬c.val ≤ bound := by
      intro bound hbound hle
      rw [UInt32.le_iff_toNat_le] at hle
      exact hshort (Nat.lt_succ_of_le (hle.trans hbound))
    unfold Char.utf8Size
    dsimp only
    rw [if_neg (hlong _ (by decide)), if_neg (hlong _ (by decide)),
      if_neg (hlong _ (by decide))]

theorem length_unitsOf_le (c : Char) :
    (unitsOf c).length ≤ (String.utf8EncodeChar c).length := by
  rw [String.length_utf8EncodeChar]
  rcases utf8Size_cases c with ⟨hshort, -⟩ | ⟨hlong, hsize⟩
  · rw [unitsOf_short hshort, List.length_singleton]
    exact c.utf8Size_pos
  · rw [unitsOf_long hlong, hsize]
    change 2 ≤ 4
    decide

theorem length_toUtf16_le (text : List Char) :
    (toUtf16 text).length ≤ (encodeUtf8 text).length := by
  induction text with
  | nil => exact Nat.le_refl 0
  | cons c text ih =>
      rw [toUtf16_cons, encodeUtf8_cons, List.length_append,
        List.length_append]
      exact Nat.add_le_add (length_unitsOf_le c) ih

/-- A unit becomes three bytes at most. -/
theorem length_encodeUtf8_decodeUtf16 (value : List UInt16)
    (pending : Option UInt16) :
    (encodeUtf8 (decodeUtf16 pending value)).length ≤
      3 * (pending.toList.length + value.length) := by
  have hshort : ∀ unit : UInt16,
      (String.utf8EncodeChar (Char.ofNat unit.toNat)).length ≤ 3 := by
    intro unit
    rw [String.length_utf8EncodeChar]
    rcases utf8Size_cases (Char.ofNat unit.toNat) with
      ⟨-, hsize⟩ | ⟨hlong, -⟩
    · exact hsize
    · exfalso
      apply hlong
      have hbound : unit.toNat < 0x10000 := unit.toNat_lt
      by_cases hvalid : unit.toNat.isValidChar
      · rw [Char.ofNat, dif_pos hvalid]
        exact hbound
      · rw [Char.ofNat, dif_neg hvalid]
        decide
  have hany : ∀ c : Char, (String.utf8EncodeChar c).length ≤ 4 := by
    intro c
    rw [String.length_utf8EncodeChar]
    exact c.utf8Size_le_four
  have hreplacement :
      (String.utf8EncodeChar kReplacement).length = 3 := by
    decide
  induction value generalizing pending with
  | nil =>
      cases pending with
      | none => exact Nat.le_refl 0
      | some high =>
          rw [decodeUtf16, encodeUtf8_cons, List.length_append, hreplacement]
          exact Nat.le_refl 3
  | cons unit rest ih =>
      have hnone := ih none
      have hsome := ih (some unit)
      have hunit := hshort unit
      cases pending with
      | none =>
          rw [decodeUtf16]
          simp only [Option.toList_none, Option.toList_some, List.length_nil,
            List.length_cons] at hnone hsome ⊢
          split
          · omega
          split
          · rw [encodeUtf8_cons, List.length_append, hreplacement]
            omega
          · rw [encodeUtf8_cons, List.length_append]
            omega
      | some high =>
          rw [decodeUtf16]
          simp only [Option.toList_none, Option.toList_some, List.length_nil,
            List.length_cons] at hnone hsome ⊢
          split
          · have hpair := hany (Char.ofNat (0x10000 +
              (high.toNat - 0xD800) * 0x400 + (unit.toNat - 0xDC00)))
            rw [encodeUtf8_cons, List.length_append]
            omega
          split
          · rw [encodeUtf8_cons, List.length_append, hreplacement]
            omega
          · rw [encodeUtf8_cons, encodeUtf8_cons, List.length_append,
              List.length_append, hreplacement]
            omega

theorem length_encodeUtf8_toUtf8 (value : List UInt16) :
    (encodeUtf8 (toUtf8 value)).length ≤ 3 * value.length := by
  have hbound := length_encodeUtf8_decodeUtf16 value none
  rwa [Option.toList_none, List.length_nil, Nat.zero_add] at hbound

/-! ## The conversions -/

namespace CodePage.Documented

variable {page : CodePage}

/-- `ToUtf8` on bytes is `ToUtf8` on characters. -/
theorem toUtf8_eq (h : page.Documented) {value : List UInt16}
    (hlength : (encodeUtf8 (Text.toUtf8 value)).length < 2 ^ 31)
    (hunits : value.length < 2 ^ 31) :
    page.toUtf8 value = encodeUtf8 (Text.toUtf8 value) := by
  unfold CodePage.toUtf8
  by_cases hempty : value = []
  · subst hempty
    rfl
  · rw [if_neg hempty, intOfSize_of_lt hunits]
    exact (h.encodes value hempty hunits hlength).convert_eq

theorem toUtf16_eq (h : page.Documented) {text : List Char}
    (hlength : (encodeUtf8 text).length < 2 ^ 31) :
    page.toUtf16 (encodeUtf8 text) = Text.toUtf16 text := by
  unfold CodePage.toUtf16
  by_cases hempty : text = []
  · subst hempty
    rfl
  · rw [if_neg (encodeUtf8_ne_nil hempty), intOfSize_of_lt hlength]
    exact (h.decodes text hempty hlength).convert_eq

/-- Whatever the bytes are, they are converted to the units of some text. -/
theorem toUtf16_text (h : page.Documented) {bytes : List UInt8}
    (hlength : bytes.length < 2 ^ 31) :
    ∃ text, (Text.toUtf16 text).length ≤ bytes.length ∧
      page.toUtf16 bytes = Text.toUtf16 text := by
  by_cases hwell : ∃ text, bytes = encodeUtf8 text
  · obtain ⟨text, rfl⟩ := hwell
    exact ⟨text, length_toUtf16_le text, h.toUtf16_eq hlength⟩
  · rw [not_exists] at hwell
    obtain ⟨text, hbound, hanswers⟩ := h.replaces bytes hlength hwell
    refine ⟨text, hbound, ?_⟩
    have hsome : bytes ≠ [] := by
      intro hempty
      exact hwell [] hempty
    unfold CodePage.toUtf16
    rw [if_neg hsome, intOfSize_of_lt hlength]
    exact hanswers.convert_eq

theorem toUtf8_toUtf16_text (h : page.Documented) {text : List Char}
    (hlength : (encodeUtf8 text).length < 2 ^ 31) :
    page.toUtf8 (Text.toUtf16 text) = encodeUtf8 text := by
  have hback : Text.toUtf8 (Text.toUtf16 text) = text :=
    toUtf8_toUtf16 text
  have hunits : (Text.toUtf16 text).length < 2 ^ 31 :=
    Nat.lt_of_le_of_lt (length_toUtf16_le text) hlength
  calc
    page.toUtf8 (Text.toUtf16 text) =
        encodeUtf8 (Text.toUtf8 (Text.toUtf16 text)) :=
      h.toUtf8_eq (by rwa [hback]) hunits
    _ = encodeUtf8 text := by rw [hback]

end CodePage.Documented

/-- Well-formed UTF-8 comes back from UTF-16 as it was, and nothing else does;
UTF-16 comes back from UTF-8 as it was exactly when every surrogate has its
other half. -/
theorem conversions_lossless {page : CodePage} (h : page.Documented) :
    (∀ text, (encodeUtf8 text).length < 2 ^ 31 →
      page.toUtf8 (page.toUtf16 (encodeUtf8 text)) = encodeUtf8 text) ∧
    (∀ bytes : List UInt8, 3 * bytes.length < 2 ^ 31 →
      (page.toUtf8 (page.toUtf16 bytes) = bytes ↔
        ∃ text, bytes = encodeUtf8 text)) ∧
    ∀ value : List UInt16, 3 * value.length < 2 ^ 31 →
      (page.toUtf16 (page.toUtf8 value) = value ↔
        hasLoneSurrogate none value = false) := by
  have hwell : ∀ text, (encodeUtf8 text).length < 2 ^ 31 →
      page.toUtf8 (page.toUtf16 (encodeUtf8 text)) = encodeUtf8 text := by
    intro text hlength
    rw [h.toUtf16_eq hlength, h.toUtf8_toUtf16_text hlength]
  refine ⟨hwell, ?_, ?_⟩
  · intro bytes hbound
    constructor
    · intro hback
      have hbytes : bytes.length < 2 ^ 31 := by omega
      obtain ⟨text, hunits, hconverted⟩ := h.toUtf16_text hbytes
      have hsame : Text.toUtf8 (Text.toUtf16 text) = text :=
        toUtf8_toUtf16 text
      have hlength := length_encodeUtf8_toUtf8 (Text.toUtf16 text)
      rw [hsame] at hlength
      refine ⟨text, ?_⟩
      calc
        bytes = page.toUtf8 (page.toUtf16 bytes) := hback.symm
        _ = page.toUtf8 (Text.toUtf16 text) := by rw [hconverted]
        _ = encodeUtf8 text := h.toUtf8_toUtf16_text (by omega)
    · rintro ⟨text, rfl⟩
      exact hwell text (by omega)
  · intro value hbound
    have hlength := length_encodeUtf8_toUtf8 value
    rw [h.toUtf8_eq (by omega) (by omega), h.toUtf16_eq (by omega)]
    exact toUtf16_toUtf8_iff value

/-- A call that counts without room and fails without enough room. -/
def answerWith {Unit : Type} (result : List Unit) (room : ℕ) :
    ℤ × List Unit :=
  if room = 0 then (result.length, [])
  else if room < result.length then (0, [])
  else (result.length, result)

theorem answers_answerWith {Unit : Type} (result : List Unit) :
    Answers (answerWith result) result := by
  constructor
  · rfl
  · intro hsome
    have hpositive : result.length ≠ 0 :=
      Nat.ne_of_gt (List.length_pos_iff.mpr hsome)
    unfold answerWith
    rw [if_neg hpositive, if_neg (Nat.lt_irrefl _)]

/-- The text of the bytes, or one replacement for all of them. -/
def decodeUtf8 (bytes : List UInt8) : List Char :=
  match bytes.toByteArray.utf8Decode? with
  | some text => text.toList
  | none => [kReplacement]

def replacingPage : CodePage where
  wideCharToMultiByte value size :=
    answerWith (encodeUtf8 (Text.toUtf8 (value.take size.toNat)))
  multiByteToWideChar bytes size :=
    answerWith (Text.toUtf16 (decodeUtf8 (bytes.take size.toNat)))

theorem decodeUtf8_encodeUtf8 (text : List Char) :
    decodeUtf8 (encodeUtf8 text) = text := by
  have hdecoded : (encodeUtf8 text).toByteArray.utf8Decode? =
      some text.toArray :=
    List.utf8Decode?_utf8Encode
  unfold decodeUtf8
  rw [hdecoded]

theorem decodeUtf8_of_ill {bytes : List UInt8}
    (h : ∀ text, bytes ≠ encodeUtf8 text) :
    decodeUtf8 bytes = [kReplacement] := by
  unfold decodeUtf8
  cases hdecoded : bytes.toByteArray.utf8Decode? with
  | none => rfl
  | some text =>
      exfalso
      apply h text.toList
      have hsome : bytes.toByteArray.utf8Decode?.isSome = true := by
        rw [hdecoded]
        rfl
      have hencoded := ByteArray.utf8Encode_get_utf8Decode? (h := hsome)
      simp only [hdecoded, Option.get_some] at hencoded
      have hdata := congrArg (fun array => array.data.toList) hencoded
      simpa [List.utf8Encode, encodeUtf8] using hdata.symm

theorem replacingPage_documented : replacingPage.Documented := by
  constructor
  · intro value _ _ _
    have hwhole : value.take (value.length : ℤ).toNat = value := by
      rw [Int.toNat_natCast, List.take_length]
    unfold replacingPage
    dsimp only
    rw [hwhole]
    exact answers_answerWith _
  · intro text _ _
    have hwhole : (encodeUtf8 text).take
        ((encodeUtf8 text).length : ℤ).toNat = encodeUtf8 text := by
      rw [Int.toNat_natCast, List.take_length]
    unfold replacingPage
    dsimp only
    rw [hwhole, decodeUtf8_encodeUtf8]
    exact answers_answerWith _
  · intro bytes _ hill
    have hwhole : bytes.take (bytes.length : ℤ).toNat = bytes := by
      rw [Int.toNat_natCast, List.take_length]
    refine ⟨[kReplacement], ?_, ?_⟩
    · have hsome : bytes ≠ [] := by
        intro hempty
        exact hill [] hempty
      have hpositive : 0 < bytes.length := List.length_pos_iff.mpr hsome
      exact hpositive
    · unfold replacingPage
      dsimp only
      rw [hwhole, decodeUtf8_of_ill hill]
      exact answers_answerWith _

/-- The byte `0xFF` is in no text, and a high surrogate alone in none
either. -/
theorem conversions_lossless_replacing :
    (replacingPage.toUtf8 (replacingPage.toUtf16
        (encodeUtf8 ['\u00E9', Char.ofNat 0x1F600])) =
      encodeUtf8 ['\u00E9', Char.ofNat 0x1F600]) ∧
    (replacingPage.toUtf8 (replacingPage.toUtf16 [0xFF]) = [0xFF] ↔
      ∃ text, [0xFF] = encodeUtf8 text) ∧
    (replacingPage.toUtf16 (replacingPage.toUtf8 [0xD83D]) = [0xD83D] ↔
      hasLoneSurrogate none [0xD83D] = false) := by
  have hlossless := conversions_lossless replacingPage_documented
  exact ⟨hlossless.1 _ (by decide), hlossless.2.1 _ (by decide),
    hlossless.2.2 _ (by decide)⟩

end Esptool.Text
