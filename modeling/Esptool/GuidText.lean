import Esptool.HexDigits
import Esptool.Trimming

/-!
# GUID texts

`ParseGuid` accepts many spellings of the sixteen octets, `FormatGuid` prints
one.  What a spelling denotes is the run of its digits; from there both
directions are the decoding of digit pairs.
-/

namespace Esptool.Text

/-- `%02x` -/
def octetText (octet : UInt8) : List Char :=
  [(octet.toNat / 16).digitChar, (octet.toNat % 16).digitChar]

/-- The octets from `first` on, two digits for each. -/
def octetGroup (bytes : Vector UInt8 16) (first count : ℕ) : List Char :=
  ((bytes.toList.drop first).take count).flatMap octetText

def formatGuid (bytes : Vector UInt8 16) : List Char :=
  ['\x7b'] ++ octetGroup bytes 0 4 ++ ['-'] ++ octetGroup bytes 4 2 ++ ['-'] ++
    octetGroup bytes 6 2 ++ ['-'] ++ octetGroup bytes 8 2 ++ ['-'] ++
    octetGroup bytes 10 6 ++ ['\x7d']

/-- `ParseGuid` with its output octets. -/
def parseGuidTo (value : List Char) (out : Vector UInt8 16) :
    Bool × Vector UInt8 16 :=
  match parseGuid value with
  | none => (false, out)
  | some bytes => (true, bytes)

/-! ## Spellings -/

/-- The text, trimmed, denotes the digits: inside a pair of outer braces where it
has one, with hyphens anywhere. -/
inductive Denotes (text : List Char) : List Char → Prop
  | braced {body : List Char}
      (htrim : trim text = '\x7b' :: (body ++ ['\x7d'])) :
      Denotes text (body.filter (· != '-'))
  | bare (htrim : ∀ body, trim text ≠ '\x7b' :: (body ++ ['\x7d'])) :
      Denotes text ((trim text).filter (· != '-'))

/-- The text spells a GUID: what it denotes are 32 hexadecimal digits. -/
structure SpellsGuid (text digits : List Char) : Prop where
  denotes : Denotes text digits
  length : digits.length = 32
  hexadecimal : ∀ c ∈ digits, (hexValue c).isSome = true

/-- The form that is printed: braces, and hyphens after the digits 8, 12, 16
and 20. -/
def canonicalGuid (digits : List Char) : List Char :=
  ['\x7b'] ++ digits.take 8 ++ ['-'] ++ (digits.drop 8).take 4 ++ ['-'] ++
    (digits.drop 12).take 4 ++ ['-'] ++ (digits.drop 16).take 4 ++ ['-'] ++
    (digits.drop 20).take 12 ++ ['\x7d']

/-- What `ParseGuid` keeps of a text. -/
def guidDigits (text : List Char) : List Char :=
  let trimmed := trim text
  let body :=
    if 2 ≤ trimmed.length ∧ trimmed.head? = some '\x7b' ∧
        trimmed.getLast? = some '\x7d' then
      (trimmed.drop 1).dropLast
    else trimmed
  body.filter fun character => character != '-'

theorem braces_iff {trimmed : List Char} :
    (2 ≤ trimmed.length ∧ trimmed.head? = some '\x7b' ∧
        trimmed.getLast? = some '\x7d') ↔
      ∃ body, trimmed = '\x7b' :: (body ++ ['\x7d']) := by
  constructor
  · rintro ⟨hlength, hfirst, hlast⟩
    obtain ⟨rest, rfl⟩ := List.head?_eq_some_iff.mp hfirst
    cases rest using List.reverseRecOn with
    | nil => simp at hlength
    | append_singleton body last =>
        rw [← List.cons_append, List.getLast?_append] at hlast
        simp at hlast
        exact ⟨body, by rw [hlast]⟩
  · rintro ⟨body, rfl⟩
    refine ⟨by simp, rfl, ?_⟩
    rw [← List.cons_append, List.getLast?_append]
    rfl

theorem denotes_iff {text digits : List Char} :
    Denotes text digits ↔ guidDigits text = digits := by
  unfold guidDigits
  dsimp only
  constructor
  · rintro (htrim | htrim)
    · rw [if_pos (braces_iff.mpr ⟨_, htrim⟩), htrim]
      simp
    · rw [if_neg fun h => (braces_iff.mp h).elim htrim]
  · rintro rfl
    by_cases hbraces : ∃ body, trim text = '\x7b' :: (body ++ ['\x7d'])
    · rw [if_pos (braces_iff.mpr hbraces)]
      obtain ⟨body, hbody⟩ := hbraces
      have hdigits := Denotes.braced hbody
      rw [hbody]
      simpa using hdigits
    · rw [if_neg fun h => hbraces (braces_iff.mp h)]
      exact .bare fun body h => hbraces ⟨body, h⟩

/-! ## Octets and digits -/

theorem octet_digits (octet : UInt8) :
    octet.toNat / 16 < 16 ∧ octet.toNat % 16 < 16 := by
  have := octet.toNat_lt
  omega

theorem decodes_octets (bytes : List UInt8) :
    Decodes (bytes.flatMap octetText) bytes := by
  induction bytes with
  | nil => exact decodes_nil
  | cons octet rest ih =>
      obtain ⟨hhigh, hlow⟩ := octet_digits octet
      rw [List.flatMap_cons, octetText, List.cons_append, List.cons_append,
        List.nil_append, decodes_cons_iff]
      exact ⟨⟨_, _, hexValue_digitChar hhigh, hexValue_digitChar hlow,
        by omega⟩, ih⟩

/-- Printed again, decoded digits are the same in lower case. -/
theorem octets_of_decodes {hex : List Char} {bytes : List UInt8}
    (h : Decodes hex bytes) :
    bytes.flatMap octetText = hex.map foldAscii := by
  induction bytes generalizing hex with
  | nil =>
      have hnil : hex = [] := List.length_eq_zero_iff.mp h.length_eq
      rw [hnil]
      rfl
  | cons octet rest ih =>
      have hlength := h.length_eq
      match hex, hlength with
      | high :: low :: hex, _ =>
          obtain ⟨⟨first, second, hfirst, hsecond, hoctet⟩, hrest⟩ :=
            decodes_cons_iff.mp h
          have hfirstLt := hexValue_lt hfirst
          have hsecondLt := hexValue_lt hsecond
          have hhigh : octet.toNat / 16 = first := by omega
          have hlow : octet.toNat % 16 = second := by omega
          rw [List.flatMap_cons, ih hrest, octetText, hhigh, hlow,
            digitChar_of_hexValue hfirst, digitChar_of_hexValue hsecond]
          rfl

theorem octets_injective {bytes others : List UInt8}
    (h : bytes.flatMap octetText = others.flatMap octetText) :
    bytes = others := by
  induction bytes generalizing others with
  | nil =>
      cases others with
      | nil => rfl
      | cons other others => cases h
  | cons byte bytes ih =>
      cases others with
      | nil => cases h
      | cons other others =>
          simp only [List.flatMap_cons, octetText, List.cons_append,
            List.nil_append, List.cons.injEq] at h
          obtain ⟨hhigh, hlow, hrest⟩ := h
          obtain ⟨hbyteHigh, hbyteLow⟩ := octet_digits byte
          obtain ⟨hotherHigh, hotherLow⟩ := octet_digits other
          have hdiv := hexValue_digitChar hbyteHigh
          rw [hhigh, hexValue_digitChar hotherHigh, Option.some.injEq] at hdiv
          have hmod := hexValue_digitChar hbyteLow
          rw [hlow, hexValue_digitChar hotherLow, Option.some.injEq] at hmod
          have hbyte : byte = other := by
            rw [← UInt8.toNat_inj]
            omega
          rw [hbyte, ih hrest]

/-- Digits that differ in case only write the same bytes. -/
theorem Decodes.unique {first second : List Char} {bytes others : List UInt8}
    (hfirst : Decodes first bytes) (hsecond : Decodes second others)
    (hsame : first.map foldAscii = second.map foldAscii) : bytes = others := by
  apply octets_injective
  calc
    _ = first.map foldAscii := octets_of_decodes hfirst
    _ = second.map foldAscii := hsame
    _ = _ := (octets_of_decodes hsecond).symm

theorem getD_lt {values : List ℕ} (h : ∀ value ∈ values, value < 16) (i : ℕ) :
    values.getD i 0 < 16 := by
  rw [List.getD_eq_getElem?_getD]
  cases hvalue : values[i]? with
  | none => decide
  | some value => exact h value (List.mem_of_getElem? hvalue)

theorem parseGuid_iff {text : List Char} {bytes : Vector UInt8 16} :
    parseGuid text = some bytes ↔
      (guidDigits text).length = 32 ∧
        Decodes (guidDigits text) bytes.toList := by
  unfold parseGuid
  dsimp only
  rw [← guidDigits]
  cases hdigits : (guidDigits text).mapM hexValue with
  | none =>
      refine iff_of_false nofun ?_
      rintro ⟨-, digits, hsome, -⟩
      rw [hdigits] at hsome
      cases hsome
  | some digits =>
      have hlength := (mapM_eq_some_iff.mp hdigits).length_eq
      dsimp only
      rw [hlength, show kGuidOctets * 2 = 32 from rfl]
      by_cases hcount : digits.length = 32
      · rw [if_neg (not_not.mpr hcount), and_iff_right hcount,
          Option.some.injEq]
        have hsmall := getD_lt fun value => lt_of_mem_hexValues hdigits
        have hdecodes : Decodes (guidDigits text)
            (Vector.ofFn fun index : Fin 16 =>
              UInt8.ofNat (16 * digits.getD (index * 2) 0 +
                digits.getD (index * 2 + 1) 0)).toList := by
          refine ⟨digits, hdigits, by simp [hcount], fun i hi => ?_⟩
          have hbound : i < 16 := by simpa using hi
          have hfirst := hsmall (2 * i)
          have hsecond := hsmall (2 * i + 1)
          rw [List.getD_eq_getElem?_getD, Vector.toList_ofFn,
            List.getElem?_ofFn, dif_pos hbound, Option.getD_some,
            UInt8.toNat_ofNat', Nat.mul_comm i 2]
          exact Nat.mod_eq_of_lt (by omega)
        constructor
        · rintro rfl
          exact hdecodes
        · intro hbytes
          exact Vector.toList_inj.mp (hdecodes.unique hbytes rfl)
      · rw [if_pos hcount]
        simp [hcount]

theorem isSome_parseGuid_iff {text : List Char} :
    (parseGuid text).isSome = true ↔ ∃ digits, SpellsGuid text digits := by
  constructor
  · intro hsome
    obtain ⟨bytes, hbytes⟩ := Option.isSome_iff_exists.mp hsome
    obtain ⟨hlength, digits, hdigits, -⟩ := parseGuid_iff.mp hbytes
    refine ⟨_, denotes_iff.mpr rfl, hlength, fun c hc => ?_⟩
    exact Option.isSome_iff_exists.mpr (exists_value_of_mem hdigits hc)
  · rintro ⟨digits, hdenotes, hlength, hhexadecimal⟩
    obtain ⟨values, hvalues⟩ := exists_mapM hhexadecimal
    have hcount : values.length = kGuidOctets * 2 :=
      (mapM_eq_some_iff.mp hvalues).length_eq.symm.trans hlength
    unfold parseGuid
    dsimp only
    rw [← guidDigits, denotes_iff.mp hdenotes, hvalues]
    dsimp only
    rw [if_neg (not_not.mpr hcount)]
    rfl

/-- Two accepted texts of the same digits are parsed alike. -/
theorem SpellsGuid.parseGuid_eq {first second digits others : List Char}
    (hfirst : SpellsGuid first digits) (hsecond : SpellsGuid second others)
    (hsame : digits.map foldAscii = others.map foldAscii) :
    parseGuid first = parseGuid second := by
  obtain ⟨bytes, hbytes⟩ := Option.isSome_iff_exists.mp
    (isSome_parseGuid_iff.mpr ⟨digits, hfirst⟩)
  obtain ⟨octets, hoctets⟩ := Option.isSome_iff_exists.mp
    (isSome_parseGuid_iff.mpr ⟨others, hsecond⟩)
  have hdecodes := (parseGuid_iff.mp hbytes).2
  have hothers := (parseGuid_iff.mp hoctets).2
  rw [denotes_iff.mp hfirst.denotes] at hdecodes
  rw [denotes_iff.mp hsecond.denotes] at hothers
  rw [hbytes, hoctets,
    Vector.toList_inj.mp (hdecodes.unique hothers hsame)]

/-! ## The printed form -/

theorem flatMap_octets_take (bytes : List UInt8) (count : ℕ) :
    (bytes.take count).flatMap octetText =
      (bytes.flatMap octetText).take (2 * count) := by
  induction bytes generalizing count with
  | nil => simp
  | cons byte rest ih =>
      cases count with
      | zero => rfl
      | succ count =>
          rw [List.take_succ_cons, List.flatMap_cons, ih, List.flatMap_cons,
            octetText, Nat.mul_succ]
          rfl

theorem flatMap_octets_drop (bytes : List UInt8) (count : ℕ) :
    (bytes.drop count).flatMap octetText =
      (bytes.flatMap octetText).drop (2 * count) := by
  induction bytes generalizing count with
  | nil => simp
  | cons byte rest ih =>
      cases count with
      | zero => rfl
      | succ count =>
          rw [List.drop_succ_cons, ih, List.flatMap_cons, octetText,
            Nat.mul_succ]
          rfl

theorem formatGuid_eq (bytes : Vector UInt8 16) :
    formatGuid bytes = canonicalGuid (bytes.toList.flatMap octetText) := by
  simp only [formatGuid, canonicalGuid, octetGroup, flatMap_octets_take,
    flatMap_octets_drop]
  rfl

theorem take_append_drop_add {α : Type} (items : List α) (first count : ℕ) :
    (items.drop first).take count ++ items.drop (first + count) =
      items.drop first := by
  rw [← List.drop_drop, List.take_append_drop]

/-- White space at neither end. -/
theorem trim_enclosed {first last : Char} (hfirst : isSpace first = false)
    (hlast : isSpace last = false) (body : List Char) :
    trim (first :: (body ++ [last])) = first :: (body ++ [last]) := by
  apply trims_iff.mp
  refine ⟨⟨[], [], by simp, nofun, nofun⟩, ?_, ?_⟩
  · intro c hc
    rw [List.head?_cons, Option.mem_some_iff] at hc
    rwa [← hc]
  · intro c hc
    rw [← List.cons_append, List.getLast?_concat, Option.mem_some_iff] at hc
    rwa [← hc]

theorem denotes_canonical {digits : List Char} (hlength : digits.length = 32)
    (hplain : ∀ c ∈ digits, c ≠ '-') :
    Denotes (canonicalGuid digits) digits := by
  let body := digits.take 8 ++ ['-'] ++ (digits.drop 8).take 4 ++ ['-'] ++
    (digits.drop 12).take 4 ++ ['-'] ++ (digits.drop 16).take 4 ++ ['-'] ++
    (digits.drop 20).take 12
  have hbraces : canonicalGuid digits = '\x7b' :: (body ++ ['\x7d']) := by
    simp [canonicalGuid, body]
  have hpiece : ∀ first count,
      ((digits.drop first).take count).filter (· != '-') =
        (digits.drop first).take count := by
    intro first count
    rw [List.filter_eq_self]
    intro c hc
    simpa using hplain c (List.mem_of_mem_drop (List.mem_of_mem_take hc))
  have hbody : body.filter (· != '-') = digits := by
    have hhyphen : ['-'].filter (· != '-') = [] := rfl
    have hlast : (digits.drop 20).take 12 = digits.drop 20 :=
      List.take_of_length_le (by simp [hlength])
    have hfirst := hpiece 0 8
    rw [List.drop_zero] at hfirst
    simp only [body, List.filter_append, hpiece, hfirst, hhyphen,
      List.append_nil]
    rw [hlast, List.append_assoc, take_append_drop_add digits 16 4,
      List.append_assoc, take_append_drop_add digits 12 4, List.append_assoc,
      take_append_drop_add digits 8 4, List.take_append_drop]
  rw [← hbody]
  exact .braced (by rw [hbody, hbraces, trim_enclosed rfl rfl])

theorem parseGuid_formatGuid (bytes : Vector UInt8 16) :
    parseGuid (formatGuid bytes) = some bytes := by
  have hdecodes := decodes_octets bytes.toList
  have hlength : (bytes.toList.flatMap octetText).length = 32 := by
    rw [hdecodes.length_eq, Vector.length_toList]
  have hplain : ∀ c ∈ bytes.toList.flatMap octetText, c ≠ '-' := by
    rintro c hc rfl
    obtain ⟨digits, hdigits, -⟩ := hdecodes
    obtain ⟨digit, hdigit⟩ := exists_value_of_mem hdigits hc
    cases hdigit
  have hdenotes := denotes_iff.mp (denotes_canonical hlength hplain)
  rw [← formatGuid_eq] at hdenotes
  rw [parseGuid_iff, hdenotes]
  exact ⟨hlength, hdecodes⟩

/-- White space around a text spells nothing. -/
theorem spellsGuid_trims {text core digits : List Char}
    (h : Trims text core) : SpellsGuid text digits ↔ SpellsGuid core digits := by
  have hcore : trim text = core := trims_iff.mp h
  have hagain : trim core = core :=
    trims_iff.mp ⟨⟨[], [], by simp, nofun, nofun⟩, h.first, h.last⟩
  have hsame : Denotes text digits ↔ Denotes core digits := by
    rw [denotes_iff, denotes_iff, guidDigits, guidDigits, hcore, hagain]
  constructor
  · rintro ⟨hdenotes, hlength, hhexadecimal⟩
    exact ⟨hsame.mp hdenotes, hlength, hhexadecimal⟩
  · rintro ⟨hdenotes, hlength, hhexadecimal⟩
    exact ⟨hsame.mpr hdenotes, hlength, hhexadecimal⟩

/-- The texts of a GUID: what is printed is read back; a text is accepted when
it spells a GUID, the bytes are those of its digits whatever the spelling, and
they print as its digits in lower case between braces; a refused text leaves
the octets as they were. -/
theorem guidText_exact :
    (∀ bytes, parseGuid (formatGuid bytes) = some bytes) ∧
    (∀ text out, (parseGuidTo text out).1 = true ↔
      ∃ digits, SpellsGuid text digits) ∧
    (∀ first second digits others, SpellsGuid first digits →
      SpellsGuid second others →
      digits.map foldAscii = others.map foldAscii →
      parseGuid first = parseGuid second) ∧
    (∀ text digits bytes, SpellsGuid text digits →
      parseGuid text = some bytes →
      Decodes digits bytes.toList ∧
        formatGuid bytes = canonicalGuid (digits.map foldAscii)) ∧
    ∀ text out, (parseGuidTo text out).1 = false →
      (parseGuidTo text out).2 = out := by
  refine ⟨parseGuid_formatGuid, ?_, ?_, ?_, ?_⟩
  · intro text out
    rw [← isSome_parseGuid_iff, parseGuidTo]
    cases parseGuid text <;> simp
  · exact fun _ _ _ _ hfirst hsecond hsame =>
      hfirst.parseGuid_eq hsecond hsame
  · intro text digits bytes hspells hparsed
    have hdecodes := (parseGuid_iff.mp hparsed).2
    rw [denotes_iff.mp hspells.denotes] at hdecodes
    exact ⟨hdecodes, by rw [formatGuid_eq, octets_of_decodes hdecodes]⟩
  · intro text out
    unfold parseGuidTo
    cases parseGuid text <;> simp

end Esptool.Text
