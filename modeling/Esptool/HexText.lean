import Esptool.CollectionEntries
import Esptool.HexDigits
import Esptool.IntegerText

/-!
# Hexadecimal bytes

Two decoders cut a text into pairs of characters and hand each pair, behind
`0x`, to the general number parser.  That parser trims white space, so a pair
of a digit and a white-space character passes for one digit.
-/

namespace Esptool

open Text

namespace Cli

/-- A file id without the separators it may be written with. -/
def fileIdText (text : List Char) : List Char :=
  text.filter fun ch => !(ch == '-' || ch == ' ' || ch == ':')

/-- The file id is used only when the text is accepted. -/
def parseFileIdHex (text : List Char) : Option Esp.FileIdDescriptorRaw :=
  let hex := fileIdText text
  if hex.length ≠ 32 then none
  else
    (Esp.parseHexPairs hex).map fun bytes =>
      { kind := Esp.kFileIdDescriptorKind
        fileId := Vector.ofFn fun index => bytes.getD index 0 }

end Cli

namespace Esp

/-! ## What a pair writes -/

theorem trim_pair (high low : Char) :
    trim ['0', 'x', high, low] =
      if isSpace low = false then ['0', 'x', high, low]
      else if isSpace high = false then ['0', 'x', high]
      else ['0', 'x'] := by
  have hzero : isSpace '0' = false := rfl
  have hx : isSpace 'x' = false := rfl
  rw [trim, List.dropWhile_cons_of_neg (by simp [hzero])]
  cases hlow : isSpace low <;> cases hhigh : isSpace high <;>
    simp [hlow, hhigh, hx]

theorem not_literal_bare (value : ℕ) : ¬ Literal ['0', 'x'] value := by
  rintro (⟨-, hall⟩ | ⟨-, hdigits, -⟩)
  · have := hall 'x' (by simp)
    cases this
  · exact hdigits rfl

/-- A digit and white space are read as the one digit. -/
theorem numeralValue_pair {high low : Char} {value : ℕ} :
    numeralValue ['0', 'x', high, low] = some value ↔
      ∃ first, hexValue high = some first ∧
        (isSpace low = true ∧ value = first ∨
          ∃ second, hexValue low = some second ∧
            value = 16 * first + second) := by
  rw [numeralValue_eq_some_iff, trim_pair]
  cases hlow : isSpace low with
  | false =>
      rw [if_pos rfl, literal_hexadecimal_iff (.inl rfl)]
      simp only [mapM_eq_some_iff, List.forall₂_cons_left_iff,
        List.forall₂_nil_left_iff]
      constructor
      · rintro ⟨_, ⟨first, _, hfirst, ⟨second, _, hsecond, rfl, rfl⟩, rfl⟩,
          rfl⟩
        refine ⟨first, hfirst, .inr ⟨second, hsecond, ?_⟩⟩
        simp [Nat.ofDigits_cons, Nat.add_comm]
      · rintro ⟨first, hfirst, ⟨hspace, -⟩ | ⟨second, hsecond, rfl⟩⟩
        · cases hspace
        · refine ⟨_, ⟨first, _, hfirst, ⟨second, _, hsecond, rfl, rfl⟩, rfl⟩, ?_⟩
          simp [Nat.ofDigits_cons, Nat.add_comm]
  | true =>
      rw [if_neg (by simp)]
      have hsecond : ∀ second, hexValue low ≠ some second := by
        intro second h
        rw [isSpace_of_hexValue h] at hlow
        cases hlow
      cases hhigh : isSpace high with
      | false =>
          rw [if_pos rfl, literal_hexadecimal_iff (.inl rfl)]
          simp only [mapM_eq_some_iff, List.forall₂_cons_left_iff,
            List.forall₂_nil_left_iff]
          constructor
          · rintro ⟨_, ⟨first, _, hfirst, rfl, rfl⟩, rfl⟩
            exact ⟨first, hfirst, .inl ⟨trivial, by simp⟩⟩
          · rintro ⟨first, hfirst, ⟨-, rfl⟩ | ⟨second, h, -⟩⟩
            · exact ⟨_, ⟨_, _, hfirst, rfl, rfl⟩, by simp⟩
            · exact absurd h (hsecond second)
      | true =>
          rw [if_neg (by simp)]
          refine iff_of_false (not_literal_bare value) ?_
          rintro ⟨first, hfirst, -⟩
          rw [isSpace_of_hexValue hfirst] at hhigh
          cases hhigh

/-! ## The texts that are accepted -/

/-- The characters pair up, a digit first and then a digit or white space. -/
inductive Paired : List Char → Prop
  | nil : Paired []
  | cons {high low : Char} {rest : List Char}
      (hhigh : (hexValue high).isSome = true)
      (hlow : (hexValue low).isSome = true ∨ isSpace low = true)
      (hrest : Paired rest) :
      Paired (high :: low :: rest)

/-- The decoders accept the paired texts. -/
theorem exists_hexBytes_iff (hex : List Char) :
    (∃ bytes, HexBytes hex bytes) ↔ Paired hex := by
  constructor
  · rintro ⟨bytes, hbytes⟩
    induction hbytes with
    | nil => exact .nil
    | cons hbyte _ ih =>
        obtain ⟨first, hfirst, ⟨hspace, -⟩ | ⟨second, hsecond, -⟩⟩ :=
          numeralValue_pair.mp hbyte
        · exact .cons (by rw [hfirst]; rfl) (.inr hspace) ih
        · exact .cons (by rw [hfirst]; rfl) (.inl (by rw [hsecond]; rfl)) ih
  · intro hpaired
    induction hpaired with
    | nil => exact ⟨[], .nil⟩
    | @cons high low rest hhigh hlow _ ih =>
        obtain ⟨bytes, hbytes⟩ := ih
        obtain ⟨first, hfirst⟩ := Option.isSome_iff_exists.mp hhigh
        have hlt := hexValue_lt hfirst
        have hpair : ∃ value < 256,
            numeralValue ['0', 'x', high, low] = some value := by
          rcases hlow with hlow | hspace
          · obtain ⟨second, hsecond⟩ := Option.isSome_iff_exists.mp hlow
            have := hexValue_lt hsecond
            exact ⟨16 * first + second, by omega, numeralValue_pair.mpr
              ⟨first, hfirst, .inr ⟨second, hsecond, rfl⟩⟩⟩
          · exact ⟨first, by omega, numeralValue_pair.mpr
              ⟨first, hfirst, .inl ⟨hspace, rfl⟩⟩⟩
        obtain ⟨value, hvalue, hnumeral⟩ := hpair
        refine ⟨UInt8.ofNat value :: bytes, .cons ?_ hbytes⟩
        rw [hnumeral, UInt8.toNat_ofNat', Nat.mod_eq_of_lt hvalue]

theorem hexBytes_cons_iff {high low : Char} {rest : List Char} {byte : UInt8}
    {bytes : List UInt8} :
    HexBytes (high :: low :: rest) (byte :: bytes) ↔
      numeralValue ['0', 'x', high, low] = some byte.toNat ∧
        HexBytes rest bytes := by
  constructor
  · rintro ⟨⟩
    exact ⟨‹_›, ‹_›⟩
  · rintro ⟨hbyte, hrest⟩
    exact .cons hbyte hrest

theorem hexBytes_iff_of_length {hex : List Char} {bytes : List UInt8}
    (h : hex.length ≠ 2 * bytes.length) :
    HexBytes hex bytes ↔ Decodes hex bytes := by
  constructor
  · intro hbytes
    exact absurd hbytes.length h
  · intro hdecodes
    exact absurd hdecodes.length_eq h

/-- Without white space they return what the digits write. -/
theorem hexBytes_iff_decodes {hex : List Char}
    (hspace : ∀ c ∈ hex, isSpace c = false) (bytes : List UInt8) :
    HexBytes hex bytes ↔ Decodes hex bytes := by
  induction hex using List.twoStepInduction generalizing bytes with
  | nil =>
      cases bytes with
      | nil => exact iff_of_true .nil decodes_nil
      | cons byte bytes => exact hexBytes_iff_of_length (by simp)
  | singleton c => exact hexBytes_iff_of_length (by simp; omega)
  | cons_cons high low rest ih _ =>
      cases bytes with
      | nil => exact hexBytes_iff_of_length (by simp)
      | cons byte bytes =>
          have hlow : isSpace low = false := hspace low (by simp)
          have hrest : ∀ c ∈ rest, isSpace c = false :=
            fun c hc => hspace c (by simp [hc])
          rw [hexBytes_cons_iff, decodes_cons_iff, numeralValue_pair, hlow,
            ih hrest]
          simp

/-- The pairs are decoded as claimed unless the text pairs up with white space
in it. -/
theorem hexBytes_exact_iff (hex : List Char) :
    (∀ bytes, HexBytes hex bytes ↔ Decodes hex bytes) ↔
      ¬ (Paired hex ∧ ∃ c ∈ hex, isSpace c = true) := by
  constructor
  · rintro hexact ⟨hpaired, hspace⟩
    obtain ⟨bytes, hbytes⟩ := (exists_hexBytes_iff hex).mpr hpaired
    exact not_decodes_of_space hspace bytes ((hexact bytes).mp hbytes)
  · intro hcondition bytes
    by_cases hspace : ∃ c ∈ hex, isSpace c = true
    · exact iff_of_false
        (fun h => hcondition ⟨(exists_hexBytes_iff hex).mp ⟨bytes, h⟩, hspace⟩)
        (not_decodes_of_space hspace bytes)
    · exact hexBytes_iff_decodes (fun c hc => by
        by_contra hblank
        exact hspace ⟨c, hc, by simpa using hblank⟩) bytes

/-- `ParseHexBytes` does what it should on the text: it accepts a positive
even number of hexadecimal digits and returns their bytes. -/
def HexBytesExact (text : List Char) : Prop :=
  ∀ bytes, parseHexBytes text = some bytes ↔
    bytes ≠ [] ∧ Decodes (hexText text) bytes

theorem hexBytesExact_iff (text : List Char) :
    HexBytesExact text ↔
      ¬ (Paired (hexText text) ∧ ∃ c ∈ hexText text, isSpace c = true) := by
  rw [← hexBytes_exact_iff]
  unfold HexBytesExact
  refine forall_congr' fun bytes => ?_
  rw [parseHexBytes_iff]
  by_cases hbytes : bytes = []
  · subst hbytes
    refine iff_of_true (by simp) ?_
    cases hhex : hexText text with
    | nil => exact iff_of_true .nil decodes_nil
    | cons c rest => exact hexBytes_iff_of_length (by simp)
  · simp [hbytes]

end Esp

namespace Cli

open Esp

/-- `ParseFileIdHex` does what it should on the text: it accepts 32
hexadecimal digits and returns their bytes. -/
def FileIdExact (text : List Char) : Prop :=
  ∀ id, parseFileIdHex text = some id ↔
    id.kind = kFileIdDescriptorKind ∧ (fileIdText text).length = 32 ∧
      Decodes (fileIdText text) id.fileId.toList

theorem toList_octets {bytes : List UInt8} (h : bytes.length = 16) :
    (Vector.ofFn fun index : Fin 16 => bytes.getD index 0).toList = bytes := by
  apply List.ext_getElem
  · simp [h]
  · intro i hi _
    have hbound : i < bytes.length := by simpa [h] using hi
    simp [List.getD_eq_getElem?_getD, hbound]

theorem octets_toList (octets : Vector UInt8 16) :
    (Vector.ofFn fun index : Fin 16 => octets.toList.getD index 0) =
      octets := by
  rw [← Vector.toList_inj]
  exact toList_octets (Vector.length_toList)

theorem parseFileIdHex_iff (text : List Char) (id : FileIdDescriptorRaw) :
    parseFileIdHex text = some id ↔
      id.kind = kFileIdDescriptorKind ∧ (fileIdText text).length = 32 ∧
        HexBytes (fileIdText text) id.fileId.toList := by
  unfold parseFileIdHex
  dsimp only
  by_cases hlength : (fileIdText text).length = 32
  · rw [if_neg (not_not.mpr hlength), Option.map_eq_some_iff]
    simp only [parseHexPairs_iff, hlength, true_and]
    constructor
    · rintro ⟨bytes, hbytes, rfl⟩
      have hcount : bytes.length = 16 := by
        have := hbytes.length
        omega
      exact ⟨rfl, by rw [toList_octets hcount]; exact hbytes⟩
    · rintro ⟨hkind, hbytes⟩
      refine ⟨_, hbytes, ?_⟩
      rw [octets_toList, ← hkind]
  · rw [if_pos hlength]
    simp [hlength]

theorem fileIdExact_iff (text : List Char) :
    FileIdExact text ↔
      ¬ ((fileIdText text).length = 32 ∧ Paired (fileIdText text) ∧
        ∃ c ∈ fileIdText text, isSpace c = true) := by
  by_cases hlength : (fileIdText text).length = 32
  · simp only [hlength, true_and]
    rw [← hexBytes_exact_iff]
    unfold FileIdExact
    simp only [parseFileIdHex_iff, hlength, true_and]
    constructor
    · intro hexact bytes
      by_cases hcount : bytes.length = 16
      · have hid := hexact
          ⟨kFileIdDescriptorKind, Vector.ofFn fun i => bytes.getD i 0⟩
        rw [toList_octets hcount] at hid
        simpa using hid
      · exact hexBytes_iff_of_length (by omega)
    · intro hexact id
      rw [hexact]
  · refine iff_of_true ?_ (fun h => hlength h.1)
    intro id
    rw [parseFileIdHex_iff]
    simp [hlength]

/-- The two decoders are exact but for texts that pair up with white space in
them: there the white space passes for the missing half of a byte. -/
theorem hexDecoders_exact_iff (text : List Char) :
    (HexBytesExact text ↔
      ¬ (Paired (hexText text) ∧ ∃ c ∈ hexText text, isSpace c = true)) ∧
    (FileIdExact text ↔
      ¬ ((fileIdText text).length = 32 ∧ Paired (fileIdText text) ∧
        ∃ c ∈ fileIdText text, isSpace c = true)) := by
  constructor
  · exact hexBytesExact_iff text
  · exact fileIdExact_iff text

/-- A file id of which one digit is replaced by a tab. -/
def tabbedFileId : List Char := '5' :: '\t' :: List.replicate 30 '0'

/-- It is accepted, with the first byte `05`. -/
theorem fileIdExact_tabbed :
    (parseFileIdHex tabbedFileId).map (·.fileId.toList.head?) =
        some (some 5) ∧
      ¬ FileIdExact tabbedFileId := by
  constructor
  · decide
  · have hpairs : parseHexPairs (fileIdText tabbedFileId) =
        some (5 :: List.replicate 15 0) := by decide
    rw [fileIdExact_iff, not_not]
    refine ⟨by decide, ?_, '\t', by decide, rfl⟩
    exact (exists_hexBytes_iff _).mp ⟨_, (parseHexPairs_iff _ _).mp hpairs⟩

end Cli

end Esptool
