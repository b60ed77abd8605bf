import Esptool.IntegerText
import Esptool.Lib.Fields

/-!
# Splitting and joining

`Split` walks over a text by positions and keeps the trimmed fields that are
not empty; `Join` writes parts with a separator between them.  On parts that
`Split` can return, the two are inverse to each other, and so the lists of ids
that documents and options carry are read as they were written.
-/

namespace Esptool

namespace Text

/-- The loop of `Split`, from `start` on; behind a separator at the end it is
entered once more, with an empty field. -/
def splitFrom (value : List Char) (separator : Char) (start : ℕ) :
    List (List Char) :=
  if start ≤ value.length then
    let position := Fields.find separator value start
    let stop := position.getD value.length
    let field := trim ((value.drop start).take (stop - start))
    let parts :=
      match _ : position with
      | none => []
      | some position => splitFrom value separator (position + 1)
    if field.isEmpty then parts else field :: parts
  else []
termination_by value.length + 1 - start
decreasing_by
  have := Fields.le_of_find ‹_›
  omega

def join (parts : List (List Char)) (separator : List Char) : List Char :=
  parts.zipIdx.foldl
    (fun result (part, index) =>
      (if index ≠ 0 then result ++ separator else result) ++ part) []

/-- What the fields of a text leave. -/
def keptFields (fields : List (List Char)) : List (List Char) :=
  (fields.map trim).filter fun field => !field.isEmpty

theorem keptFields_cons (field : List Char) (fields : List (List Char)) :
    keptFields (field :: fields) =
      if (trim field).isEmpty then keptFields fields
      else trim field :: keptFields fields := by
  unfold keptFields
  rw [List.map_cons, List.filter_cons]
  cases (trim field).isEmpty <;> rfl

/-- One turn of the loop. -/
theorem splitFrom_turn {value : List Char} {separator : Char} {start : ℕ}
    (hstart : start ≤ value.length) {position : Option ℕ}
    (hfind : Fields.find separator value start = position) :
    splitFrom value separator start =
      let field := trim
        ((value.drop start).take (position.getD value.length - start))
      let parts := position.elim [] fun position =>
        splitFrom value separator (position + 1)
      if field.isEmpty then parts else field :: parts := by
  have hparts : (match _ : Fields.find separator value start with
      | none => []
      | some position => splitFrom value separator (position + 1)) =
      position.elim [] fun position =>
        splitFrom value separator (position + 1) := by
    subst hfind
    split
    · rename_i hnone
      rw [hnone]
      rfl
    · rename_i hsome
      rw [hsome]
      rfl
  rw [splitFrom, if_pos hstart]
  simp only [hparts, hfind]

/-- The loop keeps the trimmed fields, without the empty ones. -/
theorem splitFrom_eq (value : List Char) (separator : Char) (start : ℕ) :
    splitFrom value separator start =
      keptFields ((value.drop start).splitOn separator) := by
  induction start using Fields.induct separator value with
  | last start hlast =>
      rw [List.splitOn_eq_singleton hlast]
      by_cases hstart : start ≤ value.length
      · have hfield : (value.drop start).take (value.length - start) =
            value.drop start := by
          rw [← List.length_drop, List.take_length]
        rw [splitFrom_turn hstart (Fields.find_of_not_mem hlast),
          keptFields_cons]
        simp only [Option.getD_none, hfield]
        rfl
      · rw [splitFrom, if_neg hstart,
          List.drop_eq_nil_of_le (Nat.le_of_not_le hstart)]
        rfl
  | next start field rest hfield hdrop ih =>
      obtain ⟨hrest, hbehind⟩ := Fields.drop_behind hdrop
      rw [splitFrom_turn (by omega) (Fields.find_of_drop hfield hdrop)]
      simp only [Option.getD_some, Option.elim_some, Nat.add_sub_cancel_left]
      rw [ih, hrest, hdrop, List.take_left,
        List.splitOn_append_cons_self_of_not_mem hfield, keptFields_cons]

theorem splitFrom_zero (value : List Char) (separator : Char) :
    splitFrom value separator 0 = split value separator :=
  splitFrom_eq value separator 0

/-! ## Joining -/

theorem join_loop (separator : List Char) (parts : List (List Char))
    (index : ℕ) (result : List Char) :
    (parts.zipIdx (index + 1)).foldl
        (fun result (part, index) =>
          (if index ≠ 0 then result ++ separator else result) ++ part)
        result =
      result ++ parts.flatMap (separator ++ ·) := by
  induction parts generalizing index result with
  | nil => simp
  | cons part rest ih =>
      rw [List.zipIdx_cons, List.foldl_cons, ih, List.flatMap_cons]
      simp

theorem join_cons (part : List Char) (rest : List (List Char))
    (separator : List Char) :
    join (part :: rest) separator =
      part ++ rest.flatMap (separator ++ ·) := by
  rw [join, List.zipIdx_cons, List.foldl_cons, join_loop]
  rfl

theorem join_eq (parts : List (List Char)) (separator : List Char) :
    join parts separator = separator.intercalate parts := by
  induction parts with
  | nil => rfl
  | cons part rest ih =>
      rw [join_cons]
      cases rest with
      | nil => simp
      | cons next rest =>
          rw [List.intercalate_cons_cons, ← ih, join_cons]
          simp

/-- A part that `Split` can return. -/
structure IsPart (separator : Char) (part : List Char) : Prop where
  ne_nil : part ≠ []
  trimmed : trim part = part
  separator_free : separator ∉ part

theorem keptFields_parts {parts : List (List Char)} {separator : Char}
    (hparts : ∀ part ∈ parts, IsPart separator part) :
    keptFields parts = parts := by
  have htrim : parts.map trim = parts := by
    conv => rhs; rw [← List.map_id parts]
    exact List.map_congr_left fun part hpart => (hparts part hpart).trimmed
  rw [keptFields, htrim, List.filter_eq_self]
  intro part hpart
  simpa using (hparts part hpart).ne_nil

theorem split_join {parts : List (List Char)} {separator : Char}
    (hparts : ∀ part ∈ parts, IsPart separator part) :
    splitFrom (join parts [separator]) separator 0 = parts := by
  rw [splitFrom_eq, join_eq, List.drop_zero]
  by_cases hempty : parts = []
  · rw [hempty]
    rfl
  · rw [List.splitOn_intercalate separator
      (fun part hpart => (hparts part hpart).separator_free) hempty,
      keptFields_parts hparts]

/-! ## Lists of ids -/

theorem isDigit_of_mem_decimal {number : ℕ} {c : Char}
    (h : c ∈ Nat.toDigits 10 number) : c.isDigit = true :=
  Nat.isDigit_of_mem_toDigits (by decide) (by decide) h

theorem isPart_decimal (number : ℕ) :
    IsPart ',' (Nat.toDigits 10 number) where
  ne_nil := Nat.toDigits_ne_nil
  trimmed := trim_of_forall fun _ hc =>
    isSpace_of_hexValue
      (hexValue_decimal.mpr ⟨isDigit_of_mem_decimal hc, rfl⟩).1
  separator_free := fun h => by
    have := isDigit_of_mem_decimal h
    cases this

theorem parseUnsigned_decimal {number : ℕ} (h : number < 2 ^ 64) :
    parseUnsigned (Nat.toDigits 10 number) = some number := by
  rw [parseUnsigned_eq, Option.filter_eq_some_iff, decide_eq_true_eq,
    and_iff_left h, numeralValue_eq_some_iff, (isPart_decimal number).trimmed]
  have hliteral := Literal.decimal
    (Nat.toDigits_ne_nil (n := number) (b := 10))
    fun _ hc => isDigit_of_mem_decimal hc
  rwa [Nat.ofDigitChars_ten_toDigits] at hliteral

/-- Ids in decimal with commas between them. -/
def idsText (ids : List UInt32) : List Char :=
  join (ids.map fun id => Nat.toDigits 10 id.toNat) [',']

theorem split_idsText (ids : List UInt32) :
    splitFrom (idsText ids) ',' 0 =
      ids.map fun id => Nat.toDigits 10 id.toNat := by
  refine split_join fun part hpart => ?_
  obtain ⟨id, -, rfl⟩ := List.mem_map.mp hpart
  exact isPart_decimal id.toNat

end Text

open Text

namespace Cli

/-- The loop over the parts; what was read before a bad one stays in the
output. -/
def csvIds : List (List Char) → Bool × List ℕ
  | [] => (true, [])
  | part :: rest =>
      match parseUnsigned (trim part) with
      | none => (false, [])
      | some parsed =>
          if parsed > 2 ^ 32 - 1 then (false, [])
          else
            let ids := csvIds rest
            (ids.1, parsed :: ids.2)

def parseCsvIds (text : List Char) : Bool × List ℕ :=
  if text = [] then (true, []) else csvIds (splitFrom text ',' 0)

theorem csvIds_decimal (ids : List UInt32) :
    csvIds (ids.map fun id => Nat.toDigits 10 id.toNat) =
      (true, ids.map (·.toNat)) := by
  induction ids with
  | nil => rfl
  | cons id rest ih =>
      have hid := id.toNat_lt
      rw [List.map_cons, csvIds, (isPart_decimal id.toNat).trimmed,
        parseUnsigned_decimal (by omega)]
      dsimp only
      rw [if_neg (by omega), ih]
      rfl

theorem parseCsvIds_idsText (ids : List UInt32) :
    parseCsvIds (idsText ids) = (true, ids.map (·.toNat)) := by
  unfold parseCsvIds
  split
  · rename_i hempty
    have hsplit := split_idsText ids
    rw [hempty, splitFrom_eq] at hsplit
    have hids : ids = [] := List.map_eq_nil_iff.mp hsplit.symm
    rw [hids]
    rfl
  · rw [split_idsText, csvIds_decimal]

end Cli

namespace Model

theorem parseCsvUnsigned_idsText (ids : List UInt32) (line : ℕ) :
    parseCsvUnsigned (String.ofList (idsText ids)) line =
      .ok (ids.map (·.toNat)) := by
  unfold parseCsvUnsigned
  rw [String.toList_ofList, ← splitFrom_zero, split_idsText]
  induction ids with
  | nil => rfl
  | cons id rest ih =>
      have hid := id.toNat_lt
      have hread : orError
          (parseUnsigned32 (String.ofList (Nat.toDigits 10 id.toNat)))
          "query properties must be unsigned integers" line =
            .ok id.toNat := by
        unfold parseUnsigned32
        rw [String.toList_ofList, parseUnsigned_decimal (by omega)]
        dsimp only
        rw [if_neg (by omega)]
        rfl
      rw [List.map_cons, List.mapM_cons, hread, ih]
      rfl

end Model

/-- The parts are the fields without the white space around them. -/
theorem splitFrom_trims (value : List Char) (separator : Char) :
    ∃ fields cores : List (List Char),
      [separator].intercalate fields = value ∧
        (∀ field ∈ fields, separator ∉ field) ∧
        List.Forall₂ Trims fields cores ∧
        splitFrom value separator 0 =
          cores.filter fun core => !core.isEmpty := by
  refine ⟨value.splitOn separator, (value.splitOn separator).map trim,
    List.intercalate_splitOn separator,
    fun _ => Fields.not_mem_of_mem_splitOn, ?_,
    splitFrom_eq value separator 0⟩
  rw [List.forall₂_map_right_iff, List.forall₂_same]
  exact fun field _ => trims_trim field

/-- `Split` returns the trimmed fields between the separators that are not
empty, it gives back the parts that `Join` wrote, and so the lists of ids are
read as they were written. -/
theorem splitText_exact :
    (∀ value separator, ∃ fields : List (List Char), fields ≠ [] ∧
      (∀ field ∈ fields, separator ∉ field) ∧
      [separator].intercalate fields = value ∧
      splitFrom value separator 0 =
        (fields.map trim).filter fun field => !field.isEmpty) ∧
    (∀ parts separator, (∀ part ∈ parts, IsPart separator part) →
      splitFrom (join parts [separator]) separator 0 = parts) ∧
    ∀ ids line,
      Model.parseCsvUnsigned (String.ofList (idsText ids)) line =
          .ok (ids.map (·.toNat)) ∧
        Cli.parseCsvIds (idsText ids) = (true, ids.map (·.toNat)) := by
  refine ⟨fun value separator => ?_, fun _ _ => split_join, fun ids line =>
    ⟨Model.parseCsvUnsigned_idsText ids line, Cli.parseCsvIds_idsText ids⟩⟩
  exact ⟨value.splitOn separator, List.splitOn_ne_nil separator value,
    fun _ => Fields.not_mem_of_mem_splitOn,
    List.intercalate_splitOn separator, splitFrom_eq value separator 0⟩

end Esptool
