import Esptool.Collections
import Esptool.Numerals
import Esptool.SessionRelease

/-!
# What the update calls of a document carry

The log of `InstallDocumentCollections` falls into one turn for each
collection of the document: the call that opens or creates it, and the updates
of its entries on the handle that call returned.  The result is true exactly
when every turn went through, and then the updates of a turn are the entries of
its collection, one by one and untruncated.
-/

namespace Esptool.Esp

open Model Interaction

/-! ## The value of an entry -/

/-- A binary entry without the separators it may be written with. -/
def hexText (text : List Char) : List Char :=
  text.filter fun ch =>
    !(ch == ' ' || ch == '\t' || ch == '\r' || ch == '\n' || ch == '-')

/-- The text writes the bytes, two characters for each: two hexadecimal
digits, or one digit and a form feed or vertical tab, which the numeral drops
as white space at its end. -/
inductive HexBytes : List Char → List UInt8 → Prop
  | nil : HexBytes [] []
  | cons {high low : Char} {byte : UInt8} {rest : List Char}
      {bytes : List UInt8}
      (hbyte : Text.numeralValue ['0', 'x', high, low] = some byte.toNat)
      (hrest : HexBytes rest bytes) :
      HexBytes (high :: low :: rest) (byte :: bytes)

/-- The record holds the value that the text writes, whole: a number that the
64-bit field represents, all the bytes with their count, all the UTF-16 units
with their size in bytes. -/
def Carries (env : Env) (type : ℕ) (text : String) : CollectionEntry → Prop
  | .integer value =>
      type = kCollectionTypeInteger ∧
        -2 ^ 63 ≤ value ∧ value < 2 ^ 63 ∧
        Text.numeralValue text.toList = some (value % 2 ^ 64).toNat
  | .binary byteCount data =>
      type = kCollectionTypeBinary ∧ data ≠ [] ∧
        byteCount = data.length ∧ byteCount < 2 ^ 32 ∧
        HexBytes (hexText text.toList) data
  | .string utf16Bytes units =>
      type ≠ kCollectionTypeInteger ∧ type ≠ kCollectionTypeBinary ∧
        units ≠ [] ∧ utf16Bytes = 2 * units.length ∧
        utf16Bytes ≤ kMaxUtf16Bytes ∧ units = env.expandFilterValue text

theorem HexBytes.length {text : List Char} {bytes : List UInt8}
    (h : HexBytes text bytes) : text.length = 2 * bytes.length := by
  induction h with
  | nil => rfl
  | cons _ _ ih =>
      simp only [List.length_cons, ih]
      omega

/-- A byte is what a pair of digits writes. -/
theorem parseUnsigned_byte (text : List Char) (byte : ℕ) :
    Text.parseUnsigned text = some byte ∧ ¬ byte > 255 ↔
      Text.numeralValue text = some byte ∧ byte < 256 := by
  rw [Text.parseUnsigned_eq, Option.filter_eq_some_iff, decide_eq_true_eq]
  constructor
  · rintro ⟨⟨hvalue, -⟩, hbyte⟩
    exact ⟨hvalue, by omega⟩
  · rintro ⟨hvalue, hbyte⟩
    exact ⟨⟨hvalue, by omega⟩, by omega⟩

theorem parseHexPairs_iff (text : List Char) (bytes : List UInt8) :
    parseHexPairs text = some bytes ↔ HexBytes text bytes := by
  induction text using parseHexPairs.induct generalizing bytes with
  | case1 =>
      constructor
      · intro h
        cases h
        exact .nil
      · rintro ⟨⟩
        rfl
  | case2 =>
      constructor
      · nofun
      · nofun
  | case3 high low rest hnone =>
      rw [parseHexPairs, hnone]
      constructor
      · nofun
      · rintro ⟨⟩
        rename_i byte bytes hbyte hrest
        have hparsed := ((parseUnsigned_byte _ _).mpr
          ⟨hbyte, byte.toNat_lt⟩).1
        rw [hnone] at hparsed
        cases hparsed
  | case4 high low rest value hsome hlarge =>
      rw [parseHexPairs, hsome]
      dsimp only
      rw [if_pos hlarge]
      constructor
      · nofun
      · rintro ⟨⟩
        rename_i byte bytes hbyte hrest
        have hparsed := ((parseUnsigned_byte _ _).mpr
          ⟨hbyte, byte.toNat_lt⟩).1
        rw [hsome] at hparsed
        cases hparsed
        have := byte.toNat_lt
        omega
  | case5 high low rest value hsome hsmall ih =>
      rw [parseHexPairs, hsome]
      dsimp only
      rw [if_neg hsmall]
      obtain ⟨hvalue, hbound⟩ :=
        (parseUnsigned_byte _ _).mp ⟨hsome, hsmall⟩
      have hbyte : (UInt8.ofNat value).toNat = value := by
        rw [UInt8.toNat_ofNat']
        exact Nat.mod_eq_of_lt hbound
      constructor
      · intro h
        obtain ⟨others, hothers, rfl⟩ := Option.map_eq_some_iff.mp h
        exact .cons (by rw [hbyte, hvalue]) ((ih others).mp hothers)
      · rintro ⟨⟩
        rename_i byte others hpair hrest
        rw [hvalue, Option.some.injEq] at hpair
        rw [(ih others).mpr hrest, hpair, UInt8.ofNat_toNat]
        rfl

/-- The parity test adds nothing to the pairs, the test for an empty text
excludes the empty value. -/
theorem parseHexBytes_iff (text : List Char) (bytes : List UInt8) :
    parseHexBytes text = some bytes ↔
      bytes ≠ [] ∧ HexBytes (hexText text) bytes := by
  unfold parseHexBytes
  dsimp only
  rw [← hexText]
  by_cases hshape : hexText text = [] ∨ (hexText text).length % 2 ≠ 0
  · rw [if_pos hshape]
    constructor
    · nofun
    · rintro ⟨hbytes, hhex⟩
      have hlength := hhex.length
      rcases hshape with hempty | hodd
      · rw [hempty, List.length_nil] at hlength
        have : bytes.length = 0 := by omega
        exact absurd (List.length_eq_zero_iff.mp this) hbytes
      · omega
  · rw [if_neg hshape, parseHexPairs_iff]
    constructor
    · intro hhex
      refine ⟨?_, hhex⟩
      rintro rfl
      cases hempty : hexText text with
      | nil => exact hshape (.inl hempty)
      | cons c rest =>
          rw [hempty] at hhex
          cases hhex
    · exact fun h => h.2

/-- The 64-bit field of a number below the bound. -/
theorem bmod_field {n : ℕ} (hn : n < 2 ^ 64) :
    -2 ^ 63 ≤ Int.bmod n (2 ^ 64) ∧ Int.bmod n (2 ^ 64) < 2 ^ 63 ∧
      (Int.bmod n (2 ^ 64) % 2 ^ 64).toNat = n := by
  have hlow := Int.le_bmod (x := (n : ℤ)) (m := 2 ^ 64) (by decide)
  have hhigh := Int.bmod_lt (x := (n : ℤ)) (m := 2 ^ 64) (by decide)
  refine ⟨by omega, by omega, ?_⟩
  have hmod := Int.bmod_emod (x := (n : ℤ)) (m := 2 ^ 64)
  omega

theorem field_bmod {value : ℤ} (hlow : -2 ^ 63 ≤ value)
    (hhigh : value < 2 ^ 63) :
    Int.bmod ((value % 2 ^ 64).toNat : ℕ) (2 ^ 64) = value := by
  have hcast : (2 : ℤ) ^ 64 = ((2 ^ 64 : ℕ) : ℤ) := by norm_num
  rw [Int.toNat_of_nonneg (by omega), hcast, Int.emod_bmod]
  exact Int.bmod_eq_of_le (by omega) (by omega)

section

variable {env : Env} {type : ℕ} {text : String}

theorem integerEntry_iff (htype : type = kCollectionTypeInteger)
    (entry : CollectionEntry) :
    collectionEntry env type text = .ok entry ↔
      Carries env type text entry := by
  unfold collectionEntry
  rw [if_pos htype, Text.parseUnsigned_eq]
  constructor
  · intro h
    cases hvalue : (Text.numeralValue text.toList).filter (· < 2 ^ 64) with
    | none =>
        rw [hvalue] at h
        cases h
    | some n =>
        rw [hvalue] at h
        rw [Option.filter_eq_some_iff, decide_eq_true_eq] at hvalue
        obtain ⟨hnumeral, hbound⟩ := hvalue
        obtain ⟨hlow, hhigh, hfield⟩ := bmod_field hbound
        cases h
        exact ⟨htype, hlow, hhigh, by rw [hfield, hnumeral]⟩
  · intro hcarries
    cases entry with
    | integer value =>
        obtain ⟨-, hlow, hhigh, hnumeral⟩ := hcarries
        rw [hnumeral, Option.filter_some, if_pos]
        · dsimp only
          rw [field_bmod hlow hhigh]
        · rw [decide_eq_true_eq]
          omega
    | binary count data =>
        obtain ⟨hbinary, -⟩ := hcarries
        rw [htype] at hbinary
        cases hbinary
    | string count units =>
        exact absurd htype hcarries.1

theorem binaryEntry_iff (hsize : text.length ≤ 64 * 2 ^ 20)
    (htype : type = kCollectionTypeBinary) (entry : CollectionEntry) :
    collectionEntry env type text = .ok entry ↔
      Carries env type text entry := by
  have hinteger : type ≠ kCollectionTypeInteger := by
    rw [htype]
    decide
  -- 64 MiB of text write far fewer bytes than the 32-bit count can hold
  have hcount : ∀ bytes, HexBytes (hexText text.toList) bytes →
      bytes.length < 2 ^ 32 := by
    intro bytes hhex
    have hlength := hhex.length
    have hfilter : (hexText text.toList).length ≤ text.toList.length :=
      List.length_filter_le _ _
    rw [String.length_toList] at hfilter
    omega
  unfold collectionEntry
  rw [if_neg hinteger, if_pos htype]
  constructor
  · intro h
    cases hbytes : parseHexBytes text.toList with
    | none =>
        rw [hbytes] at h
        cases h
    | some bytes =>
        rw [hbytes] at h
        obtain ⟨hne, hhex⟩ := (parseHexBytes_iff _ _).mp hbytes
        cases h
        rw [Nat.mod_eq_of_lt (hcount bytes hhex)]
        exact ⟨htype, hne, rfl, hcount bytes hhex, hhex⟩
  · intro hcarries
    cases entry with
    | integer value => exact absurd hcarries.1 hinteger
    | binary count data =>
        obtain ⟨-, hne, hlength, -, hhex⟩ := hcarries
        rw [(parseHexBytes_iff _ _).mpr ⟨hne, hhex⟩]
        dsimp only
        rw [Nat.mod_eq_of_lt (hcount data hhex), hlength]
    | string count units => exact absurd htype hcarries.2.1

theorem stringEntry_iff (hinteger : type ≠ kCollectionTypeInteger)
    (hbinary : type ≠ kCollectionTypeBinary) (entry : CollectionEntry) :
    collectionEntry env type text = .ok entry ↔
      Carries env type text entry := by
  unfold collectionEntry
  rw [if_neg hinteger, if_neg hbinary]
  dsimp only
  constructor
  · intro h
    split at h
    · cases h
    · rename_i hempty
      split at h
      · cases h
      · rename_i hlong
        cases h
        exact ⟨hinteger, hbinary, hempty, by omega, by omega, rfl⟩
  · intro hcarries
    cases entry with
    | integer value => exact absurd hcarries.1 hinteger
    | binary count data => exact absurd hcarries.1 hbinary
    | string count units =>
        obtain ⟨-, -, hempty, hcount, hlong, rfl⟩ := hcarries
        rw [if_neg hempty, if_neg (by omega), hcount, Nat.mul_comm]

/-- One entry is accepted with the record that carries it. -/
theorem collectionEntry_iff (hsize : text.length ≤ 64 * 2 ^ 20)
    (entry : CollectionEntry) :
    collectionEntry env type text = .ok entry ↔
      Carries env type text entry := by
  by_cases hinteger : type = kCollectionTypeInteger
  · exact integerEntry_iff hinteger entry
  · by_cases hbinary : type = kCollectionTypeBinary
    · exact binaryEntry_iff hsize hbinary entry
    · exact stringEntry_iff hinteger hbinary entry

end

/-! ## One turn for each collection -/

/-- What a collection left in the log: the call that opens or creates it, when
it was made, and the updates of its entries. -/
structure CollectionTurn where
  spec : CollectionSpec
  opener : Option Event
  updates : List Event

namespace CollectionTurn

def events (t : CollectionTurn) : List Event :=
  t.opener.toList ++ t.updates

/-- The handle of the collection, null while it is neither opened nor
created. -/
def handle (t : CollectionTurn) : Handle :=
  match t.opener with
  | none => 0
  | some e =>
      if succeeded e.reply.result = true then e.reply.out else 0

/-- The entries to submit: an opened collection keeps the ones it has. -/
def entries (t : CollectionTurn) : List String :=
  if t.spec.open then [] else t.spec.entries

/-- The update submits the entry with this text on the collection's handle. -/
def Submits (env : Env) (t : CollectionTurn) (text : String) (e : Event) :
    Prop :=
  ∃ entry, e.call = .updateCollection t.handle entry ∧
    Carries env t.spec.type text entry

/-- Opened or created, every entry valid, every update accepted. -/
def Complete (env : Env) (t : CollectionTurn) : Prop :=
  t.handle ≠ 0 ∧
    (∀ text ∈ t.entries, ∃ entry, Carries env t.spec.type text entry) ∧
    ∀ e ∈ t.updates, succeeded e.reply.result = true

def binding (t : CollectionTurn) : Option (String × Handle) :=
  if t.handle ≠ 0 ∧ t.spec.name ≠ "" then some (t.spec.name, t.handle)
  else none

/-- The exports that create and fill collections are there, with a client to
call them for. -/
def ready (env : Env) (client : Handle) : Bool :=
  env.available .createCollection && env.available .updateCollection &&
    client != 0

/-- An opened collection is asked for by its GUID. -/
def attempted (env : Env) (client : Handle) (spec : CollectionSpec) : Bool :=
  ready env client && (!spec.open ||
    (env.available .openCollection && spec.hasGuid &&
      spec.guid != Guid.null))

/-- The calls of a turn: the one that opens or creates the collection, and
updates that submit entries of it. -/
structure Proper (env : Env) (client : Handle) (t : CollectionTurn) : Prop where
  attempt : t.opener.isSome = attempted env client t.spec
  opener : ∀ e ∈ t.opener, e.call =
    if t.spec.open then .openCollection client t.spec.guid
    else .createCollection client t.spec.type kCollectionStringSubtype
  updates : ∀ e ∈ t.updates, ∃ text ∈ t.entries, t.Submits env text e

end CollectionTurn

/-- An invalid entry makes no call; a valid one makes the update that submits
it. -/
theorem installEntry_cases (env : Env) (collection : Handle) (type : ℕ)
    {text : String} (hsize : text.length ≤ 64 * 2 ^ 20) (j : Journal) :
    ((¬ ∃ entry, Carries env type text entry) ∧
      (installEntry env collection type text j).1 = false ∧
      (installEntry env collection type text j).2.log = j.log) ∨
    ∃ e : Event,
      (∃ entry, e.call = .updateCollection collection entry ∧
        Carries env type text entry) ∧
      (installEntry env collection type text j).1 =
        succeeded e.reply.result ∧
      (installEntry env collection type text j).2.log = j.log ++ [e] := by
  unfold installEntry
  have hiff : ∀ entry, collectionEntry env type text = .ok entry ↔
      Carries env type text entry := collectionEntry_iff hsize
  cases hentry : collectionEntry env type text with
  | error refusal =>
      left
      refine ⟨?_, ?_⟩
      · rintro ⟨entry, hcarries⟩
        rw [(hiff entry).mpr hcarries] at hentry
        cases hentry
      · cases refusal with
        | none => exact ⟨rfl, rfl⟩
        | some message => exact ⟨rfl, rfl⟩
  | ok entry =>
      right
      let call : Call := .updateCollection collection entry
      exact ⟨⟨j.tag, call, env.respond j.log call⟩,
        ⟨entry, rfl, (hiff entry).mp hentry⟩, rfl, rfl⟩

/-- The updates of the entries on one handle. -/
theorem installEntries_updates (env : Env) (collection : Handle) (type : ℕ)
    (entries : List String)
    (hsize : ∀ text ∈ entries, text.length ≤ 64 * 2 ^ 20) (j : Journal) :
    ∃ updates : List Event,
      (installEntries env collection type entries j).2.log =
        j.log ++ updates ∧
      (∀ e ∈ updates, ∃ text ∈ entries, ∃ entry,
        e.call = .updateCollection collection entry ∧
          Carries env type text entry) ∧
      ((installEntries env collection type entries j).1 = true ↔
        (∀ text ∈ entries, ∃ entry, Carries env type text entry) ∧
          ∀ e ∈ updates, succeeded e.reply.result = true) ∧
      ((∀ text ∈ entries, ∃ entry, Carries env type text entry) →
        List.Forall₂ (fun text (e : Event) => ∃ entry,
          e.call = .updateCollection collection entry ∧
            Carries env type text entry) entries updates) := by
  induction entries generalizing j with
  | nil =>
      exact ⟨[], by simp [installEntries, pure_run], by simp,
        by simp [installEntries, pure_run], fun _ => .nil⟩
  | cons text rest ih =>
      have hrest : ∀ text ∈ rest, text.length ≤ 64 * 2 ^ 20 :=
        fun text' htext => hsize text' (List.mem_cons_of_mem _ htext)
      obtain ⟨updates, hlog, hupdates, hresult, hexact⟩ :=
        ih hrest (installEntry env collection type text j).2
      rw [installEntries]
      simp only [bind_run, pure_run, Bool.and_eq_true, hlog, hresult,
        List.forall_mem_cons]
      rcases installEntry_cases env collection type
        (hsize text List.mem_cons_self) j with
        ⟨hinvalid, hvalue, hlog'⟩ | ⟨e, hsubmits, hvalue, hlog'⟩
      · rw [hvalue, hlog']
        refine ⟨updates, rfl, ?_, ?_, ?_⟩
        · intro e he
          obtain ⟨text', htext', hentry⟩ := hupdates e he
          exact ⟨text', List.mem_cons_of_mem _ htext', hentry⟩
        · constructor
          · rintro ⟨⟨⟩, -⟩
          · rintro ⟨⟨hvalid, -⟩, -⟩
            exact absurd hvalid hinvalid
        · rintro ⟨hvalid, -⟩
          exact absurd hvalid hinvalid
      · rw [hvalue, hlog']
        have hvalid : ∃ entry, Carries env type text entry := by
          obtain ⟨entry, -, hcarries⟩ := hsubmits
          exact ⟨entry, hcarries⟩
        refine ⟨e :: updates, by simp, ?_, ?_, ?_⟩
        · rw [List.forall_mem_cons]
          refine ⟨⟨text, List.mem_cons_self, hsubmits⟩, ?_⟩
          intro e' he'
          obtain ⟨text', htext', hentry⟩ := hupdates e' he'
          exact ⟨text', List.mem_cons_of_mem _ htext', hentry⟩
        · rw [List.forall_mem_cons]
          constructor
          · rintro ⟨hok, hvalids, hoks⟩
            exact ⟨⟨hvalid, hvalids⟩, hok, hoks⟩
          · rintro ⟨⟨-, hvalids⟩, hok, hoks⟩
            exact ⟨hok, hvalids, hoks⟩
        · rintro ⟨-, hvalids⟩
          exact .cons hsubmits (hexact hvalids)

/-- The collection of a call that `Adopt` took up. -/
theorem adopted_handle {e : Event} :
    (if succeeded e.reply.result = true ∧ e.reply.out ≠ 0
      then some e.reply.out else none).getD 0 =
      if succeeded e.reply.result = true then e.reply.out else 0 := by
  by_cases hok : succeeded e.reply.result = true
  · by_cases hout : e.reply.out = 0
    · simp [hok, hout]
    · simp [hok, hout]
  · simp [hok]

section

variable {env : Env} {client : Handle} {spec : CollectionSpec}

/-- A turn that makes no update. -/
theorem CollectionTurn.complete_opened {t : CollectionTurn}
    (hopen : t.spec.open = true) (hupdates : t.updates = []) :
    t.Complete env ↔ t.handle ≠ 0 := by
  unfold CollectionTurn.Complete CollectionTurn.entries
  rw [hopen, hupdates]
  simp

/-- `OpenNamedCollection` asks for the collection when it can. -/
theorem openNamedCollection_run (env : Env) (client : Handle) (id : Guid)
    (j : Journal) :
    ∃ opener : Option Event,
      opener.isSome = (env.available .openCollection && client != 0 &&
        id != Guid.null) ∧
      (∀ e ∈ opener, e.call = .openCollection client id) ∧
      (openNamedCollection env client id j).2.log =
        j.log ++ opener.toList ∧
      (openNamedCollection env client id j).1 =
        opener.bind fun e =>
          if succeeded e.reply.result = true ∧ e.reply.out ≠ 0
            then some e.reply.out else none := by
  unfold openNamedCollection
  rw [bind_run, require_value]
  by_cases hready : (!env.available .openCollection || client == 0 ||
      id == Guid.null) = true
  · refine ⟨none, ?_, by simp, ?_, ?_⟩
    · simp only [Bool.or_eq_true, Bool.not_eq_true', beq_iff_eq] at hready
      rcases hready with (hmissing | hclient) | hid
      · simp [hmissing]
      · simp [hclient]
      · simp [hid]
    · rw [if_pos hready, pure_run, require_log]
      simp
    · rw [if_pos hready]
      rfl
  · rw [if_neg hready, bind_run]
    obtain ⟨e, hcall, hlog, -, hvalue⟩ := adopt_run env "EspOpenCollection"
      (.openCollection client id) (require env .openCollection j).2
    refine ⟨some e, ?_, by simpa using hcall, ?_, ?_⟩
    · simp only [Bool.not_eq_true, Bool.or_eq_false_iff, Bool.not_eq_false',
        beq_eq_false_iff_ne] at hready
      simp [hready.1.1, hready.1.2, hready.2]
    · rw [Option.toList_some, ← require_log env .openCollection j, ← hlog]
      cases (adopt env "EspOpenCollection" (.openCollection client id)
        (require env .openCollection j).2).1 with
      | none => rfl
      | some collection => rfl
    · rw [Option.bind_some, ← hvalue]
      cases (adopt env "EspOpenCollection" (.openCollection client id)
        (require env .openCollection j).2).1 with
      | none => rfl
      | some collection => rfl

theorem openCollection_turn (hready : CollectionTurn.ready env client = true)
    (hopen : spec.open = true) (j : Journal) :
    ∃ t : CollectionTurn, t.spec = spec ∧ t.Proper env client ∧
      t.updates = [] ∧
      (installCollection env client spec j).2.log = j.log ++ t.events ∧
      ((installCollection env client spec j).1.1 = true ↔ t.handle ≠ 0) ∧
      (installCollection env client spec j).1.2 = t.handle := by
  unfold installCollection
  rw [if_pos hopen]
  by_cases hguid : (!spec.hasGuid || spec.guid == Guid.null) = true
  · rw [if_pos hguid]
    refine ⟨⟨spec, none, []⟩, rfl, ⟨?_, nofun, by simp⟩, rfl, ?_, ?_, rfl⟩
    · simp only [Bool.or_eq_true, Bool.not_eq_true', beq_iff_eq] at hguid
      rcases hguid with hmissing | hnull
      · simp [CollectionTurn.attempted, hopen, hmissing]
      · simp [CollectionTurn.attempted, hopen, hnull]
    · simp [CollectionTurn.events, warn, note_run, bind_run, pure_run]
    · constructor
      · nofun
      · intro h
        exact absurd rfl h
  · rw [if_neg hguid]
    obtain ⟨opener, hsome, hcall, hlog, hvalue⟩ :=
      openNamedCollection_run env client spec.guid j
    have hhandle : (openNamedCollection env client spec.guid j).1.getD 0 =
        CollectionTurn.handle ⟨spec, opener, []⟩ := by
      rw [hvalue]
      cases opener with
      | none => rfl
      | some e => exact adopted_handle
    refine ⟨⟨spec, opener, []⟩, rfl, ⟨?_, ?_, by simp⟩, rfl, ?_, ?_, ?_⟩
    · simp only [Bool.not_eq_true, Bool.or_eq_false_iff, Bool.not_eq_false',
        beq_eq_false_iff_ne] at hguid
      have hclient : (client != 0) = true := by
        rw [CollectionTurn.ready, Bool.and_eq_true] at hready
        exact hready.2
      simp [hsome, CollectionTurn.attempted, hopen, hready, hguid.1, hclient]
    · intro e he
      rw [hcall e he]
      simp [hopen]
    · rw [bind_run, pure_run, hlog]
      simp [CollectionTurn.events]
    · rw [← hhandle, bind_run, pure_run, hvalue]
      cases opener with
      | none => simp
      | some e =>
          dsimp only [Option.bind_some]
          split
          · rename_i hok
            simpa using hok.2
          · simp
    · rw [← hhandle]
      rfl

theorem createCollection_turn (hready : CollectionTurn.ready env client = true)
    (hopen : spec.open = false)
    (hsize : ∀ text ∈ spec.entries, text.length ≤ 64 * 2 ^ 20)
    (j : Journal) :
    ∃ t : CollectionTurn, t.spec = spec ∧ t.Proper env client ∧
      (installCollection env client spec j).2.log = j.log ++ t.events ∧
      ((installCollection env client spec j).1.1 = true ↔ t.Complete env) ∧
      (t.Complete env → List.Forall₂ (t.Submits env) t.entries t.updates) ∧
      (installCollection env client spec j).1.2 = t.handle := by
  unfold installCollection
  rw [if_neg (by rw [hopen]; decide), bind_run]
  obtain ⟨e, hcall, hlog, -, hvalue⟩ := adopt_run env "EspCreateCollection"
    (.createCollection client spec.type kCollectionStringSubtype) j
  rw [hvalue]
  by_cases hok : succeeded e.reply.result = true ∧ e.reply.out ≠ 0
  · rw [if_pos hok]
    dsimp only
    obtain ⟨updates, hlog', hupdates, hresult, hexact⟩ :=
      installEntries_updates env e.reply.out spec.type spec.entries
        hsize ((pushCollection e.reply.out (adopt env "EspCreateCollection"
          (.createCollection client spec.type kCollectionStringSubtype)
            j).2).2)
    let t : CollectionTurn := ⟨spec, some e, updates⟩
    have hhandle : t.handle = e.reply.out := if_pos hok.1
    have hentries : t.entries = spec.entries := by
      simp [t, CollectionTurn.entries, hopen]
    refine ⟨t, rfl, ⟨?_, ?_, ?_⟩, ?_, ?_, ?_, hhandle.symm⟩
    · simp [t, CollectionTurn.attempted, hready, hopen]
    · intro e' he'
      cases he'
      rw [hcall, if_neg (by simp [t, hopen])]
    · intro e' he'
      obtain ⟨text, htext, hentry⟩ := hupdates e' he'
      refine ⟨text, by rwa [hentries], ?_⟩
      rw [CollectionTurn.Submits, hhandle]
      exact hentry
    · have hpushed : (pushCollection e.reply.out
          (adopt env "EspCreateCollection" (.createCollection client spec.type
            kCollectionStringSubtype) j).2).2.log = j.log ++ [e] := hlog
      rw [bind_run, bind_run, pure_run, hlog', hpushed, List.append_assoc]
      rfl
    · rw [bind_run, bind_run, pure_run, hresult, CollectionTurn.Complete,
        hhandle, hentries]
      exact (and_iff_right hok.2).symm
    · rintro ⟨-, hvalid, -⟩
      rw [hentries] at hvalid ⊢
      unfold CollectionTurn.Submits
      rw [hhandle]
      exact hexact hvalid
  · rw [if_neg hok]
    let t : CollectionTurn := ⟨spec, some e, []⟩
    have hhandle : t.handle = 0 := by
      change (if succeeded e.reply.result = true then e.reply.out else 0) = 0
      by_cases hsucceeded : succeeded e.reply.result = true
      · rw [if_pos hsucceeded]
        by_contra hout
        exact hok ⟨hsucceeded, hout⟩
      · rw [if_neg hsucceeded]
    refine ⟨t, rfl, ⟨?_, ?_, by simp [t]⟩, ?_, ?_, ?_, hhandle.symm⟩
    · simp [t, CollectionTurn.attempted, hready, hopen]
    · intro e' he'
      cases he'
      rw [hcall, if_neg (by simp [t, hopen])]
    · exact hlog
    · constructor
      · nofun
      · intro hcomplete
        exact absurd hhandle hcomplete.1
    · intro hcomplete
      exact absurd hhandle hcomplete.1

/-- The turn of one collection. -/
theorem installCollection_turn
    (hready : CollectionTurn.ready env client = true)
    (hsize : ∀ text ∈ spec.entries, text.length ≤ 64 * 2 ^ 20)
    (j : Journal) :
    ∃ t : CollectionTurn, t.spec = spec ∧ t.Proper env client ∧
      (installCollection env client spec j).2.log = j.log ++ t.events ∧
      ((installCollection env client spec j).1.1 = true ↔ t.Complete env) ∧
      (t.Complete env → List.Forall₂ (t.Submits env) t.entries t.updates) ∧
      (installCollection env client spec j).1.2 = t.handle := by
  cases hopen : spec.open with
  | false => exact createCollection_turn hready hopen hsize j
  | true =>
      obtain ⟨t, rfl, hproper, hupdates, hlog, hresult, hhandle⟩ :=
        openCollection_turn hready hopen j
      refine ⟨t, rfl, hproper, hlog, ?_, ?_, hhandle⟩
      · rw [hresult, t.complete_opened hopen hupdates]
      · intro _
        rw [hupdates, CollectionTurn.entries, hopen]
        exact .nil

/-- Without the exports or a client no collection of the list gets a turn. -/
theorem silent_turns (hready : ¬ CollectionTurn.ready env client = true)
    (specs : List CollectionSpec) :
    ∀ t ∈ specs.map fun spec => (⟨spec, none, []⟩ : CollectionTurn),
      t.Proper env client ∧ t.events = [] ∧ t.handle = 0 := by
  intro t ht
  obtain ⟨spec, -, rfl⟩ := List.mem_map.mp ht
  refine ⟨⟨?_, nofun, by simp⟩, rfl, rfl⟩
  simp [CollectionTurn.attempted, hready]

/-- The loop over the collections takes their turns in order. -/
theorem installCollections_turns
    (hready : CollectionTurn.ready env client = true)
    (specs : List CollectionSpec)
    (hsize : ∀ spec ∈ specs, ∀ text ∈ spec.entries,
      text.length ≤ 64 * 2 ^ 20) (j : Journal) :
    ∃ turns : List CollectionTurn, turns.map CollectionTurn.spec = specs ∧
      (∀ t ∈ turns, t.Proper env client) ∧
      (installCollections env client specs j).2.log =
        j.log ++ turns.flatMap CollectionTurn.events ∧
      ((installCollections env client specs j).1.1 = true ↔
        ∀ t ∈ turns, t.Complete env) ∧
      (∀ t ∈ turns, t.Complete env →
        List.Forall₂ (t.Submits env) t.entries t.updates) ∧
      (installCollections env client specs j).1.2 =
        turns.filterMap CollectionTurn.binding := by
  induction specs generalizing j with
  | nil =>
      exact ⟨[], rfl, by simp, by simp [installCollections, pure_run],
        by simp [installCollections, pure_run], by simp, rfl⟩
  | cons spec rest ih =>
      rw [List.forall_mem_cons] at hsize
      obtain ⟨t, hspec, hproper, hlog, hresult, hexact, hhandle⟩ :=
        installCollection_turn hready hsize.1 j
      obtain ⟨turns, hspecs, hpropers, hlogs, hresults, hexacts, hbound⟩ :=
        ih hsize.2 (installCollection env client spec j).2
      rw [installCollections]
      simp only [bind_run, pure_run]
      refine ⟨t :: turns, ?_, ?_, ?_, ?_, ?_, ?_⟩
      · rw [List.map_cons, hspec, hspecs]
      · rw [List.forall_mem_cons]
        exact ⟨hproper, hpropers⟩
      · rw [hlogs, hlog, List.flatMap_cons, List.append_assoc]
      · rw [Bool.and_eq_true, hresult, hresults, List.forall_mem_cons]
      · rw [List.forall_mem_cons]
        exact ⟨hexact, hexacts⟩
      · rw [hbound, hhandle, ← hspec, List.filterMap_cons,
          CollectionTurn.binding]
        by_cases hnamed : t.handle ≠ 0 ∧ t.spec.name ≠ ""
        · rw [if_pos hnamed, if_pos hnamed]
          rfl
        · rw [if_neg hnamed, if_neg hnamed]
          rfl

/-- The turns of a document, with the two lookups before them. -/
theorem documentCollections_turns (env : Env) (client : Handle)
    (document : RuleDocument)
    (hsize : ∀ spec ∈ document.collections, ∀ text ∈ spec.entries,
      text.length ≤ 64 * 2 ^ 20) (j : Journal) :
    ∃ turns : List CollectionTurn,
      turns.map CollectionTurn.spec = document.collections ∧
      (∀ t ∈ turns, t.Proper env client) ∧
      (documentCollections env client document j).2.log =
        j.log ++ turns.flatMap CollectionTurn.events ∧
      ((documentCollections env client document j).1.1 = true ↔
        ∀ t ∈ turns, t.Complete env) ∧
      (∀ t ∈ turns, t.Complete env →
        List.Forall₂ (t.Submits env) t.entries t.updates) ∧
      (documentCollections env client document j).1.2 =
        turns.filterMap CollectionTurn.binding := by
  unfold documentCollections
  rw [bind_run, require_value, bind_run, require_value]
  have hlookups : (require env .updateCollection
      (require env .createCollection j).2).2.log = j.log := by
    rw [require_log, require_log]
  have hguard : (!env.available .createCollection ||
      !env.available .updateCollection || client == 0) =
      !CollectionTurn.ready env client := by
    simp [CollectionTurn.ready, bne]
  rw [hguard]
  by_cases hready : CollectionTurn.ready env client = true
  · rw [hready, if_neg (by decide), ← hlookups]
    exact installCollections_turns hready document.collections hsize _
  · have hsilent := silent_turns hready document.collections
    rw [Bool.not_eq_true] at hready
    rw [hready, if_pos (by decide), pure_run, hlookups]
    refine ⟨_, ?_, fun t ht => (hsilent t ht).1, ?_, ?_, ?_, ?_⟩
    · rw [List.map_map]
      exact List.map_id _
    · rw [List.flatMap_eq_nil_iff.mpr fun t ht => (hsilent t ht).2.1,
        List.append_nil]
    · rw [List.isEmpty_iff]
      constructor
      · intro hempty
        simp [hempty]
      · intro hcomplete
        cases hspecs : document.collections with
        | nil => rfl
        | cons spec rest =>
            rw [hspecs] at hcomplete
            exact absurd rfl (hcomplete _ List.mem_cons_self).1
    · intro t ht hcomplete
      exact absurd (hsilent t ht).2.2 hcomplete.1
    · symm
      rw [List.filterMap_eq_nil_iff]
      intro t ht
      exact if_neg fun hnamed => hnamed.1 (hsilent t ht).2.2

/-- `InstallDocumentCollections` succeeds exactly when every collection of
the document is opened or created, every entry of a created one is valid and
every update is accepted.  The updates are then the entries in document order,
each on the handle of its collection and each carrying its whole value, and
the named collections are bound to their handles in order. -/
theorem installDocumentCollections_exact (env : Env) (document : RuleDocument)
    (hsize : ∀ spec ∈ document.collections, ∀ text ∈ spec.entries,
      text.length ≤ 64 * 2 ^ 20) (s : Session) :
    ∃ turns : List CollectionTurn,
      turns.map CollectionTurn.spec = document.collections ∧
      (∀ t ∈ turns, t.Proper env s.clientHandle) ∧
      (installDocumentCollections env document s).2.log =
        s.log ++ turns.flatMap CollectionTurn.events ∧
      ((installDocumentCollections env document s).1 = true ↔
        ∀ t ∈ turns, t.Complete env) ∧
      ((installDocumentCollections env document s).1 = true →
        ∀ t ∈ turns, List.Forall₂ (t.Submits env) t.entries t.updates) ∧
      (installDocumentCollections env document s).2.namedCollections =
        s.namedCollections ++ turns.filterMap CollectionTurn.binding := by
  obtain ⟨turns, hspecs, hpropers, hlog, hresult, hexact, hbound⟩ :=
    documentCollections_turns env s.clientHandle document hsize s.journal
  refine ⟨turns, hspecs, hpropers, hlog, hresult, ?_, ?_⟩
  · intro hok t ht
    exact hexact t ht (hresult.mp hok t ht)
  · exact congrArg (s.namedCollections ++ ·) hbound

/-- One collection of each type, the binary one unnamed. -/
def entryDocument : RuleDocument :=
  { collections :=
      [{ name := "sizes", type := 1,
          entries := ["0xffffffffffffffff", " 7 "] },
        { type := 3, entries := ["65-73 70"] },
        { name := "images", entries := ["a.exe"] }] }

theorem installDocumentCollections_mixed :
    let installed := installDocumentCollections acceptingEnv entryDocument
      { clientHandle := 5 }
    installed.1 = true ∧ installed.2.namedCollections =
      [("sizes", 1), ("images", 6)] ∧
    ∃ turns : List CollectionTurn,
      turns.map CollectionTurn.spec = entryDocument.collections ∧
      ∀ t ∈ turns,
        List.Forall₂ (t.Submits acceptingEnv) t.entries t.updates := by
  have hok : (installDocumentCollections acceptingEnv entryDocument
      { clientHandle := 5 }).1 = true := by decide +kernel
  obtain ⟨turns, hspecs, -, -, -, hexact, -⟩ :=
    installDocumentCollections_exact acceptingEnv entryDocument (by decide)
      { clientHandle := 5 }
  exact ⟨hok, by decide +kernel, turns, hspecs, hexact hok⟩

end

end Esptool.Esp
