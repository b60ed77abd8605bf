import Esptool.WorkerReentry

/-!
# The spellings of an option

A flag with a value is written `flag=value` or as two arguments.  The two
spellings are compared here by running the parser on both argument lists side
by side, errors included.
-/

namespace Esptool.Process

open Esp Cli Text

/-! ## Refusals side by side -/

section

variable {launched : Bool} {tokens : List WString}
variable {st worker : ParseState}

theorem store_error_iff (entry : Awaiting) (value error : String) :
    st.store entry value = .error error ↔
      ∃ count, entry = .count count ∧ parseCount value = none ∧
        error = "invalid value for " ++ count.flag ++ ": " ++ value := by
  cases entry with
  | string entry => simp [ParseState.store]
  | count entry =>
      unfold ParseState.store
      dsimp only
      cases hcount : parseCount value with
      | none => simp [eq_comm]
      | some count => simp

theorem takeValue_error_iff (entry : Awaiting) (token : List Char)
    (error : String) :
    st.takeValue entry token = .error error ↔
      ∃ value, equalsValue token = some value ∧
        st.store entry value = .error error := by
  unfold ParseState.takeValue
  cases equalsValue token with
  | none => simp
  | some value => simp

/-- A refused value is refused whatever the options are. -/
theorem takeValue_error {entry : Awaiting} {token : List Char}
    {error : String} (h : st.takeValue entry token = .error error) :
    worker.takeValue entry token = .error error := by
  rw [takeValue_error_iff] at h ⊢
  obtain ⟨value, hvalue, hstore⟩ := h
  rw [store_error_iff] at hstore
  exact ⟨value, hvalue, (store_error_iff _ _ _).mpr hstore⟩

theorem parseFlag_error {token : List Char} {error : String}
    (h : parseFlag st token = .error error) :
    parseFlag worker token = .error error := by
  unfold parseFlag at h ⊢
  cases hstring : findFlag StringFlag.flag kStringFlags token with
  | some entry =>
      rw [hstring] at h
      exact takeValue_error h
  | none =>
      rw [hstring] at h
      dsimp only at h ⊢
      cases hbool : findFlag BoolFlag.flag kBoolFlags token with
      | some entry =>
          rw [hbool] at h
          cases h
      | none =>
          rw [hbool] at h
          dsimp only at h ⊢
          split at h
          · cases h
          · rename_i hworker
            rw [if_neg hworker]
            cases hcount : findFlag CountFlag.flag kCountFlags token with
            | some entry =>
                rw [hcount] at h
                exact takeValue_error h
            | none =>
                rw [hcount] at h
                exact h

theorem Follows.parseStep_error (h : Follows launched tokens st worker)
    {argument : WString} {error : String}
    (hparse : Cli.parseStep st argument = .error error) :
    Cli.parseStep worker argument = .error error := by
  unfold Cli.parseStep at hparse ⊢
  dsimp only at hparse ⊢
  rw [h.awaiting, h.positionalOnly]
  cases hawaiting : st.awaiting with
  | some entry =>
      rw [hawaiting] at hparse
      exact (store_error_iff _ _ _).mpr ((store_error_iff _ _ _).mp hparse)
  | none =>
      rw [hawaiting] at hparse
      dsimp only at hparse ⊢
      split at hparse
      · cases hparse
      rename_i hpositional
      rw [if_neg hpositional]
      split at hparse
      · cases hparse
      rename_i hdashes
      rw [if_neg hdashes]
      split at hparse
      · rename_i hflag
        rw [if_pos hflag]
        exact parseFlag_error hparse
      · cases hparse

theorem Follows.readArguments_error (h : Follows launched tokens st worker)
    {arguments : List WString} {error : String}
    (hread : Cli.readArguments arguments st = .error error) :
    Cli.readArguments arguments worker = .error error := by
  induction arguments generalizing st worker with
  | nil => cases hread
  | cons argument arguments ih =>
      cases hstep : Cli.parseStep st argument with
      | ok next =>
          rw [readArguments_cons hstep] at hread
          obtain ⟨worker', hworker, hfollows⟩ := h.parseStep hstep
          rw [readArguments_cons hworker]
          exact ih hfollows hread
      | error refusal =>
          rw [Cli.readArguments, List.foldlM_cons, hstep] at hread
          rw [Cli.readArguments, List.foldlM_cons, h.parseStep_error hstep]
          exact hread

end

/-! ## The two spellings of a flag with its value -/

theorem toUtf8_ascii_cons {c : Char} (h : c.toNat < 0x80)
    (rest : List UInt16) :
    toUtf8 (UInt16.ofNat c.toNat :: rest) = c :: toUtf8 rest := by
  have hunit : (UInt16.ofNat c.toNat).toNat = c.toNat := by
    rw [UInt16.toNat_ofNat']
    exact Nat.mod_eq_of_lt (by omega)
  have hhigh : isHighSurrogate (UInt16.ofNat c.toNat) = false := by
    rw [isHighSurrogate, decide_eq_false_iff_not, UInt16.le_iff_toNat_le,
      hunit]
    intro hrange
    have : (0xD800 : UInt16).toNat = 0xD800 := rfl
    omega
  have hlow : isLowSurrogate (UInt16.ofNat c.toNat) = false := by
    rw [isLowSurrogate, decide_eq_false_iff_not, UInt16.le_iff_toNat_le,
      hunit]
    intro hrange
    have : (0xDC00 : UInt16).toNat = 0xDC00 := rfl
    omega
  rw [toUtf8, decodeUtf16, hhigh, hlow, hunit, Char.ofNat_toNat]
  rfl

theorem toUtf8_wide_append {text : String}
    (h : ∀ c ∈ text.toList, c.toNat < 0x80) (rest : List UInt16) :
    toUtf8 (wide text ++ rest) = text.toList ++ toUtf8 rest := by
  unfold wide
  revert h
  induction text.toList with
  | nil => exact fun _ => rfl
  | cons c chars ih =>
      intro h
      rw [List.forall_mem_cons] at h
      rw [List.map_cons, List.cons_append, toUtf8_ascii_cons h.1, ih h.2,
        List.cons_append]

/-- The flags that take a value, as they are written. -/
def kValueFlags : List String :=
  kStringFlags.map StringFlag.flag ++ kCountFlags.map CountFlag.flag

theorem kValueFlags_ascii {flag : String} (h : flag ∈ kValueFlags) :
    ∀ c ∈ flag.toList, c.toNat < 0x80 := by
  have hall : ∀ flag ∈ kValueFlags,
      flag.toList.all (fun c => c.toNat < 0x80) = true := by
    decide
  simpa using hall flag h

theorem kValueFlags_spelled {flag : String} (h : flag ∈ kValueFlags) :
    '=' ∉ flag.toList ∧ looksLikeFlag flag.toList = true ∧
      (findFlag BoolFlag.flag kBoolFlags flag.toList).isNone ∧
      flag.toList ≠ "--worker".toList :=
  valueFlags_spelled (List.mem_map_of_mem h)

/-- `flag=value`. -/
def joined (flag : String) (value : WString) : WString :=
  wide flag ++ wide "=" ++ value

theorem toUtf8_joined {flag : String} (h : flag ∈ kValueFlags)
    (value : WString) :
    toUtf8 (joined flag value) = flag.toList ++ '=' :: toUtf8 value := by
  have hequals : ∀ c ∈ "=".toList, c.toNat < 0x80 := by
    simp
  rw [joined, List.append_assoc, toUtf8_wide_append (kValueFlags_ascii h),
    toUtf8_wide_append hequals]
  rfl

theorem toUtf8_flag {flag : String} (h : flag ∈ kValueFlags) :
    toUtf8 (wide flag) = flag.toList := by
  have hflag := toUtf8_wide_append (kValueFlags_ascii h) []
  rw [List.append_nil] at hflag
  rw [hflag]
  exact List.append_nil _

/-- The part of a token before an equals sign. -/
def flagName (token : List Char) : List Char :=
  token.takeWhile (· != '=')

theorem flagName_joined {token : List Char} (h : '=' ∉ token)
    (value : List Char) : flagName (token ++ '=' :: value) = token := by
  rw [flagName, List.takeWhile_append_of_pos]
  · exact List.append_nil _
  · intro c hc
    rw [bne_iff_ne]
    rintro rfl
    exact h hc

theorem flagName_self {token : List Char} (h : '=' ∉ token) :
    flagName token = token := by
  rw [flagName, List.takeWhile_eq_self_iff]
  intro c hc
  rw [bne_iff_ne]
  rintro rfl
  exact h hc

/-- A token is its flag, or the flag with a text behind an equals sign. -/
theorem token_cases (token : List Char) :
    token = flagName token ∨
      ∃ text, token = flagName token ++ '=' :: text := by
  have hsplit := List.takeWhile_append_dropWhile (p := (· != '=')) (l := token)
  cases hrest : token.dropWhile (· != '=') with
  | nil =>
      left
      rw [hrest, List.append_nil] at hsplit
      exact hsplit.symm
  | cons c text =>
      right
      have hequals : c = '=' := by
        have hne : token.dropWhile (· != '=') ≠ [] := by
          rw [hrest]
          exact List.cons_ne_nil _ _
        have hhead := List.head_dropWhile_not (· != '=') hne
        simpa [hrest] using hhead
      rw [hrest, hequals] at hsplit
      exact ⟨text, hsplit.symm⟩

/-- `IsFlag` compares the flag with the name of the token. -/
theorem isFlag_iff {token : List Char} {flag : String}
    (hflag : '=' ∉ flag.toList) :
    isFlag token flag = true ↔ flagName token = flag.toList := by
  constructor
  · intro h
    rcases (Bool.or_eq_true _ _).mp h with hexact | hprefix
    · rw [eq_of_beq hexact, flagName_self hflag]
    · obtain ⟨rest, rfl⟩ := List.isPrefixOf_iff_prefix.mp hprefix
      rw [List.append_assoc, List.singleton_append, flagName_joined hflag]
  · intro hname
    rw [isFlag, Bool.or_eq_true]
    rcases token_cases token with hexact | ⟨text, hjoined⟩
    · left
      rw [hexact, hname]
      exact beq_self_eq_true _
    · right
      rw [List.isPrefixOf_iff_prefix, hjoined, hname]
      exact ⟨text, by simp⟩

theorem findFlag_joined {Flag : Type} {name : Flag → String}
    {flags : List Flag} (hflags : ∀ entry ∈ flags, '=' ∉ (name entry).toList)
    {token : List Char} (htoken : '=' ∉ token) (value : List Char) :
    findFlag name flags (token ++ '=' :: value) =
      findFlag name flags token := by
  unfold findFlag
  apply List.find?_congr
  intro entry hentry
  rw [Bool.eq_iff_iff, isFlag_iff (hflags entry hentry),
    isFlag_iff (hflags entry hentry), flagName_joined htoken,
    flagName_self htoken]

theorem equalsValue_joined {token : List Char} (htoken : '=' ∉ token)
    (value : List Char) :
    equalsValue (token ++ '=' :: value) = some (String.ofList value) := by
  have hdrop : (token ++ '=' :: value).dropWhile (· != '=') =
      '=' :: value := by
    rw [List.dropWhile_append_of_pos]
    · rfl
    · intro c hc
      rw [bne_iff_ne]
      rintro rfl
      exact htoken hc
  rw [equalsValue, if_pos (by simp), hdrop]
  rfl

/-- No flag of the tables has an equals sign. -/
theorem kStringFlags_name : ∀ entry ∈ kStringFlags, '=' ∉ entry.flag.toList := by
  rw [← List.forall_mem_map (P := fun flag : String => '=' ∉ flag.toList)]
  decide

theorem kBoolFlags_name : ∀ entry ∈ kBoolFlags, '=' ∉ entry.flag.toList := by
  rw [← List.forall_mem_map (P := fun flag : String => '=' ∉ flag.toList)]
  decide

theorem kCountFlags_name : ∀ entry ∈ kCountFlags, '=' ∉ entry.flag.toList := by
  rw [← List.forall_mem_map (P := fun flag : String => '=' ∉ flag.toList)]
  decide

theorem parseFlag_count {token : List Char} {entry : CountFlag}
    (hstring : findFlag StringFlag.flag kStringFlags token = none)
    (hbool : findFlag BoolFlag.flag kBoolFlags token = none)
    (hworker : token ≠ "--worker".toList)
    (hcount : findFlag CountFlag.flag kCountFlags token = some entry)
    (st : ParseState) :
    parseFlag st token = st.takeValue (.count entry) token := by
  unfold parseFlag
  rw [hstring]
  dsimp only
  rw [hbool]
  dsimp only
  rw [if_neg hworker, hcount]

/-- A value flag leads to its entry in either spelling. -/
theorem parseFlag_valueFlag {flag : String} (h : flag ∈ kValueFlags) :
    ∃ entry : Awaiting, Awaiting.listed entry ∧
      (∀ st, parseFlag st flag.toList = st.takeValue entry flag.toList) ∧
      ∀ st value, parseFlag st (flag.toList ++ '=' :: value) =
        st.takeValue entry (flag.toList ++ '=' :: value) := by
  obtain ⟨hequals, -, hbool, hworker⟩ := kValueFlags_spelled h
  rw [Option.isNone_iff_eq_none] at hbool
  cases hstring : findFlag StringFlag.flag kStringFlags flag.toList with
  | some entry =>
      refine ⟨.string entry, findFlag_mem hstring, ?_, ?_⟩
      · intro st
        unfold parseFlag
        rw [hstring]
      · intro st value
        unfold parseFlag
        rw [findFlag_joined kStringFlags_name hequals, hstring]
  | none =>
      have hlisted : ∀ flag ∈ kValueFlags,
          (findFlag StringFlag.flag kStringFlags flag.toList).isSome ∨
            (findFlag CountFlag.flag kCountFlags flag.toList).isSome := by
        decide
      have hsome := hlisted flag h
      rw [hstring, Option.isSome_none, Bool.false_eq_true, false_or] at hsome
      obtain ⟨entry, hcount⟩ := Option.isSome_iff_exists.mp hsome
      refine ⟨.count entry, findFlag_mem hcount, ?_, ?_⟩
      · exact parseFlag_count hstring hbool hworker hcount
      · intro st value
        apply parseFlag_count
        · rw [findFlag_joined kStringFlags_name hequals, hstring]
        · rw [findFlag_joined kBoolFlags_name hequals, hbool]
        · intro hsame
          have hmem : '=' ∈ "--worker".toList := by
            rw [← hsame]
            simp
          revert hmem
          decide
        · rw [findFlag_joined kCountFlags_name hequals, hcount]

theorem looksLikeFlag_joined {token : List Char}
    (h : looksLikeFlag token = true) (value : List Char) :
    looksLikeFlag (token ++ '=' :: value) = true := by
  unfold looksLikeFlag at h ⊢
  cases token with
  | nil => cases h
  | cons c rest =>
      rw [Bool.and_eq_true] at h ⊢
      refine ⟨h.1, ?_⟩
      rw [bne_iff_ne]
      intro hsame
      have hlength := congrArg List.length hsame
      simp at hlength

/-- In option position the two spellings lead to the same state or to the
same refusal. -/
theorem AtOption.readArguments_spellings {st : ParseState} (h : AtOption st)
    {flag : String} (hflag : flag ∈ kValueFlags) (value : WString)
    (rest : List WString) :
    readArguments (joined flag value :: rest) st =
      readArguments (wide flag :: value :: rest) st := by
  obtain ⟨entry, -, hexact, hjoined⟩ := parseFlag_valueFlag hflag
  obtain ⟨hequals, hlooks, -, -⟩ := kValueFlags_spelled hflag
  have hfirst : parseStep st (joined flag value) =
      st.store entry (String.ofList (toUtf8 value)) := by
    have hdashes : flag.toList ++ '=' :: toUtf8 value ≠ ['-', '-'] := by
      intro hsame
      have hmem : '=' ∈ ['-', '-'] := by
        rw [← hsame]
        simp
      revert hmem
      decide
    have hlooks' := looksLikeFlag_joined hlooks (toUtf8 value)
    unfold parseStep
    rw [toUtf8_joined hflag]
    dsimp only
    rw [h.awaiting]
    dsimp only
    rw [if_neg (by simp [h.positionalOnly]), if_neg hdashes, if_pos hlooks',
      hjoined, ParseState.takeValue, equalsValue_joined hequals]
  have hsecond : parseStep st (wide flag) =
      .ok { st with awaiting := some entry } := by
    have hdashes : ∀ flag ∈ kValueFlags, flag.toList ≠ ['-', '-'] := by
      decide
    unfold parseStep
    rw [toUtf8_flag hflag]
    dsimp only
    rw [h.awaiting]
    dsimp only
    rw [if_neg (by simp [h.positionalOnly]), if_neg (hdashes flag hflag),
      if_pos hlooks, hexact, ParseState.takeValue, equalsValue, if_neg hequals]
  have hthird : parseStep { st with awaiting := some entry } value =
      st.store entry (String.ofList (toUtf8 value)) := by
    cases entry with
    | string entry => rfl
    | count entry => rfl
  rw [readArguments_cons hsecond]
  rw [readArguments, readArguments, List.foldlM_cons, List.foldlM_cons,
    hfirst, hthird]

/-! ## The whole parse in both spellings -/

/-- The options without the raw tokens. -/
def untokened (o : Options) : Options :=
  { o with tokens := [] }

theorem checkOptions_untokened (tokens : List WString) (o : Options) :
    (checkOptions (asWorker false tokens o)).map untokened =
      (checkOptions o).map untokened := by
  unfold checkOptions asWorker
  dsimp only
  split
  · rfl
  split
  · rfl
  split
  · rfl
  split
  · rfl
  · simp [Except.map, untokened]

theorem Follows.finishParse {tokens : List WString} {st worker : ParseState}
    (h : Follows false tokens st worker) :
    (Cli.finishParse worker).map untokened =
      (Cli.finishParse st).map untokened := by
  unfold Cli.finishParse
  rw [h.awaiting]
  cases st.awaiting with
  | some entry => rfl
  | none =>
      dsimp only
      rw [h.options, checkOptions_untokened]

/-- From states that differ in the tokens only, the rest of the parse ends
alike. -/
theorem Follows.parse {tokens : List WString} {st worker : ParseState}
    (h : Follows false tokens st worker) (arguments : List WString) :
    (Cli.readArguments arguments worker >>= Cli.finishParse).map untokened =
      (Cli.readArguments arguments st >>= Cli.finishParse).map untokened := by
  cases hread : Cli.readArguments arguments st with
  | error error =>
      rw [h.readArguments_error hread]
  | ok st' =>
      obtain ⟨worker', hworker, hfollows⟩ := h.readArguments hread
      rw [hworker]
      exact hfollows.finishParse

theorem follows_start (tokens tokens' : List WString) :
    Follows false tokens' { options := { tokens := tokens } }
      { options := { tokens := tokens' } } :=
  ⟨rfl, rfl, rfl, nofun⟩

theorem optionsEnd_of_bare {arguments : List WString}
    (h : ∀ argument ∈ arguments, toUtf8 argument ≠ ['-', '-'])
    (awaited : Bool) : optionsEnd awaited arguments = false := by
  induction arguments generalizing awaited with
  | nil => rw [optionsEnd]
  | cons argument arguments ih =>
      rw [List.forall_mem_cons] at h
      cases awaited with
      | true => exact ih h.2 false
      | false =>
          rw [optionsEnd, beq_false_of_ne h.1, Bool.false_or]
          exact ih h.2 _

/-- A value flag and its value parse alike in one argument and in two, behind
any arguments that are accepted alone and have no bare `--`, and before any
others: the same error, or the same options but for the raw tokens. -/
theorem parseOptions_spellings {program : WString}
    {before : List WString} {accepted : Options}
    (hbefore : parseOptions (program :: before) = .ok accepted)
    (hbare : ∀ argument ∈ before, toUtf8 argument ≠ ['-', '-'])
    {flag : String} (hflag : flag ∈ kValueFlags) (value : WString)
    (after : List WString) :
    (parseOptions (program :: (before ++ joined flag value :: after))).map
        untokened =
      (parseOptions (program ::
        (before ++ wide flag :: value :: after))).map untokened := by
  obtain ⟨st, hread, hawaiting, -, -⟩ := parseOptions_ok hbefore
  rw [List.drop_succ_cons, List.drop_zero] at hread
  have hpositional := readArguments_positionalOnly rfl hread
  rw [optionsEnd_of_bare hbare] at hpositional
  unfold parseOptions
  simp only [List.drop_succ_cons, List.drop_zero]
  -- both parses read the accepted arguments first
  obtain ⟨one, hone, hfollows⟩ := (follows_start before
    (before ++ joined flag value :: after)).readArguments hread
  obtain ⟨two, htwo, hfollows'⟩ := (follows_start
    (before ++ joined flag value :: after)
    (before ++ wide flag :: value :: after)).readArguments hone
  have hoption : AtOption one :=
    ⟨hfollows.awaiting.trans hawaiting,
      hfollows.positionalOnly.trans hpositional⟩
  rw [readArguments_append hone, readArguments_append htwo,
    hoption.readArguments_spellings hflag]
  exact (hfollows'.parse _).symm

/-- A value that looks like a terminator. -/
theorem parseOptions_spellings_dashes :
    parseOptions [wide "esptool", wide "connect"] =
        .ok { command := "connect", tokens := [wide "connect"] } ∧
      (parseOptions [wide "esptool", wide "connect", wide "--rules=--",
          wide "--max", wide "3"]).map untokened =
        (parseOptions [wide "esptool", wide "connect", wide "--rules",
          wide "--", wide "--max", wide "3"]).map untokened := by
  have hbefore : parseOptions [wide "esptool", wide "connect"] =
      .ok { command := "connect", tokens := [wide "connect"] } := by
    rfl
  exact ⟨hbefore, parseOptions_spellings hbefore (by decide)
    (by decide : "--rules" ∈ kValueFlags) (wide "--")
    [wide "--max", wide "3"]⟩

end Esptool.Process
