import Esptool.SameImage
import Esptool.TrustPlan

/-!
# The worker parses the request of its parent

The argument list of the worker is made from the tokens of the parent without
parsing them.  The results below compare the parse of the two lists: what the
leading `--worker` changes, what the flags behind the tokens change, and when
the worker ends up with the options that `Dispatch` went on with.
-/

namespace Esptool.Process

open Esp Cli Text

/-! ## The two parses side by side -/

/-- The options with other tokens, and behind a `--worker` or not. -/
def asWorker (launched : Bool) (tokens : List WString) (o : Options) :
    Options :=
  { o with worker := o.worker || launched, tokens := tokens }

def Awaiting.listed : Awaiting → Prop
  | .string entry => entry ∈ kStringFlags
  | .count entry => entry ∈ kCountFlags

/-- The worker's parse is where the parent's is. -/
structure Follows (launched : Bool) (tokens : List WString)
    (st worker : ParseState) : Prop where
  options : worker.options = asWorker launched tokens st.options
  positionalOnly : worker.positionalOnly = st.positionalOnly
  awaiting : worker.awaiting = st.awaiting
  listed : ∀ entry ∈ st.awaiting, Awaiting.listed entry

section

variable {launched : Bool} {tokens : List WString}
variable {st worker : ParseState}

theorem StringFlag.set_asWorker {entry : StringFlag}
    (h : entry ∈ kStringFlags) (value : String) (o : Options) :
    entry.set value (asWorker launched tokens o) =
      asWorker launched tokens (entry.set value o) := by
  have hall : ∀ entry ∈ kStringFlags, ∀ value o,
      entry.set value (asWorker launched tokens o) =
        asWorker launched tokens (entry.set value o) := by
    simp [kStringFlags, asWorker]
  exact hall entry h value o

theorem BoolFlag.set_asWorker {entry : BoolFlag} (h : entry ∈ kBoolFlags)
    (o : Options) :
    entry.set (asWorker launched tokens o) = asWorker launched tokens (entry.set o) := by
  have hall : ∀ entry ∈ kBoolFlags, ∀ o,
      entry.set (asWorker launched tokens o) = asWorker launched tokens (entry.set o) := by
    simp [kBoolFlags, asWorker]
  exact hall entry h o

theorem CountFlag.set_asWorker {entry : CountFlag}
    (h : entry ∈ kCountFlags) (count : ℕ) (o : Options) :
    entry.set count (asWorker launched tokens o) =
      asWorker launched tokens (entry.set count o) := by
  have hall : ∀ entry ∈ kCountFlags, ∀ count o,
      entry.set count (asWorker launched tokens o) =
        asWorker launched tokens (entry.set count o) := by
    simp [kCountFlags, asWorker]
  exact hall entry h count o

theorem Follows.store (h : Follows launched tokens st worker) {entry : Awaiting}
    (hentry : Awaiting.listed entry) {value : String} {st' : ParseState}
    (hstore : st.store entry value = .ok st') :
    ∃ worker', worker.store entry value = .ok worker' ∧
      Follows launched tokens st' worker' := by
  cases entry with
  | string entry =>
      cases hstore
      refine ⟨_, rfl, ?_, h.positionalOnly, rfl, nofun⟩
      dsimp only
      rw [h.options]
      exact StringFlag.set_asWorker hentry value st.options
  | count entry =>
      unfold ParseState.store at hstore ⊢
      dsimp only at hstore ⊢
      cases hcount : parseCount value with
      | none =>
          rw [hcount] at hstore
          cases hstore
      | some count =>
          rw [hcount] at hstore
          cases hstore
          refine ⟨_, rfl, ?_, h.positionalOnly, rfl, nofun⟩
          dsimp only
          rw [h.options]
          exact CountFlag.set_asWorker hentry count st.options

theorem Follows.takeValue (h : Follows launched tokens st worker) {entry : Awaiting}
    (hentry : Awaiting.listed entry) {token : List Char} {st' : ParseState}
    (htake : st.takeValue entry token = .ok st') :
    ∃ worker', worker.takeValue entry token = .ok worker' ∧
      Follows launched tokens st' worker' := by
  unfold ParseState.takeValue at htake ⊢
  cases hvalue : equalsValue token with
  | some value =>
      rw [hvalue] at htake
      exact h.store hentry htake
  | none =>
      rw [hvalue] at htake
      cases htake
      refine ⟨_, rfl, h.options, h.positionalOnly, rfl, ?_⟩
      intro other hother
      cases hother
      exact hentry

theorem Follows.operand (h : Follows launched tokens st worker)
    (token : List Char) :
    Follows launched tokens (st.operand token) (worker.operand token) := by
  have hcommand : worker.options.command = st.options.command := by
    rw [h.options]
    rfl
  unfold ParseState.operand
  by_cases hfirst : st.options.command = "" ∧ st.positionalOnly = false
  · rw [if_pos hfirst, if_pos (by rwa [hcommand, h.positionalOnly])]
    refine ⟨?_, h.positionalOnly, h.awaiting, h.listed⟩
    dsimp only
    rw [h.options]
    rfl
  · rw [if_neg hfirst, if_neg (by rwa [hcommand, h.positionalOnly])]
    refine ⟨?_, h.positionalOnly, h.awaiting, h.listed⟩
    dsimp only
    rw [h.options]
    rfl

theorem findFlag_mem {Flag : Type} {name : Flag → String}
    {flags : List Flag} {token : List Char} {entry : Flag}
    (h : findFlag name flags token = some entry) : entry ∈ flags :=
  List.mem_of_find?_eq_some h

theorem findFlag_isFlag {Flag : Type} {name : Flag → String}
    {flags : List Flag} {token : List Char} {entry : Flag}
    (h : findFlag name flags token = some entry) :
    isFlag token (name entry) = true := by
  have hfound := List.find?_some h
  exact hfound

theorem Follows.parseFlag (h : Follows launched tokens st worker)
    {token : List Char} {st' : ParseState}
    (hparse : parseFlag st token = .ok st') :
    ∃ worker', parseFlag worker token = .ok worker' ∧
      Follows launched tokens st' worker' := by
  unfold Cli.parseFlag at hparse ⊢
  cases hstring : findFlag StringFlag.flag kStringFlags token with
  | some entry =>
      rw [hstring] at hparse
      have hlisted : Awaiting.listed (.string entry) := findFlag_mem hstring
      exact h.takeValue hlisted hparse
  | none =>
      rw [hstring] at hparse
      dsimp only at hparse ⊢
      cases hbool : findFlag BoolFlag.flag kBoolFlags token with
      | some entry =>
          rw [hbool] at hparse
          cases hparse
          refine ⟨_, rfl, ?_, h.positionalOnly, h.awaiting, h.listed⟩
          dsimp only
          rw [h.options]
          exact BoolFlag.set_asWorker (findFlag_mem hbool) st.options
      | none =>
          rw [hbool] at hparse
          dsimp only at hparse ⊢
          split at hparse
          · rename_i hworker
            rw [if_pos hworker]
            cases hparse
            refine ⟨_, rfl, ?_, h.positionalOnly, h.awaiting, h.listed⟩
            dsimp only
            rw [h.options]
            rfl
          · rename_i hworker
            rw [if_neg hworker]
            cases hcount : findFlag CountFlag.flag kCountFlags token with
            | some entry =>
                rw [hcount] at hparse
                have hlisted : Awaiting.listed (.count entry) :=
                  findFlag_mem hcount
                exact h.takeValue hlisted hparse
            | none =>
                rw [hcount] at hparse
                cases hparse

/-- One argument keeps the two parses together. -/
theorem Follows.parseStep (h : Follows launched tokens st worker)
    {argument : WString} {st' : ParseState}
    (hparse : parseStep st argument = .ok st') :
    ∃ worker', parseStep worker argument = .ok worker' ∧
      Follows launched tokens st' worker' := by
  unfold Cli.parseStep at hparse ⊢
  dsimp only at hparse ⊢
  rw [h.awaiting, h.positionalOnly]
  cases hawaiting : st.awaiting with
  | some entry =>
      rw [hawaiting] at hparse
      exact h.store (h.listed entry hawaiting) hparse
  | none =>
      rw [hawaiting] at hparse
      dsimp only at hparse ⊢
      split at hparse
      · rename_i hpositional
        rw [if_pos hpositional]
        cases hparse
        exact ⟨_, rfl, h.operand _⟩
      rename_i hpositional
      rw [if_neg hpositional]
      split at hparse
      · rename_i hdashes
        rw [if_pos hdashes]
        cases hparse
        exact ⟨_, rfl, h.options, rfl, rfl, nofun⟩
      rename_i hdashes
      rw [if_neg hdashes]
      split at hparse
      · rename_i hflag
        rw [if_pos hflag]
        exact h.parseFlag hparse
      · rename_i hflag
        rw [if_neg hflag]
        cases hparse
        exact ⟨_, rfl, h.operand _⟩

theorem readArguments_cons {argument : WString} {arguments : List WString}
    {st st' : ParseState} (h : parseStep st argument = .ok st') :
    readArguments (argument :: arguments) st =
      readArguments arguments st' := by
  rw [readArguments, List.foldlM_cons, h]
  rfl

theorem readArguments_append {arguments more : List WString}
    {st st' : ParseState} (h : readArguments arguments st = .ok st') :
    readArguments (arguments ++ more) st = readArguments more st' := by
  rw [readArguments, List.foldlM_append]
  change (readArguments arguments st >>= fun st' =>
    readArguments more st') = _
  rw [h]
  rfl

theorem readArguments_ok_cons {argument : WString}
    {arguments : List WString} {st st' : ParseState}
    (h : readArguments (argument :: arguments) st = .ok st') :
    ∃ next, parseStep st argument = .ok next ∧
      readArguments arguments next = .ok st' := by
  cases hstep : parseStep st argument with
  | error error =>
      rw [readArguments, List.foldlM_cons, hstep] at h
      cases h
  | ok next =>
      rw [readArguments_cons hstep] at h
      exact ⟨next, rfl, h⟩

theorem Follows.readArguments (h : Follows launched tokens st worker)
    {arguments : List WString} {st' : ParseState}
    (hread : readArguments arguments st = .ok st') :
    ∃ worker', Cli.readArguments arguments worker = .ok worker' ∧
      Follows launched tokens st' worker' := by
  induction arguments generalizing st worker with
  | nil =>
      cases hread
      exact ⟨worker, rfl, h⟩
  | cons argument arguments ih =>
      obtain ⟨next, hstep, hrest⟩ := readArguments_ok_cons hread
      obtain ⟨worker', hworker, hfollows⟩ := h.parseStep hstep
      rw [readArguments_cons hworker]
      exact ih hfollows hrest

end

/-! ## The arguments of the worker -/

/-- The flag is in effect and its text is not among the tokens. -/
def missing (o : Options) (entry : LaunchFlag) : Bool :=
  entry.given o && !o.tokens.contains (wide entry.flag)

def missingFlag (o : Options) (entry : LaunchFlag) : List WString :=
  if missing o entry then [wide entry.flag] else []

theorem appendFlag_eq (wanted : Bool) (flag : WString)
    (arguments : List WString) :
    appendFlag wanted flag arguments =
      arguments ++
        if wanted && !arguments.contains flag then [flag] else [] := by
  unfold appendFlag
  split
  · rfl
  · exact (List.append_nil _).symm

theorem foldl_appendFlag {o : Options} {entries : List LaunchFlag}
    {arguments : List WString}
    (hdistinct : entries.Pairwise fun entry other =>
      wide entry.flag ≠ wide other.flag) :
    entries.foldl (fun arguments entry =>
      appendFlag (entry.given o) (wide entry.flag) arguments) arguments =
      arguments ++ entries.flatMap fun entry =>
        if entry.given o && !arguments.contains (wide entry.flag)
          then [wide entry.flag] else [] := by
  induction entries generalizing arguments with
  | nil => exact (List.append_nil _).symm
  | cons entry entries ih =>
      obtain ⟨hhead, htail⟩ := List.pairwise_cons.mp hdistinct
      have hsame : ∀ other ∈ entries,
          (appendFlag (entry.given o) (wide entry.flag) arguments).contains
            (wide other.flag) = arguments.contains (wide other.flag) := by
        intro other hother
        have hne : wide other.flag ≠ wide entry.flag :=
          (hhead other hother).symm
        rw [appendFlag]
        split
        · simp [hne]
        · rfl
      rw [List.foldl_cons, ih htail, List.flatMap_cons, ← List.append_assoc,
        appendFlag_eq]
      congr 1
      rw [← appendFlag_eq]
      refine List.flatMap_congr fun other hother => ?_
      rw [hsame other hother]

theorem workerArguments_eq {tokens : List WString}
    (h : kWorkerFlag ∉ tokens) :
    workerArguments tokens = kWorkerFlag :: tokens := by
  have hall : ∀ token ∈ tokens, (token != kWorkerFlag) = true := by
    intro token htoken
    have hne : token ≠ kWorkerFlag := fun heq => h (heq ▸ htoken)
    simpa using hne
  rw [workerArguments, List.filter_eq_self.mpr hall]

theorem kLaunchFlags_distinct :
    kLaunchFlags.Pairwise fun entry other =>
      wide entry.flag ≠ wide other.flag := by
  simp only [kLaunchFlags, List.pairwise_cons, List.forall_mem_cons]
  decide

theorem launchArguments_eq {o : Options} (h : kWorkerFlag ∉ o.tokens) :
    launchArguments o =
      kWorkerFlag :: (o.tokens ++ kLaunchFlags.flatMap (missingFlag o)) := by
  have hworker : ∀ entry ∈ kLaunchFlags,
      wide entry.flag ≠ kWorkerFlag := by
    simp only [kLaunchFlags, List.forall_mem_cons]
    decide
  rw [launchArguments, foldl_appendFlag kLaunchFlags_distinct,
    workerArguments_eq h, List.cons_append]
  refine congrArg (kWorkerFlag :: ·) (congrArg (o.tokens ++ ·) ?_)
  refine List.flatMap_congr fun entry hentry => ?_
  rw [missingFlag, missing]
  simp [hworker entry hentry]

/-! ## Flags behind the tokens -/

section

variable {st : ParseState}

/-- The next argument is read as an option. -/
structure AtOption (st : ParseState) : Prop where
  awaiting : st.awaiting = none
  positionalOnly : st.positionalOnly = false

/-- A flag of the table in option position. -/
theorem AtOption.parseStep_boolFlag (h : AtOption st) {flag : String}
    {entry : BoolFlag} (htoken : toUtf8 (wide flag) = flag.toList)
    (hlooks : flag.toList ≠ ['-', '-'] ∧ looksLikeFlag flag.toList = true)
    (hstring : findFlag StringFlag.flag kStringFlags flag.toList = none)
    (hbool : findFlag BoolFlag.flag kBoolFlags flag.toList = some entry) :
    parseStep st (wide flag) =
      .ok { st with options := entry.set st.options } := by
  unfold parseStep parseFlag
  rw [htoken]
  dsimp only
  rw [h.awaiting]
  dsimp only
  rw [if_neg (by simp [h.positionalOnly]), if_neg hlooks.1,
    if_pos hlooks.2, hstring]
  dsimp only
  rw [hbool, ← h.awaiting]

/-- The field of a launch flag is set. -/
def LaunchFlag.raise (entry : LaunchFlag) (o : Options) : Options :=
  match findFlag BoolFlag.flag kBoolFlags entry.flag.toList with
  | some found => found.set o
  | none => o

theorem AtOption.parseStep_launchFlag (h : AtOption st) {entry : LaunchFlag}
    (hentry : entry ∈ kLaunchFlags) :
    parseStep st (wide entry.flag) =
      .ok { st with options := entry.raise st.options } := by
  have hspelled : ∀ entry ∈ kLaunchFlags,
      toUtf8 (wide entry.flag) = entry.flag.toList ∧
      entry.flag.toList ≠ ['-', '-'] ∧
      looksLikeFlag entry.flag.toList = true ∧
      (findFlag StringFlag.flag kStringFlags entry.flag.toList).isNone ∧
      (findFlag BoolFlag.flag kBoolFlags entry.flag.toList).isSome := by
    simp only [kLaunchFlags, List.forall_mem_cons]
    decide
  obtain ⟨htoken, hdashes, hlooks, hstring, hbool⟩ := hspelled entry hentry
  obtain ⟨found, hfound⟩ := Option.isSome_iff_exists.mp hbool
  rw [h.parseStep_boolFlag htoken ⟨hdashes, hlooks⟩
    (Option.isNone_iff_eq_none.mp hstring) hfound, LaunchFlag.raise, hfound]

/-- In option position the missing flags are set, one after the other. -/
theorem AtOption.readArguments_missing (h : AtOption st) (o : Options)
    {entries : List LaunchFlag} (hentries : ∀ entry ∈ entries,
      entry ∈ kLaunchFlags) :
    readArguments (entries.flatMap (missingFlag o)) st =
      .ok
        { st with
          options := entries.foldl
            (fun options entry =>
              if missing o entry then entry.raise options else options)
            st.options } := by
  induction entries generalizing st with
  | nil => rfl
  | cons entry entries ih =>
      obtain ⟨hentry, htail⟩ := List.forall_mem_cons.mp hentries
      rw [List.flatMap_cons, List.foldl_cons, missingFlag]
      cases missing o entry with
      | false => exact ih h htail
      | true =>
          rw [if_pos rfl, if_pos rfl, List.singleton_append,
            readArguments_cons (h.parseStep_launchFlag hentry)]
          exact ih ⟨h.awaiting, h.positionalOnly⟩ htail

def withOperands (arguments : List WString) (o : Options) : Options :=
  { o with
    positional := o.positional ++
      arguments.map fun argument => String.ofList (toUtf8 argument) }

theorem withOperands_cons (argument : WString) (arguments : List WString)
    (o : Options) :
    withOperands arguments (withOperands [argument] o) =
      withOperands (argument :: arguments) o := by
  simp [withOperands]

/-- Behind a bare `--` every argument is an operand. -/
theorem readArguments_positional {arguments : List WString}
    (hawaiting : st.awaiting = none) (hpositional : st.positionalOnly = true) :
    readArguments arguments st =
      .ok { st with options := withOperands arguments st.options } := by
  induction arguments generalizing st with
  | nil =>
      rw [withOperands, List.map_nil, List.append_nil]
      rfl
  | cons argument arguments ih =>
      have hstep : parseStep st argument =
          .ok { st with options := withOperands [argument] st.options } := by
        unfold parseStep ParseState.operand
        dsimp only
        rw [hawaiting]
        dsimp only
        rw [if_pos hpositional, if_neg (by simp [hpositional]), ← hawaiting]
        rfl
      have hrest := @ih { st with
        options := withOperands [argument] st.options } hawaiting hpositional
      rw [readArguments_cons hstep, hrest, withOperands_cons]

end

/-! ## Where the options end -/

/-- The flags that take the argument behind them. -/
def valueFlags : List (List Char) :=
  (kStringFlags.map StringFlag.flag ++ kCountFlags.map CountFlag.flag).map
    String.toList

/-- A bare `--` in option position; `awaited` says that the first argument is
the value of a flag before it. -/
def optionsEnd : Bool → List WString → Bool
  | _, [] => false
  | true, _ :: arguments => optionsEnd false arguments
  | false, argument :: arguments =>
      toUtf8 argument == ['-', '-'] ||
        optionsEnd (valueFlags.contains (toUtf8 argument)) arguments

theorem valueFlags_spelled {token : List Char} (h : token ∈ valueFlags) :
    '=' ∉ token ∧ looksLikeFlag token = true ∧
      (findFlag BoolFlag.flag kBoolFlags token).isNone ∧
      token ≠ "--worker".toList := by
  have hall : ∀ token ∈ valueFlags, '=' ∉ token ∧
      looksLikeFlag token = true ∧
      (findFlag BoolFlag.flag kBoolFlags token).isNone ∧
      token ≠ "--worker".toList := by
    decide
  exact hall token h

theorem isFlag_exact {token : List Char} {flag : String}
    (h : isFlag token flag = true) (hvalue : '=' ∉ token) :
    token = flag.toList := by
  rcases (Bool.or_eq_true _ _).mp h with hexact | hprefix
  · exact eq_of_beq hexact
  · have hequals : '=' ∈ flag.toList ++ ['='] := by simp
    exact absurd ((List.isPrefixOf_iff_prefix.mp hprefix).subset hequals)
      hvalue

theorem takeValue_awaits {st st' : ParseState} {entry : Awaiting}
    {token : List Char} (h : st.takeValue entry token = .ok st')
    (hflag : isFlag token entry.flag = true)
    (hlisted : entry.flag.toList ∈ valueFlags) :
    st'.positionalOnly = st.positionalOnly ∧
      st'.awaiting.isSome = valueFlags.contains token := by
  unfold ParseState.takeValue at h
  by_cases hequals : '=' ∈ token
  · have hvalue : equalsValue token = some (String.ofList
        ((token.dropWhile (· != '=')).drop 1)) := if_pos hequals
    have hnot : valueFlags.contains token = false := by
      rw [← Bool.not_eq_true, List.contains_iff_mem]
      exact fun hmem => (valueFlags_spelled hmem).1 hequals
    rw [hvalue] at h
    dsimp only [ParseState.store] at h
    rw [hnot]
    cases entry with
    | string entry =>
        cases h
        exact ⟨rfl, rfl⟩
    | count entry =>
        dsimp only at h
        split at h
        · cases h
        · cases h
          exact ⟨rfl, rfl⟩
  · have hvalue : equalsValue token = none := if_neg hequals
    rw [hvalue] at h
    cases h
    rw [isFlag_exact hflag hequals]
    exact ⟨rfl, (List.contains_iff_mem.mpr hlisted).symm⟩

theorem parseFlag_awaits {st st' : ParseState} {token : List Char}
    (hawaiting : st.awaiting = none) (h : parseFlag st token = .ok st') :
    st'.positionalOnly = st.positionalOnly ∧
      st'.awaiting.isSome = valueFlags.contains token := by
  unfold parseFlag at h
  cases hstring : findFlag StringFlag.flag kStringFlags token with
  | some entry =>
      rw [hstring] at h
      have hflag : isFlag token entry.flag = true := findFlag_isFlag hstring
      have hlisted : entry.flag.toList ∈ valueFlags :=
        List.mem_map_of_mem (List.mem_append_left _
          (List.mem_map_of_mem (findFlag_mem hstring)))
      exact takeValue_awaits h hflag hlisted
  | none =>
      rw [hstring] at h
      dsimp only at h
      split at h
      · rename_i entry hbool
        cases h
        refine ⟨rfl, ?_⟩
        rw [hawaiting, eq_comm, Option.isSome_none, ← Bool.not_eq_true,
          List.contains_iff_mem]
        intro hmem
        have hnone := (valueFlags_spelled hmem).2.2.1
        rw [hbool] at hnone
        cases hnone
      rename_i hbool
      split at h
      · rename_i hworker
        cases h
        refine ⟨rfl, ?_⟩
        rw [hawaiting, eq_comm, Option.isSome_none, ← Bool.not_eq_true,
          List.contains_iff_mem]
        exact fun hmem => (valueFlags_spelled hmem).2.2.2 hworker
      split at h
      · rename_i entry hcount
        have hflag : isFlag token entry.flag = true := findFlag_isFlag hcount
        have hlisted : entry.flag.toList ∈ valueFlags :=
          List.mem_map_of_mem (List.mem_append_right _
            (List.mem_map_of_mem (findFlag_mem hcount)))
        exact takeValue_awaits h hflag hlisted
      · cases h

theorem operand_awaits (st : ParseState) (token : List Char) :
    (st.operand token).positionalOnly = st.positionalOnly ∧
      (st.operand token).awaiting = st.awaiting := by
  unfold ParseState.operand
  dsimp only
  split
  · exact ⟨rfl, rfl⟩
  · exact ⟨rfl, rfl⟩

theorem parseStep_value {st st' : ParseState} {argument : WString}
    {entry : Awaiting} (hawaiting : st.awaiting = some entry)
    (h : parseStep st argument = .ok st') :
    st'.positionalOnly = st.positionalOnly ∧ st'.awaiting = none := by
  unfold parseStep at h
  dsimp only at h
  rw [hawaiting] at h
  dsimp only at h
  cases entry with
  | string entry =>
      cases h
      exact ⟨rfl, rfl⟩
  | count entry =>
      dsimp only [ParseState.store] at h
      split at h
      · cases h
      · cases h
        exact ⟨rfl, rfl⟩

theorem parseStep_option {st st' : ParseState} {argument : WString}
    (h : AtOption st) (hparse : parseStep st argument = .ok st') :
    if toUtf8 argument = ['-', '-'] then st'.positionalOnly = true
    else st'.positionalOnly = false ∧
      st'.awaiting.isSome = valueFlags.contains (toUtf8 argument) := by
  unfold parseStep at hparse
  dsimp only at hparse
  rw [h.awaiting] at hparse
  dsimp only at hparse
  rw [if_neg (by simp [h.positionalOnly])] at hparse
  split at hparse
  · rename_i hdashes
    cases hparse
    rw [if_pos hdashes]
  rename_i hdashes
  rw [if_neg hdashes, ← h.positionalOnly]
  split at hparse
  · exact parseFlag_awaits h.awaiting hparse
  · rename_i hlooks
    cases hparse
    obtain ⟨hpositional, hawaiting⟩ := operand_awaits st (toUtf8 argument)
    refine ⟨hpositional, ?_⟩
    rw [hawaiting, h.awaiting, eq_comm, Option.isSome_none,
      ← Bool.not_eq_true, List.contains_iff_mem]
    exact fun hmem => hlooks (valueFlags_spelled hmem).2.1

theorem parseStep_positional {st st' : ParseState} {argument : WString}
    (h : st.positionalOnly = true)
    (hparse : parseStep st argument = .ok st') :
    st'.positionalOnly = true := by
  cases hawaiting : st.awaiting with
  | some entry =>
      rw [(parseStep_value hawaiting hparse).1]
      exact h
  | none =>
      unfold parseStep at hparse
      dsimp only at hparse
      rw [hawaiting] at hparse
      dsimp only at hparse
      rw [if_pos h] at hparse
      cases hparse
      rw [(operand_awaits st _).1]
      exact h

theorem readArguments_keepsPositional {arguments : List WString}
    {st st' : ParseState} (h : st.positionalOnly = true)
    (hread : readArguments arguments st = .ok st') :
    st'.positionalOnly = true := by
  induction arguments generalizing st with
  | nil =>
      cases hread
      exact h
  | cons argument arguments ih =>
      obtain ⟨next, hstep, hrest⟩ := readArguments_ok_cons hread
      exact ih (parseStep_positional h hstep) hrest

/-- The loop is past a bare `--` at its end exactly when there is one in
option position. -/
theorem readArguments_positionalOnly {arguments : List WString}
    {st st' : ParseState} (h : st.positionalOnly = false)
    (hread : readArguments arguments st = .ok st') :
    st'.positionalOnly = optionsEnd st.awaiting.isSome arguments := by
  induction arguments generalizing st with
  | nil =>
      cases hread
      rw [optionsEnd]
      exact h
  | cons argument arguments ih =>
      obtain ⟨next, hstep, hrest⟩ := readArguments_ok_cons hread
      cases hawaiting : st.awaiting with
      | some entry =>
          obtain ⟨hkept, hnone⟩ := parseStep_value hawaiting hstep
          rw [Option.isSome_some, optionsEnd, ih (hkept.trans h) hrest, hnone]
          rfl
      | none =>
          have hoption := parseStep_option ⟨hawaiting, h⟩ hstep
          rw [Option.isSome_none, optionsEnd]
          by_cases hdashes : toUtf8 argument = ['-', '-']
          · rw [if_pos hdashes] at hoption
            rw [readArguments_keepsPositional hoption hrest,
              beq_iff_eq.mpr hdashes]
            rfl
          · rw [if_neg hdashes] at hoption
            rw [ih hoption.1 hrest, hoption.2, beq_false_of_ne hdashes,
              Bool.false_or]

/-! ## The request of the worker -/

/-- The combinations of options that the end of the parse accepts. -/
structure Accepted (o : Options) : Prop where
  provision : o.noProvision = true → o.forceProvision = false
  permission : o.noProvision = true → o.permission = ""
  hop : o.noHop = true → o.forceHop = false
  accepts : acceptsPermission o.permission = true

theorem checkOptions_ok_iff {o o' : Options} :
    checkOptions o = .ok o' ↔ o' = o ∧ Accepted o := by
  constructor
  · intro h
    unfold checkOptions at h
    split at h
    · cases h
    rename_i hprovision
    split at h
    · cases h
    rename_i hpermission
    split at h
    · cases h
    rename_i hhop
    split at h
    · cases h
    rename_i haccepts
    cases h
    exact ⟨rfl, by simpa using hprovision, by simpa using hpermission,
      by simpa using hhop, by simpa using haccepts⟩
  · rintro ⟨rfl, h⟩
    unfold checkOptions
    rw [if_neg (by simpa using h.provision),
      if_neg (by simpa using h.permission), if_neg (by simpa using h.hop),
      if_neg (by simpa using h.accepts)]

theorem parseOptions_ok {argv : List WString} {o : Options}
    (h : parseOptions argv = .ok o) :
    ∃ st, readArguments (argv.drop 1)
        { options := { tokens := argv.drop 1 } } = .ok st ∧
      st.awaiting = none ∧ st.options = o ∧ Accepted o := by
  unfold parseOptions at h
  dsimp only at h
  cases hread : readArguments (argv.drop 1)
      { options := { tokens := argv.drop 1 } } with
  | error error =>
      rw [hread] at h
      cases h
  | ok st =>
      rw [hread] at h
      change finishParse st = .ok o at h
      unfold finishParse at h
      cases hawaiting : st.awaiting with
      | some entry =>
          rw [hawaiting] at h
          cases h
      | none =>
          rw [hawaiting] at h
          obtain ⟨rfl, haccepted⟩ := checkOptions_ok_iff.mp h
          exact ⟨st, rfl, hawaiting, rfl, haccepted⟩

/-- The automatic `--no-provision` does not meet a flag that excludes it. -/
theorem evaluateTrustPlan_automatic {o : Options}
    {ctx : ProvisioningContext}
    (h : (evaluateTrustPlan o ctx).autoNoProvisionApplied = true) :
    o.forceProvision = false ∧ o.permission = "" := by
  rw [evaluateTrustPlan_auto] at h
  unfold provisionPlan at h
  split at h
  · cases h
  split at h
  · cases h
  · rename_i hexplicit
    simpa using hexplicit

theorem Accepted.effective {o : Options} (h : Accepted o)
    (ctx : ProvisioningContext) :
    Accepted (effectiveOptions o (evaluateTrustPlan o ctx)) := by
  have hgiven : (effectiveOptions o (evaluateTrustPlan o ctx)).noProvision =
      true → o.noProvision = true ∨
        (evaluateTrustPlan o ctx).autoNoProvisionApplied = true :=
    (Bool.or_eq_true _ _).mp
  refine ⟨fun hno => ?_, fun hno => ?_, h.hop, h.accepts⟩
  · rcases hgiven hno with hexplicit | hauto
    · exact h.provision hexplicit
    · exact (evaluateTrustPlan_automatic hauto).1
  · rcases hgiven hno with hexplicit | hauto
    · exact h.permission hexplicit
    · exact (evaluateTrustPlan_automatic hauto).2

theorem Accepted.asWorker {o : Options} (h : Accepted o) (launched : Bool)
    (tokens : List WString) : Accepted (asWorker launched tokens o) :=
  ⟨h.provision, h.permission, h.hop, h.accepts⟩

/-- The options that the worker reads, before they are checked. -/
def reread (ended : Bool) (eff o : Options) : Options :=
  let o := asWorker true (launchArguments eff) o
  if ended then withOperands (kLaunchFlags.flatMap (missingFlag eff)) o
  else
    kLaunchFlags.foldl (fun options entry =>
      if missing eff entry then entry.raise options else options) o

/-- What the worker parses, from what its parent parsed. -/
theorem parseOptions_launchArguments {argv : List WString} {o eff : Options}
    (image : WString) (hparse : parseOptions argv = .ok o)
    (htokens : eff.tokens = argv.drop 1)
    (hstrip : kWorkerFlag ∉ argv.drop 1) :
    parseOptions (image :: launchArguments eff) =
      checkOptions (reread (optionsEnd false (argv.drop 1)) eff o) := by
  obtain ⟨st, hread, hawaiting, rfl, -⟩ := parseOptions_ok hparse
  have hended : st.positionalOnly = optionsEnd false (argv.drop 1) :=
    readArguments_positionalOnly rfl hread
  rw [← htokens] at hstrip hread
  -- The worker reads its own flag, and from there on follows the parent.
  let launched := asWorker true (launchArguments eff) { tokens := eff.tokens }
  have hflag : parseStep { options := { tokens := launchArguments eff } }
      kWorkerFlag = .ok { options := launched } := by
    rfl
  have hstart : Follows true (launchArguments eff)
      { options := { tokens := eff.tokens } } { options := launched } :=
    ⟨rfl, rfl, rfl, nofun⟩
  obtain ⟨worker, hworker, hfollows⟩ := hstart.readArguments hread
  have hloop : readArguments (launchArguments eff)
      { options := { tokens := launchArguments eff } } =
      readArguments (kLaunchFlags.flatMap (missingFlag eff)) worker := by
    nth_rewrite 1 [launchArguments_eq hstrip]
    rw [readArguments_cons hflag, readArguments_append hworker]
  have hwaits : worker.awaiting = none := hfollows.awaiting.trans hawaiting
  rw [parseOptions]
  change (readArguments (launchArguments eff)
    { options := { tokens := launchArguments eff } } >>= finishParse) = _
  rw [hloop, reread, ← hended, ← hfollows.options]
  cases hpositional : st.positionalOnly with
  | true =>
      rw [readArguments_positional hwaits
        (hfollows.positionalOnly.trans hpositional)]
      change finishParse _ = _
      rw [finishParse, hwaits]
      rfl
  | false =>
      have hoption : AtOption worker :=
        ⟨hwaits, hfollows.positionalOnly.trans hpositional⟩
      rw [hoption.readArguments_missing eff fun _ hentry => hentry]
      change finishParse _ = _
      rw [finishParse, hwaits]
      rfl

theorem parseOptions_tokens {argv : List WString} {o : Options}
    (h : parseOptions argv = .ok o) : o.tokens = argv.drop 1 := by
  obtain ⟨st, hread, -, rfl, -⟩ := parseOptions_ok h
  -- The parse follows itself, with the tokens it started with.
  have hstart : Follows false (argv.drop 1)
      { options := { tokens := argv.drop 1 } }
      { options := { tokens := argv.drop 1 } } := ⟨rfl, rfl, rfl, nofun⟩
  obtain ⟨same, hsame, hfollows⟩ := hstart.readArguments hread
  rw [hread] at hsame
  cases hsame
  exact congrArg Options.tokens hfollows.options

/-- A flag in effect gets to the worker: where its text is among the tokens
the parent read it as that flag, and else it is appended where options are
still read. -/
def passedOn (o eff : Options) (entry : LaunchFlag) : Prop :=
  entry.given eff = true →
    if wide entry.flag ∈ o.tokens then entry.given o = true
    else optionsEnd false o.tokens = false

theorem foldl_raise (eff o : Options) :
    kLaunchFlags.foldl (fun options entry =>
      if missing eff entry then entry.raise options else options) o =
      { o with
        noProvision := o.noProvision || missing eff noProvisionFlag
        clearAttribute := o.clearAttribute || missing eff clearAttributeFlag
        noAutoProvision :=
          o.noAutoProvision || missing eff noAutoProvisionFlag
        forceProvision :=
          o.forceProvision || missing eff forceProvisionFlag } := by
  simp only [kLaunchFlags, List.foldl_cons, List.foldl_nil]
  cases missing eff noProvisionFlag <;>
    cases missing eff clearAttributeFlag <;>
    cases missing eff noAutoProvisionFlag <;>
    cases missing eff forceProvisionFlag <;>
    simp only [Bool.or_false, Bool.or_true] <;> rfl

/-- While options are read, a flag is set in the worker exactly as it is in
effect when it is passed on. -/
theorem raised_iff {o eff : Options} {entry : LaunchFlag}
    (htokens : eff.tokens = o.tokens)
    (hmono : entry.given o = true → entry.given eff = true)
    (hended : optionsEnd false o.tokens = false) :
    (entry.given o || missing eff entry) = entry.given eff ↔
      passedOn o eff entry := by
  unfold passedOn missing
  rw [htokens, hended]
  by_cases hheld : wide entry.flag ∈ o.tokens
  · rw [if_pos hheld, List.contains_iff_mem.mpr hheld, Bool.not_true,
      Bool.and_false, Bool.or_false]
    exact ⟨fun heq hgiven => heq.trans hgiven,
      fun h => Bool.eq_iff_iff.mpr ⟨hmono, h⟩⟩
  · have hcontains : o.tokens.contains (wide entry.flag) = false := by
      simpa using hheld
    rw [if_neg hheld, hcontains, Bool.not_false, Bool.and_true]
    refine ⟨fun _ _ => rfl, fun _ => Bool.eq_iff_iff.mpr ?_⟩
    rw [Bool.or_eq_true]
    exact ⟨fun h => h.elim hmono id, Or.inr⟩

/-- Behind a bare `--` no flag may be missing. -/
theorem notMissing_iff {o eff : Options} {entry : LaunchFlag}
    (htokens : eff.tokens = o.tokens)
    (hmono : entry.given o = true → entry.given eff = true)
    (hended : optionsEnd false o.tokens = true) :
    (missing eff entry = false ∧ entry.given o = entry.given eff) ↔
      passedOn o eff entry := by
  unfold passedOn missing
  rw [htokens, hended]
  by_cases hheld : wide entry.flag ∈ o.tokens
  · rw [if_pos hheld, List.contains_iff_mem.mpr hheld, Bool.not_true,
      Bool.and_false]
    exact ⟨fun heq hgiven => heq.2.trans hgiven,
      fun h => ⟨rfl, Bool.eq_iff_iff.mpr ⟨hmono, h⟩⟩⟩
  · have hcontains : o.tokens.contains (wide entry.flag) = false := by
      simpa using hheld
    rw [if_neg hheld, hcontains, Bool.not_false, Bool.and_true]
    constructor
    · rintro ⟨hnot, -⟩ hgiven
      rw [hnot] at hgiven
      cases hgiven
    · intro h
      have hnot : entry.given eff = false := by
        cases hgiven : entry.given eff with
        | false => rfl
        | true => cases h hgiven
      refine ⟨hnot, ?_⟩
      rw [hnot]
      cases hgiven : entry.given o with
      | false => rfl
      | true =>
          rw [hmono hgiven] at hnot
          cases hnot

theorem effectiveOptions_given {o : Options} {plan : TrustPlan}
    {entry : LaunchFlag} (hentry : entry ∈ kLaunchFlags)
    (h : entry.given o = true) :
    entry.given (effectiveOptions o plan) = true := by
  have hall : ∀ entry ∈ kLaunchFlags, entry.given o = true →
      entry.given (effectiveOptions o plan) = true := by
    simp [kLaunchFlags, noProvisionFlag, clearAttributeFlag,
      noAutoProvisionFlag, forceProvisionFlag, effectiveOptions]
    grind
  exact hall entry hentry h

/-- The worker reads the effective options exactly when every flag in effect
is passed on. -/
theorem reread_iff (o : Options) (plan : TrustPlan) :
    let eff := effectiveOptions o plan
    reread (optionsEnd false o.tokens) eff o =
        asWorker true (launchArguments eff) eff ↔
      ∀ entry ∈ kLaunchFlags, passedOn o eff entry := by
  intro eff
  have htokens : eff.tokens = o.tokens := rfl
  have hmono : ∀ entry ∈ kLaunchFlags,
      entry.given o = true → entry.given eff = true :=
    fun entry hentry => effectiveOptions_given hentry
  unfold reread
  dsimp only
  cases hended : optionsEnd false o.tokens with
  | false =>
      rw [if_neg Bool.false_ne_true, foldl_raise]
      have hiff := fun entry hentry =>
        raised_iff htokens (hmono entry hentry) hended
      constructor
      · intro h entry hentry
        have hgiven := congrArg entry.given h
        refine (hiff entry hentry).mp ?_
        simp only [kLaunchFlags, List.mem_cons, List.not_mem_nil,
          or_false] at hentry
        rcases hentry with rfl | rfl | rfl | rfl
        · exact hgiven
        · exact hgiven
        · exact hgiven
        · exact hgiven
      · intro h
        have hset := fun entry hentry =>
          (hiff entry hentry).mpr (h entry hentry)
        have hno : (o.noProvision || missing eff noProvisionFlag) =
            eff.noProvision := hset noProvisionFlag (by simp [kLaunchFlags])
        have hclear : (o.clearAttribute || missing eff clearAttributeFlag) =
            eff.clearAttribute :=
          hset clearAttributeFlag (by simp [kLaunchFlags])
        have hauto : (o.noAutoProvision || missing eff noAutoProvisionFlag) =
            eff.noAutoProvision :=
          hset noAutoProvisionFlag (by simp [kLaunchFlags])
        have hforce : (o.forceProvision || missing eff forceProvisionFlag) =
            eff.forceProvision :=
          hset forceProvisionFlag (by simp [kLaunchFlags])
        dsimp only [asWorker]
        rw [hno, hclear, hauto, hforce]
        rfl
  | true =>
      rw [if_pos rfl]
      have hiff := fun entry hentry =>
        notMissing_iff htokens (hmono entry hentry) hended
      constructor
      · intro h
        have hpositional := congrArg Options.positional h
        have hnone : kLaunchFlags.flatMap (missingFlag eff) = [] := by
          simpa [withOperands, asWorker, eff, effectiveOptions]
            using hpositional
        intro entry hentry
        refine (hiff entry hentry).mp ⟨?_, ?_⟩
        · have hflag := List.flatMap_eq_nil_iff.mp hnone entry hentry
          unfold missingFlag at hflag
          split at hflag
          · cases hflag
          · rename_i hmissing
            simpa using hmissing
        · have hgiven := congrArg entry.given h
          simp only [kLaunchFlags, List.mem_cons, List.not_mem_nil,
            or_false] at hentry
          rcases hentry with rfl | rfl | rfl | rfl
          · exact hgiven
          · exact hgiven
          · exact hgiven
          · exact hgiven
      · intro h
        have hset := fun entry hentry =>
          (hiff entry hentry).mpr (h entry hentry)
        have hnone : kLaunchFlags.flatMap (missingFlag eff) = [] := by
          refine List.flatMap_eq_nil_iff.mpr fun entry hentry => ?_
          rw [missingFlag, (hset entry hentry).1]
          rfl
        have hno : o.noProvision = eff.noProvision :=
          (hset noProvisionFlag (by simp [kLaunchFlags])).2
        have hclear : o.clearAttribute = eff.clearAttribute :=
          (hset clearAttributeFlag (by simp [kLaunchFlags])).2
        rw [hnone, withOperands, List.map_nil, List.append_nil]
        dsimp only [asWorker]
        rw [hno, hclear]
        rfl

/-- The worker reads the request of its parent: command, operands, values
and flags are those of the effective options.  No argument of the parent may
be the text `--worker`, which is stripped wherever it stands; then the two
requests agree exactly when every flag in effect is passed on. -/
theorem launchArguments_reentry_iff {argv : List WString} {o : Options}
    (image : WString) (ctx : ProvisioningContext)
    (hparse : parseOptions argv = .ok o) (hstrip : kWorkerFlag ∉ o.tokens) :
    let eff := effectiveOptions o (evaluateTrustPlan o ctx)
    parseOptions (image :: launchArguments eff) =
        .ok { eff with worker := true, tokens := launchArguments eff } ↔
      ∀ entry ∈ kLaunchFlags, passedOn o eff entry := by
  intro eff
  have htokens := parseOptions_tokens hparse
  have hworker : { eff with worker := true, tokens := launchArguments eff } =
      asWorker true (launchArguments eff) eff := by
    rw [asWorker, Bool.or_true]
  have haccepted : Accepted (asWorker true (launchArguments eff) eff) := by
    obtain ⟨st, -, -, -, haccepted⟩ := parseOptions_ok hparse
    exact (haccepted.effective ctx).asWorker true (launchArguments eff)
  have hread : parseOptions (image :: launchArguments eff) =
      checkOptions (reread (optionsEnd false o.tokens) eff o) := by
    rw [htokens] at hstrip ⊢
    exact parseOptions_launchArguments image hparse htokens hstrip
  rw [hread, hworker, checkOptions_ok_iff]
  refine Iff.trans ?_ (reread_iff o (evaluateTrustPlan o ctx))
  constructor
  · intro h
    exact h.1.symm
  · intro h
    rw [h]
    exact ⟨rfl, haccepted⟩

/-- A plain request: the automatic `--no-provision` is appended. -/
theorem launchArguments_reentry_connect :
    let o : Options :=
      { command := "connect", verbose := true
        tokens := [wide "connect", wide "-v"] }
    let eff := effectiveOptions o
      (evaluateTrustPlan o { probeOk := true, testSigning := true })
    parseOptions [wide "esptool", wide "connect", wide "-v"] = .ok o ∧
      eff.noProvision = true ∧
      parseOptions (wide "esptool" :: launchArguments eff) =
        .ok { eff with worker := true, tokens := launchArguments eff } := by
  intro o eff
  have hparse : parseOptions [wide "esptool", wide "connect", wide "-v"] =
      .ok o := by
    rfl
  refine ⟨hparse, by decide, ?_⟩
  refine (launchArguments_reentry_iff (wide "esptool") _ hparse
    (by decide)).mpr ?_
  unfold passedOn
  simp only [kLaunchFlags, List.forall_mem_cons]
  decide

/-- Behind a bare `--` the appended flags are operands of the worker: it is
not told to leave the token alone. -/
theorem launchArguments_operands :
    let o : Options :=
      { command := "connect", tokens := [wide "connect", wide "--"] }
    let ctx : ProvisioningContext :=
      { probeOk := true, testSigning := true, attributePresent := true
        attributePermission := kWespPermissionRestricted }
    let eff := effectiveOptions o (evaluateTrustPlan o ctx)
    parseOptions [wide "esptool", wide "connect", wide "--"] = .ok o ∧
      (evaluateTrustPlan o ctx).childRequired = true ∧
      eff.noProvision = true ∧ eff.clearAttribute = true ∧
      parseOptions (wide "esptool" :: launchArguments eff) =
        .ok
          { command := "connect"
            positional := ["--no-provision", "--clear-attribute"]
            worker := true, tokens := launchArguments eff } ∧
      parseOptions (wide "esptool" :: launchArguments eff) ≠
        .ok { eff with worker := true, tokens := launchArguments eff } := by
  intro o ctx eff
  have hworker : parseOptions (wide "esptool" :: launchArguments eff) =
      .ok
        { command := "connect"
          positional := ["--no-provision", "--clear-attribute"]
          worker := true, tokens := launchArguments eff } := by
    rfl
  refine ⟨rfl, by decide, by decide +kernel, by decide +kernel,
    hworker, ?_⟩
  rw [hworker]
  intro h
  have hpositional := congrArg Options.positional (Except.ok.inj h)
  cases hpositional

end Esptool.Process
