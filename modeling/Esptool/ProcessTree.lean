import Esptool.CommandBooks
import Esptool.DispatchRuns
import Esptool.ExitCodes
import Esptool.IsolatedSweep
import Esptool.OptionSpellings

/-!
# The processes of the tool

The tool starts its own image in two places: the hop to a worker, and the
isolated sweep.  Below, a child is what the C runtime of the new process makes
of the command line it is given.  A child whose command line parses reads
itself as a worker, a worker starts no worker, and the children of a sweep
start nothing.
-/

namespace Esptool.Process

open Model Esp Cli Text Interaction

/-! ## The path that a process was given -/

def NulFree (value : WString) : Prop := 0 ∉ value

def NulFreeText (value : String) : Prop := Char.ofNat 0 ∉ value.toList

theorem toUtf16_nulFree {value : String} (h : NulFreeText value) :
    NulFree (toUtf16 value.toList) :=
  fun hmem => h (nul_mem_toUtf16 hmem)

/-- What the parse keeps to, as long as no argument has a NUL in it. -/
structure PathKept (st : ParseState) : Prop where
  path : NulFreeText st.options.dllPath
  listed : ∀ entry ∈ st.awaiting, Awaiting.listed entry

theorem StringFlag.set_dllPath {entry : StringFlag}
    (h : entry ∈ kStringFlags) (value : String) (o : Options) :
    (entry.set value o).dllPath = value ∨
      (entry.set value o).dllPath = o.dllPath := by
  have hall : ∀ entry ∈ kStringFlags, ∀ value o,
      (entry.set value o).dllPath = value ∨
        (entry.set value o).dllPath = o.dllPath := by
    simp [kStringFlags]
  exact hall entry h value o

theorem BoolFlag.set_dllPath {entry : BoolFlag} (h : entry ∈ kBoolFlags)
    (o : Options) : (entry.set o).dllPath = o.dllPath := by
  have hall : ∀ entry ∈ kBoolFlags, ∀ o,
      (entry.set o).dllPath = o.dllPath := by
    simp [kBoolFlags]
  exact hall entry h o

theorem CountFlag.set_dllPath {entry : CountFlag} (h : entry ∈ kCountFlags)
    (count : ℕ) (o : Options) : (entry.set count o).dllPath = o.dllPath := by
  have hall : ∀ entry ∈ kCountFlags, ∀ count o,
      (entry.set count o).dllPath = o.dllPath := by
    simp [kCountFlags]
  exact hall entry h count o

section

variable {st st' : ParseState}

theorem PathKept.store (h : PathKept st) {entry : Awaiting}
    (hentry : Awaiting.listed entry) {value : String}
    (hvalue : NulFreeText value) (hstore : st.store entry value = .ok st') :
    PathKept st' := by
  cases entry with
  | string entry =>
      cases hstore
      refine ⟨?_, nofun⟩
      rcases StringFlag.set_dllPath hentry value st.options with hset | hset
      · rw [NulFreeText, hset]
        exact hvalue
      · rw [NulFreeText, hset]
        exact h.path
  | count entry =>
      unfold ParseState.store at hstore
      dsimp only at hstore
      split at hstore
      · cases hstore
      · cases hstore
        refine ⟨?_, nofun⟩
        rw [NulFreeText, CountFlag.set_dllPath hentry]
        exact h.path

theorem PathKept.takeValue (h : PathKept st) {entry : Awaiting}
    (hentry : Awaiting.listed entry) {token : List Char}
    (htoken : Char.ofNat 0 ∉ token)
    (htake : st.takeValue entry token = .ok st') : PathKept st' := by
  unfold ParseState.takeValue at htake
  split at htake
  · rename_i value hequals
    refine h.store hentry ?_ htake
    unfold equalsValue at hequals
    split at hequals
    · rw [← Option.some.inj hequals, NulFreeText, String.toList_ofList]
      intro hmem
      exact htoken ((List.dropWhile_suffix _).subset
        (List.mem_of_mem_drop hmem))
    · cases hequals
  · cases htake
    refine ⟨h.path, fun other hother => ?_⟩
    rw [← Option.some.inj hother]
    exact hentry

theorem PathKept.operand (h : PathKept st) (token : List Char) :
    PathKept (st.operand token) := by
  unfold ParseState.operand
  dsimp only
  split
  · exact ⟨h.path, h.listed⟩
  · exact ⟨h.path, h.listed⟩

theorem PathKept.parseFlag (h : PathKept st) {token : List Char}
    (htoken : Char.ofNat 0 ∉ token)
    (hparse : Cli.parseFlag st token = .ok st') : PathKept st' := by
  unfold Cli.parseFlag at hparse
  split at hparse
  · rename_i entry hfound
    have hlisted : Awaiting.listed (.string entry) := findFlag_mem hfound
    exact h.takeValue hlisted htoken hparse
  split at hparse
  · rename_i entry hfound
    cases hparse
    refine ⟨?_, h.listed⟩
    rw [NulFreeText, BoolFlag.set_dllPath (findFlag_mem hfound)]
    exact h.path
  split at hparse
  · cases hparse
    exact ⟨h.path, h.listed⟩
  split at hparse
  · rename_i entry hfound
    have hlisted : Awaiting.listed (.count entry) := findFlag_mem hfound
    exact h.takeValue hlisted htoken hparse
  · cases hparse

theorem PathKept.parseStep (h : PathKept st) {argument : WString}
    (hargument : NulFree argument)
    (hparse : Cli.parseStep st argument = .ok st') : PathKept st' := by
  have htoken : Char.ofNat 0 ∉ toUtf8 argument :=
    fun hmem => hargument (nul_mem_toUtf8 hmem)
  unfold Cli.parseStep at hparse
  dsimp only at hparse
  split at hparse
  · rename_i entry hawaiting
    refine h.store (h.listed entry hawaiting) ?_ hparse
    rw [NulFreeText, String.toList_ofList]
    exact htoken
  split at hparse
  · cases hparse
    exact h.operand _
  split at hparse
  · cases hparse
    exact ⟨h.path, h.listed⟩
  split at hparse
  · exact h.parseFlag htoken hparse
  · cases hparse
    exact h.operand _

theorem PathKept.readArguments (h : PathKept st) {arguments : List WString}
    (harguments : ∀ argument ∈ arguments, NulFree argument)
    (hread : Cli.readArguments arguments st = .ok st') : PathKept st' := by
  induction arguments generalizing st with
  | nil =>
      cases hread
      exact h
  | cons argument arguments ih =>
      obtain ⟨next, hstep, hrest⟩ := readArguments_ok_cons hread
      rw [List.forall_mem_cons] at harguments
      exact ih (h.parseStep harguments.1 hstep) harguments.2 hrest

end

theorem parseOptions_dllPath {argv : List WString} {o : Options}
    (hargv : ∀ argument ∈ argv, NulFree argument)
    (h : parseOptions argv = .ok o) : NulFreeText o.dllPath := by
  obtain ⟨st, hread, -, rfl, -⟩ := parseOptions_ok h
  have hstart : PathKept { options := { tokens := argv.drop 1 } } :=
    ⟨by simp [NulFreeText], nofun⟩
  exact (hstart.readArguments
    (fun argument hmem => hargv argument (List.mem_of_mem_drop hmem))
    hread).path

/-! ## Children -/

/-- The command line of a process that was created. -/
def ProcessCall.commandLine? : ProcessCall → Option WString
  | .createProcess _ line _ _ true => some line
  | _ => none

/-- The arguments that the processes started by a process find. -/
def children {Token : Type} (d : Dispatched Token) : List (List WString) :=
  (d.attempts.flatten.filterMap ProcessCall.commandLine?).map crtArguments

/-- A path of an image: no quote, and it does not end in a separator. -/
structure PlainImage (image : WString) : Prop where
  nul : NulFree image
  quote : kQuote ∉ image
  last : image.getLast? ≠ some kBackslash

/-- The images are paths that a file can have. -/
structure PlainHost {Token : Type} (host : ToolHost Token) : Prop where
  linker : NulFree host.linker.currentImagePath
  first : PlainImage host.first.currentImagePath
  second : PlainImage host.second.currentImagePath
  sweep : ∀ name, PlainImage (host.client.systems name).currentImagePath

section

variable {sys : System} {arguments : List WString} {options : LaunchOptions}

theorem awaitProcess_commandLine {call : ProcessCall}
    (h : call ∈ (awaitProcess sys options).2) : call.commandLine? = none := by
  unfold awaitProcess at h
  dsimp only at h
  split at h
  · split at h <;> simp at h <;> rcases h with rfl | rfl | rfl <;> rfl
  split at h
  · cases List.mem_singleton.mp h
    rfl
  · split at h <;> simp at h <;> rcases h with rfl | rfl <;> rfl

theorem runSameImage_commandLine {call : ProcessCall} {line : WString}
    (hcall : call ∈ (runSameImage sys arguments options).2)
    (hline : call.commandLine? = some line) :
    line = buildCommandLine sys.currentImagePath arguments := by
  rcases runSameImage_awaits sys arguments options with
    ⟨-, -, hcalls⟩ | ⟨-, inherited, flags, hattempt⟩
  · obtain ⟨_, _, _, _, rfl⟩ := hcalls call hcall
    cases hline
  · rw [hattempt] at hcall
    rcases List.mem_cons.mp hcall with rfl | hcall
    · exact (Option.some.inj hline).symm
    · rw [awaitProcess_commandLine hcall] at hline
      cases hline

/-- A child finds the arguments that it was started with. -/
theorem runSameImage_child (himage : PlainImage sys.currentImagePath)
    (harguments : ∀ argument ∈ arguments, NulFree argument)
    {call : ProcessCall} {line : WString}
    (hcall : call ∈ (runSameImage sys arguments options).2)
    (hline : call.commandLine? = some line) :
    crtArguments line = sys.currentImagePath :: arguments := by
  rw [runSameImage_commandLine hcall hline]
  exact crtArguments_buildCommandLine himage.nul himage.quote himage.last
    harguments

end

/-! ## The worker -/

theorem foldl_appendFlag_head (o : Options) (entries : List LaunchFlag)
    (rest : List WString)
    (hrest : ∀ argument ∈ rest, argument ∈ o.tokens ∨
      ∃ entry ∈ kLaunchFlags, argument = wide entry.flag)
    (hentries : ∀ entry ∈ entries, entry ∈ kLaunchFlags) :
    ∃ rest', entries.foldl (fun arguments entry =>
        appendFlag (entry.given o) (wide entry.flag) arguments)
        (kWorkerFlag :: rest) = kWorkerFlag :: rest' ∧
      ∀ argument ∈ rest', argument ∈ o.tokens ∨
        ∃ entry ∈ kLaunchFlags, argument = wide entry.flag := by
  induction entries generalizing rest with
  | nil => exact ⟨rest, rfl, hrest⟩
  | cons entry entries ih =>
      rw [List.forall_mem_cons] at hentries
      rw [List.foldl_cons, appendFlag]
      split
      · refine ih (rest ++ [wide entry.flag]) ?_ hentries.2
        intro argument hmem
        rcases List.mem_append.mp hmem with hmem | hmem
        · exact hrest argument hmem
        · exact .inr ⟨entry, hentries.1, List.mem_singleton.mp hmem⟩
      · exact ih rest hrest hentries.2

/-- The worker's flag comes first, and every other argument is one of the
parent's or one of the flags that are passed on. -/
theorem launchArguments_head (o : Options) :
    ∃ rest, launchArguments o = kWorkerFlag :: rest ∧
      ∀ argument ∈ rest, argument ∈ o.tokens ∨
        ∃ entry ∈ kLaunchFlags, argument = wide entry.flag := by
  refine foldl_appendFlag_head o kLaunchFlags _ (fun argument hmem => ?_)
    fun entry hentry => hentry
  exact .inl (List.mem_of_mem_filter hmem)

/-- Whoever is started with the flag in front reads itself as a worker. -/
theorem parseOptions_worker {image : WString} {rest : List WString}
    {o : Options} (h : parseOptions (image :: kWorkerFlag :: rest) = .ok o) :
    o.worker = true := by
  obtain ⟨st, hread, -, rfl, -⟩ := parseOptions_ok h
  rw [List.drop_succ_cons, List.drop_zero] at hread
  let plain : ParseState := { options := { tokens := kWorkerFlag :: rest } }
  let launched : ParseState :=
    { options := asWorker true (kWorkerFlag :: rest) plain.options }
  have hflag : Cli.parseStep plain kWorkerFlag = .ok launched := by
    rfl
  rw [readArguments_cons hflag] at hread
  have hstart : Follows true (kWorkerFlag :: rest) plain launched :=
    ⟨rfl, rfl, rfl, nofun⟩
  cases hplain : Cli.readArguments rest plain with
  | error error =>
      rw [hstart.readArguments_error hplain] at hread
      cases hread
  | ok st' =>
      obtain ⟨worker, hworker, hfollows⟩ := hstart.readArguments hplain
      rw [hworker] at hread
      cases hread
      rw [hfollows.options]
      exact Bool.or_true _

/-! ## The child of the sweep -/

/-- A name that is an operand on any command line. -/
structure OperandName (name : String) : Prop where
  ascii : ∀ c ∈ name.toList, 0 < c.toNat ∧ c.toNat < 0x80
  operand : looksLikeFlag name.toList = false

instance (name : String) : Decidable (OperandName name) :=
  decidable_of_iff
    ((name.toList.all fun c => decide (0 < c.toNat ∧ c.toNat < 0x80)) = true ∧
      looksLikeFlag name.toList = false)
    ⟨fun h => ⟨by simpa using h.1, h.2⟩, fun h => ⟨by simpa using h.1, h.2⟩⟩

theorem buildCatalog_operandName :
    ∀ descriptor ∈ buildCatalog, OperandName descriptor.name := by
  decide +kernel

theorem Linked.operandName {api : EspApi} (h : api.Linked) :
    ∀ descriptor ∈ api.exports, OperandName descriptor.name := by
  intro descriptor hmem
  have hlisted : descriptor.name ∈ buildCatalog.map ExportDescriptor.name := by
    rw [← h.names]
    exact List.mem_map_of_mem hmem
  obtain ⟨other, hother, hname⟩ := List.mem_map.mp hlisted
  rw [← hname]
  exact buildCatalog_operandName other hother

section

variable {name : String}

theorem OperandName.toUtf8 (h : OperandName name) :
    Text.toUtf8 (wide name) = name.toList := by
  have hread := toUtf8_wide_append (fun c hc => (h.ascii c hc).2) []
  rw [List.append_nil] at hread
  rw [hread]
  exact List.append_nil _

theorem OperandName.nulFree (h : OperandName name) : NulFree (wide name) := by
  intro hmem
  obtain ⟨c, hc, hunit⟩ := List.mem_map.mp hmem
  have hrange := h.ascii c hc
  have hvalue := congrArg UInt16.toNat hunit
  rw [UInt16.toNat_ofNat', Nat.mod_eq_of_lt (by omega)] at hvalue
  have : (0 : UInt16).toNat = 0 := rfl
  omega

theorem callOneArguments_nulFree (h : OperandName name) {path : WString}
    (hpath : NulFree path) :
    ∀ argument ∈ callOneArguments path name, NulFree argument := by
  have hworker : NulFree kWorkerFlag := by
    rw [NulFree]
    decide
  have hdll : NulFree (wide "--dll") := by
    rw [NulFree]
    decide
  have hcommand : NulFree (wide "call-one") := by
    rw [NulFree]
    decide
  intro argument hmem
  unfold callOneArguments at hmem
  rcases List.mem_append.mp hmem with hmem | hmem
  · rcases List.mem_append.mp hmem with hmem | hmem
    · rw [List.mem_singleton.mp hmem]
      exact hworker
    split at hmem
    · rcases List.mem_cons.mp hmem with rfl | hmem
      · exact hdll
      · rw [List.mem_singleton.mp hmem]
        exact hpath
    · cases hmem
  · rcases List.mem_cons.mp hmem with rfl | hmem
    · exact hcommand
    · rw [List.mem_singleton.mp hmem]
      exact h.nulFree

/-- What the child of the sweep reads off its command line. -/
def callOneOptions (path : WString) (name : String) : Options where
  worker := true
  dllPath := String.ofList (Text.toUtf8 path)
  command := "call-one"
  positional := [name]
  tokens := callOneArguments path name

theorem parseOptions_callOne (h : OperandName name) (image : WString)
    {path : WString} (hpath : path ≠ []) :
    parseOptions (image :: callOneArguments path name) =
      .ok (callOneOptions path name) := by
  have harguments : callOneArguments path name =
      [kWorkerFlag, wide "--dll", path, wide "call-one", wide name] := by
    rw [callOneArguments, if_pos hpath]
    rfl
  let st : ParseState :=
    { options := { tokens := callOneArguments path name, worker := true } }
  have hflag : Cli.parseStep
      { options := { tokens := callOneArguments path name } } kWorkerFlag =
        .ok st := by
    rfl
  have hdll : Cli.parseStep st (wide "--dll") = .ok { st with
      awaiting := some (.string
        ⟨"--dll", fun value o => { o with dllPath := value }⟩) } := by
    rfl
  let given : ParseState :=
    { options := { st.options with
        dllPath := String.ofList (Text.toUtf8 path) } }
  have hgiven : Cli.parseStep { st with
      awaiting := some (.string
        ⟨"--dll", fun value o => { o with dllPath := value }⟩) } path =
      .ok given := by
    rfl
  let commanded : ParseState :=
    { options := { given.options with command := "call-one" } }
  have hcommand : Cli.parseStep given (wide "call-one") = .ok commanded := by
    rfl
  have hname : Cli.parseStep commanded (wide name) =
      .ok { options := callOneOptions path name } := by
    have hdashes : ¬name.toList = ['-', '-'] := by
      intro heq
      have hoperand := h.operand
      rw [heq] at hoperand
      cases hoperand
    have hflag : ¬looksLikeFlag name.toList = true :=
      Bool.eq_false_iff.mp h.operand
    unfold Cli.parseStep
    dsimp only [commanded]
    rw [h.toUtf8, if_neg Bool.false_ne_true, if_neg hdashes, if_neg hflag,
      ParseState.operand, String.ofList_toList]
    rfl
  have hloop : Cli.readArguments
      [kWorkerFlag, wide "--dll", path, wide "call-one", wide name]
      { options := { tokens := callOneArguments path name } } =
        .ok { options := callOneOptions path name } := by
    rw [readArguments_cons hflag, readArguments_cons hdll,
      readArguments_cons hgiven, readArguments_cons hcommand,
      readArguments_cons hname]
    rfl
  rw [← harguments] at hloop
  unfold parseOptions
  change (Cli.readArguments (callOneArguments path name)
    { options := { tokens := callOneArguments path name } } >>=
      finishParse) = _
  rw [hloop]
  rfl

end

/-! ## Who starts what -/

/-- A process with the arguments `argv` may start one with `child`. -/
def Starts (argv child : List WString) : Prop :=
  (∀ argument ∈ argv, NulFree argument) ∧
    ∃ (Token : Type) (host : ToolHost Token) (token : Token),
      PlainHost host ∧ child ∈ children (wmain host argv token)

/-- The arguments of a child of the sweep. -/
def IsCallOne (argv : List WString) : Prop :=
  ∃ image path name, argv = image :: callOneArguments path name ∧
    path ≠ [] ∧ OperandName name

section

variable {Token : Type} {host : ToolHost Token} {o : Options} {token : Token}
variable {child : List WString}

theorem mem_children {d : Dispatched Token} (h : child ∈ children d) :
    ∃ call ∈ d.attempts.flatten, ∃ line, call.commandLine? = some line ∧
      child = crtArguments line := by
  obtain ⟨line, hmem, rfl⟩ := List.mem_map.mp h
  obtain ⟨call, hcall, hline⟩ := List.mem_filterMap.mp hmem
  exact ⟨call, hcall, line, hline, rfl⟩

theorem not_mem_children {d : Dispatched Token} (h : d.attempts = []) :
    child ∉ children d := by
  rw [children, h]
  exact nofun

/-- A hop starts the own image with the flag of a worker in front. -/
theorem hopToWorker_child (hplain : PlainHost host)
    (htokens : ∀ argument ∈ o.tokens, NulFree argument)
    (h : child ∈ children (hopToWorker host o token)) :
    ∃ image rest, child = image :: kWorkerFlag :: rest := by
  obtain ⟨call, hcall, line, hline, rfl⟩ := mem_children h
  obtain ⟨rest, harguments, hrest⟩ := launchArguments_head o
  have hnul : ∀ argument ∈ launchArguments o, NulFree argument := by
    have hflags : ∀ entry ∈ kLaunchFlags, NulFree (wide entry.flag) := by
      unfold NulFree
      decide
    have hworker : NulFree kWorkerFlag := by
      unfold NulFree
      decide
    intro argument hmem
    rw [harguments] at hmem
    rcases List.mem_cons.mp hmem with rfl | hmem
    · exact hworker
    · rcases hrest argument hmem with hgiven | ⟨entry, hentry, rfl⟩
      · exact htokens argument hgiven
      · exact hflags entry hentry
  have hattempts : (hopToWorker host o token).attempts = [] ∨
      (hopToWorker host o token).attempts =
        (launchWorker host.first host.second o).attempts := by
    unfold hopToWorker
    dsimp only
    split
    · exact .inl rfl
    · split <;> exact .inr rfl
  have hlaunched : call ∈
      (launchWorker host.first host.second o).attempts.flatten := by
    rcases hattempts with hnone | heq
    · rw [hnone] at hcall
      cases hcall
    · rwa [heq] at hcall
  unfold launchWorker at hlaunched
  split at hlaunched
  · cases hlaunched
  dsimp only at hlaunched
  split at hlaunched
  · rw [List.flatten_singleton] at hlaunched
    rw [runSameImage_child hplain.first hnul hlaunched hline, harguments]
    exact ⟨_, _, rfl⟩
  · rw [List.flatten_cons, List.flatten_singleton] at hlaunched
    rcases List.mem_append.mp hlaunched with hfirst | hsecond
    · rw [runSameImage_child hplain.first hnul hfirst hline, harguments]
      exact ⟨_, _, rfl⟩
    · rw [runSameImage_child hplain.second hnul hsecond hline, harguments]
      exact ⟨_, _, rfl⟩

end

theorem load_path {linker : Linker} {path : WString} {api : EspApi}
    (htable : api.exports.map EspApi.entry = buildCatalog.map EspApi.entry)
    (h : (api.load linker path).1 = true) :
    (api.load linker path).2.loadedPath ∈ candidates linker path := by
  have hends := EspApi.load_ends linker path htable
  generalize api.load linker path = result at hends h ⊢
  cases hends with
  | notLoaded hloading hmessage => cases h
  | useless hloading hresolves hmessage => cases h
  | linked hloading hresolves hused => exact hloading.mem

theorem candidates_nulFree {linker : Linker} {explicitPath path : WString}
    (himage : NulFree linker.currentImagePath) (hpath : NulFree explicitPath)
    (h : path ∈ candidates linker explicitPath) : NulFree path := by
  have hdll : NulFree kEspClientDll := by
    unfold NulFree
    decide
  have hdirectory : NulFree (executableDirectory linker) := by
    intro hmem
    rw [executableDirectory, List.mem_reverse] at hmem
    exact himage (List.mem_reverse.mp
      ((List.dropWhile_suffix _).subset hmem))
  unfold candidates at h
  split at h
  · rw [List.mem_singleton.mp h]
    exact hpath
  split at h
  · rcases List.mem_cons.mp h with rfl | h
    · intro hmem
      rcases List.mem_append.mp hmem with hmem | hmem
      · exact hdirectory hmem
      · exact hdll hmem
    · rw [List.mem_singleton.mp h]
      exact hdll
  · rw [List.mem_singleton.mp h]
    exact hdll

section

variable {Token : Type} {host : ToolHost Token} {o : Options} {token : Token}
variable {child : List WString}

/-- What a process starts through the library is a child of its sweep. -/
theorem dispatchEsp_child (hplain : PlainHost host)
    (hdll : NulFreeText o.dllPath)
    (h : child ∈ children (dispatchEsp host o token)) :
    o.command = "exercise" ∧ IsCallOne child := by
  obtain ⟨call, hcall, line, hline, rfl⟩ := mem_children h
  have hlinked : (loadLibrary host o).2.Linked :=
    EspApi.linked_load host.linker EspApi.linked_initial.table _
  have hpath : (loadLibrary host o).1 = true →
      (loadLibrary host o).2.loadedPath ∈
        candidates host.linker (toUtf16 o.dllPath.toList) :=
    load_path EspApi.linked_initial.table
  rw [dispatchEsp] at hcall
  generalize loadLibrary host o = loaded at hcall hlinked hpath
  obtain ⟨ok, api⟩ := loaded
  cases ok with
  | false => cases hcall
  | true =>
      have hloaded := hpath rfl
      change call ∈ (sweepAttempts (host.client.linked api) api o).flatten
        at hcall
      unfold sweepAttempts at hcall
      split at hcall
      swap
      · cases hcall
      rename_i hsweeps
      refine ⟨hsweeps.1, ?_⟩
      obtain ⟨calls, hcalls, hcall⟩ := List.mem_flatten.mp hcall
      obtain ⟨turn, hturn, rfl⟩ := List.mem_map.mp hcalls
      obtain ⟨descriptor, hmem, rfl⟩ := List.mem_map.mp hturn
      have hname := Linked.operandName hlinked descriptor hmem
      have hnul := callOneArguments_nulFree hname (candidates_nulFree
        hplain.linker (toUtf16_nulFree hdll) hloaded)
      unfold isolateOne at hcall
      dsimp only at hcall
      split at hcall
      · cases hcall
      have hrun : call ∈ (runSameImage (host.client.systems descriptor.name)
          (callOneArguments api.loadedPath descriptor.name)
          sweepLaunch).2 := by
        split at hcall
        · exact hcall
        · exact hcall
      rw [runSameImage_child (hplain.sweep descriptor.name) hnul hrun hline]
      exact ⟨_, _, _, rfl, EspApi.candidates_ne_nil hloaded, hname⟩

/-- What a process starts: a hop starts a worker, a sweep its children. -/
theorem dispatch_child (hplain : PlainHost host)
    (htokens : ∀ argument ∈ o.tokens, NulFree argument)
    (hdll : NulFreeText o.dllPath)
    (h : child ∈ children (dispatch host o token)) :
    (o.worker = false ∧
      ∃ image rest, child = image :: kWorkerFlag :: rest) ∨
    (o.command = "exercise" ∧ IsCallOne child) := by
  have hends := dispatch_ends host o token
  generalize dispatch host o token = d at hends h
  cases hends with
  | untrusted hneeds hprobe => exact absurd h (not_mem_children rfl)
  | hopped hhops =>
      exact .inl ⟨hhops.2, hopToWorker_child
        (o := dispatchOptions host o token) hplain htokens h⟩
  | unprepared hstays hfailed => exact absurd h (not_mem_children rfl)
  | locally hstays hprepared hlocal =>
      exact absurd h (not_mem_children rfl)
  | throughLibrary hprobe hstays hprepared hlocal =>
      exact .inr (dispatchEsp_child (o := dispatchOptions host o token) hplain
        hdll h)

end

theorem Starts.reads {argv child : List WString} (h : Starts argv child) :
    ∃ o, parseOptions argv = .ok o ∧
      ((o.worker = false ∧
        ∃ image rest, child = image :: kWorkerFlag :: rest) ∨
      (o.command = "exercise" ∧ IsCallOne child)) := by
  obtain ⟨hargv, Token, host, token, hplain, hchild⟩ := h
  unfold wmain at hchild
  split at hchild
  · exact absurd hchild (not_mem_children rfl)
  rename_i o hparse
  split at hchild
  · exact absurd hchild (not_mem_children rfl)
  have htokens : ∀ argument ∈ o.tokens, NulFree argument := by
    rw [parseOptions_tokens hparse]
    exact fun argument hmem => hargv argument (List.mem_of_mem_drop hmem)
  exact ⟨o, hparse, dispatch_child hplain htokens
    (parseOptions_dllPath hargv hparse) hchild⟩

/-- A child of the sweep has the flag of a worker in front as well. -/
theorem IsCallOne.launched {argv : List WString} (h : IsCallOne argv) :
    ∃ image rest, argv = image :: kWorkerFlag :: rest := by
  obtain ⟨image, path, name, rfl, -, -⟩ := h
  exact ⟨image, _, rfl⟩

theorem IsCallOne.starts_nothing {argv child : List WString}
    (h : IsCallOne argv) : ¬Starts argv child := by
  intro hstarts
  obtain ⟨image, path, name, rfl, hpath, hname⟩ := h
  obtain ⟨o, hparse, hcases⟩ := hstarts.reads
  rw [parseOptions_callOne hname image hpath] at hparse
  cases hparse
  rcases hcases with ⟨hworker, -⟩ | ⟨hcommand, -⟩
  · cases hworker
  · have hother : "call-one" ≠ "exercise" := by decide
    exact absurd hcommand hother

/-- Every process that the tool starts reads itself as a worker whenever its
command line parses; what a worker starts is a child of its sweep, and that
starts nothing. -/
theorem starts_bounded {argv child : List WString} (h : Starts argv child) :
    (∀ o, parseOptions child = .ok o → o.worker = true) ∧
      ∀ grandchild, Starts child grandchild → IsCallOne grandchild ∧
        ∀ last, ¬Starts grandchild last := by
  obtain ⟨o, -, hcases⟩ := h.reads
  have hlaunched : ∃ image rest, child = image :: kWorkerFlag :: rest := by
    rcases hcases with ⟨-, hchild⟩ | ⟨-, hchild⟩
    · exact hchild
    · exact hchild.launched
  have hworker : ∀ o, parseOptions child = .ok o → o.worker = true := by
    obtain ⟨image, rest, rfl⟩ := hlaunched
    exact fun o hparse => parseOptions_worker hparse
  refine ⟨hworker, fun grandchild hnext => ?_⟩
  obtain ⟨o', hparse, hnextCases⟩ := hnext.reads
  rcases hnextCases with ⟨hnot, -⟩ | ⟨-, hcallOne⟩
  · rw [hworker o' hparse] at hnot
    cases hnot
  · exact ⟨hcallOne, fun last => hcallOne.starts_nothing⟩

/-- A privileged process on a machine without test signing. -/
def privilegedHost : ToolHost (Option ℕ) where
  token := plainToken
  tcbEnabled _ := true
  probe := ⟨some (0, 0), some (0, 0)⟩
  client := acceptingClient
  pipe := quietPipe
  linker := ⟨wide "C:\\esptool.exe", fun _ _ => {}⟩
  scm := ⟨.ok (), fun _ => .ok (), .ok (), .ok (), .ok ()⟩
  first := { failingWait with waitForSingleObject := (kWaitObject0, 0) }
  second := failingWait

/-- A command that needs the attribute is handed to a worker. -/
theorem starts_bounded_connect :
    let argv := [wide "esptool", wide "connect"]
    let child := [wide "C:\\esptool.exe", kWorkerFlag, wide "connect"]
    Starts argv child ∧
      (∀ o, parseOptions child = .ok o → o.worker = true) ∧
      ∀ grandchild, Starts child grandchild → IsCallOne grandchild ∧
        ∀ last, ¬Starts grandchild last := by
  intro argv child
  have hplain : PlainImage (wide "C:\\esptool.exe") := by
    refine ⟨?_, ?_, ?_⟩
    · rw [NulFree]
      decide
    · decide
    · decide
  have hstarts : Starts argv child := by
    refine ⟨?_, Option ℕ, privilegedHost, none,
      ⟨hplain.nul, hplain, hplain, fun _ => hplain⟩, ?_⟩
    · unfold NulFree
      decide
    · decide +kernel
  exact ⟨hstarts, starts_bounded hstarts⟩

end Esptool.Process
