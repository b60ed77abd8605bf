import Esptool.ProcessTree

/-!
# The registered command line of the service

`service install` registers a command line that the service manager starts
later, in another process and without arguments of its own.  What that process
reads off it is fixed by the image and by `--no-provision` alone.
-/

namespace Esptool.Process

open Model Esp Cli Text Argv

/-- The log of the service, beside its image. -/
def serviceLog (binaryPath : WString) : WString := binaryPath ++ wide ".log"

def serviceArguments (binaryPath : WString) (noProvision : Bool) :
    List WString :=
  [wide "service", wide "run", wide "--log", serviceLog binaryPath] ++
    if noProvision then [wide "--no-provision"] else []

/-- What the service reads off its command line. -/
def serviceOptions (binaryPath : WString) (noProvision : Bool) :
    Options where
  command := "service"
  positional := ["run"]
  logPath := String.ofList (Text.toUtf8 (serviceLog binaryPath))
  noProvision := noProvision
  tokens := serviceArguments binaryPath noProvision

section

variable {path : WString}

/-- A path between two quotes is read as that path. -/
theorem quoted_spells (hquote : kQuote ∉ path)
    (hlast : path.getLast? ≠ some kBackslash) :
    Spells crtMarks (kQuote :: (path ++ [kQuote])) path := by
  have hloop : quoteLoop 0 path = path ++ [kQuote] :=
    quoteLoop_path hquote hlast fun _ => rfl
  rw [← hloop]
  constructor
  · exact ⟨kQuote, quoteLoop 0 path, rfl, by decide⟩
  · intro line hline
    have hopen := argument_openQuote (m := crtMarks)
      (quoteLoop 0 path ++ line)
      (List.append_ne_nil_of_left_ne_nil (quoteLoop_ne_nil 0 path) line)
    exact hopen.trans (argument_quoteLoop hline 0 path)

theorem plain_spells {word : WString} (h : needsQuotes word = false) :
    Spells crtMarks word word := by
  have hspells := quoteArgument_spells word
  rw [quoteArgument, h] at hspells
  exact hspells

/-- The log path is always quoted, the other words never. -/
def spellService (logPath word : WString) : WString :=
  if word = logPath then kQuote :: (word ++ [kQuote]) else word

theorem serviceLog_ne {binaryPath word : WString} (h : 0x2E ∉ word) :
    word ≠ serviceLog binaryPath := by
  rintro rfl
  exact h (List.mem_append_right binaryPath (by decide))

theorem spellService_log : spellService path path = kQuote :: (path ++ [kQuote]) :=
  if_pos rfl

end

/-- The words of the line beside the path of the log. -/
def kServiceWords : List WString :=
  [wide "service", wide "run", wide "--log", wide "--no-provision"]

theorem kServiceWords_plain : ∀ word ∈ kServiceWords,
    needsQuotes word = false ∧ 0x2E ∉ word ∧ NulFree word := by
  unfold NulFree
  decide

theorem mem_serviceArguments {binaryPath word : WString} {noProvision : Bool}
    (h : word ∈ serviceArguments binaryPath noProvision) :
    word ∈ kServiceWords ∨ word = serviceLog binaryPath := by
  unfold serviceArguments at h
  unfold kServiceWords
  cases noProvision with
  | false => simp at h ⊢; tauto
  | true => simp at h ⊢; tauto

/-- The registered line, word by word. -/
theorem serviceCommandLine_eq (binaryPath : WString) (noProvision : Bool) :
    serviceCommandLine binaryPath noProvision =
      kQuote :: (binaryPath ++ [kQuote]) ++
        Argv.joined crtMarks (spellService (serviceLog binaryPath))
          (serviceArguments binaryPath noProvision) := by
  have hword {word : WString} (h : word ∈ kServiceWords) :
      spellService (serviceLog binaryPath) word = word :=
    if_neg (serviceLog_ne (kServiceWords_plain word h).2.1)
  have hservice := hword (show wide "service" ∈ kServiceWords by decide)
  have hrun := hword (show wide "run" ∈ kServiceWords by decide)
  have hlog := hword (show wide "--log" ∈ kServiceWords by decide)
  have hno := hword (show wide "--no-provision" ∈ kServiceWords by decide)
  have hbetween : wide "\" service run --log \"" =
      kQuote :: 0x20 :: (wide "service" ++ 0x20 :: (wide "run" ++
        0x20 :: (wide "--log" ++ [0x20, kQuote]))) := by
    decide
  have hend : wide ".log\"" = wide ".log" ++ [kQuote] := by
    decide
  have hflag : wide " --no-provision" = 0x20 :: wide "--no-provision" := by
    decide
  have hspace : crtMarks.space = 0x20 := rfl
  unfold serviceCommandLine serviceArguments Argv.joined
  cases noProvision with
  | false =>
      simp only [List.flatMap_cons, List.flatMap_nil, List.cons_append,
        List.nil_append, List.append_assoc, List.append_nil, hservice, hrun,
        hlog, spellService_log, hbetween, hend, hspace, Bool.false_eq_true,
        if_false]
      rw [serviceLog, List.append_assoc]
  | true =>
      simp only [List.flatMap_cons, List.flatMap_nil, List.cons_append,
        List.nil_append, List.append_assoc, List.append_nil, hservice, hrun,
        hlog, hno, spellService_log, hbetween, hend, hflag, hspace, if_true]
      rw [serviceLog, List.append_assoc]

/-- The service finds the image and its words. -/
theorem crtArguments_serviceCommandLine {image : WString}
    (himage : PlainImage image) (noProvision : Bool) :
    crtArguments (serviceCommandLine image noProvision) =
      image :: serviceArguments image noProvision := by
  have hquote : kQuote ∉ serviceLog image := by
    intro hmem
    rcases List.mem_append.mp hmem with hmem | hmem
    · exact himage.quote hmem
    · exact absurd hmem (by decide)
  have hlast : (serviceLog image).getLast? ≠ some kBackslash := by
    have hend : (wide ".log").getLast? = some 0x67 := by decide
    rw [serviceLog, List.getLast?_append, hend]
    change some (0x67 : UInt16) ≠ some kBackslash
    decide
  have hwords : ∀ word ∈ serviceArguments image noProvision,
      Spells crtMarks (spellService (serviceLog image) word) word := by
    intro word hword
    rcases mem_serviceArguments hword with hlisted | rfl
    · obtain ⟨hplain, hdot, -⟩ := kServiceWords_plain word hlisted
      rw [spellService, if_neg (serviceLog_ne hdot)]
      exact plain_spells hplain
    · rw [spellService_log]
      exact quoted_spells hquote hlast
  have hname (line : WString) : programName crtMarks false
      (kQuote :: (image ++ [kQuote]) ++ line) =
        (image ++ (programName crtMarks false line).1,
          (programName crtMarks false line).2) := by
    have hopen : programName crtMarks false
        (kQuote :: (image ++ kQuote :: line)) =
          programName crtMarks true (image ++ kQuote :: line) := by
      rw [programName]
      exact if_pos rfl
    rw [List.cons_append, List.append_assoc, List.singleton_append, hopen]
    exact programName_quoted himage.quote line
  have hnul : ∀ unit ∈ serviceCommandLine image noProvision, unit ≠ 0 := by
    intro unit hmem hzero
    rw [hzero] at hmem
    unfold serviceCommandLine at hmem
    have hflag : (0 : UInt16) ∉ if noProvision = true then
        wide " --no-provision" else [] := by
      cases noProvision <;> decide
    simp only [List.mem_append] at hmem
    rcases hmem with ((((hmem | hmem) | hmem) | hmem) | hmem) | hmem
    · exact absurd hmem (by decide)
    · exact himage.nul hmem
    · exact absurd hmem (by decide)
    · exact himage.nul hmem
    · exact absurd hmem (by decide)
    · exact hflag hmem
  have hwhole : (serviceCommandLine image noProvision).takeWhile (· != 0) =
      serviceCommandLine image noProvision := by
    rw [List.takeWhile_eq_self_iff]
    intro unit hmem
    simpa using hnul unit hmem
  rw [crtArguments, hwhole, serviceCommandLine_eq]
  exact split_joined hname hwords

theorem parseOptions_service (image binaryPath : WString)
    (noProvision : Bool) :
    parseOptions (image :: serviceArguments binaryPath noProvision) =
      .ok (serviceOptions binaryPath noProvision) := by
  let st : ParseState :=
    { options := { tokens := serviceArguments binaryPath noProvision } }
  let commanded : ParseState :=
    { options := { st.options with command := "service" } }
  let running : ParseState :=
    { options := { commanded.options with positional := ["run"] } }
  let logging : ParseState :=
    { running with
      awaiting := some (.string
        ⟨"--log", fun value o => { o with logPath := value }⟩) }
  let logged : ParseState :=
    { options := { running.options with
        logPath := String.ofList (Text.toUtf8 (serviceLog binaryPath)) } }
  have hservice : Cli.parseStep st (wide "service") = .ok commanded := by
    rfl
  have hrun : Cli.parseStep commanded (wide "run") = .ok running := by
    rfl
  have hlog : Cli.parseStep running (wide "--log") = .ok logging := by
    rfl
  have hpath : Cli.parseStep logging (serviceLog binaryPath) =
      .ok logged := by
    rfl
  have hloop : Cli.readArguments (serviceArguments binaryPath noProvision)
      st = .ok { options := serviceOptions binaryPath noProvision } := by
    unfold serviceArguments
    rw [List.cons_append, readArguments_cons hservice, List.cons_append,
      readArguments_cons hrun, List.cons_append, readArguments_cons hlog,
      List.cons_append, readArguments_cons hpath, List.nil_append]
    cases noProvision with
    | false => rfl
    | true =>
        have hflag : Cli.parseStep logged (wide "--no-provision") =
            .ok { options := serviceOptions binaryPath true } := by
          rfl
        rw [if_pos rfl, readArguments_cons hflag]
        rfl
  unfold parseOptions
  change (Cli.readArguments (serviceArguments binaryPath noProvision) st >>=
    finishParse) = _
  rw [hloop]
  cases noProvision with
  | false => rfl
  | true => rfl

theorem runServiceCommand_run {Token : Type} (host : ToolHost Token)
    {o : Options} (h : o.positional = ["run"]) :
    (runServiceCommand host o).code = 0 ↔
      runService host.scm (toUtf16 o.serviceName.toList) = 0 := by
  unfold runServiceCommand
  rw [h]
  change (if runService host.scm (toUtf16 o.serviceName.toList) ≠ 0 then _
    else _ : Outcome).code = 0 ↔ _
  split
  · rename_i hfailed
    exact iff_of_false Nat.one_ne_zero hfailed
  · rename_i hstarted
    exact iff_of_true rfl (not_not.mp hstarted)

/-- What the service is started with does not depend on how it was installed,
but for `--no-provision`: it logs beside its image, serves the default pipe
whatever its name is, and neither hops nor touches its token before its loop
runs. -/
theorem serviceCommandLine_runs {image : WString} (himage : PlainImage image)
    (noProvision : Bool) {Token : Type} (host : ToolHost Token)
    (token : Token) :
    let argv := crtArguments (serviceCommandLine image noProvision)
    parseOptions argv = .ok (serviceOptions image noProvision) ∧
      (serviceOptions image noProvision).serviceName = kDefaultClientName ∧
      (wmain host argv token).attempts = [] ∧
      (wmain host argv token).token = token ∧
      ((wmain host argv token).code = 0 ↔
        runService host.scm (toUtf16 kDefaultClientName.toList) = 0) := by
  intro argv
  have hargv : argv = image :: serviceArguments image noProvision :=
    crtArguments_serviceCommandLine himage noProvision
  have hparse : parseOptions argv =
      .ok (serviceOptions image noProvision) := by
    rw [hargv]
    exact parseOptions_service image image noProvision
  refine ⟨hparse, rfl, ?_⟩
  have hmain : wmain host argv token =
      dispatch host (serviceOptions image noProvision) token := by
    rw [wmain, hparse]
    exact if_neg (by simp [serviceOptions])
  rw [hmain]
  have hneeds : commandNeedsWorker (serviceOptions image noProvision) =
      false := by
    have hunlisted : kWorkerCommands.contains "service" = false := by decide
    exact hunlisted
  have hcontext : commandNeedsSystemContext
      (serviceOptions image noProvision) = false := by
    rfl
  have hprepared := dispatchPrepared_unneeded host token hneeds hcontext
  have hends := dispatch_ends host (serviceOptions image noProvision) token
  generalize dispatch host (serviceOptions image noProvision) token = d
    at hends ⊢
  cases hends with
  | untrusted huntrusted hprobe =>
      rw [hneeds] at huntrusted
      cases huntrusted
  | hopped hhops => exact absurd hhops (not_hops host token hneeds)
  | unprepared hstays hfailed =>
      rw [hprepared] at hfailed
      exact absurd rfl hfailed
  | locally hstays hcode hlocal =>
      rw [hprepared] at hlocal
      cases hlocal
      exact ⟨rfl, rfl, runServiceCommand_run host rfl⟩
  | throughLibrary hprobe hstays hcode hlocal => cases hlocal

theorem serviceCommandLine_runs_spaced :
    let image := wide "C:\\Program Files\\esptool.exe"
    let argv := crtArguments (serviceCommandLine image true)
    parseOptions argv = .ok (serviceOptions image true) ∧
      (serviceOptions image true).serviceName = kDefaultClientName ∧
      (wmain privilegedHost argv none).attempts = [] ∧
      (wmain privilegedHost argv none).token = none ∧
      ((wmain privilegedHost argv none).code = 0 ↔
        runService privilegedHost.scm
          (toUtf16 kDefaultClientName.toList) = 0) := by
  intro image argv
  have himage : PlainImage image := by
    refine ⟨?_, ?_, ?_⟩
    · rw [NulFree]
      decide
    · decide
    · decide
  exact serviceCommandLine_runs himage true privilegedHost none

end Esptool.Process
