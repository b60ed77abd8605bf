import Esptool.Commands

/-!
# What a zero exit code says about the install

Every command that installs a rule document is followed from its exit code
back to the value that `InstallRules` returned, in its own process or in the
service behind the pipe.
-/

namespace Esptool.Cli

open Model Esp Ipc Ppl

inductive InstallCommand
  | rules
  | monitor
  | persistRules
  | refsFromNotify
  | ipcRules
deriving DecidableEq, Repr

def ipcRulesOptions (options : Options) : Options :=
  { options with positional := "rules" :: options.positional }

def InstallCommand.run (command : InstallCommand) (host : CommandHost)
    (pipe : PipeHost) (options : Options) (log : List Event) : Outcome :=
  match command with
  | .rules => runRules host options log
  | .monitor => runMonitor host options log
  | .persistRules => runPersistRules host options log
  | .refsFromNotify => runRefsFromNotify host options log
  | .ipcRules => runIpc host pipe (ipcRulesOptions options) log

def InstallsComplete (env : Env) (document : RuleDocument)
    (options : Options) (s : Session) : Prop :=
  ∃ opened, openRulesSession env document options s = .ok opened ∧
    (installRules env document opened).1 = .complete

/-- The document of a command that installs in its own process loads, and
`InstallRules` on what the command makes of it, in the session it starts,
returns `Complete`. -/
def ArmsLocally (host : CommandHost) (options : Options) (log : List Event)
    (name : String) (prepare : RuleDocument → RuleDocument)
    (start : List Event → Session) : Prop :=
  ∃ document, loadRuleDocument host options name = .ok document ∧
    InstallsComplete host.env (prepare document) options
      (start (cleanOrphanClients host.env options.fresh log).2)

/-- The service took in a rules request with the text of the file, and
`InstallRules` there returned `Complete` on its document. -/
def ArmsRemotely (host : CommandHost) (pipe : PipeHost)
    (options : Options) : Prop :=
  ∃ payload response, host.readStream options.rulesPath = some payload ∧
    (pipe.serve (encodeRequest ⟨.rules, payload⟩)).answered =
      some (⟨.rules, payload⟩, response) ∧
    ArmsPayload pipe.service payload pipe.session

/-- `InstallRules` returned `Complete` on the document of the command. -/
def InstallCommand.Arms (command : InstallCommand) (host : CommandHost)
    (pipe : PipeHost) (options : Options) (log : List Event) : Prop :=
  match command with
  | .rules => ArmsLocally host options log "rules" id startedOn
  | .monitor => ArmsLocally host options log "monitor" id startedOn
  | .persistRules =>
      ArmsLocally host options log "persist-rules" persistDocument
        fun log => (startedOn log).setUnregisterOnDisconnect false
  | .refsFromNotify => ArmsLocally host options log "refs" id startedOn
  | .ipcRules => ArmsRemotely host pipe options

/-! ## In the own process -/

section

variable {env : Env} {document : RuleDocument} {options : Options}
  {s : Session}

theorem openRulesSession_error {prepared : Prepared}
    (h : openRulesSession env document options s = .error prepared) :
    prepared.prep ≠ .ok := by
  unfold openRulesSession at h
  dsimp only at h
  split at h
  · cases h
    simp
  · split at h
    · cases h
      simp
    · split at h
      · cases h
        simp
      · split at h
        · cases h
          simp
        · cases h

theorem prepareRulesSession_ok
    (h : (prepareRulesSession env document options s).prep = .ok) :
    InstallsComplete env document options s := by
  unfold prepareRulesSession at h
  cases hopen : openRulesSession env document options s with
  | error prepared =>
      rw [hopen] at h
      exact absurd h (openRulesSession_error hopen)
  | ok opened =>
      rw [hopen] at h
      refine ⟨opened, hopen, ?_⟩
      dsimp only at h
      cases hstatus : (installRules env document opened).1 with
      | failed => simp [hstatus, prepOfInstall] at h
      | partial_ => simp [hstatus, prepOfInstall] at h
      | complete => rfl

variable {host : CommandHost} {log : List Event}

theorem runRules_zero (h : (runRules host options log).code = 0) :
    ArmsLocally host options log "rules" id startedOn := by
  unfold runRules at h
  cases hload : loadRuleDocument host options "rules" with
  | error message => simp [hload] at h
  | ok document =>
      simp only [hload] at h
      have hprep : (prepareRulesSession host.env document options (startedOn
          (cleanOrphanClients host.env options.fresh log).2)).prep =
            .ok := by
        split at h
        · simp at h
        · by_contra hprep
          rw [if_neg hprep] at h
          exact Nat.one_ne_zero h
      exact ⟨document, hload, prepareRulesSession_ok hprep⟩

theorem runMonitor_zero (h : (runMonitor host options log).code = 0) :
    ArmsLocally host options log "monitor" id startedOn := by
  unfold runMonitor at h
  cases hload : loadRuleDocument host options "monitor" with
  | error message => simp [hload] at h
  | ok document =>
      simp only [hload] at h
      have hprep : (prepareRulesSession host.env document options (startedOn
          (cleanOrphanClients host.env options.fresh log).2)).prep =
            .ok := by
        by_contra hprep
        rw [if_pos hprep] at h
        simp at h
      exact ⟨document, hload, prepareRulesSession_ok hprep⟩

theorem runRefsFromNotify_zero
    (h : (runRefsFromNotify host options log).code = 0) :
    ArmsLocally host options log "refs" id startedOn := by
  unfold runRefsFromNotify at h
  split at h
  · simp at h
  · cases hload : loadRuleDocument host options "refs" with
    | error message => simp [hload] at h
    | ok document =>
        simp only [hload] at h
        have hprep : (prepareRulesSession host.env document options
            (startedOn (cleanOrphanClients host.env options.fresh
              log).2)).prep = .ok := by
          by_contra hprep
          rw [if_pos hprep] at h
          simp at h
        exact ⟨document, hload, prepareRulesSession_ok hprep⟩

theorem runPersistRules_zero
    (h : (runPersistRules host options log).code = 0) :
    ArmsLocally host options log "persist-rules" persistDocument
      fun log => (startedOn log).setUnregisterOnDisconnect false := by
  unfold runPersistRules at h
  cases hload : loadRuleDocument host options "persist-rules" with
  | error message => simp [hload] at h
  | ok document =>
      simp only [hload] at h
      refine ⟨document, hload, prepareRulesSession_ok ?_⟩
      by_contra hprep
      -- without an install nothing is listed, so nothing is kept
      simp only [if_neg hprep, Bool.false_and, Bool.false_eq_true,
        if_false] at h
      simp at h

end

/-! ## In the service -/

section

variable {host : CommandHost} {pipe : PipeHost} {options : Options}
  {log : List Event}

theorem answer_ok {request : Request} {response : Response}
    (h : pipe.answer request = .ok response) :
    response.status = (handle pipe.service request pipe.session).1.status ∧
      (pipe.serve (encodeRequest request)).answered =
        some (request, (handle pipe.service request pipe.session).1) := by
  unfold PipeHost.answer at h
  cases hconnect : connectPipe pipe.attempts kConnectAttempts with
  | some error => simp [hconnect] at h
  | none =>
      rw [hconnect] at h
      exact exchange_serveOne h

theorem ipcRequest_rules {request : Request}
    (h : ipcRequest host (ipcRulesOptions options) = .ok request) :
    ∃ payload, host.readStream options.rulesPath = some payload ∧
      request = ⟨.rules, payload⟩ := by
  unfold ipcRequest ipcRulesOptions at h
  simp only [String.reduceEq, if_false, if_true] at h
  split at h
  · simp at h
  · cases hread : host.readStream options.rulesPath with
    | none => simp [hread] at h
    | some payload =>
        simp only [hread, Except.ok.injEq] at h
        exact ⟨payload, rfl, h.symm⟩

theorem ipcRequest_error {failure : ℕ × String}
    (h : ipcRequest host (ipcRulesOptions options) = .error failure) :
    failure.1 ≠ 0 := by
  unfold ipcRequest ipcRulesOptions at h
  simp only [String.reduceEq, if_false, if_true] at h
  split at h
  · cases h
    simp
  · cases hread : host.readStream options.rulesPath with
    | none =>
        simp only [hread] at h
        cases h
        simp
    | some payload => simp [hread] at h

/-- The response that reaches `ipc rules`, if any, carries status zero. -/
def AnswersZero (host : CommandHost) (pipe : PipeHost)
    (options : Options) : Prop :=
  ∀ request response,
    ipcRequest host (ipcRulesOptions options) = .ok request →
    pipe.answer request = .ok response → response.status = 0

theorem runIpc_zero_iff :
    (runIpc host pipe (ipcRulesOptions options) log).code = 0 ↔
      ∃ request response,
        ipcRequest host (ipcRulesOptions options) = .ok request ∧
          pipe.answer request = .ok response := by
  unfold runIpc
  cases hrequest : ipcRequest host (ipcRulesOptions options) with
  | error failure =>
      refine iff_of_false ?_ (by simp)
      exact ipcRequest_error hrequest
  | ok request =>
      cases hanswer : pipe.answer request with
      | error message => simp [hanswer]
      | ok response => simp [hanswer]

theorem runIpc_rules_arms_iff :
    ((runIpc host pipe (ipcRulesOptions options) log).code = 0 →
        ArmsRemotely host pipe options) ↔
      AnswersZero host pipe options := by
  rw [runIpc_zero_iff]
  constructor
  · intro harms request response hrequest hanswer
    obtain ⟨payload, -, hread, -, harmed⟩ :=
      harms ⟨request, response, hrequest, hanswer⟩
    obtain ⟨payload', hread', rfl⟩ := ipcRequest_rules hrequest
    rw [hread, Option.some.injEq] at hread'
    subst hread'
    rw [(answer_ok hanswer).1, handle_rules]
    exact (handleRules_status_eq_zero_iff _ _ _).mpr harmed
  · rintro hzero ⟨request, response, hrequest, hanswer⟩
    have hstatus := hzero request response hrequest hanswer
    obtain ⟨payload, hread, rfl⟩ := ipcRequest_rules hrequest
    obtain ⟨hserved, hanswered⟩ := answer_ok hanswer
    refine ⟨payload, _, hread, hanswered, ?_⟩
    rw [hserved, handle_rules] at hstatus
    exact (handleRules_status_eq_zero_iff _ _ _).mp hstatus

end

/-- A zero exit code of a command means that the whole document is armed,
with one exception: a refusal of the service that reaches `ipc rules`. -/
theorem exit_zero_arms_iff (command : InstallCommand) (host : CommandHost)
    (pipe : PipeHost) (options : Options) (log : List Event) :
    ((command.run host pipe options log).code = 0 →
        command.Arms host pipe options log) ↔
      (command = .ipcRules → AnswersZero host pipe options) := by
  cases command with
  | rules => exact iff_of_true runRules_zero (by simp)
  | monitor => exact iff_of_true runMonitor_zero (by simp)
  | persistRules => exact iff_of_true runPersistRules_zero (by simp)
  | refsFromNotify => exact iff_of_true runRefsFromNotify_zero (by simp)
  | ipcRules =>
      rw [forall_prop_of_true rfl]
      exact runIpc_rules_arms_iff

def notifyText : Bytes :=
  utf8 "<esptool><rule eventType=\"1000\" action=\"0\"/></esptool>"

def notifyRules : RuleDocument := { rules := [{ eventType := 1000 }] }

def parseExamples (text : Bytes) : ParseOutcome :=
  if text = notifyText then { ok := true, document := notifyRules }
  else if text = cancelText then { ok := true, document := cancelRules }
  else { error := "the rule document is empty" }

/-- One file with the given text, and a library that accepts every call. -/
def fileHost (text : Bytes) : CommandHost where
  env := acceptingEnv
  parseRuleText := parseExamples
  ruleFile _ := ⟨none, some text.length, .ok text⟩
  readStream _ := some text
  pumpNotifications _ _ s := s
  pumpNotificationsIocp _ _ s := s
  queryFromNotification s := s
  fileTrigger s := s
  processTrigger _ s := s

/-- An undisturbed exchange with a service whose client is connected. -/
def quietPipe : PipeHost where
  attempts _ := .opened
  writes := [⟨1000, none⟩]
  reads := [⟨4, none⟩, ⟨1000, none⟩]
  accept := .waited
  serverReads := [⟨4, none⟩, ⟨1000, none⟩]
  serverWrites := [⟨1000, none⟩]
  service := { acceptingHost with parseRuleText := parseExamples }
  session := { clientHandle := 7 }

example : (InstallCommand.rules.run (fileHost cancelText) quietPipe
    { rulesPath := "cancel.xml" } []).code = 0 := by
  decide

/-- The service has no queue and refuses the document; the refusal reaches
the client, and the exit code is zero all the same. -/
theorem ipcRules_exit_zero_after_refusal :
    let options : Options := { rulesPath := "monitor_process_create.xml" }
    let host := fileHost notifyText
    (InstallCommand.ipcRules.run host quietPipe options []).code = 0 ∧
      ¬ InstallCommand.ipcRules.Arms host quietPipe options [] := by
  intro options host
  refine ⟨by decide, ?_⟩
  rintro ⟨payload, response, hread, -, harmed⟩
  cases hread
  exact absurd harmed.complete (by decide)

end Esptool.Cli
