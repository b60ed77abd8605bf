import Esptool.Options
import Esptool.ProtectedService

/-!
# The commands that install a rule document

`rules`, `monitor`, `persist-rules` and `refs --from-notify` install the
document in their own process; `ipc rules` sends its text to the service.
Each of them turns the outcome into an exit code of its own.

Standard output and informational log lines are not modelled; the messages
of a failing command are.  What the commands take from outside the tool is
given by a `CommandHost`: files, the exports and their outcomes, the parser,
the notification pumps and the triggers.  The destructor of a session that
was disconnected before finds nothing to release and is left out.
-/

namespace Esptool.Cli

open Model Esp Ipc Ppl Interaction

structure RuleFile where
  openError : Option String
  size : Option ℤ
  contents : Except String Bytes

structure CommandHost where
  env : Env
  parseRuleText : Bytes → ParseOutcome
  ruleFile : String → RuleFile
  /-- The bytes a plain input stream delivers, if the file opens. -/
  readStream : String → Option Bytes
  pumpNotifications : ℕ → ℕ → Session → Session
  pumpNotificationsIocp : ℕ → ℕ → Session → Session
  queryFromNotification : Session → Session
  fileTrigger : Session → Session
  processTrigger : RuleDocument → Session → Session

structure Outcome where
  code : ℕ
  errors : List String
  log : List Event

/-! ## Loading the document -/

def kMaxRuleFileBytes : ℤ := 64 * 1024 * 1024

def parseRuleFile (host : CommandHost) (path : String) : ParseOutcome :=
  let file := host.ruleFile path
  match file.openError with
  | some error => { error := error }
  | none =>
      match file.size with
      | none => { error := "the rule file is empty or too large" }
      | some size =>
          if size ≤ 0 ∨ size > kMaxRuleFileBytes then
            { error := "the rule file is empty or too large" }
          else
            match file.contents with
            | .error error => { error := error }
            | .ok contents =>
                let parsed := host.parseRuleText contents
                if parsed.ok then
                  { parsed with
                    document := { parsed.document with sourcePath := path } }
                else parsed

/-- `LoadRuleDocument` and the test that every caller makes on its result. -/
def loadRuleDocument (host : CommandHost) (options : Options)
    (command : String) : Except String RuleDocument :=
  if options.rulesPath = "" then
    .error (command ++ " requires --rules <path>")
  else
    let parsed := parseRuleFile host options.rulesPath
    if parsed.ok then .ok parsed.document
    else .error ("rule parse error: " ++ parsed.error)

/-! ## Orphaned clients -/

def startedOn (log : List Event) : Session :=
  { journal := ⟨none, log, {}⟩ }

def resume (s : Session) (log : List Event) : Session :=
  { s with journal := { s.journal with log := log } }

/-- The probe of one client without `--fresh`: may it be released.  A probe
that fails preserves the client. -/
def probeClient (env : Env) (id : Guid) (log : List Event) :
    Bool × List Event :=
  let connected := connectExisting env id (startedOn log)
  if connected.1 then
    let counted := enumerateRuleIds env kLifetimePersistFfi connected.2
    (counted.1.1 && !decide (counted.1.2 > 0),
      (disconnect env counted.2).log)
  else (false, (disconnect env connected.2).log)

def cleanOrphanClient (env : Env) (releasePersistent : Bool)
    (st : ℕ × Session) (id : Guid) : ℕ × Session :=
  let probed := if releasePersistent then (true, st.2.log)
    else probeClient env id st.2.log
  let probe := resume st.2 probed.2
  if probed.1 then
    let released := unregisterClientId env id probe
    (if released.1 then st.1 + 1 else st.1, released.2)
  else (st.1, probe)

/-- `CleanOrphanClients`: how many clients were released, and the calls. -/
def cleanOrphanClients (env : Env) (releasePersistent : Bool)
    (log : List Event) : ℕ × List Event :=
  let listed := enumerateClients env (startedOn log)
  if !listed.1.1 || listed.1.2.isEmpty then
    (0, (disconnect env listed.2).log)
  else
    let cleaned := listed.1.2.foldl
      (cleanOrphanClient env releasePersistent) (0, listed.2)
    (cleaned.1, (disconnect env cleaned.2).log)

/-! ## Preparing the session -/

inductive RulesPrep
  | failedConnect
  | failedQueue
  | failedRemoveRules
  | failedInstall
  | partial_
  | ok
deriving DecidableEq, Repr

structure Prepared where
  prep : RulesPrep
  errors : List String := []
  session : Session

def documentNeedsQueue (document : RuleDocument) : Bool :=
  document.rules.any fun spec =>
    resolvedActionNeedsQueue spec.action spec.actionName
      spec.selectorOverride

/-- The `--bypass-eventtype` patch, if it was asked for: its error. -/
def bypassEventtype (env : Env) (options : Options) (s : Session) :
    Option String × Session :=
  if options.bypassEventtype then
    let patched := s.run (ask env.respond .applyEventTypeBypassPatch)
    (if succeeded patched.1.result then none
      else some (env.patchError s.log), patched.2)
  else (none, s)

/-- The session queue: persistent, denying and rewriting rules must not have
one. -/
def queueForDocument (env : Env) (document : RuleDocument) (s : Session) :
    Bool × Session :=
  if documentNeedsQueue document then createQueue env s else (true, s)

def openRulesSession (env : Env) (document : RuleDocument)
    (options : Options) (s : Session) : Except Prepared Session :=
  let connected := connect env document.client s
  if !connected.1 then
    .error { prep := .failedConnect, session := connected.2 }
  else
    let bypassed := bypassEventtype env options
      (connected.2.setEnforceCompat options.enforceCompat)
    match bypassed.1 with
    | some error =>
        .error
          { prep := .failedInstall
            errors := ["event-type bypass failed: " ++ error]
            session := bypassed.2 }
    | none =>
        let queued := queueForDocument env document bypassed.2
        if !queued.1 then
          .error { prep := .failedQueue, session := queued.2 }
        else
          let removed := removeAllRules env queued.2
          if !removed.1 then
            .error
              { prep := .failedRemoveRules
                errors :=
                  ["rules: EspRemoveAllRulesForClient failed on start"]
                session := removed.2 }
          else .ok removed.2

def prepOfInstall : InstallStatus → RulesPrep
  | .failed => .failedInstall
  | .partial_ => .partial_
  | .complete => .ok

def prepareRulesSession (env : Env) (document : RuleDocument)
    (options : Options) (s : Session) : Prepared :=
  match openRulesSession env document options s with
  | .error prepared => prepared
  | .ok opened =>
      let installed := installRules env document opened
      { prep := prepOfInstall installed.1, session := installed.2 }

/-! ## The commands -/

def holdSession (host : CommandHost) (options : Options)
    (document : RuleDocument) (s : Session) : Session :=
  if options.durationSet ∧ options.durationMs > 0 ∧
      documentNeedsQueue document then
    let maxEvents := if options.maxNotificationsSet
      then options.maxNotifications else 2 ^ 32 - 1
    if options.iocp then
      host.pumpNotificationsIocp options.durationMs maxEvents s
    else host.pumpNotifications options.durationMs maxEvents s
  else s

def runRules (host : CommandHost) (options : Options) (log : List Event) :
    Outcome :=
  match loadRuleDocument host options "rules" with
  | .error message => ⟨1, [message], log⟩
  | .ok document =>
      let cleaned := cleanOrphanClients host.env options.fresh log
      let prepared := prepareRulesSession host.env document options
        (startedOn cleaned.2)
      if prepared.prep = .failedRemoveRules then
        ⟨1, prepared.errors, (disconnect host.env prepared.session).log⟩
      else
        let installed := prepared.prep = .ok
        let errors := if prepared.prep = .partial_ then
            prepared.errors ++
              ["rules: partial install; the committed rules are active " ++
                "but at least one rule was refused"]
          else prepared.errors
        let held := if installed
          then holdSession host options document prepared.session
          else prepared.session
        ⟨if installed then 0 else 1, errors, (disconnect host.env held).log⟩

def monitorError : RulesPrep → String
  | .failedConnect => "monitor: EspConnectClient failed"
  | .failedQueue => "monitor: EspCreateEventQueue failed"
  | .failedRemoveRules =>
      "monitor: EspRemoveAllRulesForClient failed on start"
  | .partial_ =>
      "monitor: partial install; at least one rule was refused, so the " ++
        "monitor is not armed for the whole document"
  | _ => "monitor: InstallRules failed"

/-- `RunMonitor`: zero means that at least one notification arrived. -/
def runMonitor (host : CommandHost) (options : Options) (log : List Event) :
    Outcome :=
  match loadRuleDocument host options "monitor" with
  | .error message => ⟨1, [message], log⟩
  | .ok document =>
      let cleaned := cleanOrphanClients host.env options.fresh log
      let prepared := prepareRulesSession host.env document options
        (startedOn cleaned.2)
      if prepared.prep ≠ .ok then
        ⟨1, prepared.errors ++ [monitorError prepared.prep],
          (disconnect host.env prepared.session).log⟩
      else
        let pump := if options.iocp then host.pumpNotificationsIocp
          else host.pumpNotifications
        let pumped := pump options.durationMs options.maxNotifications
          prepared.session
        let closed := disconnect host.env pumped
        ⟨if closed.notificationsReceived > 0 then 0 else 1, [], closed.log⟩

def persistDocument (document : RuleDocument) : RuleDocument :=
  { document with
    rules := document.rules.map fun spec =>
      { spec with lifetime := .persistent } }

def runPersistRules (host : CommandHost) (options : Options)
    (log : List Event) : Outcome :=
  match loadRuleDocument host options "persist-rules" with
  | .error message => ⟨1, [message], log⟩
  | .ok loaded =>
      let cleaned := cleanOrphanClients host.env options.fresh log
      let document := persistDocument loaded
      let prepared := prepareRulesSession host.env document options
        ((startedOn cleaned.2).setUnregisterOnDisconnect false)
      let listed := if prepared.prep = .ok
        then enumerateRuleIds host.env kLifetimePersistFfi prepared.session
        else ((false, 0), prepared.session)
      let kept := listed.1.1 && decide (listed.1.2 ≥ 1)
      let session := if kept then listed.2
        else listed.2.setUnregisterOnDisconnect true
      ⟨if kept then 0 else 1, prepared.errors,
        (disconnect host.env session).log⟩

def documentWantsFoTrigger (document : RuleDocument) : Bool :=
  document.rules.any fun spec => spec.eventType == kEventFoCreate

def createsReference (step : StepResult) : Bool :=
  step.ok &&
    (step.step == "EspCreateProcessReference" ||
      step.step == "EspCreateFileReferenceByPath" ||
      step.step == "EspCreateEventObjectReferenceById")

/-- The `--from-notify` branch of `RunRefs`: zero means that a reference was
created from a notification. -/
def runRefsFromNotify (host : CommandHost) (options : Options)
    (log : List Event) : Outcome :=
  if options.kind = "" ∧ options.positional.headD "" = "" then
    ⟨1, ["refs requires a kind (process, file, event, ...)"], log⟩
  else
    match loadRuleDocument host options "refs" with
    | .error message => ⟨1, [message], log⟩
    | .ok document =>
        let cleaned := cleanOrphanClients host.env options.fresh log
        let prepared := prepareRulesSession host.env document options
          (startedOn cleaned.2)
        if prepared.prep ≠ .ok then
          ⟨1, prepared.errors, (disconnect host.env prepared.session).log⟩
        else
          let triggered := if documentWantsFoTrigger document
            then host.fileTrigger prepared.session
            else host.processTrigger document prepared.session
          let pumped := host.pumpNotifications options.durationMs 1 triggered
          let queried := if document.rules.all (·.queries.isEmpty)
            then host.queryFromNotification pumped else pumped
          let closed := disconnect host.env queried
          ⟨if closed.journal.notes.steps.any createsReference then 0 else 1,
            [], closed.log⟩

/-! ## The client of the service -/

/-- Both ends of one exchange over the service pipe: what the operating
system does on each of them, and the service with its session. -/
structure PipeHost where
  attempts : ℕ → OpenAttempt
  writes : List PipeCall
  reads : List PipeCall
  accept : Accept
  serverReads : List PipeCall
  serverWrites : List PipeCall
  service : ServiceHost
  session : Session

def PipeHost.serve (pipe : PipeHost) (incoming : Bytes) : Served Session :=
  serveOne (handle pipe.service) pipe.accept pipe.serverReads
    pipe.serverWrites incoming pipe.session

def PipeHost.answer (pipe : PipeHost) (request : Request) :
    Except String Response :=
  match connectPipe pipe.attempts kConnectAttempts with
  | some error => .error error
  | none =>
      exchange request pipe.writes pipe.reads fun incoming =>
        (pipe.serve incoming).outgoing

/-- The request of `RunIpc`, or the exit code and message it ends with. -/
def ipcRequest (host : CommandHost) (options : Options) :
    Except (ℕ × String) Request :=
  match options.positional with
  | [] =>
      .error (2, "ipc requires a subcommand: " ++
        "ping|status|exports|exercise|rules")
  | sub :: _ =>
      if sub = "ping" then .ok ⟨.ping, []⟩
      else if sub = "status" then .ok ⟨.status, []⟩
      else if sub = "exports" then .ok ⟨.exports, []⟩
      else if sub = "exercise" then .ok ⟨.exercise, []⟩
      else if sub = "rules" then
        if options.rulesPath = "" then
          .error (2, "ipc rules requires --rules <path>")
        else
          match host.readStream options.rulesPath with
          | none =>
              .error (1, "could not open the rule file: " ++
                options.rulesPath)
          | some payload => .ok ⟨.rules, payload⟩
      else .error (2, "unknown ipc subcommand: " ++ sub)

/-- `RunIpc`: the status of the response is printed, and that is all that is
done with it. -/
def runIpc (host : CommandHost) (pipe : PipeHost) (options : Options)
    (log : List Event) : Outcome :=
  match ipcRequest host options with
  | .error (code, message) => ⟨code, [message], log⟩
  | .ok request =>
      match pipe.answer request with
      | .error message => ⟨1, [message], log⟩
      | .ok _ => ⟨0, [], log⟩

end Esptool.Cli
