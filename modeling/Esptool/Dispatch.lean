import Esptool.ClientCommands
import Esptool.TrustPlan

/-!
# One process of the tool

From the arguments of the process to its exit code: the parse, the probe of
the trust of the process, the hop to a worker, the preparation of the own
token, and the table of commands.  What is filed of a process is the token it
leaves behind, the processes it starts, the calls it makes to the linker and
the calls its sessions make through the library.  `service run` and
`service foreground` are followed up to the service loop; the token that the
loop stamps, the library that it loads and the calls that it serves are not
filed.  Standard output is not modelled.
-/

namespace Esptool.Cli

open Model Esp Process Interaction

/-! ## The state of the process -/

def kStatusNotFound : ℤ := 0xC0000225 - 2 ^ 32

/-- What the two `Nt` queries answer: a status and a value, or nothing where
`ntdll` has no such export. -/
structure ProbeHost where
  queryInformationProcess : Option (ℤ × ℕ)
  querySystemInformation : Option (ℤ × ℕ)

structure ProtectionState where
  queried : Bool := false
  queryStatus : ℤ := 0
  level : ℕ := 0
  type : ℕ := 0
  audit : ℕ := 0
  signer : ℕ := 0

def ProtectionState.isAntimalwareLight (state : ProtectionState) : Bool :=
  state.level == 0x31

/-- `PS_PROTECTION`: three bits of type, one of audit, four of signer. -/
def decodeProtection (raw : ℕ) (status : ℤ) : ProtectionState where
  queried := true
  queryStatus := status
  level := raw
  type := raw &&& 0x07
  audit := if raw &&& 0x08 ≠ 0 then 1 else 0
  signer := (raw >>> 4) &&& 0x0F

def queryCurrentProcess (probe : ProbeHost) : ProtectionState :=
  match probe.queryInformationProcess with
  | none => { queried := true, queryStatus := kStatusNotFound }
  | some (status, raw) =>
      if ntSuccess status then decodeProtection raw status
      else { queried := true, queryStatus := status }

structure CodeIntegrityState where
  queried : Bool := false
  options : ℕ := 0
  queryStatus : ℤ := 0

def CodeIntegrityState.testSigning (state : CodeIntegrityState) : Bool :=
  state.options &&& 0x2 != 0

def queryCodeIntegrity (probe : ProbeHost) : CodeIntegrityState :=
  match probe.querySystemInformation with
  | none => {}
  | some (status, options) =>
      { queried := true
        queryStatus := status
        options := if ntSuccess status then options else 0 }

/-! ## The process and its surroundings -/

/-- The answers of the service control manager; the dispatcher answers once
the service loop has ended. -/
structure ScmHost where
  openSCManager : Except ℕ Unit
  createService : WString → Except ℕ Unit
  openService : Except ℕ Unit
  deleteService : Except ℕ Unit
  startServiceCtrlDispatcher : Except ℕ Unit

structure ToolHost (Token : Type) where
  token : TokenHost Token
  tcbEnabled : Token → Bool
  probe : ProbeHost
  client : ClientHost
  pipe : PipeHost
  linker : Linker
  scm : ScmHost
  /-- The answers to the two attempts of a hop. -/
  first : System
  second : System

structure Dispatched (Token : Type) where
  code : ℕ
  errors : List String := []
  token : Token
  attempts : List (List ProcessCall) := []
  linked : List LinkerEvent := []
  log : List Event := []

section

variable {Token : Type} (host : ToolHost Token)

def probeCurrentTrustContext (token : Token) : ProvisioningContext :=
  let ctx : ProvisioningContext :=
    { isSystem := host.token.isSystemAccount token
      isTcb := host.token.tcbPresent token && host.tcbEnabled token }
  let prot := queryCurrentProcess host.probe
  if !prot.queried || decide (prot.queryStatus < 0) then
    { ctx with
      error := "failed to query process protection: status " ++
        statusHex prot.queryStatus }
  else
    let ctx := { ctx with isPpl := prot.isAntimalwareLight }
    let ci := queryCodeIntegrity host.probe
    if !ci.queried || decide (ci.queryStatus < 0) then
      { ctx with
        error := "failed to query code integrity policy: status " ++
          statusHex ci.queryStatus }
    else
      let ctx := { ctx with testSigning := ci.testSigning }
      let attr := host.token.queryWespPermission token
      match attr.1 with
      | some error =>
          { ctx with
            error := "failed to query primary token security attributes: " ++
              error }
      | none =>
          { ctx with
            attributePresent := attr.2.present
            attributePermission := attr.2.permission
            probeOk := true }

/-! ## The hop and the own process -/

def commandNeedsSystemContext (o : Options) : Bool :=
  o.command == "token" &&
    o.positional.head?.any fun sub => sub != "status"

/-- `RequireTcbOrFail`. -/
def requireTcbOrFail (token : Token) : PreparedProcess Token :=
  let required := requireSystemWithTcb host.token token
  match required.1 with
  | some error => ⟨1, some error, required.2⟩
  | none => ⟨0, none, required.2⟩

/-- The exit code of the worker is the exit code of its parent. -/
def hopToWorker (o : Options) (token : Token) : Dispatched Token :=
  let required := requireTcbOrFail host token
  if required.code ≠ 0 then
    { code := required.code
      errors := required.error.toList
      token := required.token }
  else
    let launched := launchWorker host.first host.second o
    if !launched.outcome.created then
      { code := 1
        errors := [launched.outcome.error]
        token := required.token
        attempts := launched.attempts }
    else
      { code := launched.outcome.exitCode
        token := required.token
        attempts := launched.attempts }

def ensureWorkerOrTcb (o : Options) (plan : TrustPlan) (token : Token) :
    PreparedProcess Token :=
  if commandNeedsWorker o then prepareThisProcess host.token o plan token
  else if commandNeedsSystemContext o then requireTcbOrFail host token
  else ⟨0, none, token⟩

/-! ## The commands without the library -/

def runPpl (o : Options) : Outcome :=
  match o.positional with
  | [] => ⟨2, ["ppl requires a subcommand: status"], []⟩
  | sub :: _ =>
      if sub = "status" then ⟨0, [], []⟩
      else ⟨2, ["unknown ppl subcommand: " ++ sub], []⟩

/-- The permission of `token set`: the one that is named, if any. -/
def tokenPermission (o : Options) : List String → Option ℕ
  | [] => some (resolvePermission o
      { isPpl := (queryCurrentProcess host.probe).isAntimalwareLight })
  | named :: _ => parsePermission named

def runToken (o : Options) (token : Token) : Outcome × Token :=
  match o.positional with
  | [] => (⟨2, ["token requires a subcommand: status|set|clear"], []⟩, token)
  | sub :: rest =>
      if sub = "status" then (⟨0, [], []⟩, token)
      else if sub = "set" then
        match tokenPermission host o rest with
        | none =>
            (⟨2, ["unknown permission: " ++ rest.headD ""], []⟩, token)
        | some permission =>
            let stamped := setWespPermission host.token permission token
            (⟨if stamped.1.isSome then 1 else 0, stamped.1.toList, []⟩,
              stamped.2)
      else if sub = "clear" then
        let deleted := deleteWespPermission host.token token
        (⟨if deleted.1.isSome then 1 else 0, deleted.1.toList, []⟩,
          deleted.2)
      else (⟨2, ["unknown token subcommand: " ++ sub], []⟩, token)

def runProvision (token : Token) : Outcome :=
  let queried := host.token.queryWespPermission token
  ⟨if !host.token.isSystemAccount token || queried.1.isSome ||
      !queried.2.present then 1 else 0, [], []⟩

def kErrorServiceExists : ℕ := 1073
def kErrorInvalidParameter : ℕ := 87

/-- The command line that is registered: the service manager starts the image
with no arguments of its own. -/
def serviceCommandLine (binaryPath : WString) (noProvision : Bool) :
    WString :=
  [kQuote] ++ binaryPath ++ Text.wide "\" service run --log \"" ++
    binaryPath ++ Text.wide ".log\"" ++
    if noProvision then Text.wide " --no-provision" else []

/-- `Install`; an error is its text. -/
def installService (scm : ScmHost) (serviceName binaryPath : WString)
    (noProvision : Bool) : Option String :=
  match scm.openSCManager with
  | .error error => some (Process.win32Message "OpenSCManager failed" error)
  | .ok () =>
      match scm.createService
        (serviceCommandLine binaryPath noProvision) with
      | .ok () => none
      | .error error =>
          if error = kErrorServiceExists then
            some ("service already exists: " ++
              String.ofList (Text.toUtf8 serviceName))
          else some (Process.win32Message "CreateService failed" error)

def uninstallService (scm : ScmHost) : Option String :=
  match scm.openSCManager, scm.openService, scm.deleteService with
  | .error error, _, _ =>
      some (Process.win32Message "OpenSCManager failed" error)
  | .ok (), .error error, _ =>
      some (Process.win32Message "OpenService failed" error)
  | .ok (), .ok (), .error error =>
      some (Process.win32Message "DeleteService failed" error)
  | .ok (), .ok (), .ok () => none

/-- `RunService`, behind its check of the name. -/
def runService (scm : ScmHost) (serviceName : WString) : ℕ :=
  if serviceName = [] then kErrorInvalidParameter
  else
    match scm.startServiceCtrlDispatcher with
    | .error error => error
    | .ok () => 0

/-- `RunService` up to the service loop, which `run` and `foreground` enter
with a name; nothing of the loop but its exit code is modelled. -/
def runServiceCommand (o : Options) : Outcome :=
  let name := Text.toUtf16 o.serviceName.toList
  let failed (error : Option String) : Outcome :=
    ⟨if error.isSome then 1 else 0, error.toList, []⟩
  match o.positional with
  | [] =>
      ⟨2, ["service requires a subcommand: " ++
        "install|uninstall|run|foreground"], []⟩
  | sub :: _ =>
      if sub = "install" then
        let executable := host.linker.currentImagePath
        if executable = [] then
          ⟨1, ["could not resolve the executable path"], []⟩
        else failed (installService host.scm name executable o.noProvision)
      else if sub = "uninstall" then failed (uninstallService host.scm)
      else if sub = "foreground" then
        ⟨if name = [] then kErrorInvalidParameter else 0, [], []⟩
      else if sub = "run" then
        let dispatcher := runService host.scm name
        if dispatcher ≠ 0 then
          ⟨1, ["service dispatcher failed (error " ++ toString dispatcher ++
            ")"], []⟩
        else ⟨0, [], []⟩
      else ⟨2, ["unknown service subcommand: " ++ sub], []⟩

/-- `DispatchLocal`; no answer stands for its -1. -/
def dispatchLocal (o : Options) (token : Token) :
    Option (Outcome × Token) :=
  if o.command = "ppl" then some (runPpl o, token)
  else if o.command = "service" then some (runServiceCommand host o, token)
  else if o.command = "ipc" then
    some (runIpc host.client.commands host.pipe o [], token)
  else if o.command = "token" then some (runToken host o token)
  else if o.command = "provision" then some (runProvision host token, token)
  else none

/-! ## The commands on the library -/

/-- The host of the commands once the library is loaded: an export is there
when its address was found. -/
def ClientHost.linked (client : ClientHost) (api : EspApi) : ClientHost :=
  { client with
    commands := { client.commands with
      env := { client.commands.env with
        available := fun wanted => api.resolve wanted.name != 0 } }
    sideAvailable := fun name => api.resolve name != 0 }

def clientCommands : List (String × ClientCommand) := [
  ("exports", .exports), ("status", .status), ("connect", .connect),
  ("clients", .clients), ("unregister", .unregister),
  ("enum-rules", .enumRules), ("remove-rules", .removeRules),
  ("open-queue", .openQueue), ("trust", .trust), ("query", .query),
  ("refs", .refs), ("collections", .collections), ("context", .context),
  ("exercise", .exercise), ("call-one", .callOne)]

/-- The table of `DispatchEsp`; an unknown command prints the usage. -/
def espCommand (client : ClientHost) (api : EspApi) (o : Options) :
    Outcome :=
  if o.command = "rules" then runRules client.commands o []
  else if o.command = "monitor" then runMonitor client.commands o []
  else if o.command = "persist-rules" then
    runPersistRules client.commands o []
  else if o.command = "refs" ∧ o.fromNotify = true then
    runRefsFromNotify client.commands o []
  else
    match clientCommands.lookup o.command with
    | some command => command.run client api o []
    | none => ⟨2, [], []⟩

/-- The processes of the isolated sweep. -/
def sweepAttempts (client : ClientHost) (api : EspApi) (o : Options) :
    List (List ProcessCall) :=
  if o.command = "exercise" ∧ o.isolated = true then
    (runIsolated client.systems api).map Prod.snd
  else []

/-- `DispatchEsp` behind its `Load`; the library is unloaded on the way
out. -/
def dispatchLoaded (o : Options) (token : Token) (loaded : Bool × EspApi) :
    Dispatched Token :=
  if !loaded.1 then
    { code := 2
      errors := [loaded.2.lastError]
      token := token
      linked := (loaded.2.unload host.linker).log }
  else
    let client := host.client.linked loaded.2
    let outcome := espCommand client loaded.2 o
    { code := outcome.code
      errors := outcome.errors
      token := token
      attempts := sweepAttempts client loaded.2 o
      linked := (loaded.2.unload host.linker).log
      log := outcome.log }

/-- An empty `--dll` asks for the default candidates. -/
def loadLibrary (o : Options) : Bool × EspApi :=
  EspApi.load host.linker (Text.toUtf16 o.dllPath.toList) {}

def dispatchEsp (o : Options) (token : Token) : Dispatched Token :=
  dispatchLoaded host o token (loadLibrary host o)

/-! ## The whole process -/

def dispatch (o : Options) (token : Token) : Dispatched Token :=
  let ctx := probeCurrentTrustContext host token
  if !ctx.probeOk && commandNeedsWorker o then
    { code := 1
      errors := ["trust probe failed: " ++ ctx.error]
      token := token }
  else
    let plan := evaluateTrustPlan o ctx
    let effective := effectiveOptions o plan
    if plan.childRequired && !effective.worker then
      hopToWorker host effective token
    else
      let prepared := ensureWorkerOrTcb host effective plan token
      if prepared.code ≠ 0 then
        { code := prepared.code
          errors := prepared.error.toList
          token := prepared.token }
      else
        match dispatchLocal host effective prepared.token with
        | some (outcome, left) =>
            { code := outcome.code
              errors := outcome.errors
              token := left
              log := outcome.log }
        | none => dispatchEsp host effective prepared.token

/-- `wmain`. -/
def wmain (argv : List WString) (token : Token) : Dispatched Token :=
  match parseOptions argv with
  | .error error => { code := 2, errors := [error], token := token }
  | .ok o =>
      if o.help = true ∨ o.command = "" then
        { code := if o.help then 0 else 2, token := token }
      else dispatch host o token

end

end Esptool.Cli
