import Esptool.CollectionExercise
import Esptool.Commands
import Esptool.EspExercise
import Esptool.HexText
import Esptool.ObjectReferences
import Esptool.SplitText
import Esptool.Utf16Text

/-!
# The commands on clients, queues, references and collections

The commands that install no document: each of them connects a session, works
on it, and disconnects it on every way out.  Standard output is not modelled;
a call that only these commands make is a `SideCall`, and none of those hands
out or takes back a handle.
-/

namespace Esptool.Cli

open Model Esp Process Interaction

/-- The calls that no session of the rule commands makes. -/
inductive SideCall
  | getEventQueueId (queue : Handle)
  | enumerateAllRulesForClient (client : Handle)
  | setClientContextKey (client : Handle) (payload : List ℕ)
  | enumerateAllClientContextKeys (client : Handle)
deriving DecidableEq, Repr

def SideCall.name : SideCall → String
  | .getEventQueueId _ => "EspGetEventQueueId"
  | .enumerateAllRulesForClient _ => "EspEnumerateAllRulesForClient"
  | .setClientContextKey .. => "EspSetClientContextKey"
  | .enumerateAllClientContextKeys _ => "EspEnumerateAllClientContextKeys"

structure ClientHost where
  commands : CommandHost
  sideAvailable : String → Bool
  respondSide : List Event → SideCall → Reply
  /-- The clock and the process, as `UniqueClientSpec` mixes them. -/
  stamp : String → ℕ
  processId : ℕ
  threadId : ℕ
  windowsDirectory : WString
  respondRaw : List (RawCall × RawReply) → RawCall → RawReply
  systems : String → System

namespace ClientHost

variable (host : ClientHost)

def env : Env := host.commands.env

def exerciseHost : ExerciseHost where
  env := host.env
  windowsDirectory := host.windowsDirectory
  respond := host.respondRaw

/-! ## The calls of these commands alone -/

def requireSide (name : String) (s : Session) : Bool × Session :=
  if host.sideAvailable name then (true, s)
  else (false, s.warn ("export not available: " ++ name))

def askSide (call : SideCall) (s : Session) : Reply × Session :=
  let reply := host.respondSide s.log call
  (reply, (s.run (record call.name reply.result)).2)

/-- One recorded call behind a lookup and a guard. -/
def callSide (ready : Bool) (call : SideCall) (s : Session) :
    Option Reply × Session :=
  let resolved := host.requireSide call.name s
  if !resolved.1 || !ready then (none, resolved.2)
  else
    let replied := host.askSide call resolved.2
    (some replied.1, replied.2)

/-- `GetQueueId`: the identifier of a call that succeeds. -/
def getQueueId (s : Session) : Option Guid × Session :=
  let called := host.callSide (s.queueHandle != 0)
    (.getEventQueueId s.queueHandle) s
  (called.1.bind fun reply =>
    if succeeded reply.result then some (reply.ids.headD Guid.null)
    else none, called.2)

def enumerateAllRules (s : Session) : Session :=
  (host.callSide (s.clientHandle != 0)
    (.enumerateAllRulesForClient s.clientHandle) s).2

def kContextKeyDwords : ℕ := 8

def exerciseContextKeys (s : Session) : Bool × Session :=
  let setKey := SideCall.setClientContextKey s.clientHandle
    (List.replicate kContextKeyDwords 0)
  let enumerate := SideCall.enumerateAllClientContextKeys s.clientHandle
  -- both exports are looked up before either is missed
  let setKeyFn := host.requireSide setKey.name s
  let enumerateFn := host.requireSide enumerate.name setKeyFn.2
  if !(setKeyFn.1 && enumerateFn.1) then (false, enumerateFn.2)
  else
    (true, (host.askSide enumerate (host.askSide setKey enumerateFn.2).2).2)

/-! ## Reading the options -/

def kUniqueAltitudeBase : ℕ := 450000
def kUniqueAltitudeSpan : ℕ := 40000

/-- `{:08x}`. -/
def hex8 (value : ℕ) : String :=
  let digits := Nat.toDigits 16 value
  String.ofList (List.replicate (8 - digits.length) '0' ++ digits)

def uniqueClientSpec (start : String) : ClientSpec :=
  let stamp := host.stamp start % 2 ^ 32
  { name := start ++ "-" ++ hex8 stamp
    altitude := toString (kUniqueAltitudeBase + stamp % kUniqueAltitudeSpan) }

/-- `ResolvePid` and `ResolveTid`: the own identifier, or a number that fits
an `int`. -/
def resolveId (own : ℕ) (text : String) : ℤ :=
  if text = "" ∨ Text.equalsIgnoreCase text.toList "self".toList then
    Int.bmod own (2 ^ 32)
  else
    match Text.parseUnsigned text.toList with
    | some parsed => if parsed ≤ 2 ^ 31 - 1 then parsed else -1
    | none => -1

def parseGuidOption (text : String) : Option Guid :=
  Text.parseGuid text.toList

/-- An option that names a property. -/
def parseProperty (text : String) : Option ℕ :=
  (Text.parseUnsigned text.toList).filter fun parsed => parsed ≤ 2 ^ 32 - 1

/-! ## References by kind -/

/-- A reference by process or thread. -/
def idRequest (exportName : String) (id : ℤ) : Option ReferenceRequest :=
  if id < 0 then none else some (.pid exportName id)

def pathRequest (exportName path : String) : Option ReferenceRequest :=
  if path = "" then none
  else some (.path exportName (Text.toUtf16 path.toList))

def fileRequest (o : Options) (kind : String) : Option ReferenceRequest :=
  let stream := kind = "stream" ∨ kind = "filestream"
  if o.fileId ≠ "" then
    match parseGuidOption o.volume, parseFileIdHex o.fileId.toList with
    | some volume, some fileId =>
        if stream then
          some (.streamById volume fileId
            (if o.stream = "" then none
              else some (Text.toUtf16 o.stream.toList)))
        else some (.fileId volume fileId)
    | _, _ => none
  else if o.path = "" then none
  else
    some (.path
      (if stream then "EspCreateFileStreamReferenceByPath"
        else "EspCreateFileReferenceByPath")
      (host.env.expandFilterValue o.path))

/-- `CreateReferenceForKind` up to its constructor. -/
def referenceForKind (o : Options) (kind : String) :
    Option ReferenceRequest :=
  let process := resolveId host.processId o.pid
  let thread := resolveId host.threadId o.tid
  if kind = "process" then idRequest "EspCreateProcessReference" process
  else if kind = "process-token" then
    idRequest "EspCreateProcessTokenReference" process
  else if kind = "thread" then idRequest "EspCreateThreadReference" thread
  else if kind = "thread-token" then
    idRequest "EspCreateThreadTokenReference" thread
  else if kind = "token" then
    if o.tid ≠ "" ∧ o.pid = "" then
      idRequest "EspCreateThreadTokenReference" thread
    else idRequest "EspCreateProcessTokenReference" process
  else if kind = "desktop" then
    some (.desktop
      (if o.objectName = "" then Text.wide "Default"
        else Text.toUtf16 o.objectName.toList))
  else if kind = "volume" then
    (parseGuidOption o.volume).map .volume
  else if kind = "registry" then
    pathRequest "EspCreateRegistryKeyReference" o.path
  else if kind = "disk" then pathRequest "EspCreateDiskReference" o.path
  else if kind = "pipe" then pathRequest "EspCreatePipeReference" o.path
  else if kind = "mailslot" then
    pathRequest "EspCreateMailslotReference" o.path
  else if kind = "file" ∨ kind = "fileobject" ∨ kind = "stream" ∨
      kind = "filestream" then
    host.fileRequest o kind
  else if kind = "event" then
    match Text.parseUnsigned o.eventId.toList with
    | some id => if id = 0 then none else some (.eventObject id)
    | none => none
  else none

/-- `CreateReferenceForKind`, into a null variable. -/
def createReferenceForKind (o : Options) (kind : String) (s : Session) :
    (Bool × Handle) × Session :=
  match host.referenceForKind o kind with
  | none => ((false, 0), s)
  | some request => request.create host.env 0 s

/-- `--duplicate`: the copy is closed again. -/
def duplicateOnce (o : Options) (reference : Handle) (s : Session) :
    Session :=
  if o.duplicate then
    let copy := duplicateReference host.env reference 0 s
    if copy.1.1 then closeReference host.env copy.1.2 copy.2 else copy.2
  else s

/-- A list or a number that cannot be read asks for nothing. -/
def optionalQueries (o : Options) (kind : String)
    (client reference view : Handle) : JournalM Unit := do
  let ids := parseCsvIds o.properties.toList
  (if ids.1 = true ∧ ids.2 ≠ [] ∧ kind ≠ "event" then
    queryKind host.env client kind view ids.2 else pure ())
  (match parseProperty o.supported with
    | some property => isPropertySupported host.env client kind property
    | none => pure ())
  (if o.contextSet then setEventObjectContextKey host.env reference
    else pure ())
  (if o.contextEnum then enumerateEventObjectContextKeys host.env reference
    else pure ())

def applyOptionalRefOps (o : Options) (kind : String)
    (reference view : Handle) (s : Session) : Session :=
  let copied := host.duplicateOnce o reference s
  (copied.run
    (host.optionalQueries o kind copied.clientHandle reference view)).2

/-! ## The simple commands -/

def runConnectedAction (action : Session → Session) (log : List Event) :
    Outcome :=
  let connected := connect host.env {} (startedOn log)
  ⟨0, [], (disconnect host.env (action connected.2)).log⟩

def runConnect (log : List Event) : Outcome :=
  let connected := connect host.env {} (startedOn log)
  let queued := createQueue host.env connected.2
  let armed := armNotification host.env queued.2
  ⟨if connected.1 then 0 else 1, [], (disconnect host.env armed.2).log⟩

def runTrust (log : List Event) : Outcome :=
  let connected := connect host.env (host.uniqueClientSpec "esptool-trust")
    (startedOn log)
  let queued := createQueue host.env connected.2
  ⟨if connected.1 then 0 else 1, [], (disconnect host.env queued.2).log⟩

def runClients (log : List Event) : Outcome :=
  let listed := enumerateClients host.env (startedOn log)
  ⟨if listed.1.1 then 0 else 1, [], (disconnect host.env listed.2).log⟩

/-- One turn of `unregister --all`, with the clients cleared so far. -/
def unregisterOne (st : ℕ × Session) (id : Guid) : ℕ × Session :=
  let released := unregisterClientId host.env id st.2
  (if released.1 then st.1 + 1 else st.1, released.2)

def unregisterAll (log : List Event) : Outcome :=
  let listed := enumerateClients host.env (startedOn log)
  if !listed.1.1 then ⟨1, [], (disconnect host.env listed.2).log⟩
  else
    let cleared := listed.1.2.foldl host.unregisterOne (0, listed.2)
    ⟨if cleared.1 = listed.1.2.length then 0 else 1, [],
      (disconnect host.env cleared.2).log⟩

def runUnregister (o : Options) (log : List Event) : Outcome :=
  if o.all then host.unregisterAll log
  else if o.guid = "" then
    ⟨2, ["unregister requires --guid or --all"], log⟩
  else
    match parseGuidOption o.guid with
    | none => ⟨2, ["unregister --guid is not a valid GUID"], log⟩
    | some id =>
        let released := unregisterClientId host.env id (startedOn log)
        ⟨if released.1 then 0 else 1, [],
          (disconnect host.env released.2).log⟩

def kLifetimesFfi : List ℕ := [1, 2, 3, 4]

def runEnumRules : List Event → Outcome :=
  host.runConnectedAction fun s =>
    kLifetimesFfi.foldl
      (fun s lifetime => (enumerateRuleIds host.env lifetime s).2)
      (host.enumerateAllRules s)

def runRemoveRules : List Event → Outcome :=
  host.runConnectedAction fun s => (removeAllRules host.env s).2

def runContext : List Event → Outcome :=
  host.runConnectedAction fun s => (host.exerciseContextKeys s).2

/-! ## Two sessions on one queue -/

/-- The first session, with a queue of its own. -/
def ownQueue (log : List Event) : Bool × Session :=
  let connected := connect host.env (host.uniqueClientSpec "esptool-oq1")
    (startedOn log)
  if connected.1 then createQueue host.env connected.2
  else (false, connected.2)

/-- The second session opens the queue of the first. -/
def openFrom (id : Guid) (owner : Session) : Bool × Session :=
  let connected := connect host.env (host.uniqueClientSpec "esptool-oq2")
    (startedOn owner.log)
  if connected.1 then openQueue host.env id connected.2
  else (false, connected.2)

/-- Both sessions of `RunOpenQueue`: the owner tries itself when the second
session could not open the queue. -/
def openSecond (id : Guid) (owner : Session) :
    Bool × Session × Session :=
  let opened := host.openFrom id owner
  if opened.1 then (true, resume owner opened.2.log, opened.2)
  else
    let reopened := openQueue host.env id (resume owner opened.2.log)
    (reopened.1, reopened.2, resume opened.2 reopened.2.log)

def runOpenQueue (log : List Event) : Outcome :=
  let env := host.env
  let owned := host.ownQueue log
  if !owned.1 then ⟨1, [], (disconnect env owned.2).log⟩
  else
    let identified := host.getQueueId owned.2
    match identified.1 with
    | none => ⟨1, [], (disconnect env identified.2).log⟩
    | some id =>
        let opened := host.openSecond id identified.2
        let closed := disconnect env opened.2.2
        ⟨if opened.1 then 0 else 1, [],
          (disconnect env (resume opened.2.1 closed.log)).log⟩

/-! ## Queries -/

def kPropertyQueryExports : List String := [
  "EspQueryClientProperties", "EspQueryDesktopProperties",
  "EspQueryDiskProperties", "EspQueryFileObjectProperties",
  "EspQueryFileProperties", "EspQueryFileStreamProperties",
  "EspQueryKtmTransactionProperties", "EspQueryMailslotProperties",
  "EspQueryPipeProperties", "EspQueryProcessProperties",
  "EspQueryRegistryKeyObjectProperties", "EspQueryRegistryKeyProperties",
  "EspQueryThreadProperties", "EspQueryTokenProperties",
  "EspQueryVolumeProperties"]

/-- One turn of `QueryAllProperties`: no property is asked for, and the
object is the client, connected or not. -/
def queryProperties (client : Handle) (name : String) : JournalM Unit := do
  if ← require host.env (.queryProperties name) then
    let reply ← ask host.env.respond (.queryProperties name client [])
    record name reply.result
    freeEspBuffer host.env reply.out

def queryAllProperties (s : Session) : Session :=
  (s.run (kPropertyQueryExports.forM
    (host.queryProperties s.clientHandle))).2

def kKindsWithReference : List String := [
  "process", "thread", "process-token", "thread-token", "token", "file",
  "fileobject", "stream", "filestream", "registry", "volume", "disk",
  "desktop", "pipe", "mailslot", "event"]

def kindHasReferenceCreate (kind : String) : Bool :=
  kKindsWithReference.contains kind

/-- How a query ended: with an exit code of its own, or with an answer. -/
abbrev Queried := (Except String Bool) × Session

/-- The property support that `--supported` asks for. -/
def querySupported (o : Options) (kind : String) (ok : Bool) (s : Session) :
    Queried :=
  if o.supported = "" then (.ok ok, s)
  else
    match parseProperty o.supported with
    | none => (.error "invalid --supported", s)
    | some property =>
        (.ok true, (s.run
          (isPropertySupported host.env s.clientHandle kind property)).2)

def queryClient (o : Options) (kind : String) (s : Session) : Queried :=
  if o.properties = "" ∧ o.supported = "" then
    (.error "query --kind client requires --properties or --supported", s)
  else if o.properties ≠ "" then
    let ids := parseCsvIds o.properties.toList
    if ids.1 = false ∨ ids.2 = [] then (.error "invalid --properties", s)
    else
      host.querySupported o kind true (s.run
        (queryKind host.env s.clientHandle kind 0 ids.2)).2
  else host.querySupported o kind false s

/-- A kind that has no reference. -/
def queryWithoutReference (o : Options) (kind : String) (s : Session) :
    Queried :=
  let warned := if (queryExportForKind kind).isNone then
      (s.run (queryKind host.env s.clientHandle "event" 0 [])).2
    else s
  host.querySupported o (Esp.canonicalQueryKind kind) false warned

def queryReference (o : Options) (kind : String) (s : Session) : Queried :=
  let created := host.createReferenceForKind o kind s
  if !created.1.1 then (.ok false, created.2)
  else
    let reference := created.1.2
    let view := created.2.run (unwrapReference host.env reference)
    (.ok true, closeReference host.env reference
      (host.applyOptionalRefOps o (Esp.canonicalQueryKind kind) reference
        (view.1.getD 0) view.2))

def queryByKind (o : Options) (kind : String) (s : Session) : Queried :=
  if kind = "client" then host.queryClient o kind s
  else if (queryExportForKind kind).isNone ∨
      kindHasReferenceCreate kind = false then
    host.queryWithoutReference o kind s
  else host.queryReference o kind s

def runQuery (o : Options) (log : List Event) : Outcome :=
  if o.kind = "" then host.runConnectedAction host.queryAllProperties log
  else
    let kind := Text.toLowerAscii o.kind
    let connected := connect host.env (host.uniqueClientSpec "esptool-query")
      (startedOn log)
    if !connected.1 then ⟨1, [], (disconnect host.env connected.2).log⟩
    else
      let queried := host.queryByKind o kind connected.2
      let closed := (disconnect host.env queried.2).log
      match queried.1 with
      | .error message => ⟨1, [message], closed⟩
      | .ok ok => ⟨if ok then 0 else 1, [], closed⟩

/-! ## References -/

/-- What `refs` does with the reference it created. -/
def inspectReference (o : Options) (kind : String) (reference : Handle)
    (s : Session) : Session :=
  let env := host.env
  let view := s.run (unwrapReference env reference)
  let object := view.1.getD 0
  let inspected :=
    if object ≠ 0 then
      (view.2.run do
        getEventObjectType env object
        let _ ← getEventObjectId env object).2
    else view.2
  closeReference env reference
    (host.applyOptionalRefOps o (Esp.canonicalQueryKind kind) reference object
      inspected)

/-- The branch of `RunRefs` that takes no notification. -/
def runRefsDirect (o : Options) (log : List Event) : Outcome :=
  let kind := if o.kind = "" then
      Text.toLowerAscii (o.positional.headD "") else Text.toLowerAscii o.kind
  if kind = "" then
    ⟨1, ["refs requires a kind (process, file, event, ...)"], log⟩
  else
    let connected := connect host.env (host.uniqueClientSpec "esptool-refs")
      (startedOn log)
    if !connected.1 then ⟨1, [], (disconnect host.env connected.2).log⟩
    else
      let created := host.createReferenceForKind o kind connected.2
      let inspected := if created.1.1 then
          host.inspectReference o kind created.1.2 created.2
        else created.2
      ⟨if created.1.1 then 0 else 1, [],
        (disconnect host.env inspected).log⟩

/-! ## Collections and the sweep -/

def extendedExercise (o : Options) (openId : Option Guid) :
    ExtendedExercise where
  lifetime := Int.bmod o.collectionLifetime (2 ^ 32)
  enumIds := o.enumIds
  doOpen := o.openCollection || openId.isSome
  openId := openId
  createType := o.collectionType

def exerciseExtended (openId : Option Guid) (o : Options) (s : Session) :
    Outcome :=
  let exercised := exerciseCollectionsExtended host.env
    (extendedExercise o openId) s
  ⟨if exercised.1 then 0 else 1, [], (disconnect host.env exercised.2).log⟩

def runCollections (o : Options) (log : List Event) : Outcome :=
  if !(o.enumIds || o.openCollection || o.collectionTypeSet ||
      o.guid != "") then
    host.runConnectedAction (fun s => (exerciseCollections host.env s).2) log
  else
    let connected := connect host.env {} (startedOn log)
    if !connected.1 then ⟨1, [], (disconnect host.env connected.2).log⟩
    else if o.guid = "" then host.exerciseExtended none o connected.2
    else
      match parseGuidOption o.guid with
      | none =>
          ⟨1, ["invalid --guid"], (disconnect host.env connected.2).log⟩
      | some id => host.exerciseExtended (some id) o connected.2

/-- `RunExercise`, with the counters it prints. -/
def runExercise (api : EspApi) (o : Options) (log : List Event) :
    Tally × Outcome :=
  let connected := (connect host.env {} (startedOn log)).2
  if o.isolated then
    (tallyOutcomes ((runIsolated host.systems api).map Prod.fst),
      ⟨0, [], (disconnect host.env connected).log⟩)
  else
    let swept := runInProcess host.exerciseHost api connected
    (tallyOutcomes swept.outcomes,
      ⟨0, [], (disconnect host.env swept.session).log⟩)

/-- `RunCallOne`: the exit code is the result of the export. -/
def runCallOne (api : EspApi) (o : Options) (log : List Event) :
    List (RawCall × RawReply) × Outcome :=
  match o.positional with
  | [] => ([], ⟨2, ["call-one requires <name>"], log⟩)
  | name :: _ =>
      let connected := (connect host.env {} (startedOn log)).2
      let called := callOne host.exerciseHost api connected name
      (called.2,
        ⟨(resultBits (toResult called.1)).toNat, [],
          (disconnect host.env connected).log⟩)

end ClientHost

/-! ## The commands together -/

/-- The commands of `DispatchEsp` that install no document. -/
inductive ClientCommand
  | exports
  | status
  | connect
  | clients
  | unregister
  | enumRules
  | removeRules
  | openQueue
  | trust
  | query
  | refs
  | collections
  | context
  | exercise
  | callOne
deriving DecidableEq, Repr

/-- `exports` and `status` read the table and make no call. -/
def ClientCommand.run (host : ClientHost) (api : EspApi) (o : Options)
    (log : List Event) : ClientCommand → Outcome
  | .exports => ⟨0, [], log⟩
  | .status => ⟨0, [], log⟩
  | .connect => host.runConnect log
  | .clients => host.runClients log
  | .unregister => host.runUnregister o log
  | .enumRules => host.runEnumRules log
  | .removeRules => host.runRemoveRules log
  | .openQueue => host.runOpenQueue log
  | .trust => host.runTrust log
  | .query => host.runQuery o log
  | .refs => host.runRefsDirect o log
  | .collections => host.runCollections o log
  | .context => host.runContext log
  | .exercise => (host.runExercise api o log).2
  | .callOne => (host.runCallOne api o log).2

end Esptool.Cli
