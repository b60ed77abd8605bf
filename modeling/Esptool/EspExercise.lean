import Esptool.EspApi
import Esptool.EspStatus
import Esptool.ExerciseArguments

/-!
# The sweep over the exports

`EspExercise` calls every export of the table.  The sweep in the own process
passes one scratch record from call to call, and what an export writes there
is not known: the reply of a raw call leaves an arbitrary record behind.  The
isolated sweep starts one process for each export instead.
-/

namespace Esptool.Esp

open Model Process Interaction

/-! ## The scratch record -/

structure ClientRegisterDescriptor where
  id : Guid := Guid.null
  name : WString := []
  altitude : WString := []
deriving DecidableEq

/-- What the slots of a raw call point at. -/
structure Scratch where
  guid : Guid := Guid.null
  count : ℤ := 0
  type : ℤ := 0
  handle : Handle := 0
  handle2 : Handle := 0
  properties : List ℕ := [1, 2, 3, 4]
  context : List ℕ := List.replicate 8 0
  blob : List UInt8 := List.replicate 64 0
  widePath : WString := []
  wideName : WString := []
  registerDesc : ClientRegisterDescriptor := {}
  ruleDesc : RuleDescriptor := {}

def kMaxPath : ℕ := 260
def kFallbackPath : WString := Text.wide "C:\\Windows\\notepad.exe"
def kDefaultClientNameWide : WString := Text.wide kDefaultClientName
def kDefaultClientAltitudeWide : WString := Text.wide "385000"

/-- `FillDefaultByPath`, from the answer of `GetWindowsDirectoryW`. -/
def fillDefaultByPath (directory : WString) : WString :=
  if directory.length = 0 ∨ directory.length ≥ kMaxPath then kFallbackPath
  else
    let slash := directory.getLast?.any separators.contains
    let path := directory ++
      Text.wide (if slash then "notepad.exe" else "\\notepad.exe")
    if path.length < kMaxPath then path else kFallbackPath

def initialScratch (directory : WString) : Scratch :=
  { widePath := fillDefaultByPath directory
    wideName := kDefaultClientNameWide }

/-- The effect of `BuildArguments` on the record: four of the slots that
exports share are set before each call.  The slot `type`, which
`EspGetEventObjectType` and `EspGetCollectionType` share, and the buffers are
left as they are. -/
def resetScratch (descriptor : ExportDescriptor) (clientId : Guid)
    (scratch : Scratch) : Scratch :=
  let reset := { scratch with
    guid := clientId
    count := 0
    handle := 0
    handle2 := 0 }
  if descriptor.name = "EspRegisterClient" then
    { reset with
      registerDesc :=
        ⟨clientId, scratch.wideName, kDefaultClientAltitudeWide⟩ }
  else if descriptor.name = "EspCreateRule" then
    { reset with ruleDesc := {} }
  else reset

/-! ## Outcomes -/

structure ExportOutcome where
  name : String
  arity : ℕ
  resolved : Bool := false
  invoked : Bool := false
  result : ℤ := 0
  detail : String := ""
deriving DecidableEq, Repr

def isExcluded (name : String) : Bool :=
  name == "_DllMainCRTStartup" || name == "EspCreateFileStreamReferenceById"

/-- `SeedOutcome`: may the export be called, and the outcome so far. -/
def seedOutcome (descriptor : ExportDescriptor) : Bool × ExportOutcome :=
  let outcome : ExportOutcome :=
    { name := descriptor.name
      arity := descriptor.arity
      resolved := descriptor.address != 0 }
  if isExcluded descriptor.name then
    (false, { outcome with detail := "excluded from CallRaw" })
  else if descriptor.address = 0 then
    (false, { outcome with
      detail := "not exported by the loaded library" })
  else (true, outcome)

/-! ## The sweep in the own process -/

/-- A call through the raw signature. -/
structure RawCall where
  descriptor : ExportDescriptor
  arguments : ArgVec
  scratch : Scratch

structure RawReply where
  value : ℤ
  scratch : Scratch

structure ExerciseHost where
  env : Env
  windowsDirectory : WString
  respond : List (RawCall × RawReply) → RawCall → RawReply

/-- `EspApi::Invoke`; a null address is not called. -/
def invoke (host : ExerciseHost) (calls : List (RawCall × RawReply))
    (call : RawCall) : RawReply × List (RawCall × RawReply) :=
  if call.descriptor.address = 0 then (⟨0, call.scratch⟩, calls)
  else
    let reply := host.respond calls call
    (reply, calls ++ [(call, reply)])

structure Sweep where
  session : Session
  scratch : Scratch
  calls : List (RawCall × RawReply) := []
  outcomes : List ExportOutcome := []

/-- `CallRaw`: the result is recorded as a step of the session. -/
def callRaw (host : ExerciseHost) (call : RawCall) (st : Sweep) :
    EspResult × Sweep :=
  let called := invoke host st.calls call
  let result := toResult called.1.value
  (result,
    { st with
      session := (st.session.run
        (record ("call:" ++ call.descriptor.name) result)).2
      scratch := called.1.scratch
      calls := called.2 })

def Sweep.push (st : Sweep) (outcome : ExportOutcome) : Sweep :=
  { st with outcomes := st.outcomes ++ [outcome] }

def kSkippedExport : String := "EspAllocateEventNotification"

/-- One turn of `RunInProcess`. -/
def exerciseOne (host : ExerciseHost) (st : Sweep)
    (descriptor : ExportDescriptor) : Sweep :=
  let seeded := seedOutcome descriptor
  if !seeded.1 then st.push seeded.2
  else if descriptor.name = kSkippedExport then
    st.push { seeded.2 with
      detail := "skipped: unarmed Allocate AVs in Free/teardown" }
  else
    let called := callRaw host
      { descriptor := descriptor
        arguments := buildArguments descriptor
        scratch := resetScratch descriptor st.session.clientId st.scratch }
      st
    called.2.push { seeded.2 with
      invoked := true
      result := called.1
      detail := describeResult called.1 }

/-- A queue, and a callback that does nothing; the queue is not armed. -/
def prepareSession (env : Env) (s : Session) : Session :=
  if s.clientHandle = 0 then s
  else
    let queued := if s.queueHandle = 0 then (createQueue env s).2 else s
    if queued.queueHandle ≠ 0 then (connectQueueToCallback env queued).2
    else queued

def runInProcess (host : ExerciseHost) (api : EspApi) (s : Session) :
    Sweep :=
  api.exports.foldl (exerciseOne host)
    { session := prepareSession host.env s
      scratch := initialScratch host.windowsDirectory }

/-! ## The isolated sweep -/

def kIsolatedSweepTimeoutMs : ℕ := 20000

def sweepLaunch : LaunchOptions where
  hidden := true
  waitMs := kIsolatedSweepTimeoutMs
  terminateOnTimeout := true
  timeoutExitCode := (resultBits kStatusCancelled).toNat

/-- The arguments of the child that calls one export. -/
def callOneArguments (hostLibrary : WString) (name : String) :
    List WString :=
  [kWorkerFlag] ++
    (if hostLibrary ≠ [] then [Text.wide "--dll", hostLibrary] else []) ++
    [Text.wide "call-one", Text.wide name]

def isolatedDetail (exitCode : ℕ) : String :=
  if toResult exitCode = kStatusAccessViolation then "access violation"
  else if toResult exitCode = kStatusStackBufferOverrun then
    "stack buffer overrun"
  else if toResult exitCode = kStatusCancelled then
    "timed out and was terminated"
  else describeResult (toResult exitCode)

/-- One turn of `RunIsolated`, with the calls on processes it makes. -/
def isolateOne (sys : System) (hostLibrary : WString)
    (descriptor : ExportDescriptor) : ExportOutcome × List ProcessCall :=
  let seeded := seedOutcome descriptor
  if !seeded.1 then (seeded.2, [])
  else
    let launched := runSameImage sys
      (callOneArguments hostLibrary descriptor.name) sweepLaunch
    if !launched.1.created then
      ({ seeded.2 with
        detail := if launched.1.error = "" then
          "child process creation failed" else launched.1.error },
        launched.2)
    else
      ({ seeded.2 with
        invoked := true
        result := toResult launched.1.exitCode
        detail := isolatedDetail launched.1.exitCode }, launched.2)

/-- `RunIsolated`; an export is launched once, so its name tells the launch
apart. -/
def runIsolated (systems : String → System) (api : EspApi) :
    List (ExportOutcome × List ProcessCall) :=
  api.exports.map fun descriptor =>
    isolateOne (systems descriptor.name) api.loadedPath descriptor

/-! ## The counters -/

/-- What `RunExercise` prints behind the table. -/
structure Tally where
  total : ℕ := 0
  resolved : ℕ := 0
  invoked : ℕ := 0
  ok : ℕ := 0
  failed : ℕ := 0
  faulted : ℕ := 0
deriving DecidableEq, Repr

def Tally.count (tally : Tally) (outcome : ExportOutcome) : Tally where
  total := tally.total + 1
  resolved := tally.resolved + if outcome.resolved then 1 else 0
  invoked := tally.invoked + if outcome.invoked then 1 else 0
  ok := tally.ok + if outcome.invoked ∧ 0 ≤ outcome.result then 1 else 0
  failed := tally.failed +
    if outcome.invoked ∧ outcome.result < 0 then 1 else 0
  faulted := tally.faulted +
    if outcome.invoked ∧ isFault outcome.result then 1 else 0

def tallyOutcomes (outcomes : List ExportOutcome) : Tally :=
  outcomes.foldl Tally.count {}

/-! ## The child -/

/-- `CallOne`, the body of the child. -/
def callOne (host : ExerciseHost) (api : EspApi) (s : Session)
    (name : String) : ℤ × List (RawCall × RawReply) :=
  if isExcluded name then (kInvalidArg, [])
  else
    match api.find name with
    | none => (kModNotFound, [])
    | some descriptor =>
        if descriptor.address = 0 then (kModNotFound, [])
        else
          let called := invoke host []
            { descriptor := descriptor
              arguments := buildArguments descriptor
              scratch := resetScratch descriptor s.clientId
                (initialScratch host.windowsDirectory) }
          (called.1.value, called.2)

end Esptool.Esp
