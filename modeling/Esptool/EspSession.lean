import Esptool.RefAbi
import Esptool.RuleAbi
import Esptool.Lib.Interaction

/-!
# The session and the exports it calls

A session owns the handles it obtained from the client library and keeps the
step and warning lists that its reports print.  Every call that leaves the
tool is filed, with its reply, in the log of the session's journal; the log is
not part of the program, and neither is the tag, which says for which rule of
the document the current work is done.

Payload storage that only has to outlive a call (the blob and string deques)
is not modelled: a call carries the content its pointers reach.
-/

namespace Esptool.Esp

open Model Interaction

inductive Export
  | registerClient
  | connectClient
  | disconnectClient
  | unregisterClient
  | enumerateRegisteredClients
  | createEventQueue
  | openEventQueue
  | closeEventQueue
  | connectEventQueueWithCallback
  | connectEventQueueWithIocp
  | allocateEventNotification
  | armEventNotification
  | completeEventNotification
  | freeEventNotification
  | createTypedFilter (selector : ℕ)
  | createAndFilter
  | createOrFilter
  | createXorFilter
  | createNotFilter
  | closeFilter
  | createRule
  | updateRules
  | closeRule
  | enumerateRuleIds
  | removeAllRulesForClient
  | createCollection
  | openCollection
  | updateCollection
  | enumerateCollectionEntries
  | getCollectionType
  | getCollectionId
  | enumerateCollectionIds
  | closeCollection
  | createReference (name : String)
  | duplicateEventObjectReference
  | closeEventObjectReference
  | getEventObjectFromReference
  | getEventObjectId
  | getEventObjectType
  | setEventObjectContextKey
  | enumerateAllEventObjectContextKeys
  | queryProperties (name : String)
  | isPropertySupported (name : String)
  | freeMemory
deriving DecidableEq, Repr

def Export.name : Export → String
  | .registerClient => "EspRegisterClient"
  | .connectClient => "EspConnectClient"
  | .disconnectClient => "EspDisconnectClient"
  | .unregisterClient => "EspUnregisterClient"
  | .enumerateRegisteredClients => "EspEnumerateRegisteredClients"
  | .createEventQueue => "EspCreateEventQueue"
  | .openEventQueue => "EspOpenEventQueue"
  | .closeEventQueue => "EspCloseEventQueue"
  | .connectEventQueueWithCallback => "EspConnectEventQueueWithCallback"
  | .connectEventQueueWithIocp => "EspConnectEventQueueWithIocp"
  | .allocateEventNotification => "EspAllocateEventNotification"
  | .armEventNotification => "EspArmEventNotification"
  | .completeEventNotification => "EspCompleteEventNotification"
  | .freeEventNotification => "EspFreeEventNotification"
  | .createTypedFilter selector => kTypedFilterExports.getD selector ""
  | .createAndFilter => "EspCreateAndFilter"
  | .createOrFilter => "EspCreateOrFilter"
  | .createXorFilter => "EspCreateXorFilter"
  | .createNotFilter => "EspCreateNotFilter"
  | .closeFilter => "EspCloseFilter"
  | .createRule => "EspCreateRule"
  | .updateRules => "EspUpdateRules"
  | .closeRule => "EspCloseRule"
  | .enumerateRuleIds => "EspEnumerateRuleIds"
  | .removeAllRulesForClient => "EspRemoveAllRulesForClient"
  | .createCollection => "EspCreateCollection"
  | .openCollection => "EspOpenCollection"
  | .updateCollection => "EspUpdateCollection"
  | .enumerateCollectionEntries => "EspEnumerateCollectionEntries"
  | .getCollectionType => "EspGetCollectionType"
  | .getCollectionId => "EspGetCollectionId"
  | .enumerateCollectionIds => "EspEnumerateCollectionIds"
  | .closeCollection => "EspCloseCollection"
  | .createReference name => name
  | .duplicateEventObjectReference => "EspDuplicateEventObjectReference"
  | .closeEventObjectReference => "EspCloseEventObjectReference"
  | .getEventObjectFromReference => "EspGetEventObjectFromReference"
  | .getEventObjectId => "EspGetEventObjectId"
  | .getEventObjectType => "EspGetEventObjectType"
  | .setEventObjectContextKey => "EspSetEventObjectContextKey"
  | .enumerateAllEventObjectContextKeys =>
      "EspEnumerateAllEventObjectContextKeys"
  | .queryProperties name => name
  | .isPropertySupported name => name
  | .freeMemory => "EspFreeMemory"

/-- One call out of the tool, with the content of its arguments.  The three
last ones are not exports: the two in-memory patches of the loaded library
and the GUID generator of the operating system. -/
inductive Call
  | registerClient (id : Guid) (name : String) (altitude : ℕ)
  | connectClient (id : Guid)
  | disconnectClient (client : Handle)
  | unregisterClient (id : Guid)
  | enumerateRegisteredClients
  | createEventQueue (client : Handle)
  | openEventQueue (client : Handle) (id : Guid)
  | closeEventQueue (queue : Handle)
  | connectEventQueueWithCallback (queue : Handle)
  | connectEventQueueWithIocp (queue port : Handle)
  | allocateEventNotification
  | armEventNotification (queue notification : Handle)
  | completeEventNotification (notification : Handle)
  | freeEventNotification (notification : Handle)
  | createTypedFilter (selector property sizeClass : ℕ) (payload : Payload)
  | createBinaryFilter (combinator : Export) (left right : Handle)
  | createNotFilter (child : Handle)
  | closeFilter (filter : Handle)
  | createRule (descriptor : RuleDescriptor)
  | updateRules (client : Handle) (entries : List RuleUpdateEntry)
  | closeRule (rule : Handle)
  | enumerateRuleIds (client : Handle) (lifetime : ℕ)
  | removeAllRulesForClient (client : Handle)
  | createCollection (client : Handle) (type subtype : ℕ)
  | openCollection (client : Handle) (id : Guid)
  | updateCollection (collection : Handle) (entry : CollectionEntry)
  | enumerateCollectionEntries (collection : Handle)
  | getCollectionType (collection : Handle)
  | getCollectionId (collection : Handle)
  | enumerateCollectionIds (client : Handle) (lifetime : ℤ)
  | closeCollection (collection : Handle)
  | createReference (name : String) (client : Handle) (key : ReferenceKey)
  | duplicateEventObjectReference (reference : Handle)
  | closeEventObjectReference (reference : Handle)
  | getEventObjectFromReference (reference : Handle)
  | getEventObjectId (view : Handle)
  | getEventObjectType (view : Handle)
  | setEventObjectContextKey (reference : Handle)
  | enumerateAllEventObjectContextKeys (reference : Handle)
  | queryProperties (name : String) (object : Handle) (ids : List ℕ)
  | isPropertySupported (name : String) (client : Handle) (property : ℕ)
  | freeMemory (buffer : Handle)
  | applyFromFfiCompatPatch
  | applyEventTypeBypassPatch
  | coCreateGuid
deriving DecidableEq, Repr

def Call.buildsCollections : Call → Bool
  | .createCollection .. => true
  | .openCollection .. => true
  | .updateCollection .. => true
  | _ => false

def Call.createsFilter : Call → Bool
  | .createTypedFilter .. => true
  | .createBinaryFilter .. => true
  | .createNotFilter _ => true
  | _ => false

def Call.buildsObjects : Call → Bool
  | .createTypedFilter .. => true
  | .createBinaryFilter .. => true
  | .createNotFilter _ => true
  | .closeFilter _ => true
  | .createCollection .. => true
  | .openCollection .. => true
  | .updateCollection .. => true
  | _ => false

abbrev EspResult := ℤ

structure Reply where
  result : EspResult
  out : Handle := 0
  count : ℤ := 0
  ids : List Guid := []
deriving DecidableEq, Repr

def kOk : EspResult := 0
def kFail : EspResult := 0x80004005 - 2 ^ 32
def kInvalidArg : EspResult := 0x80070057 - 2 ^ 32
def kAlreadyExists : EspResult := 0x800700B7 - 2 ^ 32

def succeeded (result : EspResult) : Bool := decide (result ≥ 0)

def failed (result : EspResult) : Bool := decide (result < 0)

theorem failed_eq_not_succeeded (result : EspResult) :
    failed result = !succeeded result := by
  by_cases h : result < 0
  · simp [failed, succeeded, h]
  · simp [failed, succeeded, h, Int.not_lt.mp h]

theorem failed_kInvalidArg : failed kInvalidArg = true := by
  decide

abbrev Event := Interaction.Event (Option ℕ) Call Reply

/-- Everything outside the session: which exports were resolved, what every
call replies after any history of calls, how a filter value expands to the
UTF-16 text of a device path, and the text a failed patch reports. -/
structure Env where
  available : Export → Bool
  respond : Oracle (Option ℕ) Call Reply
  expandFilterValue : String → WString
  patchError : List Event → String

/-- A library that accepts every call and hands out fresh handles. -/
def acceptingEnv : Env where
  available _ := true
  respond log _ := { result := kOk, out := log.length + 1 }
  expandFilterValue value := value.toList.map fun c => UInt16.ofNat c.toNat
  patchError _ := ""

structure StepResult where
  step : String
  result : EspResult
  ok : Bool
deriving DecidableEq, Repr

/-- The parts of a session that filter and collection building can change. -/
structure Notes where
  filters : List Handle := []
  collections : List Handle := []
  steps : List StepResult := []
  warnings : List String := []

abbrev Journal := Interaction.Journal (Option ℕ) Call Reply Notes

abbrev JournalM := StateM Journal

def warn (message : String) : JournalM Unit :=
  note fun n => { n with warnings := n.warnings ++ [message] }

def record (step : String) (result : EspResult) : JournalM Unit :=
  note fun n =>
    { n with steps := n.steps ++ [⟨step, result, succeeded result⟩] }

def pushFilter (filter : Handle) : JournalM Unit :=
  note fun n => { n with filters := n.filters ++ [filter] }

def pushCollection (collection : Handle) : JournalM Unit :=
  note fun n => { n with collections := n.collections ++ [collection] }

/-- `Require`: is the export resolved; a missing one leaves a warning. -/
def require (env : Env) (wanted : Export) : JournalM Bool :=
  if env.available wanted then pure true
  else do
    warn ("export not available: " ++ wanted.name)
    return false

/-- `Adopt`: the handle of a successful call that filled its out-slot. -/
def adopt (env : Env) (step : String) (call : Call) :
    JournalM (Option Handle) := do
  let reply ← ask env.respond call
  record step reply.result
  return if failed reply.result || reply.out == 0 then none
    else some reply.out

section

variable {env : Env} {allowed : Call → Prop}

theorem warn_scripted (message : String) :
    Scripted env.respond allowed (warn message) :=
  .note _

theorem record_scripted (step : String) (result : EspResult) :
    Scripted env.respond allowed (record step result) :=
  .note _

theorem require_scripted (wanted : Export) :
    Scripted env.respond allowed (require env wanted) := by
  refine .ite (.pure _) (.bind (warn_scripted _) fun _ => ?_)
  exact .pure _

theorem adopt_scripted (step : String) {call : Call} (h : allowed call) :
    Scripted env.respond allowed (adopt env step call) := by
  refine .bind (.ask call h) fun _ => ?_
  exact .bind (record_scripted _ _) fun _ => .pure _

end

def closeOne (env : Env) (closer : Export) (close : Handle → Call)
    (handle : Handle) : JournalM Unit :=
  if handle ≠ 0 then do
    if ← require env closer then
      let _ ← ask env.respond (close handle)
  else pure ()

def closeOwned (env : Env) (closer : Export) (close : Handle → Call) :
    List Handle → JournalM Unit
  | [] => pure ()
  | handle :: handles => do
      closeOne env closer close handle
      closeOwned env closer close handles

structure Session where
  registeredThisSession : Bool := false
  clientHandle : Handle := 0
  queueHandle : Handle := 0
  notification : Handle := 0
  clientId : Guid := Guid.null
  notificationsReceived : ℕ := 0
  rules : List Handle := []
  namedCollections : List (String × Handle) := []
  objectRefs : List Handle := []
  notifyQueries : List (ℕ × QueryRecipe) := []
  unregisterOnDisconnect : Bool := true
  enforceCompat : Bool := false
  enforceCompatPatchAttempted : Bool := false
  enforceCompatPatchOk : Bool := false
  enforceCompatError : String := ""
  journal : Journal := ⟨none, [], {}⟩

namespace Session

def fresh : Session := {}

def log (s : Session) : List Event := s.journal.log

def setEnforceCompat (s : Session) (value : Bool) : Session :=
  { s with enforceCompat := value }

/-- Run a journal computation on the session's journal. -/
def run {α : Type} (s : Session) (m : JournalM α) : α × Session :=
  ((m s.journal).1, { s with journal := (m s.journal).2 })

def atRule (s : Session) (tag : Option ℕ) : Session :=
  { s with journal := { s.journal with tag := tag } }

def warn (s : Session) (message : String) : Session :=
  (s.run (Esp.warn message)).2

end Session

/-! ## Connecting and disconnecting -/

def unregisterIfOwned (env : Env) (s : Session) : Session :=
  if s.registeredThisSession ∧ s.unregisterOnDisconnect then
    let released := s.run do
      if ← require env .unregisterClient then
        let reply ← ask env.respond (.unregisterClient s.clientId)
        record "EspUnregisterClient" reply.result
    { released.2 with registeredThisSession := false }
  else s

/-- The journal side of `Disconnect`, up to the registration. -/
def releaseHandles (env : Env) (s : Session) : JournalM Unit := do
  closeOne env .freeEventNotification .freeEventNotification s.notification
  closeOwned env .closeFilter .closeFilter s.journal.notes.filters
  closeOwned env .closeRule .closeRule s.rules
  closeOwned env .closeEventObjectReference .closeEventObjectReference
    s.objectRefs
  closeOwned env .closeCollection .closeCollection
    s.journal.notes.collections
  closeOne env .closeEventQueue .closeEventQueue s.queueHandle
  closeOne env .disconnectClient .disconnectClient s.clientHandle
  note fun n => { n with filters := [], collections := [] }

def disconnect (env : Env) (s : Session) : Session :=
  let released := (s.run (releaseHandles env s)).2
  unregisterIfOwned env
    { released with
      notification := 0
      rules := []
      objectRefs := []
      namedCollections := []
      notifyQueries := []
      queueHandle := 0
      clientHandle := 0 }

end Esptool.Esp
