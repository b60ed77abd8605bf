import Esptool.SessionClient

/-!
# Creating, closing and querying object references

A reference is held twice: by the variable of the caller that it was created
into, and by `object_refs_`.  An operation that fills a variable takes the
value it has before and returns the one it has after.

What the query from a notification takes from outside is given by a
`NotifyHost`: the keys that the decoder reads behind the notification, the
conversion of a name to UTF-16, and the two fallbacks the commands set.
Standard output is not modelled.
-/

namespace Esptool.Esp

open Model Interaction

/-! ## Ownership -/

/-- `Adopt` into the caller's variable, and the entry in `object_refs_`. -/
def adoptReference (env : Env) (step : String) (call : Call) (s : Session) :
    (Bool × Handle) × Session :=
  let adopted := s.run (adopt env step call)
  match adopted.1 with
  | none => ((false, 0), adopted.2)
  | some reference =>
      ((true, reference),
        { adopted.2 with
          objectRefs := adopted.2.objectRefs ++ [reference] })

/-- The shape of the constructors: a lookup, a guard that leaves the variable
alone, and the call. -/
def createReference (env : Env) (name : String) (ready : Bool)
    (key : ReferenceKey) (out : Handle) (s : Session) :
    (Bool × Handle) × Session :=
  let resolved := s.run (require env (.createReference name))
  if !resolved.1 || s.clientHandle == 0 || !ready then
    ((false, out), resolved.2)
  else
    adoptReference env name (.createReference name s.clientHandle key)
      resolved.2

def createPidReference (env : Env) (name : String) (pid : ℤ) :
    Handle → Session → (Bool × Handle) × Session :=
  createReference env name true (.pid pid)

def createPathReference (env : Env) (name : String) (path : WString) :
    Handle → Session → (Bool × Handle) × Session :=
  createReference env name (!path.isEmpty) (.path (makePathDescriptor path))

def createDesktopReference (env : Env) (name : WString) :
    Handle → Session → (Bool × Handle) × Session :=
  createReference env "EspCreateDesktopReference" (!name.isEmpty)
    (.desktop name)

def createVolumeReference (env : Env) (volume : Guid) :
    Handle → Session → (Bool × Handle) × Session :=
  createReference env "EspCreateVolumeReference" (volume != Guid.null)
    (.volume volume)

def createFileIdReference (env : Env) (volume : Guid)
    (fileId : FileIdDescriptorRaw) :
    Handle → Session → (Bool × Handle) × Session :=
  createReference env "EspCreateFileReferenceById" (volume != Guid.null)
    (.fileId volume fileId)

def createStreamByIdReference (env : Env) (volume : Guid)
    (fileId : FileIdDescriptorRaw) (streamName : Option WString) :
    Handle → Session → (Bool × Handle) × Session :=
  createReference env "EspCreateFileStreamReferenceById"
    (volume != Guid.null) (.streamById volume fileId streamName)

def createEventObjectById (env : Env) (id : ℕ) :
    Handle → Session → (Bool × Handle) × Session :=
  createReference env "EspCreateEventObjectReferenceById" (id != 0)
    (.eventObject id)

def duplicateReference (env : Env) (reference out : Handle) (s : Session) :
    (Bool × Handle) × Session :=
  let resolved := s.run (require env .duplicateEventObjectReference)
  if !resolved.1 || reference == 0 then ((false, out), resolved.2)
  else
    adoptReference env "EspDuplicateEventObjectReference"
      (.duplicateEventObjectReference reference) resolved.2

/-- `CloseReference`: the variable is null afterwards, and so is every entry
of `object_refs_` with its value. -/
def closeReference (env : Env) (reference : Handle) (s : Session) :
    Session :=
  let closed := (s.run (closeOne env .closeEventObjectReference
    .closeEventObjectReference reference)).2
  { closed with
    objectRefs := closed.objectRefs.map fun stored =>
      if stored = reference then 0 else stored }

/-! ## The object behind a reference -/

def freeEspBuffer (env : Env) (buffer : Handle) : JournalM Unit :=
  closeOne env .freeMemory .freeMemory buffer

/-- `UnwrapReference` into a null view. -/
def unwrapReference (env : Env) (reference : Handle) :
    JournalM (Option Handle) := do
  let resolved ← require env .getEventObjectFromReference
  if !resolved || reference == 0 then
    return none
  adopt env "EspGetEventObjectFromReference"
    (.getEventObjectFromReference reference)

/-- The identifier is read whether the call fails or not; a call that is not
made leaves the caller's zero. -/
def getEventObjectId (env : Env) (view : Handle) : JournalM ℕ := do
  let resolved ← require env .getEventObjectId
  if !resolved || view == 0 then
    return 0
  let reply ← ask env.respond (.getEventObjectId view)
  record "EspGetEventObjectId" reply.result
  return reply.count.toNat

def getEventObjectType (env : Env) (view : Handle) : JournalM Unit := do
  let resolved ← require env .getEventObjectType
  if resolved && view != 0 then
    let reply ← ask env.respond (.getEventObjectType view)
    record "EspGetEventObjectType" reply.result

def setEventObjectContextKey (env : Env) (reference : Handle) :
    JournalM Unit := do
  let resolved ← require env .setEventObjectContextKey
  if resolved && reference != 0 then
    let reply ← ask env.respond (.setEventObjectContextKey reference)
    record "EspSetEventObjectContextKey" reply.result

def enumerateEventObjectContextKeys (env : Env) (reference : Handle) :
    JournalM Unit := do
  let resolved ← require env .enumerateAllEventObjectContextKeys
  if resolved && reference != 0 then
    let reply ← ask env.respond
      (.enumerateAllEventObjectContextKeys reference)
    record "EspEnumerateAllEventObjectContextKeys" reply.result
    freeEspBuffer env reply.out

def isPropertySupported (env : Env) (client : Handle) (kind : String)
    (property : ℕ) : JournalM Unit :=
  match supportExportForKind kind with
  | none => pure ()
  | some name =>
      if client = 0 then pure ()
      else do
        let resolved ← require env (.isPropertySupported name)
        if resolved then
          let reply ← ask env.respond
            (.isPropertySupported name client property)
          record name reply.result

def queryKind (env : Env) (client : Handle) (kind : String) (view : Handle)
    (ids : List ℕ) : JournalM Unit :=
  if kind = "event" then warn "EspQueryEventProperties is not exported"
  else
    match queryExportForKind kind with
    | none => warn ("unknown query kind: " ++ kind)
    | some name => do
        let resolved ← require env (.queryProperties name)
        let object := if kind = "client" then client else view
        if resolved && object != 0 then
          if ids.isEmpty then warn "QueryKind requires count >= 1"
          else
            let reply ← ask env.respond (.queryProperties name object ids)
            record name reply.result
            freeEspBuffer env reply.out

/-! ## The query from a notification -/

/-- The fields of `NotificationKeys` that the query reads. -/
structure NotificationKeys where
  eventType : ℕ := 0
  pid : ℕ := 0
  name : String := ""

structure NotifyHost where
  decodeNotificationKeys : Handle → Option NotificationKeys
  toUtf16 : String → WString
  fallbackPath : WString
  fallbackPid : ℤ

def kNtPathPrefix : String := "$nt:"

def looksLikeNtPathPrefix (value : String) : Bool :=
  value.utf8ByteSize > kNtPathPrefix.utf8ByteSize &&
    value.startsWith kNtPathPrefix

def looksLikeNtDevicePath (value : String) : Bool :=
  value.startsWith "\\Device\\" || value.startsWith "\\??\\" ||
    value.startsWith "\\DosDevices\\"

/-- The path of a file notification, empty without a name. -/
def notificationPath (env : Env) (host : NotifyHost) (name : String) :
    WString :=
  if name = "" then []
  else if looksLikeNtDevicePath name then host.toUtf16 name
  else
    env.expandFilterValue
      (if name.startsWith "\\" && !looksLikeNtPathPrefix name
        then kNtPathPrefix ++ name else name)

/-- The reference to the object of the notification; its variable starts
null. -/
def createNatural (env : Env) (host : NotifyHost) (keys : NotificationKeys)
    (s : Session) : (Bool × Handle) × Session :=
  if isFoIoEvent keys.eventType then
    let path := notificationPath env host keys.name
    let first := if path.isEmpty then ((false, 0), s)
      else createPathReference env "EspCreateFileReferenceByPath" path 0 s
    let second := if !first.1.1 && !host.fallbackPath.isEmpty
      then createPathReference env "EspCreateFileReferenceByPath"
        host.fallbackPath first.1.2 first.2
      else first
    if second.1.1 then second
    else
      (second.1, second.2.warn
        "QueryFromNotification Fo event has no usable path")
  else
    let pid := if keys.pid = 0 then (host.fallbackPid % 2 ^ 32).toNat
      else keys.pid
    if pid = 0 then
      ((false, 0), s.warn "QueryFromNotification process event has pid 0")
    else
      -- the pid goes back through `int`
      createPidReference env "EspCreateProcessReference" (Int.bmod pid (2 ^ 32))
        0 s

def supportedProperties (env : Env) (client : Handle)
    (recipe : QueryRecipe) : JournalM Unit := do
  recipe.properties.forM (isPropertySupported env client recipe.kind)
  if recipe.kind = "event" ∧ recipe.properties = [] then
    isPropertySupported env client "event" 1

def queryRecipe (env : Env) (client : Handle) (keys : NotificationKeys)
    (view contextRef : Handle) (query : ℕ × QueryRecipe) : JournalM Unit :=
  let recipe := query.2
  if query.1 ≠ 0 ∧ keys.eventType ≠ 0 ∧ query.1 ≠ keys.eventType then pure ()
  else do
    (if recipe.kind ≠ "" ∧ recipe.kind ≠ "event" ∧ recipe.properties ≠ [] then
      queryKind env client recipe.kind view recipe.properties else pure ())
    (if recipe.kind ≠ "" then supportedProperties env client recipe
      else pure ())
    (if recipe.contextSet then setEventObjectContextKey env contextRef
      else pure ())
    (if recipe.contextEnum then
      enumerateEventObjectContextKeys env contextRef else pure ())

/-- The reference by object identifier, and the view behind it. -/
def createById (env : Env) (id : ℕ) (s : Session) :
    (Handle × Option Handle) × Session :=
  if id = 0 then ((0, none), s)
  else
    let created := createEventObjectById env id 0 s
    if created.1.1 then
      let view := created.2.run (unwrapReference env created.1.2)
      ((created.1.2, view.1), view.2)
    else ((created.1.2, none), created.2)

def queryNatural (env : Env) (keys : NotificationKeys) (natural : Handle)
    (s : Session) : Session :=
  let view := s.run (unwrapReference env natural)
  match view.1 with
  | none => closeReference env natural view.2
  | some object =>
      let identified := view.2.run do
        getEventObjectType env object
        getEventObjectId env object
      let byId := createById env identified.1 identified.2
      -- the object by identifier is queried when it could be unwrapped
      let queried := (byId.2.run (byId.2.notifyQueries.forM
        (queryRecipe env byId.2.clientHandle keys (byId.1.2.getD object)
          (if byId.1.2.isSome then byId.1.1 else natural)))).2
      closeReference env natural (closeReference env byId.1.1 queried)

def queryFromNotification (env : Env) (host : NotifyHost) (s : Session) :
    Bool × Session :=
  if s.notification = 0 ∨ s.clientHandle = 0 then (false, s)
  else
    match host.decodeNotificationKeys s.notification with
    | none =>
        (false, s.warn
          "QueryFromNotification could not decode notification keys")
    | some keys =>
        let natural := createNatural env host keys s
        if natural.1.1 then
          (true, queryNatural env keys natural.1.2 natural.2)
        else (false, natural.2)

/-- `HandleQueueNotification`, the callback of the queue. -/
def handleQueueNotification (notification : Handle) (s : Session) :
    Session :=
  if notification = 0 then s else { s with notification := notification }

end Esptool.Esp
