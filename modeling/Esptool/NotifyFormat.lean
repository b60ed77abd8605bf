import Esptool.EspRefs
import Esptool.NotifyDecode
import Esptool.Text

/-!
# The keys of a notification

`EspNotifyFormat.cpp`: the event type, process, thread and name of a
notification, and the properties that it and its parameters list.  Every
number is as wide as its type in the source, since it comes from as many
bytes; the narrowing casts are written out.
-/

namespace Esptool.Esp

open CheckedRead

/-! ## Strings -/

/-- The UTF-16 units of bytes in memory. -/
def unitsOf : List UInt8 → List UInt16
  | low :: high :: rest =>
      UInt16.ofNat (littleEndian [low, high]) :: unitsOf rest
  | _ => []

def tryReadUnicodeString (us : ℕ) : Reading String := do
  guard (us ≠ 0)
  let length ← notifyReadU16 us kUnicodeStringLengthOffset
  let buffer ← notifyReadPtr us kUnicodeStringBufferOffset
  guard (length ≠ 0 ∧ length % 2 = 0 ∧ length ≤ 32766)
  let text ← readRange buffer length
  return String.ofList (Text.toUtf8 (unitsOf text))

/-- The string descriptor of a boxed name. -/
def nameDescriptor (boxed : ℕ) : Reading ℕ := do
  let boxedType ← notifyReadU32 boxed kBoxedTypeOffset
  guard (isNameBoxedType boxedType)
  notifyReadPtr boxed kBoxedPayloadOffset

def tryReadNamePrimary (params : ℕ) : Reading String := do
  let object ← notifyReadPtr params kParamsObjectOffset
  let collection ← notifyReadPtr object kNameCollectionOffset
  let count ← notifyReadU32 collection kNameCollectionCountOffset
  guard (1 ≤ count)
  let boxed ← notifyReadPtr collection kNameBoxedOffset
  let us ← nameDescriptor boxed
  tryReadUnicodeString us

def tryReadNameAlternate (params : ℕ) : Reading String := do
  let wrapper ← notifyReadPtr params kParamsObjectOffset
  let inner ← notifyReadPtr wrapper kNameWrapperInnerOffsetAlternate
  let status ← notifyReadU32 inner kWrapperStatusOffset
  guard (status = 0)
  let us ← notifyReadPtr inner kWrapperBlobOffset
  tryReadUnicodeString us

def tryReadNameFromPropertyValue (boxed : ℕ) : Reading String := do
  let tag ← notifyReadU8 boxed kPropertyValueTagOffset
  guard (tag = kPropertyValueTagPath)
  let us ← notifyReadPtr boxed kBoxedPayloadOffset
  tryReadUnicodeString us

def tryReadNameFromQuerySlot (slot : ℕ) : Reading String := do
  guard (slot ≠ 0)
  (do
    let us ← nameDescriptor slot
    tryReadUnicodeString us) <|>
    tryReadNameFromPropertyValue slot

def tryReadNameFromNotificationQuery (notification : ℕ) : Reading String :=
  (do
    let slot ← tryReadNotificationQuerySlot notification 20
    tryReadNameFromQuerySlot slot) <|>
  (do
    let slot ← tryReadNotificationQuerySlot notification
      kProcessQueryPropertyName
    tryReadNameFromQuerySlot slot) <|>
  (do
    let slot ← tryReadNotificationQueryNameSlot notification
    tryReadNameFromQuerySlot slot)

/-- One turn of the loop over the bag: the pointer that stands at this index
behind the header of the bag. -/
def nameOfBagEntry (bag index : ℕ) : Reading String := do
  let boxed ← orKeep (notifyReadPtr bag
    (kObjectQueryPtrOffset + index * kPropertyCollectionStride)) 0
  match ← attempt (nameDescriptor boxed) with
  | some us => tryReadUnicodeString us
  | none => tryReadNameFromPropertyValue boxed

def tryReadNameFromQueryBag (params : ℕ) : Reading String := do
  let bag ← notifyReadPtr params kParamsPidBagOffset
  let count ← notifyReadU32 bag kObjectQueryCountOffset
  guard (count ≠ 0)
  firstOf (nameOfBagEntry bag) (List.range count)

def kMaxInlineChars : ℕ := 260

/-- The units from these indices on, up to the first that is unreadable or
not printable ASCII. -/
def inlineUnits (text : ℕ) : List ℕ → Reading (List UInt16)
  | [] => pure []
  | index :: rest => do
      match ← attempt (notifyReadU16 text (index * 2)) with
      | none => return []
      | some unit =>
          if unit = 0 ∨ unit < 0x20 ∨ unit > 0x7E then return []
          else
            let wide ← inlineUnits text rest
            return UInt16.ofNat unit :: wide

def tryReadInlineNtPath (text : ℕ) : Reading String := do
  guard (text ≠ 0)
  startsNtPath text
  let wide ← inlineUnits text (List.range kMaxInlineChars)
  guard (wide.head? = some 0x5C)
  return String.ofList (Text.toUtf8 wide)

def tryReadFoNotificationName (notification eventType : ℕ) :
    Reading String := do
  match ← classifyFoNotificationName eventType notification with
  | (.unicodeString, source) => tryReadUnicodeString source
  | (.inlineUtf16, source) => tryReadInlineNtPath source

/-- A reader that is asked only while there is no name. -/
def unlessNamed (name : String) (read : Reading String) : Reading String :=
  if name = "" then orKeep read name else pure name

def readNotificationName (params : ℕ) (name : String) : Reading String :=
  if params = 0 then pure name
  else do
    let name ← orKeep (tryReadNameFromQueryBag params) name
    let name ← unlessNamed name (tryReadNamePrimary params)
    unlessNamed name (tryReadNameAlternate params)

/-! ## Families of properties -/

inductive Family
  | process
  | thread
  | fileObject
  | pipe
  | mailslot
  | registry
  | filesystem
  | ktm
  | volume
  | handle
  | token
  | desktop
  | unknown
deriving DecidableEq, Repr

def Family.text : Family → String
  | .process => "Process"
  | .thread => "Thread"
  | .fileObject => "FileObject"
  | .pipe => "Pipe"
  | .mailslot => "Mailslot"
  | .registry => "Registry"
  | .filesystem => "Filesystem"
  | .ktm => "Ktm"
  | .volume => "Volume"
  | .handle => "Handle"
  | .token => "Token"
  | .desktop => "Desktop"
  | .unknown => "Unknown"

def isProcessEvent (eventType : ℕ) : Bool :=
  eventType ≥ kEventProcessCreate && eventType ≤ kEventProcessLoadImage

def eventFamilyName (eventType : ℕ) : Family :=
  if isProcessEvent eventType then .process
  else if isThreadEventType eventType then .thread
  else if isFoIoEvent eventType then .fileObject
  else if eventType = kEventPipeCreate then .pipe
  else if eventType = kEventMailslotCreate then .mailslot
  else if isRegistryEventType eventType then .registry
  else if eventType ≥ kEventFsMin ∧ eventType ≤ kEventFsLockFile then
    .filesystem
  else if eventType = 3010 ∨ eventType = 3011 then .ktm
  else if eventType ≥ kEventVolumeMin ∧ eventType ≤ kEventVolumeMax then
    .volume
  else if eventType = kEventObCreateHandle ∨
      eventType = kEventObDuplicateHandle then .handle
  else .unknown

/-- The named properties of a family. -/
def Family.names : Family → List (ℕ × String)
  | .process =>
      [(1, "CommandLine"), (2, "SessionId"), (3, "ParentProcessId"),
        (4, "JobId"), (5, "Affinity"), (6, "ProcessId"), (7, "ExitStatus"),
        (8, "CreateTime"), (9, "ExitTime"), (10, "KernelTime"),
        (11, "UserTime"), (12, "ExitStatus"), (13, "UniqueProcessKey"),
        (14, "ProcessStartTime"), (16, "Wow64Process"),
        (17, "ProtectionLevel"), (18, "MitigationFlags"),
        (19, "TokenElevation"), (20, "ImagePath"), (21, "Subsystem"),
        (22, "Machine")]
  | .thread =>
      [(1, "ThreadId"), (2, "ProcessId"), (3, "CreateTime"), (4, "ExitTime"),
        (5, "StartAddress"), (6, "Subsystem"), (7, "Win32StartAddress")]
  | .fileObject =>
      [(1, "FileName"), (2, "Disposition"), (3, "AccessMask"),
        (4, "ShareAccess"), (5, "CreateOptions"), (6, "FileAttributes"),
        (7, "StreamName"), (8, "EndOfFile"), (9, "VolumeName"),
        (10, "FileIndex"), (18, "FileId"), (28, "FileObjectType")]
  | .pipe =>
      [(1, "PipeName"), (2, "PipeConfiguration"), (3, "MaxInstances"),
        (4, "CurrentInstances")]
  | .mailslot =>
      [(1, "MailslotName"), (2, "MaxMessageSize"), (3, "ReadTimeout")]
  | .registry =>
      [(1, "KeyPath"), (2, "ValueName"), (3, "ValueType"), (4, "ValueData"),
        (5, "Class"), (6, "TitleIndex")]
  | .filesystem =>
      [(1, "FileName"), (2, "FileInformationClass"), (3, "FileAccess"),
        (4, "AllocationSize"), (5, "EndOfFile"), (6, "FileAttributes"),
        (7, "SecurityInformation"), (8, "EaName"), (9, "FsctlCode")]
  | .volume =>
      [(1, "VolumeGuid"), (2, "DeviceName"), (3, "FileSystemType"),
        (4, "FsctlCode")]
  | .ktm =>
      [(1, "TransactionId"), (2, "TransactionUow"), (3, "IsolationLevel"),
        (4, "Timeout")]
  | .handle =>
      [(1, "Handle"), (2, "DesiredAccess"), (3, "GrantedAccess"),
        (4, "TargetProcessId"), (5, "SourceProcessId")]
  | .token =>
      [(1, "TokenUserSid"), (2, "TokenGroups"), (3, "TokenPrivileges"),
        (4, "TokenOwner"), (5, "TokenPrimaryGroup"), (6, "TokenDefaultDacl"),
        (7, "TokenType"), (8, "TokenImpersonationLevel"),
        (9, "TokenElevationType"), (10, "TokenIntegrityLevel"),
        (11, "TokenAppContainer")]
  | .desktop => [(1, "DesktopName"), (2, "SessionId")]
  | .unknown => []

/-- The text before the number of a property without a name. -/
def Family.unnamed : Family → String
  | .filesystem => "FsProp_"
  | .unknown => "Prop_"
  | family => family.text ++ "Prop_"

def lookupPropertyName (family : Family) (id : ℕ) : String :=
  (family.names.lookup id).getD (family.unnamed ++ toString id)

/-! ## Properties -/

structure DecodedProperty where
  family : Family
  id : ℕ := 0
  type : ℕ := 0
  rawValue : ℕ := 0
  name : String
  formattedValue : String
  isString : Bool := false
deriving DecidableEq, Repr

/-- The three fields of a slot. -/
structure PropertySlot where
  id : ℕ
  type : ℕ
  value : ℕ
deriving DecidableEq, Repr

/-- A slot of the query array of the notification. -/
def readQuerySlot (cursor : ℕ) : Reading PropertySlot := do
  check cursor kQuerySlotStride
  let id ← notifyReadU32 cursor kQuerySlotPropertyOffset
  let type ← notifyReadU32 cursor kQuerySlotTypeOffset
  let value ← notifyReadU64 cursor kQuerySlotPayloadOffset
  return ⟨id, type, value⟩

/-- A slot of a bag of the parameters; its fields are read in another
order. -/
def readBagSlot (cursor : ℕ) : Reading PropertySlot := do
  check cursor kPropertyCollectionStride
  let type ← notifyReadU32 cursor kBoxedTypeOffset
  let value ← notifyReadU64 cursor kBoxedPayloadOffset
  let id ← notifyReadU32 cursor 0
  return ⟨id, type, value⟩

/-- A number in upper-case hexadecimal digits. -/
def formatHex (value : ℕ) : String :=
  "0x" ++ String.ofList ((Nat.toDigits 16 value).map Char.toUpper)

def formatNumber (value : ℕ) : String :=
  toString value ++ " (" ++ formatHex value ++ ")"

/-- The text of a value, and whether it is a string.  The loop over the query
array tests for 64-bit integers too, with the same text as for the rest. -/
def formatSlot (slot : PropertySlot) : Reading (String × Bool) :=
  if isNameBoxedType slot.type then do
    let text ← orKeep (tryReadUnicodeString slot.value) ""
    return if text ≠ "" then (text, true) else (formatHex slot.value, false)
  else if slot.type = kBoxedTypeU32 ∨ slot.type = kBoxedTypeInt32 then
    pure (formatNumber (slot.value % 2 ^ 32), false)
  else
    pure (formatNumber slot.value, false)

/-- One turn of the loops over slots: an unreadable slot is skipped, and so
is one whose property is already listed. -/
def appendSlot (readSlot : ℕ → Reading PropertySlot) (family : Family)
    (out : List DecodedProperty) (cursor : ℕ) :
    Reading (List DecodedProperty) := do
  match ← attempt (readSlot cursor) with
  | none => return out
  | some slot =>
      if out.any fun p => p.family == family && p.id == slot.id then
        return out
      else
        let (formattedValue, isString) ← formatSlot slot
        return out ++
          [{ family
             id := slot.id
             type := slot.type
             rawValue := slot.value
             name := lookupPropertyName family slot.id
             formattedValue
             isString }]

def kQueryPropertiesMax : ℕ := 256
def kBagPropertiesMax : ℕ := 64

/-- The slots of a bag of the parameters. -/
def bagSlots (params bagOffset : ℕ) : Reading (List ℕ) := do
  let bag ← notifyReadPtr params bagOffset
  let count ← notifyReadU32 bag kObjectQueryCountOffset
  guard (count ≠ 0 ∧ count ≤ kBagPropertiesMax)
  let items ← notifyReadPtr bag kObjectQueryPtrOffset
  return (List.range count).map fun index =>
    atOffset items (index * kPropertyCollectionStride)

def readBag (params bagOffset : ℕ) (family : Family)
    (out : List DecodedProperty) : Reading (List DecodedProperty) := do
  let cursors ← orKeep (bagSlots params bagOffset) []
  fold (appendSlot readBagSlot family) cursors out

def readNotificationProperties (bytes eventType params : ℕ)
    (out : List DecodedProperty) : Reading (List DecodedProperty) :=
  if bytes = 0 then pure out
  else do
    let eventFamily := eventFamilyName eventType
    let cursors ← orKeep (querySlots kQueryPropertiesMax bytes) []
    let out ← fold (appendSlot readQuerySlot eventFamily) cursors out
    if params = 0 then return out
    else
      let out ← readBag params kParamsPidBagOffset .process out
      let out ← readBag params kParamsTidBagOffset .thread out
      readBag params kParamsObjectOffset eventFamily out

/-! ## The keys -/

structure NotificationHeader where
  kind : ℕ := 0
  identifier : ℕ := 0
  payloadLength : ℕ := 0
deriving DecidableEq, Repr

def readNotificationHeader (bytes : ℕ) : Reading NotificationHeader := do
  let kind ← notifyReadU32 bytes kNotificationKindOffset
  let identifier ← notifyReadU64 bytes kNotificationIdentifierOffset
  let payloadLength ← notifyReadU32 bytes kNotificationPayloadLengthOffset
  return ⟨kind, identifier, payloadLength⟩

/-- The event type of a notification, its parameters, and the block in which
the type was found. -/
structure NotificationBinding where
  eventType : ℕ := 0
  params : ℕ := 0
  eventData : ℕ := 0
deriving DecidableEq, Repr

def bindNotificationData (bytes : ℕ) : Reading NotificationBinding :=
  (do
    let bound ← tryBindLayout bytes kEventDataTypeOffsetProcess
      kNotificationProcessObjectOffset true
    return ⟨bound.eventType, bound.params, bytes⟩) <|>
  firstOf (fun candidate => do
    let data ← notifyReadPtr bytes candidate
    let bound ← tryBindEventData data
    return ⟨bound.eventType, bound.params, data⟩)
    kNotificationDataCandidates

/-- The name of a parameter block, when there is no name yet. -/
def readMissingName (params : ℕ) (vars : KeyVars) : Reading KeyVars :=
  if vars.name = "" then do
    let name ← readNotificationName params vars.name
    return { vars with name }
  else pure vars

def readFromParams (params : ℕ) (vars : KeyVars) : Reading KeyVars :=
  if params = 0 then pure vars
  else do
    let read ← (if vars.pid = 0 then tryReadPidTidFromParams params vars
      else pure (false, vars))
    readMissingName params read.2

def kProcessObjectOffsets : List ℕ :=
  [kEventDataProcessObjectOffset, kNotificationProcessObjectOffset,
    kProcessCreateChildObjectOffset, kProcessCreateActorObjectOffset]

/-- The process objects at these offsets, up to the first that gives a
process id or a name. -/
def readFromProcessObjects (eventData : ℕ) :
    List ℕ → KeyVars → Reading KeyVars
  | [], vars => pure vars
  | off :: rest, vars => do
      match ← attempt (notifyReadPtr eventData off) with
      | none => readFromProcessObjects eventData rest vars
      | some processObject =>
          let read ← tryReadPidTidFromParams processObject vars
          let vars ← readMissingName processObject read.2
          if vars.pid ≠ 0 ∨ vars.name ≠ "" then return vars
          else readFromProcessObjects eventData rest vars

/-- One turn of the last loop: what is still missing is taken from the listed
properties. -/
def takeFromProperty (eventType : ℕ) (vars : KeyVars)
    (prop : DecodedProperty) : KeyVars where
  pid :=
    if vars.pid = 0 ∧ prop.family = .process ∧ prop.id = 6 then
      prop.rawValue % 2 ^ 32
    else vars.pid
  tid :=
    if vars.tid = 0 ∧ prop.family = .thread ∧ prop.id = 1 then
      prop.rawValue % 2 ^ 32
    else vars.tid
  name :=
    if vars.name ≠ "" then vars.name
    else if isProcessEvent eventType then
      if prop.family = .process ∧ prop.id = 20 ∧ prop.isString then
        prop.formattedValue
      else vars.name
    else if prop.id = 1 ∧ prop.isString then prop.formattedValue
    else vars.name

/-- The keys of the source; `NotificationKeys` are those of them that other
components read. -/
structure DecodedKeys extends NotificationKeys where
  tid : ℕ := 0
  properties : List DecodedProperty := []

/-- The variables once the blocks that the notification points to have been
read: first the query array, then the parameters, then the process objects. -/
def readKeyVars (bytes : ℕ) (bound : NotificationBinding) :
    Reading KeyVars := do
  let pid ← orKeep (tryReadNotificationQueryPid bytes) 0
  let name ← orKeep (tryReadNameFromNotificationQuery bytes) ""
  let name ←
    (if isFoIoEvent bound.eventType then
      unlessNamed name (tryReadFoNotificationName bytes bound.eventType)
    else pure name)
  let vars ← readFromParams bound.params { pid, name }
  if vars.pid = 0 ∧ bound.eventData ≠ 0 ∧ isProcessEvent bound.eventType then
    readFromProcessObjects bound.eventData kProcessObjectOffsets vars
  else pure vars

/-- The keys of a notification whose header can be read. -/
def readNotificationKeys (bytes : ℕ) : Reading DecodedKeys := do
  guard (bytes ≠ 0)
  let _ ← readNotificationHeader bytes
  let bound ← orKeep (bindNotificationData bytes) {}
  let read ← readKeyVars bytes bound
  let properties ←
    readNotificationProperties bytes bound.eventType bound.params []
  let vars := properties.foldl (takeFromProperty bound.eventType) read
  return { eventType := bound.eventType
           pid := vars.pid
           name := vars.name
           tid := vars.tid
           properties }

/-- Whether anything was found, and the keys. -/
def decodeNotificationKeys (bytes : ℕ) : Attempt (Bool × DecodedKeys) := do
  match ← OptionT.run (readNotificationKeys bytes) with
  | none => return (false, {})
  | some keys =>
      return (keys.eventType != 0 || keys.pid != 0 || keys.name != "" ||
        !keys.properties.isEmpty, keys)

/-! ## The line of a notification -/

def formatEmptyNotificationLine (index : ℕ) : String :=
  "notification " ++ toString index ++
    " id=0 kind=0 payload=0 event=0 pid=0 tid=0 name=-"

def formatProperty (prop : DecodedProperty) : String :=
  "\n  prop[" ++ prop.family.text ++ ":" ++ toString prop.id ++ "] (" ++
    (if prop.name = "" then "Property" else prop.name) ++ ", type " ++
    toString prop.type ++ "): " ++ prop.formattedValue

def formatQueueNotification (bytes index : ℕ) : Attempt String := do
  match ← OptionT.run (readNotificationHeader bytes) with
  | none => return formatEmptyNotificationLine index
  | some header =>
      let (_, keys) ← decodeNotificationKeys bytes
      let line := "notification " ++ toString index ++
        " id=" ++ toString header.identifier ++
        " kind=" ++ toString header.kind ++
        " payload=" ++ toString header.payloadLength ++
        " event=" ++ toString keys.eventType ++
        " pid=" ++ toString keys.pid ++ " tid=" ++ toString keys.tid ++
        " name=" ++ (if keys.name = "" then "-" else keys.name)
      return keys.properties.foldl (fun line prop => line ++ formatProperty prop)
        line

end Esptool.Esp
