import Esptool.EventIds
import Esptool.Lib.CheckedRead

/-!
# Decoding a notification

The readers of `EspMemoryView.h` and `EspNotifyDecode.h`.  A notification is a
block of the process memory with pointers to further blocks; addresses are
64-bit, a null base is refused, and every read is checked first.  An output
parameter of the source is the answer of the reading, and a return of `false`
its failure: each of these functions writes its outputs only where it returns
`true`.
-/

namespace Esptool.Esp

open CheckedRead

/-! ## The layout -/

@[simp] def kNotificationKindOffset : ℕ := 8
@[simp] def kNotificationDataPtrOffset : ℕ := 16
@[simp] def kNotificationOverlappedPtrOffset : ℕ := 24
@[simp] def kNotificationInternalHighPtrOffset : ℕ := 32
@[simp] def kNotificationIdentifierOffset : ℕ := 64
@[simp] def kNotificationPayloadLengthOffset : ℕ := 72

def kNotificationDataCandidates : List ℕ :=
  [kNotificationDataPtrOffset, kNotificationKindOffset,
    kNotificationOverlappedPtrOffset, kNotificationInternalHighPtrOffset]

@[simp] def kEventDataTypeOffsetPrimary : ℕ := 120
@[simp] def kEventDataParamsOffsetPrimary : ℕ := 160
@[simp] def kEventDataTypeOffsetAlternate : ℕ := 136
@[simp] def kEventDataParamsOffsetAlternate : ℕ := 192
@[simp] def kEventDataTypeOffsetProcess : ℕ := 224
@[simp] def kEventDataProcessObjectOffset : ℕ := 72
@[simp] def kNotificationProcessObjectOffset : ℕ := 80
@[simp] def kEventDataScanLimit : ℕ := 256
@[simp] def kEventDataNearbyParamsPrimary : ℕ := 40
@[simp] def kEventDataNearbyParamsAlternate : ℕ := 56

@[simp] def kParamsObjectOffset : ℕ := 24
@[simp] def kParamsPidBagOffset : ℕ := 16
@[simp] def kParamsTidBagOffset : ℕ := 8
@[simp] def kProcessCreateChildObjectOffset : ℕ := 216
@[simp] def kProcessCreateActorObjectOffset : ℕ := 632

def kProcessPidBagCandidates : List ℕ :=
  [kParamsPidBagOffset, 0, 24, 32, 40, 48, 72, 216, 632]

@[simp] def kObjectQueryCountOffset : ℕ := 8
@[simp] def kObjectQueryPtrOffset : ℕ := 16
@[simp] def kPropertyCollectionStride : ℕ := 16

@[simp] def kNotificationQueryCountOffset : ℕ := 0x120
@[simp] def kNotificationQueryPtrOffset : ℕ := 0x128
@[simp] def kNotificationQueryCountMax : ℕ := 16
@[simp] def kQuerySlotPropertyOffset : ℕ := 0
@[simp] def kQuerySlotTypeOffset : ℕ := 4
@[simp] def kQuerySlotPayloadOffset : ℕ := 8
@[simp] def kQuerySlotStride : ℕ := 16
@[simp] def kProcessQueryPropertyPid : ℕ := 6
@[simp] def kProcessQueryPropertyName : ℕ := 1

@[simp] def kBoxedTypeOffset : ℕ := 4
@[simp] def kBoxedPayloadOffset : ℕ := 8
@[simp] def kBoxedTypeU32 : ℕ := 4
@[simp] def kBoxedTypeInt32 : ℕ := 5
@[simp] def kBoxedTypePathString : ℕ := 7
@[simp] def kBoxedTypeUnicodeString : ℕ := 8
@[simp] def kPropertyValueTagOffset : ℕ := 0
@[simp] def kPropertyValueU32Offset : ℕ := 4
@[simp] def kPropertyValueTagU32 : ℕ := 4
@[simp] def kPropertyValueTagPath : ℕ := 7

@[simp] def kUnicodeStringLengthOffset : ℕ := 0
@[simp] def kUnicodeStringBufferOffset : ℕ := 8
@[simp] def kNameCollectionOffset : ℕ := 40
@[simp] def kNameCollectionCountOffset : ℕ := 8
@[simp] def kNameBoxedOffset : ℕ := 16
@[simp] def kNameWrapperInnerOffsetAlternate : ℕ := 48
@[simp] def kWrapperStatusOffset : ℕ := 16
@[simp] def kWrapperBlobOffset : ℕ := 8
@[simp] def kFoNotificationNamePtrOffset : ℕ := 0x230
@[simp] def kFoNotificationNameUsOffset : ℕ := 0x238
@[simp] def kFoNotificationInlineNameOffset : ℕ := 0x238
@[simp] def kNtPathFirstWchar : ℕ := 0x5C

/-! ## Memory -/

def atOffset (base offset : ℕ) : ℕ := (base + offset) % 2 ^ 64

def readPod (base offset size : ℕ) : Reading ℕ := do
  guard (base ≠ 0)
  let bytes ← readRange (atOffset base offset) size
  return littleEndian bytes

def notifyReadU8 (base offset : ℕ) : Reading ℕ := readPod base offset 1
def notifyReadU16 (base offset : ℕ) : Reading ℕ := readPod base offset 2
def notifyReadU32 (base offset : ℕ) : Reading ℕ := readPod base offset 4
def notifyReadU64 (base offset : ℕ) : Reading ℕ := readPod base offset 8

def notifyReadPtr (base offset : ℕ) : Reading ℕ := do
  let value ← readPod base offset 8
  guard (value ≠ 0)
  return value

def querySlotAt (array index stride : ℕ) : ℕ :=
  atOffset array (index * stride)

/-! ## Boxed values -/

def tryUnboxU32 (boxed expectType : ℕ) : Reading ℕ := do
  guard (boxed ≠ 0)
  let boxedType ← notifyReadU32 boxed kBoxedTypeOffset
  guard (boxedType = expectType)
  notifyReadU32 boxed kBoxedPayloadOffset

/-- The property value behind a tag byte. -/
def unboxTagged (boxed : ℕ) : Reading ℕ := do
  let tag ← notifyReadU8 boxed kPropertyValueTagOffset
  guard (tag = kPropertyValueTagU32)
  notifyReadU32 boxed kPropertyValueU32Offset

def tryUnboxPid (boxed : ℕ) : Reading ℕ :=
  tryUnboxU32 boxed kBoxedTypeU32 <|> tryUnboxU32 boxed kBoxedTypeInt32 <|>
    unboxTagged boxed

def isNameBoxedType (boxedType : ℕ) : Bool :=
  boxedType == kBoxedTypePathString || boxedType == kBoxedTypeUnicodeString

def tryReadQueryBagU32 (params bagOffset minCount : ℕ) : Reading ℕ := do
  let bag ← notifyReadPtr params bagOffset
  let count ← notifyReadU32 bag kObjectQueryCountOffset
  guard (minCount ≤ count)
  let boxed ← notifyReadPtr bag kObjectQueryPtrOffset
  tryUnboxPid boxed

/-! ## The query array of the notification -/

/-- The slots of the query array, when their number is within the limit of
the reader. -/
def querySlots (limit notification : ℕ) : Reading (List ℕ) := do
  let count ← notifyReadU32 notification kNotificationQueryCountOffset
  guard (count ≠ 0 ∧ count ≤ limit)
  let array ← notifyReadPtr notification kNotificationQueryPtrOffset
  return (List.range count).map fun index =>
    querySlotAt array index kQuerySlotStride

/-- The first slot on which the test does not fail. -/
def findQuerySlot (notification : ℕ) (matching : ℕ → Reading Unit) :
    Reading ℕ := do
  guard (notification ≠ 0)
  let cursors ← querySlots kNotificationQueryCountMax notification
  firstOf (fun cursor => do
    matching cursor
    return cursor) cursors

def slotHasProperty (property cursor : ℕ) : Reading Unit := do
  let found ← notifyReadU32 cursor kQuerySlotPropertyOffset
  guard (found = property)

def slotHasName (cursor : ℕ) : Reading Unit := do
  let boxedType ← notifyReadU32 cursor kQuerySlotTypeOffset
  guard (isNameBoxedType boxedType)

def tryReadNotificationQuerySlot (notification property : ℕ) : Reading ℕ :=
  findQuerySlot notification (slotHasProperty property)

def tryReadNotificationQueryPid (notification : ℕ) : Reading ℕ := do
  let slot ← tryReadNotificationQuerySlot notification kProcessQueryPropertyPid
  tryUnboxPid slot

def tryReadNotificationQueryNameSlot (notification : ℕ) : Reading ℕ :=
  findQuerySlot notification slotHasName

/-! ## Process and thread of the parameters -/

/-- The variables that the decoder fills. -/
structure KeyVars where
  pid : ℕ := 0
  tid : ℕ := 0
  name : String := ""
deriving DecidableEq, Repr

def tryReadPidTidFromParams (params : ℕ) (vars : KeyVars) :
    Reading (Bool × KeyVars) :=
  if params = 0 then pure (false, vars)
  else do
    let pid ← attempt (firstOf
      (fun bagOffset => tryReadQueryBagU32 params bagOffset 1)
      kProcessPidBagCandidates)
    let tid ← attempt (tryReadQueryBagU32 params kParamsTidBagOffset 1)
    return (pid.isSome || tid.isSome,
      { vars with pid := pid.getD vars.pid, tid := tid.getD vars.tid })

/-! ## The event type -/

/-- Where an event type was found, and the parameters beside it. -/
structure EventBinding where
  eventType : ℕ := 0
  params : ℕ := 0
  usesPrimary : Bool := false
  typeOffset : ℕ := 0
deriving DecidableEq, Repr

/-- The event types that the scan takes: not the small numbers of the thread
events. -/
def isScannedEventType (value : ℕ) : Bool :=
  isSparseEventType value &&
    (isPipeEventType value || decide (kEventProcessCreate ≤ value))

/-- The event type and its offset. -/
def scanSparseEventType (data : ℕ) : Reading (ℕ × ℕ) :=
  if data = 0 then failure
  else
    firstOf (fun offset => do
      let value ← notifyReadU32 data offset
      guard (isScannedEventType value)
      return (value, offset))
      ((List.range (kEventDataScanLimit / 4)).map (· * 4))

def tryBindLayout (data typeOff paramsOff : ℕ) (primary : Bool) :
    Reading EventBinding := do
  let type ← notifyReadU32 data typeOff
  guard (isSparseEventType type)
  let params ← orKeep (notifyReadPtr data paramsOff) 0
  return ⟨type, params, primary, typeOff⟩

/-- The parameters beside an event type that the scan found. -/
def bindScanned (data : ℕ) : Reading EventBinding := do
  let (scanned, typeOffset) ← scanSparseEventType data
  match ← attempt (notifyReadPtr data
      (typeOffset + kEventDataNearbyParamsPrimary)) with
  | some nearby => return ⟨scanned, nearby, true, typeOffset⟩
  | none =>
      match ← attempt (notifyReadPtr data
          (typeOffset + kEventDataNearbyParamsAlternate)) with
      | some nearby => return ⟨scanned, nearby, false, typeOffset⟩
      | none =>
          return ⟨scanned, 0, typeOffset == kEventDataTypeOffsetPrimary,
            typeOffset⟩

def tryBindEventData (data : ℕ) : Reading EventBinding :=
  if data = 0 then failure
  else
    tryBindLayout data kEventDataTypeOffsetPrimary
        kEventDataParamsOffsetPrimary true <|>
      tryBindLayout data kEventDataTypeOffsetAlternate
        kEventDataParamsOffsetAlternate false <|>
      tryBindLayout data kEventDataTypeOffsetProcess
        kNotificationProcessObjectOffset true <|>
      tryBindLayout data kEventDataTypeOffsetProcess
        kEventDataParamsOffsetPrimary true <|>
      bindScanned data

/-! ## The file name of an I/O event -/

/-- The layouts of the name; `None` of the source is the failure. -/
inductive FoNameLayout
  | unicodeString
  | inlineUtf16
deriving DecidableEq, Repr

def startsNtPath (text : ℕ) : Reading Unit := do
  let first ← notifyReadU16 text 0
  guard (first = kNtPathFirstWchar)

def foNameUnicodeString (notification : ℕ) :
    Reading (FoNameLayout × ℕ) := do
  let length ← notifyReadU16 notification kFoNotificationNameUsOffset
  guard (length ≠ 0 ∧ length % 2 = 0)
  let buffer ← notifyReadPtr notification (kFoNotificationNameUsOffset + 8)
  startsNtPath buffer
  return (.unicodeString, atOffset notification kFoNotificationNameUsOffset)

/-- The name in the notification itself, or behind the pointer before it. -/
def foNameInline (notification : ℕ) : Reading (FoNameLayout × ℕ) :=
  (do
    let first ← notifyReadU16 notification kFoNotificationInlineNameOffset
    guard (first = kNtPathFirstWchar)
    return (.inlineUtf16,
      atOffset notification kFoNotificationInlineNameOffset)) <|>
  (do
    let pointed ← notifyReadPtr notification kFoNotificationNamePtrOffset
    startsNtPath pointed
    return (.inlineUtf16, pointed))

/-- The layout of the name and the address of its text. -/
def classifyFoNotificationName (eventType notification : ℕ) :
    Reading (FoNameLayout × ℕ) :=
  if notification = 0 then failure
  else if eventType = kEventFoCreate then foNameUnicodeString notification
  else if eventType = kEventFoOpen then foNameInline notification
  else if eventType ≥ kEventFoRead ∧ eventType ≤ kEventFoCleanup then
    foNameUnicodeString notification <|> foNameInline notification
  else failure

end Esptool.Esp
