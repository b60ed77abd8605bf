import Mathlib.Tactic

/-!
# Event types

The sparse event-type numbers of the driver, the predicates that classify
them, and the tables that say which types can carry an enforcing action.
Unsigned machine integers are natural numbers here and below; the narrowing
casts of the source are written out where it makes them.
-/

namespace Esptool.Esp

@[simp] def kEventThreadCreate : ℕ := 1
@[simp] def kEventThreadStart : ℕ := 2
@[simp] def kEventThreadTerminate : ℕ := 3
@[simp] def kEventProcessCreate : ℕ := 1000
@[simp] def kEventProcessTerminate : ℕ := 1001
@[simp] def kEventProcessLoadImage : ℕ := 1002
@[simp] def kEventFoCreate : ℕ := 2000
@[simp] def kEventFoOpen : ℕ := 2001
@[simp] def kEventFoRead : ℕ := 2002
@[simp] def kEventFoWrite : ℕ := 2003
@[simp] def kEventFoCleanup : ℕ := 2004
@[simp] def kEventFsMin : ℕ := 3000
@[simp] def kEventFsQueryOpen : ℕ := 3007
@[simp] def kEventFsLockFile : ℕ := 3008
@[simp] def kEventFsMax : ℕ := 3011
@[simp] def kEventVolumeMin : ℕ := 4000
@[simp] def kEventVolumeMax : ℕ := 4002
@[simp] def kEventVolumeMount : ℕ := kEventVolumeMin
@[simp] def kEventVolumeDismount : ℕ := 4001
@[simp] def kEventVolumeFsctl : ℕ := kEventVolumeMax
@[simp] def kEventPipeCreate : ℕ := 5000
@[simp] def kEventMailslotCreate : ℕ := 6000
@[simp] def kEventRegCreateKey : ℕ := 7000
@[simp] def kEventRegMax : ℕ := 7014
@[simp] def kEventObCreateHandle : ℕ := 8000
@[simp] def kEventObDuplicateHandle : ℕ := 8001
@[simp] def kEventBootLoadDriver : ℕ := 9000

def kSparseEventRanges : List (ℕ × ℕ) :=
  [(kEventThreadCreate, kEventThreadTerminate),
    (kEventProcessCreate, kEventProcessLoadImage),
    (kEventFoCreate, kEventFoCleanup),
    (kEventFsMin, kEventFsMax),
    (kEventVolumeMin, kEventVolumeMax),
    (kEventPipeCreate, kEventPipeCreate),
    (kEventMailslotCreate, kEventMailslotCreate),
    (kEventRegCreateKey, kEventRegMax),
    (kEventObCreateHandle, kEventObDuplicateHandle),
    (kEventBootLoadDriver, kEventBootLoadDriver)]

def isSparseEventType (eventType : ℕ) : Bool :=
  kSparseEventRanges.any fun range =>
    decide (range.1 ≤ eventType ∧ eventType ≤ range.2)

def isPipeEventType (eventType : ℕ) : Bool :=
  eventType == kEventFoOpen || eventType == kEventPipeCreate

def isRegistryEventType (eventType : ℕ) : Bool :=
  eventType ≥ kEventRegCreateKey && eventType ≤ kEventRegMax

def isFoIoEvent (eventType : ℕ) : Bool :=
  eventType ≥ kEventFoCreate && eventType ≤ kEventFoCleanup

def needsTypedIoConfig (eventType : ℕ) : Bool :=
  isFoIoEvent eventType || eventType == kEventPipeCreate

def isThreadEventType (eventType : ℕ) : Bool :=
  eventType ≥ kEventThreadCreate && eventType ≤ kEventThreadTerminate

def needsProcessCreateConfig (eventType : ℕ) : Bool :=
  eventType == kEventProcessCreate

def needsProcessConfig (eventType : ℕ) : Bool :=
  eventType == kEventProcessTerminate

def needsImageLoadConfig (eventType : ℕ) : Bool :=
  eventType == kEventProcessLoadImage

def restrictPipeTarget (eventType : ℕ) : Bool :=
  eventType == kEventPipeCreate

/-! ## Enforcement tables -/

def kDriverEnforceCapableBit : ℕ := 0x02

/-- The per-event capability record of the driver; a type without a record
has mask zero. -/
def driverEventCapabilityMask (eventType : ℕ) : ℕ :=
  if eventType = kEventProcessCreate ∨ eventType = kEventFoOpen then 0x03
  else if eventType = kEventFoCreate ∨ eventType = kEventRegCreateKey ∨
      eventType = kEventRegCreateKey + 1 then 0x1B
  else if eventType = kEventFoRead ∨ eventType = kEventFoWrite ∨
      (eventType ≥ kEventFsMin ∧ eventType ≤ kEventFsLockFile ∧
        eventType ≠ kEventFsQueryOpen) ∨
      eventType = kEventVolumeMount ∨ eventType = kEventVolumeFsctl ∨
      eventType = kEventPipeCreate ∨ eventType = kEventMailslotCreate ∨
      (eventType ≥ kEventRegCreateKey + 2 ∧ eventType ≤ kEventRegMax) then
    0x0B
  else if eventType = kEventFoCleanup ∨
      eventType = kEventFsLockFile + 1 then 0x09
  else if eventType = kEventFsQueryOpen ∨
      eventType = kEventObCreateHandle ∨
      eventType = kEventObDuplicateHandle then 0x19
  else if eventType = kEventBootLoadDriver then 0x07
  else 0

def isDriverEnforceCapable (eventType : ℕ) : Bool :=
  (driverEventCapabilityMask eventType &&& kDriverEnforceCapableBit) != 0

/-- The driver dispatches a pre-operation callback for the type that can write
a disposition. -/
def isDispositionWritingCallback (eventType : ℕ) : Bool :=
  if eventType = kEventProcessCreate then true
  else if eventType ≥ kEventFoOpen ∧ eventType ≤ kEventFoWrite then true
  else if eventType ≥ kEventFsMin ∧ eventType ≤ kEventFsLockFile ∧
      eventType ≠ kEventFsQueryOpen then true
  else if eventType = kEventVolumeMount ∨
      eventType = kEventVolumeFsctl then true
  else false

def isEnforceCompatEventType (eventType : ℕ) : Bool :=
  isDriverEnforceCapable eventType && isDispositionWritingCallback eventType

def kEventModifyKindFoCreate : ℕ := 3

def eventModifyKindForEvent (eventType : ℕ) : ℕ :=
  if eventType = kEventFoCreate then kEventModifyKindFoCreate
  else if eventType = kEventObCreateHandle then 1
  else if eventType = kEventObDuplicateHandle then 2
  else if eventType = kEventFsQueryOpen then 4
  else 0

def supportsEnforcePayload (eventType : ℕ) : Bool :=
  eventType == kEventFoCreate || isEnforceCompatEventType eventType

theorem supportsEnforcePayload_iff (eventType : ℕ) :
    supportsEnforcePayload eventType = true ↔
      eventType = kEventFoCreate ∨
        isEnforceCompatEventType eventType = true := by
  simp [supportsEnforcePayload]

end Esptool.Esp
