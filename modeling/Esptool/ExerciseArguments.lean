import Esptool.EspExports

/-!
# The arguments of the sweep over the exports

The sweep calls every export of the table with an argument vector that is
chosen by the name of the export.  A slot of the vector is modelled by what
it points at.
-/

namespace Esptool.Esp

/-- The parts of the scratch record whose address is passed. -/
inductive ScratchField
  | guid
  | count
  | type
  | handle
  | handle2
  | properties
  | context
  | blob
  | widePath
  | wideName
  | registerDesc
  | ruleDesc
deriving DecidableEq, Repr

inductive Slot
  | value (value : ℕ)
  | processId
  | client
  | queue
  | address (field : ScratchField)
deriving DecidableEq, Repr

abbrev ArgVec := List Slot

/-- The slots behind the given ones are zero. -/
def argVec (given : List Slot) : ArgVec :=
  given ++ List.replicate (kMaxArity - given.length) (.value 0)

/-! ## Classes of names -/

def startsWith (name start : String) : Bool :=
  start.toList.isPrefixOf name.toList

/-- `Contains`: the needle begins at some position. -/
def contains (name needle : String) : Bool :=
  name.toList.tails.any needle.toList.isPrefixOf

def isFilterConstructor (name : String) : Bool :=
  startsWith name "EspCreate" && contains name "Filter"

def isQuery (name : String) : Bool :=
  startsWith name "EspQuery" && contains name "Properties"

def isSupportProbe (name : String) : Bool :=
  startsWith name "EspIs" && contains name "PropertySupported"

def isReference (name : String) : Bool :=
  startsWith name "EspCreate" && contains name "Reference"

def isByPathReference (name : String) : Bool := contains name "ByPath"

def isByIdReference (name : String) : Bool := contains name "ById"

def isProcessOrThreadReference (name : String) : Bool :=
  contains name "Process" || contains name "Thread"

/-! ## One function for each class -/

def fillClientArguments (name : String) : Option ArgVec :=
  if name = "EspConnectClient" then
    some (argVec [.address .guid, .address .handle])
  else if name = "EspDisconnectClient" then some (argVec [.value 0])
  else if name = "EspRegisterClient" then
    some (argVec [.address .registerDesc])
  else if name = "EspUnregisterClient" then some (argVec [.address .guid])
  else if name = "EspRemoveAllRulesForClient" then some (argVec [.client])
  else if name = "EspQueryClientDescriptor" then
    some (argVec [.address .guid, .address .handle])
  else if name = "EspEnumerateConnectedClients" ∨
      name = "EspEnumerateRegisteredClients" then
    some (argVec [.address .count, .address .handle])
  else none

def fillQueueArguments (name : String) : Option ArgVec :=
  if name = "EspConnectEventQueueWithCallback" then
    some (argVec [.queue, .value 0, .value 0, .value 0])
  else if name = "EspCreateEventQueue" then
    some (argVec [.client, .value 0, .address .handle])
  else if name = "EspOpenEventQueue" then
    some (argVec [.client, .address .guid, .address .handle])
  else if name = "EspConnectEventQueueWithIocp" then
    some (argVec [.queue, .value 0, .address .handle2])
  else if name = "EspCloseEventQueue" then some (argVec [.value 0])
  else if name = "EspDisconnectEventQueue" ∨
      name = "EspRemoveEventQueueStateChangeCallback" ∨
      name = "EspClearEventQueue" then
    some (argVec [.queue])
  else if name = "EspSetEventQueueStateChangeCallback" then
    some (argVec [.queue, .value 0, .value 0, .value 0])
  else if name = "EspGetEventQueueId" then
    some (argVec [.queue, .address .guid])
  else if name = "EspEnumerateEventQueueIds" then
    some (argVec [.client, .value 0, .address .count, .address .handle])
  else none

def fillNotificationArguments (name : String) : Option ArgVec :=
  if name = "EspArmEventNotification" then
    some (argVec [.queue, .value 0])
  else if name = "EspCompleteEventNotification" ∨
      name = "EspFreeEventNotification" then
    some (argVec [.value 0])
  else if name = "EspGetEventCapabilities" then
    some (argVec [.queue, .value 0, .address .count])
  else none

def fillCloseArguments (name : String) : Option ArgVec :=
  if name = "EspCloseFilter" ∨ name = "EspCloseRule" ∨
      name = "EspCloseCollection" ∨ name = "EspCloseEventObjectReference" then
    some (argVec [.value 0])
  else none

def fillFilterArguments (name : String) : Option ArgVec :=
  if name = "EspCreateNotFilter" then
    some (argVec [.value 0, .address .handle2])
  else if name = "EspCreateAndFilter" ∨ name = "EspCreateOrFilter" ∨
      name = "EspCreateXorFilter" then
    some (argVec [.value 0, .value 0, .address .handle])
  else if isFilterConstructor name then
    if name = "EspCreateFilter" then
      some (argVec [.value 1, .value 0, .address .handle])
    else
      some (argVec [.value 1, .value 1, .value 0, .address .handle])
  else none

def fillRuleArguments (name : String) : Option ArgVec :=
  if name = "EspCreateRule" then
    some (argVec [.address .ruleDesc, .address .handle])
  else if name = "EspUpdateRules" then
    some (argVec [.client, .value 0, .value 0, .value 0])
  else if name = "EspEnumerateRuleIds" then
    some (argVec [.client, .value 0, .address .count, .address .handle])
  else if name = "EspEnumerateAllRulesForClient" then
    some (argVec [.client, .address .count, .address .handle])
  else if name = "EspGetRuleId" then
    some (argVec [.client, .address .guid])
  else if name = "EspRemoveRulesForClient" then
    some (argVec [.client, .value 0])
  else none

/-- A reference by a key that a scratch field holds. -/
def fillKeyedReference (key : ScratchField) (arity : ℕ) : ArgVec :=
  if arity ≥ 4 then
    argVec [.client, .address key, .value 0, .address .handle]
  else argVec [.client, .address key, .address .handle, .value 0]

def fillByPathReference : ℕ → ArgVec := fillKeyedReference .widePath

def fillByIdReference : ℕ → ArgVec := fillKeyedReference .blob

def fillReferenceArguments (descriptor : ExportDescriptor) :
    Option ArgVec :=
  let name := descriptor.name
  if name = "EspDuplicateEventObjectReference" ∨
      name = "EspGetEventObjectFromReference" then
    some (argVec [.value 0, .address .handle2])
  else if name = "EspGetEventObjectId" then
    some (argVec [.value 0, .address .guid])
  else if name = "EspGetEventObjectType" then
    some (argVec [.value 0, .address .type])
  else if !isReference name then none
  else if isByPathReference name then
    some (fillByPathReference descriptor.arity)
  else if isByIdReference name then
    some (fillByIdReference descriptor.arity)
  else if isProcessOrThreadReference name then
    some (argVec [.client, .processId, .address .handle])
  else if name = "EspCreateEventObjectReference" then
    some (argVec [.value 0, .address .handle2])
  else some (argVec [.client, .address .widePath, .address .handle])

/-- The property of the support probes is the constant 1. -/
def fillQueryArguments (name : String) : Option ArgVec :=
  if isQuery name then
    some (argVec [.client, .value 1, .address .properties,
      .address .handle2])
  else if isSupportProbe name then
    some (argVec [.client, .value 1, .address .count])
  else none

def fillCollectionArguments (name : String) : Option ArgVec :=
  if name = "EspCreateCollection" then
    some (argVec [.client, .value 0, .address .handle])
  else if name = "EspOpenCollection" then
    some (argVec [.client, .address .guid, .address .handle])
  else if name = "EspUpdateCollection" then
    some (argVec [.value 0, .value 0, .value 0, .value 0])
  else if name = "EspEnumerateCollectionEntries" then
    some (argVec [.value 0, .address .count, .address .handle2])
  else if name = "EspEnumerateCollectionIds" then
    some (argVec [.client, .value 0, .address .count, .address .handle])
  else if name = "EspGetCollectionId" then
    some (argVec [.value 0, .address .guid])
  else if name = "EspGetCollectionType" then
    some (argVec [.value 0, .address .type])
  else none

def fillContextArguments (name : String) : Option ArgVec :=
  if name = "EspSetClientContextKey" then
    some (argVec [.client, .address .context])
  else if name = "EspSetEventObjectContextKey" then
    some (argVec [.value 0, .address .context])
  else if name = "EspEnumerateAllClientContextKeys" then
    some (argVec [.client, .address .count, .address .handle])
  else if name = "EspEnumerateAllEventObjectContextKeys" then
    some (argVec [.value 0, .address .count, .address .handle2])
  else none

def fillUtilityArguments (name : String) : Option ArgVec :=
  if name = "EspInitUnicodeString" then
    some (argVec [.address .handle, .address .wideName])
  else if name = "EspStringMatchesPattern" then
    some (argVec [.address .widePath, .address .wideName, .address .count])
  else if name = "EspFreeMemory" then some (argVec [.value 0])
  else none

/-- The fillers in the order they are asked. -/
def fillers (descriptor : ExportDescriptor) : List (Option ArgVec) :=
  let name := descriptor.name
  [fillClientArguments name, fillQueueArguments name,
    fillNotificationArguments name, fillCloseArguments name,
    fillFilterArguments name, fillRuleArguments name,
    fillReferenceArguments descriptor, fillQueryArguments name,
    fillCollectionArguments name, fillContextArguments name,
    fillUtilityArguments name]

/-- `BuildArguments`: the first filler that knows the name. -/
def buildArguments (descriptor : ExportDescriptor) : ArgVec :=
  ((fillers descriptor).firstM id).getD (argVec [])

/-! ## Every export of the table -/

/-- The exports that give something back. -/
def kReleasingExports : List String := [
  "EspCloseCollection", "EspCloseEventObjectReference", "EspCloseEventQueue",
  "EspCloseFilter", "EspCloseRule", "EspCompleteEventNotification",
  "EspDisconnectClient", "EspFreeEventNotification", "EspFreeMemory"]

/-- The two exports that no filler knows. -/
def kUnfilledExports : List String :=
  ["_DllMainCRTStartup", "EspAllocateEventNotification"]

/-- The argument vector suits the export it is passed to. -/
structure SuitsExport (descriptor : ExportDescriptor) : Prop where
  slots : (buildArguments descriptor).length = kMaxArity
  /-- Nothing is passed behind the last parameter, where it is known. -/
  arity : 0 < descriptor.arity →
    ∀ slot ∈ (buildArguments descriptor).drop descriptor.arity,
      slot = .value 0
  /-- What gives something back is called with nothing. -/
  releases : descriptor.name ∈ kReleasingExports →
    ∀ slot ∈ buildArguments descriptor, slot = .value 0
  /-- What creates something writes it to the record of the sweep. -/
  creates : startsWith descriptor.name "EspCreate" = true →
    0 < descriptor.arity →
    (buildArguments descriptor)[descriptor.arity - 1]? ∈
      [some (.address .handle), some (.address .handle2)]
  /-- No two fillers claim the export. -/
  claimed : (fillers descriptor).countP Option.isSome =
    if descriptor.name ∈ kUnfilledExports then 0 else 1

instance (descriptor : ExportDescriptor) :
    Decidable (SuitsExport descriptor) :=
  decidable_of_iff
    ((buildArguments descriptor).length = kMaxArity ∧
      (0 < descriptor.arity →
        ∀ slot ∈ (buildArguments descriptor).drop descriptor.arity,
          slot = .value 0) ∧
      (descriptor.name ∈ kReleasingExports →
        ∀ slot ∈ buildArguments descriptor, slot = .value 0) ∧
      (startsWith descriptor.name "EspCreate" = true →
        0 < descriptor.arity →
        (buildArguments descriptor)[descriptor.arity - 1]? ∈
          [some (.address .handle), some (.address .handle2)]) ∧
      (fillers descriptor).countP Option.isSome =
        if descriptor.name ∈ kUnfilledExports then 0 else 1)
    ⟨fun ⟨slots, arity, releases, creates, claimed⟩ =>
      ⟨slots, arity, releases, creates, claimed⟩,
      fun h => ⟨h.slots, h.arity, h.releases, h.creates, h.claimed⟩⟩

theorem buildCatalog_suits :
    ∀ descriptor ∈ buildCatalog, SuitsExport descriptor := by
  decide +kernel

end Esptool.Esp
