import Esptool.FilterAbi

/-!
# The export table

The names and arities of the exports of the client library, in the order of
the table.  The recovered signatures are only documentation and are left out.
-/

namespace Esptool.Esp

/-- One export, and its address in the loaded library. -/
structure ExportDescriptor where
  name : String
  arity : ℕ
  address : Handle := 0
deriving DecidableEq, Repr

/-- `BuildCatalog`. -/
def buildCatalog : List ExportDescriptor := [
  ⟨"_DllMainCRTStartup", 3, 0⟩,
  ⟨"EspAllocateEventNotification", 0, 0⟩,
  ⟨"EspArmEventNotification", 2, 0⟩,
  ⟨"EspClearEventQueue", 1, 0⟩,
  ⟨"EspCloseCollection", 1, 0⟩,
  ⟨"EspCloseEventObjectReference", 1, 0⟩,
  ⟨"EspCloseEventQueue", 1, 0⟩,
  ⟨"EspCloseFilter", 1, 0⟩,
  ⟨"EspCloseRule", 1, 0⟩,
  ⟨"EspCompleteEventNotification", 1, 0⟩,
  ⟨"EspConnectClient", 2, 0⟩,
  ⟨"EspConnectEventQueueWithCallback", 4, 0⟩,
  ⟨"EspConnectEventQueueWithIocp", 3, 0⟩,
  ⟨"EspCreateAndFilter", 3, 0⟩,
  ⟨"EspCreateClientFilter", 4, 0⟩,
  ⟨"EspCreateCollection", 3, 0⟩,
  ⟨"EspCreateDesktopFilter", 4, 0⟩,
  ⟨"EspCreateDesktopReference", 3, 0⟩,
  ⟨"EspCreateDiskFilter", 4, 0⟩,
  ⟨"EspCreateDiskReference", 3, 0⟩,
  ⟨"EspCreateEventFilter", 4, 0⟩,
  ⟨"EspCreateEventObjectReference", 2, 0⟩,
  ⟨"EspCreateEventObjectReferenceById", 3, 0⟩,
  ⟨"EspCreateEventQueue", 3, 0⟩,
  ⟨"EspCreateFileFilter", 4, 0⟩,
  ⟨"EspCreateFileObjectFilter", 4, 0⟩,
  ⟨"EspCreateFileReferenceById", 4, 0⟩,
  ⟨"EspCreateFileReferenceByPath", 3, 0⟩,
  ⟨"EspCreateFileStreamFilter", 4, 0⟩,
  ⟨"EspCreateFileStreamReferenceById", 0, 0⟩,
  ⟨"EspCreateFileStreamReferenceByPath", 3, 0⟩,
  ⟨"EspCreateFilter", 3, 0⟩,
  ⟨"EspCreateKtmTransactionFilter", 4, 0⟩,
  ⟨"EspCreateMailslotFilter", 4, 0⟩,
  ⟨"EspCreateMailslotReference", 3, 0⟩,
  ⟨"EspCreateNotFilter", 2, 0⟩,
  ⟨"EspCreateOrFilter", 3, 0⟩,
  ⟨"EspCreatePipeFilter", 4, 0⟩,
  ⟨"EspCreatePipeReference", 3, 0⟩,
  ⟨"EspCreateProcessFilter", 4, 0⟩,
  ⟨"EspCreateProcessReference", 3, 0⟩,
  ⟨"EspCreateProcessTokenReference", 3, 0⟩,
  ⟨"EspCreateRegistryKeyFilter", 4, 0⟩,
  ⟨"EspCreateRegistryKeyObjectFilter", 4, 0⟩,
  ⟨"EspCreateRegistryKeyReference", 3, 0⟩,
  ⟨"EspCreateRule", 2, 0⟩,
  ⟨"EspCreateThreadFilter", 4, 0⟩,
  ⟨"EspCreateThreadReference", 3, 0⟩,
  ⟨"EspCreateThreadTokenReference", 3, 0⟩,
  ⟨"EspCreateTokenFilter", 4, 0⟩,
  ⟨"EspCreateVolumeFilter", 4, 0⟩,
  ⟨"EspCreateVolumeReference", 3, 0⟩,
  ⟨"EspCreateXorFilter", 3, 0⟩,
  ⟨"EspDisconnectClient", 1, 0⟩,
  ⟨"EspDisconnectEventQueue", 1, 0⟩,
  ⟨"EspDuplicateEventObjectReference", 2, 0⟩,
  ⟨"EspEnumerateAllClientContextKeys", 3, 0⟩,
  ⟨"EspEnumerateAllEventObjectContextKeys", 3, 0⟩,
  ⟨"EspEnumerateAllRulesForClient", 3, 0⟩,
  ⟨"EspEnumerateCollectionEntries", 3, 0⟩,
  ⟨"EspEnumerateCollectionIds", 4, 0⟩,
  ⟨"EspEnumerateConnectedClients", 2, 0⟩,
  ⟨"EspEnumerateEventQueueIds", 4, 0⟩,
  ⟨"EspEnumerateRegisteredClients", 2, 0⟩,
  ⟨"EspEnumerateRuleIds", 4, 0⟩,
  ⟨"EspFreeEventNotification", 1, 0⟩,
  ⟨"EspFreeMemory", 1, 0⟩,
  ⟨"EspGetCollectionId", 2, 0⟩,
  ⟨"EspGetCollectionType", 2, 0⟩,
  ⟨"EspGetEventCapabilities", 3, 0⟩,
  ⟨"EspGetEventObjectFromReference", 2, 0⟩,
  ⟨"EspGetEventObjectId", 2, 0⟩,
  ⟨"EspGetEventObjectType", 2, 0⟩,
  ⟨"EspGetEventQueueId", 2, 0⟩,
  ⟨"EspGetRuleId", 2, 0⟩,
  ⟨"EspInitUnicodeString", 2, 0⟩,
  ⟨"EspIsClientPropertySupported", 3, 0⟩,
  ⟨"EspIsDesktopPropertySupported", 3, 0⟩,
  ⟨"EspIsDiskPropertySupported", 3, 0⟩,
  ⟨"EspIsEventPropertySupported", 3, 0⟩,
  ⟨"EspIsFileObjectPropertySupported", 3, 0⟩,
  ⟨"EspIsFilePropertySupported", 3, 0⟩,
  ⟨"EspIsFileStreamPropertySupported", 3, 0⟩,
  ⟨"EspIsKtmTransactionPropertySupported", 3, 0⟩,
  ⟨"EspIsMailslotPropertySupported", 3, 0⟩,
  ⟨"EspIsPipePropertySupported", 3, 0⟩,
  ⟨"EspIsProcessPropertySupported", 3, 0⟩,
  ⟨"EspIsRegistryKeyObjectPropertySupported", 3, 0⟩,
  ⟨"EspIsRegistryKeyPropertySupported", 3, 0⟩,
  ⟨"EspIsThreadPropertySupported", 3, 0⟩,
  ⟨"EspIsTokenPropertySupported", 3, 0⟩,
  ⟨"EspIsVolumePropertySupported", 3, 0⟩,
  ⟨"EspOpenCollection", 3, 0⟩,
  ⟨"EspOpenEventQueue", 3, 0⟩,
  ⟨"EspQueryClientDescriptor", 2, 0⟩,
  ⟨"EspQueryClientProperties", 4, 0⟩,
  ⟨"EspQueryDesktopProperties", 4, 0⟩,
  ⟨"EspQueryDiskProperties", 4, 0⟩,
  ⟨"EspQueryFileObjectProperties", 4, 0⟩,
  ⟨"EspQueryFileProperties", 4, 0⟩,
  ⟨"EspQueryFileStreamProperties", 4, 0⟩,
  ⟨"EspQueryKtmTransactionProperties", 4, 0⟩,
  ⟨"EspQueryMailslotProperties", 4, 0⟩,
  ⟨"EspQueryPipeProperties", 4, 0⟩,
  ⟨"EspQueryProcessProperties", 4, 0⟩,
  ⟨"EspQueryRegistryKeyObjectProperties", 4, 0⟩,
  ⟨"EspQueryRegistryKeyProperties", 4, 0⟩,
  ⟨"EspQueryThreadProperties", 4, 0⟩,
  ⟨"EspQueryTokenProperties", 4, 0⟩,
  ⟨"EspQueryVolumeProperties", 4, 0⟩,
  ⟨"EspRegisterClient", 1, 0⟩,
  ⟨"EspRemoveAllRulesForClient", 1, 0⟩,
  ⟨"EspRemoveEventQueueStateChangeCallback", 1, 0⟩,
  ⟨"EspRemoveRulesForClient", 2, 0⟩,
  ⟨"EspSetClientContextKey", 2, 0⟩,
  ⟨"EspSetEventObjectContextKey", 2, 0⟩,
  ⟨"EspSetEventQueueStateChangeCallback", 0, 0⟩,
  ⟨"EspStringMatchesPattern", 3, 0⟩,
  ⟨"EspUnregisterClient", 1, 0⟩,
  ⟨"EspUpdateCollection", 4, 0⟩,
  ⟨"EspUpdateRules", 4, 0⟩]

/-- A call passes four pointer-sized slots. -/
def kMaxArity : ℕ := 4

theorem buildCatalog_names_nodup :
    (buildCatalog.map ExportDescriptor.name).Nodup := by
  decide +kernel

end Esptool.Esp
