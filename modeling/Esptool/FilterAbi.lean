import Esptool.RuleDocument

/-!
# Filter constructor payloads

Which payload a typed filter constructor takes for a property, and the raw
records handed to it.  Reserved and always-zero fields of the raw records are
left out; the pointer fields carry what they point at.
-/

namespace Esptool.Esp

/-- An object address of the client library; zero is the null pointer. -/
abbrev Handle := ℕ

@[simp] def kFilterCtorClient : ℤ := 1
@[simp] def kFilterCtorDesktop : ℤ := 2
@[simp] def kFilterCtorDisk : ℤ := 3
@[simp] def kFilterCtorEvent : ℤ := 4
@[simp] def kFilterCtorFile : ℤ := 5
@[simp] def kFilterCtorFileObject : ℤ := 6
@[simp] def kFilterCtorFileStream : ℤ := 7
@[simp] def kFilterCtorRegistryKey : ℤ := 8
@[simp] def kFilterCtorRegistryKeyObject : ℤ := 9
@[simp] def kFilterCtorProcess : ℤ := 10
@[simp] def kFilterCtorThread : ℤ := 11
@[simp] def kFilterCtorToken : ℤ := 12
@[simp] def kFilterCtorVolume : ℤ := 13
@[simp] def kFilterCtorPipe : ℤ := 14
@[simp] def kFilterCtorMailslot : ℤ := 15
@[simp] def kFilterCtorKtm : ℤ := 16

def kTypedFilterExports : List String :=
  ["", "EspCreateClientFilter", "EspCreateDesktopFilter",
    "EspCreateDiskFilter", "EspCreateEventFilter", "EspCreateFileFilter",
    "EspCreateFileObjectFilter", "EspCreateFileStreamFilter",
    "EspCreateRegistryKeyFilter", "EspCreateRegistryKeyObjectFilter",
    "EspCreateProcessFilter", "EspCreateThreadFilter",
    "EspCreateTokenFilter", "EspCreateVolumeFilter", "EspCreatePipeFilter",
    "EspCreateMailslotFilter", "EspCreateKtmTransactionFilter"]

inductive LeafPayloadKind
  | none
  | string
  | numeric
  | bool
deriving DecidableEq, Repr

def propertyCeiling (constructor : ℤ) : ℕ :=
  if constructor = kFilterCtorClient ∨
      constructor = kFilterCtorDesktop then 1
  else if constructor = kFilterCtorRegistryKeyObject ∨
      constructor = kFilterCtorPipe ∨
      constructor = kFilterCtorMailslot then 2
  else if constructor = kFilterCtorEvent ∨ constructor = kFilterCtorKtm then 3
  else if constructor = kFilterCtorFileStream ∨
      constructor = kFilterCtorRegistryKey then 4
  else if constructor = kFilterCtorThread then 11
  else if constructor = kFilterCtorToken then 12
  else if constructor = kFilterCtorDisk then 13
  else if constructor = kFilterCtorVolume then 16
  else if constructor = kFilterCtorFile then 18
  else if constructor = kFilterCtorProcess then 23
  else if constructor = kFilterCtorFileObject then 28
  else 0

def leafPayload (constructor : ℤ) (property : ℕ) : LeafPayloadKind :=
  if property = 0 ∨ property > propertyCeiling constructor then .none
  else if constructor = kFilterCtorClient ∧ property = 1 then .bool
  else if constructor = kFilterCtorEvent ∧ property = 1 then .bool
  else if constructor = kFilterCtorEvent ∧ property = 2 then .numeric
  else if constructor = kFilterCtorFile ∧ property = 17 then .string
  else if constructor = kFilterCtorFile ∧ property = 2 then .numeric
  else if constructor = kFilterCtorFileObject ∧
      property ≥ 1 ∧ property ≤ 10 then .string
  else if constructor = kFilterCtorFileObject ∧
      (property = 18 ∨ property = 28) then .numeric
  else if constructor = kFilterCtorFileStream ∧ property = 1 then .string
  else if constructor = kFilterCtorRegistryKey ∧
      (property = 1 ∨ property = 2) then .string
  else if constructor = kFilterCtorRegistryKeyObject ∧
      property = 1 then .bool
  else if constructor = kFilterCtorRegistryKeyObject ∧
      property = 2 then .numeric
  else if constructor = kFilterCtorProcess ∧ property = 1 then .string
  else if constructor = kFilterCtorThread ∧ property = 1 then .numeric
  else if constructor = kFilterCtorToken ∧ property = 3 then .numeric
  else if (constructor = kFilterCtorDesktop ∨
      constructor = kFilterCtorDisk ∨ constructor = kFilterCtorVolume ∨
      constructor = kFilterCtorPipe ∨ constructor = kFilterCtorMailslot) ∧
      property = 1 then .string
  else if constructor = kFilterCtorKtm ∧ property = 2 then .numeric
  else .none

def isObservedStringProperty (constructor : ℤ) (property : ℕ) : Bool :=
  leafPayload constructor property == .string

def isObservedNumericProperty (constructor : ℤ) (property : ℕ) : Bool :=
  leafPayload constructor property == .numeric

def isObservedBoolProperty (constructor : ℤ) (property : ℕ) : Bool :=
  leafPayload constructor property == .bool

/-! ## Raw comparand records -/

abbrev WString := List UInt16

def kMaxUtf16Bytes : ℕ := 65535
def kStringComparandMin : ℕ := 1
def kStringComparandMax : ℕ := 3
def kStringComparandCollection : ℕ := 4
def kNumericOperatorMin : ℕ := 1
def kNumericOperatorMax : ℕ := 11
def kBoolPayloadSizeClass : ℕ := 2
def kNumericPayloadSizeClass : ℕ := 3
def kStringPayloadSizeClass : ℕ := 4
def kFilePathPayloadSizeClass : ℕ := 5

structure StringComparandRaw where
  comparison : ℕ
  stringKind : ℕ := 1
  utf16Bytes : ℕ
  text : WString
deriving DecidableEq, Repr

structure NumericComparandRaw where
  comparison : ℕ
  rhsKind : ℕ := 1
  value : ℕ
deriving DecidableEq, Repr

structure BoolComparandRaw where
  comparison : ℕ := 1
  rhsKind : ℕ := 1
  value : ℕ
deriving DecidableEq, Repr

structure FilePathComparandRaw where
  kind : ℕ := 1
  string : StringComparandRaw
deriving DecidableEq, Repr

structure CollectionComparandRaw where
  comparison : ℕ := kStringComparandCollection
  collection : Handle
deriving DecidableEq, Repr

inductive Payload
  | string (blob : StringComparandRaw)
  | numeric (blob : NumericComparandRaw)
  | bool (blob : BoolComparandRaw)
  | filePath (blob : FilePathComparandRaw)
  | collection (blob : CollectionComparandRaw)
deriving DecidableEq, Repr

/-! ## Collection records -/

def kCollectionTypeInteger : ℕ := 1
def kCollectionTypeString : ℕ := 2
def kCollectionTypeBinary : ℕ := 3
def kCollectionStringSubtype : ℕ := 1

inductive CollectionEntry
  | string (utf16Bytes : ℕ) (text : WString)
  | integer (value : ℤ)
  | binary (byteCount : ℕ) (data : List UInt8)
deriving DecidableEq, Repr

end Esptool.Esp
