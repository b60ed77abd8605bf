import Esptool.FilterAbi
import Esptool.RuleDocument

/-!
# Object references

What a reference is created from, and the exports that query the object
behind it.  The pointer fields of the descriptors carry what they point at.
-/

namespace Esptool.Esp

open Model

def kPathDescriptorKindDos : ℕ := 1
def kFileIdDescriptorKind : ℕ := 2

structure PathDescriptorRaw where
  kind : ℕ := kPathDescriptorKindDos
  byteLength : ℕ := 0
  buffer : WString
deriving DecidableEq, Repr

def makePathDescriptor (path : WString) : PathDescriptorRaw :=
  { byteLength := path.length * 2, buffer := path }

structure FileIdDescriptorRaw where
  kind : ℕ := kFileIdDescriptorKind
  fileId : Vector UInt8 16
deriving DecidableEq, Repr

/-- The arguments of a reference constructor after the client. -/
inductive ReferenceKey
  | pid (pid : ℤ)
  | path (descriptor : PathDescriptorRaw)
  | desktop (name : WString)
  | volume (volume : Guid)
  | fileId (volume : Guid) (fileId : FileIdDescriptorRaw)
  | streamById (volume : Guid) (fileId : FileIdDescriptorRaw)
      (streamName : Option WString)
  | eventObject (id : ℕ)
deriving DecidableEq, Repr

def canonicalQueryKind (kind : String) : String :=
  if kind = "process-token" ∨ kind = "thread-token" then "token"
  else if kind = "stream" then "filestream"
  else kind

def kQueryExports : List (String × String) :=
  [("client", "EspQueryClientProperties"),
    ("desktop", "EspQueryDesktopProperties"),
    ("disk", "EspQueryDiskProperties"),
    ("fileobject", "EspQueryFileObjectProperties"),
    ("file", "EspQueryFileProperties"),
    ("filestream", "EspQueryFileStreamProperties"),
    ("ktm", "EspQueryKtmTransactionProperties"),
    ("mailslot", "EspQueryMailslotProperties"),
    ("pipe", "EspQueryPipeProperties"),
    ("process", "EspQueryProcessProperties"),
    ("registry-key-object", "EspQueryRegistryKeyObjectProperties"),
    ("registry", "EspQueryRegistryKeyProperties"),
    ("thread", "EspQueryThreadProperties"),
    ("token", "EspQueryTokenProperties"),
    ("volume", "EspQueryVolumeProperties")]

def queryExportForKind (kind : String) : Option String :=
  kQueryExports.lookup (canonicalQueryKind kind)

def kSupportExports : List (String × String) :=
  [("client", "EspIsClientPropertySupported"),
    ("desktop", "EspIsDesktopPropertySupported"),
    ("disk", "EspIsDiskPropertySupported"),
    ("event", "EspIsEventPropertySupported"),
    ("fileobject", "EspIsFileObjectPropertySupported"),
    ("file", "EspIsFilePropertySupported"),
    ("filestream", "EspIsFileStreamPropertySupported"),
    ("ktm", "EspIsKtmTransactionPropertySupported"),
    ("mailslot", "EspIsMailslotPropertySupported"),
    ("pipe", "EspIsPipePropertySupported"),
    ("process", "EspIsProcessPropertySupported"),
    ("registry-key-object", "EspIsRegistryKeyObjectPropertySupported"),
    ("registry", "EspIsRegistryKeyPropertySupported"),
    ("thread", "EspIsThreadPropertySupported"),
    ("token", "EspIsTokenPropertySupported"),
    ("volume", "EspIsVolumePropertySupported")]

def supportExportForKind (kind : String) : Option String :=
  kSupportExports.lookup (canonicalQueryKind kind)

end Esptool.Esp
