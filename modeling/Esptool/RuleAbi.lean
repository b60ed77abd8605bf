import Esptool.EventIds
import Esptool.FilterAbi
import Esptool.Lib.Slots

/-!
# Rule descriptors and action selectors

The record passed to `EspCreateRule`, the entry passed to `EspUpdateRules`,
and the resolution of the action selector.  The pointer fields of the records
carry what they point at.  Fields that are never written by the tool (the
descriptor id, padding) are left out.
-/

namespace Esptool.Esp

open Model

def kActionQueueBacked : ℕ := 1
def kActionNotifySuppress : ℕ := 4
def kActionRewrite : ℕ := 5
def kActionDeny : ℕ := kActionRewrite
def kActionCancel : ℕ := 6
def kActionMatchSubrules : ℕ := 7

def actionSelectorForName (actionName : String) (fallback : ℕ) : ℕ :=
  if actionName = "deny" then kActionDeny
  else if actionName = "suppress" then kActionNotifySuppress
  else fallback

/-- The numeric action narrowed to 32 bits, with zero meaning queue-backed. -/
def rawSelector (action : ℕ) : ℕ :=
  if action ≠ 0 then action % 2 ^ 32 else kActionQueueBacked

def resolvedActionNeedsQueue
    (action : ℕ) (actionName : String) (selectorOverride : Option ℕ) : Bool :=
  selectorOverride.getD
    (actionSelectorForName actionName (rawSelector action)) ==
      kActionQueueBacked

def kLifetimeTransientFfi : ℕ := 1
def kLifetimePersistFfi : ℕ := 3
def kRuleOrderKey : ℕ := 100
def kEventModifyAccessMaskBytes : ℕ := 16
def kRewriteAccessMask : ℕ := 0x120089
def kRewriteAccessMaskFlags : ℕ := 1
def kRuleUpdateOperationAdd : ℕ := 1

def kRuleEventFilterOffset : ℕ := 40
def kRuleProcessFilterOffset : ℕ := 688
def kRuleDescriptorSize : ℕ := 1152

structure AccessMaskModification where
  mask : ℕ := kRewriteAccessMask
  flags : ℕ := kRewriteAccessMaskFlags
deriving DecidableEq, Repr

structure EventModifyBlob where
  count : ℕ := 1
  entries : List AccessMaskModification
deriving DecidableEq, Repr

/-- What the tool writes into one field of a configuration blob. -/
inductive Word
  | u32 (value : ℕ)
  | filter (handle : Handle)
  | ids (values : List ℤ)
  | binding (sourceKind fieldIndex : ℕ)
  | null
deriving DecidableEq, Repr

/-- The zero-initialised configuration blob bound at descriptor `+96`. -/
abbrev FoIoConfigBlob := Slots Word

structure RuleDescriptor where
  opaque16 : ℕ := kRuleOrderKey
  lifetime : ℕ := 0
  flags : ℕ := 0
  eventType : ℕ := 0
  /-- Filter handles written into the descriptor, by descriptor offset. -/
  filterSlots : Slots Handle := {}
  /-- The blob whose address stands at `+96`. -/
  eventConfig : Option FoIoConfigBlob := none
  eventModifyCount : ℕ := 0
  eventModifySize : ℕ := 0
  eventModifyPtr : Option EventModifyBlob := none
  actionSelector : ℕ := 0
  /-- The quadword at `+1112`: queue handle, disposition or subrule count. -/
  eventQueue : ℕ := 0
  /-- The array whose address stands at `+1120`. -/
  subruleArray : Option (List Handle) := none
deriving DecidableEq, Repr

structure RuleUpdateEntry where
  operation : ℕ := kRuleUpdateOperationAdd
  rule : Handle := 0
  extra : ℕ := 0
deriving DecidableEq, Repr

def lifetimeToFfi (spec : RuleSpec) : ℕ :=
  if spec.lifetime = .persistent then kLifetimePersistFfi
  else kLifetimeTransientFfi

end Esptool.Esp
