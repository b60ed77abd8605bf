import Esptool.FilterBuild

/-!
# Attaching a filter and a configuration blob to a descriptor

Where the handle of a compiled filter goes depends on the event type and on
the leaf constructors that occur in the tree: into a descriptor slot, into
the configuration blob bound at `+96`, or nowhere.
-/

namespace Esptool.Esp

open Model Interaction

mutual

def hasCtorLeaf (node : FilterNode) (ctor : ℤ) : Bool :=
  match node with
  | ⟨.leaf, type, _, _, _, _, _, _, _, _⟩ => type == ctor
  | ⟨_, _, _, _, _, _, _, _, _, children⟩ => anyHasCtorLeaf children ctor

def anyHasCtorLeaf (children : List FilterNode) (ctor : ℤ) : Bool :=
  match children with
  | [] => false
  | child :: rest => hasCtorLeaf child ctor || anyHasCtorLeaf rest ctor

end

def hasFileObjectLeaf (node : FilterNode) : Bool :=
  hasCtorLeaf node kFilterCtorFileObject

def hasProcessLeaf (node : FilterNode) : Bool :=
  hasCtorLeaf node kFilterCtorProcess

def filterDescriptorOffsetForCtor (ctor : ℤ) : ℕ :=
  if ctor = kFilterCtorProcess then kRuleProcessFilterOffset
  else if ctor = kFilterCtorEvent then kRuleEventFilterOffset
  else 0

mutual

def filterRuleOffset (node : FilterNode) : ℕ :=
  match node with
  | ⟨.leaf, type, _, _, _, _, _, _, _, _⟩ =>
      filterDescriptorOffsetForCtor type
  | ⟨_, _, _, _, _, _, _, _, _, children⟩ => firstRuleOffset children

def firstRuleOffset (children : List FilterNode) : ℕ :=
  match children with
  | [] => 0
  | child :: rest =>
      if filterRuleOffset child ≠ 0 then filterRuleOffset child
      else firstRuleOffset rest

end

/-! ## Configuration blob layout -/

def kCfgIncludeEnabled : ℕ := 1
def kFoTargetPipe : ℕ := 3

@[simp] def kCfgThreadIncludeOffset : ℕ := 48
@[simp] def kCfgProcessIncludeOffset : ℕ := 568
@[simp] def kFoIoFileObjectFilterOffset : ℕ := 936
@[simp] def kCfgFileObjectIncludeOffset : ℕ := 960
@[simp] def kCfgFoTargetOffset : ℕ := 1056
@[simp] def kCfgPipeIncludeOffset : ℕ := 1096
@[simp] def kCfgMailslotIncludeOffset : ℕ := 1384
@[simp] def kProcessConfigFilterOffset : ℕ := 8
@[simp] def kProcessConfigBindingCountOffset : ℕ := 36
@[simp] def kProcessConfigBindingPtrOffset : ℕ := 40
@[simp] def kProcessConfigQueryCountOffset : ℕ := 48
@[simp] def kProcessConfigQueryPtrOffset : ℕ := 56
@[simp] def kImageLoadFileObjectFilterOffset : ℕ := 400
@[simp] def kRegistryConfigFilterOffset : ℕ := 8
@[simp] def kRegistryConfigQueryCountOffset : ℕ := 48
@[simp] def kRegistryConfigQueryPtrOffset : ℕ := 56

/-- `PropertyQueryStore`: the default property ids of each object kind. -/
def processIds : List ℤ := [6, 20, 1, 2]
def threadIds : List ℤ := [1, 2]
def pipeIds : List ℤ := [1]
def fileObjectIds : List ℤ := [1, 9, 28]
def registryIds : List ℤ := [1, 2]
def mailslotIds : List ℤ := [1]
def childBind : Word := .binding 3 0

/-- A query slot: include flag, then count at `+16` and ids at `+24`. -/
def writeIncludeQuery (blob : FoIoConfigBlob) (slot : ℕ) (ids : List ℤ) :
    FoIoConfigBlob :=
  ((blob.write slot (.u32 kCfgIncludeEnabled)).write
    (slot + 16) (.u32 ids.length)).write (slot + 24) (.ids ids)

def writeCountPtrQuery (blob : FoIoConfigBlob)
    (countOffset ptrOffset : ℕ) (ids : List ℤ) : FoIoConfigBlob :=
  (blob.write countOffset (.u32 ids.length)).write ptrOffset (.ids ids)

def writeFilterAt (blob : FoIoConfigBlob) (offset : ℕ) (filter : Handle) :
    FoIoConfigBlob :=
  if filter ≠ 0 then blob.write offset (.filter filter) else blob

def bindConfigBlob (descriptor : RuleDescriptor) (blob : FoIoConfigBlob) :
    RuleDescriptor :=
  { descriptor with eventConfig := some blob }

def fillTypedIoQueries (fileObjectQuery restrictPipe mailslotQuery : Bool) :
    FoIoConfigBlob :=
  let blob := writeIncludeQuery {} kCfgThreadIncludeOffset threadIds
  let blob := writeIncludeQuery blob kCfgProcessIncludeOffset processIds
  let blob := blob.write kCfgFileObjectIncludeOffset (.u32 kCfgIncludeEnabled)
  let blob := if restrictPipe then
      blob.write kCfgFoTargetOffset (.u32 kFoTargetPipe)
    else blob
  let blob := if fileObjectQuery then
      writeIncludeQuery blob kCfgFileObjectIncludeOffset fileObjectIds
    else blob
  let blob := writeIncludeQuery blob kCfgPipeIncludeOffset pipeIds
  if mailslotQuery then
    writeIncludeQuery blob kCfgMailslotIncludeOffset mailslotIds
  else blob

def attachTypedIoConfig (descriptor : RuleDescriptor) (spec : RuleSpec)
    (filter : Handle) : RuleDescriptor :=
  let blob := fillTypedIoQueries (isFoIoEvent spec.eventType)
    (restrictPipeTarget spec.eventType)
    (spec.eventType == kEventMailslotCreate)
  let blob :=
    if hasFileObjectLeaf spec.filter && isFoIoEvent spec.eventType then
      writeFilterAt blob kFoIoFileObjectFilterOffset filter
    else blob
  bindConfigBlob descriptor blob

/-- The blob of the branches that share one shape: the filter at a fixed
offset, then the custom query ids when there are any, else the defaults. -/
def filterAndQueryBlob (filterOffset : ℕ) (filter : Handle)
    (countOffset ptrOffset : ℕ) (customIds : Option (List ℤ))
    (defaultIds : List ℤ) : FoIoConfigBlob :=
  writeCountPtrQuery (writeFilterAt {} filterOffset filter)
    countOffset ptrOffset (customIds.getD defaultIds)

def attachRegistryConfig (descriptor : RuleDescriptor) (filter : Handle)
    (customIds : Option (List ℤ)) : RuleDescriptor :=
  bindConfigBlob descriptor
    (filterAndQueryBlob kRegistryConfigFilterOffset filter
      kRegistryConfigQueryCountOffset kRegistryConfigQueryPtrOffset
      customIds registryIds)

def attachThreadConfig (descriptor : RuleDescriptor) (filter : Handle)
    (customIds : Option (List ℤ)) : RuleDescriptor :=
  bindConfigBlob descriptor
    (filterAndQueryBlob kProcessConfigFilterOffset filter
      kProcessConfigQueryCountOffset kProcessConfigQueryPtrOffset
      customIds threadIds)

def attachProcessConfig (descriptor : RuleDescriptor) (filter : Handle)
    (customIds : Option (List ℤ)) : RuleDescriptor :=
  bindConfigBlob descriptor
    (filterAndQueryBlob kProcessConfigFilterOffset filter
      kProcessConfigQueryCountOffset kProcessConfigQueryPtrOffset
      customIds processIds)

def attachImageLoadConfig (descriptor : RuleDescriptor) (filter : Handle)
    (fileObjectLeaf : Bool) (customIds : Option (List ℤ)) :
    RuleDescriptor :=
  let offset := if fileObjectLeaf then kImageLoadFileObjectFilterOffset
    else kProcessConfigFilterOffset
  bindConfigBlob descriptor
    (filterAndQueryBlob offset filter
      kProcessConfigQueryCountOffset kProcessConfigQueryPtrOffset
      customIds processIds)

/-- `AttachProcessCreateConfig` as its only caller uses it, with no nested
child blob and a null process filter. -/
def attachProcessCreateConfig (descriptor : RuleDescriptor)
    (imageFileFilter : Handle) (customIds : Option (List ℤ)) :
    RuleDescriptor :=
  let blob : FoIoConfigBlob :=
    if imageFileFilter ≠ 0 then
      writeFilterAt
        ((({} : FoIoConfigBlob).write kProcessConfigBindingCountOffset
          (.u32 1)).write kProcessConfigBindingPtrOffset childBind)
        kImageLoadFileObjectFilterOffset imageFileFilter
    else
      (({} : FoIoConfigBlob).write kProcessConfigBindingCountOffset
        (.u32 0)).write kProcessConfigBindingPtrOffset .null
  bindConfigBlob descriptor
    (writeCountPtrQuery blob kProcessConfigQueryCountOffset
      kProcessConfigQueryPtrOffset (customIds.getD processIds))

def attachDescriptorFilter (descriptor : RuleDescriptor)
    (filterNode : FilterNode) (filter : Handle) : RuleDescriptor :=
  let offset := filterRuleOffset filterNode
  if offset ≠ 0 ∧ offset + 8 ≤ kRuleDescriptorSize then
    { descriptor with
      filterSlots := descriptor.filterSlots.write offset filter }
  else descriptor

/-! ## The dispatch on the event type -/

def propertyIdToInt32 (property : ℕ) : ℤ := Int.bmod property (2 ^ 32)

/-- The ids of the first matching query recipe with properties, completed by
the required ids it lacks. -/
def customQueryIds (queries : List QueryRecipe) (kinds : List String)
    (required : List ℤ) : Option (List ℤ) :=
  (queries.find? fun recipe =>
    kinds.contains recipe.kind && !recipe.properties.isEmpty).map
    fun recipe =>
      required.foldl
        (fun custom id => if id ∈ custom then custom else custom ++ [id])
        (recipe.properties.map propertyIdToInt32)

def fileObjectLeaf (node : FilterNode) : FilterNode :=
  { node with
    type := kFilterCtorFileObject
    propertyId := if node.propertyId = 0 then 1 else node.propertyId }

/-- The image filter of a ProcessCreate rule, null unless its tree is one
process leaf whose re-typing the client library accepts. -/
def createImageFileFilter (env : Env) (ctx : FilterContext)
    (node : FilterNode) : JournalM Handle :=
  if hasProcessLeaf node && node.kind == .leaf then do
    let filter ← createLeafFilter env ctx (fileObjectLeaf node)
    record "filter:child-image-fo" filter.1
    if succeeded filter.1 && filter.2 != 0 then
      pushFilter filter.2
      return filter.2
    return 0
  else pure 0

def attachFilterToDescriptor (env : Env) (ctx : FilterContext)
    (descriptor : RuleDescriptor) (spec : RuleSpec) (filter : Handle) :
    JournalM RuleDescriptor :=
  if isThreadEventType spec.eventType then
    pure (attachThreadConfig descriptor filter
      (customQueryIds spec.queries ["thread"] [1]))
  else if needsTypedIoConfig spec.eventType then
    let attached := attachTypedIoConfig descriptor spec filter
    pure (if hasProcessLeaf spec.filter then
      attachDescriptorFilter attached spec.filter filter else attached)
  else if needsProcessCreateConfig spec.eventType then do
    let imageFileFilter ← createImageFileFilter env ctx spec.filter
    return attachProcessCreateConfig descriptor imageFileFilter
      (customQueryIds spec.queries ["process"] [6, 20])
  else if needsProcessConfig spec.eventType then
    pure (attachProcessConfig descriptor filter
      (customQueryIds spec.queries ["process"] [6]))
  else if needsImageLoadConfig spec.eventType then
    pure (attachImageLoadConfig descriptor filter
      (hasFileObjectLeaf spec.filter)
      (customQueryIds spec.queries ["process"] [6]))
  else if isRegistryEventType spec.eventType then
    pure (attachRegistryConfig descriptor filter
      (customQueryIds spec.queries ["registry", "registry-key-object"] [1]))
  else if filter ≠ 0 then
    pure (attachDescriptorFilter descriptor spec.filter filter)
  else pure descriptor

theorem createImageFileFilter_script {env : Env} {ctx : FilterContext}
    (node : FilterNode) :
    BuildScript env (createImageFileFilter env ctx node) := by
  refine .ite ?_ (.pure _)
  refine .bind (createLeafFilter_script _) fun filter => ?_
  refine .bind (record_scripted _ _) fun _ => .ite ?_ (.pure _)
  exact .bind (.note _) fun _ => .pure _

theorem attachFilterToDescriptor_script {env : Env} {ctx : FilterContext}
    (descriptor : RuleDescriptor) (spec : RuleSpec) (filter : Handle) :
    BuildScript env
      (attachFilterToDescriptor env ctx descriptor spec filter) := by
  refine .ite (.pure _) (.ite (.pure _) (.ite ?_ ?_))
  · exact .bind (createImageFileFilter_script _) fun _ => .pure _
  · exact .ite (.pure _) (.ite (.pure _) (.ite (.pure _)
      (.ite (.pure _) (.pure _))))

end Esptool.Esp
