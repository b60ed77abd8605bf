import Esptool.EspSession
import Esptool.Text

/-!
# Building filter trees

A leaf becomes one typed constructor call with a payload chosen by its
property; a combinator compiles its operands left to right and joins the two
handles.  Both report a result code and the out-slot of the last call.
-/

namespace Esptool.Esp

open Model Interaction

structure FilterContext where
  client : Handle
  named : List (String × Handle)
deriving DecidableEq, Repr

def Session.filterContext (s : Session) : FilterContext :=
  ⟨s.clientHandle, s.namedCollections⟩

def findNamedCollection
    (named : List (String × Handle)) (name : String) : Handle :=
  (named.lookup name).getD 0

def createStringCollection (env : Env) (client : Handle) (value : WString) :
    JournalM (Option Handle) := do
  let hasCreate ← require env .createCollection
  let hasUpdate ← require env .updateCollection
  if !hasCreate || !hasUpdate || client == 0 || value.isEmpty then
    return none
  let created ← adopt env "EspCreateCollection"
    (.createCollection client kCollectionTypeString kCollectionStringSubtype)
  match created with
  | none => return none
  | some collection =>
      pushCollection collection
      let bytes := value.length * 2
      if bytes = 0 ∨ bytes > kMaxUtf16Bytes then
        return none
      let reply ← ask env.respond
        (.updateCollection collection (.string bytes value))
      record "EspUpdateCollection" reply.result
      return if failed reply.result then none else some collection

def typedFilterExportName (selector : ℕ) : Option Export :=
  if selector = 0 ∨ selector ≥ kTypedFilterExports.length then none
  else some (.createTypedFilter selector)

/-- `static_cast<std::size_t>` of the 32-bit signed constructor index. -/
def constructorSelector (type : ℤ) : ℕ := (type % 2 ^ 64).toNat

def leafProperty (node : FilterNode) : ℕ :=
  if node.propertyId ≠ 0 then node.propertyId else node.operand % 2 ^ 32

def fillNumericComparand (node : FilterNode) :
    Option NumericComparandRaw :=
  if node.comparand < kNumericOperatorMin ∨
      node.comparand > kNumericOperatorMax ∨ node.value = "" then none
  else (Text.fromChars node.value.toList).map fun numeric =>
    { comparison := node.comparand.toNat, value := numeric }

def fillStringComparand (env : Env) (node : FilterNode) :
    Option StringComparandRaw :=
  if node.comparand < kStringComparandMin ∨
      node.comparand > kStringComparandMax ∨ node.value = "" then none
  else
    let wide := env.expandFilterValue node.value
    if wide = [] ∨ wide.length * 2 > kMaxUtf16Bytes then none
    else some
      { comparison := node.comparand.toNat
        utf16Bytes := wide.length * 2
        text := wide }

def boolComparand (node : FilterNode) : BoolComparandRaw :=
  { value :=
      if node.value = "1" ∨
          Text.equalsIgnoreCase node.value.toList "true".toList then 1
      else 0 }

/-- The collection a comparand-4 leaf compares against: the named one, or a
new one holding the leaf's own value. -/
def leafCollection (env : Env) (ctx : FilterContext) (node : FilterNode) :
    JournalM (Option Handle) :=
  if node.collectionName ≠ "" then
    pure (match findNamedCollection ctx.named node.collectionName with
      | 0 => none
      | handle => some handle)
  else if node.value = "" then pure none
  else createStringCollection env ctx.client
    (env.expandFilterValue node.value)

/-- The size class and payload of a leaf, or `none` when it is refused before
the constructor is called. -/
def leafComparand (env : Env) (ctx : FilterContext)
    (node : FilterNode) (property : ℕ) :
    JournalM (Option (ℕ × Payload)) :=
  if node.comparand = kStringComparandCollection then
    if !isObservedStringProperty node.type property then pure none
    else do
      let collection ← leafCollection env ctx node
      return collection.map fun handle =>
        (kStringPayloadSizeClass, .collection { collection := handle })
  else if isObservedNumericProperty node.type property then
    pure ((fillNumericComparand node).map fun blob =>
      (kNumericPayloadSizeClass, .numeric blob))
  else if isObservedBoolProperty node.type property then
    pure (some (kBoolPayloadSizeClass, .bool (boolComparand node)))
  else if !isObservedStringProperty node.type property then pure none
  else
    pure ((fillStringComparand env node).map fun blob =>
      if node.type = kFilterCtorFile ∧ property = 17 then
        (kFilePathPayloadSizeClass, .filePath { string := blob })
      else (kStringPayloadSizeClass, .string blob))

def createLeafFilter (env : Env) (ctx : FilterContext) (node : FilterNode) :
    JournalM (EspResult × Handle) :=
  match typedFilterExportName (constructorSelector node.type) with
  | none => pure (kInvalidArg, 0)
  | some constructor => do
      let resolved ← require env constructor
      if !resolved then
        return (kInvalidArg, 0)
      if leafProperty node = 0 then
        return (kInvalidArg, 0)
      let comparand ← leafComparand env ctx node (leafProperty node)
      match comparand with
      | none => return (kInvalidArg, 0)
      | some (sizeClass, payload) =>
          let reply ← ask env.respond
            (.createTypedFilter (constructorSelector node.type)
              (leafProperty node) sizeClass payload)
          return (reply.result, reply.out)

def binaryFilterExport : FilterKind → Export
  | .and => .createAndFilter
  | .or => .createOrFilter
  | _ => .createXorFilter

def createBinaryFilter (env : Env) (kind : FilterKind)
    (left right : Handle) : JournalM (EspResult × Handle) := do
  let resolved ← require env (binaryFilterExport kind)
  if !resolved then
    return (kInvalidArg, 0)
  let reply ← ask env.respond
    (.createBinaryFilter (binaryFilterExport kind) left right)
  pushFilter left
  pushFilter right
  return (reply.result, reply.out)

def createNotFilter (env : Env) (child : Handle) :
    JournalM (EspResult × Handle) := do
  let resolved ← require env .createNotFilter
  if !resolved then
    return (kInvalidArg, 0)
  let reply ← ask env.respond (.createNotFilter child)
  pushFilter child
  return (reply.result, reply.out)

def closeLeftOperand (env : Env) (left : Handle) : JournalM Unit := do
  let resolved ← require env .closeFilter
  if resolved then
    let _ ← ask env.respond (.closeFilter left)

/-- `CreateFilterTree`.  Only the first two children of a binary combinator
are read. -/
def createFilterTree (env : Env) (ctx : FilterContext) :
    FilterNode → JournalM (EspResult × Handle)
  | ⟨.leaf, type, comparand, operand, propertyId, propertyName, opName,
      value, collectionName, children⟩ =>
      createLeafFilter env ctx ⟨.leaf, type, comparand, operand, propertyId,
        propertyName, opName, value, collectionName, children⟩
  | ⟨.not, _, _, _, _, _, _, _, _, [operand]⟩ => do
      let child ← createFilterTree env ctx operand
      if failed child.1 then
        return (child.1, 0)
      createNotFilter env child.2
  | ⟨.not, _, _, _, _, _, _, _, _, _⟩ => pure (kInvalidArg, 0)
  | ⟨binary, _, _, _, _, _, _, _, _, first :: second :: _⟩ => do
      let left ← createFilterTree env ctx first
      if failed left.1 then
        return (left.1, 0)
      let right ← createFilterTree env ctx second
      if failed right.1 then
        closeLeftOperand env left.2
        return (right.1, 0)
      createBinaryFilter env binary left.2 right.2
  | _ => pure (kInvalidArg, 0)

/-! ### The tree compiler by the shape of a node -/

section

variable {env : Env} {ctx : FilterContext}

theorem createFilterTree_leaf {node : FilterNode}
    (hkind : node.kind = .leaf) :
    createFilterTree env ctx node = createLeafFilter env ctx node := by
  cases node
  cases hkind
  rfl

theorem createFilterTree_not {node operand : FilterNode}
    (hkind : node.kind = .not) (hchildren : node.children = [operand]) :
    createFilterTree env ctx node = (do
      let child ← createFilterTree env ctx operand
      if failed child.1 then
        return (child.1, 0)
      createNotFilter env child.2) := by
  cases node
  cases hkind
  cases hchildren
  rfl

theorem createFilterTree_notArity {node : FilterNode}
    (hkind : node.kind = .not) (harity : node.children.length ≠ 1) :
    createFilterTree env ctx node = pure (kInvalidArg, 0) := by
  obtain ⟨kind, _, _, _, _, _, _, _, _, children⟩ := node
  cases hkind
  match children, harity with
  | [], _ => rfl
  | _ :: _ :: _, _ => rfl

theorem createFilterTree_binary {node first second : FilterNode}
    {rest : List FilterNode} (hkind : node.kind.isBinary = true)
    (hchildren : node.children = first :: second :: rest) :
    createFilterTree env ctx node = (do
      let left ← createFilterTree env ctx first
      if failed left.1 then
        return (left.1, 0)
      let right ← createFilterTree env ctx second
      if failed right.1 then
        closeLeftOperand env left.2
        return (right.1, 0)
      createBinaryFilter env node.kind left.2 right.2) := by
  obtain ⟨kind, _, _, _, _, _, _, _, _, children⟩ := node
  cases hchildren
  cases kind with
  | leaf => cases hkind
  | not => cases hkind
  | and => rfl
  | or => rfl
  | xor => rfl

theorem createFilterTree_binaryArity {node : FilterNode}
    (hkind : node.kind.isBinary = true)
    (harity : node.children.length < 2) :
    createFilterTree env ctx node = pure (kInvalidArg, 0) := by
  obtain ⟨kind, _, _, _, _, _, _, _, _, children⟩ := node
  match children, harity with
  | [], _ =>
      cases kind <;> simp [FilterKind.isBinary] at hkind <;>
        rfl
  | [_], _ =>
      cases kind <;> simp [FilterKind.isBinary] at hkind <;>
        rfl

end

def isEmptyFilter (node : FilterNode) : Bool :=
  node.kind == .leaf && node.type == 0 && node.children.isEmpty

/-- `TryBuildRuleFilter`: `none` when the rule is refused, else the filter
handle, null for an empty filter. -/
def tryBuildRuleFilter (env : Env) (ctx : FilterContext) (spec : RuleSpec) :
    JournalM (Option Handle) :=
  if isEmptyFilter spec.filter then pure (some 0)
  else do
    let filter ← createFilterTree env ctx spec.filter
    record ("filter:" ++ spec.label) filter.1
    if failed filter.1 then
      return none
    if filter.2 ≠ 0 then
      pushFilter filter.2
    return some filter.2

/-! ## The calls filter building makes -/

section

variable {env : Env} {ctx : FilterContext}

abbrev BuildScript (env : Env) {α : Type} (m : JournalM α) : Prop :=
  Scripted env.respond (fun call => call.buildsObjects = true) m

abbrev CollectionScript (env : Env) {α : Type} (m : JournalM α) : Prop :=
  Scripted env.respond (fun call => call.buildsCollections = true) m

theorem buildsObjects_of_buildsCollections {call : Call}
    (h : call.buildsCollections = true) : call.buildsObjects = true := by
  cases call <;> first | rfl | cases h

theorem createStringCollection_script (client : Handle) (value : WString) :
    CollectionScript env (createStringCollection env client value) := by
  refine .bind (require_scripted _) fun hasCreate => ?_
  refine .bind (require_scripted _) fun hasUpdate => ?_
  refine .ite (.pure _) ?_
  refine .bind (adopt_scripted _ rfl) fun created => ?_
  cases created with
  | none => exact .pure _
  | some collection =>
      refine .bind (.note _) fun _ => .ite (.pure _) ?_
      exact .bind (.ask _ rfl) fun reply =>
        .bind (record_scripted _ _) fun _ => .pure _

theorem leafComparand_script (node : FilterNode) (property : ℕ) :
    CollectionScript env (leafComparand env ctx node property) := by
  refine .ite (.ite (.pure _) (.bind ?_ fun _ => .pure _)) ?_
  · exact .ite (.pure _)
      (.ite (.pure _) (createStringCollection_script _ _))
  · exact .ite (.pure _) (.ite (.pure _) (.ite (.pure _) (.pure _)))

theorem createLeafFilter_script (node : FilterNode) :
    BuildScript env (createLeafFilter env ctx node) := by
  unfold createLeafFilter
  split
  · exact .pure _
  · refine .bind (require_scripted _) fun resolved => ?_
    refine .ite (.pure _) (.ite (.pure _) ?_)
    refine .bind ((leafComparand_script _ _).mono fun _ =>
      buildsObjects_of_buildsCollections) fun comparand => ?_
    cases comparand with
    | none => exact .pure _
    | some payload => exact .bind (.ask _ rfl) fun _ => .pure _

theorem createBinaryFilter_script (kind : FilterKind)
    (left right : Handle) :
    BuildScript env (createBinaryFilter env kind left right) := by
  refine .bind (require_scripted _) fun _ => .ite (.pure _) ?_
  refine .bind (.ask _ rfl) fun _ => ?_
  refine .bind (.note _) fun _ => ?_
  exact .bind (.note _) fun _ => .pure _

theorem createNotFilter_script (child : Handle) :
    BuildScript env (createNotFilter env child) := by
  refine .bind (require_scripted _) fun _ => .ite (.pure _) ?_
  refine .bind (.ask _ rfl) fun _ => ?_
  exact .bind (.note _) fun _ => .pure _

theorem closeLeftOperand_script (left : Handle) :
    BuildScript env (closeLeftOperand env left) := by
  refine .bind (require_scripted _) fun _ => .ite ?_ (.pure _)
  exact .bind (.ask _ rfl) fun _ => .pure _

theorem createFilterTree_script (node : FilterNode) :
    BuildScript env (createFilterTree env ctx node) := by
  induction node using FilterNode.compileInduction with
  | leaf node hkind =>
      rw [createFilterTree_leaf hkind]
      exact createLeafFilter_script _
  | not node operand hkind hchildren ih =>
      rw [createFilterTree_not hkind hchildren]
      refine .bind ih fun child => .ite (.pure _) ?_
      exact createNotFilter_script _
  | notArity node hkind harity =>
      rw [createFilterTree_notArity hkind harity]
      exact .pure _
  | binary node first second rest hkind hchildren ihFirst ihSecond =>
      rw [createFilterTree_binary hkind hchildren]
      refine .bind ihFirst fun left => .ite (.pure _) ?_
      refine .bind ihSecond fun right => .ite ?_ ?_
      · exact .bind (closeLeftOperand_script _) fun _ => .pure _
      · exact createBinaryFilter_script _ _ _
  | binaryArity node hkind harity =>
      rw [createFilterTree_binaryArity hkind harity]
      exact .pure _

theorem tryBuildRuleFilter_script (spec : RuleSpec) :
    BuildScript env (tryBuildRuleFilter env ctx spec) := by
  refine .ite (.pure _) ?_
  refine .bind (createFilterTree_script _) fun filter => ?_
  refine .bind (record_scripted _ _) fun _ => .ite (.pure _) ?_
  exact .ite (.bind (.note _) fun _ => .pure _) (.pure _)

end

end Esptool.Esp
