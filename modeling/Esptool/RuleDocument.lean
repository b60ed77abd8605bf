import Mathlib.Tactic

/-!
# The rule document

The parsed form of a rule file: client identity, in-kernel collections, and
rules with their predicate trees.  Every node of a predicate tree carries the
leaf fields, whatever its kind, exactly as the source keeps them.
-/

namespace Esptool.Model

abbrev Guid := Vector UInt8 16

def Guid.null : Guid := Vector.replicate 16 0

inductive RuleLifetime
  | transient
  | persistent
deriving DecidableEq, Repr

inductive FilterKind
  | leaf
  | and
  | or
  | xor
  | not
deriving DecidableEq, Repr

/-- A single predicate tree node.  A leaf maps onto one typed filter
constructor of the client library. -/
structure FilterNode where
  kind : FilterKind := .leaf
  type : ℤ := 0
  comparand : ℤ := 0
  operand : ℕ := 0
  propertyId : ℕ := 0
  propertyName : String := ""
  opName : String := ""
  value : String := ""
  collectionName : String := ""
  children : List FilterNode := []

def FilterKind.isBinary : FilterKind → Bool
  | .and => true
  | .or => true
  | .xor => true
  | _ => false

/-- Induction along the children that a combinator of the right arity reads:
the only child of a negation and the first two of a binary combinator. -/
@[elab_as_elim]
theorem FilterNode.compileInduction {motive : FilterNode → Prop}
    (leaf : ∀ node, node.kind = .leaf → motive node)
    (not : ∀ node operand, node.kind = .not → node.children = [operand] →
      motive operand → motive node)
    (notArity : ∀ node, node.kind = .not → node.children.length ≠ 1 →
      motive node)
    (binary : ∀ node first second rest, node.kind.isBinary = true →
      node.children = first :: second :: rest →
      motive first → motive second → motive node)
    (binaryArity : ∀ node, node.kind.isBinary = true →
      node.children.length < 2 → motive node) :
    ∀ node, motive node
  | ⟨.leaf, _, _, _, _, _, _, _, _, _⟩ => leaf _ rfl
  | ⟨.not, _, _, _, _, _, _, _, _, []⟩ => notArity _ rfl (by simp)
  | ⟨.not, _, _, _, _, _, _, _, _, [operand]⟩ =>
      not _ operand rfl rfl
        (compileInduction leaf not notArity binary binaryArity operand)
  | ⟨.not, _, _, _, _, _, _, _, _, _ :: _ :: _⟩ =>
      notArity _ rfl (by simp)
  | ⟨.and, _, _, _, _, _, _, _, _, []⟩ => binaryArity _ rfl (by simp)
  | ⟨.and, _, _, _, _, _, _, _, _, [_]⟩ => binaryArity _ rfl (by simp)
  | ⟨.and, _, _, _, _, _, _, _, _, first :: second :: rest⟩ =>
      binary _ first second rest rfl rfl
        (compileInduction leaf not notArity binary binaryArity first)
        (compileInduction leaf not notArity binary binaryArity second)
  | ⟨.or, _, _, _, _, _, _, _, _, []⟩ => binaryArity _ rfl (by simp)
  | ⟨.or, _, _, _, _, _, _, _, _, [_]⟩ => binaryArity _ rfl (by simp)
  | ⟨.or, _, _, _, _, _, _, _, _, first :: second :: rest⟩ =>
      binary _ first second rest rfl rfl
        (compileInduction leaf not notArity binary binaryArity first)
        (compileInduction leaf not notArity binary binaryArity second)
  | ⟨.xor, _, _, _, _, _, _, _, _, []⟩ => binaryArity _ rfl (by simp)
  | ⟨.xor, _, _, _, _, _, _, _, _, [_]⟩ => binaryArity _ rfl (by simp)
  | ⟨.xor, _, _, _, _, _, _, _, _, first :: second :: rest⟩ =>
      binary _ first second rest rfl rfl
        (compileInduction leaf not notArity binary binaryArity first)
        (compileInduction leaf not notArity binary binaryArity second)

structure QueryRecipe where
  kind : String
  properties : List ℕ
  contextSet : Bool := false
  contextEnum : Bool := false
deriving DecidableEq, Repr

structure CollectionSpec where
  name : String := ""
  type : ℕ := 2
  «open» : Bool := false
  guid : Guid := Guid.null
  hasGuid : Bool := false
  entries : List String := []
deriving DecidableEq, Repr

structure RuleSpec where
  name : String := ""
  eventType : ℕ := 0
  eventName : String := ""
  lifetime : RuleLifetime := .transient
  flags : ℕ := 0
  action : ℕ := 0
  actionName : String := ""
  selectorOverride : Option ℕ := none
  modifierOverride : Option ℕ := none
  modifyKindOverride : Option ℕ := none
  filter : FilterNode := {}
  queries : List QueryRecipe := []

def RuleSpec.label (spec : RuleSpec) : String :=
  if spec.name = "" then spec.eventName else spec.name

structure ClientSpec where
  name : String := "esptool"
  altitude : String := "385000"
  guid : Guid := Guid.null
  hasGuid : Bool := false
deriving DecidableEq, Repr

structure RuleDocument where
  client : ClientSpec := {}
  rules : List RuleSpec := []
  collections : List CollectionSpec := []
  sourcePath : String := ""

/-- Result of parsing a rule file.  On failure the error names the offending
element or attribute and its line number. -/
structure ParseOutcome where
  ok : Bool := false
  document : RuleDocument := {}
  error : String := ""

end Esptool.Model
