import Esptool.FilterAttach
import Esptool.NumericAttributes

/-!
# The leaves of a filter tree

Two searches decide where a descriptor holds its filter: whether some leaf has
a constructor, and the slot of the first leaf that has one.  Both are searches
in the list of the leaves, depth first and from left to right.
-/

namespace Esptool.Esp

open Model

/-- A tree is a leaf, or a combinator over its children. -/
@[elab_as_elim]
theorem FilterNode.tree_induction {motive : FilterNode → Prop}
    (leaf : ∀ node : FilterNode, node.kind = .leaf → motive node)
    (combinator : ∀ node : FilterNode, node.kind ≠ .leaf →
      (∀ child ∈ node.children, motive child) → motive node)
    (node : FilterNode) : motive node := by
  by_cases hkind : node.kind = .leaf
  · exact leaf node hkind
  · exact combinator node hkind fun child hchild =>
      FilterNode.tree_induction leaf combinator child
termination_by sizeOf node
decreasing_by
  have hlt := List.sizeOf_lt_of_mem hchild
  obtain ⟨_, _, _, _, _, _, _, _, _, children⟩ := node
  change sizeOf child < sizeOf children at hlt
  simp only [FilterNode.mk.sizeOf_spec]
  omega

/-! ## One node of the searches -/

theorem hasCtorLeaf_leaf {node : FilterNode} (h : node.kind = .leaf)
    (ctor : ℤ) : hasCtorLeaf node ctor = (node.type == ctor) := by
  cases node
  cases h
  rw [hasCtorLeaf]

theorem hasCtorLeaf_combinator {node : FilterNode} (h : node.kind ≠ .leaf)
    (ctor : ℤ) :
    hasCtorLeaf node ctor = anyHasCtorLeaf node.children ctor := by
  obtain ⟨kind, _, _, _, _, _, _, _, _, children⟩ := node
  rw [hasCtorLeaf]
  exact h

theorem filterRuleOffset_leaf {node : FilterNode} (h : node.kind = .leaf) :
    filterRuleOffset node = filterDescriptorOffsetForCtor node.type := by
  cases node
  cases h
  rw [filterRuleOffset]

theorem filterRuleOffset_combinator {node : FilterNode}
    (h : node.kind ≠ .leaf) :
    filterRuleOffset node = firstRuleOffset node.children := by
  obtain ⟨kind, _, _, _, _, _, _, _, _, children⟩ := node
  rw [filterRuleOffset]
  exact h

theorem anyHasCtorLeaf_iff {children : List FilterNode} {ctor : ℤ} :
    anyHasCtorLeaf children ctor = true ↔
      ∃ child ∈ children, hasCtorLeaf child ctor = true := by
  induction children with
  | nil => simp [anyHasCtorLeaf]
  | cons child rest ih => simp [anyHasCtorLeaf, ih]

/-! ## The searches on the list of leaves -/

theorem hasCtorLeaf_iff (node : FilterNode) (ctor : ℤ) :
    hasCtorLeaf node ctor = true ↔
      ∃ leaf ∈ node.leaves, leaf.type = ctor := by
  induction node using FilterNode.tree_induction with
  | leaf node h =>
      rw [hasCtorLeaf_leaf h, FilterNode.leaves_leaf h]
      simp
  | combinator node h ih =>
      rw [hasCtorLeaf_combinator h, FilterNode.leaves_combinator h,
        anyHasCtorLeaf_iff]
      simp only [mem_leavesOf]
      constructor
      · rintro ⟨child, hchild, hctor⟩
        obtain ⟨leaf, hleaf, htype⟩ := (ih child hchild).mp hctor
        exact ⟨leaf, ⟨child, hchild, hleaf⟩, htype⟩
      · rintro ⟨leaf, ⟨child, hchild, hleaf⟩, htype⟩
        exact ⟨child, hchild, (ih child hchild).mpr ⟨leaf, hleaf, htype⟩⟩

/-- The leaves that have a slot in the descriptor. -/
def hasSlot (leaf : FilterNode) : Bool :=
  leaf.type == kFilterCtorProcess || leaf.type == kFilterCtorEvent

/-- The slot of the first leaf that has one. -/
def firstSlot (leaves : List FilterNode) : ℕ :=
  match leaves.find? hasSlot with
  | none => 0
  | some leaf => if leaf.type = kFilterCtorProcess then 688 else 40

theorem firstSlot_eq_zero_iff {leaves : List FilterNode} :
    firstSlot leaves = 0 ↔ ∀ leaf ∈ leaves, hasSlot leaf = false := by
  unfold firstSlot
  cases hfind : leaves.find? hasSlot with
  | none => simpa using hfind
  | some leaf =>
      have hslot := List.find?_some hfind
      refine iff_of_false ?_ fun h => ?_
      · dsimp only
        split <;> decide
      · rw [h leaf (List.mem_of_find?_eq_some hfind)] at hslot
        cases hslot

theorem firstSlot_append (first second : List FilterNode) :
    firstSlot (first ++ second) =
      if firstSlot first ≠ 0 then firstSlot first else firstSlot second := by
  cases hfind : first.find? hasSlot with
  | none =>
      have hzero : firstSlot first = 0 := by rw [firstSlot, hfind]
      rw [if_neg (not_not.mpr hzero), firstSlot, List.find?_append, hfind]
      rfl
  | some leaf =>
      have hsame : firstSlot (first ++ second) = firstSlot first := by
        rw [firstSlot, firstSlot, List.find?_append, hfind]
        rfl
      have hne : firstSlot first ≠ 0 := by
        rw [firstSlot, hfind]
        dsimp only
        split <;> decide
      rw [hsame, if_pos hne]

theorem firstSlot_singleton (leaf : FilterNode) :
    firstSlot [leaf] = filterDescriptorOffsetForCtor leaf.type := by
  rw [firstSlot, filterDescriptorOffsetForCtor]
  by_cases hslot : hasSlot leaf = true
  · rw [List.find?_cons_of_pos hslot]
    dsimp only
    rw [hasSlot, Bool.or_eq_true, beq_iff_eq, beq_iff_eq] at hslot
    split
    · rfl
    · rename_i hprocess
      rw [if_pos (hslot.resolve_left hprocess)]
      rfl
  · rw [List.find?_cons_of_neg hslot]
    rw [hasSlot, Bool.or_eq_true, beq_iff_eq, beq_iff_eq, not_or] at hslot
    rw [if_neg hslot.1, if_neg hslot.2]
    rfl

theorem filterRuleOffset_eq (node : FilterNode) :
    filterRuleOffset node = firstSlot node.leaves := by
  induction node using FilterNode.tree_induction with
  | leaf node h =>
      rw [filterRuleOffset_leaf h, FilterNode.leaves_leaf h,
        firstSlot_singleton]
  | combinator node h ih =>
      rw [filterRuleOffset_combinator h, FilterNode.leaves_combinator h]
      generalize node.children = children at ih
      induction children with
      | nil => rfl
      | cons child rest ihRest =>
          rw [firstRuleOffset, leavesOf, firstSlot_append,
            ih child List.mem_cons_self,
            ihRest fun other hother => ih other (List.mem_cons_of_mem _ hother)]

/-- The two searches are exact: a constructor is found when a leaf has it, the
offset is that of the first leaf with a slot, and it is zero when no leaf has
one. -/
theorem leafSearches_exact (node : FilterNode) :
    (∀ ctor, hasCtorLeaf node ctor = true ↔
      ∃ leaf ∈ node.leaves, leaf.type = ctor) ∧
    filterRuleOffset node = firstSlot node.leaves ∧
    (filterRuleOffset node = 0 ↔ ∀ leaf ∈ node.leaves,
      leaf.type ≠ kFilterCtorProcess ∧ leaf.type ≠ kFilterCtorEvent) ∧
    (filterRuleOffset node ≠ 0 ↔
      hasCtorLeaf node kFilterCtorProcess = true ∨
        hasCtorLeaf node kFilterCtorEvent = true) := by
  have hzero : filterRuleOffset node = 0 ↔ ∀ leaf ∈ node.leaves,
      leaf.type ≠ kFilterCtorProcess ∧ leaf.type ≠ kFilterCtorEvent := by
    rw [filterRuleOffset_eq, firstSlot_eq_zero_iff]
    simp [hasSlot]
  refine ⟨hasCtorLeaf_iff node, filterRuleOffset_eq node, hzero, ?_⟩
  rw [ne_eq, hzero, hasCtorLeaf_iff, hasCtorLeaf_iff]
  constructor
  · intro h
    push Not at h
    obtain ⟨leaf, hleaf, htype⟩ := h
    by_cases hprocess : leaf.type = kFilterCtorProcess
    · exact .inl ⟨leaf, hleaf, hprocess⟩
    · exact .inr ⟨leaf, hleaf, htype hprocess⟩
  · rintro (⟨leaf, hleaf, htype⟩ | ⟨leaf, hleaf, htype⟩) hnone
    · exact (hnone leaf hleaf).1 htype
    · exact (hnone leaf hleaf).2 htype

end Esptool.Esp
