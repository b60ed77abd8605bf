import Esptool.CreateCalls
import Esptool.InstallJournal
import Esptool.Numerals
import Esptool.ParserFaithful

/-!
# Numbers on their way to the client library

The action of a rule and the operand of a leaf are read as 64-bit numbers and
handed over in 32-bit fields.  The number a text writes is defined on its
digits; the parser returns it or refuses the text.  After the parser nothing
refuses a number any more: it is narrowed, and it arrives as it was written
exactly when it fits.
-/

namespace Esptool.Model

open Text Esp

/-! ## Numbers in attributes -/

/-- The number of an attribute; a missing one stands for zero. -/
def writtenNumber (attributes : Attributes) (name : String) : Option ℕ :=
  match attributes.find name with
  | none => some 0
  | some text => numeralValue text.toList

theorem optionalAttribute_ok {α : Type} {parse : String → Option α}
    {attributes : Attributes} {name message : String} {line : ℕ}
    {parsed : Option α}
    (h : optionalAttribute parse attributes name message line = .ok parsed) :
    (attributes.find name = none ∧ parsed = none) ∨
      ∃ text a, attributes.find name = some text ∧ parse text = some a ∧
        parsed = some a := by
  unfold optionalAttribute at h
  split at h
  · rename_i hfind
    cases h
    exact .inl ⟨hfind, rfl⟩
  · rename_i text hfind
    obtain ⟨a, ha, rfl⟩ := map_eq_ok.mp h
    exact .inr ⟨text, a, hfind, orError_ok.mp ha, rfl⟩

theorem parseAction_number {text : String} {parsed : ℕ × String}
    (h : parseAction text = some parsed) (hname : parsed.2 = "") :
    numeralValue text.toList = some parsed.1 := by
  unfold parseAction at h
  split at h
  · rename_i number hnumber
    cases h
    exact parseUnsigned_value hnumber
  · split at h
    · rename_i hknown
      cases h
      dsimp only at hname
      rw [hname] at hknown
      exact absurd hknown (by decide)
    · cases h

/-- The action of a rule that names no action is the number it writes. -/
theorem parseRuleAttributes_action {attributes : Attributes} {line : ℕ}
    {spec : RuleSpec} (h : parseRuleAttributes attributes line = .ok spec)
    (hname : spec.actionName = "") :
    writtenNumber attributes "action" = some spec.action := by
  unfold parseRuleAttributes at h
  simp only [bind_eq_ok] at h
  obtain ⟨_, -, _, -, _, -, action, haction, _, -, _, -, _, -, _, -, hspec⟩ := h
  cases hspec
  rcases optionalAttribute_ok haction with
    ⟨hfind, rfl⟩ | ⟨text, parsed, hfind, hparsed, rfl⟩
  · simp [writtenNumber, hfind]
  · rw [writtenNumber, hfind]
    exact parseAction_number hparsed hname

theorem parseLeafAttributes_operand {attributes : Attributes} {line : ℕ}
    {leaf : FilterNode} (h : parseLeafAttributes attributes line = .ok leaf) :
    writtenNumber attributes "operand" = some leaf.operand := by
  unfold parseLeafAttributes at h
  simp only [bind_eq_ok] at h
  obtain ⟨_, -, _, -, operand, hoperand, _, -, hleaf⟩ := h
  cases hleaf
  rcases optionalAttribute_ok hoperand with
    ⟨hfind, rfl⟩ | ⟨text, parsed, hfind, hparsed, rfl⟩
  · simp [writtenNumber, hfind]
  · rw [writtenNumber, hfind]
    exact parseUnsigned_value hparsed

/-! ## The leaves of a rule -/

mutual

def FilterNode.leaves : FilterNode → List FilterNode
  | ⟨.leaf, type, comparand, operand, propertyId, propertyName, opName,
      value, collectionName, children⟩ =>
      [⟨.leaf, type, comparand, operand, propertyId, propertyName, opName,
        value, collectionName, children⟩]
  | ⟨_, _, _, _, _, _, _, _, _, children⟩ => leavesOf children

def leavesOf : List FilterNode → List FilterNode
  | [] => []
  | node :: rest => node.leaves ++ leavesOf rest

end

theorem FilterNode.leaves_leaf {node : FilterNode} (h : node.kind = .leaf) :
    node.leaves = [node] := by
  cases node
  cases h
  rw [leaves]

theorem FilterNode.leaves_combinator {node : FilterNode}
    (h : node.kind ≠ .leaf) : node.leaves = leavesOf node.children := by
  obtain ⟨kind, _, _, _, _, _, _, _, _, children⟩ := node
  rw [leaves]
  exact h

theorem mem_leavesOf {leaf : FilterNode} {nodes : List FilterNode} :
    leaf ∈ leavesOf nodes ↔ ∃ node ∈ nodes, leaf ∈ node.leaves := by
  induction nodes with
  | nil => simp [leavesOf]
  | cons node rest ih => simp [leavesOf, ih]

/-- The tag of an element of the tree. -/
inductive HasTag (tag : XmlTag) : XmlNode → Prop
  | emptyElement : HasTag tag (.emptyElement tag)
  | element (children : List XmlNode) (endLine : ℕ) :
      HasTag tag (.element tag children endLine)
  | child {outer : XmlTag} {children : List XmlNode} {endLine : ℕ}
      {node : XmlNode} (hnode : node ∈ children) (h : HasTag tag node) :
      HasTag tag (.element outer children endLine)

/-- The leaf is what one of the filter elements among the nodes says. -/
def WrittenLeaf (nodes : List XmlNode) (leaf : FilterNode) (tag : XmlTag) :
    Prop :=
  (∃ node ∈ nodes, HasTag tag node) ∧ elementKind tag.name = .filter ∧
    parseLeafAttributes (Attributes.collect tag) tag.line = .ok leaf

theorem WrittenLeaf.mono {nodes nodes' : List XmlNode} {leaf : FilterNode}
    {tag : XmlTag} (h : WrittenLeaf nodes leaf tag)
    (hsub : ∀ node ∈ nodes, node ∈ nodes') : WrittenLeaf nodes' leaf tag := by
  obtain ⟨⟨node, hnode, htag⟩, hkind, hleaf⟩ := h
  exact ⟨⟨node, hsub node hnode, htag⟩, hkind, hleaf⟩

theorem WrittenLeaf.nest {children : List XmlNode} {leaf : FilterNode}
    {tag outer : XmlTag} {endLine : ℕ} (h : WrittenLeaf children leaf tag) :
    WrittenLeaf [.element outer children endLine] leaf tag := by
  obtain ⟨⟨node, hnode, htag⟩, hkind, hleaf⟩ := h
  exact ⟨⟨_, List.mem_singleton_self _, .child hnode htag⟩, hkind, hleaf⟩

def WritesLeaves (nodes : List XmlNode) (forest : List FilterNode) : Prop :=
  ∀ leaf ∈ leavesOf forest, ∃ tag, WrittenLeaf nodes leaf tag

theorem parseLeafAttributes_kind {attributes : Attributes} {line : ℕ}
    {leaf : FilterNode} (h : parseLeafAttributes attributes line = .ok leaf) :
    leaf.kind = .leaf := by
  unfold parseLeafAttributes at h
  simp only [bind_eq_ok] at h
  obtain ⟨_, -, _, -, _, -, _, -, hleaf⟩ := h
  cases hleaf
  rfl

theorem filterKindFromTag_ne_leaf {name : String} {kind : FilterKind}
    (h : filterKindFromTag name = some kind) : kind ≠ .leaf := by
  unfold filterKindFromTag at h
  split_ifs at h <;> cases h <;> decide

theorem elementKind_combinator {name : String} {kind : FilterKind}
    (h : elementKind name = .combinator kind) : kind ≠ .leaf := by
  unfold elementKind at h
  dsimp only at h
  split_ifs at h
  split at h
  · rename_i found hfound
    cases h
    exact filterKindFromTag_ne_leaf hfound
  · cases h

theorem visitPredicate_written {tag : XmlTag} {children : List XmlNode}
    {node : XmlNode} {inner forest : List FilterNode}
    (hself : HasTag tag node)
    (hinner : WritesLeaves [node] inner)
    (h : visitPredicate tag children inner = .ok forest) :
    WritesLeaves [node] forest := by
  intro leaf hleaf
  unfold visitPredicate at h
  split at h
  · rename_i hkind
    obtain ⟨parsed, hparsed, hforest⟩ := bind_eq_ok.mp h
    cases hforest
    rw [leavesOf,
      FilterNode.leaves_leaf (parseLeafAttributes_kind hparsed)] at hleaf
    rcases List.mem_append.mp hleaf with hleaf | hleaf
    · rw [List.mem_singleton] at hleaf
      subst hleaf
      exact ⟨tag, ⟨node, List.mem_singleton_self _, hself⟩, hkind, hparsed⟩
    · exact hinner leaf hleaf
  · rename_i kind hkind
    cases h
    rw [leavesOf, leavesOf, List.append_nil, FilterNode.leaves_combinator
      (elementKind_combinator hkind)] at hleaf
    exact hinner leaf hleaf
  · cases h
    exact hinner leaf hleaf

theorem gatherOf_written_of {nodes : List XmlNode} {forest : List FilterNode}
    (hnodes : ∀ node ∈ nodes, ∀ forest,
      node.gather visitPredicate = .ok forest → WritesLeaves [node] forest)
    (h : forestOf nodes = .ok forest) : WritesLeaves nodes forest := by
  induction nodes generalizing forest with
  | nil =>
      rw [forestOf, gatherOf] at h
      cases h
      intro leaf hleaf
      cases hleaf
  | cons node rest ih =>
      rw [forestOf, gatherOf] at h
      obtain ⟨first, hfirst, h⟩ := bind_eq_ok.mp h
      obtain ⟨others, hothers, h⟩ := bind_eq_ok.mp h
      cases h
      intro leaf hleaf
      obtain ⟨root, hroot, hleaf⟩ := mem_leavesOf.mp hleaf
      rcases List.mem_append.mp hroot with hroot | hroot
      · obtain ⟨tag, htag⟩ := hnodes node List.mem_cons_self first hfirst leaf
          (mem_leavesOf.mpr ⟨root, hroot, hleaf⟩)
        exact ⟨tag, htag.mono (by simp)⟩
      · obtain ⟨tag, htag⟩ := ih
          (fun node' hnode' => hnodes node' (List.mem_cons_of_mem _ hnode'))
          hothers leaf (mem_leavesOf.mpr ⟨root, hroot, hleaf⟩)
        exact ⟨tag, htag.mono fun node' => List.mem_cons_of_mem _⟩

theorem gather_written (node : XmlNode) {forest : List FilterNode}
    (h : node.gather visitPredicate = .ok forest) :
    WritesLeaves [node] forest := by
  induction node using XmlNode.tree_induction generalizing forest with
  | emptyElement tag =>
      rw [XmlNode.gather] at h
      refine visitPredicate_written .emptyElement ?_ h
      intro leaf hleaf
      cases hleaf
  | element tag children endLine ih =>
      rw [XmlNode.gather] at h
      obtain ⟨inner, hinner, hvisit⟩ := bind_eq_ok.mp h
      refine visitPredicate_written (.element children endLine) ?_ hvisit
      intro leaf hleaf
      obtain ⟨below, hbelow⟩ := gatherOf_written_of
        (fun child hchild forest => ih child hchild) hinner leaf hleaf
      exact ⟨below, hbelow.nest⟩
  | text value =>
      rw [XmlNode.gather] at h
      cases h
      intro leaf hleaf
      cases hleaf
  | other =>
      rw [XmlNode.gather] at h
      cases h
      intro leaf hleaf
      cases hleaf

/-- Every leaf of a rule that can be constructed is written by one of the
filter elements of the rule. -/
theorem RuleOf.leaf_written {element : XmlTag × List XmlNode}
    {spec : RuleSpec} (h : RuleOf element spec) {leaf : FilterNode}
    (hleaf : leaf ∈ spec.filter.leaves) (htype : leaf.type ≠ 0) :
    ∃ tag, WrittenLeaf element.2 leaf tag := by
  obtain ⟨_, forest, queries, _, hforest, _, _, rfl⟩ := h.exists_parts
  have hwritten := gatherOf_written_of
    (fun node _ forest => gather_written node) hforest
  apply hwritten leaf
  dsimp only at hleaf
  unfold finalizeRule at hleaf
  split at hleaf
  · rw [FilterNode.leaves_leaf rfl, List.mem_singleton] at hleaf
    rw [hleaf] at htype
    exact absurd rfl htype
  · exact mem_leavesOf.mpr ⟨_, List.mem_singleton_self _, hleaf⟩
  · rw [FilterNode.leaves_combinator
      (show FilterKind.and ≠ FilterKind.leaf by decide)] at hleaf
    exact hleaf

theorem ruleOf_at {elements : List (XmlTag × List XmlNode)}
    {rules : List RuleSpec} (h : List.Forall₂ RuleOf elements rules) {i : ℕ}
    {spec : RuleSpec} (hspec : rules[i]? = some spec) :
    ∃ element, elements[i]? = some element ∧ RuleOf element spec := by
  obtain ⟨hi, rfl⟩ := List.getElem?_eq_some_iff.mp hspec
  have hlength := h.length_eq
  exact ⟨elements[i], List.getElem?_eq_getElem (by omega),
    h.get (by omega) hi⟩

theorem RuleOf.action_written {element : XmlTag × List XmlNode}
    {spec : RuleSpec} (h : RuleOf element spec)
    (hname : spec.actionName = "") :
    writtenNumber (Attributes.collect element.1) "action" =
      some spec.action := by
  obtain ⟨parsed, _, _, hparsed, _, _, _, rfl⟩ := h.exists_parts
  have haction := parseRuleAttributes_action hparsed hname
  exact haction

end Esptool.Model

namespace Esptool.Esp

open Model Interaction

/-! ## The constructor calls of leaves -/

def Call.constructsLeaf : Call → Bool
  | .createTypedFilter .. => true
  | _ => false

/-- `CreateLeafFilter` on the leaf ends with the constructor call `e`, and
`before` is the log when it is made. -/
def LeafCall (env : Env) (leaf : FilterNode) (before : List Event)
    (e : Event) : Prop :=
  ∃ (ctx : FilterContext) (j : Journal) (opening : List Event),
    before = j.log ++ opening ∧
      (createLeafFilter env ctx leaf j).2.log = before ++ [e] ∧
      e.call.constructsLeaf = true

/-- The leaves that an install of the rule can construct: those of its tree,
and the copy that becomes the image filter of a ProcessCreate rule. -/
def constructedLeaves (spec : RuleSpec) : List FilterNode :=
  spec.filter.leaves ++
    (if hasProcessLeaf spec.filter && spec.filter.kind == .leaf then
      [fileObjectLeaf spec.filter] else [])

/-- Where a constructor call of the computation comes from. -/
def FromLeaves (env : Env) (leaves : List FilterNode) (before : List Event)
    (e : Event) : Prop :=
  e.call.constructsLeaf = true → ∃ leaf ∈ leaves, LeafCall env leaf before e

def ConstructsFrom {α : Type} (env : Env) (leaves : List FilterNode)
    (m : JournalM α) : Prop :=
  Within (fun j j' => Traced (FromLeaves env leaves) j.log j'.log) m

section

variable {α β : Type} {env : Env} {leaves : List FilterNode}

theorem not_constructsLeaf {call : Call} (h : call.handlesFilter = false) :
    call.constructsLeaf ≠ true := by
  intro hleaf
  unfold Call.constructsLeaf at hleaf
  split at hleaf
  · cases h
  · cases hleaf

theorem ConstructsFrom.pure (a : α) :
    ConstructsFrom env leaves (pure a : JournalM α) :=
  Within.pure (fun _ => .refl) a

theorem ConstructsFrom.bind {m : JournalM α} {f : α → JournalM β}
    (hm : ConstructsFrom env leaves m)
    (hf : ∀ a, ConstructsFrom env leaves (f a)) :
    ConstructsFrom env leaves (m >>= f) :=
  Within.bind (fun _ _ _ h h' => h.trans h') hm hf

theorem ConstructsFrom.ite {c : Prop} [Decidable c] {m m' : JournalM α}
    (hm : ConstructsFrom env leaves m) (hm' : ConstructsFrom env leaves m') :
    ConstructsFrom env leaves (if c then m else m') :=
  Within.ite hm hm'

theorem ConstructsFrom.mono {m : JournalM α} {leaves' : List FilterNode}
    (h : ConstructsFrom env leaves m)
    (hsub : ∀ leaf ∈ leaves, leaf ∈ leaves') :
    ConstructsFrom env leaves' m := by
  intro j
  refine (h j).mono fun before e horigin hleaf => ?_
  obtain ⟨leaf, hmem, hcall⟩ := horigin hleaf
  exact ⟨leaf, hsub leaf hmem, hcall⟩

theorem Spares.constructsFrom {m : JournalM α} (h : Spares m) :
    ConstructsFrom env leaves m := by
  intro j
  refine (h j).traced fun _ _ hspared hleaf => ?_
  exact absurd hleaf (not_constructsLeaf hspared)

theorem ConstructsFrom.of_ask {call : Call}
    (h : call.constructsLeaf = false) :
    ConstructsFrom env leaves (ask env.respond call) := by
  intro j
  refine Traced.refl.step fun hleaf => ?_
  rw [h] at hleaf
  cases hleaf

theorem pushFilter_constructsFrom (filter : Handle) :
    ConstructsFrom env leaves (pushFilter filter) :=
  fun _ => .refl

theorem createLeafFilter_constructsFrom (ctx : FilterContext)
    (leaf : FilterNode) :
    ConstructsFrom env [leaf] (createLeafFilter env ctx leaf) := by
  intro j
  obtain ⟨j', hspares, -, hrefused | ⟨-, sizeClass, payload, hrun⟩⟩ :=
    createLeafFilter_cases env ctx leaf j
  · rw [hrefused]
    exact hspares.traced fun _ _ hspared hleaf =>
      absurd hleaf (not_constructsLeaf hspared)
  · have hlog := congrArg (fun result => result.2.log) hrun
    dsimp only [ask_run] at hlog ⊢
    rw [hlog]
    refine Traced.step (hspares.traced fun _ _ hspared hleaf =>
      absurd hleaf (not_constructsLeaf hspared)) fun _ => ?_
    obtain ⟨opening, hopening, _⟩ := hspares.log
    exact ⟨leaf, List.mem_singleton_self _, ctx, j, opening, hopening, hlog,
      rfl⟩

theorem createNotFilter_constructsFrom (child : Handle) :
    ConstructsFrom env leaves (createNotFilter env child) := by
  refine .bind (require_spares _ _).constructsFrom fun _ =>
    .ite (.pure _) ?_
  refine .bind (.of_ask rfl) fun _ => ?_
  exact .bind (pushFilter_constructsFrom _) fun _ => .pure _

theorem createBinaryFilter_constructsFrom (kind : FilterKind)
    (left right : Handle) :
    ConstructsFrom env leaves (createBinaryFilter env kind left right) := by
  refine .bind (require_spares _ _).constructsFrom fun _ =>
    .ite (.pure _) ?_
  refine .bind (.of_ask rfl) fun _ => ?_
  refine .bind (pushFilter_constructsFrom _) fun _ => ?_
  exact .bind (pushFilter_constructsFrom _) fun _ => .pure _

theorem closeLeftOperand_constructsFrom (left : Handle) :
    ConstructsFrom env leaves (closeLeftOperand env left) := by
  refine .bind (require_spares _ _).constructsFrom fun _ =>
    .ite ?_ (.pure _)
  exact .bind (.of_ask rfl) fun _ => .pure _

theorem createFilterTree_constructsFrom (ctx : FilterContext)
    (node : FilterNode) :
    ConstructsFrom env node.leaves (createFilterTree env ctx node) := by
  induction node using FilterNode.compileInduction with
  | leaf node hkind =>
      rw [createFilterTree_leaf hkind, FilterNode.leaves_leaf hkind]
      exact createLeafFilter_constructsFrom ctx node
  | not node operand hkind hchildren ih =>
      rw [createFilterTree_not hkind hchildren,
        FilterNode.leaves_combinator (by simp [hkind]), hchildren]
      refine .bind (ih.mono fun leaf hleaf => ?_) fun child =>
        .ite (.pure _) (createNotFilter_constructsFrom _)
      exact mem_leavesOf.mpr ⟨operand, List.mem_singleton_self _, hleaf⟩
  | notArity node hkind harity =>
      rw [createFilterTree_notArity hkind harity]
      exact .pure _
  | binary node first second rest hkind hchildren ihFirst ihSecond =>
      have hcombinator : node.kind ≠ .leaf := by
        intro hleaf
        rw [hleaf] at hkind
        cases hkind
      rw [createFilterTree_binary hkind hchildren,
        FilterNode.leaves_combinator hcombinator, hchildren]
      refine .bind (ihFirst.mono fun leaf hleaf => ?_) fun left =>
        .ite (.pure _) ?_
      · exact mem_leavesOf.mpr ⟨first, List.mem_cons_self, hleaf⟩
      · refine .bind (ihSecond.mono fun leaf hleaf => ?_) fun right =>
          .ite ?_ (createBinaryFilter_constructsFrom _ _ _)
        · exact mem_leavesOf.mpr ⟨second, by simp, hleaf⟩
        · exact .bind (closeLeftOperand_constructsFrom _) fun _ => .pure _
  | binaryArity node hkind harity =>
      rw [createFilterTree_binaryArity hkind harity]
      exact .pure _

theorem tryBuildRuleFilter_constructsFrom (ctx : FilterContext)
    (spec : RuleSpec) :
    ConstructsFrom env (constructedLeaves spec)
      (tryBuildRuleFilter env ctx spec) := by
  refine .ite (.pure _) ?_
  refine .bind ((createFilterTree_constructsFrom ctx spec.filter).mono
    fun leaf hleaf => List.mem_append_left _ hleaf) fun filter => ?_
  refine .bind (record_spares _ _).constructsFrom fun _ => .ite (.pure _) ?_
  exact .ite (.bind (pushFilter_constructsFrom _) fun _ => .pure _) (.pure _)

theorem createImageFileFilter_constructsFrom (ctx : FilterContext)
    (spec : RuleSpec) :
    ConstructsFrom env (constructedLeaves spec)
      (createImageFileFilter env ctx spec.filter) := by
  unfold createImageFileFilter
  split
  · rename_i himage
    refine .bind ((createLeafFilter_constructsFrom ctx _).mono
      fun leaf hleaf => ?_) fun filter => ?_
    · unfold constructedLeaves
      rw [if_pos himage]
      exact List.mem_append_right _ hleaf
    · refine .bind (record_spares _ _).constructsFrom fun _ =>
        .ite ?_ (.pure _)
      exact .bind (pushFilter_constructsFrom _) fun _ => .pure _
  · exact .pure _

theorem attachFilterToDescriptor_constructsFrom (ctx : FilterContext)
    (descriptor : RuleDescriptor) (spec : RuleSpec) (filter : Handle) :
    ConstructsFrom env (constructedLeaves spec)
      (attachFilterToDescriptor env ctx descriptor spec filter) := by
  refine .ite (.pure _) (.ite (.pure _) (.ite ?_ ?_))
  · exact .bind (createImageFileFilter_constructsFrom ctx spec)
      fun _ => .pure _
  · exact .ite (.pure _) (.ite (.pure _) (.ite (.pure _)
      (.ite (.pure _) (.pure _))))

end

/-- The constructor call was made for a leaf of the rule it is filed under. -/
def FromRules (env : Env) (document : RuleDocument) (before : List Event)
    (e : Event) : Prop :=
  e.call.constructsLeaf = true → ∃ i spec, document.rules[i]? = some spec ∧
    e.tag = some i ∧
    ∃ leaf ∈ constructedLeaves spec, LeafCall env leaf before e

theorem ConstructsFrom.fromRules {α : Type} {env : Env}
    {document : RuleDocument} {i : ℕ} {spec : RuleSpec} {m : JournalM α}
    (h : ConstructsFrom env (constructedLeaves spec) m)
    (hscript : BuildScript env m) (hspec : document.rules[i]? = some spec)
    {j : Journal} (htag : j.tag = some i) :
    Traced (FromRules env document) j.log (m j).2.log := by
  obtain ⟨-, new, hlog, hnew⟩ := hscript.emits j
  have htraced : Traced _ j.log (m j).2.log := h j
  rw [hlog] at htraced ⊢
  refine (htraced.and_forall (P := fun e => e.tag = some i) ?_).mono ?_
  · intro e he
    exact (hnew e he).1.trans htag
  · intro before e horigin hleaf
    exact ⟨i, spec, hspec, horigin.2, horigin.1 hleaf⟩

theorem filterSteps_fromRules (env : Env) (document : RuleDocument) :
    FilterSteps env document fun j j' =>
      Traced (FromRules env document) j.log j'.log := by
  constructor
  · intro first second third h h'
    exact h.trans h'
  · intro j j' hspares
    refine hspares.traced fun _ _ hspared hleaf => ?_
    exact absurd hleaf (not_constructsLeaf hspared)
  · intro ctx index spec j hspec htag
    refine ConstructsFrom.fromRules ?_ (tryBuildRuleFilter_script spec)
      hspec htag
    exact tryBuildRuleFilter_constructsFrom ctx spec
  · intro ctx index spec descriptor filter j hspec htag
    refine ConstructsFrom.fromRules ?_
      (attachFilterToDescriptor_script descriptor spec filter) hspec htag
    exact attachFilterToDescriptor_constructsFrom ctx descriptor spec filter

theorem LeafCall.call {env : Env} {leaf : FilterNode} {before : List Event}
    {e : Event} (h : LeafCall env leaf before e) :
    leaf.type ≠ 0 ∧ ∃ sizeClass payload,
      e.call = .createTypedFilter (constructorSelector leaf.type)
        (leafProperty leaf) sizeClass payload := by
  obtain ⟨ctx, j, opening, hbefore, hlog, hleaf⟩ := h
  obtain ⟨j', hspares, -, hrefused | ⟨htype, sizeClass, payload, hrun⟩⟩ :=
    createLeafFilter_cases env ctx leaf j
  · obtain ⟨new, hnew, hspared⟩ := hspares.log
    rw [hrefused, hnew, hbefore, List.append_assoc] at hlog
    have hmem : e ∈ new := by simp [List.append_cancel_left hlog]
    exact absurd hleaf (not_constructsLeaf (hspared e hmem))
  · rw [hrun, ask_run] at hlog
    obtain ⟨-, hlast⟩ := List.append_inj' hlog rfl
    cases hlast
    exact ⟨htype, sizeClass, payload, rfl⟩

/-! ## What arrives -/

/-- The selector of a numeric action. -/
def writtenSelector (action : ℕ) : ℕ :=
  if action = 0 then kActionQueueBacked else action

theorem resolvedSelector_eq_written_iff {spec : RuleSpec}
    (hname : spec.actionName = "") (hoverride : spec.selectorOverride = none) :
    resolvedSelector spec = writtenSelector spec.action ↔
      spec.action < 2 ^ 32 := by
  have hselector : resolvedSelector spec = rawSelector spec.action := by
    rw [resolvedSelector, hoverride, namedSelector, actionSelectorForName,
      hname]
    rfl
  rw [hselector, rawSelector, writtenSelector]
  by_cases hzero : spec.action = 0
  · simp [hzero]
  · rw [if_pos hzero, if_neg hzero]
    constructor
    · intro hmod
      rw [← hmod]
      exact Nat.mod_lt _ (by decide)
    · exact Nat.mod_eq_of_lt

theorem leafProperty_eq_operand_iff {leaf : FilterNode}
    (hproperty : leaf.propertyId = 0) :
    leafProperty leaf = leaf.operand ↔ leaf.operand < 2 ^ 32 := by
  rw [leafProperty, hproperty]
  constructor
  · intro hmod
    rw [← hmod]
    exact Nat.mod_lt _ (by decide)
  · exact Nat.mod_eq_of_lt

/-- The leaf a constructor call was made for is in the tree of its rule,
unless it is the re-typed copy, and that one has a property of its own. -/
theorem mem_leaves_of_constructed {spec : RuleSpec} {leaf : FilterNode}
    (h : leaf ∈ constructedLeaves spec) (hproperty : leaf.propertyId = 0) :
    leaf ∈ spec.filter.leaves := by
  rcases List.mem_append.mp h with h | h
  · exact h
  · split at h
    · rw [List.mem_singleton] at h
      rw [h, fileObjectLeaf] at hproperty
      dsimp only at hproperty
      split at hproperty
      · cases hproperty
      · contradiction
    · cases h

/-- In every install of an accepted document, the create call of a rule with
a numeric action carries the number that the rule element writes, and the
constructor call of a leaf without a property carries the operand that its
filter element writes, exactly when that number fits the 32-bit field. -/
theorem installRules_numbers
    {xmlReader : List UInt8 → Except String XmlStream} {text : List UInt8}
    {document : XmlDocument} (hdelivers : Delivers xmlReader text document)
    (hok : (parseRuleText xmlReader text).ok = true) (env : Env)
    (s : Session) :
    ∃ elements, document.root.gather visitRule = .ok elements ∧
      ∀ before e after,
        (installRules env (parseRuleText xmlReader text).document s).2.log =
          s.log ++ (before ++ e :: after) →
        (∀ descriptor, e.call = .createRule descriptor →
          ∃ i spec element, e.tag = some i ∧
            (parseRuleText xmlReader text).document.rules[i]? = some spec ∧
            elements[i]? = some element ∧ RuleOf element spec ∧
            (spec.actionName = "" → spec.selectorOverride = none →
              ∃ number, writtenNumber (Attributes.collect element.1)
                  "action" = some number ∧
                (descriptor.actionSelector = writtenSelector number ↔
                  number < 2 ^ 32))) ∧
        (∀ selector property sizeClass payload,
          e.call = .createTypedFilter selector property sizeClass payload →
          ∃ i spec element, e.tag = some i ∧
            (parseRuleText xmlReader text).document.rules[i]? = some spec ∧
            elements[i]? = some element ∧ RuleOf element spec ∧
            (∃ leaf ∈ constructedLeaves spec,
              LeafCall env leaf (s.log ++ before) e) ∧
            ∀ leaf ∈ constructedLeaves spec,
              LeafCall env leaf (s.log ++ before) e →
              leaf.propertyId = 0 →
              ∃ tag number, WrittenLeaf element.2 leaf tag ∧
                writtenNumber (Attributes.collect tag) "operand" =
                  some number ∧
                (property = number ↔ number < 2 ^ 32)) := by
  rw [hdelivers.parseRuleText] at hok ⊢
  obtain ⟨elements, helements, hrules⟩ := parseStream_rules hok
  refine ⟨elements, helements, fun before e after hlog => ⟨?_, ?_⟩⟩
  · intro descriptor hcall
    obtain ⟨i, spec, htag, hspec, hselector, _⟩ :=
      (installRules_creates env _ s before e after hlog descriptor
        hcall).base hcall
    obtain ⟨element, helement, hruleOf⟩ := ruleOf_at hrules hspec
    refine ⟨i, spec, element, htag, hspec, helement, hruleOf, ?_⟩
    intro hname hoverride
    refine ⟨spec.action, hruleOf.action_written hname, ?_⟩
    rw [hselector]
    exact resolvedSelector_eq_written_iff hname hoverride
  · intro selector property sizeClass payload hcall
    have htraced := (filterSteps_fromRules env
      (parseStream ⟨document.events, true⟩).document).installRules s
    obtain ⟨i, spec, hspec, htag, hleaf⟩ :=
      htraced.at_event hlog (by rw [hcall]; rfl)
    obtain ⟨element, helement, hruleOf⟩ := ruleOf_at hrules hspec
    refine ⟨i, spec, element, htag, hspec, helement, hruleOf, hleaf, ?_⟩
    intro leaf hmem hleafCall hproperty
    obtain ⟨htype, _, _, hleafEvent⟩ := hleafCall.call
    obtain ⟨tag, hwritten⟩ := hruleOf.leaf_written
      (mem_leaves_of_constructed hmem hproperty) htype
    refine ⟨tag, leaf.operand, hwritten,
      parseLeafAttributes_operand hwritten.2.2, ?_⟩
    rw [hcall] at hleafEvent
    cases hleafEvent
    exact leafProperty_eq_operand_iff hproperty

def numberedRule (action operand : String) : XmlNode :=
  .element ⟨"rule", [("eventType", "2000"), ("action", action)], 2⟩
    [.emptyElement ⟨"filter", [("type", "1"), ("operand", operand)], 3⟩] 4

def numberReader (action operand : String) (_ : List UInt8) :
    Except String XmlStream :=
  .ok ⟨(rootedAt [numberedRule action operand]).events, true⟩

def queuedSession : Session := { clientHandle := 7, queueHandle := 8 }

def carriedSelector (e : Event) : Option ℕ :=
  match e.call with
  | .createRule descriptor => some descriptor.actionSelector
  | _ => none

def carriedProperty (e : Event) : Option ℕ :=
  match e.call with
  | .createTypedFilter _ property _ _ => some property
  | _ => none

theorem installRules_numbers_fitting :
    let log := (installRules acceptingEnv (parseRuleText
      (numberReader "4" "0x1") []).document queuedSession).2.log
    log.filterMap carriedSelector = [4] ∧
      log.filterMap carriedProperty = [1] ∧
      ∃ elements, (rootedAt [numberedRule "4" "0x1"]).root.gather visitRule =
          .ok elements ∧
        ∀ before e after, log = before ++ e :: after →
          (∀ descriptor, e.call = .createRule descriptor →
            ∃ i spec element, e.tag = some i ∧
              elements[i]? = some element ∧ RuleOf element spec ∧
              (spec.actionName = "" → spec.selectorOverride = none →
                ∃ number, writtenNumber (Attributes.collect element.1)
                    "action" = some number ∧
                  (descriptor.actionSelector = writtenSelector number ↔
                    number < 2 ^ 32))) ∧
          ∀ selector property sizeClass payload,
            e.call = .createTypedFilter selector property sizeClass payload →
            ∃ i spec element, e.tag = some i ∧
              elements[i]? = some element ∧ RuleOf element spec := by
  intro log
  refine ⟨by decide +kernel, by decide +kernel, ?_⟩
  obtain ⟨elements, helements, harrives⟩ := installRules_numbers
    (show Delivers (numberReader "4" "0x1") []
      (rootedAt [numberedRule "4" "0x1"]) from rfl)
    (by decide +kernel) acceptingEnv queuedSession
  refine ⟨elements, helements, ?_⟩
  intro before e after hlog
  have hat := harrives before e after hlog
  constructor
  · intro descriptor hcall
    obtain ⟨i, spec, element, htag, _, helement, hruleOf, hnumber⟩ :=
      hat.1 descriptor hcall
    exact ⟨i, spec, element, htag, helement, hruleOf, hnumber⟩
  · intro selector property sizeClass payload hcall
    obtain ⟨i, spec, element, htag, _, helement, hruleOf, -⟩ :=
      hat.2 selector property sizeClass payload hcall
    exact ⟨i, spec, element, htag, helement, hruleOf⟩

/-- One more than 2 ^ 32 arrives as 1, as an action and as an operand. -/
theorem installRules_numbers_wrapping :
    let parsed := parseRuleText (numberReader "4294967297" "4294967297") []
    let log := (installRules acceptingEnv parsed.document queuedSession).2.log
    parsed.ok = true ∧
      (∀ spec ∈ parsed.document.rules, spec.actionName = "" ∧
        spec.selectorOverride = none ∧ spec.filter.propertyId = 0) ∧
      Text.numeralValue "4294967297".toList = some 4294967297 ∧
      ¬ (∀ selector ∈ log.filterMap carriedSelector,
        selector = 4294967297) ∧
      ¬ (∀ property ∈ log.filterMap carriedProperty,
        property = 4294967297) := by
  decide +kernel

end Esptool.Esp
