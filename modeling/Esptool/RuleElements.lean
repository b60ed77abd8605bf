import Esptool.RuleParser

/-!
# The elements of a rule document

A well-formed document is a tree, and the reader delivers its nodes in
document order.  What the tree says is defined here on the tree itself: its
rule elements, and for each of them the predicates and the query recipes
below it.  The parser, which only sees the nodes go by, is compared with it
one element at a time, outside a rule and inside one.
-/

namespace Esptool.Model

open Text Esp

inductive XmlNode
  | emptyElement (tag : XmlTag)
  | element (tag : XmlTag) (children : List XmlNode) (endLine : ℕ)
  | text (value : String)
  | other

mutual

def XmlNode.events : XmlNode → List XmlEvent
  | .emptyElement tag => [.element tag true]
  | .element tag children endLine =>
      .element tag false ::
        (eventsOf children ++ [.endElement tag.name endLine])
  | .text value => [.text value]
  | .other => [.other]

def eventsOf : List XmlNode → List XmlEvent
  | [] => []
  | node :: rest => node.events ++ eventsOf rest

end

/-- Collect over a tree in document order.  `visit` sees an element, its
children and what was collected below it. -/
abbrev Visit (α : Type) :=
  XmlTag → List XmlNode → List α → Except String (List α)

mutual

def XmlNode.gather {α : Type} (visit : Visit α) :
    XmlNode → Except String (List α)
  | .emptyElement tag => visit tag [] []
  | .element tag children _ => do
      let inner ← gatherOf visit children
      visit tag children inner
  | .text _ => .ok []
  | .other => .ok []

def gatherOf {α : Type} (visit : Visit α) :
    List XmlNode → Except String (List α)
  | [] => .ok []
  | node :: rest => do
      let first ← node.gather visit
      let others ← gatherOf visit rest
      return first ++ others

end

/-- A filter element is a leaf, and what is nested in it follows it; a
combinator holds what is nested in it; any other element is transparent. -/
def visitPredicate : Visit FilterNode := fun tag _ inner =>
  match elementKind tag.name with
  | .filter => do
      let leaf ← parseLeafAttributes (Attributes.collect tag) tag.line
      return leaf :: inner
  | .combinator kind => .ok [{ kind := kind, children := inner }]
  | _ => .ok inner

def visitQuery : Visit QueryRecipe := fun tag _ inner =>
  match elementKind tag.name with
  | .query => do
      let recipe ← parseQueryAttributes (Attributes.collect tag) tag.line
      return recipe :: inner
  | _ => .ok inner

def visitRule : Visit (XmlTag × List XmlNode) := fun tag children inner =>
  match elementKind tag.name with
  | .rule => .ok ((tag, children) :: inner)
  | _ => .ok inner

abbrev forestOf := gatherOf visitPredicate

abbrev queriesOf := gatherOf visitQuery

mutual

/-- The number of combinators on the deepest path. -/
def FilterNode.nesting : FilterNode → ℕ
  | ⟨kind, _, _, _, _, _, _, _, _, children⟩ =>
      (if kind = .leaf then 0 else 1) + nestingOf children

def nestingOf : List FilterNode → ℕ
  | [] => 0
  | node :: rest => max node.nesting (nestingOf rest)

end

/-- The rule that a rule element stands for. -/
structure RuleOf (element : XmlTag × List XmlNode) (rule : RuleSpec) :
    Prop where
  exists_parts : ∃ spec forest queries,
    parseRuleAttributes (Attributes.collect element.1) element.1.line =
        .ok spec ∧
      forestOf element.2 = .ok forest ∧ queriesOf element.2 = .ok queries ∧
      nestingOf forest ≤ kMaxDepth ∧
      rule = { spec with
        filter := finalizeRule forest, queries := queries }

/-! ## Sequencing -/

section

variable {α β : Type}

theorem bind_eq_ok {x : Except String α} {f : α → Except String β} {b : β} :
    (x >>= f) = .ok b ↔ ∃ a, x = .ok a ∧ f a = .ok b := by
  cases x with
  | error message =>
      constructor
      · intro h
        cases h
      · rintro ⟨a, ha, -⟩
        cases ha
  | ok a =>
      constructor
      · intro h
        exact ⟨a, rfl, h⟩
      · rintro ⟨a', ha, hb⟩
        cases ha
        exact hb

theorem map_eq_ok {x : Except String α} {f : α → β} {b : β} :
    x.map f = .ok b ↔ ∃ a, x = .ok a ∧ f a = b := by
  cases x with
  | error message => simp [Except.map]
  | ok a => simp [Except.map]

theorem parserRun_append (before after : List XmlEvent) (st : ParserState) :
    parserRun (before ++ after) st = parserRun before st >>= parserRun after := by
  induction before generalizing st with
  | nil => rfl
  | cons event rest ih =>
      rw [List.cons_append, parserRun, parserRun, bind_assoc]
      congr 1
      funext next
      exact ih next

theorem parserRun_append_ok {before after : List XmlEvent}
    {st last : ParserState} :
    parserRun (before ++ after) st = .ok last ↔
      ∃ middle, parserRun before st = .ok middle ∧
        parserRun after middle = .ok last := by
  rw [parserRun_append, bind_eq_ok]

theorem parserRun_cons_ok {event : XmlEvent} {rest : List XmlEvent}
    {st last : ParserState} :
    parserRun (event :: rest) st = .ok last ↔
      ∃ next, parserStep st event = .ok next ∧
        parserRun rest next = .ok last := by
  rw [parserRun, bind_eq_ok]

theorem parserRun_singleton {event : XmlEvent} {st last : ParserState} :
    parserRun [event] st = .ok last ↔ parserStep st event = .ok last := by
  rw [parserRun_cons_ok]
  constructor
  · rintro ⟨next, hstep, hrest⟩
    cases hrest
    exact hstep
  · intro hstep
    exact ⟨last, hstep, rfl⟩

theorem parserRun_element {tag : XmlTag} {children : List XmlNode}
    {endLine : ℕ} {st last : ParserState} :
    parserRun (XmlNode.element tag children endLine).events st = .ok last ↔
      ∃ opened inner, openElement st tag false = .ok opened ∧
        parserRun (eventsOf children) opened = .ok inner ∧
        closeElement inner tag.name endLine = .ok last := by
  rw [XmlNode.events, parserRun_cons_ok]
  simp only [parserRun_append_ok, parserRun_singleton, parserStep]
  constructor
  · rintro ⟨opened, hopen, inner, hinner, hclose⟩
    exact ⟨opened, inner, hopen, hinner, hclose⟩
  · rintro ⟨opened, inner, hopen, hinner, hclose⟩
    exact ⟨opened, hopen, inner, hinner, hclose⟩

/-- Induction over a tree, with every child at hand. -/
theorem XmlNode.tree_induction {motive : XmlNode → Prop}
    (emptyElement : ∀ tag, motive (.emptyElement tag))
    (element : ∀ tag children endLine, (∀ child ∈ children, motive child) →
      motive (.element tag children endLine))
    (text : ∀ value, motive (.text value)) (other : motive .other) :
    ∀ node, motive node := by
  refine @XmlNode.rec motive
    (fun children => ∀ child ∈ children, motive child)
    emptyElement element text other ?_ ?_
  · intro child hchild
    cases hchild
  · intro head rest hhead hrest child hchild
    rcases List.mem_cons.mp hchild with rfl | hchild
    · exact hhead
    · exact hrest child hchild

end

/-! ## Predicates and the last rule -/

section

variable {α : Type}

theorem onLast_onLast (f g : α → α) (items : List α) :
    onLast f (onLast g items) = onLast (fun a => f (g a)) items := by
  induction items using onLast.induct with
  | case1 => rfl
  | case2 last => rfl
  | case3 head next rest ih =>
      cases rest with
      | nil => rfl
      | cons second rest =>
          simp only [onLast] at ih ⊢
          rw [ih]

theorem onLast_concat (f : α → α) (items : List α) (last : α) :
    onLast f (items ++ [last]) = items ++ [f last] := by
  induction items with
  | nil => rfl
  | cons head rest ih =>
      cases rest with
      | nil => rfl
      | cons next rest =>
          simp only [List.cons_append, onLast] at ih ⊢
          rw [ih]

theorem onLast_self {f : α → α} (hf : ∀ a, f a = a) (items : List α) :
    onLast f items = items := by
  induction items using onLast.induct with
  | case1 => rfl
  | case2 last => rw [onLast, hf]
  | case3 head next rest ih => rw [onLast, ih]

theorem onLast_append (f : α → α) {before items : List α}
    (hne : items ≠ []) :
    onLast f (before ++ items) = before ++ onLast f items := by
  obtain ⟨rest, last, rfl⟩ : ∃ rest last, items = rest ++ [last] :=
    ⟨items.dropLast, items.getLast hne,
      (List.dropLast_append_getLast hne).symm⟩
  rw [← List.append_assoc, onLast_concat, onLast_concat, List.append_assoc]

theorem onLast_ne_nil {f : α → α} {items : List α} (hne : items ≠ []) :
    onLast f items ≠ [] := by
  match items with
  | [] => exact absurd rfl hne
  | [last] => simp [onLast]
  | head :: next :: rest => simp [onLast]

end

def Predicates.appendAll (predicates : Predicates) :
    List FilterNode → Predicates
  | [] => predicates
  | node :: rest => (predicates.append node).appendAll rest

theorem Predicates.appendAll_append (predicates : Predicates)
    (first second : List FilterNode) :
    predicates.appendAll (first ++ second) =
      (predicates.appendAll first).appendAll second := by
  induction first generalizing predicates with
  | nil => rfl
  | cons node rest ih => exact ih (predicates.append node)

theorem Predicates.appendAll_roots (roots forest : List FilterNode) :
    ({ stack := [], roots := roots } : Predicates).appendAll forest =
      { stack := [], roots := roots ++ forest } := by
  induction forest generalizing roots with
  | nil => simp [appendAll]
  | cons node rest ih =>
      rw [appendAll, append]
      simpa using ih (roots ++ [node])

theorem Predicates.appendAll_stack (top : FilterNode)
    (rest roots forest : List FilterNode) :
    ({ stack := top :: rest, roots := roots } : Predicates).appendAll forest =
      { stack := { top with children := top.children ++ forest } :: rest
        roots := roots } := by
  induction forest generalizing top with
  | nil =>
      cases top
      simp [appendAll]
  | cons node others ih =>
      rw [appendAll, append]
      simpa using ih { top with children := top.children ++ [node] }

theorem Predicates.length_append (predicates : Predicates)
    (node : FilterNode) :
    (predicates.append node).stack.length = predicates.stack.length := by
  unfold append
  split
  · rfl
  · rename_i heq
    simp [heq]

theorem Predicates.length_appendAll (predicates : Predicates)
    (forest : List FilterNode) :
    (predicates.appendAll forest).stack.length = predicates.stack.length := by
  induction forest generalizing predicates with
  | nil => rfl
  | cons node rest ih => rw [appendAll, ih, length_append]

theorem nestingOf_append (first second : List FilterNode) :
    nestingOf (first ++ second) = max (nestingOf first) (nestingOf second) := by
  induction first with
  | nil => simp [nestingOf]
  | cons node rest ih =>
      calc
        nestingOf (node :: rest ++ second) =
            max node.nesting (nestingOf (rest ++ second)) := by
            rw [List.cons_append, nestingOf]
        _ = max node.nesting (max (nestingOf rest) (nestingOf second)) := by
            rw [ih]
        _ = max (nestingOf (node :: rest)) (nestingOf second) := by
            rw [nestingOf, max_assoc]

/-! ## Inside a rule -/

/-- The parts of the state that the rules are built from stay as they are. -/
structure Quiet (st st' : ParserState) : Prop where
  predicates : st'.predicates = st.predicates
  rules : st'.document.rules = st.document.rules
  currentRule : st'.currentRule = st.currentRule
  sawRoot : st'.sawRoot = st.sawRoot

theorem Quiet.refl (st : ParserState) : Quiet st st := ⟨rfl, rfl, rfl, rfl⟩

/-- An element that is neither a rule nor a part of one. -/
def ElementKind.transparent : ElementKind → Bool
  | .rule => false
  | .query => false
  | .filter => false
  | .combinator _ => false
  | _ => true

theorem visit_of_transparent {tag : XmlTag}
    (h : (elementKind tag.name).transparent = true) (children : List XmlNode)
    (forest : List FilterNode) (queries : List QueryRecipe)
    (rules : List (XmlTag × List XmlNode)) :
    visitPredicate tag children forest = .ok forest ∧
      visitQuery tag children queries = .ok queries ∧
      visitRule tag children rules = .ok rules := by
  unfold visitPredicate visitQuery visitRule
  cases hkind : elementKind tag.name <;>
    simp_all [ElementKind.transparent]

/-- All that the start of an element can do inside a rule. -/
inductive OpensInside (st : ParserState) (tag : XmlTag) (isEmpty : Bool)
    (opened : ParserState) : Prop
  | combinator (kind : FilterKind)
      (hkind : elementKind tag.name = .combinator kind)
      (hdepth : st.predicates.stack.length < kMaxDepth)
      (hopened : opened = { st with
        predicates :=
          if isEmpty then st.predicates.append { kind := kind }
          else { st.predicates with
            stack := { kind := kind } :: st.predicates.stack } })
  | filter (leaf : FilterNode) (hkind : elementKind tag.name = .filter)
      (hleaf : parseLeafAttributes (Attributes.collect tag) tag.line =
        .ok leaf)
      (hopened : opened =
        { st with predicates := st.predicates.append leaf })
  | query (recipe : QueryRecipe) (hkind : elementKind tag.name = .query)
      (hrecipe : parseQueryAttributes (Attributes.collect tag) tag.line =
        .ok recipe)
      (hopened : opened = { st with
        document := st.document.onRule fun rule =>
          { rule with queries := rule.queries ++ [recipe] } })
  | quiet (hkind : (elementKind tag.name).transparent = true)
      (hquiet : Quiet st opened)

theorem openElement_inside {st opened : ParserState} {tag : XmlTag}
    {isEmpty : Bool} (hroot : st.sawRoot = true)
    (hrule : st.currentRule = true)
    (h : openElement st tag isEmpty = .ok opened) :
    OpensInside st tag isEmpty opened := by
  have hopen : ¬ (!st.sawRoot) = true := by simp [hroot]
  have hwithin : ¬ (!st.currentRule) = true := by simp [hrule]
  unfold openElement at h
  rw [if_neg hopen] at h
  cases hkind : elementKind tag.name with
  | root =>
      simp only [hkind, Except.ok.injEq] at h
      subst h
      exact .quiet (by rw [hkind]; rfl) (Quiet.refl st)
  | client =>
      simp only [hkind] at h
      obtain ⟨client, -, hopened⟩ := bind_eq_ok.mp h
      cases hopened
      exact .quiet (by rw [hkind]; rfl) ⟨rfl, rfl, rfl, rfl⟩
  | rule => simp [hkind, openRule, hrule] at h
  | collections => simp [hkind, hrule] at h
  | collection => simp [hkind, openCollection, hrule] at h
  | entry =>
      simp only [hkind, openEntry] at h
      refine .quiet (by rw [hkind]; rfl) ?_
      split at h
      · cases h
      · split at h
        · cases h
          exact ⟨rfl, rfl, rfl, rfl⟩
        · cases h
          exact ⟨rfl, rfl, rfl, rfl⟩
  | query =>
      simp only [hkind, openQuery, if_neg hwithin] at h
      obtain ⟨recipe, hrecipe, hopened⟩ := bind_eq_ok.mp h
      cases hopened
      exact .query recipe hkind hrecipe rfl
  | filter =>
      simp only [hkind, openFilter, if_neg hwithin] at h
      obtain ⟨leaf, hleaf, hopened⟩ := bind_eq_ok.mp h
      cases hopened
      exact .filter leaf hkind hleaf rfl
  | combinator kind =>
      simp only [hkind, openCombinator, if_neg hwithin] at h
      split at h
      · cases h
      · rename_i hdepth
        apply OpensInside.combinator kind hkind (by omega)
        cases isEmpty with
        | true =>
            simp only [if_true, Except.ok.injEq] at h
            exact h.symm
        | false =>
            simp only [Bool.false_eq_true, if_false, Except.ok.injEq] at h
            exact h.symm
  | unknown =>
      simp only [hkind, Except.ok.injEq] at h
      subst h
      exact .quiet (by rw [hkind]; rfl) (Quiet.refl st)

/-- The end of an element that is neither a rule nor a combinator. -/
theorem closeElement_quiet {st closed : ParserState} {name : String}
    {line : ℕ} (hrule : elementKind name ≠ .rule)
    (hcombinator : ∀ kind, elementKind name ≠ .combinator kind)
    (h : closeElement st name line = .ok closed) : Quiet st closed := by
  unfold closeElement at h
  cases hkind : elementKind name with
  | combinator kind => exact absurd hkind (hcombinator kind)
  | rule => exact absurd hkind hrule
  | entry =>
      simp only [hkind, Except.ok.injEq] at h
      subst h
      refine ⟨rfl, ?_, rfl, rfl⟩
      dsimp only
      split <;> rfl
  | collection | root =>
      simp only [hkind, Except.ok.injEq] at h
      subst h
      exact ⟨rfl, rfl, rfl, rfl⟩
  | client | collections | query | filter | unknown =>
      simp only [hkind, Except.ok.injEq] at h
      subst h
      exact Quiet.refl st

/-- What a stretch of nodes inside a rule adds to it. -/
structure InRule (st st' : ParserState) (forest : List FilterNode)
    (queries : List QueryRecipe) : Prop where
  predicates : st'.predicates = st.predicates.appendAll forest
  rules : st'.document.rules =
    onLast (fun rule => { rule with queries := rule.queries ++ queries })
      st.document.rules
  currentRule : st'.currentRule = true
  sawRoot : st'.sawRoot = true
  depth : st.predicates.stack.length + nestingOf forest ≤ kMaxDepth

theorem Quiet.inRule {st st' : ParserState} (h : Quiet st st')
    (hroot : st.sawRoot = true) (hrule : st.currentRule = true)
    (hdepth : st.predicates.stack.length ≤ kMaxDepth) :
    InRule st st' [] [] := by
  refine ⟨h.predicates, ?_, h.currentRule.trans hrule,
    h.sawRoot.trans hroot, hdepth⟩
  rw [h.rules, onLast_self]
  simp

theorem InRule.trans {first second third : ParserState}
    {forest forest' : List FilterNode} {queries queries' : List QueryRecipe}
    (h : InRule first second forest queries)
    (h' : InRule second third forest' queries') :
    InRule first third (forest ++ forest') (queries ++ queries') := by
  have hlength := congrArg (fun predicates => predicates.stack.length)
    h.predicates
  simp only [Predicates.length_appendAll] at hlength
  refine ⟨?_, ?_, h'.currentRule, h'.sawRoot, ?_⟩
  · rw [h'.predicates, h.predicates, Predicates.appendAll_append]
  · rw [h'.rules, h.rules, onLast_onLast]
    simp
  · have hfirst := h.depth
    have hsecond := h'.depth
    rw [nestingOf_append]
    omega

theorem InRule.quiet {first second third : ParserState}
    {forest : List FilterNode} {queries : List QueryRecipe}
    (h : InRule first second forest queries) (hquiet : Quiet second third) :
    InRule first third forest queries := by
  have hpredicates := hquiet.predicates.trans h.predicates
  have hrules := hquiet.rules.trans h.rules
  have hcurrent := hquiet.currentRule.trans h.currentRule
  have hroot := hquiet.sawRoot.trans h.sawRoot
  exact ⟨hpredicates, hrules, hcurrent, hroot, h.depth⟩

/-- What the parser makes of some nodes inside a rule is what was gathered
from them, and there is no rule among them. -/
def InsideSpec (events : List XmlEvent)
    (forest : Except String (List FilterNode))
    (queries : Except String (List QueryRecipe))
    (rules : Except String (List (XmlTag × List XmlNode))) : Prop :=
  ∀ st st', st.sawRoot = true → st.currentRule = true →
    st.predicates.stack.length ≤ kMaxDepth →
    parserRun events st = .ok st' →
    ∃ nodes recipes, forest = .ok nodes ∧ queries = .ok recipes ∧
      rules = .ok [] ∧ InRule st st' nodes recipes

theorem insideSpec_of_children {children : List XmlNode}
    (h : ∀ child ∈ children, InsideSpec child.events
      (child.gather visitPredicate) (child.gather visitQuery)
      (child.gather visitRule)) :
    InsideSpec (eventsOf children) (forestOf children) (queriesOf children)
      (gatherOf visitRule children) := by
  induction children with
  | nil =>
      intro st st' hroot hrule hdepth hrun
      cases hrun
      exact ⟨[], [], rfl, rfl, rfl, (Quiet.refl st).inRule hroot hrule hdepth⟩
  | cons child rest ih =>
      intro st st' hroot hrule hdepth hrun
      rw [eventsOf, parserRun_append_ok] at hrun
      obtain ⟨middle, hfirst, hrest⟩ := hrun
      obtain ⟨nodes, recipes, hnodes, hrecipes, hnone, hin⟩ :=
        h child List.mem_cons_self st middle hroot hrule hdepth hfirst
      have hdepth' : middle.predicates.stack.length ≤ kMaxDepth := by
        rw [hin.predicates, Predicates.length_appendAll]
        exact hdepth
      obtain ⟨nodes', recipes', hnodes', hrecipes', hnone', hin'⟩ :=
        ih (fun next hnext => h next (List.mem_cons_of_mem _ hnext))
          middle st' hin.sawRoot hin.currentRule hdepth' hrest
      refine ⟨nodes ++ nodes', recipes ++ recipes', ?_, ?_, ?_,
        hin.trans hin'⟩
      · simp only [gatherOf, hnodes, hnodes']
        rfl
      · simp only [gatherOf, hrecipes, hrecipes']
        rfl
      · simp only [gatherOf, hnone, hnone']
        rfl

theorem visit_filter {tag : XmlTag} {leaf : FilterNode}
    (hkind : elementKind tag.name = .filter)
    (hleaf : parseLeafAttributes (Attributes.collect tag) tag.line = .ok leaf)
    (children : List XmlNode) (forest : List FilterNode)
    (queries : List QueryRecipe) (rules : List (XmlTag × List XmlNode)) :
    visitPredicate tag children forest = .ok (leaf :: forest) ∧
      visitQuery tag children queries = .ok queries ∧
      visitRule tag children rules = .ok rules := by
  refine ⟨?_, ?_, ?_⟩
  · simp only [visitPredicate, hkind, hleaf]
    rfl
  · simp [visitQuery, hkind]
  · simp [visitRule, hkind]

theorem visit_query {tag : XmlTag} {recipe : QueryRecipe}
    (hkind : elementKind tag.name = .query)
    (hrecipe : parseQueryAttributes (Attributes.collect tag) tag.line =
      .ok recipe)
    (children : List XmlNode) (forest : List FilterNode)
    (queries : List QueryRecipe) (rules : List (XmlTag × List XmlNode)) :
    visitPredicate tag children forest = .ok forest ∧
      visitQuery tag children queries = .ok (recipe :: queries) ∧
      visitRule tag children rules = .ok rules := by
  refine ⟨?_, ?_, ?_⟩
  · simp [visitPredicate, hkind]
  · simp only [visitQuery, hkind, hrecipe]
    rfl
  · simp [visitRule, hkind]

theorem visit_combinator {tag : XmlTag} {kind : FilterKind}
    (hkind : elementKind tag.name = .combinator kind)
    (children : List XmlNode) (forest : List FilterNode)
    (queries : List QueryRecipe) (rules : List (XmlTag × List XmlNode)) :
    visitPredicate tag children forest =
        .ok [{ kind := kind, children := forest }] ∧
      visitQuery tag children queries = .ok queries ∧
      visitRule tag children rules = .ok rules := by
  refine ⟨?_, ?_, ?_⟩
  · simp [visitPredicate, hkind]
  · simp [visitQuery, hkind]
  · simp [visitRule, hkind]

theorem nestingOf_combinator (kind : FilterKind) (forest : List FilterNode) :
    nestingOf [{ kind := kind, children := forest }] ≤
      1 + nestingOf forest := by
  simp only [nestingOf, FilterNode.nesting, Nat.max_zero]
  split <;> omega

theorem parseLeafAttributes_leaf {attributes : Attributes} {line : ℕ}
    {leaf : FilterNode} (h : parseLeafAttributes attributes line = .ok leaf) :
    nestingOf [leaf] = 0 := by
  unfold parseLeafAttributes at h
  obtain ⟨type, -, h⟩ := bind_eq_ok.mp h
  obtain ⟨comparand, -, h⟩ := bind_eq_ok.mp h
  obtain ⟨operand, -, h⟩ := bind_eq_ok.mp h
  obtain ⟨property, -, h⟩ := bind_eq_ok.mp h
  cases h
  simp [nestingOf, FilterNode.nesting]

theorem inRule_filter {st : ParserState} {leaf : FilterNode}
    (hroot : st.sawRoot = true) (hrule : st.currentRule = true)
    (hdepth : st.predicates.stack.length ≤ kMaxDepth)
    (hleaf : nestingOf [leaf] = 0) :
    InRule st { st with predicates := st.predicates.append leaf } [leaf]
      [] := by
  refine ⟨rfl, ?_, hrule, hroot, by omega⟩
  rw [onLast_self]
  simp

theorem inRule_query {st : ParserState} {recipe : QueryRecipe}
    (hroot : st.sawRoot = true) (hrule : st.currentRule = true)
    (hdepth : st.predicates.stack.length ≤ kMaxDepth) :
    InRule st { st with
      document := st.document.onRule fun rule =>
        { rule with queries := rule.queries ++ [recipe] } } [] [recipe] :=
  ⟨rfl, rfl, hrule, hroot, hdepth⟩

/-- The end of a combinator moves it, with what was nested in it, to the
place where it was opened. -/
theorem inRule_combinator {st opened inner closed : ParserState}
    {kind : FilterKind} {name : String} {line : ℕ}
    {forest : List FilterNode} {queries : List QueryRecipe}
    (hkind : elementKind name = .combinator kind)
    (hopened : opened = { st with
      predicates := { st.predicates with
        stack := { kind := kind } :: st.predicates.stack } })
    (hin : InRule opened inner forest queries)
    (hclose : closeElement inner name line = .ok closed) :
    InRule st closed [{ kind := kind, children := forest }] queries := by
  subst hopened
  have hinner : inner.predicates =
      { stack := { kind := kind, children := forest } ::
          st.predicates.stack
        roots := st.predicates.roots } := by
    rw [hin.predicates, Predicates.appendAll_stack]
    simp
  have hdepth := hin.depth
  have hnesting := nestingOf_combinator kind forest
  simp only [closeElement, hkind, hinner, Except.ok.injEq] at hclose
  subst hclose
  refine ⟨rfl, hin.rules, hin.currentRule, hin.sawRoot, ?_⟩
  simp only [List.length_cons] at hdepth
  omega

/-- Inside a rule the parser gathers predicates and queries in document
order, and meets no other rule. -/
theorem insideSpec (node : XmlNode) :
    InsideSpec node.events (node.gather visitPredicate)
      (node.gather visitQuery) (node.gather visitRule) := by
  induction node using XmlNode.tree_induction with
  | text value =>
      intro st st' hroot hrule hdepth hrun
      rw [XmlNode.events, parserRun_singleton, parserStep] at hrun
      have hquiet : Quiet st st' := by
        split at hrun
        · cases hrun
          exact ⟨rfl, rfl, rfl, rfl⟩
        · cases hrun
          exact Quiet.refl st
      exact ⟨[], [], rfl, rfl, rfl, hquiet.inRule hroot hrule hdepth⟩
  | other =>
      intro st st' hroot hrule hdepth hrun
      rw [XmlNode.events, parserRun_singleton] at hrun
      cases hrun
      exact ⟨[], [], rfl, rfl, rfl, (Quiet.refl st).inRule hroot hrule hdepth⟩
  | emptyElement tag =>
      intro st st' hroot hrule hdepth hrun
      rw [XmlNode.events, parserRun_singleton, parserStep] at hrun
      cases openElement_inside hroot hrule hrun with
      | combinator kind hkind hroom hopened =>
          obtain ⟨hnodes, hrecipes, hnone⟩ :=
            visit_combinator hkind [] [] [] []
          refine ⟨_, _, hnodes, hrecipes, hnone, ?_⟩
          subst hopened
          refine ⟨rfl, ?_, hrule, hroot, ?_⟩
          · rw [onLast_self]
            simp
          · have hnesting := nestingOf_combinator kind []
            rw [show nestingOf [] = 0 from rfl] at hnesting
            omega
      | filter leaf hkind hleaf hopened =>
          obtain ⟨hnodes, hrecipes, hnone⟩ :=
            visit_filter hkind hleaf [] [] [] []
          subst hopened
          exact ⟨_, _, hnodes, hrecipes, hnone, inRule_filter hroot hrule
            hdepth (parseLeafAttributes_leaf hleaf)⟩
      | query recipe hkind hrecipe hopened =>
          obtain ⟨hnodes, hrecipes, hnone⟩ :=
            visit_query hkind hrecipe [] [] [] []
          subst hopened
          exact ⟨_, _, hnodes, hrecipes, hnone,
            inRule_query hroot hrule hdepth⟩
      | quiet hkind hquiet =>
          obtain ⟨hnodes, hrecipes, hnone⟩ :=
            visit_of_transparent hkind [] [] [] []
          exact ⟨_, _, hnodes, hrecipes, hnone,
            hquiet.inRule hroot hrule hdepth⟩
  | element tag children endLine ih =>
      intro st st' hroot hrule hdepth hrun
      obtain ⟨opened, inner, hopen, hinner, hclose⟩ :=
        parserRun_element.mp hrun
      have hspec := insideSpec_of_children ih
      have hgather : ∀ {α : Type} {visit : Visit α} {items result : List α},
          gatherOf visit children = .ok items →
          visit tag children items = .ok result →
          (XmlNode.element tag children endLine).gather visit =
            .ok result := by
        intro α visit items result hitems hresult
        rw [XmlNode.gather, hitems]
        exact hresult
      -- the kinds whose end does nothing: children follow what was opened
      have hplain : ∀ {forest : List FilterNode}
          {queries : List QueryRecipe}, InRule st opened forest queries →
          elementKind tag.name ≠ .rule →
          (∀ kind, elementKind tag.name ≠ .combinator kind) →
          ∃ nodes recipes, forestOf children = .ok nodes ∧
            queriesOf children = .ok recipes ∧
            gatherOf visitRule children = .ok [] ∧
            InRule st st' (forest ++ nodes) (queries ++ recipes) := by
        intro forest queries hopens hnotRule hnotCombinator
        have hdepth' : opened.predicates.stack.length ≤ kMaxDepth := by
          rw [hopens.predicates, Predicates.length_appendAll]
          exact hdepth
        obtain ⟨nodes, recipes, hnodes, hrecipes, hnone, hin⟩ :=
          hspec opened inner hopens.sawRoot hopens.currentRule hdepth' hinner
        exact ⟨nodes, recipes, hnodes, hrecipes, hnone, (hopens.trans hin).quiet
          (closeElement_quiet hnotRule hnotCombinator hclose)⟩
      cases openElement_inside hroot hrule hopen with
      | combinator kind hkind hroom hopened =>
          simp only [Bool.false_eq_true, if_false] at hopened
          obtain ⟨nodes, recipes, hnodes, hrecipes, hnone, hin⟩ :=
            hspec opened inner (by rw [hopened]; exact hroot)
              (by rw [hopened]; exact hrule)
              (by rw [hopened]; exact hroom) hinner
          obtain ⟨hvisit, hvisit', hvisit''⟩ :=
            visit_combinator hkind children nodes recipes []
          exact ⟨_, _, hgather hnodes hvisit, hgather hrecipes hvisit',
            hgather hnone hvisit'',
            inRule_combinator hkind hopened hin hclose⟩
      | filter leaf hkind hleaf hopened =>
          subst hopened
          obtain ⟨nodes, recipes, hnodes, hrecipes, hnone, hin⟩ :=
            hplain (inRule_filter hroot hrule hdepth
              (parseLeafAttributes_leaf hleaf)) (by simp [hkind])
              (by simp [hkind])
          obtain ⟨hvisit, hvisit', hvisit''⟩ :=
            visit_filter hkind hleaf children nodes recipes []
          exact ⟨_, _, hgather hnodes hvisit, hgather hrecipes hvisit',
            hgather hnone hvisit'', hin⟩
      | query recipe hkind hrecipe hopened =>
          subst hopened
          obtain ⟨nodes, recipes, hnodes, hrecipes, hnone, hin⟩ :=
            hplain (inRule_query hroot hrule hdepth) (by simp [hkind])
              (by simp [hkind])
          obtain ⟨hvisit, hvisit', hvisit''⟩ :=
            visit_query hkind hrecipe children nodes recipes []
          exact ⟨_, _, hgather hnodes hvisit, hgather hrecipes hvisit',
            hgather hnone hvisit'', hin⟩
      | quiet hkind hquiet =>
          have hnotRule : elementKind tag.name ≠ .rule := by
            intro heq
            simp [heq, ElementKind.transparent] at hkind
          have hnotCombinator :
              ∀ kind, elementKind tag.name ≠ .combinator kind := by
            intro kind heq
            simp [heq, ElementKind.transparent] at hkind
          obtain ⟨nodes, recipes, hnodes, hrecipes, hnone, hin⟩ :=
            hplain (hquiet.inRule hroot hrule hdepth) hnotRule hnotCombinator
          obtain ⟨hvisit, hvisit', hvisit''⟩ :=
            visit_of_transparent hkind children nodes recipes []
          exact ⟨_, _, hgather hnodes hvisit, hgather hrecipes hvisit',
            hgather hnone hvisit'', hin⟩

/-! ## Outside a rule -/

def ParserState.startRule (st : ParserState) (rule : RuleSpec) :
    ParserState :=
  { st with
    document := { st.document with rules := st.document.rules ++ [rule] }
    predicates := {}
    currentRule := true }

/-- All that the start of an element can do outside a rule. -/
inductive OpensOutside (st : ParserState) (tag : XmlTag) (isEmpty : Bool)
    (opened : ParserState) : Prop
  | rule (spec : RuleSpec) (hkind : elementKind tag.name = .rule)
      (hspec : parseRuleAttributes (Attributes.collect tag) tag.line =
        .ok spec)
      (hopened : opened =
        if isEmpty then (st.startRule spec).finishRule
        else st.startRule spec)
  | quiet (hkind : (elementKind tag.name).transparent = true)
      (hquiet : Quiet st opened)

theorem openElement_outside {st opened : ParserState} {tag : XmlTag}
    {isEmpty : Bool} (hroot : st.sawRoot = true)
    (hrule : st.currentRule = false)
    (h : openElement st tag isEmpty = .ok opened) :
    OpensOutside st tag isEmpty opened := by
  have hopen : ¬ (!st.sawRoot) = true := by simp [hroot]
  have hwithout : ¬ st.currentRule = true := by simp [hrule]
  unfold openElement at h
  rw [if_neg hopen] at h
  cases hkind : elementKind tag.name with
  | root | unknown =>
      simp only [hkind, Except.ok.injEq] at h
      subst h
      exact .quiet (by rw [hkind]; rfl) (Quiet.refl st)
  | client =>
      simp only [hkind] at h
      obtain ⟨client, -, hopened⟩ := bind_eq_ok.mp h
      cases hopened
      exact .quiet (by rw [hkind]; rfl) ⟨rfl, rfl, rfl, rfl⟩
  | rule =>
      simp only [hkind, openRule, if_neg hwithout] at h
      obtain ⟨spec, hspec, hopened⟩ := bind_eq_ok.mp h
      cases hopened
      exact .rule spec hkind hspec rfl
  | collections =>
      simp only [hkind, if_neg hwithout, Except.ok.injEq] at h
      subst h
      exact .quiet (by rw [hkind]; rfl) (Quiet.refl st)
  | collection =>
      simp only [hkind, openCollection, if_neg hwithout] at h
      obtain ⟨spec, -, hopened⟩ := bind_eq_ok.mp h
      cases hopened
      exact .quiet (by rw [hkind]; rfl) ⟨rfl, rfl, rfl, rfl⟩
  | entry =>
      simp only [hkind, openEntry] at h
      refine .quiet (by rw [hkind]; rfl) ?_
      split at h
      · cases h
      · split at h
        · cases h
          exact ⟨rfl, rfl, rfl, rfl⟩
        · cases h
          exact ⟨rfl, rfl, rfl, rfl⟩
  | query => simp [hkind, openQuery, hrule] at h
  | filter => simp [hkind, openFilter, hrule] at h
  | combinator kind => simp [hkind, openCombinator, hrule] at h

theorem parseRuleAttributes_queries {attributes : Attributes} {line : ℕ}
    {spec : RuleSpec} (h : parseRuleAttributes attributes line = .ok spec) :
    spec.queries = [] := by
  unfold parseRuleAttributes at h
  obtain ⟨eventType, -, h⟩ := bind_eq_ok.mp h
  obtain ⟨lifetime, -, h⟩ := bind_eq_ok.mp h
  obtain ⟨flags, -, h⟩ := bind_eq_ok.mp h
  obtain ⟨action, -, h⟩ := bind_eq_ok.mp h
  obtain ⟨selector, -, h⟩ := bind_eq_ok.mp h
  obtain ⟨modifier, -, h⟩ := bind_eq_ok.mp h
  obtain ⟨modifyKind, -, h⟩ := bind_eq_ok.mp h
  obtain ⟨disposition, -, h⟩ := bind_eq_ok.mp h
  cases h
  rfl

/-- What a stretch of nodes between rules adds to the document. -/
structure BetweenRules (st st' : ParserState) (rules : List RuleSpec) :
    Prop where
  predicates : st'.predicates = {}
  rules : st'.document.rules = st.document.rules ++ rules
  currentRule : st'.currentRule = false
  sawRoot : st'.sawRoot = true

theorem Quiet.betweenRules {st st' : ParserState} (h : Quiet st st')
    (hroot : st.sawRoot = true) (hrule : st.currentRule = false)
    (hpredicates : st.predicates = {}) : BetweenRules st st' [] := by
  refine ⟨h.predicates.trans hpredicates, ?_, h.currentRule.trans hrule,
    h.sawRoot.trans hroot⟩
  rw [h.rules, List.append_nil]

theorem BetweenRules.trans {first second third : ParserState}
    {rules rules' : List RuleSpec} (h : BetweenRules first second rules)
    (h' : BetweenRules second third rules') :
    BetweenRules first third (rules ++ rules') := by
  refine ⟨h'.predicates, ?_, h'.currentRule, h'.sawRoot⟩
  rw [h'.rules, h.rules, List.append_assoc]

/-- What the parser makes of some nodes outside a rule are the rules that
their rule elements stand for. -/
def OutsideSpec (events : List XmlEvent)
    (elements : Except String (List (XmlTag × List XmlNode))) : Prop :=
  ∀ st st', st.sawRoot = true → st.currentRule = false →
    st.predicates = {} → parserRun events st = .ok st' →
    ∃ found rules, elements = .ok found ∧ List.Forall₂ RuleOf found rules ∧
      BetweenRules st st' rules

theorem outsideSpec_of_children {children : List XmlNode}
    (h : ∀ child ∈ children,
      OutsideSpec child.events (child.gather visitRule)) :
    OutsideSpec (eventsOf children) (gatherOf visitRule children) := by
  induction children with
  | nil =>
      intro st st' hroot hrule hpredicates hrun
      cases hrun
      exact ⟨[], [], rfl, .nil,
        (Quiet.refl st).betweenRules hroot hrule hpredicates⟩
  | cons child rest ih =>
      intro st st' hroot hrule hpredicates hrun
      rw [eventsOf, parserRun_append_ok] at hrun
      obtain ⟨middle, hfirst, hrest⟩ := hrun
      obtain ⟨found, rules, hfound, hrules, hbetween⟩ :=
        h child List.mem_cons_self st middle hroot hrule hpredicates hfirst
      obtain ⟨found', rules', hfound', hrules', hbetween'⟩ :=
        ih (fun next hnext => h next (List.mem_cons_of_mem _ hnext))
          middle st' hbetween.sawRoot hbetween.currentRule
          hbetween.predicates hrest
      refine ⟨found ++ found', rules ++ rules', ?_,
        List.rel_append hrules hrules', hbetween.trans hbetween'⟩
      simp only [gatherOf, hfound, hfound']
      rfl

/-- A rule element, from its start to its end. -/
theorem betweenRules_rule {st inner closed : ParserState} {spec : RuleSpec}
    {name : String} {line : ℕ} {forest : List FilterNode}
    {queries : List QueryRecipe} (hkind : elementKind name = .rule)
    (hqueries : spec.queries = [])
    (hin : InRule (st.startRule spec) inner forest queries)
    (hclose : closeElement inner name line = .ok closed) :
    BetweenRules st closed
      [{ spec with filter := finalizeRule forest, queries := queries }] := by
  have hinner : inner.predicates = { stack := [], roots := forest } := by
    rw [hin.predicates]
    exact Predicates.appendAll_roots [] forest
  have hrules := hin.rules
  simp only [ParserState.startRule, onLast_concat, hqueries,
    List.nil_append] at hrules
  simp only [closeElement, hkind, if_pos hin.currentRule,
    Except.ok.injEq] at hclose
  subst hclose
  refine ⟨?_, ?_, rfl, hin.sawRoot⟩
  · simp only [ParserState.finishRule, hinner]
  · simp only [ParserState.finishRule, RuleDocument.onRule, hrules,
      onLast_concat, hinner]

theorem outsideSpec (node : XmlNode) :
    OutsideSpec node.events (node.gather visitRule) := by
  induction node using XmlNode.tree_induction with
  | text value =>
      intro st st' hroot hrule hpredicates hrun
      rw [XmlNode.events, parserRun_singleton, parserStep] at hrun
      have hquiet : Quiet st st' := by
        split at hrun
        · cases hrun
          exact ⟨rfl, rfl, rfl, rfl⟩
        · cases hrun
          exact Quiet.refl st
      exact ⟨[], [], rfl, .nil, hquiet.betweenRules hroot hrule hpredicates⟩
  | other =>
      intro st st' hroot hrule hpredicates hrun
      rw [XmlNode.events, parserRun_singleton] at hrun
      cases hrun
      exact ⟨[], [], rfl, .nil,
        (Quiet.refl st).betweenRules hroot hrule hpredicates⟩
  | emptyElement tag =>
      intro st st' hroot hrule hpredicates hrun
      rw [XmlNode.events, parserRun_singleton, parserStep] at hrun
      cases openElement_outside hroot hrule hrun with
      | rule spec hkind hspec hopened =>
          have hqueries := parseRuleAttributes_queries hspec
          refine ⟨[(tag, [])], [{ spec with
            filter := finalizeRule [], queries := [] }], ?_, ?_, ?_⟩
          · simp [XmlNode.gather, visitRule, hkind]
          · refine .cons ⟨spec, [], [], hspec, rfl, rfl, ?_, rfl⟩ .nil
            exact Nat.zero_le _
          · simp only [if_true] at hopened
            subst hopened
            refine ⟨rfl, ?_, rfl, hroot⟩
            simp only [ParserState.finishRule, ParserState.startRule,
              RuleDocument.onRule, onLast_concat, ← hqueries]
      | quiet hkind hquiet =>
          obtain ⟨-, -, hnone⟩ := visit_of_transparent hkind [] [] [] []
          exact ⟨[], [], hnone, .nil,
            hquiet.betweenRules hroot hrule hpredicates⟩
  | element tag children endLine ih =>
      intro st st' hroot hrule hpredicates hrun
      obtain ⟨opened, inner, hopen, hinner, hclose⟩ :=
        parserRun_element.mp hrun
      cases openElement_outside hroot hrule hopen with
      | rule spec hkind hspec hopened =>
          simp only [Bool.false_eq_true, if_false] at hopened
          subst hopened
          have hqueries := parseRuleAttributes_queries hspec
          obtain ⟨nodes, recipes, hnodes, hrecipes, hnone, hin⟩ :=
            insideSpec_of_children (fun child _ => insideSpec child)
              (st.startRule spec) inner hroot rfl (Nat.zero_le _) hinner
          have hdepth := hin.depth
          simp only [ParserState.startRule, List.length_nil,
            Nat.zero_add] at hdepth
          refine ⟨[(tag, children)], _, ?_, ?_,
            betweenRules_rule hkind hqueries hin hclose⟩
          · simp only [XmlNode.gather, hnone, visitRule, hkind]
            rfl
          · exact .cons ⟨spec, nodes, recipes, hspec, hnodes, hrecipes,
              hdepth, rfl⟩ .nil
      | quiet hkind hquiet =>
          have hnotRule : elementKind tag.name ≠ .rule := by
            intro heq
            simp [heq, ElementKind.transparent] at hkind
          have hnotCombinator :
              ∀ kind, elementKind tag.name ≠ .combinator kind := by
            intro kind heq
            simp [heq, ElementKind.transparent] at hkind
          have hopens := hquiet.betweenRules hroot hrule hpredicates
          obtain ⟨found, rules, hfound, hrules, hbetween⟩ :=
            outsideSpec_of_children ih opened inner hopens.sawRoot
              hopens.currentRule hopens.predicates hinner
          have hclosed := (closeElement_quiet hnotRule hnotCombinator
            hclose).betweenRules hbetween.sawRoot hbetween.currentRule
            hbetween.predicates
          refine ⟨found, rules, ?_, hrules, ?_⟩
          · obtain ⟨-, -, hvisit⟩ :=
              visit_of_transparent hkind children [] [] found
            rw [XmlNode.gather, hfound]
            exact hvisit
          · have hall := (hopens.trans hbetween).trans hclosed
            simpa using hall

end Esptool.Model
