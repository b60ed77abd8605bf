import Esptool.RuleElements

/-!
# The parser is faithful and compositional

Over a whole well-formed document the parser lists the rule elements in
order.  Two runs of the parser that differ only in the rules already read, in
the client and the collections, and in line numbers go on side by side; after
any sequence of whole elements the parser is in such a state, so the rules of
two sequences are read as if each were alone.
-/

namespace Esptool.Model

open Text Esp

/-- What may stand beside the root element. -/
inductive XmlMisc
  | whitespace (value : String)
  | other

def XmlMisc.event : XmlMisc → XmlEvent
  | .whitespace value => .text value
  | .other => .other

structure XmlDocument where
  before : List XmlMisc := []
  root : XmlNode
  after : List XmlMisc := []

def XmlDocument.events (document : XmlDocument) : List XmlEvent :=
  document.before.map XmlMisc.event ++
    (document.root.events ++ document.after.map XmlMisc.event)

/-! ## Whole documents -/

theorem parserRun_misc (misc : List XmlMisc) (st : ParserState) :
    ∃ st', parserRun (misc.map XmlMisc.event) st = .ok st' ∧
      Quiet st st' ∧ st'.rootClosed = st.rootClosed ∧
      st'.currentCollection = st.currentCollection := by
  induction misc generalizing st with
  | nil => exact ⟨st, rfl, Quiet.refl st, rfl, rfl⟩
  | cons item rest ih =>
      obtain ⟨next, hnext, hquiet, hclosed, hcollection⟩ :
          ∃ next, parserStep st item.event = .ok next ∧ Quiet st next ∧
            next.rootClosed = st.rootClosed ∧
            next.currentCollection = st.currentCollection := by
        cases item with
        | other => exact ⟨st, rfl, Quiet.refl st, rfl, rfl⟩
        | whitespace value =>
            simp only [XmlMisc.event, parserStep]
            split
            · exact ⟨_, rfl, ⟨rfl, rfl, rfl, rfl⟩, rfl, rfl⟩
            · exact ⟨st, rfl, Quiet.refl st, rfl, rfl⟩
      obtain ⟨st', hrun, hquiet', hclosed', hcollection'⟩ := ih next
      refine ⟨st', ?_, ?_, hclosed'.trans hclosed,
        hcollection'.trans hcollection⟩
      · rw [List.map_cons, parserRun_cons_ok]
        exact ⟨next, hnext, hrun⟩
      · exact ⟨hquiet'.predicates.trans hquiet.predicates,
          hquiet'.rules.trans hquiet.rules,
          hquiet'.currentRule.trans hquiet.currentRule,
          hquiet'.sawRoot.trans hquiet.sawRoot⟩

theorem parseStream_ok {stream : XmlStream}
    (h : (parseStream stream).ok = true) :
    ∃ st, parserRun stream.events {} = .ok st ∧ st.sawRoot = true ∧
      stream.finished = true ∧ st.rootClosed = true ∧
      st.currentRule = false ∧ (parseStream stream).document = st.document := by
  unfold parseStream at h ⊢
  cases hrun : parserRun stream.events {} with
  | error message => simp [hrun] at h
  | ok st =>
      simp only [hrun] at h ⊢
      cases hroot : st.sawRoot with
      | false => simp [hroot] at h
      | true =>
          cases hfinished : stream.finished with
          | false => simp [hroot, hfinished] at h
          | true =>
              cases hclosed : st.rootClosed with
              | false => simp [hroot, hfinished, hclosed] at h
              | true =>
                  cases hrule : st.currentRule with
                  | true => simp [hroot, hfinished, hclosed, hrule] at h
                  | false => exact ⟨st, rfl, hroot, rfl, hclosed, hrule, by simp⟩

/-- An accepted document has a root element with content, and its events run
through the root tag, the content, the end of the root and the rest. -/
theorem accepted_root {document : XmlDocument} {st : ParserState}
    (hrun : parserRun document.events {} = .ok st)
    (hroot : st.sawRoot = true) (hclosed : st.rootClosed = true) :
    ∃ tag children endLine first opened inner,
      document.root = .element tag children endLine ∧
      elementKind tag.name = .root ∧
      Quiet {} first ∧ first.currentCollection = false ∧
      opened = { first with sawRoot := true } ∧
      parserRun (eventsOf children) opened = .ok inner ∧
      Quiet inner st ∧ st.currentCollection = inner.currentCollection := by
  obtain ⟨first, hfirst, hquiet, hfirstClosed, hfirstCollection⟩ :=
    parserRun_misc document.before {}
  rw [XmlDocument.events, parserRun_append_ok] at hrun
  obtain ⟨first', hfirst', hrun⟩ := hrun
  rw [hfirst] at hfirst'
  cases hfirst'
  rw [parserRun_append_ok] at hrun
  obtain ⟨middle, hmiddle, hafter⟩ := hrun
  obtain ⟨last, hlast, hquietAfter, hlastClosed, hlastCollection⟩ :=
    parserRun_misc document.after middle
  rw [hafter] at hlast
  cases hlast
  have hunseen : first.sawRoot = false := hquiet.sawRoot
  have hopen : ∀ {tag : XmlTag} {isEmpty : Bool} {opened : ParserState},
      openElement first tag isEmpty = .ok opened →
      elementKind tag.name = .root ∧
        opened = { first with sawRoot := true } := by
    intro tag isEmpty opened hopened
    simp only [openElement, hunseen, Bool.not_false, if_true] at hopened
    split at hopened
    · rename_i hkind
      cases hopened
      exact ⟨hkind, rfl⟩
    · cases hopened
  rw [hlastClosed] at hclosed
  rw [hquietAfter.sawRoot] at hroot
  cases hshape : document.root with
  | text value =>
      rw [hshape, XmlNode.events, parserRun_singleton, parserStep] at hmiddle
      split at hmiddle
      · cases hmiddle
        rw [hunseen] at hroot
        cases hroot
      · cases hmiddle
        rw [hunseen] at hroot
        cases hroot
  | other =>
      rw [hshape, XmlNode.events, parserRun_singleton] at hmiddle
      cases hmiddle
      rw [hunseen] at hroot
      cases hroot
  | emptyElement tag =>
      -- a root without an end node is never closed
      rw [hshape, XmlNode.events, parserRun_singleton, parserStep] at hmiddle
      obtain ⟨-, hopened⟩ := hopen hmiddle
      subst hopened
      rw [hfirstClosed] at hclosed
      cases hclosed
  | element tag children endLine =>
      rw [hshape] at hmiddle
      obtain ⟨opened, inner, hopened, hinner, hclose⟩ :=
        parserRun_element.mp hmiddle
      obtain ⟨hkind, hopened⟩ := hopen hopened
      simp only [closeElement, hkind, Except.ok.injEq] at hclose
      subst hclose
      exact ⟨tag, children, endLine, first, opened, inner, rfl, hkind,
        hquiet, hfirstCollection, hopened, hinner,
        ⟨hquietAfter.predicates, hquietAfter.rules,
          hquietAfter.currentRule, hquietAfter.sawRoot⟩, hlastCollection⟩

/-- The rules of an accepted document are its rule elements, in order. -/
theorem parseStream_rules {document : XmlDocument}
    (h : (parseStream ⟨document.events, true⟩).ok = true) :
    ∃ elements, document.root.gather visitRule = .ok elements ∧
      List.Forall₂ RuleOf elements
        (parseStream ⟨document.events, true⟩).document.rules := by
  obtain ⟨st, hrun, hroot, -, hclosed, -, hdocument⟩ := parseStream_ok h
  obtain ⟨tag, children, endLine, first, opened, inner, hshape, hkind, hfirst,
    -, hopened, hinner, hlast, -⟩ := accepted_root hrun hroot hclosed
  subst hopened
  obtain ⟨elements, rules, helements, hrules, hbetween⟩ :=
    outsideSpec_of_children (fun child _ => outsideSpec child)
      { first with sawRoot := true } inner rfl hfirst.currentRule
      hfirst.predicates hinner
  refine ⟨elements, ?_, ?_⟩
  · obtain ⟨-, -, hvisit⟩ := visit_of_transparent
      (show (elementKind tag.name).transparent = true by rw [hkind]; rfl)
      children [] [] elements
    rw [hshape, XmlNode.gather, helements]
    exact hvisit
  · have hfirstRules : first.document.rules = [] := hfirst.rules
    rw [hdocument, hlast.rules, hbetween.rules]
    simpa [hfirstRules] using hrules

/-! ## Line numbers -/

section

variable {α : Type}

theorem orError_ok {parsed : Option α} {message : String} {line : ℕ} {a : α} :
    orError parsed message line = .ok a ↔ parsed = some a := by
  cases parsed with
  | none => simp [orError]
  | some b => simp [orError]

/-- What an attribute parses to does not depend on its line. -/
theorem optionalAttribute_line {parse : String → Option α}
    {attributes : Attributes} {name message : String} {line : ℕ}
    {result : Option α}
    (h : optionalAttribute parse attributes name message line = .ok result)
    (line' : ℕ) :
    optionalAttribute parse attributes name message line' = .ok result := by
  unfold optionalAttribute at h ⊢
  cases hfind : attributes.find name with
  | none => simpa only [hfind] using h
  | some value =>
      simp only [hfind, map_eq_ok, orError_ok] at h ⊢
      exact h

theorem mapM_ok_of_imp {β : Type} {f g : α → Except String β}
    (himp : ∀ a b, f a = .ok b → g a = .ok b) {items : List α}
    {results : List β} (h : items.mapM f = .ok results) :
    items.mapM g = .ok results := by
  induction items generalizing results with
  | nil => exact h
  | cons a rest ih =>
      rw [List.mapM_cons] at h ⊢
      obtain ⟨b, hb, h⟩ := bind_eq_ok.mp h
      obtain ⟨others, hothers, h⟩ := bind_eq_ok.mp h
      rw [himp a b hb, ih hothers]
      exact h

end

theorem parseRuleAttributes_line {attributes : Attributes} {line : ℕ}
    {spec : RuleSpec} (h : parseRuleAttributes attributes line = .ok spec)
    (line' : ℕ) : parseRuleAttributes attributes line' = .ok spec := by
  unfold parseRuleAttributes at h ⊢
  obtain ⟨eventType, hevent, h⟩ := bind_eq_ok.mp h
  obtain ⟨lifetime, hlifetime, h⟩ := bind_eq_ok.mp h
  obtain ⟨flags, hflags, h⟩ := bind_eq_ok.mp h
  obtain ⟨action, haction, h⟩ := bind_eq_ok.mp h
  obtain ⟨selector, hselector, h⟩ := bind_eq_ok.mp h
  obtain ⟨modifier, hmodifier, h⟩ := bind_eq_ok.mp h
  obtain ⟨modifyKind, hmodifyKind, h⟩ := bind_eq_ok.mp h
  obtain ⟨disposition, hdisposition, h⟩ := bind_eq_ok.mp h
  rw [optionalAttribute_line hevent line', orError_ok.mpr
    (orError_ok.mp hlifetime), optionalAttribute_line hflags line',
    optionalAttribute_line haction line',
    optionalAttribute_line hselector line',
    optionalAttribute_line hmodifier line',
    optionalAttribute_line hmodifyKind line',
    optionalAttribute_line hdisposition line']
  exact h

theorem parseLeafAttributes_line {attributes : Attributes} {line : ℕ}
    {leaf : FilterNode} (h : parseLeafAttributes attributes line = .ok leaf)
    (line' : ℕ) : parseLeafAttributes attributes line' = .ok leaf := by
  unfold parseLeafAttributes at h ⊢
  obtain ⟨type, htype, h⟩ := bind_eq_ok.mp h
  obtain ⟨comparand, hcomparand, h⟩ := bind_eq_ok.mp h
  obtain ⟨operand, hoperand, h⟩ := bind_eq_ok.mp h
  obtain ⟨property, hproperty, h⟩ := bind_eq_ok.mp h
  rw [optionalAttribute_line htype line',
    optionalAttribute_line hcomparand line',
    optionalAttribute_line hoperand line',
    optionalAttribute_line hproperty line']
  exact h

theorem parseQueryAttributes_line {attributes : Attributes} {line : ℕ}
    {recipe : QueryRecipe}
    (h : parseQueryAttributes attributes line = .ok recipe) (line' : ℕ) :
    parseQueryAttributes attributes line' = .ok recipe := by
  unfold parseQueryAttributes at h ⊢
  dsimp only at h ⊢
  split at h
  · cases h
  · rename_i hkind
    split at h
    · cases h
    · rename_i hsupported
      rw [if_neg hkind, if_neg hsupported]
      obtain ⟨properties, hproperties, h⟩ := bind_eq_ok.mp h
      have hproperties' :
          parseCsvUnsigned (attributes.get "properties") line' =
            .ok properties := by
        unfold parseCsvUnsigned at hproperties ⊢
        apply mapM_ok_of_imp _ hproperties
        intro part parsed hparsed
        exact orError_ok.mpr (orError_ok.mp hparsed)
      refine bind_eq_ok.mpr ⟨properties, hproperties', ?_⟩
      split at h
      · rename_i htokens
        rw [if_pos htokens]
        exact h
      · cases h

theorem parseGuidAttribute_line {attributes : Attributes} {message : String}
    {line : ℕ} {guid : Option Guid}
    (h : parseGuidAttribute attributes message line = .ok guid)
    (line' : ℕ) : parseGuidAttribute attributes message line' = .ok guid := by
  unfold parseGuidAttribute at h ⊢
  dsimp only at h ⊢
  split at h
  · rename_i hempty
    rw [if_pos hempty]
    exact h
  · rename_i hempty
    rw [if_neg hempty]
    rw [map_eq_ok] at h ⊢
    simp only [orError_ok] at h ⊢
    exact h

theorem parseCollectionAttributes_line {attributes : Attributes} {line : ℕ}
    {spec : CollectionSpec}
    (h : parseCollectionAttributes attributes line = .ok spec) (line' : ℕ) :
    parseCollectionAttributes attributes line' = .ok spec := by
  unfold parseCollectionAttributes at h ⊢
  obtain ⟨type, htype, h⟩ := bind_eq_ok.mp h
  obtain ⟨guid, hguid, h⟩ := bind_eq_ok.mp h
  refine bind_eq_ok.mpr ⟨type, orError_ok.mpr (orError_ok.mp htype), ?_⟩
  refine bind_eq_ok.mpr ⟨guid, parseGuidAttribute_line hguid line', ?_⟩
  split at h
  · cases h
  · rename_i hopened
    rw [if_neg hopened]
    exact h

theorem parseClient_line {attributes : Attributes} {line : ℕ}
    {client parsed : ClientSpec}
    (h : parseClient attributes client line = .ok parsed) (line' : ℕ)
    (client' : ClientSpec) :
    ∃ parsed', parseClient attributes client' line' = .ok parsed' := by
  unfold parseClient at h ⊢
  obtain ⟨guid, hguid, -⟩ := bind_eq_ok.mp h
  rw [parseGuidAttribute_line hguid line']
  exact ⟨_, rfl⟩

/-! ## Two runs side by side -/

def XmlTag.unlined (tag : XmlTag) : XmlTag := { tag with line := 0 }

def XmlEvent.unlined : XmlEvent → XmlEvent
  | .element tag isEmpty => .element tag.unlined isEmpty
  | .endElement name _ => .endElement name 0
  | .text value => .text value
  | .other => .other

/-- The second state has read the rules `before` on top of what the first has
read.  Clients, collections and entry texts may differ. -/
structure Follows (before : List RuleSpec) (st st' : ParserState) :
    Prop where
  predicates : st'.predicates = st.predicates
  rules : st'.document.rules = before ++ st.document.rules
  nonempty : st.currentRule = true → st.document.rules ≠ []
  currentRule : st'.currentRule = st.currentRule
  currentCollection : st'.currentCollection = st.currentCollection
  sawRoot : st'.sawRoot = st.sawRoot

section

variable {before : List RuleSpec} {st st' next : ParserState}

theorem Follows.onRule (h : Follows before st st')
    (hrule : st.currentRule = true) (change : RuleSpec → RuleSpec) :
    (st'.document.onRule change).rules =
      before ++ (st.document.onRule change).rules := by
  simp only [RuleDocument.onRule]
  rw [h.rules, onLast_append change (h.nonempty hrule)]

theorem Follows.finishRule (h : Follows before st st')
    (hrule : st.currentRule = true) :
    Follows before st.finishRule st'.finishRule := by
  refine ⟨h.predicates, ?_, ?_, rfl, h.currentCollection, h.sawRoot⟩
  · unfold ParserState.finishRule
    rw [h.predicates]
    exact h.onRule hrule _
  · intro hnot
    cases hnot

theorem Follows.startRule (h : Follows before st st') (spec : RuleSpec) :
    Follows before (st.startRule spec) (st'.startRule spec) := by
  refine ⟨rfl, ?_, ?_, rfl, h.currentCollection, h.sawRoot⟩
  · simp only [ParserState.startRule]
    rw [h.rules, List.append_assoc]
  · intro _
    simp [ParserState.startRule]

theorem openRule_follows (h : Follows before st st')
    {attributes : Attributes} {line : ℕ} {isEmpty : Bool}
    (hopen : openRule st attributes line isEmpty = .ok next) (line' : ℕ) :
    ∃ next', openRule st' attributes line' isEmpty = .ok next' ∧
      Follows before next next' := by
  unfold openRule at hopen ⊢
  split at hopen
  · cases hopen
  · rename_i hrule
    obtain ⟨spec, hspec, hopen⟩ := bind_eq_ok.mp hopen
    rw [h.currentRule, if_neg hrule, parseRuleAttributes_line hspec line']
    refine ⟨_, rfl, ?_⟩
    have hstart := h.startRule spec
    cases isEmpty with
    | true =>
        cases hopen
        exact hstart.finishRule rfl
    | false =>
        cases hopen
        exact hstart

theorem openQuery_follows (h : Follows before st st')
    {attributes : Attributes} {line : ℕ}
    (hopen : openQuery st attributes line = .ok next) (line' : ℕ) :
    ∃ next', openQuery st' attributes line' = .ok next' ∧
      Follows before next next' := by
  unfold openQuery at hopen ⊢
  split at hopen
  · cases hopen
  · rename_i hwithin
    have hrule : st.currentRule = true := by simpa using hwithin
    obtain ⟨recipe, hrecipe, hopen⟩ := bind_eq_ok.mp hopen
    rw [h.currentRule, if_neg hwithin, parseQueryAttributes_line hrecipe line']
    cases hopen
    refine ⟨_, rfl, h.predicates, h.onRule hrule _, ?_, rfl,
      h.currentCollection, h.sawRoot⟩
    intro _
    exact onLast_ne_nil (h.nonempty hrule)

theorem openFilter_follows (h : Follows before st st')
    {attributes : Attributes} {line : ℕ}
    (hopen : openFilter st attributes line = .ok next) (line' : ℕ) :
    ∃ next', openFilter st' attributes line' = .ok next' ∧
      Follows before next next' := by
  unfold openFilter at hopen ⊢
  split at hopen
  · cases hopen
  · rename_i hwithin
    obtain ⟨leaf, hleaf, hopen⟩ := bind_eq_ok.mp hopen
    rw [h.currentRule, if_neg hwithin, parseLeafAttributes_line hleaf line']
    cases hopen
    refine ⟨_, rfl, ?_, h.rules, h.nonempty, rfl, h.currentCollection,
      h.sawRoot⟩
    dsimp only
    rw [h.predicates]

theorem openCombinator_follows (h : Follows before st st')
    {kind : FilterKind} {name : String} {line : ℕ} {isEmpty : Bool}
    (hopen : openCombinator st kind name line isEmpty = .ok next)
    (line' : ℕ) :
    ∃ next', openCombinator st' kind name line' isEmpty = .ok next' ∧
      Follows before next next' := by
  unfold openCombinator at hopen ⊢
  rw [h.currentRule, h.predicates]
  split at hopen
  · cases hopen
  · rename_i hwithin
    rw [if_neg hwithin]
    split at hopen
    · cases hopen
    · rename_i hroom
      rw [if_neg hroom]
      cases isEmpty with
      | true =>
          cases hopen
          exact ⟨_, rfl, rfl, h.rules, h.nonempty, rfl,
            h.currentCollection, h.sawRoot⟩
      | false =>
          cases hopen
          exact ⟨_, rfl, rfl, h.rules, h.nonempty, rfl,
            h.currentCollection, h.sawRoot⟩

theorem openCollection_follows (h : Follows before st st')
    {attributes : Attributes} {line : ℕ} {isEmpty : Bool}
    (hopen : openCollection st attributes line isEmpty = .ok next)
    (line' : ℕ) :
    ∃ next', openCollection st' attributes line' isEmpty = .ok next' ∧
      Follows before next next' := by
  unfold openCollection at hopen ⊢
  split at hopen
  · cases hopen
  · rename_i hrule
    obtain ⟨spec, hspec, hopen⟩ := bind_eq_ok.mp hopen
    rw [h.currentRule, if_neg hrule,
      parseCollectionAttributes_line hspec line']
    cases hopen
    exact ⟨_, rfl, h.predicates, h.rules, h.nonempty, rfl, rfl, h.sawRoot⟩

theorem openEntry_follows (h : Follows before st st') {line : ℕ}
    {isEmpty : Bool} (hopen : openEntry st line isEmpty = .ok next)
    (line' : ℕ) :
    ∃ next', openEntry st' line' isEmpty = .ok next' ∧
      Follows before next next' := by
  unfold openEntry at hopen ⊢
  rw [h.currentCollection]
  split at hopen
  · cases hopen
  · rename_i hwithin
    rw [if_neg hwithin]
    cases isEmpty with
    | true =>
        cases hopen
        exact ⟨_, rfl, h.predicates, h.rules, h.nonempty, h.currentRule, rfl,
          h.sawRoot⟩
    | false =>
        cases hopen
        exact ⟨_, rfl, h.predicates, h.rules, h.nonempty, h.currentRule, rfl,
          h.sawRoot⟩

theorem openElement_follows (h : Follows before st st') {tag tag' : XmlTag}
    {isEmpty : Bool} (htag : tag'.unlined = tag.unlined)
    (hopen : openElement st tag isEmpty = .ok next) :
    ∃ next', openElement st' tag' isEmpty = .ok next' ∧
      Follows before next next' := by
  have hsame : tag'.name = tag.name ∧ tag'.attributes = tag.attributes := by
    simpa [XmlTag.unlined] using htag
  have hattributes : Attributes.collect tag' = Attributes.collect tag := by
    unfold Attributes.collect
    rw [hsame.2]
  unfold openElement at hopen ⊢
  rw [h.sawRoot, hsame.1, hattributes]
  split at hopen
  · rename_i hunseen
    rw [if_pos hunseen]
    split at hopen
    · rename_i hkind
      rw [if_pos hkind]
      cases hopen
      exact ⟨_, rfl, h.predicates, h.rules, h.nonempty, h.currentRule,
        h.currentCollection, rfl⟩
    · cases hopen
  · rename_i hseen
    rw [if_neg hseen]
    cases hkind : elementKind tag.name with
    | root | unknown =>
        simp only [hkind, Except.ok.injEq] at hopen
        subst hopen
        exact ⟨st', rfl, h⟩
    | client =>
        simp only [hkind] at hopen
        obtain ⟨client, hclient, hopen⟩ := bind_eq_ok.mp hopen
        obtain ⟨client', hclient'⟩ :=
          parseClient_line hclient tag'.line st'.document.client
        simp only [hclient']
        cases hopen
        exact ⟨_, rfl, h.predicates, h.rules, h.nonempty, h.currentRule,
          h.currentCollection, rfl⟩
    | rule =>
        simp only [hkind] at hopen
        exact openRule_follows h hopen tag'.line
    | collections =>
        simp only [hkind] at hopen ⊢
        rw [h.currentRule]
        split at hopen
        · cases hopen
        · rename_i hrule
          rw [if_neg hrule]
          cases hopen
          exact ⟨st', rfl, h⟩
    | collection =>
        simp only [hkind] at hopen
        exact openCollection_follows h hopen tag'.line
    | entry =>
        simp only [hkind] at hopen
        exact openEntry_follows h hopen tag'.line
    | query =>
        simp only [hkind] at hopen
        exact openQuery_follows h hopen tag'.line
    | filter =>
        simp only [hkind] at hopen
        exact openFilter_follows h hopen tag'.line
    | combinator kind =>
        simp only [hkind] at hopen
        exact openCombinator_follows h hopen tag'.line

theorem closeElement_follows (h : Follows before st st') {name : String}
    {line : ℕ} (hclose : closeElement st name line = .ok next) (line' : ℕ) :
    ∃ next', closeElement st' name line' = .ok next' ∧
      Follows before next next' := by
  unfold closeElement at hclose ⊢
  cases hkind : elementKind name with
  | combinator kind =>
      simp only [hkind] at hclose ⊢
      rw [h.predicates]
      split at hclose
      · cases hclose
      · rename_i node rest hstack
        cases hclose
        exact ⟨_, rfl, rfl, h.rules, h.nonempty, h.currentRule,
          h.currentCollection, h.sawRoot⟩
  | rule =>
      simp only [hkind] at hclose ⊢
      rw [h.currentRule]
      split at hclose
      · rename_i hrule
        rw [if_pos hrule]
        cases hclose
        have hfinish := h.finishRule hrule
        refine ⟨_, rfl, ?_, hfinish.rules, hfinish.nonempty,
          hfinish.currentRule, hfinish.currentCollection, hfinish.sawRoot⟩
        dsimp only
        rw [hfinish.predicates]
      · rename_i hrule
        rw [if_neg hrule]
        cases hclose
        exact ⟨st', rfl, h⟩
  | entry =>
      simp only [hkind, Except.ok.injEq] at hclose ⊢
      subst hclose
      refine ⟨_, rfl, h.predicates, ?_, ?_, h.currentRule,
        h.currentCollection, h.sawRoot⟩
      · simp only [apply_ite RuleDocument.rules, RuleDocument.addEntry,
          ite_self]
        exact h.rules
      · simp only [apply_ite RuleDocument.rules, RuleDocument.addEntry,
          ite_self]
        exact h.nonempty
  | collection =>
      simp only [hkind, Except.ok.injEq] at hclose ⊢
      subst hclose
      exact ⟨_, rfl, h.predicates, h.rules, h.nonempty, h.currentRule, rfl,
        h.sawRoot⟩
  | root =>
      simp only [hkind, Except.ok.injEq] at hclose ⊢
      subst hclose
      exact ⟨_, rfl, h.predicates, h.rules, h.nonempty, h.currentRule,
        h.currentCollection, h.sawRoot⟩
  | client | collections | query | filter | unknown =>
      simp only [hkind, Except.ok.injEq] at hclose ⊢
      subst hclose
      exact ⟨st', rfl, h⟩

theorem parserStep_follows (h : Follows before st st')
    {event event' : XmlEvent} (hevent : event'.unlined = event.unlined)
    (hstep : parserStep st event = .ok next) :
    ∃ next', parserStep st' event' = .ok next' ∧
      Follows before next next' := by
  cases event with
  | element tag isEmpty =>
      cases event' with
      | element tag' isEmpty' =>
          simp only [XmlEvent.unlined, XmlEvent.element.injEq] at hevent
          obtain ⟨htag, rfl⟩ := hevent
          exact openElement_follows h htag hstep
      | endElement | text | other => cases hevent
  | endElement name line =>
      cases event' with
      | endElement name' line' =>
          simp only [XmlEvent.unlined, XmlEvent.endElement.injEq,
            and_true] at hevent
          subst hevent
          exact closeElement_follows h hstep line'
      | element | text | other => cases hevent
  | text value =>
      cases event' with
      | text value' =>
          have hquiet : Follows before next st' := by
            simp only [parserStep] at hstep
            split at hstep
            · cases hstep
              exact ⟨h.predicates, h.rules, h.nonempty, h.currentRule,
                h.currentCollection, h.sawRoot⟩
            · cases hstep
              exact h
          simp only [parserStep]
          split
          · exact ⟨_, rfl, hquiet.predicates, hquiet.rules,
              hquiet.nonempty, hquiet.currentRule,
              hquiet.currentCollection, hquiet.sawRoot⟩
          · exact ⟨st', rfl, hquiet⟩
      | element | endElement | other => cases hevent
  | other =>
      cases event' with
      | other =>
          cases hstep
          exact ⟨st', rfl, h⟩
      | element | endElement | text => cases hevent

theorem parserRun_follows {events events' : List XmlEvent}
    (hevents : events'.map XmlEvent.unlined = events.map XmlEvent.unlined)
    (h : Follows before st st') (hrun : parserRun events st = .ok next) :
    ∃ next', parserRun events' st' = .ok next' ∧
      Follows before next next' := by
  induction events generalizing events' st st' with
  | nil =>
      have hnil : events' = [] := by simpa using hevents
      subst hnil
      cases hrun
      exact ⟨st', rfl, h⟩
  | cons event rest ih =>
      cases events' with
      | nil => simp at hevents
      | cons event' rest' =>
          simp only [List.map_cons, List.cons.injEq] at hevents
          obtain ⟨middle, hstep, hrest⟩ := parserRun_cons_ok.mp hrun
          obtain ⟨middle', hstep', hmiddle⟩ :=
            parserStep_follows h hevents.1 hstep
          obtain ⟨next', hrun', hnext⟩ := ih hevents.2 hmiddle hrest
          exact ⟨next', parserRun_cons_ok.mpr ⟨middle', hstep', hrun'⟩, hnext⟩

end

/-! ## Elements close their collections -/

theorem openElement_collection {st opened : ParserState} {tag : XmlTag}
    {isEmpty : Bool} (h : openElement st tag isEmpty = .ok opened) :
    opened.currentCollection = st.currentCollection ∨
      (elementKind tag.name = .collection ∧
        opened.currentCollection = !isEmpty) := by
  unfold openElement at h
  split at h
  · split at h
    · cases h
      exact .inl rfl
    · cases h
  · cases hkind : elementKind tag.name with
    | root | unknown =>
        simp only [hkind, Except.ok.injEq] at h
        subst h
        exact .inl rfl
    | client =>
        simp only [hkind] at h
        obtain ⟨client, -, hopened⟩ := bind_eq_ok.mp h
        cases hopened
        exact .inl rfl
    | rule =>
        simp only [hkind, openRule] at h
        split at h
        · cases h
        · obtain ⟨spec, -, hopened⟩ := bind_eq_ok.mp h
          cases hopened
          cases isEmpty <;> exact .inl rfl
    | collections =>
        simp only [hkind] at h
        split at h
        · cases h
        · cases h
          exact .inl rfl
    | collection =>
        simp only [hkind, openCollection] at h
        split at h
        · cases h
        · obtain ⟨spec, -, hopened⟩ := bind_eq_ok.mp h
          cases hopened
          exact .inr ⟨rfl, rfl⟩
    | entry =>
        simp only [hkind, openEntry] at h
        split at h
        · cases h
        · cases isEmpty <;> cases h <;> exact .inl rfl
    | query =>
        simp only [hkind, openQuery] at h
        split at h
        · cases h
        · obtain ⟨recipe, -, hopened⟩ := bind_eq_ok.mp h
          cases hopened
          exact .inl rfl
    | filter =>
        simp only [hkind, openFilter] at h
        split at h
        · cases h
        · obtain ⟨leaf, -, hopened⟩ := bind_eq_ok.mp h
          cases hopened
          exact .inl rfl
    | combinator kind =>
        simp only [hkind, openCombinator] at h
        split at h
        · cases h
        · split at h
          · cases h
          · cases isEmpty <;> cases h <;> exact .inl rfl

theorem closeElement_collection {st closed : ParserState} {name : String}
    {line : ℕ} (h : closeElement st name line = .ok closed) :
    closed.currentCollection =
      (st.currentCollection && decide (elementKind name ≠ .collection)) := by
  unfold closeElement at h
  cases hkind : elementKind name with
  | combinator kind =>
      simp only [hkind] at h
      split at h
      · cases h
      · cases h
        simp
  | rule =>
      simp only [hkind] at h
      split at h
      · cases h
        simp [ParserState.finishRule]
      · cases h
        simp
  | entry | collection | root | client | collections | query | filter
  | unknown =>
      simp only [hkind, Except.ok.injEq] at h
      subst h
      simp

/-- Running the events leaves no collection open that was not open before. -/
def ClosesCollections (events : List XmlEvent) : Prop :=
  ∀ {st st' : ParserState}, parserRun events st = .ok st' →
    st'.currentCollection = true → st.currentCollection = true

theorem closesCollections_of_children {children : List XmlNode}
    (h : ∀ child ∈ children, ClosesCollections child.events) :
    ClosesCollections (eventsOf children) := by
  induction children with
  | nil =>
      intro st st' hrun hopen
      cases hrun
      exact hopen
  | cons child rest ih =>
      intro st st' hrun hopen
      rw [eventsOf, parserRun_append_ok] at hrun
      obtain ⟨middle, hfirst, hrest⟩ := hrun
      apply h child List.mem_cons_self hfirst
      exact ih (fun next hnext => h next (List.mem_cons_of_mem _ hnext))
        hrest hopen

theorem closesCollections (node : XmlNode) :
    ClosesCollections node.events := by
  induction node using XmlNode.tree_induction with
  | text value =>
      intro st st' hrun hopen
      rw [XmlNode.events, parserRun_singleton, parserStep] at hrun
      split at hrun
      · cases hrun
        exact hopen
      · cases hrun
        exact hopen
  | other =>
      intro st st' hrun hopen
      rw [XmlNode.events, parserRun_singleton] at hrun
      cases hrun
      exact hopen
  | emptyElement tag =>
      intro st st' hrun hopen
      rw [XmlNode.events, parserRun_singleton, parserStep] at hrun
      rcases openElement_collection hrun with hsame | ⟨-, hnone⟩
      · rw [← hsame]
        exact hopen
      · rw [hnone] at hopen
        cases hopen
  | element tag children endLine ih =>
      intro st st' hrun hopen
      obtain ⟨opened, inner, hopened, hinner, hclose⟩ :=
        parserRun_element.mp hrun
      rw [closeElement_collection hclose, Bool.and_eq_true,
        decide_eq_true_iff] at hopen
      have hbefore := closesCollections_of_children ih hinner hopen.1
      rcases openElement_collection hopened with hsame | ⟨hkind, -⟩
      · rw [← hsame]
        exact hbefore
      · exact absurd hkind hopen.2

/-! ## The parser as a whole -/

/-- The content of the root element, accepted as a document of its own. -/
structure AcceptedContent (document : XmlDocument)
    (content : List XmlNode) : Prop where
  accepted : (parseStream ⟨document.events, true⟩).ok = true
  root : ∃ tag endLine, document.root = .element tag content endLine

/-- The parser right after the root tag. -/
structure AtRootTag (st : ParserState) : Prop where
  predicates : st.predicates = {}
  rules : st.document.rules = []
  currentRule : st.currentRule = false
  currentCollection : st.currentCollection = false
  sawRoot : st.sawRoot = true

theorem AtRootTag.of_quiet {first : ParserState} (h : Quiet {} first)
    (hcollection : first.currentCollection = false) :
    AtRootTag { first with sawRoot := true } :=
  ⟨h.predicates, h.rules, h.currentRule, hcollection, rfl⟩

theorem AtRootTag.follows {st st' : ParserState} (h : AtRootTag st)
    {before : List RuleSpec} (hpredicates : st'.predicates = {})
    (hrules : st'.document.rules = before) (hrule : st'.currentRule = false)
    (hcollection : st'.currentCollection = false)
    (hroot : st'.sawRoot = true) : Follows before st st' := by
  refine ⟨hpredicates.trans h.predicates.symm, ?_, ?_,
    hrule.trans h.currentRule.symm,
    hcollection.trans h.currentCollection.symm, hroot.trans h.sawRoot.symm⟩
  · rw [hrules, h.rules, List.append_nil]
  · intro hopen
    rw [h.currentRule] at hopen
    cases hopen

/-- The run over accepted content: it starts right after the root tag and ends
outside every rule and collection, with the rules of the document. -/
theorem AcceptedContent.run {document : XmlDocument}
    {content : List XmlNode} (h : AcceptedContent document content) :
    ∃ st st', AtRootTag st ∧ parserRun (eventsOf content) st = .ok st' ∧
      st'.predicates = {} ∧ st'.currentRule = false ∧
      st'.currentCollection = false ∧ st'.sawRoot = true ∧
      st'.document.rules =
        (parseStream ⟨document.events, true⟩).document.rules := by
  obtain ⟨last, hrun, hroot, -, hclosed, -, hdocument⟩ :=
    parseStream_ok h.accepted
  obtain ⟨tag, children, endLine, first, opened, inner, hshape, -, hfirst,
    hcollection, hopened, hinner, hlast, -⟩ :=
    accepted_root hrun hroot hclosed
  obtain ⟨tag', endLine', hshape'⟩ := h.root
  rw [hshape'] at hshape
  cases hshape
  subst hopened
  have hstart := AtRootTag.of_quiet hfirst hcollection
  obtain ⟨elements, rules, -, -, hbetween⟩ :=
    outsideSpec_of_children (fun child _ => outsideSpec child)
      { first with sawRoot := true } inner rfl hfirst.currentRule
      hfirst.predicates hinner
  refine ⟨_, inner, hstart, hinner, hbetween.predicates,
    hbetween.currentRule, ?_, hbetween.sawRoot, ?_⟩
  · rw [← Bool.not_eq_true]
    intro hopen
    have hbefore := closesCollections_of_children
      (fun child _ => closesCollections child) hinner hopen
    rw [hstart.currentCollection] at hbefore
    cases hbefore
  · rw [hdocument, hlast.rules]

/-- A run from right after the root tag, outside every rule at its end, is a
whole accepted document. -/
theorem parseStream_of_run {before after : List XmlMisc} {tag : XmlTag}
    {endLine : ℕ} {content : List XmlNode} {rules : List RuleSpec}
    (hkind : elementKind tag.name = .root)
    (hrun : ∀ st, AtRootTag st →
      ∃ inner, parserRun (eventsOf content) st = .ok inner ∧
        inner.sawRoot = true ∧ inner.currentRule = false ∧
        inner.document.rules = rules) :
    (parseStream ⟨(XmlDocument.mk before (.element tag content endLine)
        after).events, true⟩).ok = true ∧
      (parseStream ⟨(XmlDocument.mk before (.element tag content endLine)
        after).events, true⟩).document.rules = rules := by
  obtain ⟨first, hfirst, hquiet, -, hcollection⟩ := parserRun_misc before {}
  obtain ⟨inner, hinner, hroot, hrule, hrules⟩ :=
    hrun _ (AtRootTag.of_quiet hquiet hcollection)
  have hopened : openElement first tag false =
      .ok { first with sawRoot := true } := by
    have hunseen : first.sawRoot = false := hquiet.sawRoot
    simp [openElement, hunseen, hkind]
  have hclose : closeElement inner tag.name endLine =
      .ok { inner with rootClosed := true } := by
    simp [closeElement, hkind]
  obtain ⟨last, hlast, hquietLast, hclosedLast, -⟩ :=
    parserRun_misc after { inner with rootClosed := true }
  have hwhole : parserRun (XmlDocument.mk before
      (.element tag content endLine) after).events {} = .ok last := by
    rw [XmlDocument.events, parserRun_append_ok]
    refine ⟨first, hfirst, ?_⟩
    rw [parserRun_append_ok]
    exact ⟨_, parserRun_element.mpr ⟨_, _, hopened, hinner, hclose⟩, hlast⟩
  have hsaw : last.sawRoot = true := hquietLast.sawRoot.trans hroot
  have hdone : last.rootClosed = true := hclosedLast
  have hfree : last.currentRule = false := hquietLast.currentRule.trans hrule
  have hlastRules : last.document.rules = inner.document.rules :=
    hquietLast.rules
  unfold parseStream
  simp [hwhole, hsaw, hdone, hfree, hlastRules, hrules]

/-- The rules of two accepted contents, one after the other. -/
theorem parseStream_append {first second whole : XmlDocument}
    {content content' both : List XmlNode} {tag : XmlTag} {endLine : ℕ}
    (hfirst : AcceptedContent first content)
    (hsecond : AcceptedContent second content')
    (hwhole : whole.root = .element tag both endLine)
    (hkind : elementKind tag.name = .root)
    (hboth : (eventsOf both).map XmlEvent.unlined =
      (eventsOf content ++ eventsOf content').map XmlEvent.unlined) :
    (parseStream ⟨whole.events, true⟩).ok = true ∧
      (parseStream ⟨whole.events, true⟩).document.rules =
        (parseStream ⟨first.events, true⟩).document.rules ++
          (parseStream ⟨second.events, true⟩).document.rules := by
  obtain ⟨start, last, hstart, hrun, hpredicates, hrule, hcollection, hroot,
    hrules⟩ := hfirst.run
  obtain ⟨start', last', hstart', hrun', -, hrule', -, hroot', hrules'⟩ :=
    hsecond.run
  rw [List.map_append, List.map_eq_append_iff] at hboth
  obtain ⟨events, events', hsplit, hevents, hevents'⟩ := hboth
  obtain ⟨before, root, after⟩ := whole
  dsimp only at hwhole
  subst hwhole
  apply parseStream_of_run hkind
  intro st hst
  -- the first content again, from the tag of the whole document
  obtain ⟨middle, hmiddle, hfollows⟩ := parserRun_follows hevents
    (hstart.follows hst.predicates hst.rules hst.currentRule
      hst.currentCollection hst.sawRoot) hrun
  -- the second content after the rules of the first
  have hnext : Follows last.document.rules start' middle :=
    hstart'.follows (hfollows.predicates.trans hpredicates)
      (by simpa using hfollows.rules) (hfollows.currentRule.trans hrule)
      (hfollows.currentCollection.trans hcollection)
      (hfollows.sawRoot.trans hroot)
  obtain ⟨inner, hinner, hfollows'⟩ := parserRun_follows hevents' hnext hrun'
  refine ⟨inner, ?_, hfollows'.sawRoot.trans hroot',
    hfollows'.currentRule.trans hrule', ?_⟩
  · rw [hsplit, parserRun_append_ok]
    exact ⟨middle, hmiddle, hinner⟩
  · rw [hfollows'.rules, hrules, hrules']

/-- The reader delivers the nodes of this well-formed document. -/
def Delivers (xmlReader : List UInt8 → Except String XmlStream)
    (text : List UInt8) (document : XmlDocument) : Prop :=
  xmlReader text = .ok ⟨document.events, true⟩

theorem Delivers.parseRuleText {xmlReader : List UInt8 → Except String XmlStream}
    {text : List UInt8} {document : XmlDocument}
    (h : Delivers xmlReader text document) :
    parseRuleText xmlReader text = parseStream ⟨document.events, true⟩ := by
  unfold Delivers at h
  simp only [Model.parseRuleText, h]

/-- The rules of an accepted text are those of its rule elements in document
order, and accepted root contents can be put one after the other. -/
theorem parseRuleText_faithful
    (xmlReader : List UInt8 → Except String XmlStream) :
    (∀ text document, Delivers xmlReader text document →
      (parseRuleText xmlReader text).ok = true →
      ∃ elements, document.root.gather visitRule = .ok elements ∧
        List.Forall₂ RuleOf elements
          (parseRuleText xmlReader text).document.rules) ∧
    (∀ text text' joined document document' whole tag tag' rootTag
        content content' both endLine endLine' rootEnd,
      Delivers xmlReader text document →
      Delivers xmlReader text' document' →
      Delivers xmlReader joined whole →
      document.root = .element tag content endLine →
      document'.root = .element tag' content' endLine' →
      whole.root = .element rootTag both rootEnd →
      elementKind rootTag.name = .root →
      (eventsOf both).map XmlEvent.unlined =
        (eventsOf content ++ eventsOf content').map XmlEvent.unlined →
      (parseRuleText xmlReader text).ok = true →
      (parseRuleText xmlReader text').ok = true →
      (parseRuleText xmlReader joined).ok = true ∧
        (parseRuleText xmlReader joined).document.rules =
          (parseRuleText xmlReader text).document.rules ++
            (parseRuleText xmlReader text').document.rules) := by
  constructor
  · intro text document hdelivers hok
    rw [hdelivers.parseRuleText] at hok ⊢
    exact parseStream_rules hok
  · intro text text' joined document document' whole tag tag' rootTag content
      content' both endLine endLine' rootEnd hdelivers hdelivers' hjoined hroot
      hroot' hwhole hkind hboth hok hok'
    rw [hdelivers.parseRuleText] at hok ⊢
    rw [hdelivers'.parseRuleText] at hok' ⊢
    rw [hjoined.parseRuleText]
    exact parseStream_append ⟨hok, tag, endLine, hroot⟩
      ⟨hok', tag', endLine', hroot'⟩ hwhole hkind hboth

def nestedRule : XmlNode :=
  .element ⟨"Rule", [("Action", "1")], 2⟩
    [.element ⟨"filter", [("operand", "7")], 3⟩
      [.element ⟨"not", [], 4⟩ [.emptyElement ⟨"filter", [], 4⟩] 4] 5] 6

def rootedAt (content : List XmlNode) : XmlDocument :=
  { root := .element ⟨"esptool", [], 1⟩ content 9 }

def sampleReader : List UInt8 → Except String XmlStream
  | [1] => .ok ⟨(rootedAt [nestedRule]).events, true⟩
  | [2] => .ok ⟨(rootedAt [.emptyElement ⟨"rule", [], 2⟩]).events, true⟩
  | _ => .ok ⟨(rootedAt [nestedRule, .emptyElement ⟨"rule", [], 7⟩]).events,
      true⟩

theorem parseRuleText_faithful_sample :
    (parseRuleText sampleReader [3]).ok = true ∧
      (parseRuleText sampleReader [3]).document.rules =
        (parseRuleText sampleReader [1]).document.rules ++
          (parseRuleText sampleReader [2]).document.rules := by
  have hjoins := (parseRuleText_faithful sampleReader).2
  exact hjoins [1] [2] [3] _ _ _ _ _ _
    [nestedRule] [.emptyElement ⟨"rule", [], 2⟩]
    [nestedRule, .emptyElement ⟨"rule", [], 7⟩] _ _ _ rfl rfl rfl rfl rfl rfl
    (by decide) rfl (by decide +kernel) (by decide +kernel)

end Esptool.Model
