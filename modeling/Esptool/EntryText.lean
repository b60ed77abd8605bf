import Esptool.ParserFaithful

/-!
# The text of collection entries

The reader reports character data as text, white space or CDATA nodes, split
by comments and processing instructions.  The event loop appends the values of
text and white space nodes to the open entry and passes over every other node.
The entries of a collection are compared here with the character data of its
entry elements, on the tree of the document.
-/

namespace Esptool.Model

open Text Esp

/-- The nodes of the reader that have neither a name nor an end. -/
inductive XmlLeaf
  | text (value : String)
  | whitespace (value : String)
  | cdata (value : String)
  | comment (value : String)
  | processingInstruction (value : String)
deriving DecidableEq, Repr

namespace XmlLeaf

/-- What the event loop distinguishes. -/
def event : XmlLeaf → XmlEvent
  | text value => .text value
  | whitespace value => .text value
  | cdata _ => .other
  | comment _ => .other
  | processingInstruction _ => .other

/-- The character data of a document are its text, white space and CDATA
sections. -/
def characterData : XmlLeaf → String
  | text value => value
  | whitespace value => value
  | cdata value => value
  | comment _ => ""
  | processingInstruction _ => ""

/-- The part of the character data that the event loop takes up. -/
def heard : XmlLeaf → String
  | cdata _ => ""
  | leaf => leaf.characterData

end XmlLeaf

inductive XmlTree
  | emptyElement (tag : XmlTag)
  | element (tag : XmlTag) (children : List XmlTree) (endLine : ℕ)
  | leaf (leaf : XmlLeaf)

def XmlTree.isLeaf : XmlTree → Bool
  | leaf _ => true
  | _ => false

mutual

def XmlTree.events : XmlTree → List XmlEvent
  | .emptyElement tag => [.element tag true]
  | .element tag children endLine =>
      .element tag false ::
        (treeEvents children ++ [.endElement tag.name endLine])
  | .leaf leaf => [leaf.event]

def treeEvents : List XmlTree → List XmlEvent
  | [] => []
  | tree :: rest => tree.events ++ treeEvents rest

end

mutual

/-- Entry elements contain only character data, comments and processing
instructions. -/
def XmlTree.plainEntries : XmlTree → Bool
  | .emptyElement _ => true
  | .element tag children _ =>
      (elementKind tag.name != .entry || children.all XmlTree.isLeaf) &&
        plainEntriesOf children
  | .leaf _ => true

def plainEntriesOf : List XmlTree → Bool
  | [] => true
  | tree :: rest => tree.plainEntries && plainEntriesOf rest

end

mutual

/-- The contents of the entry elements, without those of a collection further
down. -/
def XmlTree.entries : XmlTree → List (List XmlTree)
  | .emptyElement tag =>
      if elementKind tag.name = .entry then [[]] else []
  | .element tag children _ =>
      match elementKind tag.name with
      | .entry => [children]
      | .collection => []
      | _ => entriesOf children
  | .leaf _ => []

def entriesOf : List XmlTree → List (List XmlTree)
  | [] => []
  | tree :: rest => tree.entries ++ entriesOf rest

end

mutual

/-- The collection elements in document order, each with its content. -/
def XmlTree.collections : XmlTree → List (XmlTag × List XmlTree)
  | .emptyElement tag =>
      if elementKind tag.name = .collection then [(tag, [])] else []
  | .element tag children _ =>
      if elementKind tag.name = .collection then
        (tag, children) :: collectionsOf children
      else collectionsOf children
  | .leaf _ => []

def collectionsOf : List XmlTree → List (XmlTag × List XmlTree)
  | [] => []
  | tree :: rest => tree.collections ++ collectionsOf rest

end

/-- The values of the leaves, one after the other. -/
def leafText (value : XmlLeaf → String) : List XmlTree → String
  | [] => ""
  | .leaf leaf :: rest => value leaf ++ leafText value rest
  | _ :: rest => leafText value rest

/-- The texts of the entries of a collection with this content. -/
def entryTexts (value : XmlLeaf → String) (content : List XmlTree) :
    List String :=
  (entriesOf content).map (leafText value)

structure TreeDocument where
  before : List XmlMisc := []
  root : XmlTree
  after : List XmlMisc := []

def TreeDocument.events (document : TreeDocument) : List XmlEvent :=
  document.before.map XmlMisc.event ++
    (document.root.events ++ document.after.map XmlMisc.event)

/-! ## Steps that leave entries and collections alone -/

/-- The parts of the state that the collections are built from stay as they
are. -/
structure SameEntries (st st' : ParserState) : Prop where
  collections : st'.document.collections = st.document.collections
  currentCollection : st'.currentCollection = st.currentCollection
  inEntry : st'.inEntry = st.inEntry
  sawRoot : st'.sawRoot = st.sawRoot

theorem SameEntries.refl (st : ParserState) : SameEntries st st :=
  ⟨rfl, rfl, rfl, rfl⟩

theorem openElement_sameEntries {st opened : ParserState} {tag : XmlTag}
    {isEmpty : Bool} (hroot : st.sawRoot = true)
    (hentry : elementKind tag.name ≠ .entry)
    (hcollection : elementKind tag.name ≠ .collection)
    (h : openElement st tag isEmpty = .ok opened) :
    SameEntries st opened := by
  unfold openElement at h
  rw [if_neg (by simp [hroot])] at h
  cases hkind : elementKind tag.name with
  | root | unknown =>
      simp only [hkind, Except.ok.injEq] at h
      subst h
      exact SameEntries.refl st
  | client =>
      simp only [hkind] at h
      obtain ⟨client, -, hopened⟩ := bind_eq_ok.mp h
      cases hopened
      exact ⟨rfl, rfl, rfl, rfl⟩
  | rule =>
      simp only [hkind, openRule] at h
      split at h
      · cases h
      · obtain ⟨spec, -, hopened⟩ := bind_eq_ok.mp h
        cases hopened
        cases isEmpty with
        | false => exact ⟨rfl, rfl, rfl, rfl⟩
        | true => exact ⟨rfl, rfl, rfl, rfl⟩
  | collections =>
      simp only [hkind] at h
      split at h
      · cases h
      · cases h
        exact SameEntries.refl st
  | collection => exact absurd hkind hcollection
  | entry => exact absurd hkind hentry
  | query =>
      simp only [hkind, openQuery] at h
      split at h
      · cases h
      · obtain ⟨recipe, -, hopened⟩ := bind_eq_ok.mp h
        cases hopened
        exact ⟨rfl, rfl, rfl, rfl⟩
  | filter =>
      simp only [hkind, openFilter] at h
      split at h
      · cases h
      · obtain ⟨leaf, -, hopened⟩ := bind_eq_ok.mp h
        cases hopened
        exact ⟨rfl, rfl, rfl, rfl⟩
  | combinator kind =>
      simp only [hkind, openCombinator] at h
      split at h
      · cases h
      · split at h
        · cases h
        · split at h
          · cases h
            exact ⟨rfl, rfl, rfl, rfl⟩
          · cases h
            exact ⟨rfl, rfl, rfl, rfl⟩

theorem closeElement_sameEntries {st closed : ParserState} {name : String}
    {line : ℕ} (hentry : elementKind name ≠ .entry)
    (hcollection : elementKind name ≠ .collection)
    (h : closeElement st name line = .ok closed) :
    SameEntries st closed := by
  unfold closeElement at h
  cases hkind : elementKind name with
  | combinator kind =>
      simp only [hkind] at h
      split at h
      · cases h
      · cases h
        exact ⟨rfl, rfl, rfl, rfl⟩
  | rule =>
      simp only [hkind] at h
      split at h
      · cases h
        exact ⟨rfl, rfl, rfl, rfl⟩
      · cases h
        exact SameEntries.refl st
  | entry => exact absurd hkind hentry
  | collection => exact absurd hkind hcollection
  | root | client | collections | query | filter | unknown =>
      simp only [hkind, Except.ok.injEq] at h
      subst h
      exact ⟨rfl, rfl, rfl, rfl⟩

/-! ## What a stretch of nodes adds -/

/-- The collection that a collection element becomes. -/
def CollectionOf (element : XmlTag × List XmlTree) (spec : CollectionSpec) :
    Prop :=
  ∃ attributes,
    parseCollectionAttributes (Attributes.collect element.1) element.1.line =
      .ok attributes ∧
    spec = { attributes with entries := entryTexts XmlLeaf.heard element.2 }

/-- The open collection with the texts of these entries added. -/
def CollectionSpec.addTexts (own : List (List XmlTree))
    (spec : CollectionSpec) : CollectionSpec :=
  { spec with
    entries := spec.entries ++ own.map (leafText XmlLeaf.heard) }

theorem CollectionSpec.addTexts_nil (spec : CollectionSpec) :
    spec.addTexts [] = spec := by
  simp [addTexts]

theorem CollectionSpec.addTexts_append (own own' : List (List XmlTree))
    (spec : CollectionSpec) :
    (spec.addTexts own).addTexts own' = spec.addTexts (own ++ own') := by
  simp [addTexts]

/-- A stretch of whole nodes outside an entry: its own entries go to the open
collection, its collections are added to the document.  Only an open
collection takes entries, and none is open after a collection of the
stretch. -/
structure Reads (st st' : ParserState) (own : List (List XmlTree))
    (nested : List (XmlTag × List XmlTree)) : Prop where
  sawRoot : st'.sawRoot = true
  inEntry : st'.inEntry = false
  collections : ∃ specs, List.Forall₂ CollectionOf nested specs ∧
    st'.document.collections =
      onLast (CollectionSpec.addTexts own) st.document.collections ++ specs
  closed : st.currentCollection = false →
    own = [] ∧ st'.currentCollection = false
  closes : nested ≠ [] → st'.currentCollection = false

theorem SameEntries.reads {st st' : ParserState} (h : SameEntries st st')
    (hroot : st.sawRoot = true) (hentry : st.inEntry = false) :
    Reads st st' [] [] := by
  refine ⟨h.sawRoot.trans hroot, h.inEntry.trans hentry, ⟨[], .nil, ?_⟩, ?_,
    fun hne => absurd rfl hne⟩
  · rw [h.collections, onLast_self CollectionSpec.addTexts_nil,
      List.append_nil]
  · intro hclosed
    exact ⟨rfl, h.currentCollection.trans hclosed⟩

theorem Reads.trans {first second third : ParserState}
    {own own' : List (List XmlTree)}
    {nested nested' : List (XmlTag × List XmlTree)}
    (h : Reads first second own nested)
    (h' : Reads second third own' nested') :
    Reads first third (own ++ own') (nested ++ nested') := by
  obtain ⟨specs, hspecs, hcollections⟩ := h.collections
  obtain ⟨specs', hspecs', hcollections'⟩ := h'.collections
  refine ⟨h'.sawRoot, h'.inEntry,
    ⟨specs ++ specs', List.rel_append hspecs hspecs', ?_⟩, ?_, ?_⟩
  · rw [hcollections', hcollections, ← List.append_assoc]
    congr 1
    cases hspecs with
    | nil =>
        rw [List.append_nil, List.append_nil, onLast_onLast]
        simp only [CollectionSpec.addTexts_append]
    | cons _ _ =>
        -- a collection was closed, so no entry of the rest was accepted
        have hnone := (h'.closed (h.closes (List.cons_ne_nil _ _))).1
        rw [hnone, onLast_self CollectionSpec.addTexts_nil, List.append_nil]
  · intro hclosed
    obtain ⟨hown, hnext⟩ := h.closed hclosed
    obtain ⟨hown', hlast⟩ := h'.closed hnext
    exact ⟨by rw [hown, hown', List.append_nil], hlast⟩
  · intro hne
    cases nested' with
    | cons element rest => exact h'.closes (List.cons_ne_nil _ _)
    | nil =>
        rw [List.append_nil] at hne
        exact (h'.closed (h.closes hne)).2

/-- What the parser makes of the nodes, wherever it accepts them. -/
def ReadsSpec (events : List XmlEvent) (own : List (List XmlTree))
    (nested : List (XmlTag × List XmlTree)) : Prop :=
  ∀ st st', st.sawRoot = true → st.inEntry = false →
    parserRun events st = .ok st' → Reads st st' own nested

theorem readsSpec_of_children {children : List XmlTree}
    (h : ∀ child ∈ children,
      ReadsSpec child.events child.entries child.collections) :
    ReadsSpec (treeEvents children) (entriesOf children)
      (collectionsOf children) := by
  induction children with
  | nil =>
      intro st st' hroot hentry hrun
      cases hrun
      exact (SameEntries.refl st).reads hroot hentry
  | cons child rest ih =>
      intro st st' hroot hentry hrun
      rw [treeEvents, parserRun_append_ok] at hrun
      obtain ⟨middle, hfirst, hrest⟩ := hrun
      have hreads := h child List.mem_cons_self st middle hroot hentry hfirst
      have hreads' := ih (fun next hnext => h next
        (List.mem_cons_of_mem _ hnext)) middle st' hreads.sawRoot
        hreads.inEntry hrest
      exact hreads.trans hreads'

/-! ## Collection and entry elements -/

theorem parseCollectionAttributes_entries {attributes : Attributes} {line : ℕ}
    {spec : CollectionSpec}
    (h : parseCollectionAttributes attributes line = .ok spec) :
    spec.entries = [] := by
  unfold parseCollectionAttributes at h
  obtain ⟨type, -, h⟩ := bind_eq_ok.mp h
  obtain ⟨guid, -, h⟩ := bind_eq_ok.mp h
  split at h
  · cases h
  · cases h
    rfl

section

variable {st opened : ParserState} {tag : XmlTag} {isEmpty : Bool}

theorem openElement_startsCollection (hroot : st.sawRoot = true)
    (hkind : elementKind tag.name = .collection)
    (h : openElement st tag isEmpty = .ok opened) :
    ∃ spec,
      parseCollectionAttributes (Attributes.collect tag) tag.line =
        .ok spec ∧
      opened.document.collections = st.document.collections ++ [spec] ∧
      opened.currentCollection = !isEmpty ∧
      opened.inEntry = st.inEntry ∧ opened.sawRoot = st.sawRoot := by
  unfold openElement at h
  rw [if_neg (by simp [hroot])] at h
  simp only [hkind, openCollection] at h
  split at h
  · cases h
  · obtain ⟨spec, hspec, hopened⟩ := bind_eq_ok.mp h
    cases hopened
    exact ⟨spec, hspec, rfl, rfl, rfl, rfl⟩

theorem openElement_startsEntry (hroot : st.sawRoot = true)
    (hkind : elementKind tag.name = .entry)
    (h : openElement st tag isEmpty = .ok opened) :
    st.currentCollection = true ∧
      opened = { st with
        document := if isEmpty then st.document.addEntry "" else st.document
        inEntry := !isEmpty
        entryText := "" } := by
  unfold openElement at h
  rw [if_neg (by simp [hroot])] at h
  simp only [hkind, openEntry] at h
  by_cases hcollection : st.currentCollection = true
  · rw [if_neg (by simp [hcollection])] at h
    cases isEmpty with
    | false =>
        cases h
        exact ⟨hcollection, rfl⟩
    | true =>
        cases h
        exact ⟨hcollection, rfl⟩
  · rw [if_pos (by simp [hcollection])] at h
    cases h

end

/-- Inside an entry the values that are heard pile up. -/
theorem parserRun_leaves {children : List XmlTree}
    (hleaves : children.all XmlTree.isLeaf = true) (st : ParserState)
    (hentry : st.inEntry = true) :
    parserRun (treeEvents children) st = .ok { st with
      entryText := st.entryText ++ leafText XmlLeaf.heard children } := by
  induction children generalizing st with
  | nil =>
      rw [leafText, String.append_empty]
      rfl
  | cons child rest ih =>
      rw [List.all_cons, Bool.and_eq_true] at hleaves
      cases child with
      | emptyElement tag => cases hleaves.1
      | element tag children endLine => cases hleaves.1
      | leaf leaf =>
          have hstep : parserStep st leaf.event = .ok { st with
              entryText := st.entryText ++ leaf.heard } := by
            cases leaf with
            | text value => exact if_pos hentry
            | whitespace value => exact if_pos hentry
            | cdata value => simp [XmlLeaf.event, XmlLeaf.heard, parserStep]
            | comment value =>
                simp [XmlLeaf.event, XmlLeaf.heard, XmlLeaf.characterData,
                  parserStep]
            | processingInstruction value =>
                simp [XmlLeaf.event, XmlLeaf.heard, XmlLeaf.characterData,
                  parserStep]
          rw [treeEvents, XmlTree.events, List.singleton_append,
            parserRun_cons_ok]
          refine ⟨_, hstep, ?_⟩
          rw [ih hleaves.2 { st with
            entryText := st.entryText ++ leaf.heard } hentry, leafText]
          simp only [String.append_assoc]

theorem parserRun_tree {tag : XmlTag} {children : List XmlTree}
    {endLine : ℕ} {st last : ParserState}
    (h : parserRun (XmlTree.element tag children endLine).events st =
      .ok last) :
    ∃ opened inner, openElement st tag false = .ok opened ∧
      parserRun (treeEvents children) opened = .ok inner ∧
      closeElement inner tag.name endLine = .ok last := by
  rw [XmlTree.events, parserRun_cons_ok] at h
  obtain ⟨opened, hopen, h⟩ := h
  rw [parserRun_append_ok] at h
  obtain ⟨inner, hinner, hclose⟩ := h
  rw [parserRun_singleton] at hclose
  exact ⟨opened, inner, hopen, hinner, hclose⟩

/-- Induction over a tree, with every child at hand. -/
theorem XmlTree.tree_induction {motive : XmlTree → Prop}
    (emptyElement : ∀ tag, motive (.emptyElement tag))
    (element : ∀ tag children endLine, (∀ child ∈ children, motive child) →
      motive (.element tag children endLine))
    (leaf : ∀ leaf, motive (.leaf leaf)) :
    ∀ tree, motive tree := by
  refine @XmlTree.rec motive
    (fun children => ∀ child ∈ children, motive child)
    emptyElement element leaf ?_ ?_
  · intro child hchild
    cases hchild
  · intro head rest hhead hrest child hchild
    rcases List.mem_cons.mp hchild with rfl | hchild
    · exact hhead
    · exact hrest child hchild

theorem plainEntries_of_mem {children : List XmlTree}
    (h : plainEntriesOf children = true) {child : XmlTree}
    (hchild : child ∈ children) : child.plainEntries = true := by
  induction children with
  | nil => cases hchild
  | cons head rest ih =>
      rw [plainEntriesOf, Bool.and_eq_true] at h
      rcases List.mem_cons.mp hchild with rfl | hchild
      · exact h.1
      · exact ih h.2 hchild

theorem reads_entry {st st' : ParserState} {text : List XmlTree}
    (hroot : st'.sawRoot = true) (hentry : st'.inEntry = false)
    (hopen : st.currentCollection = true)
    (hcollections : st'.document.collections =
      (st.document.addEntry (leafText XmlLeaf.heard text)).collections) :
    Reads st st' [text] [] := by
  refine ⟨hroot, hentry, ⟨[], .nil, ?_⟩, ?_, fun hne => absurd rfl hne⟩
  · rw [hcollections, List.append_nil]
    rfl
  · intro hclosed
    rw [hopen] at hclosed
    cases hclosed

theorem readsSpec_emptyElement (tag : XmlTag) :
    ReadsSpec (XmlTree.emptyElement tag).events
      (XmlTree.emptyElement tag).entries
      (XmlTree.emptyElement tag).collections := by
  intro st st' hroot hentry hrun
  rw [XmlTree.events, parserRun_singleton, parserStep] at hrun
  rw [XmlTree.entries, XmlTree.collections]
  by_cases hcollection : elementKind tag.name = .collection
  · obtain ⟨spec, hspec, hcollections, hcurrent, hin, hsaw⟩ :=
      openElement_startsCollection hroot hcollection hrun
    rw [if_pos hcollection, if_neg (by simp [hcollection])]
    refine ⟨hsaw.trans hroot, hin.trans hentry, ⟨[spec], ?_, ?_⟩, ?_, ?_⟩
    · refine .cons ⟨spec, hspec, ?_⟩ .nil
      have hnone := parseCollectionAttributes_entries hspec
      cases spec
      simpa [entryTexts, entriesOf] using hnone
    · rw [hcollections, onLast_self CollectionSpec.addTexts_nil]
    · exact fun _ => ⟨rfl, hcurrent⟩
    · exact fun _ => hcurrent
  · rw [if_neg hcollection]
    by_cases hkind : elementKind tag.name = .entry
    · obtain ⟨hopen, rfl⟩ := openElement_startsEntry hroot hkind hrun
      rw [if_pos hkind]
      exact reads_entry hroot rfl hopen rfl
    · rw [if_neg hkind]
      exact (openElement_sameEntries hroot hkind hcollection hrun).reads
        hroot hentry

/-- A collection element takes the entries of its content. -/
theorem reads_collection {st opened inner closed : ParserState} {tag : XmlTag}
    {children : List XmlTree} {endLine : ℕ} (hroot : st.sawRoot = true)
    (hkind : elementKind tag.name = .collection)
    (hopen : openElement st tag false = .ok opened)
    (hinner : Reads opened inner (entriesOf children)
      (collectionsOf children))
    (hclose : closeElement inner tag.name endLine = .ok closed) :
    Reads st closed [] ((tag, children) :: collectionsOf children) := by
  obtain ⟨spec, hspec, hcollections, hcurrent, hin, hsaw⟩ :=
    openElement_startsCollection hroot hkind hopen
  obtain ⟨specs, hspecs, hadded⟩ := hinner.collections
  simp only [closeElement, hkind, Except.ok.injEq] at hclose
  subst hclose
  refine ⟨hinner.sawRoot, hinner.inEntry,
    ⟨spec.addTexts (entriesOf children) :: specs, ?_, ?_⟩, ?_, ?_⟩
  · refine .cons ⟨spec, hspec, ?_⟩ hspecs
    simp only [CollectionSpec.addTexts,
      parseCollectionAttributes_entries hspec, List.nil_append, entryTexts]
  · change inner.document.collections = _
    rw [hadded, hcollections, onLast_concat,
      onLast_self CollectionSpec.addTexts_nil, List.append_assoc,
      List.singleton_append]
  · exact fun _ => ⟨rfl, rfl⟩
  · exact fun _ => rfl

/-- An entry element adds the text that is heard in it. -/
theorem reads_entryElement {st opened inner closed : ParserState}
    {tag : XmlTag} {children : List XmlTree} {endLine : ℕ}
    (hroot : st.sawRoot = true) (hkind : elementKind tag.name = .entry)
    (hleaves : children.all XmlTree.isLeaf = true)
    (hopen : openElement st tag false = .ok opened)
    (hinner : parserRun (treeEvents children) opened = .ok inner)
    (hclose : closeElement inner tag.name endLine = .ok closed) :
    Reads st closed [children] [] := by
  obtain ⟨hcurrent, rfl⟩ := openElement_startsEntry hroot hkind hopen
  rw [parserRun_leaves hleaves _ rfl] at hinner
  cases hinner
  simp only [closeElement, hkind, Except.ok.injEq] at hclose
  subst hclose
  refine reads_entry ?_ rfl hcurrent ?_
  · exact hroot
  · simp [hcurrent]

theorem collectionsOf_leaves {children : List XmlTree}
    (h : children.all XmlTree.isLeaf = true) : collectionsOf children = [] := by
  induction children with
  | nil => rfl
  | cons child rest ih =>
      rw [List.all_cons, Bool.and_eq_true] at h
      cases child with
      | emptyElement tag => cases h.1
      | element tag children endLine => cases h.1
      | leaf leaf => exact ih h.2

theorem readsSpec (tree : XmlTree) (hplain : tree.plainEntries = true) :
    ReadsSpec tree.events tree.entries tree.collections := by
  induction tree using XmlTree.tree_induction with
  | leaf leaf =>
      intro st st' hroot hentry hrun
      rw [XmlTree.events, parserRun_singleton] at hrun
      have hsame : st' = st := by
        cases leaf with
        | text value | whitespace value =>
            simp only [XmlLeaf.event, parserStep, hentry, Bool.false_eq_true,
              if_false, Except.ok.injEq] at hrun
            exact hrun.symm
        | cdata value | comment value | processingInstruction value =>
            cases hrun
            rfl
      rw [hsame]
      exact (SameEntries.refl st).reads hroot hentry
  | emptyElement tag => exact readsSpec_emptyElement tag
  | element tag children endLine ih =>
      intro st st' hroot hentry hrun
      obtain ⟨opened, inner, hopen, hinner, hclose⟩ := parserRun_tree hrun
      rw [XmlTree.plainEntries, Bool.and_eq_true] at hplain
      have hchildren := readsSpec_of_children fun child hchild =>
        ih child hchild (plainEntries_of_mem hplain.2 hchild)
      rw [XmlTree.entries, XmlTree.collections]
      by_cases hcollection : elementKind tag.name = .collection
      · obtain ⟨-, -, -, -, hin, hsaw⟩ :=
          openElement_startsCollection hroot hcollection hopen
        simp only [hcollection, if_true]
        exact reads_collection hroot hcollection hopen
          (hchildren opened inner (hsaw.trans hroot) (hin.trans hentry)
            hinner) hclose
      · rw [if_neg hcollection]
        by_cases hkind : elementKind tag.name = .entry
        · have hleaves : children.all XmlTree.isLeaf = true := by
            simpa [hkind] using hplain.1
          simp only [hkind, collectionsOf_leaves hleaves]
          exact reads_entryElement hroot hkind hleaves hopen hinner hclose
        · have hopens :=
            (openElement_sameEntries hroot hkind hcollection hopen).reads
              hroot hentry
          have hreads := hchildren opened inner hopens.sawRoot hopens.inEntry
            hinner
          have hcloses :=
            (closeElement_sameEntries hkind hcollection hclose).reads
              hreads.sawRoot hreads.inEntry
          have hall := (hopens.trans hreads).trans hcloses
          split
          · rename_i heq
            exact absurd heq hkind
          · rename_i heq
            exact absurd heq hcollection
          · simpa using hall

/-! ## Whole documents -/

theorem parserRun_beside_root (misc : List XmlMisc) (st : ParserState)
    (hentry : st.inEntry = false) :
    parserRun (misc.map XmlMisc.event) st = .ok st := by
  induction misc with
  | nil => rfl
  | cons item rest ih =>
      have hstep : parserStep st item.event = .ok st := by
        cases item with
        | whitespace value => simp [XmlMisc.event, parserStep, hentry]
        | other => rfl
      rw [List.map_cons, parserRun_cons_ok]
      exact ⟨st, hstep, ih⟩

theorem openElement_root {tag : XmlTag} {isEmpty : Bool}
    {opened : ParserState} (h : openElement {} tag isEmpty = .ok opened) :
    elementKind tag.name = .root ∧ opened = { sawRoot := true } := by
  rw [openElement, if_pos (by rfl)] at h
  split at h
  · rename_i hkind
    cases h
    exact ⟨hkind, rfl⟩
  · cases h

/-- The collections of an accepted document are those of its collection
elements, with what is heard of their entries. -/
theorem parseStream_collections {document : TreeDocument}
    (hplain : document.root.plainEntries = true)
    (hok : (parseStream ⟨document.events, true⟩).ok = true) :
    List.Forall₂ CollectionOf document.root.collections
      (parseStream ⟨document.events, true⟩).document.collections := by
  obtain ⟨st, hrun, hroot, -, hclosed, -, hdocument⟩ := parseStream_ok hok
  rw [hdocument]
  rw [TreeDocument.events, parserRun_append_ok] at hrun
  obtain ⟨first, hfirst, hrun⟩ := hrun
  rw [parserRun_beside_root document.before _ rfl] at hfirst
  cases hfirst
  rw [parserRun_append_ok] at hrun
  obtain ⟨middle, hmiddle, hafter⟩ := hrun
  cases hshape : document.root with
  | leaf leaf =>
      rw [hshape, XmlTree.events, parserRun_singleton] at hmiddle
      have hsame : middle = {} := by
        cases leaf with
        | text value | whitespace value | cdata value | comment value
        | processingInstruction value =>
            cases hmiddle
            rfl
      rw [hsame, parserRun_beside_root document.after _ rfl] at hafter
      cases hafter
      cases hroot
  | emptyElement tag =>
      rw [hshape, XmlTree.events, parserRun_singleton, parserStep] at hmiddle
      obtain ⟨-, rfl⟩ := openElement_root hmiddle
      rw [parserRun_beside_root document.after _ rfl] at hafter
      cases hafter
      cases hclosed
  | element tag children endLine =>
      rw [hshape] at hmiddle hplain
      obtain ⟨opened, inner, hopen, hinner, hclose⟩ := parserRun_tree hmiddle
      obtain ⟨hkind, rfl⟩ := openElement_root hopen
      rw [XmlTree.plainEntries, Bool.and_eq_true] at hplain
      have hreads := readsSpec_of_children (fun child hchild =>
        readsSpec child (plainEntries_of_mem hplain.2 hchild))
        { sawRoot := true } inner rfl rfl hinner
      simp only [closeElement, hkind, Except.ok.injEq] at hclose
      subst hclose
      rw [parserRun_beside_root document.after { inner with rootClosed := true }
        hreads.inEntry] at hafter
      cases hafter
      obtain ⟨specs, hspecs, hcollections⟩ := hreads.collections
      rw [XmlTree.collections, if_neg (by simp [hkind])]
      change List.Forall₂ _ _ inner.document.collections
      rw [hcollections]
      exact hspecs

theorem collectionOf_entries
    {elements : List (XmlTag × List XmlTree)} {specs : List CollectionSpec}
    (h : List.Forall₂ CollectionOf elements specs) :
    specs.map CollectionSpec.entries =
      elements.map fun element => entryTexts XmlLeaf.heard element.2 := by
  induction h with
  | nil => rfl
  | cons hspec _ ih =>
      obtain ⟨attributes, -, rfl⟩ := hspec
      rw [List.map_cons, List.map_cons, ih]

/-! ## What is not heard -/

theorem leafText_length_le (content : List XmlTree) :
    (leafText XmlLeaf.heard content).length ≤
      (leafText XmlLeaf.characterData content).length := by
  induction content with
  | nil => rfl
  | cons tree rest ih =>
      cases tree with
      | emptyElement tag => exact ih
      | element tag children endLine => exact ih
      | leaf leaf =>
          rw [leafText, leafText, String.length_append, String.length_append]
          cases leaf with
          | cdata value =>
              change 0 + _ ≤ _
              omega
          | text value | whitespace value | comment value
          | processingInstruction value => exact Nat.add_le_add_left ih _

/-- The text of an entry is whole when its CDATA sections are empty. -/
theorem leafText_heard_iff (content : List XmlTree) :
    leafText XmlLeaf.heard content = leafText XmlLeaf.characterData content ↔
      ∀ value, XmlTree.leaf (.cdata value) ∈ content → value = "" := by
  induction content with
  | nil => simp [leafText]
  | cons tree rest ih =>
      cases tree with
      | emptyElement tag => simpa [leafText] using ih
      | element tag children endLine => simpa [leafText] using ih
      | leaf leaf =>
          rw [leafText, leafText]
          cases leaf with
          | cdata value =>
              simp only [List.mem_cons, XmlTree.leaf.injEq,
                XmlLeaf.cdata.injEq]
              constructor
              · intro hsame
                have hlength := congrArg String.length hsame
                rw [String.length_append, String.length_append] at hlength
                have hle := leafText_length_le rest
                have hempty : value = "" := by
                  apply String.length_eq_zero_iff.mp
                  change 0 + _ = value.length + _ at hlength
                  omega
                subst hempty
                rintro value' (rfl | hvalue)
                · rfl
                · exact ih.mp hsame value' hvalue
              · intro hall
                rw [ih.mpr fun value' hvalue => hall value' (.inr hvalue)]
                congr 1
                exact (hall value (.inl rfl)).symm
          | text value | whitespace value | comment value
          | processingInstruction value =>
              simp only [List.mem_cons, XmlTree.leaf.injEq, reduceCtorEq,
                false_or]
              rw [← ih]
              exact String.append_right_inj _

/-- The reader delivers the nodes of this well-formed document. -/
def DeliversTree (xmlReader : List UInt8 → Except String XmlStream)
    (text : List UInt8) (document : TreeDocument) : Prop :=
  xmlReader text = .ok ⟨document.events, true⟩

/-- Every collection of the parsed document lists the whole character data of
its entry elements, in order. -/
def KeepsEntryText (parsed : RuleDocument) (document : TreeDocument) : Prop :=
  parsed.collections.map CollectionSpec.entries =
    document.root.collections.map fun element =>
      entryTexts XmlLeaf.characterData element.2

/-- The entries of an accepted document keep all their text exactly when none
of them has a CDATA section with something in it. -/
theorem parseRuleText_keepsEntryText_iff
    {xmlReader : List UInt8 → Except String XmlStream} {text : List UInt8}
    {document : TreeDocument} (hdelivers : DeliversTree xmlReader text document)
    (hplain : document.root.plainEntries = true)
    (hok : (parseRuleText xmlReader text).ok = true) :
    KeepsEntryText (parseRuleText xmlReader text).document document ↔
      ∀ element ∈ document.root.collections, ∀ entry ∈ entriesOf element.2,
        ∀ value, XmlTree.leaf (.cdata value) ∈ entry → value = "" := by
  have hparse : parseRuleText xmlReader text =
      parseStream ⟨document.events, true⟩ := by
    unfold DeliversTree at hdelivers
    simp only [parseRuleText, hdelivers]
  rw [hparse] at hok ⊢
  unfold KeepsEntryText entryTexts
  rw [collectionOf_entries (parseStream_collections hplain hok),
    List.map_inj_left]
  unfold entryTexts
  simp only [List.map_inj_left, leafText_heard_iff]

def inEsptool (content : List XmlTree) : TreeDocument :=
  { root := .element ⟨"esptool", [], 1⟩ content 9 }

/-- A text split by a comment, an empty element and a blank one. -/
def splitEntries : TreeDocument :=
  inEsptool [.element ⟨"collection", [("name", "a")], 2⟩
    [.element ⟨"entry", [], 3⟩
      [.leaf (.text "not"), .leaf (.comment "\\"),
        .leaf (.text "epad.exe")] 3,
      .emptyElement ⟨"entry", [], 4⟩,
      .element ⟨"entry", [], 5⟩ [.leaf (.whitespace " ")] 5] 6]

def splitReader : List UInt8 → Except String XmlStream :=
  fun _ => .ok ⟨splitEntries.events, true⟩

theorem splitEntries_kept :
    KeepsEntryText (parseRuleText splitReader []).document splitEntries ∧
      ∀ element ∈ splitEntries.root.collections,
        ∀ entry ∈ entriesOf element.2,
          ∀ value, XmlTree.leaf (.cdata value) ∈ entry → value = "" := by
  have hdelivers : DeliversTree splitReader [] splitEntries := rfl
  have hkept : KeepsEntryText (parseRuleText splitReader []).document
      splitEntries := by
    unfold KeepsEntryText
    decide
  exact ⟨hkept, (parseRuleText_keepsEntryText_iff hdelivers
    (by decide) (by decide +kernel)).mp hkept⟩

/-- The same text as a CDATA section. -/
def sectionEntry : TreeDocument :=
  inEsptool [.element ⟨"collection", [("name", "a")], 2⟩
    [.element ⟨"entry", [], 3⟩ [.leaf (.cdata "notepad.exe")] 3] 4]

theorem sectionEntry_lost :
    ¬ ∀ (xmlReader : List UInt8 → Except String XmlStream)
      (text : List UInt8) (document : TreeDocument),
      DeliversTree xmlReader text document →
      document.root.plainEntries = true →
      (parseRuleText xmlReader text).ok = true →
      KeepsEntryText (parseRuleText xmlReader text).document document := by
  intro hkeeps
  have hsame := hkeeps (fun _ => .ok ⟨sectionEntry.events, true⟩) []
    sectionEntry rfl (by decide) (by decide +kernel)
  unfold KeepsEntryText at hsame
  revert hsame
  decide

end Esptool.Model
