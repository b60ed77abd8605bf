import Esptool.CreateCalls
import Esptool.InstallJournal

/-!
# Where the filter of a rule ends up

A rule with a predicate is created with a descriptor that carries the handle
of its filter, in the slot at `+40` or `+688` or in the configuration blob at
`+96`, only for some event types and tree shapes.  For the others the compiled
filter is dropped and the rule is created for every event of its type.  This
module says exactly for which.
-/

namespace Esptool.Esp

open Model Interaction

/-! ## The slot a tree selects -/

mutual

theorem filterRuleOffset_cases (node : FilterNode) :
    filterRuleOffset node = 0 ∨
      filterRuleOffset node = kRuleEventFilterOffset ∨
      filterRuleOffset node = kRuleProcessFilterOffset := by
  match node with
  | ⟨.leaf, type, _, _, _, _, _, _, _, _⟩ =>
      simp only [filterRuleOffset, filterDescriptorOffsetForCtor]
      split
      · exact .inr (.inr rfl)
      · split
        · exact .inr (.inl rfl)
        · exact .inl rfl
  | ⟨.and, _, _, _, _, _, _, _, _, children⟩ =>
      simpa only [filterRuleOffset] using firstRuleOffset_cases children
  | ⟨.or, _, _, _, _, _, _, _, _, children⟩ =>
      simpa only [filterRuleOffset] using firstRuleOffset_cases children
  | ⟨.xor, _, _, _, _, _, _, _, _, children⟩ =>
      simpa only [filterRuleOffset] using firstRuleOffset_cases children
  | ⟨.not, _, _, _, _, _, _, _, _, children⟩ =>
      simpa only [filterRuleOffset] using firstRuleOffset_cases children

theorem firstRuleOffset_cases (children : List FilterNode) :
    firstRuleOffset children = 0 ∨
      firstRuleOffset children = kRuleEventFilterOffset ∨
      firstRuleOffset children = kRuleProcessFilterOffset := by
  match children with
  | [] => exact .inl (by simp only [firstRuleOffset])
  | child :: rest =>
      simp only [firstRuleOffset]
      split
      · exact filterRuleOffset_cases child
      · exact firstRuleOffset_cases rest

end

mutual

theorem filterRuleOffset_of_processLeaf (node : FilterNode)
    (h : hasCtorLeaf node kFilterCtorProcess = true) :
    filterRuleOffset node ≠ 0 := by
  match node, h with
  | ⟨.leaf, type, _, _, _, _, _, _, _, _⟩, h =>
      have htype : type = kFilterCtorProcess := by
        simpa [hasCtorLeaf] using h
      simp only [filterRuleOffset, filterDescriptorOffsetForCtor,
        if_pos htype]
      decide
  | ⟨.and, _, _, _, _, _, _, _, _, children⟩, h =>
      simp only [hasCtorLeaf] at h
      simpa only [filterRuleOffset] using
        firstRuleOffset_of_processLeaf children h
  | ⟨.or, _, _, _, _, _, _, _, _, children⟩, h =>
      simp only [hasCtorLeaf] at h
      simpa only [filterRuleOffset] using
        firstRuleOffset_of_processLeaf children h
  | ⟨.xor, _, _, _, _, _, _, _, _, children⟩, h =>
      simp only [hasCtorLeaf] at h
      simpa only [filterRuleOffset] using
        firstRuleOffset_of_processLeaf children h
  | ⟨.not, _, _, _, _, _, _, _, _, children⟩, h =>
      simp only [hasCtorLeaf] at h
      simpa only [filterRuleOffset] using
        firstRuleOffset_of_processLeaf children h

theorem firstRuleOffset_of_processLeaf (children : List FilterNode)
    (h : anyHasCtorLeaf children kFilterCtorProcess = true) :
    firstRuleOffset children ≠ 0 := by
  match children, h with
  | child :: rest, h =>
      simp only [anyHasCtorLeaf, Bool.or_eq_true] at h
      simp only [firstRuleOffset]
      split
      · assumption
      · rename_i hchild
        refine firstRuleOffset_of_processLeaf rest (h.resolve_left ?_)
        intro hleaf
        exact hchild (filterRuleOffset_of_processLeaf child hleaf)

end

/-! ## What a descriptor carries -/

def HoldsFilter (blob : FoIoConfigBlob) (filter : Handle) : Prop :=
  ∃ offset, blob.read offset = some (.filter filter)

def CarriesFilter (descriptor : RuleDescriptor) (filter : Handle) : Prop :=
  descriptor.filterSlots.read kRuleEventFilterOffset = some filter ∨
    descriptor.filterSlots.read kRuleProcessFilterOffset = some filter ∨
    ∃ blob ∈ descriptor.eventConfig, HoldsFilter blob filter

structure Unattached (descriptor : RuleDescriptor) : Prop where
  slots : descriptor.filterSlots = {}
  config : descriptor.eventConfig = none

theorem describeRule_unattached {env : Env} {rulesBefore : ℕ}
    {st : BuildState} {spec : RuleSpec} {s t : Session}
    {descriptor : RuleDescriptor} {anchor : Handle}
    (h : describeRule env rulesBefore st spec s =
      (some (descriptor, anchor), t)) : Unattached descriptor := by
  rcases describeRule_cases h with
    ⟨_, kind, _, _, rfl, _⟩ | ⟨_, _, rfl, _⟩ | ⟨_, _, _, _, rfl⟩
  · exact ⟨rfl, rfl⟩
  · unfold subruleDescriptor
    split
    · exact ⟨rfl, rfl⟩
    · exact ⟨rfl, rfl⟩
  · exact ⟨rfl, rfl⟩

def FilterFree (blob : FoIoConfigBlob) : Prop :=
  ∀ p ∈ blob.writes, ∀ filter, p.2 ≠ .filter filter

theorem FilterFree.empty : FilterFree {} := nofun

theorem FilterFree.write {blob : FoIoConfigBlob} (h : FilterFree blob)
    (offset : ℕ) {word : Word} (hword : ∀ filter, word ≠ .filter filter) :
    FilterFree (blob.write offset word) := by
  intro p hp
  rcases List.mem_cons.mp hp with rfl | hp
  · exact hword
  · exact h p hp

theorem FilterFree.includeQuery {blob : FoIoConfigBlob} (h : FilterFree blob)
    (slot : ℕ) (ids : List ℤ) :
    FilterFree (writeIncludeQuery blob slot ids) := by
  unfold writeIncludeQuery
  apply FilterFree.write _ _ (by simp)
  apply FilterFree.write _ _ (by simp)
  exact h.write _ (by simp)

theorem FilterFree.countPtrQuery {blob : FoIoConfigBlob}
    (h : FilterFree blob) (countOffset ptrOffset : ℕ) (ids : List ℤ) :
    FilterFree (writeCountPtrQuery blob countOffset ptrOffset ids) :=
  (h.write _ (by simp)).write _ (by simp)

theorem FilterFree.ite {c : Prop} [Decidable c] {blob blob' : FoIoConfigBlob}
    (h : FilterFree blob) (h' : FilterFree blob') :
    FilterFree (if c then blob else blob') := by
  split
  · exact h
  · exact h'

theorem FilterFree.not_holds {blob : FoIoConfigBlob} (h : FilterFree blob)
    (filter : Handle) : ¬ HoldsFilter blob filter := by
  rintro ⟨offset, hread⟩
  exact h _ (Slots.mem_of_read hread) filter rfl

theorem fillTypedIoQueries_filterFree
    (fileObjectQuery restrictPipe mailslotQuery : Bool) :
    FilterFree (fillTypedIoQueries fileObjectQuery restrictPipe
      mailslotQuery) := by
  unfold fillTypedIoQueries
  dsimp only
  repeat' first
    | apply FilterFree.ite
    | apply FilterFree.includeQuery
    | refine FilterFree.write ?_ _ (by simp)
    | exact FilterFree.empty

theorem carriesFilter_bind {descriptor : RuleDescriptor}
    (h : descriptor.filterSlots = {}) (blob : FoIoConfigBlob)
    (filter : Handle) :
    CarriesFilter (bindConfigBlob descriptor blob) filter ↔
      HoldsFilter blob filter := by
  constructor
  · rintro (hslot | hslot | ⟨bound, hbound, hholds⟩)
    · rw [bindConfigBlob, h] at hslot
      cases hslot
    · rw [bindConfigBlob, h] at hslot
      cases hslot
    · cases hbound
      exact hholds
  · exact fun hholds => .inr (.inr ⟨blob, rfl, hholds⟩)

theorem holdsFilter_filterAndQuery {filterOffset countOffset ptrOffset : ℕ}
    {filter : Handle} (hfilter : filter ≠ 0)
    (hcount : filterOffset ≠ countOffset) (hptr : filterOffset ≠ ptrOffset)
    (customIds : Option (List ℤ)) (defaultIds : List ℤ) (held : Handle) :
    HoldsFilter (filterAndQueryBlob filterOffset filter countOffset ptrOffset
      customIds defaultIds) held ↔ held = filter := by
  unfold filterAndQueryBlob writeCountPtrQuery writeFilterAt
  rw [if_pos hfilter]
  constructor
  · rintro ⟨offset, hread⟩
    have hmem := Slots.mem_of_read hread
    simp [Slots.write] at hmem
    exact hmem.2
  · rintro rfl
    refine ⟨filterOffset, ?_⟩
    rw [Slots.read_write_of_ne _ _ hptr, Slots.read_write_of_ne _ _ hcount,
      Slots.read_write_self]

/-! ## The dispatch on the event type -/

/-- The branches of the dispatch that place the compiled filter itself, by
event type and tree; ProcessCreate places another one. -/
def placesCompiled (spec : RuleSpec) : Bool :=
  if isThreadEventType spec.eventType then true
  else if needsTypedIoConfig spec.eventType then
    hasFileObjectLeaf spec.filter && isFoIoEvent spec.eventType ||
      hasProcessLeaf spec.filter
  else if needsProcessConfig spec.eventType ||
      needsImageLoadConfig spec.eventType ||
      isRegistryEventType spec.eventType then true
  else filterRuleOffset spec.filter != 0

theorem carriesFilter_attachDescriptorFilter {descriptor : RuleDescriptor}
    (hslots : descriptor.filterSlots = {}) (node : FilterNode)
    (filter held : Handle) :
    CarriesFilter (attachDescriptorFilter descriptor node filter) held ↔
      (filterRuleOffset node ≠ 0 ∧ held = filter) ∨
        ∃ blob ∈ descriptor.eventConfig, HoldsFilter blob held := by
  unfold attachDescriptorFilter CarriesFilter
  rcases filterRuleOffset_cases node with h | h | h
  · simp [h, hslots]
  · simp [h, hslots, kRuleEventFilterOffset, kRuleDescriptorSize, eq_comm,
      kRuleProcessFilterOffset]
  · simp [h, hslots, kRuleEventFilterOffset, kRuleDescriptorSize, eq_comm,
      kRuleProcessFilterOffset]

theorem carriesFilter_typedIo {descriptor : RuleDescriptor}
    (h : Unattached descriptor) (spec : RuleSpec) {filter : Handle}
    (hfilter : filter ≠ 0) (held : Handle) :
    CarriesFilter (attachTypedIoConfig descriptor spec filter) held ↔
      (hasFileObjectLeaf spec.filter && isFoIoEvent spec.eventType) = true ∧
        held = filter := by
  have hfree := fillTypedIoQueries_filterFree (isFoIoEvent spec.eventType)
    (restrictPipeTarget spec.eventType)
    (spec.eventType == kEventMailslotCreate)
  rw [attachTypedIoConfig, carriesFilter_bind h.slots]
  split
  · rename_i hplaced
    simp only [hplaced, true_and, writeFilterAt, if_pos hfilter]
    constructor
    · rintro ⟨offset, hread⟩
      rcases List.mem_cons.mp (Slots.mem_of_read hread) with hnew | hold
      · cases hnew
        rfl
      · exact absurd rfl (hfree _ hold held)
    · rintro rfl
      exact ⟨_, Slots.read_write_self _ _ _⟩
  · rename_i hplaced
    exact iff_of_false (hfree.not_holds held) fun h => hplaced h.1

theorem attachFilterToDescriptor_other (env : Env) (ctx : FilterContext)
    {descriptor : RuleDescriptor} (h : Unattached descriptor)
    {spec : RuleSpec} (htype : spec.eventType ≠ kEventProcessCreate)
    {filter : Handle} (hfilter : filter ≠ 0) (j : Journal) :
    (attachFilterToDescriptor env ctx descriptor spec filter j).2 = j ∧
      ∀ held, CarriesFilter
          (attachFilterToDescriptor env ctx descriptor spec filter j).1
          held ↔
        placesCompiled spec = true ∧ held = filter := by
  have hcreate : needsProcessCreateConfig spec.eventType = false := by
    simpa [needsProcessCreateConfig] using htype
  unfold attachFilterToDescriptor placesCompiled
  by_cases hthread : isThreadEventType spec.eventType = true
  · rw [if_pos hthread, if_pos hthread]
    refine ⟨rfl, fun held => ?_⟩
    rw [pure_run, attachThreadConfig, carriesFilter_bind h.slots,
      holdsFilter_filterAndQuery hfilter (by decide) (by decide)]
    simp
  rw [if_neg hthread, if_neg hthread]
  by_cases htyped : needsTypedIoConfig spec.eventType = true
  · rw [if_pos htyped, if_pos htyped]
    refine ⟨rfl, fun held => ?_⟩
    rw [pure_run]
    dsimp only
    by_cases hprocess : hasProcessLeaf spec.filter = true
    · have hoffset :=
        filterRuleOffset_of_processLeaf spec.filter hprocess
      have hslots :
          (attachTypedIoConfig descriptor spec filter).filterSlots = {} :=
        h.slots
      have hconfig : (∃ blob ∈ (attachTypedIoConfig descriptor spec
            filter).eventConfig, HoldsFilter blob held) →
          held = filter := by
        intro hblob
        exact ((carriesFilter_typedIo h spec hfilter held).mp
          (.inr (.inr hblob))).2
      rw [if_pos hprocess, carriesFilter_attachDescriptorFilter hslots,
        hprocess, Bool.or_true]
      constructor
      · rintro (⟨-, hheld⟩ | hblob)
        · exact ⟨rfl, hheld⟩
        · exact ⟨rfl, hconfig hblob⟩
      · exact fun hheld => .inl ⟨hoffset, hheld.2⟩
    · rw [if_neg hprocess, carriesFilter_typedIo h spec hfilter]
      simp [hprocess]
  rw [if_neg htyped, if_neg htyped, if_neg (by simp [hcreate])]
  by_cases hterminate : needsProcessConfig spec.eventType = true
  · rw [if_pos hterminate, if_pos (by simp [hterminate])]
    refine ⟨rfl, fun held => ?_⟩
    rw [pure_run, attachProcessConfig, carriesFilter_bind h.slots,
      holdsFilter_filterAndQuery hfilter (by decide) (by decide)]
    simp
  rw [if_neg hterminate]
  by_cases himage : needsImageLoadConfig spec.eventType = true
  · rw [if_pos himage, if_pos (by simp [himage])]
    refine ⟨rfl, fun held => ?_⟩
    rw [pure_run, attachImageLoadConfig, carriesFilter_bind h.slots,
      holdsFilter_filterAndQuery hfilter (by split <;> decide)
        (by split <;> decide)]
    simp
  rw [if_neg himage]
  by_cases hregistry : isRegistryEventType spec.eventType = true
  · rw [if_pos hregistry, if_pos (by simp [hregistry])]
    refine ⟨rfl, fun held => ?_⟩
    rw [pure_run, attachRegistryConfig, carriesFilter_bind h.slots,
      holdsFilter_filterAndQuery hfilter (by decide) (by decide)]
    simp
  rw [if_neg hregistry, if_pos hfilter,
    if_neg (by simp [hterminate, himage, hregistry])]
  refine ⟨rfl, fun held => ?_⟩
  rw [pure_run, carriesFilter_attachDescriptorFilter h.slots]
  simp [h.config]

theorem attachFilterToDescriptor_processCreate (env : Env)
    (ctx : FilterContext) {descriptor : RuleDescriptor}
    (h : Unattached descriptor) {spec : RuleSpec}
    (htype : spec.eventType = kEventProcessCreate) (filter : Handle)
    (j : Journal) :
    (attachFilterToDescriptor env ctx descriptor spec filter j).2 =
        (createImageFileFilter env ctx spec.filter j).2 ∧
      ∀ held, CarriesFilter
          (attachFilterToDescriptor env ctx descriptor spec filter j).1
          held ↔
        (createImageFileFilter env ctx spec.filter j).1 ≠ 0 ∧
          held = (createImageFileFilter env ctx spec.filter j).1 := by
  have hattach : attachFilterToDescriptor env ctx descriptor spec filter j =
      (attachProcessCreateConfig descriptor
          (createImageFileFilter env ctx spec.filter j).1
          (customQueryIds spec.queries ["process"] [6, 20]),
        (createImageFileFilter env ctx spec.filter j).2) := by
    unfold attachFilterToDescriptor
    rw [if_neg (by simp [htype, isThreadEventType]),
      if_neg (by simp [htype, needsTypedIoConfig, isFoIoEvent]),
      if_pos (by simp [htype, needsProcessCreateConfig])]
    rfl
  rw [hattach]
  refine ⟨rfl, fun held => ?_⟩
  rw [attachProcessCreateConfig, carriesFilter_bind h.slots]
  by_cases himage : (createImageFileFilter env ctx spec.filter j).1 ≠ 0
  · simp only [if_pos himage, writeFilterAt, writeCountPtrQuery]
    constructor
    · rintro ⟨offset, hread⟩
      have hmem := Slots.mem_of_read hread
      simp [Slots.write, childBind] at hmem
      exact ⟨himage, hmem.2⟩
    · rintro ⟨-, rfl⟩
      refine ⟨kImageLoadFileObjectFilterOffset, ?_⟩
      rw [Slots.read_write_of_ne _ _ (by decide),
        Slots.read_write_of_ne _ _ (by decide), Slots.read_write_self]
  · simp only [if_neg himage]
    refine iff_of_false ?_ fun hheld => himage hheld.1
    apply FilterFree.not_holds
    apply FilterFree.countPtrQuery
    exact (FilterFree.empty.write _ (by simp)).write _ (by simp)

/-! ## The handles that compiling returns -/

/-- The constructors fill their out-slot whenever they succeed. -/
def FillsFilters (env : Env) : Prop :=
  ∀ log call, call.createsFilter = true →
    succeeded (env.respond log call).result = true →
      (env.respond log call).out ≠ 0

section

variable {env : Env} {ctx : FilterContext}

theorem succeeded_of_not_failed {result : EspResult}
    (h : ¬ failed result = true) : succeeded result = true := by
  rw [failed_eq_not_succeeded] at h
  simpa using h

theorem createLeafFilter_filled (hfills : FillsFilters env)
    (node : FilterNode) (j : Journal)
    (h : succeeded (createLeafFilter env ctx node j).1.1 = true) :
    (createLeafFilter env ctx node j).1.2 ≠ 0 := by
  obtain ⟨j', -, -, hrefused | ⟨-, sizeClass, payload, hmade⟩⟩ :=
    createLeafFilter_cases env ctx node j
  · rw [hrefused] at h
    cases h
  · rw [hmade] at h ⊢
    exact hfills _ _ rfl h

theorem createNotFilter_filled (hfills : FillsFilters env)
    (child : Handle) (j : Journal)
    (h : succeeded (createNotFilter env child j).1.1 = true) :
    (createNotFilter env child j).1.2 ≠ 0 := by
  unfold createNotFilter at h ⊢
  simp only [bind_run] at h ⊢
  split at h
  · cases h
  · rename_i hresolved
    rw [if_neg hresolved]
    exact hfills _ _ rfl h

theorem createBinaryFilter_filled (hfills : FillsFilters env)
    (kind : FilterKind) (left right : Handle) (j : Journal)
    (h : succeeded (createBinaryFilter env kind left right j).1.1 = true) :
    (createBinaryFilter env kind left right j).1.2 ≠ 0 := by
  unfold createBinaryFilter at h ⊢
  simp only [bind_run] at h ⊢
  split at h
  · cases h
  · rename_i hresolved
    rw [if_neg hresolved]
    exact hfills _ _ rfl h

theorem createFilterTree_filled (hfills : FillsFilters env)
    (node : FilterNode) (j : Journal)
    (h : succeeded (createFilterTree env ctx node j).1.1 = true) :
    (createFilterTree env ctx node j).1.2 ≠ 0 := by
  -- a failed operand hands its failure up, so only the last call counts
  have hup {result : EspResult} (hfailed : failed result = true)
      (hok : succeeded result = true) : False := by
    rw [failed_eq_not_succeeded, hok] at hfailed
    cases hfailed
  induction node using FilterNode.compileInduction with
  | leaf node hkind =>
      rw [createFilterTree_leaf hkind] at h ⊢
      exact createLeafFilter_filled hfills node j h
  | not node operand hkind hchildren _ =>
      rw [createFilterTree_not hkind hchildren, bind_run] at h ⊢
      split at h
      · rename_i hfailed
        exact (hup hfailed h).elim
      · rename_i hok
        rw [if_neg hok]
        exact createNotFilter_filled hfills _ _ h
  | notArity node hkind harity =>
      rw [createFilterTree_notArity hkind harity] at h
      cases h
  | binary node first second rest hkind hchildren _ _ =>
      rw [createFilterTree_binary hkind hchildren, bind_run] at h ⊢
      split at h
      · rename_i hfailed
        exact (hup hfailed h).elim
      · rename_i hokLeft
        rw [if_neg hokLeft]
        rw [bind_run] at h ⊢
        split at h
        · rename_i hfailed
          exact (hup hfailed h).elim
        · rename_i hokRight
          rw [if_neg hokRight]
          exact createBinaryFilter_filled hfills _ _ _ _ h
  | binaryArity node hkind harity =>
      rw [createFilterTree_binaryArity hkind harity] at h
      cases h

/-! ## The filter a rule is created with -/

/-- The handle was compiled from the rule's own tree, as a whole or, for
ProcessCreate, as the FileObject re-typing of its leaf, by calls that are in
the log. -/
def CompiledFor (env : Env) (client : Handle) (spec : RuleSpec)
    (index : ℕ) (log : List Event) (filter : Handle) : Prop :=
  ∃ (ctx : FilterContext) (j : Journal)
    (compile : JournalM (EspResult × Handle)), ctx.client = client ∧
    (compile = createFilterTree env ctx spec.filter ∨
      spec.eventType = kEventProcessCreate ∧ spec.filter.kind = .leaf ∧
        compile = createLeafFilter env ctx (fileObjectLeaf spec.filter)) ∧
    j.tag = some index ∧ (compile j).1.2 = filter ∧
    succeeded (compile j).1.1 = true ∧ (compile j).2.log <+: log

def createdFileObjectFilter (e : Event) : Bool :=
  match e.call with
  | .createTypedFilter selector _ _ _ =>
      selector == constructorSelector kFilterCtorFileObject &&
        succeeded e.reply.result
  | _ => false

/-- The condition under which a rule with a predicate is created with its
filter: the dispatch places the compiled handle, or the rule is ProcessCreate
with one process leaf and the last call was the successful constructor of its
image filter. -/
def placesFilter (spec : RuleSpec) (log : List Event) : Bool :=
  if spec.eventType = kEventProcessCreate then
    hasProcessLeaf spec.filter && spec.filter.kind == .leaf &&
      log.getLast?.any createdFileObjectFilter
  else placesCompiled spec

def NoImageYet (log : List Event) : Prop :=
  log.getLast?.any createdFileObjectFilter = false

theorem NoImageYet.append {log new : List Event} (h : NoImageYet log)
    (hnew : ∀ e ∈ new, createdFileObjectFilter e = false) :
    NoImageYet (log ++ new) := by
  unfold NoImageYet at h ⊢
  rw [List.getLast?_append]
  cases hlast : new.getLast? with
  | none => exact h
  | some e => exact hnew e (List.mem_of_getLast? hlast)

theorem createdFileObjectFilter_of_buildsCollections {e : Event}
    (h : e.call.buildsCollections = true) :
    createdFileObjectFilter e = false := by
  unfold createdFileObjectFilter
  cases hcall : e.call <;> simp [hcall, Call.buildsCollections] at h ⊢

theorem constructorSelector_fileObject (node : FilterNode) :
    constructorSelector (fileObjectLeaf node).type =
      constructorSelector kFilterCtorFileObject := rfl

theorem createImageFileFilter_last (ctx : FilterContext)
    (hfills : FillsFilters env)
    (node : FilterNode) (j : Journal)
    (hlast : (hasProcessLeaf node && node.kind == .leaf) = true →
      NoImageYet j.log) :
    (createImageFileFilter env ctx node j).1 ≠ 0 ↔
      (hasProcessLeaf node && node.kind == .leaf &&
        (createImageFileFilter env ctx node j).2.log.getLast?.any
          createdFileObjectFilter) = true := by
  unfold createImageFileFilter
  split
  · rename_i hleaf
    rw [hleaf, Bool.true_and]
    obtain ⟨j', -, hgrows, hrefused | ⟨-, sizeClass, payload, hmade⟩⟩ :=
      createLeafFilter_cases env ctx (fileObjectLeaf node) j
    · obtain ⟨-, new, hlog, hnew⟩ := hgrows
      have hnone : NoImageYet j'.log := by
        rw [hlog]
        exact (hlast hleaf).append fun e he =>
          createdFileObjectFilter_of_buildsCollections (hnew e he).2
      rw [bind_run, hrefused]
      refine iff_of_false (fun h => h rfl) ?_
      exact Bool.eq_false_iff.mp hnone
    · rw [bind_run, hmade]
      generalize hcall : Call.createTypedFilter _ _ sizeClass payload = call
      have hcreates : call.createsFilter = true := by
        rw [← hcall]
        rfl
      have hevent : createdFileObjectFilter
          ⟨j'.tag, call, env.respond j'.log call⟩ =
            succeeded (env.respond j'.log call).result := by
        rw [← hcall, constructorSelector_fileObject]
        simp [createdFileObjectFilter]
      cases hok : succeeded (env.respond j'.log call).result with
      | true =>
          have hout := hfills _ _ hcreates hok
          simp [-bind_pure_comp, bind_run, record, note_run, pushFilter,
            ask_run, hok, hout, hevent, pure_run]
      | false =>
          simp [-bind_pure_comp, bind_run, record, note_run, ask_run, hok,
            hevent, pure_run]
  · rename_i hleaf
    simp [hleaf, pure_run]

theorem createImageFileFilter_compiled (node : FilterNode) (j : Journal)
    (h : (createImageFileFilter env ctx node j).1 ≠ 0) :
    node.kind = .leaf ∧
      succeeded
        (createLeafFilter env ctx (fileObjectLeaf node) j).1.1 = true ∧
      (createLeafFilter env ctx (fileObjectLeaf node) j).1.2 =
        (createImageFileFilter env ctx node j).1 ∧
      (createLeafFilter env ctx (fileObjectLeaf node) j).2.log =
        (createImageFileFilter env ctx node j).2.log := by
  unfold createImageFileFilter at h ⊢
  split at h
  · rename_i hleaf
    rw [if_pos hleaf]
    have hkind : node.kind = .leaf := by
      simpa using (Bool.and_eq_true_iff.mp hleaf).2
    simp only [bind_run] at h ⊢
    split at h
    · rename_i hmade
      rw [if_pos hmade]
      exact ⟨hkind, (Bool.and_eq_true_iff.mp hmade).1, rfl, rfl⟩
    · exact absurd rfl h
  · exact absurd rfl h

theorem filterRule_compiled {st : BuildState} {spec : RuleSpec} {index : ℕ}
    {filter : Handle} (hnonempty : isEmptyFilter spec.filter = false)
    (h : (filterRule env st spec index).1 = some filter) :
    let s := st.session.atRule (some index)
    let made := createFilterTree env s.filterContext spec.filter s.journal
    succeeded made.1.1 = true ∧ made.1.2 = filter ∧
      (filterRule env st spec index).2.log = made.2.log := by
  intro s made
  have hfilterRule : filterRule env st spec index =
      s.run (tryBuildRuleFilter env s.filterContext spec) := rfl
  rw [hfilterRule] at h ⊢
  unfold Session.run tryBuildRuleFilter at h ⊢
  rw [hnonempty] at h ⊢
  simp only [Bool.false_eq_true, if_false, bind_run] at h ⊢
  split at h
  · cases h
  · rename_i hok
    rw [if_neg hok]
    have hsucceeded := succeeded_of_not_failed hok
    split at h
    · rename_i hfilled
      cases h
      rw [if_pos hfilled]
      exact ⟨hsucceeded, rfl, rfl⟩
    · rename_i hnull
      cases h
      rw [if_neg hnull]
      exact ⟨hsucceeded, rfl, rfl⟩

theorem noImageYet_of_processLeaf {node : FilterNode} {j : Journal}
    (hleaf : (hasProcessLeaf node && node.kind == .leaf) = true)
    (h : succeeded (createFilterTree env ctx node j).1.1 = true) :
    NoImageYet (createFilterTree env ctx node j).2.log := by
  obtain ⟨hprocess, hkind⟩ := Bool.and_eq_true_iff.mp hleaf
  have hkind : node.kind = .leaf := by simpa using hkind
  have htype : node.type = kFilterCtorProcess := by
    cases node
    cases hkind
    simpa [hasProcessLeaf, hasCtorLeaf] using hprocess
  rw [createFilterTree_leaf hkind] at h ⊢
  obtain ⟨j', -, -, hrefused | ⟨-, sizeClass, payload, hmade⟩⟩ :=
    createLeafFilter_cases env ctx node j
  · rw [hrefused] at h
    cases h
  · rw [hmade, htype]
    simp [NoImageYet, ask_run, createdFileObjectFilter, constructorSelector]

end

section

variable {env : Env} {rulesBefore : ℕ} {st : BuildState} {spec : RuleSpec}
  {index : ℕ} {filter : Handle} {descriptor : RuleDescriptor}
  {anchor : Handle} {t : Session}

theorem ReachesCreate.compiled
    (h : ReachesCreate env rulesBefore st spec index filter descriptor
      anchor t)
    (hnonempty : isEmptyFilter spec.filter = false) :
    let s := st.session.atRule (some index)
    let made := createFilterTree env s.filterContext spec.filter s.journal
    succeeded made.1.1 = true ∧ made.1.2 = filter ∧
      ∃ patches, t.log = made.2.log ++ patches ∧
        ∀ e ∈ patches, e.call = .applyFromFfiCompatPatch := by
  intro s made
  obtain ⟨hok, hfilter, hlog⟩ := filterRule_compiled hnonempty h.filtered
  have hextends := describeRule_extends env rulesBefore st spec
    (P := (· = .applyFromFfiCompatPatch)) (fun _ => rfl)
    (warnNotifySuppress spec (filterRule env st spec index).2)
  rw [h.described] at hextends
  obtain ⟨patches, hpatches, _, hpatched⟩ := hextends.new
  rw [warnNotifySuppress_log, hlog] at hpatches
  exact ⟨hok, hfilter, patches, hpatches, fun e he => (hpatched e he).2⟩

theorem ReachesCreate.placesFilter_processCreate
    (hfills : FillsFilters env)
    (h : ReachesCreate env rulesBefore st spec index filter descriptor
      anchor t)
    (hnonempty : isEmptyFilter spec.filter = false)
    (htype : spec.eventType = kEventProcessCreate) :
    (∃ held, held ≠ 0 ∧
      CarriesFilter (attachRule env spec filter descriptor t).1 held ∧
      CompiledFor env st.session.clientHandle spec index
        (attachRule env spec filter descriptor t).2.log held) ↔
    placesFilter spec
      (attachRule env spec filter descriptor t).2.log = true := by
  obtain ⟨hok, -, patches, hpatches, hpatched⟩ := h.compiled hnonempty
  obtain ⟨hjournal, hcarries⟩ :=
    attachFilterToDescriptor_processCreate env t.filterContext
      (describeRule_unattached h.described) htype filter t.journal
  have hbefore : (hasProcessLeaf spec.filter &&
      spec.filter.kind == .leaf) = true → NoImageYet t.log := by
    intro hleaf
    rw [hpatches]
    refine (noImageYet_of_processLeaf hleaf hok).append fun e he => ?_
    simp [createdFileObjectFilter, hpatched e he]
  have himage := createImageFileFilter_last t.filterContext hfills
    spec.filter t.journal hbefore
  have hlog : (attachRule env spec filter descriptor t).2.log =
      (createImageFileFilter env t.filterContext spec.filter
        t.journal).2.log := congrArg Journal.log hjournal
  rw [placesFilter, if_pos htype, hlog, ← himage]
  constructor
  · rintro ⟨held, -, hheld, -⟩
    exact ((hcarries held).mp hheld).1
  · intro hmade
    refine ⟨_, hmade, (hcarries _).mpr ⟨hmade, rfl⟩, ?_⟩
    obtain ⟨hkind, hsucceeded, hhandle, hleafLog⟩ :=
      createImageFileFilter_compiled spec.filter t.journal hmade
    rw [← hleafLog]
    exact ⟨t.filterContext, t.journal, _, h.extends_.clientHandle, .inr ⟨htype, hkind, rfl⟩, h.extends_.grows.1,
      hhandle, hsucceeded, List.prefix_rfl⟩

theorem ReachesCreate.placesFilter_other (hfills : FillsFilters env)
    (h : ReachesCreate env rulesBefore st spec index filter descriptor
      anchor t)
    (hnonempty : isEmptyFilter spec.filter = false)
    (htype : spec.eventType ≠ kEventProcessCreate) :
    (∃ held, held ≠ 0 ∧
      CarriesFilter (attachRule env spec filter descriptor t).1 held ∧
      CompiledFor env st.session.clientHandle spec index
        (attachRule env spec filter descriptor t).2.log held) ↔
    placesFilter spec
      (attachRule env spec filter descriptor t).2.log = true := by
  obtain ⟨hok, hfilter, patches, hpatches, -⟩ := h.compiled hnonempty
  have hfilled : filter ≠ 0 := by
    rw [← hfilter]
    exact createFilterTree_filled hfills _ _ hok
  obtain ⟨hjournal, hcarries⟩ :=
    attachFilterToDescriptor_other env t.filterContext
      (describeRule_unattached h.described) htype hfilled t.journal
  have hlog : (attachRule env spec filter descriptor t).2.log = t.log :=
    congrArg Journal.log hjournal
  rw [placesFilter, if_neg htype, hlog]
  constructor
  · rintro ⟨held, -, hheld, -⟩
    exact ((hcarries held).mp hheld).1
  · intro hplaced
    refine ⟨filter, hfilled, (hcarries filter).mpr ⟨hplaced, rfl⟩, ?_⟩
    refine ⟨st.session.filterContext,
      (st.session.atRule (some index)).journal, _, rfl, .inl rfl, rfl,
      hfilter, hok, ?_⟩
    rw [hpatches]
    exact List.prefix_append _ _

end

/-- Every create call that an install of the document on `s` logs for a rule
with a predicate carries the rule's own filter. -/
def CreatesWithFilters (env : Env) (document : RuleDocument) (s : Session) :
    Prop :=
  ∀ before e after descriptor,
    (installRules env document s).2.log = s.log ++ (before ++ e :: after) →
    e.call = .createRule descriptor →
    ∃ i spec, document.rules[i]? = some spec ∧ e.tag = some i ∧
      (isEmptyFilter spec.filter = false →
        ∃ filter, filter ≠ 0 ∧ CarriesFilter descriptor filter ∧
          CompiledFor env s.clientHandle spec i (s.log ++ before) filter)

/-- For every create call of every install, the descriptor carries the own
filter of its rule exactly when the dispatch on the event type has a place for
the tree. -/
theorem installRules_places_filter (env : Env) (hfills : FillsFilters env)
    (document : RuleDocument) (s : Session)
    (before : List Event) (e : Event) (after : List Event)
    (descriptor : RuleDescriptor)
    (hlog : (installRules env document s).2.log =
      s.log ++ (before ++ e :: after))
    (hcall : e.call = .createRule descriptor) :
    ∃ i spec, document.rules[i]? = some spec ∧ e.tag = some i ∧
      (isEmptyFilter spec.filter = false →
        ((∃ filter, filter ≠ 0 ∧ CarriesFilter descriptor filter ∧
          CompiledFor env s.clientHandle spec i (s.log ++ before) filter) ↔
        placesFilter spec (s.log ++ before) = true)) := by
  obtain ⟨i, spec, rulesBefore, st, filter, described, anchor, t, hspec,
    hinside, hreaches, rfl, hbefore⟩ :=
      installRules_creates env document s before e after hlog descriptor hcall
  cases hcall
  refine ⟨i, spec, hspec, hreaches.extends_.grows.1, fun hnonempty => ?_⟩
  rw [hbefore, ← hinside.client]
  by_cases htype : spec.eventType = kEventProcessCreate
  · exact hreaches.placesFilter_processCreate hfills hnonempty htype
  · exact hreaches.placesFilter_other hfills hnonempty htype

theorem acceptingEnv_fills : FillsFilters acceptingEnv :=
  fun log _ _ _ => Nat.succ_ne_zero log.length

def denyFilePath : RuleSpec :=
  { eventType := kEventFoCreate
    actionName := "deny"
    filter :=
      { type := kFilterCtorFile, propertyId := 17, comparand := 3
        value := "*esptool_prop17.txt" } }

def denyFileObjectPath : RuleSpec :=
  { denyFilePath with
    filter :=
      { type := kFilterCtorFileObject, propertyId := 1, comparand := 3
        value := "*esptool_prop17.txt" } }

/-- The path leaf of the file compiles, is dropped, and the deny rule is armed
for every file. -/
theorem installRules_drops_filter :
    let s : Session := { clientHandle := 7, queueHandle := 8 }
    FillsFilters acceptingEnv ∧
      (installRules acceptingEnv { rules := [denyFilePath] } s).1 =
        .complete ∧
      ¬ CreatesWithFilters acceptingEnv { rules := [denyFilePath] } s := by
  intro s
  refine ⟨acceptingEnv_fills, by decide, fun h => ?_⟩
  let base := enforceDescriptor denyFilePath 3 (baseDescriptor denyFilePath)
  let document : RuleDocument := { rules := [denyFilePath] }
  let log := (installRules acceptingEnv document s).2.log
  let event : Event :=
    ⟨some 0, .createRule (attachTypedIoConfig base denyFilePath 1),
      { result := kOk, out := 2 }⟩
  have hlog : log = s.log ++ (log.take 1 ++ event :: log.drop 2) := by decide
  obtain ⟨i, spec, hspec, htag, hcarries⟩ :=
    h (log.take 1) event (log.drop 2) _ hlog rfl
  cases htag
  cases hspec
  obtain ⟨filter, _, hfilter, _⟩ := hcarries (by decide)
  have hplaced := (carriesFilter_typedIo ⟨rfl, rfl⟩ denyFilePath
    (by decide) filter).mp hfilter
  exact absurd hplaced.1 (by decide)

theorem installRules_places_filter_fileObject :
    let s : Session := { clientHandle := 7, queueHandle := 8 }
    let log :=
      (installRules acceptingEnv { rules := [denyFileObjectPath] } s).2.log
    ∃ e ∈ log, ∃ descriptor filter, e.call = .createRule descriptor ∧
      filter ≠ 0 ∧ CarriesFilter descriptor filter ∧
      CompiledFor acceptingEnv 7 denyFileObjectPath 0 (log.take 1)
        filter := by
  intro s log
  let base := enforceDescriptor denyFileObjectPath 3
    (baseDescriptor denyFileObjectPath)
  let event : Event :=
    ⟨some 0, .createRule (attachTypedIoConfig base denyFileObjectPath 1),
      { result := kOk, out := 2 }⟩
  have hlog : log = s.log ++ (log.take 1 ++ event :: log.drop 2) := by decide
  obtain ⟨i, spec, hspec, htag, hplaced⟩ :=
    installRules_places_filter acceptingEnv acceptingEnv_fills
      { rules := [denyFileObjectPath] } s (log.take 1) event (log.drop 2) _
      hlog rfl
  cases htag
  cases hspec
  obtain ⟨filter, hfilter, hcarries, hcompiled⟩ :=
    (hplaced (by decide)).mpr (by decide)
  exact ⟨event, by decide, _, filter, rfl, hfilter, hcarries, hcompiled⟩

end Esptool.Esp
