import Esptool.HandleCustody
import Esptool.InstallJournal

/-!
# The collections that a session files

A collection is handed out in four places: for the document, for a leaf with
a value of its own, and by the two exercises.  Each of them files the handle
in `collections_` right after the call, and only `Disconnect` and one of the
exercises close one.  So the ledger of a session follows its log, and a leaf
that compares against a collection finds it in the ledger: the names of a
document stand for collections of the same install.
-/

namespace Esptool.Esp

open Model Interaction Custody

/-- The collection that a filter is built over. -/
def comparedCollection : Call → Option Handle
  | .createTypedFilter _ _ _ (.collection blob) => some blob.collection
  | _ => none

/-- Between the two journals every collection that is handed out is filed,
none is closed, and filters are built over filed collections only. -/
def FilesCollections (j j' : Journal) : Prop :=
  ∃ new, j'.log = j.log ++ new ∧
    j'.notes.collections =
      j.notes.collections ++ new.filterMap Owned.collection.returned ∧
    (∀ e ∈ new, Owned.collection.closedBy e.call = none) ∧
    ∀ before e after, new = before ++ e :: after →
      ∀ handle ∈ comparedCollection e.call, handle ∈
        j.notes.collections ++ before.filterMap Owned.collection.returned

section

variable {j j₁ j₂ j' : Journal}

theorem FilesCollections.refl (j : Journal) : FilesCollections j j :=
  ⟨[], by simp, by simp, by simp, by simp⟩

theorem FilesCollections.trans (h : FilesCollections j j₁)
    (h' : FilesCollections j₁ j₂) : FilesCollections j j₂ := by
  obtain ⟨new, hlog, hfiled, hcloses, hcompares⟩ := h
  obtain ⟨new', hlog', hfiled', hcloses', hcompares'⟩ := h'
  refine ⟨new ++ new', ?_, ?_, ?_, ?_⟩
  · rw [hlog', hlog, List.append_assoc]
  · rw [hfiled', hfiled, List.filterMap_append, List.append_assoc]
  · intro e he
    rcases List.mem_append.mp he with he | he
    · exact hcloses e he
    · exact hcloses' e he
  · intro before e after hsplit handle hhandle
    rcases Loops.split_append hsplit with
      ⟨rest, hfirst⟩ | ⟨middle, hbefore, hsecond⟩
    · exact hcompares before e rest hfirst handle hhandle
    · have hmem := hcompares' middle e after hsecond handle hhandle
      rw [hfiled, List.append_assoc, ← List.filterMap_append,
        ← hbefore] at hmem
      exact hmem

theorem FilesCollections.subset (h : FilesCollections j j')
    {handle : Handle} (hmem : handle ∈ j.notes.collections) :
    handle ∈ j'.notes.collections := by
  obtain ⟨new, -, hfiled, -⟩ := h
  rw [hfiled]
  exact List.mem_append_left _ hmem

theorem Owned.collection_ignores {e : Event}
    (h : e.call.handlesCollection = false) :
    Owned.collection.returned e = none ∧
      Owned.collection.closedBy e.call = none := by
  have hopens : Owned.collection.opens e.call = false := by
    cases hcall : e.call <;> rw [hcall] at h <;> first | rfl | cases h
  refine ⟨Owned.returned_none .collection hopens, ?_⟩
  cases hcall : e.call <;> rw [hcall] at h <;> first | rfl | cases h

theorem comparedCollection_of_handlesFilter {call : Call}
    (h : call.handlesFilter = false) : comparedCollection call = none := by
  cases call <;> first | rfl | cases h

theorem SparesObjects.files (h : SparesObjects j j') :
    FilesCollections j j' := by
  obtain ⟨new, hlog, hnew⟩ := h.log
  have hreturned : new.filterMap Owned.collection.returned = [] :=
    List.filterMap_eq_nil_iff.mpr fun e he =>
      (Owned.collection_ignores (hnew e he).2).1
  refine ⟨new, hlog, ?_, ?_, ?_⟩
  · rw [hreturned, List.append_nil, h.collections]
  · exact fun e he => (Owned.collection_ignores (hnew e he).2).2
  · intro before e after hsplit handle hhandle
    rw [comparedCollection_of_handlesFilter
      (hnew e (by simp [hsplit])).1] at hhandle
    cases hhandle

/-- One call that does not close a collection, and its filing. -/
theorem FilesCollections.of_event {e : Event} (hlog : j'.log = j.log ++ [e])
    (hfiled : j'.notes.collections =
      j.notes.collections ++ (Owned.collection.returned e).toList)
    (hcloses : Owned.collection.closedBy e.call = none)
    (hcompares : ∀ handle ∈ comparedCollection e.call,
      handle ∈ j.notes.collections) : FilesCollections j j' := by
  refine ⟨[e], hlog, ?_, ?_, ?_⟩
  · rw [hfiled]
    cases hreturned : Owned.collection.returned e with
    | none => simp [hreturned]
    | some handle => simp [hreturned]
  · intro e' he'
    rw [List.mem_singleton.mp he']
    exact hcloses
  · intro before e' after hsplit handle hhandle
    rw [List.singleton_eq_append_iff] at hsplit
    rcases hsplit with ⟨rfl, hrest⟩ | ⟨_, hrest⟩
    · cases hrest
      simpa using hcompares handle hhandle
    · cases hrest

end

/-! ## Building collections -/

def Files {α : Type} (m : JournalM α) : Prop := Within FilesCollections m

section

variable {α β : Type} {env : Env}

theorem Files.pure (a : α) : Files (pure a : JournalM α) :=
  Within.pure FilesCollections.refl a

theorem Files.bind {m : JournalM α} {f : α → JournalM β} (hm : Files m)
    (hf : ∀ a, Files (f a)) : Files (m >>= f) :=
  Within.bind (fun _ _ _ h h' => h.trans h') hm hf

theorem Files.ite {c : Prop} [Decidable c] {m m' : JournalM α}
    (hm : Files m) (hm' : Files m') : Files (if c then m else m') :=
  Within.ite hm hm'

theorem Quiet.files {m : JournalM α} (h : Quiet m) : Files m :=
  fun j => (h j).files

/-- A collection is filed right after the call that handed it out. -/
theorem adoptCollection_files {step : String} {call : Call}
    (hopens : Owned.collection.opens call = true)
    {f : Option Handle → JournalM β} (hnone : Files (f none))
    (hsome : ∀ handle, ∃ k, f (some handle) =
      (pushCollection handle >>= fun _ => k) ∧ Files k) :
    Files (adopt env step call >>= f) := by
  intro j
  obtain ⟨e, hcall, hlog, hkept, hvalue⟩ := adopt_run env step call j
  have hreturned : (adopt env step call j).1 =
      Owned.collection.returned e := by
    rw [hvalue, Owned.returned, hcall, hopens]
    simp only [true_and]
  have hcloses : Owned.collection.closedBy e.call = none := by
    rw [hcall]
    cases call <;> first | rfl | cases hopens
  have hcompares : comparedCollection e.call = none := by
    rw [hcall]
    cases call <;> first | rfl | cases hopens
  rw [bind_run, hreturned]
  cases hhandle : Owned.collection.returned e with
  | none =>
      refine FilesCollections.trans (FilesCollections.of_event hlog ?_
        hcloses ?_) (hnone _)
      · rw [hkept, hhandle]
        exact (List.append_nil _).symm
      · simp [hcompares]
  | some handle =>
      obtain ⟨k, hk, hfiles⟩ := hsome handle
      have hpushed : FilesCollections j
          (pushCollection handle (adopt env step call j).2).2 := by
        refine FilesCollections.of_event hlog ?_ hcloses ?_
        · rw [hhandle, ← hkept]
          rfl
        · simp [hcompares]
      rw [hk, bind_run]
      exact hpushed.trans (hfiles _)

theorem createStringCollection_files (client : Handle) (value : WString) :
    Files (createStringCollection env client value) := by
  refine .bind (require_quiet env _).files fun hasCreate => ?_
  refine .bind (require_quiet env _).files fun hasUpdate => ?_
  refine .ite (.pure _) (adoptCollection_files rfl (.pure _) fun handle =>
    ⟨_, rfl, .ite (.pure _) ?_⟩)
  exact .bind (ask_quiet env rfl rfl).files fun reply =>
    .bind (record_quiet _ _).files fun _ => .pure _

theorem openNamedCollection_files (client : Handle) (id : Guid) :
    Files (openNamedCollection env client id) := by
  refine .bind (require_quiet env _).files fun _ => .ite (.pure _) ?_
  exact adoptCollection_files rfl (.pure _) fun _ => ⟨_, rfl, .pure _⟩

theorem installEntries_files (collection : Handle) (type : ℕ)
    (entries : List String) :
    Files (installEntries env collection type entries) := by
  induction entries with
  | nil => exact .pure _
  | cons text rest ih =>
      refine .bind ?_ fun ok => .bind ih fun restOk => .pure _
      unfold installEntry
      split
      · exact .pure _
      · exact .bind (warn_quiet _).files fun _ => .pure _
      · exact .bind (ask_quiet env rfl rfl).files fun _ =>
          .bind (record_quiet _ _).files fun _ => .pure _

theorem installCollection_files (client : Handle) (spec : CollectionSpec) :
    Files (installCollection env client spec) := by
  refine .ite (.ite ?_ ?_) ?_
  · exact .bind (warn_quiet _).files fun _ => .pure _
  · exact .bind (openNamedCollection_files _ _) fun _ => .pure _
  · exact adoptCollection_files rfl (.pure _) fun handle => ⟨_, rfl,
      .bind (installEntries_files _ _ _) fun _ => .pure _⟩

theorem installCollections_files (client : Handle)
    (specs : List CollectionSpec) :
    Files (installCollections env client specs) := by
  induction specs with
  | nil => exact .pure _
  | cons spec rest ih =>
      exact .bind (installCollection_files _ _) fun _ =>
        .bind ih fun _ => .pure _

theorem documentCollections_files (client : Handle)
    (document : RuleDocument) :
    Files (documentCollections env client document) := by
  refine .bind (require_quiet env _).files fun _ => ?_
  refine .bind (require_quiet env _).files fun _ => ?_
  exact .ite (.pure _) (installCollections_files _ _)

end

/-! ## The handles that come out of it -/

section

variable {env : Env} {j : Journal}

/-- A string collection is the last one filed. -/
theorem createStringCollection_filed {client handle : Handle}
    {value : WString}
    (h : (createStringCollection env client value j).1 = some handle) :
    (createStringCollection env client value j).2.notes.collections =
      j.notes.collections ++ [handle] := by
  have hcreate := require_quiet env .createCollection j
  have hupdate := hcreate.trans (require_quiet env .updateCollection
    (require env .createCollection j).2)
  unfold createStringCollection at h ⊢
  simp only [bind_run] at h ⊢
  split at h
  · cases h
  · rename_i hready
    rw [if_neg hready]
    obtain ⟨e, -, -, hkept, -⟩ := adopt_run env "EspCreateCollection"
      (.createCollection client kCollectionTypeString
        kCollectionStringSubtype)
      (require env .updateCollection (require env .createCollection j).2).2
    rw [hupdate.collections] at hkept
    simp only [bind_run] at h ⊢
    generalize adopt env _ _ _ = adopted at h hkept ⊢
    obtain ⟨_ | created, after⟩ := adopted
    · cases h
    · dsimp only at h hkept ⊢
      split at h
      · cases h
      · rename_i hbytes
        rw [if_neg hbytes]
        simp only [bind_run] at h ⊢
        split at h
        · cases h
        · cases h
          rw [← hkept]
          rfl

theorem openNamedCollection_filed {client handle : Handle} {id : Guid}
    (h : (openNamedCollection env client id j).1 = some handle) :
    handle ∈ (openNamedCollection env client id j).2.notes.collections := by
  unfold openNamedCollection at h ⊢
  simp only [bind_run] at h ⊢
  split at h
  · cases h
  · rename_i hready
    rw [if_neg hready]
    simp only [bind_run] at h ⊢
    generalize adopt env _ _ _ = adopted at h ⊢
    obtain ⟨_ | opened, after⟩ := adopted
    · cases h
    · cases h
      exact List.mem_append_right _ (List.mem_singleton.mpr rfl)

theorem installCollection_filed {client : Handle} {spec : CollectionSpec}
    (h : (installCollection env client spec j).1.2 ≠ 0) :
    (installCollection env client spec j).1.2 ∈
      (installCollection env client spec j).2.notes.collections := by
  unfold installCollection at h ⊢
  split
  · rename_i hopen
    rw [if_pos hopen] at h
    split
    · rename_i hguid
      rw [if_pos hguid] at h
      exact absurd rfl h
    · rename_i hguid
      rw [if_neg hguid] at h
      simp only [bind_run] at h ⊢
      cases hopened : (openNamedCollection env client spec.guid j).1 with
      | none =>
          rw [hopened] at h
          exact absurd rfl h
      | some handle => exact openNamedCollection_filed hopened
  · rename_i hcreate
    rw [if_neg hcreate] at h
    simp only [bind_run] at h ⊢
    generalize adopt env _ _ _ = adopted at h ⊢
    obtain ⟨_ | created, after⟩ := adopted
    · exact absurd rfl h
    · exact (installEntries_files created spec.type spec.entries _).subset
        (List.mem_append_right _ (List.mem_singleton.mpr rfl))

/-- Every name of a document is bound to a filed collection. -/
theorem installCollections_filed (client : Handle)
    (specs : List CollectionSpec) (j : Journal) :
    ∀ entry ∈ (installCollections env client specs j).1.2, entry.2 ∈
      (installCollections env client specs j).2.notes.collections := by
  induction specs generalizing j with
  | nil => exact nofun
  | cons spec rest ih =>
      intro entry hentry
      let installed := installCollection env client spec j
      have hrest : FilesCollections installed.2
          (installCollections env client rest installed.2).2 :=
        installCollections_files client rest installed.2
      have hvalue : (installCollections env client (spec :: rest) j).1.2 =
          (if installed.1.2 ≠ 0 ∧ spec.name ≠ ""
            then [(spec.name, installed.1.2)] else []) ++
          (installCollections env client rest installed.2).1.2 := rfl
      rw [hvalue] at hentry
      rcases List.mem_append.mp hentry with hbound | hbound
      · by_cases hfirst : installed.1.2 ≠ 0 ∧ spec.name ≠ ""
        · rw [if_pos hfirst] at hbound
          rw [List.mem_singleton.mp hbound]
          exact hrest.subset (installCollection_filed hfirst.1)
        · rw [if_neg hfirst] at hbound
          cases hbound
      · exact ih _ entry hbound

theorem documentCollections_filed (client : Handle)
    (document : RuleDocument) (j : Journal) :
    ∀ entry ∈ (documentCollections env client document j).1.2, entry.2 ∈
      (documentCollections env client document j).2.notes.collections := by
  unfold documentCollections
  simp only [bind_run]
  split
  · exact nofun
  · exact installCollections_filed client document.collections _

end

/-! ## Filters over filed collections -/

/-- The names that filters are built with stand for filed collections. -/
def NamedFiled (ctx : FilterContext) (j : Journal) : Prop :=
  ∀ entry ∈ ctx.named, entry.2 ∈ j.notes.collections

/-- Started with filed names, the computation files its collections. -/
def FilesNamed (ctx : FilterContext) {α : Type} (m : JournalM α) : Prop :=
  Within (fun j j' => NamedFiled ctx j → FilesCollections j j') m

section

variable {α β : Type} {env : Env} {ctx : FilterContext} {j : Journal}

theorem NamedFiled.files {j' : Journal} (h : NamedFiled ctx j)
    (hfiles : FilesCollections j j') : NamedFiled ctx j' :=
  fun entry hentry => hfiles.subset (h entry hentry)

theorem FilesNamed.pure (a : α) : FilesNamed ctx (pure a : JournalM α) :=
  Within.pure (fun j _ => FilesCollections.refl j) a

theorem FilesNamed.bind {m : JournalM α} {f : α → JournalM β}
    (hm : FilesNamed ctx m) (hf : ∀ a, FilesNamed ctx (f a)) :
    FilesNamed ctx (m >>= f) := by
  refine Within.bind (fun _ _ _ h h' hnamed => ?_) hm hf
  have hfirst := h hnamed
  exact hfirst.trans (h' (hnamed.files hfirst))

theorem FilesNamed.ite {c : Prop} [Decidable c] {m m' : JournalM α}
    (hm : FilesNamed ctx m) (hm' : FilesNamed ctx m') :
    FilesNamed ctx (if c then m else m') :=
  Within.ite hm hm'

theorem Quiet.filesNamed {m : JournalM α} (h : Quiet m) :
    FilesNamed ctx m :=
  fun j _ => (h j).files

theorem leafCollection_filed (hnamed : NamedFiled ctx j)
    {node : FilterNode} {handle : Handle}
    (h : (leafCollection env ctx node j).1 = some handle) :
    handle ∈ (leafCollection env ctx node j).2.notes.collections := by
  unfold leafCollection at h ⊢
  split
  · rename_i hname
    rw [if_pos hname] at h
    unfold findNamedCollection at h
    cases hlookup : ctx.named.lookup node.collectionName with
    | none =>
        rw [hlookup] at h
        cases h
    | some found =>
        rw [hlookup] at h
        have hfound : found = handle := by
          simp only [Option.getD_some, pure_run] at h
          split at h
          · cases h
          · exact Option.some.inj h
        obtain ⟨before, after, hentries, -⟩ :=
          List.lookup_eq_some_iff.mp hlookup
        rw [← hfound]
        exact hnamed (node.collectionName, found) (by simp [hentries])
  · rename_i hname
    rw [if_neg hname] at h
    split
    · rename_i hvalue
      rw [if_pos hvalue] at h
      cases h
    · rename_i hvalue
      rw [if_neg hvalue] at h
      rw [createStringCollection_filed h]
      exact List.mem_append_right _ (List.mem_singleton.mpr rfl)

theorem leafCollection_files (node : FilterNode) :
    Files (leafCollection env ctx node) := by
  refine .ite (.pure _) (.ite (.pure _) ?_)
  exact createStringCollection_files _ _

theorem leafComparand_files (node : FilterNode) (property : ℕ) :
    Files (leafComparand env ctx node property) := by
  refine .ite (.ite (.pure _) ?_) ?_
  · exact .bind (leafCollection_files node) fun _ => .pure _
  · exact .ite (.pure _) (.ite (.pure _) (.ite (.pure _) (.pure _)))

theorem leafComparand_filed (hnamed : NamedFiled ctx j) {node : FilterNode}
    {property sizeClass : ℕ} {blob : CollectionComparandRaw}
    (h : (leafComparand env ctx node property j).1 =
      some (sizeClass, .collection blob)) :
    blob.collection ∈
      (leafComparand env ctx node property j).2.notes.collections := by
  unfold leafComparand at h ⊢
  split
  · rename_i hcomparand
    rw [if_pos hcomparand] at h
    split
    · rename_i hproperty
      rw [if_pos hproperty] at h
      cases h
    · rename_i hproperty
      rw [if_neg hproperty] at h
      simp only [bind_run] at h ⊢
      cases hcollection : (leafCollection env ctx node j).1 with
      | none =>
          rw [hcollection] at h
          cases h
      | some handle =>
          rw [hcollection] at h
          cases h
          exact leafCollection_filed hnamed hcollection
  · -- no other kind of leaf has the payload of a collection
    rename_i hcomparand
    rw [if_neg hcomparand] at h
    split at h
    · cases hblob : fillNumericComparand node <;> rw [hblob] at h <;> cases h
    · split at h
      · cases h
      · split at h
        · cases h
        · cases hblob : fillStringComparand env node with
          | none =>
              rw [hblob] at h
              cases h
          | some filled =>
              rw [hblob] at h
              simp only [Option.map_some, pure_run] at h
              split at h <;> cases h

theorem createLeafFilter_files (node : FilterNode) :
    FilesNamed ctx (createLeafFilter env ctx node) := by
  intro j hnamed
  unfold createLeafFilter
  cases typedFilterExportName (constructorSelector node.type) with
  | none => exact FilesCollections.refl j
  | some constructor =>
      have hrequired := (require_quiet env constructor j).files
      simp only [bind_run]
      split
      · exact hrequired
      · split
        · exact hrequired
        · have hbuilt := hrequired.trans (leafComparand_files node
            (leafProperty node) (require env constructor j).2 :
            FilesCollections _ (leafComparand env ctx node
              (leafProperty node) (require env constructor j).2).2)
          simp only [bind_run]
          cases hcomparand : (leafComparand env ctx node (leafProperty node)
            (require env constructor j).2).1 with
          | none => exact hbuilt
          | some comparand =>
              obtain ⟨sizeClass, payload⟩ := comparand
              refine hbuilt.trans (FilesCollections.of_event rfl ?_ rfl ?_)
              · exact (List.append_nil _).symm
              · intro handle hhandle
                cases payload with
                | collection blob =>
                    cases hhandle
                    exact leafComparand_filed (hnamed.files hrequired)
                      hcomparand
                | string blob => cases hhandle
                | numeric blob => cases hhandle
                | bool blob => cases hhandle
                | filePath blob => cases hhandle

theorem ask_files {call : Call} (h : call.handlesCollection = false)
    (hcompared : comparedCollection call = none) :
    FilesNamed ctx (ask env.respond call) := by
  intro j _
  let e : Event := ⟨j.tag, call, env.respond j.log call⟩
  obtain ⟨hreturned, hcloses⟩ := Owned.collection_ignores (e := e) h
  refine FilesCollections.of_event (e := e) rfl ?_ hcloses ?_
  · rw [hreturned]
    exact (List.append_nil _).symm
  · rw [hcompared]
    exact nofun

theorem pushFilter_files (filter : Handle) :
    FilesNamed ctx (pushFilter filter) := by
  intro j hnamed
  have hlog : (pushFilter filter j).2.log = j.log ++ [] :=
    (List.append_nil j.log).symm
  have hfiled : (pushFilter filter j).2.notes.collections =
      j.notes.collections ++ [] :=
    (List.append_nil j.notes.collections).symm
  exact ⟨[], hlog, hfiled, by simp, by simp⟩

theorem createBinaryFilter_files (kind : FilterKind) (left right : Handle) :
    FilesNamed ctx (createBinaryFilter env kind left right) := by
  refine .bind (require_quiet env _).filesNamed fun _ => .ite (.pure _) ?_
  refine .bind (ask_files rfl rfl) fun _ => ?_
  refine .bind (pushFilter_files left) fun _ => ?_
  exact .bind (pushFilter_files right) fun _ => .pure _

theorem createNotFilter_files (child : Handle) :
    FilesNamed ctx (createNotFilter env child) := by
  refine .bind (require_quiet env _).filesNamed fun _ => .ite (.pure _) ?_
  refine .bind (ask_files rfl rfl) fun _ => ?_
  exact .bind (pushFilter_files child) fun _ => .pure _

theorem closeLeftOperand_files (left : Handle) :
    FilesNamed ctx (closeLeftOperand env left) := by
  refine .bind (require_quiet env _).filesNamed fun _ => .ite ?_ (.pure _)
  exact .bind (ask_files rfl rfl) fun _ => .pure _

theorem createFilterTree_files (node : FilterNode) :
    FilesNamed ctx (createFilterTree env ctx node) := by
  induction node using FilterNode.compileInduction with
  | leaf node hkind =>
      rw [createFilterTree_leaf hkind]
      exact createLeafFilter_files node
  | not node operand hkind hchildren ih =>
      rw [createFilterTree_not hkind hchildren]
      refine .bind ih fun child => .ite (.pure _) ?_
      exact createNotFilter_files child.2
  | notArity node hkind harity =>
      rw [createFilterTree_notArity hkind harity]
      exact .pure _
  | binary node first second rest hkind hchildren ihFirst ihSecond =>
      rw [createFilterTree_binary hkind hchildren]
      refine .bind ihFirst fun left => .ite (.pure _) ?_
      refine .bind ihSecond fun right => .ite ?_ ?_
      · exact .bind (closeLeftOperand_files left.2) fun _ => .pure _
      · exact createBinaryFilter_files node.kind left.2 right.2
  | binaryArity node hkind harity =>
      rw [createFilterTree_binaryArity hkind harity]
      exact .pure _

theorem tryBuildRuleFilter_files (spec : RuleSpec) :
    FilesNamed ctx (tryBuildRuleFilter env ctx spec) := by
  refine .ite (.pure _) ?_
  refine .bind (createFilterTree_files spec.filter) fun filter => ?_
  refine .bind (record_quiet _ _).filesNamed fun _ => .ite (.pure _) ?_
  exact .ite (.bind (pushFilter_files filter.2) fun _ => .pure _) (.pure _)

theorem createImageFileFilter_files (node : FilterNode) :
    FilesNamed ctx (createImageFileFilter env ctx node) := by
  refine .ite ?_ (.pure _)
  refine .bind (createLeafFilter_files _) fun filter => ?_
  refine .bind (record_quiet _ _).filesNamed fun _ => .ite ?_ (.pure _)
  exact .bind (pushFilter_files filter.2) fun _ => .pure _

theorem attachFilterToDescriptor_files (descriptor : RuleDescriptor)
    (spec : RuleSpec) (filter : Handle) :
    FilesNamed ctx
      (attachFilterToDescriptor env ctx descriptor spec filter) := by
  refine .ite (.pure _) (.ite (.pure _) (.ite ?_ ?_))
  · exact .bind (createImageFileFilter_files _) fun _ => .pure _
  · exact .ite (.pure _) (.ite (.pure _) (.ite (.pure _)
      (.ite (.pure _) (.pure _))))

end

/-! ## Installs -/

section

variable {env : Env} {document : RuleDocument} {s : Session}

/-- A gate files its collections, and names filed ones where it lets the
install pass. -/
structure FilesGate (s : Session) (gate : Bool × Session) : Prop where
  files : FilesCollections s.journal gate.2.journal
  named : gate.1 = true → NamedFiled gate.2.filterContext gate.2.journal

theorem FilesGate.proceed {gate : Bool × Session}
    {next : Session → Bool × Session}
    (hgate : FilesCollections s.journal gate.2.journal)
    (hnext : gate.1 = true → FilesGate gate.2 (next gate.2)) :
    FilesGate s (proceed gate next) := by
  obtain ⟨ok, t⟩ := gate
  cases ok with
  | false => exact ⟨hgate, nofun⟩
  | true => exact ⟨hgate.trans (hnext rfl).files, (hnext rfl).named⟩

theorem collectionsGate_files (env : Env) (document : RuleDocument)
    (s : Session) : FilesGate s (collectionsGate env document s) := by
  have hfiles : FilesCollections s.journal
      (documentCollections env s.clientHandle document s.journal).2 :=
    documentCollections_files s.clientHandle document s.journal
  have hfiled : ∀ entry ∈ (documentCollections env s.clientHandle document
      s.journal).1.2, entry.2 ∈ (documentCollections env s.clientHandle
        document s.journal).2.notes.collections :=
    documentCollections_filed s.clientHandle document s.journal
  unfold collectionsGate
  dsimp only
  split
  · exact ⟨hfiles.trans (warn_quiet _ _).files, nofun⟩
  · exact ⟨hfiles, fun _ => hfiled⟩

theorem installPrologue_files (env : Env) (document : RuleDocument)
    (s : Session) : FilesGate s (installPrologue env document s) := by
  refine .proceed (gate_quiet _ _ s).files fun _ => ?_
  refine .proceed (gate_quiet _ _ _).files fun _ => ?_
  refine .proceed (require_quiet env .createRule _).files fun _ => ?_
  refine .proceed (require_quiet env .updateRules _).files fun _ => ?_
  have hcollections := fun t => collectionsGate_files env document t
  refine .proceed (hcollections _).files fun hok => ?_
  exact ⟨FilesCollections.refl _, fun _ => (hcollections _).named hok⟩

/-- In every install the ledger follows the log, and filters are built over
filed collections only. -/
theorem installRules_files (env : Env) (document : RuleDocument)
    (s : Session) :
    FilesCollections s.journal (installRules env document s).2.journal := by
  let prologue := installPrologue env document (s.atRule none)
  obtain ⟨hfiles, hnamed⟩ := installPrologue_files env document
    (s.atRule none)
  have hprologue : FilesCollections s.journal prologue.2.journal :=
    (atRule_quiet s none).files.trans hfiles
  cases hok : prologue.1 with
  | false =>
      rw [installRules, if_pos (by rw [hok]; rfl)]
      exact hprologue
  | true =>
      have hsteps : BuildSteps env document prologue.2.filterContext
          fun j j' => NamedFiled prologue.2.filterContext j →
            FilesCollections j j' :=
        { trans := fun h h' hstart =>
            (h hstart).trans (h' (hstart.files (h hstart)))
          quiet := fun hquiet _ => hquiet.files
          builds := fun _ spec j _ _ => tryBuildRuleFilter_files spec j
          attaches := fun _ spec descriptor filter j _ _ =>
            attachFilterToDescriptor_files descriptor spec filter j }
      exact hprologue.trans (hsteps.installRules (hnamed hok))

end

/-! ## The books -/

section

variable {j j' : Journal} {base : List Event} {lost : Multiset Handle}

/-- The collections that a ledger holds. -/
def heldCollections (j : Journal) : Multiset Handle :=
  ↑(j.notes.collections.filter (· != 0))

theorem filter_returned (new : List Event) :
    (new.filterMap Owned.collection.returned).filter (· != 0) =
      new.filterMap Owned.collection.returned := by
  rw [List.filter_eq_self]
  intro handle hmem
  obtain ⟨e, -, hreturned⟩ := List.mem_filterMap.mp hmem
  simpa using Owned.returned_ne_zero hreturned

theorem FilesCollections.holds (h : FilesCollections j j')
    (hholds : Owned.collection.custody.Holds base j.log
      (heldCollections j + lost)) :
    Owned.collection.custody.Holds base j'.log
      (heldCollections j' + lost) := by
  obtain ⟨new, hlog, hfiled, hcloses, -⟩ := h
  have hafter := hholds.append_opens hcloses
  rw [hlog, heldCollections, hfiled, List.filter_append, filter_returned,
    ← Multiset.coe_add, add_comm (Multiset.ofList (j.notes.collections.filter
      _)), add_assoc]
  exact hafter

/-- A filter is built over a collection that was opened more often than it
was closed. -/
theorem FilesCollections.compares_open (h : FilesCollections j j')
    (hnonzero : ∀ handle ∈ j.notes.collections, handle ≠ 0)
    (hholds : Owned.collection.custody.Holds [] j.log
      (heldCollections j + lost))
    {before after : List Event} {e : Event}
    (hsplit : j'.log = j.log ++ (before ++ e :: after)) {handle : Handle}
    (hhandle : handle ∈ comparedCollection e.call) :
    Owned.collection.custody.closed (j.log ++ before) handle <
      Owned.collection.custody.opened (j.log ++ before) handle := by
  obtain ⟨new, hlog, -, hcloses, hcompares⟩ := h
  have hnew : new = before ++ e :: after :=
    List.append_cancel_left (hlog.symm.trans hsplit)
  have hbefore : ∀ e' ∈ before, Owned.collection.closedBy e'.call = none :=
    fun e' he' => hcloses e' (by simp [hnew, he'])
  have hbalanced := holds_nil_iff.mp (hholds.append_opens hbefore)
  have hbalance := hbalanced.balance handle
  have hmem := hcompares before e after hnew handle hhandle
  have hpos : 0 < Multiset.count handle
      (↑(before.filterMap Owned.collection.returned) +
        (heldCollections j + lost)) := by
    rw [Multiset.count_pos, Multiset.mem_add, Multiset.mem_add]
    rcases List.mem_append.mp hmem with hmem | hmem
    · exact .inr (.inl (List.mem_filter.mpr
        ⟨hmem, by simpa using hnonzero handle hmem⟩))
    · exact .inl hmem
  have hcount : Multiset.count handle
      (↑(before.filterMap Owned.collection.custody.opens) +
        (heldCollections j + lost)) = Multiset.count handle
      (↑(before.filterMap Owned.collection.returned) +
        (heldCollections j + lost)) := rfl
  omega

end

end Esptool.Esp
