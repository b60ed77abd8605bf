import Esptool.InstallRun

/-!
# The filters in the journal of an install

An install touches filters in two places only: where it builds the filter of
a rule and where it attaches it; collections are made there and before the
first rule.  Every other step leaves both alone.  A relation between journals
that holds across these steps therefore holds across every install, whatever
the outcomes of the calls.
-/

namespace Esptool.Esp

open Model Interaction

def Call.handlesFilter : Call → Bool
  | .createTypedFilter .. => true
  | .createBinaryFilter .. => true
  | .createNotFilter _ => true
  | .closeFilter _ => true
  | _ => false

/-- Between the two journals no filter is made, kept or closed. -/
structure SparesFilters (j j' : Journal) : Prop where
  filters : j'.notes.filters = j.notes.filters
  log : ∃ new, j'.log = j.log ++ new ∧
    ∀ e ∈ new, e.call.handlesFilter = false

theorem SparesFilters.refl (j : Journal) : SparesFilters j j :=
  ⟨rfl, [], by simp, by simp⟩

theorem SparesFilters.trans {j₁ j₂ j₃ : Journal} (h : SparesFilters j₁ j₂)
    (h' : SparesFilters j₂ j₃) : SparesFilters j₁ j₃ := by
  obtain ⟨new, hlog, hnew⟩ := h.log
  obtain ⟨new', hlog', hnew'⟩ := h'.log
  refine ⟨h'.filters.trans h.filters, new ++ new', ?_, ?_⟩
  · rw [hlog', hlog, List.append_assoc]
  · intro e he
    rcases List.mem_append.mp he with he | he
    · exact hnew e he
    · exact hnew' e he

theorem SparesFilters.traced {origin : List Event → Event → Prop}
    {j j' : Journal} (h : SparesFilters j j')
    (horigin : ∀ before e, e.call.handlesFilter = false →
      origin before e) : Traced origin j.log j'.log := by
  obtain ⟨new, hlog, hnew⟩ := h.log
  rw [hlog]
  refine Traced.of_at_event fun before e after hsplit => ?_
  exact horigin _ e (hnew e (by simp [hsplit]))

def Call.handlesCollection : Call → Bool
  | .createCollection .. => true
  | .openCollection .. => true
  | .closeCollection _ => true
  | _ => false

/-- Between the two journals neither filters nor collections are made, kept
or closed. -/
structure SparesObjects (j j' : Journal) : Prop where
  filters : j'.notes.filters = j.notes.filters
  collections : j'.notes.collections = j.notes.collections
  log : ∃ new, j'.log = j.log ++ new ∧ ∀ e ∈ new,
    e.call.handlesFilter = false ∧ e.call.handlesCollection = false

theorem SparesObjects.refl (j : Journal) : SparesObjects j j :=
  ⟨rfl, rfl, [], by simp, by simp⟩

theorem SparesObjects.trans {j₁ j₂ j₃ : Journal} (h : SparesObjects j₁ j₂)
    (h' : SparesObjects j₂ j₃) : SparesObjects j₁ j₃ := by
  obtain ⟨new, hlog, hnew⟩ := h.log
  obtain ⟨new', hlog', hnew'⟩ := h'.log
  refine ⟨h'.filters.trans h.filters, h'.collections.trans h.collections,
    new ++ new', ?_, ?_⟩
  · rw [hlog', hlog, List.append_assoc]
  · intro e he
    rcases List.mem_append.mp he with he | he
    · exact hnew e he
    · exact hnew' e he

theorem SparesObjects.sparesFilters {j j' : Journal}
    (h : SparesObjects j j') : SparesFilters j j' := by
  obtain ⟨new, hlog, hnew⟩ := h.log
  exact ⟨h.filters, new, hlog, fun e he => (hnew e he).1⟩

/-! ## Steps that spare filters and collections -/

def Quiet {α : Type} (m : JournalM α) : Prop := Within SparesObjects m

section

variable {α β : Type}

theorem Quiet.pure (a : α) : Quiet (pure a : JournalM α) :=
  Within.pure SparesObjects.refl a

theorem Quiet.bind {m : JournalM α} {f : α → JournalM β} (hm : Quiet m)
    (hf : ∀ a, Quiet (f a)) : Quiet (m >>= f) :=
  Within.bind (fun _ _ _ h h' => h.trans h') hm hf

theorem Quiet.ite {c : Prop} [Decidable c] {m m' : JournalM α}
    (hm : Quiet m) (hm' : Quiet m') : Quiet (if c then m else m') :=
  Within.ite hm hm'

theorem warn_quiet (message : String) : Quiet (warn message) := by
  intro j
  have hlog : (warn message j).2.log = j.log ++ [] := by
    simp [warn, note_run]
  exact ⟨rfl, rfl, [], hlog, by simp⟩

theorem record_quiet (step : String) (result : EspResult) :
    Quiet (record step result) := by
  intro j
  have hlog : (record step result j).2.log = j.log ++ [] := by
    simp [record, note_run]
  exact ⟨rfl, rfl, [], hlog, by simp⟩

theorem ask_quiet (env : Env) {call : Call}
    (h : call.handlesFilter = false) (h' : call.handlesCollection = false) :
    Quiet (ask env.respond call) := by
  intro j
  refine ⟨rfl, rfl, [⟨j.tag, call, env.respond j.log call⟩], rfl, ?_⟩
  intro e he
  rw [List.mem_singleton.mp he]
  exact ⟨h, h'⟩

theorem require_quiet (env : Env) (wanted : Export) :
    Quiet (require env wanted) := by
  refine .ite (.pure _) (.bind (warn_quiet _) fun _ => ?_)
  exact .pure _

theorem submitPending_quiet (env : Env) (client : Handle)
    (rejected : List Handle) (pending : Pending) :
    Quiet (submitPending env client rejected pending) := by
  refine .ite (.pure _) (.bind (require_quiet env _) fun _ => ?_)
  refine .ite (.pure _) (.bind (ask_quiet env rfl rfl) fun _ => ?_)
  exact .bind (record_quiet _ _) fun _ => .pure _

theorem closeRefused_quiet (env : Env) (canClose : Bool) (rule : Handle) :
    Quiet (closeRefused env canClose rule) :=
  .ite (.bind (ask_quiet env rfl rfl) fun _ => .pure _) (.pure _)

end

/-! ## Steps that spare the filters -/

def Spares {α : Type} (m : JournalM α) : Prop := Within SparesFilters m

section

variable {α β : Type}

theorem Spares.pure (a : α) : Spares (pure a : JournalM α) :=
  Within.pure SparesFilters.refl a

theorem Spares.bind {m : JournalM α} {f : α → JournalM β} (hm : Spares m)
    (hf : ∀ a, Spares (f a)) : Spares (m >>= f) :=
  Within.bind (fun _ _ _ h h' => h.trans h') hm hf

theorem Spares.ite {c : Prop} [Decidable c] {m m' : JournalM α}
    (hm : Spares m) (hm' : Spares m') : Spares (if c then m else m') :=
  Within.ite hm hm'

theorem Quiet.spares {m : JournalM α} (h : Quiet m) : Spares m :=
  fun j => (h j).sparesFilters

theorem record_spares (step : String) (result : EspResult) :
    Spares (record step result) :=
  (record_quiet step result).spares

theorem require_spares (env : Env) (wanted : Export) :
    Spares (require env wanted) :=
  (require_quiet env wanted).spares

theorem pushCollection_spares (collection : Handle) :
    Spares (pushCollection collection) := by
  intro j
  have hlog : (pushCollection collection j).2.log = j.log ++ [] := by
    simp [pushCollection, note_run]
  exact ⟨rfl, [], hlog, by simp⟩

theorem ask_spares (env : Env) {call : Call}
    (h : call.handlesFilter = false) : Spares (ask env.respond call) := by
  intro j
  refine ⟨rfl, [⟨j.tag, call, env.respond j.log call⟩], rfl, ?_⟩
  intro e he
  rw [List.mem_singleton.mp he]
  exact h

theorem adopt_spares (env : Env) (step : String) {call : Call}
    (h : call.handlesFilter = false) : Spares (adopt env step call) := by
  refine .bind (ask_spares env h) fun _ => ?_
  exact .bind (record_spares _ _) fun _ => .pure _

theorem createStringCollection_spares (env : Env) (client : Handle) (value : WString) :
    Spares (createStringCollection env client value) := by
  refine .bind (require_spares env _) fun hasCreate => ?_
  refine .bind (require_spares env _) fun hasUpdate => ?_
  refine .ite (.pure _) ?_
  refine .bind (adopt_spares env _ rfl) fun created => ?_
  cases created with
  | none => exact .pure _
  | some collection =>
      refine .bind (pushCollection_spares _) fun _ => .ite (.pure _) ?_
      exact .bind (ask_spares env rfl) fun reply =>
        .bind (record_spares _ _) fun _ => .pure _

theorem leafComparand_spares (env : Env) (ctx : FilterContext) (node : FilterNode)
    (property : ℕ) : Spares (leafComparand env ctx node property) := by
  refine .ite (.ite (.pure _) (.bind ?_ fun _ => .pure _)) ?_
  · exact .ite (.pure _)
      (.ite (.pure _) (createStringCollection_spares env _ _))
  · exact .ite (.pure _) (.ite (.pure _) (.ite (.pure _) (.pure _)))

theorem installEntries_spares (env : Env) (collection : Handle) (type : ℕ)
    (entries : List String) :
    Spares (installEntries env collection type entries) := by
  induction entries with
  | nil => exact .pure _
  | cons text rest ih =>
      refine .bind ?_ fun ok => .bind ih fun restOk => .pure _
      unfold installEntry
      split
      · exact .pure _
      · exact .bind (warn_quiet _).spares fun _ => .pure _
      · exact .bind (ask_spares env rfl) fun _ =>
          .bind (record_spares _ _) fun _ => .pure _

theorem openNamedCollection_spares (env : Env) (client : Handle) (id : Guid) :
    Spares (openNamedCollection env client id) := by
  refine .bind (require_spares env _) fun resolved => .ite (.pure _) ?_
  refine .bind (adopt_spares env _ rfl) fun opened => ?_
  cases opened with
  | none => exact .pure _
  | some collection =>
      exact .bind (pushCollection_spares _) fun _ => .pure _

theorem installCollection_spares (env : Env) (client : Handle) (spec : CollectionSpec) :
    Spares (installCollection env client spec) := by
  refine .ite (.ite ?_ ?_) ?_
  · exact .bind (warn_quiet _).spares fun _ => .pure _
  · exact .bind (openNamedCollection_spares env _ _) fun _ => .pure _
  · refine .bind (adopt_spares env _ rfl) fun created => ?_
    cases created with
    | none => exact .pure _
    | some collection =>
        exact .bind (pushCollection_spares _) fun _ =>
          .bind (installEntries_spares env _ _ _) fun _ => .pure _

theorem installCollections_spares (env : Env) (client : Handle)
    (specs : List CollectionSpec) :
    Spares (installCollections env client specs) := by
  induction specs with
  | nil => exact .pure _
  | cons spec rest ih =>
      exact .bind (installCollection_spares env _ _) fun _ =>
        .bind ih fun _ => .pure _

theorem documentCollections_spares (env : Env) (client : Handle)
    (document : RuleDocument) :
    Spares (documentCollections env client document) := by
  refine .bind (require_spares env _) fun _ => ?_
  refine .bind (require_spares env _) fun _ => ?_
  exact .ite (.pure _) (installCollections_spares env _ _)

end

/-- `CreateLeafFilter` builds the collection of its comparand at most, and
then refuses the leaf or ends with the constructor call. -/
theorem createLeafFilter_cases (env : Env) (ctx : FilterContext)
    (leaf : FilterNode) (j : Journal) :
    ∃ j' : Journal, SparesFilters j j' ∧
      Grows (fun call _ => call.buildsCollections = true) j j' ∧
      (createLeafFilter env ctx leaf j = ((kInvalidArg, 0), j') ∨
      leaf.type ≠ 0 ∧ ∃ sizeClass payload,
        let call := .createTypedFilter (constructorSelector leaf.type)
          (leafProperty leaf) sizeClass payload
        createLeafFilter env ctx leaf j =
          (((env.respond j'.log call).result, (env.respond j'.log call).out),
            (ask env.respond call j').2)) := by
  unfold createLeafFilter
  cases hname : typedFilterExportName (constructorSelector leaf.type) with
  | none => exact ⟨j, SparesFilters.refl j, Grows.refl j, .inl rfl⟩
  | some constructor =>
      have htype : leaf.type ≠ 0 := by
        intro htype
        rw [htype] at hname
        cases hname
      have hspares := require_spares env constructor j
      have hgrows : Grows (fun call _ => call.buildsCollections = true) j
          (require env constructor j).2 :=
        (require_scripted constructor).emits j
      simp only [bind_run]
      split
      · exact ⟨_, hspares, hgrows, .inl rfl⟩
      · split
        · exact ⟨_, hspares, hgrows, .inl rfl⟩
        · have hscript : CollectionScript env
              (leafComparand env ctx leaf (leafProperty leaf)) :=
            leafComparand_script leaf (leafProperty leaf)
          have hspares' := hspares.trans (leafComparand_spares env ctx leaf
            (leafProperty leaf) (require env constructor j).2)
          have hgrows' := hgrows.trans
            (hscript.emits (require env constructor j).2)
          rw [bind_run]
          cases (leafComparand env ctx leaf (leafProperty leaf)
            (require env constructor j).2).1 with
          | none => exact ⟨_, hspares', hgrows', .inl rfl⟩
          | some comparand =>
              exact ⟨_, hspares', hgrows',
                .inr ⟨htype, comparand.1, comparand.2, rfl⟩⟩

/-! ## The rule for whole installs -/

section

variable {env : Env} {document : RuleDocument}

/-- What a relation must satisfy to hold across an install: it is a preorder,
it holds wherever the filters are spared, and it holds where the filter of a
rule is built and where it is attached. -/
structure FilterSteps (env : Env) (document : RuleDocument)
    (R : Journal → Journal → Prop) : Prop where
  trans : ∀ {j₁ j₂ j₃}, R j₁ j₂ → R j₂ j₃ → R j₁ j₃
  spares : ∀ {j j'}, SparesFilters j j' → R j j'
  builds : ∀ (ctx : FilterContext) (i : ℕ) (spec : RuleSpec) (j : Journal),
    document.rules[i]? = some spec → j.tag = some i →
    R j (tryBuildRuleFilter env ctx spec j).2
  attaches : ∀ (ctx : FilterContext) (i : ℕ) (spec : RuleSpec)
    (descriptor : RuleDescriptor) (filter : Handle) (j : Journal),
    document.rules[i]? = some spec → j.tag = some i →
    R j (attachFilterToDescriptor env ctx descriptor spec filter j).2

/-- The same for a relation that the collections matter to: it is asked only
of the rules, whose filters are all built in one context. -/
structure BuildSteps (env : Env) (document : RuleDocument)
    (ctx : FilterContext) (R : Journal → Journal → Prop) : Prop where
  trans : ∀ {j₁ j₂ j₃}, R j₁ j₂ → R j₂ j₃ → R j₁ j₃
  quiet : ∀ {j j'}, SparesObjects j j' → R j j'
  builds : ∀ (i : ℕ) (spec : RuleSpec) (j : Journal),
    document.rules[i]? = some spec → j.tag = some i →
    R j (tryBuildRuleFilter env ctx spec j).2
  attaches : ∀ (i : ℕ) (spec : RuleSpec) (descriptor : RuleDescriptor)
    (filter : Handle) (j : Journal),
    document.rules[i]? = some spec → j.tag = some i →
    R j (attachFilterToDescriptor env ctx descriptor spec filter j).2

theorem FilterSteps.buildSteps {R : Journal → Journal → Prop}
    (h : FilterSteps env document R) (ctx : FilterContext) :
    BuildSteps env document ctx R := by
  have hquiet : ∀ {j j' : Journal}, SparesObjects j j' → R j j' :=
    fun hspares => h.spares hspares.sparesFilters
  exact ⟨h.trans, hquiet, h.builds ctx, h.attaches ctx⟩

theorem proceed_spares {s : Session} {gate : Bool × Session}
    {next : Session → Bool × Session}
    (hgate : SparesFilters s.journal gate.2.journal)
    (hnext : ∀ t, SparesFilters t.journal (next t).2.journal) :
    SparesFilters s.journal (proceed gate next).2.journal := by
  obtain ⟨ok, t⟩ := gate
  cases ok with
  | false => exact hgate
  | true => exact hgate.trans (hnext t)

theorem gate_quiet (refuses : Bool) (message : String) (s : Session) :
    SparesObjects s.journal (gate refuses message s).2.journal := by
  cases refuses with
  | true => exact warn_quiet message s.journal
  | false => exact SparesObjects.refl _

theorem collectionsGate_spares (env : Env) (document : RuleDocument)
    (s : Session) :
    SparesFilters s.journal (collectionsGate env document s).2.journal := by
  have hcollections := documentCollections_spares env
    s.clientHandle document s.journal
  unfold collectionsGate
  dsimp only
  split
  · exact hcollections.trans ((warn_quiet _).spares _)
  · exact hcollections

theorem installPrologue_spares (env : Env) (document : RuleDocument)
    (s : Session) :
    SparesFilters s.journal (installPrologue env document s).2.journal := by
  have hdocument := collectionsGate_spares env document
  refine proceed_spares (gate_quiet _ _ _).sparesFilters fun s => ?_
  refine proceed_spares (gate_quiet _ _ s).sparesFilters fun s => ?_
  refine proceed_spares (require_spares env .createRule s.journal)
    fun s => ?_
  refine proceed_spares (require_spares env .updateRules s.journal)
    fun s => ?_
  refine proceed_spares (hdocument s) fun s => ?_
  exact SparesFilters.refl s.journal

theorem ensureEnforceCompatPatch_quiet (env : Env) (s : Session) :
    SparesObjects s.journal (ensureEnforceCompatPatch env s).2.journal := by
  have hpatched : SparesObjects s.journal
      (s.run (ask env.respond .applyFromFfiCompatPatch)).2.journal :=
    ask_quiet env rfl rfl s.journal
  unfold ensureEnforceCompatPatch
  split
  · exact SparesObjects.refl _
  · exact hpatched.trans (record_quiet _ _ _)

theorem enforceModifyKind_quiet (env : Env) (spec : RuleSpec)
    (s : Session) :
    SparesObjects s.journal (enforceModifyKind env spec s).2.journal := by
  have hpatched := ensureEnforceCompatPatch_quiet env s
  unfold enforceModifyKind
  split
  · split
    · exact warn_quiet _ _
    · dsimp only
      split
      · exact hpatched.trans (warn_quiet _ _)
      · exact hpatched
  · split
    · exact warn_quiet _ _
    · exact SparesObjects.refl _

theorem describeRule_quiet (env : Env) (rulesBefore : ℕ) (st : BuildState)
    (spec : RuleSpec) (s : Session) :
    SparesObjects s.journal
      (describeRule env rulesBefore st spec s).2.journal := by
  have hgate := enforceModifyKind_quiet env spec s
  unfold describeRule
  dsimp only
  split
  · split
    · exact hgate
    · split
      · exact hgate.trans (warn_quiet _ _)
      · exact hgate
  · split
    · exact SparesObjects.refl _
    · split
      · exact SparesObjects.refl _
      · exact SparesObjects.refl _

theorem warnNotifySuppress_quiet (spec : RuleSpec) (s : Session) :
    SparesObjects s.journal (warnNotifySuppress spec s).journal := by
  unfold warnNotifySuppress
  split
  · exact warn_quiet _ _
  · exact SparesObjects.refl _

theorem atRule_quiet (s : Session) (tag : Option ℕ) :
    SparesObjects s.journal (s.atRule tag).journal :=
  ⟨rfl, rfl, [], by simp [Session.atRule], by simp⟩

theorem compactRules_quiet (rulesBefore : ℕ) (st : SubmitState) :
    SparesObjects st.session.journal
      (compactRules rulesBefore st).journal := by
  unfold compactRules
  split
  · exact SparesObjects.refl _
  · exact SparesObjects.refl _

theorem submitEntry_quiet (env : Env) (canClose : Bool) (rulesBefore : ℕ)
    (st : SubmitState) (pending : Pending × ℕ) :
    SparesObjects st.session.journal
      (submitEntry env canClose rulesBefore st pending).session.journal := by
  have hsubmitted := submitPending_quiet env
    st.session.clientHandle st.rejectedHandles pending.1
    (st.session.atRule (some pending.1.origin)).journal
  have htagged := atRule_quiet st.session (some pending.1.origin)
  unfold submitEntry
  dsimp only
  split
  · exact htagged.trans hsubmitted
  · exact (htagged.trans hsubmitted).trans (closeRefused_quiet env _ _ _)

theorem submitRules_quiet (env : Env) (rulesBefore : ℕ)
    (pending : List Pending) (s : Session) :
    SparesObjects s.journal
      (submitRules env rulesBefore pending s).session.journal := by
  have hrequire := require_quiet env .closeRule s.journal
  unfold submitRules
  dsimp only
  refine Loops.foldl_zipIdx_invariant
    (motive := fun _ (st : SubmitState) =>
      SparesObjects s.journal st.session.journal)
    hrequire ?_
  intro k st p _ hst
  exact hst.trans (submitEntry_quiet env _ rulesBefore st (p, k))

section

variable {ctx : FilterContext} {R : Journal → Journal → Prop}

theorem BuildSteps.createRule (h : BuildSteps env document ctx R)
    {st : BuildState} {i : ℕ} {spec : RuleSpec}
    (hspec : document.rules[i]? = some spec) {t : Session}
    (hctx : t.filterContext = ctx) (htag : t.journal.tag = some i)
    (filter : Handle) (descriptor : RuleDescriptor) (anchor : Handle) :
    R t.journal (createRule env st i spec filter descriptor anchor
      t).session.journal := by
  subst hctx
  have hattached := h.attaches i spec descriptor filter t.journal hspec htag
  let attached := attachRule env spec filter descriptor t
  have hcreated := h.quiet ((ask_quiet env rfl rfl).bind
    (fun reply => record_quiet ("EspCreateRule:" ++ spec.label) reply.result)
    attached.2.journal : SparesObjects _ (((ask env.respond
      (.createRule attached.1)) >>= fun reply =>
        record ("EspCreateRule:" ++ spec.label) reply.result)
      attached.2.journal).2)
  unfold Esp.createRule
  dsimp only
  split
  · exact h.trans hattached hcreated
  · exact h.trans hattached hcreated

theorem BuildSteps.buildRule (h : BuildSteps env document ctx R)
    (rulesBefore : ℕ) (st : BuildState) {i : ℕ} {spec : RuleSpec}
    (hctx : st.session.filterContext = ctx)
    (hspec : document.rules[i]? = some spec) :
    R st.session.journal
      (buildRule env rulesBefore st (spec, i)).session.journal := by
  subst hctx
  have htagged := h.quiet (atRule_quiet st.session (some i))
  have hfiltered : R st.session.journal
      (filterRule env st spec i).2.journal :=
    h.trans htagged (h.builds i spec _ hspec rfl)
  unfold Esp.buildRule
  dsimp only
  split
  · exact h.trans htagged (h.quiet (warn_quiet _ _))
  · split
    · exact hfiltered
    · rename_i filter _
      split
      · exact h.trans hfiltered (h.quiet (warn_quiet _ _))
      · have hdescribed := (warnNotifySuppress_quiet spec
          (filterRule env st spec i).2).trans
          (describeRule_quiet env rulesBefore st spec _)
        have hstate := h.trans hfiltered (h.quiet hdescribed)
        split
        · exact hstate
        · rename_i descriptor anchor hdescribe
          have hextends : Extends (Call.preparesRule spec)
              (st.session.atRule (some i)) (describeRule env rulesBefore st
                spec (warnNotifySuppress spec
                  (filterRule env st spec i).2)).2 :=
            ((filterRule_extends env st spec i).trans
              (warnNotifySuppress_extends spec _)).trans
              (describeRule_extends env rulesBefore st spec
                (fun hneeds => .inr ⟨rfl, hneeds⟩) _)
          exact h.trans hstate (h.createRule hspec hextends.filterContext
            hextends.grows.1 filter descriptor anchor)

theorem buildRule_filterContext (env : Env) (rulesBefore : ℕ)
    (st : BuildState) (spec : RuleSpec) (i : ℕ) :
    (buildRule env rulesBefore st (spec, i)).session.filterContext =
      st.session.filterContext := by
  rcases buildRule_cases env rulesBefore st spec i with
    ⟨t, heq, hextends⟩ | ⟨filter, descriptor, anchor, t, hreaches, heq⟩
  · rw [heq]
    exact hextends.filterContext
  · obtain ⟨u, hframe, -, houtcome⟩ :=
      createRule_cases env st i spec filter descriptor anchor t
    have hcontext : u.filterContext = st.session.filterContext := by
      rw [hframe]
      exact hreaches.extends_.filterContext
    rw [heq]
    rcases houtcome with ⟨_, hrefuse⟩ | ⟨rule, _, hcreate⟩
    · rw [hrefuse]
      exact hcontext
    · rw [hcreate]
      exact hcontext

/-- A relation that holds where rules touch filters holds from the prologue
to the end of the install. -/
theorem BuildSteps.installRules {s : Session}
    (h : BuildSteps env document
      (installPrologue env document (s.atRule none)).2.filterContext R) :
    R (installPrologue env document (s.atRule none)).2.journal
      (installRules env document s).2.journal := by
  let prologue := installPrologue env document (s.atRule none)
  have hbuilt : (buildRules env document prologue.2).session.filterContext =
      prologue.2.filterContext ∧ R prologue.2.journal
        (buildRules env document prologue.2).session.journal := by
    unfold buildRules
    refine Loops.foldl_zipIdx_invariant
      (motive := fun _ (st : BuildState) =>
        st.session.filterContext = prologue.2.filterContext ∧
          R prologue.2.journal st.session.journal)
      ⟨rfl, h.quiet (SparesObjects.refl _)⟩ ?_
    rintro k st spec hspec ⟨hctx, hst⟩
    exact ⟨(buildRule_filterContext env _ st spec k).trans hctx,
      h.trans hst (h.buildRule _ st hctx hspec)⟩
  rcases installRules_cases env document s with
    ⟨_, heq⟩ | ⟨_, _, heq⟩ | ⟨_, _, heq⟩
  · rw [heq]
    exact h.quiet (SparesObjects.refl _)
  · rw [heq]
    exact h.trans hbuilt.2 (h.quiet (atRule_quiet _ none))
  · rw [heq]
    refine h.trans hbuilt.2 (h.quiet ?_)
    exact (((atRule_quiet _ none).trans
      (submitRules_quiet env _ _ _)).trans
      (compactRules_quiet _ _)).trans (atRule_quiet _ none)

end

/-- A relation that holds where rules touch filters holds across the whole
install. -/
theorem FilterSteps.installRules {R : Journal → Journal → Prop}
    (h : FilterSteps env document R) (s : Session) :
    R s.journal (installRules env document s).2.journal := by
  have hprologue : SparesFilters s.journal
      (installPrologue env document (s.atRule none)).2.journal :=
    (atRule_quiet s none).sparesFilters.trans
      (installPrologue_spares env document (s.atRule none))
  exact h.trans (h.spares hprologue) (h.buildSteps _).installRules

end

end Esptool.Esp
