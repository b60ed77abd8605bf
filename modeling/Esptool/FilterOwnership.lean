import Esptool.HandleCustody
import Esptool.InstallJournal

/-!
# Who closes a filter

A filter handle is held by a local of the tree compiler until a combinator
takes it over, by `filters_` afterwards, and by nobody once it was closed.
Every step of an install is followed with the handles it is given and the
handles it answers for; what is left in `filters_` is closed by `Disconnect`.

A combinator whose export is missing returns before it takes its operands
over, and nobody holds them any more.  The trees of the results below have
their combinators resolved.
-/

namespace Esptool.Esp

open Model Interaction Custody

/-- The filter that a constructor call returned. -/
def createdFilter (e : Event) : Option Handle :=
  if e.call.createsFilter ∧ succeeded e.reply.result ∧ e.reply.out ≠ 0 then
    some e.reply.out
  else none

def closedFilterBy : Call → Option Handle
  | .closeFilter filter => if filter ≠ 0 then some filter else none
  | _ => none

def closedFilter (e : Event) : Option Handle := closedFilterBy e.call

def filterCustody : Custody Event Handle := ⟨createdFilter, closedFilter⟩

/-- A null handle is not held by anybody. -/
def heldHandle (handle : Handle) : Multiset Handle :=
  if handle ≠ 0 then {handle} else 0

/-- The handle of a constructor that did not fail. -/
def builtFilter (built : EspResult × Handle) : Multiset Handle :=
  if failed built.1 then 0 else heldHandle built.2

def storedFilters (notes : Notes) : Multiset Handle :=
  ↑(notes.filters.filter (· != 0))

abbrev FilterPasses {α : Type} (given : Multiset Handle) (m : JournalM α)
    (kept : α → Multiset Handle) : Prop :=
  Passes filterCustody storedFilters given m kept

/-- The exports of the combinators that the tree compiler reaches. -/
def combinatorsResolved (env : Env) : FilterNode → Bool
  | ⟨.leaf, _, _, _, _, _, _, _, _, _⟩ => true
  | ⟨.not, _, _, _, _, _, _, _, _, [operand]⟩ =>
      env.available .createNotFilter && combinatorsResolved env operand
  | ⟨.not, _, _, _, _, _, _, _, _, _⟩ => true
  | ⟨binary, _, _, _, _, _, _, _, _, first :: second :: _⟩ =>
      env.available (binaryFilterExport binary) &&
        (combinatorsResolved env first && combinatorsResolved env second)
  | _ => true

theorem combinatorsResolved_not {env : Env} {node operand : FilterNode}
    (hkind : node.kind = .not) (hchildren : node.children = [operand]) :
    combinatorsResolved env node =
      (env.available .createNotFilter &&
        combinatorsResolved env operand) := by
  cases node
  cases hkind
  cases hchildren
  simp only [combinatorsResolved]

theorem combinatorsResolved_binary {env : Env}
    {node first second : FilterNode} {rest : List FilterNode}
    (hkind : node.kind.isBinary = true)
    (hchildren : node.children = first :: second :: rest) :
    combinatorsResolved env node =
      (env.available (binaryFilterExport node.kind) &&
        (combinatorsResolved env first &&
          combinatorsResolved env second)) := by
  obtain ⟨kind, _, _, _, _, _, _, _, _, children⟩ := node
  cases hchildren
  cases kind with
  | leaf => cases hkind
  | not => cases hkind
  | and => simp only [combinatorsResolved]
  | or => simp only [combinatorsResolved]
  | xor => simp only [combinatorsResolved]

/-! ## Single calls -/

section

variable {env : Env}

theorem createdFilter_spared {e : Event}
    (h : e.call.handlesFilter = false) : createdFilter e = none := by
  have hcreates : e.call.createsFilter = false := by
    cases hcall : e.call <;> rw [hcall] at h <;> first | rfl | cases h
  simp [createdFilter, hcreates]

theorem closedFilter_spared {e : Event}
    (h : e.call.handlesFilter = false) : closedFilter e = none := by
  unfold closedFilter closedFilterBy
  split
  · rename_i filter hcall
    rw [hcall] at h
    cases h
  · rfl

theorem SparesFilters.holds {base : List Event} {held : Multiset Handle}
    {j j' : Journal} (h : SparesFilters j j')
    (hholds : filterCustody.Holds base j.log
      (held + storedFilters j.notes)) :
    filterCustody.Holds base j'.log (held + storedFilters j'.notes) := by
  obtain ⟨new, hlog, hnew⟩ := h.log
  have hstored : storedFilters j'.notes = storedFilters j.notes := by
    rw [storedFilters, h.filters]
    rfl
  rw [hlog, hstored]
  refine hholds.append_ignored ?_ ?_
  · exact List.filterMap_eq_nil_iff.mpr fun e he =>
      createdFilter_spared (hnew e he)
  · exact List.filterMap_eq_nil_iff.mpr fun e he =>
      closedFilter_spared (hnew e he)

theorem Spares.passes {α : Type} {m : JournalM α} (h : Spares m)
    (given : Multiset Handle) : FilterPasses given m fun _ => given := by
  intro base frame j hholds
  rw [← add_assoc] at hholds ⊢
  exact (h j).holds hholds

theorem construct_passes (env : Env) (call : Call)
    (h : call.createsFilter = true) :
    FilterPasses 0 (ask env.respond call : JournalM Reply)
      fun reply => builtFilter (reply.result, reply.out) := by
  intro base frame j hholds
  rw [ask_run]
  rw [zero_add] at hholds
  have hclosed (e : Event) (hcall : e.call = call) :
      closedFilter e = none := by
    unfold closedFilter closedFilterBy
    rw [hcall]
    cases call <;> first | rfl | cases h
  by_cases hbuilt : succeeded (env.respond j.log call).result = true ∧
      (env.respond j.log call).out ≠ 0
  · have hcreated : createdFilter ⟨j.tag, call, env.respond j.log call⟩ =
        some (env.respond j.log call).out :=
      if_pos ⟨h, hbuilt⟩
    have hkept : builtFilter ((env.respond j.log call).result,
        (env.respond j.log call).out) = {(env.respond j.log call).out} := by
      simp [builtFilter, heldHandle, failed_eq_not_succeeded, hbuilt.1,
        hbuilt.2]
    dsimp only
    rw [hkept]
    exact hholds.concat_open hcreated (hclosed _ rfl)
  · have hcreated : createdFilter ⟨j.tag, call, env.respond j.log call⟩ =
        none :=
      if_neg fun hall => hbuilt hall.2
    have hkept : builtFilter ((env.respond j.log call).result,
        (env.respond j.log call).out) = 0 := by
      by_cases hok : succeeded (env.respond j.log call).result = true
      · have hnull : (env.respond j.log call).out = 0 := by
          by_contra hne
          exact hbuilt ⟨hok, hne⟩
        simp [builtFilter, heldHandle, hnull]
      · simp [builtFilter, failed_eq_not_succeeded, hok]
    dsimp only
    rw [hkept, zero_add]
    exact hholds.concat_ignore hcreated (hclosed _ rfl)

theorem pushFilter_passes (filter : Handle) :
    FilterPasses (heldHandle filter) (pushFilter filter) fun _ => 0 := by
  intro base frame j hholds
  have hstored : storedFilters (pushFilter filter j).2.notes =
      heldHandle filter + storedFilters j.notes := by
    change storedFilters { j.notes with
      filters := j.notes.filters ++ [filter] } = _
    by_cases hzero : filter = 0
    · simp [storedFilters, heldHandle, hzero]
    · rw [storedFilters, storedFilters, heldHandle, if_pos hzero,
        List.filter_append, ← Multiset.coe_add, add_comm]
      simp [hzero]
  rw [hstored, zero_add, ← add_assoc, add_comm frame, add_assoc]
  exact hholds

theorem closeLeftOperand_passes (hclose : env.available .closeFilter = true)
    (left : Handle) :
    FilterPasses (heldHandle left) (closeLeftOperand env left)
      fun _ => 0 := by
  have hrun : closeLeftOperand env left =
      (ask env.respond (.closeFilter left) >>= fun _ => pure ()) := by
    rw [closeLeftOperand, require, if_pos hclose]
    rfl
  rw [hrun]
  intro base frame j hholds
  rw [bind_run, ask_run, pure_run, zero_add]
  dsimp only
  by_cases hzero : left = 0
  · have hclosed : closedFilterBy (.closeFilter left) = none :=
      if_neg (not_not.mpr hzero)
    rw [heldHandle, if_neg (not_not.mpr hzero), zero_add] at hholds
    exact hholds.concat_ignore rfl hclosed
  · have hclosed : closedFilterBy (.closeFilter left) = some left :=
      if_pos hzero
    rw [heldHandle, if_pos hzero] at hholds
    exact hholds.concat_close rfl hclosed

/-! ## Trees -/

theorem builtFilter_failed {built : EspResult × Handle}
    (h : failed built.1 = true) : builtFilter built = 0 :=
  if_pos h

theorem builtFilter_succeeded {built : EspResult × Handle}
    (h : ¬failed built.1 = true) :
    builtFilter built = heldHandle built.2 :=
  if_neg h

theorem createNotFilter_passes
    (hresolved : env.available .createNotFilter = true) (child : Handle) :
    FilterPasses (heldHandle child) (createNotFilter env child)
      builtFilter := by
  have hrun : createNotFilter env child = (do
      let reply ← ask env.respond (.createNotFilter child)
      pushFilter child
      return (reply.result, reply.out)) := by
    rw [createNotFilter, require, if_pos hresolved]
    rfl
  have hask := (construct_passes env (.createNotFilter child) rfl).frame
    (heldHandle child)
  rw [hrun]
  refine (hask.rename (zero_add _).symm fun reply => add_comm _ _).bind
    fun reply => ?_
  refine ((pushFilter_passes child).frame
    (builtFilter (reply.result, reply.out))).bind fun _ => ?_
  exact Passes.pure (zero_add _).symm

theorem createBinaryFilter_passes {kind : FilterKind}
    (hresolved : env.available (binaryFilterExport kind) = true)
    (left right : Handle) :
    FilterPasses (heldHandle left + heldHandle right)
      (createBinaryFilter env kind left right) builtFilter := by
  have hrun : createBinaryFilter env kind left right = (do
      let reply ← ask env.respond
        (.createBinaryFilter (binaryFilterExport kind) left right)
      pushFilter left
      pushFilter right
      return (reply.result, reply.out)) := by
    rw [createBinaryFilter, require, if_pos hresolved]
    rfl
  have hask := (construct_passes env (.createBinaryFilter
    (binaryFilterExport kind) left right) rfl).frame
    (heldHandle left + heldHandle right)
  rw [hrun]
  refine (hask.rename (zero_add _).symm fun reply =>
    add_comm (heldHandle left + heldHandle right) _).bind fun reply => ?_
  have hleft := (pushFilter_passes left).frame
    (heldHandle right + builtFilter (reply.result, reply.out))
  refine (hleft.rename (add_assoc _ _ _) fun _ => (zero_add _).symm).bind
    fun _ => ?_
  refine ((pushFilter_passes right).frame
    (builtFilter (reply.result, reply.out))).bind fun _ => ?_
  exact Passes.pure (zero_add _).symm

theorem createLeafFilter_passes (ctx : FilterContext) (leaf : FilterNode) :
    FilterPasses 0 (createLeafFilter env ctx leaf) builtFilter := by
  intro base frame j hholds
  obtain ⟨j', hspares, -, hrefused | ⟨-, sizeClass, payload, hrun⟩⟩ :=
    createLeafFilter_cases env ctx leaf j
  · rw [hrefused, builtFilter_failed failed_kInvalidArg]
    rw [← add_assoc] at hholds ⊢
    exact hspares.holds hholds
  · rw [← add_assoc] at hholds
    have hprepared := hspares.holds hholds
    rw [add_assoc] at hprepared
    rw [hrun]
    exact construct_passes env _ rfl base frame j' hprepared

theorem createFilterTree_passes (hclose : env.available .closeFilter = true)
    (ctx : FilterContext) (node : FilterNode)
    (hresolved : combinatorsResolved env node = true) :
    FilterPasses 0 (createFilterTree env ctx node) builtFilter := by
  induction node using FilterNode.compileInduction with
  | leaf node hkind =>
      rw [createFilterTree_leaf hkind]
      exact createLeafFilter_passes ctx node
  | not node operand hkind hchildren ih =>
      rw [combinatorsResolved_not hkind hchildren, Bool.and_eq_true]
        at hresolved
      rw [createFilterTree_not hkind hchildren]
      refine (ih hresolved.2).bind fun child => ?_
      refine .ite (fun hfailed => ?_) fun hbuilt => ?_
      · refine Passes.pure ?_
        rw [builtFilter_failed hfailed]
        exact builtFilter_failed hfailed
      · rw [builtFilter_succeeded hbuilt]
        exact createNotFilter_passes hresolved.1 child.2
  | notArity node hkind harity =>
      rw [createFilterTree_notArity hkind harity]
      exact Passes.pure (builtFilter_failed failed_kInvalidArg)
  | binary node first second rest hkind hchildren ihFirst ihSecond =>
      rw [combinatorsResolved_binary hkind hchildren, Bool.and_eq_true,
        Bool.and_eq_true] at hresolved
      obtain ⟨hexport, hfirst, hsecond⟩ := hresolved
      rw [createFilterTree_binary hkind hchildren]
      refine (ihFirst hfirst).bind fun left => ?_
      refine .ite (fun hfailed => ?_) fun hleft => ?_
      · refine Passes.pure ?_
        rw [builtFilter_failed hfailed]
        exact builtFilter_failed hfailed
      · -- the left operand is held by its local while the right one is built
        rw [builtFilter_succeeded hleft]
        have hright := (ihSecond hsecond).frame (heldHandle left.2)
        refine (hright.rename (zero_add _).symm fun _ => rfl).bind
          fun right => ?_
        refine .ite (fun hfailed => ?_) fun hbuilt => ?_
        · rw [builtFilter_failed hfailed, zero_add]
          refine (closeLeftOperand_passes hclose left.2).bind fun _ => ?_
          exact Passes.pure (builtFilter_failed hfailed)
        · rw [builtFilter_succeeded hbuilt, add_comm]
          exact createBinaryFilter_passes hexport left.2 right.2
  | binaryArity node hkind harity =>
      rw [createFilterTree_binaryArity hkind harity]
      exact Passes.pure (builtFilter_failed failed_kInvalidArg)

/-! ## Installs -/

theorem tryBuildRuleFilter_passes
    (hclose : env.available .closeFilter = true) (ctx : FilterContext)
    {spec : RuleSpec}
    (hresolved : combinatorsResolved env spec.filter = true) :
    FilterPasses 0 (tryBuildRuleFilter env ctx spec) fun _ => 0 := by
  refine .ite (fun _ => Passes.pure rfl) fun _ => ?_
  refine (createFilterTree_passes hclose ctx spec.filter hresolved).bind
    fun filter => ?_
  refine ((record_spares _ _).passes _).bind fun _ => ?_
  refine .ite (fun hfailed => ?_) fun hbuilt => ?_
  · exact Passes.pure (builtFilter_failed hfailed).symm
  · rw [builtFilter_succeeded hbuilt]
    refine .ite (fun _ => ?_) fun hnull => ?_
    · exact (pushFilter_passes filter.2).bind fun _ => Passes.pure rfl
    · exact Passes.pure (if_neg hnull).symm

theorem createImageFileFilter_passes (ctx : FilterContext)
    (node : FilterNode) :
    FilterPasses 0 (createImageFileFilter env ctx node) fun _ => 0 := by
  refine .ite (fun _ => ?_) fun _ => Passes.pure rfl
  refine (createLeafFilter_passes ctx (fileObjectLeaf node)).bind
    fun filter => ?_
  refine ((record_spares _ _).passes _).bind fun _ => ?_
  refine .ite (fun hbuilt => ?_) fun hdropped => ?_
  · have hkept : builtFilter filter = heldHandle filter.2 := by
      refine builtFilter_succeeded ?_
      rw [Bool.and_eq_true] at hbuilt
      rw [failed_eq_not_succeeded, hbuilt.1]
      simp
    rw [hkept]
    exact (pushFilter_passes filter.2).bind fun _ => Passes.pure rfl
  · refine Passes.pure ?_
    by_cases hok : succeeded filter.1 = true
    · have hnull : filter.2 = 0 := by
        simpa [hok] using hdropped
      simp [builtFilter, heldHandle, hnull]
    · simp [builtFilter, failed_eq_not_succeeded, hok]

theorem attachFilterToDescriptor_passes (ctx : FilterContext)
    (descriptor : RuleDescriptor) (spec : RuleSpec) (filter : Handle) :
    FilterPasses 0 (attachFilterToDescriptor env ctx descriptor spec filter)
      fun _ => 0 := by
  refine .ite (fun _ => .pure rfl) fun _ => .ite (fun _ => .pure rfl)
    fun _ => .ite (fun _ => ?_) fun _ => ?_
  · exact (createImageFileFilter_passes ctx spec.filter).bind
      fun _ => .pure rfl
  · exact .ite (fun _ => .pure rfl) fun _ => .ite (fun _ => .pure rfl)
      fun _ => .ite (fun _ => .pure rfl) fun _ => .ite (fun _ => .pure rfl)
      fun _ => .pure rfl

end

/-- Between the two journals, whatever was opened is closed or stored. -/
def KeepsCustody (j j' : Journal) : Prop :=
  ∀ base, filterCustody.Holds base j.log (storedFilters j.notes) →
    filterCustody.Holds base j'.log (storedFilters j'.notes)

theorem KeepsCustody.of_passes {α : Type} {m : JournalM α}
    (h : FilterPasses 0 m fun _ => 0) (j : Journal) :
    KeepsCustody j (m j).2 := by
  intro base hholds
  have hafter := h base 0 j (by simpa using hholds)
  simpa using hafter

theorem filterSteps_keepsCustody {env : Env} {document : RuleDocument}
    (hclose : env.available .closeFilter = true)
    (hresolved : ∀ spec ∈ document.rules,
      combinatorsResolved env spec.filter = true) :
    FilterSteps env document KeepsCustody := by
  constructor
  · intro first second third h h' base hholds
    exact h' base (h base hholds)
  · intro j j' hspares base hholds
    rw [← zero_add (storedFilters _)] at hholds ⊢
    exact hspares.holds hholds
  · intro ctx index spec j hspec _
    have hmem : spec ∈ document.rules := List.mem_of_getElem? hspec
    have hpasses := tryBuildRuleFilter_passes hclose ctx
      (hresolved spec hmem)
    exact KeepsCustody.of_passes hpasses j
  · intro ctx index spec descriptor filter j _ _
    apply KeepsCustody.of_passes
    exact attachFilterToDescriptor_passes ctx descriptor spec filter

theorem installAll_keepsCustody {env : Env} {documents : List RuleDocument}
    (hclose : env.available .closeFilter = true)
    (hresolved : ∀ document ∈ documents, ∀ spec ∈ document.rules,
      combinatorsResolved env spec.filter = true) (s : Session) :
    KeepsCustody s.journal (installAll env documents s).journal := by
  refine List.foldlRecOn
    (motive := fun t : Session => KeepsCustody s.journal t.journal)
    _ _ (fun _ hholds => hholds) ?_
  intro t ht document hdocument base hholds
  exact (filterSteps_keepsCustody hclose
    (hresolved document hdocument)).installRules t base (ht base hholds)

theorem filterCustody_eq : filterCustody = Owned.filter.custody := by
  have hopens : ∀ call, Owned.filter.opens call = call.createsFilter := by
    intro call
    cases call <;> rfl
  have hcloses : ∀ call, Owned.filter.closedBy call = closedFilterBy call := by
    intro call
    cases call <;> rfl
  unfold filterCustody Owned.custody
  congr 1
  · funext e
    simp only [createdFilter, Owned.returned, hopens]
  · funext e
    exact (hcloses e.call).symm

theorem disconnect_settles {env : Env} {s : Session}
    (hclose : env.available .closeFilter = true) {base : List Event}
    (hholds : filterCustody.Holds base s.log
      (storedFilters s.journal.notes)) :
    filterCustody.Holds base (disconnect env s).log 0 := by
  rw [filterCustody_eq] at hholds ⊢
  refine disconnect_settled hclose ?_
  rw [add_zero]
  exact hholds

/-- In every sequence of installs whose documents have their combinators
resolved, every filter that a constructor returns is closed exactly once by
the time `Disconnect` returns, and never before it was made. -/
theorem installAll_filters_closed {env : Env}
    {documents : List RuleDocument} {s : Session}
    (hclose : env.available .closeFilter = true)
    (hfilters : s.journal.notes.filters = [])
    (hresolved : ∀ document ∈ documents, ∀ spec ∈ document.rules,
      combinatorsResolved env spec.filter = true) :
    ∃ new, (disconnect env (installAll env documents s)).log =
        s.log ++ new ∧
      (∀ filter, filterCustody.closed new filter =
        filterCustody.opened new filter) ∧
      ∀ before, before <+: new → ∀ filter,
        filterCustody.closed before filter ≤
          filterCustody.opened before filter := by
  have hstart : filterCustody.Holds s.log s.journal.log
      (storedFilters s.journal.notes) := by
    rw [storedFilters, hfilters]
    exact Holds.refl s.log
  obtain ⟨new, hlog, hbalanced⟩ := disconnect_settles hclose
    (installAll_keepsCustody hclose hresolved s s.log hstart)
  exact ⟨new, hlog, fun filter => (hbalanced.settled filter).symm,
    hbalanced.sound⟩

def flagLeaf (value : String) : FilterNode :=
  { type := 1, propertyId := 1, value := value }

def pairedRules : RuleDocument :=
  { rules := [
      { eventType := 2000
        actionName := "deny"
        filter :=
          { kind := .and, children := [flagLeaf "1", flagLeaf "0"] } }] }

def idleSession : Session := { clientHandle := 7 }

theorem installAll_filters_closed_paired :
    let log := (disconnect acceptingEnv
      (installAll acceptingEnv [pairedRules] idleSession)).log
    log.filterMap createdFilter = [1, 2, 3] ∧
      ∀ filter, filterCustody.closed log filter =
        filterCustody.opened log filter := by
  intro log
  have hresolved : ∀ document ∈ [pairedRules], ∀ spec ∈ document.rules,
      combinatorsResolved acceptingEnv spec.filter = true := by
    decide
  obtain ⟨new, hlog, hclosed, -⟩ := installAll_filters_closed
    (s := idleSession) rfl rfl hresolved
  have hnew : log = new := hlog
  refine ⟨by decide, ?_⟩
  rw [hnew]
  exact hclosed

/-- A library without `EspCreateAndFilter`. -/
def andlessEnv : Env :=
  { acceptingEnv with
    available := fun wanted => wanted != .createAndFilter }

/-- Both operands are built, the combinator is missing, and nobody closes
them. -/
theorem installAll_leaks_operands :
    let log := (disconnect andlessEnv
      (installAll andlessEnv [pairedRules] idleSession)).log
    andlessEnv.available .closeFilter = true ∧
      log.filterMap createdFilter = [1, 2] ∧
      log.filterMap closedFilter = [] ∧
      ¬ ∀ filter, filterCustody.closed log filter =
        filterCustody.opened log filter := by
  intro log
  have hopened : filterCustody.opened log 1 = 1 ∧
      filterCustody.closed log 1 = 0 := by
    decide
  refine ⟨rfl, by decide, by decide +kernel, ?_⟩
  intro hall
  have hsame := hall 1
  rw [hopened.1, hopened.2] at hsame
  cases hsame

end Esptool.Esp
