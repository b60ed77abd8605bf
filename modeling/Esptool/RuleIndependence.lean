import Esptool.InstallLedger

/-!
# Rules of a document do not disturb each other

Against a library whose answers depend on the arguments alone, an iteration of
the build loop reads four things of the session: the filter context, the
queue, the opt-in and the outcome of the patch.  No iteration changes any of
them.  So the calls made for a rule are the same wherever it stands in a
document, and so is the verdict on it, unless it is chained to another rule.
-/

namespace Esptool.Esp

open Model Interaction

/-! ## What an iteration reads of the session -/

/-- The outcome of the patch: the cached one, or what the next attempt will
report. -/
def Session.patchOutcome (env : Env) (s : Session) : Bool :=
  if s.enforceCompatPatchAttempted then s.enforceCompatPatchOk
  else succeeded (env.respond [] .applyFromFfiCompatPatch).result

structure RuleView where
  context : FilterContext
  queue : Handle
  enforceCompat : Bool
  patched : Bool

def Session.view (env : Env) (s : Session) : RuleView where
  context := s.filterContext
  queue := s.queueHandle
  enforceCompat := s.enforceCompat
  patched := s.patchOutcome env

section

variable {env : Env}

theorem warn_view (s : Session) (message : String) :
    (s.warn message).view env = s.view env := rfl

theorem warnNotifySuppress_view (spec : RuleSpec) (s : Session) :
    (warnNotifySuppress spec s).view env = s.view env := by
  unfold warnNotifySuppress
  split
  · exact warn_view _ _
  · rfl

theorem ensureEnforceCompatPatch_view (hstateless : env.respond.Stateless)
    (s : Session) :
    (ensureEnforceCompatPatch env s).1 = s.patchOutcome env ∧
      (ensureEnforceCompatPatch env s).2.view env = s.view env := by
  have hreply := hstateless s.log [] .applyFromFfiCompatPatch
  unfold ensureEnforceCompatPatch Session.patchOutcome
  cases hattempted : s.enforceCompatPatchAttempted with
  | true => exact ⟨rfl, rfl⟩
  | false =>
      have houtcome : s.patchOutcome env =
          succeeded (env.respond [] .applyFromFfiCompatPatch).result := by
        rw [Session.patchOutcome, hattempted]
        rfl
      constructor
      · exact congrArg (fun reply => succeeded reply.result) hreply
      · rw [Session.view, Session.view, houtcome, ← hreply]
        rfl

def RuleView.modifyKind (view : RuleView) (spec : RuleSpec) : Option ℕ :=
  if isEnforceCompatEventType spec.eventType then
    if view.enforceCompat && view.patched then some kEventModifyKindFoCreate
    else none
  else if eventModifyKindForEvent spec.eventType = 0 then none
  else some (eventModifyKindForEvent spec.eventType)

theorem enforceModifyKind_view (hstateless : env.respond.Stateless)
    (spec : RuleSpec) (s : Session) :
    (enforceModifyKind env spec s).1 = (s.view env).modifyKind spec ∧
      (enforceModifyKind env spec s).2.view env = s.view env := by
  obtain ⟨hpatched, hview⟩ := ensureEnforceCompatPatch_view hstateless s
  unfold enforceModifyKind RuleView.modifyKind
  split
  · have hcompat : (s.view env).enforceCompat = s.enforceCompat := rfl
    have houtcome : (s.view env).patched = s.patchOutcome env := rfl
    rw [hcompat, houtcome]
    cases s.enforceCompat with
    | false => exact ⟨rfl, warn_view _ _⟩
    | true =>
        dsimp only
        rw [hpatched]
        cases s.patchOutcome env with
        | false => exact ⟨rfl, (warn_view _ _).trans hview⟩
        | true => exact ⟨rfl, hview⟩
  · split
    · exact ⟨rfl, warn_view _ _⟩
    · exact ⟨rfl, rfl⟩

def RuleView.describe (view : RuleView) (spec : RuleSpec) :
    Option (RuleDescriptor × Handle) :=
  if resolvedSelector spec = kActionRewrite then
    match view.modifyKind spec with
    | none => none
    | some kind =>
        if !supportsEnforcePayload spec.eventType then none
        else some (enforceDescriptor spec kind (baseDescriptor spec), 0)
  else if resolvedSelector spec = kActionQueueBacked then
    some ({ baseDescriptor spec with eventQueue := view.queue }, 0)
  else some (baseDescriptor spec, 0)

theorem describeRule_view (hstateless : env.respond.Stateless)
    {spec : RuleSpec}
    (hplain : resolvedSelector spec ≠ kActionMatchSubrules)
    (rulesBefore : ℕ) (st : BuildState) (s : Session) :
    (describeRule env rulesBefore st spec s).1 =
        (s.view env).describe spec ∧
      (describeRule env rulesBefore st spec s).2.view env =
        s.view env := by
  obtain ⟨hkind, hview⟩ := enforceModifyKind_view hstateless spec s
  unfold describeRule RuleView.describe
  dsimp only
  split
  · rw [hkind]
    cases (s.view env).modifyKind spec with
    | none => exact ⟨rfl, hview⟩
    | some kind =>
        dsimp only
        split
        · exact ⟨rfl, (warn_view _ _).trans hview⟩
        · exact ⟨rfl, hview⟩
  · split
    · exact ⟨rfl, rfl⟩
    · exact ⟨rfl, rfl⟩

/-! ## The calls of one iteration -/

def Call.describesRule : Call → Bool
  | .createRule _ => true
  | call => call.buildsObjects

/-- The filter and descriptor calls among some events, with the replies. -/
def transcript (events : List Event) : List (Call × Reply) :=
  (events.filter fun e => e.call.describesRule).map fun e =>
    (e.call, e.reply)

theorem transcript_append (before after : List Event) :
    transcript (before ++ after) = transcript before ++ transcript after := by
  rw [transcript, List.filter_append, List.map_append]
  rfl

theorem transcript_eq_nil {events : List Event}
    (h : ∀ e ∈ events, e.call.describesRule = false) :
    transcript events = [] := by
  have hnone : events.filter (fun e => e.call.describesRule) = [] :=
    List.filter_eq_nil_iff.mpr fun e he => by simp [h e he]
  rw [transcript, hnone]
  rfl

theorem describesRule_of_buildsObjects {call : Call}
    (h : call.buildsObjects = true) : call.describesRule = true := by
  cases call <;> first | rfl | cases h

theorem run_uniform {α : Type} (hstateless : env.respond.Stateless)
    {m : JournalM α} (hm : BuildScript env m) :
    ∃ (a : α) (calls : List (Call × Reply)), ∀ s : Session,
      (s.run m).1 = a ∧
      ∃ new, (s.run m).2.log = s.log ++ new ∧ transcript new = calls := by
  obtain ⟨a, calls, huniform⟩ := hm.uniform hstateless
  refine ⟨a, calls, fun s => ?_⟩
  obtain ⟨hvalue, _, hlog⟩ := huniform s.journal
  refine ⟨hvalue, _, hlog, ?_⟩
  obtain ⟨_, new, hnew, hall⟩ := hm.emits s.journal
  have hevents : new = calls.map fun c => ⟨s.journal.tag, c.1, c.2⟩ :=
    List.append_cancel_left (hnew.symm.trans hlog)
  rw [hevents] at hall
  rw [transcript, List.filter_eq_self.mpr fun e he =>
    describesRule_of_buildsObjects (hall e he).2, List.map_map]
  exact List.map_id calls

theorem describeRule_log (env : Env) (rulesBefore : ℕ) (st : BuildState)
    (spec : RuleSpec) (s : Session) :
    ∃ new, (describeRule env rulesBefore st spec s).2.log = s.log ++ new ∧
      transcript new = [] := by
  obtain ⟨new, hlog, _, hnew⟩ := (describeRule_extends env rulesBefore st
    spec (P := (· = .applyFromFfiCompatPatch)) (fun _ => rfl) s).new
  refine ⟨new, hlog, transcript_eq_nil fun e he => ?_⟩
  rw [(hnew e he).2]
  rfl

theorem createRule_log (env : Env) (st : BuildState) (index : ℕ) (spec : RuleSpec)
    (filter : Handle) (descriptor : RuleDescriptor) (anchor : Handle)
    (t : Session) :
    (createRule env st index spec filter descriptor anchor t).session.log =
        (attachRule env spec filter descriptor t).2.log ++
          [createEvent env spec filter descriptor t] ∧
      (createRule env st index spec filter descriptor anchor
        t).session.view env = t.view env := by
  obtain ⟨u, hframe, hlog, ⟨_, heq⟩ | ⟨rule, _, heq⟩⟩ :=
    createRule_cases env st index spec filter descriptor anchor t
  · rw [heq]
    refine ⟨hlog, ?_⟩
    rw [BuildState.refuse, hframe]
    rfl
  · rw [heq]
    refine ⟨hlog, ?_⟩
    rw [hframe]
    rfl

theorem filterRule_uniform (hstateless : env.respond.Stateless)
    (spec : RuleSpec) (view : RuleView) :
    ∃ filtered calls, ∀ st index, st.session.view env = view →
      (filterRule env st spec index).1 = filtered ∧
      (filterRule env st spec index).2.view env = view ∧
      ∃ new, (filterRule env st spec index).2.log =
          st.session.log ++ new ∧ transcript new = calls := by
  have hscript : BuildScript env
      (tryBuildRuleFilter env view.context spec) :=
    tryBuildRuleFilter_script spec
  obtain ⟨filtered, calls, huniform⟩ := run_uniform hstateless hscript
  refine ⟨filtered, calls, fun st index hview => ?_⟩
  have hcontext : (st.session.atRule (some index)).filterContext =
      view.context := congrArg RuleView.context hview
  obtain ⟨hvalue, hlog⟩ := huniform (st.session.atRule (some index))
  unfold filterRule
  dsimp only
  rw [hcontext]
  exact ⟨hvalue, hview, hlog⟩

theorem createRule_uniform (hstateless : env.respond.Stateless)
    (spec : RuleSpec) (filter : Handle) (descriptor : RuleDescriptor)
    (view : RuleView) :
    ∃ calls, ∀ st index anchor (t : Session), t.view env = view →
      (createRule env st index spec filter descriptor anchor
        t).session.view env = view ∧
      ∃ new, (createRule env st index spec filter descriptor anchor
        t).session.log = t.log ++ new ∧ transcript new = calls := by
  have hscript : BuildScript env (attachFilterToDescriptor env view.context
      descriptor spec filter) :=
    attachFilterToDescriptor_script descriptor spec filter
  obtain ⟨attached, calls, huniform⟩ := run_uniform hstateless hscript
  refine ⟨calls ++ [(.createRule attached,
    env.respond [] (.createRule attached))], fun st index anchor t hview => ?_⟩
  have hcontext : t.filterContext = view.context :=
    congrArg RuleView.context hview
  obtain ⟨hvalue, new, hlog, hnew⟩ := huniform t
  rw [← hcontext] at hvalue hlog
  obtain ⟨hcreated, hafter⟩ := createRule_log env st index spec
    filter descriptor anchor t
  refine ⟨hafter.trans hview,
    new ++ [createEvent env spec filter descriptor t], ?_, ?_⟩
  · rw [hcreated, ← List.append_assoc, ← hlog]
    rfl
  · have hevent : transcript [createEvent env spec filter descriptor t] =
        [(.createRule attached, env.respond [] (.createRule attached))] := by
      rw [← hvalue, ← hstateless (attachRule env spec filter descriptor
        t).2.log []]
      rfl
    rw [transcript_append, hnew, hevent]

theorem describedRule_uniform (hstateless : env.respond.Stateless)
    {spec : RuleSpec}
    (hplain : resolvedSelector spec ≠ kActionMatchSubrules)
    (rulesBefore : ℕ) (st : BuildState) (index : ℕ) {view : RuleView}
    {calls : List (Call × Reply)}
    (hfiltered : (filterRule env st spec index).2.view env = view ∧
      ∃ new, (filterRule env st spec index).2.log =
        st.session.log ++ new ∧ transcript new = calls) :
    let described := describeRule env rulesBefore st spec
      (warnNotifySuppress spec (filterRule env st spec index).2)
    described.1 = view.describe spec ∧ described.2.view env = view ∧
      ∃ new, described.2.log = st.session.log ++ new ∧
        transcript new = calls := by
  intro described
  obtain ⟨hview, new, hlog, hnew⟩ := hfiltered
  have hwarned : (warnNotifySuppress spec
      (filterRule env st spec index).2).view env = view :=
    (warnNotifySuppress_view spec _).trans hview
  obtain ⟨hvalue, hafter⟩ := describeRule_view hstateless hplain rulesBefore
    st (warnNotifySuppress spec (filterRule env st spec index).2)
  obtain ⟨patches, hpatches, hquiet⟩ := describeRule_log env rulesBefore st
    spec (warnNotifySuppress spec (filterRule env st spec index).2)
  refine ⟨hvalue.trans (congrArg (·.describe spec) hwarned),
    hafter.trans hwarned, new ++ patches, ?_, ?_⟩
  · rw [hpatches, warnNotifySuppress_log, hlog, List.append_assoc]
  · rw [transcript_append, hnew, hquiet, List.append_nil]

theorem buildRule_uniform (hstateless : env.respond.Stateless)
    {spec : RuleSpec}
    (hplain : resolvedSelector spec ≠ kActionMatchSubrules)
    (view : RuleView) :
    ∃ calls, ∀ rulesBefore st index, st.session.view env = view →
      (buildRule env rulesBefore st (spec, index)).session.view env = view ∧
      ∃ new, (buildRule env rulesBefore st (spec, index)).session.log =
          st.session.log ++ new ∧ transcript new = calls := by
  obtain ⟨filtered, filterCalls, hfiltered⟩ :=
    filterRule_uniform hstateless spec view
  by_cases htype : spec.eventType = 0
  · refine ⟨[], fun rulesBefore st index hview => ?_⟩
    unfold buildRule
    rw [if_pos htype]
    exact ⟨hview, [], (List.append_nil _).symm, rfl⟩
  · cases filtered with
    | none =>
        refine ⟨filterCalls, fun rulesBefore st index hview => ?_⟩
        obtain ⟨hnone, hafter, hlog⟩ := hfiltered st index hview
        unfold buildRule
        dsimp only
        rw [if_neg htype, hnone]
        exact ⟨hafter, hlog⟩
    | some filter =>
        by_cases hconflict : selectorConflict spec = true
        · refine ⟨filterCalls, fun rulesBefore st index hview => ?_⟩
          obtain ⟨hsome, hafter, hlog⟩ := hfiltered st index hview
          unfold buildRule
          dsimp only
          rw [if_neg htype, hsome]
          dsimp only
          rw [if_pos hconflict]
          exact ⟨hafter, hlog⟩
        · have hdescribed (rulesBefore : ℕ) (st : BuildState) (index : ℕ)
              (hview : st.session.view env = view) :=
            describedRule_uniform hstateless hplain rulesBefore st index
              (hfiltered st index hview).2
          cases hdescribe : view.describe spec with
          | none =>
              refine ⟨filterCalls, fun rulesBefore st index hview => ?_⟩
              obtain ⟨hnone, hafter, hlog⟩ :=
                hdescribed rulesBefore st index hview
              unfold buildRule
              dsimp only
              rw [if_neg htype, (hfiltered st index hview).1]
              dsimp only
              rw [if_neg hconflict, hnone, hdescribe]
              exact ⟨hafter, hlog⟩
          | some described =>
              obtain ⟨createCalls, hcreate⟩ := createRule_uniform hstateless
                spec filter described.1 view
              refine ⟨filterCalls ++ createCalls,
                fun rulesBefore st index hview => ?_⟩
              obtain ⟨hsome, hafter, new, hlog, hnew⟩ :=
                hdescribed rulesBefore st index hview
              unfold buildRule
              dsimp only
              rw [if_neg htype, (hfiltered st index hview).1]
              dsimp only
              rw [if_neg hconflict, hsome, hdescribe]
              obtain ⟨hcreated, created, hlogCreated, hnewCreated⟩ :=
                hcreate st index described.2 _ hafter
              refine ⟨hcreated, new ++ created, ?_, ?_⟩
              · rw [hlogCreated, hlog, List.append_assoc]
              · rw [transcript_append, hnew, hnewCreated]

theorem buildRule_anchors {spec : RuleSpec}
    (hplain : resolvedSelector spec ≠ kActionMatchSubrules)
    (rulesBefore : ℕ) {st : BuildState} (index : ℕ)
    (h : ∀ anchor ∈ st.subruleAnchors, anchor = 0) :
    ∀ anchor ∈ (buildRule env rulesBefore st (spec, index)).subruleAnchors,
      anchor = 0 := by
  rcases buildRule_cases env rulesBefore st spec index with
    ⟨t, heq, _⟩ | ⟨filter, descriptor, anchor, t, hreaches, heq⟩
  · rw [heq]
    exact h
  · have hanchor : anchor = 0 := by
      rcases describeRule_cases hreaches.described with
        ⟨_, _, _, _, _, hzero⟩ | ⟨hchained, _⟩ | ⟨_, _, _, hzero, _⟩
      · exact hzero
      · exact absurd hchained hplain
      · exact hzero
    obtain ⟨u, _, _, ⟨_, hcreate⟩ | ⟨rule, _, hcreate⟩⟩ :=
      createRule_cases env st index spec filter descriptor anchor t
    · rw [heq, hcreate]
      exact h
    · rw [heq, hcreate]
      intro a ha
      rcases List.mem_append.mp ha with ha | ha
      · exact h a ha
      · rw [List.mem_singleton.mp ha]
        exact hanchor

/-! ## The build loop -/

def filedAt (i : ℕ) (events : List Event) : List Event :=
  events.filter fun e => e.tag == some i

theorem filedAt_append (i : ℕ) (before after : List Event) :
    filedAt i (before ++ after) = filedAt i before ++ filedAt i after :=
  List.filter_append _ _

theorem filedAt_eq_self {i : ℕ} {events : List Event}
    (h : ∀ e ∈ events, e.tag = some i) : filedAt i events = events := by
  refine List.filter_eq_self.mpr fun e he => ?_
  have htag := h e he
  simp [htag]

theorem filedAt_eq_nil {i : ℕ} {events : List Event}
    (h : ∀ e ∈ events, e.tag ≠ some i) : filedAt i events = [] := by
  refine List.filter_eq_nil_iff.mpr fun e he => ?_
  have htag := h e he
  simp [htag]

/-- An iteration for `spec` that starts from the view makes these calls. -/
def MakesCalls (env : Env) (view : RuleView) (spec : RuleSpec)
    (calls : List (Call × Reply)) : Prop :=
  ∀ rulesBefore st index, st.session.view env = view →
    (buildRule env rulesBefore st (spec, index)).session.view env = view ∧
    ∃ new, (buildRule env rulesBefore st (spec, index)).session.log =
        st.session.log ++ new ∧ transcript new = calls

/-- After `k` iterations from `p` no rule is anchored, the view is that of
`p`, and rule `i` has made its calls once its turn is over. -/
structure Undisturbed (env : Env) (p : Session) (i : ℕ)
    (calls : List (Call × Reply)) (k : ℕ) (st : BuildState) : Prop where
  anchors : ∀ anchor ∈ st.subruleAnchors, anchor = 0
  view : st.session.view env = p.view env
  filed : ∃ new, st.session.log = p.log ++ new ∧
    (∀ e ∈ new, ∃ j < k, e.tag = some j) ∧
    (i < k → transcript (filedAt i new) = calls)

theorem Undisturbed.step (hstateless : env.respond.Stateless) {p : Session}
    {i k : ℕ} {calls : List (Call × Reply)} {st : BuildState}
    {spec : RuleSpec} (h : Undisturbed env p i calls k st)
    (hplain : resolvedSelector spec ≠ kActionMatchSubrules)
    (hcalls : i = k → MakesCalls env (p.view env) spec calls)
    (rulesBefore : ℕ) :
    Undisturbed env p i calls (k + 1)
      (buildRule env rulesBefore st (spec, k)) := by
  obtain ⟨new, hlog, htags, hnew⟩ := h.filed
  obtain ⟨_, hmakes⟩ := buildRule_uniform hstateless hplain (p.view env)
  obtain ⟨hview, _⟩ := hmakes rulesBefore st k h.view
  obtain ⟨added, made, hstep⟩ := buildRule_step env rulesBefore st spec k
  refine ⟨buildRule_anchors hplain _ _ h.anchors, hview, new ++ added,
    ?_, ?_, ?_⟩
  · rw [hstep.log, hlog, List.append_assoc]
  · intro e he
    rcases List.mem_append.mp he with he | he
    · obtain ⟨j, hj, htag⟩ := htags e he
      exact ⟨j, Nat.lt_succ_of_lt hj, htag⟩
    · exact ⟨k, Nat.lt_succ_self k, hstep.tagged e he⟩
  · intro hi
    rw [filedAt_append]
    by_cases hik : i = k
    · -- the iteration for the rule itself
      subst hik
      obtain ⟨_, own, hown, hownCalls⟩ := hcalls rfl rulesBefore st i h.view
      have hsame : added = own :=
        List.append_cancel_left (hstep.log.symm.trans hown)
      have hbefore : filedAt i new = [] := by
        refine filedAt_eq_nil fun e he htag => ?_
        obtain ⟨j, hj, hej⟩ := htags e he
        rw [htag] at hej
        cases hej
        exact Nat.lt_irrefl i hj
      rw [hbefore, List.nil_append, filedAt_eq_self hstep.tagged, hsame,
        hownCalls]
    · have hadded : filedAt i added = [] := by
        refine filedAt_eq_nil fun e he htag => ?_
        rw [hstep.tagged e he] at htag
        cases htag
        exact hik rfl
      rw [hadded, List.append_nil]
      exact hnew (by omega)

theorem buildRules_calls (hstateless : env.respond.Stateless)
    {document : RuleDocument}
    (hplain : ∀ spec ∈ document.rules,
      resolvedSelector spec ≠ kActionMatchSubrules)
    {i : ℕ} {spec : RuleSpec} (hspec : document.rules[i]? = some spec)
    (p : Session) {calls : List (Call × Reply)}
    (hcalls : MakesCalls env (p.view env) spec calls) :
    Undisturbed env p i calls document.rules.length
      (buildRules env document p) := by
  unfold buildRules
  refine Loops.foldl_zipIdx_invariant
    (motive := Undisturbed env p i calls) ?_ ?_
  · exact ⟨by simp, rfl, [], (List.append_nil _).symm, by simp, by simp⟩
  · intro k st other hother h
    refine h.step hstateless (hplain other (List.mem_of_getElem? hother)) ?_ _
    rintro rfl
    rw [hspec] at hother
    cases hother
    exact hcalls

/-! ## The submit loop -/

/-- The answer of the library to the submission of a rule on its own. -/
def Armed (env : Env) (client rule : Handle) : Prop :=
  succeeded (env.respond []
    (.updateRules client [{ rule := rule }])).result = true

theorem submitEntry_verdict (hstateless : env.respond.Stateless)
    (havailable : env.available .updateRules = true) {canClose : Bool}
    {rulesBefore index : ℕ} {st : SubmitState} {p : Pending}
    (hanchor : p.anchor = 0) {tried closing : List Event} {ok : Bool}
    (hstep : SubmitStep canClose (rulesBefore + index) p st
      (submitEntry env canClose rulesBefore st (p, index))
      tried closing ok) :
    ok = succeeded (env.respond []
      (.updateRules st.session.clientHandle [p.entry])).result := by
  let s := st.session.atRule (some p.origin)
  have hsubmitted : (s.run
      (submitPending env s.clientHandle st.rejectedHandles p)).1 =
        succeeded (env.respond []
          (.updateRules st.session.clientHandle [p.entry])).result := by
    rw [← hstateless s.journal.log []]
    simp only [Session.run, submitPending, hanchor, bne_self_eq_false,
      Bool.false_and, Bool.false_eq_true, if_false]
    rw [submitRuleBatch_of_available havailable]
    rfl
  have hcommitted := hstep.committed
  unfold submitEntry at hcommitted
  dsimp only at hcommitted
  rw [hsubmitted] at hcommitted
  -- the counter of committed rules tells the verdict
  cases hok : succeeded (env.respond []
      (.updateRules st.session.clientHandle [p.entry])).result with
  | true =>
      rw [hok] at hcommitted
      cases ok with
      | true => rfl
      | false => simp at hcommitted
  | false =>
      rw [hok] at hcommitted
      cases ok with
      | true => simp at hcommitted
      | false => rfl

theorem submitRules_verdicts (hstateless : env.respond.Stateless)
    (havailable : env.available .updateRules = true) (old : List Handle)
    (made : List Pending) (s : Session)
    (hrules : s.rules = old ++ made.map Pending.rule)
    (hnonzero : ∀ p ∈ made, p.rule ≠ 0)
    (hanchors : ∀ p ∈ made, p.anchor = 0)
    (hentries : ∀ p ∈ made, p.entry = { rule := p.rule }) :
    ∃ new judged, Submitted (env.available .closeRule)
      (s.run (require env .closeRule)).2 old made made.length
      (submitRules env old.length made s) new judged ∧
      ∀ v ∈ judged, v.2 = true ↔ Armed env s.clientHandle v.1.rule := by
  unfold submitRules
  dsimp only
  rw [require_run_fst]
  refine Loops.foldl_zipIdx_invariant
    (motive := fun m st => ∃ new judged,
      Submitted (env.available .closeRule)
        (s.run (require env .closeRule)).2 old made m st new judged ∧
      ∀ v ∈ judged, v.2 = true ↔ Armed env s.clientHandle v.1.rule)
    ⟨[], [], Submitted.init _ _ old made hrules, by simp⟩ ?_
  rintro m st p hp ⟨new, judged, hsubmitted, hverdicts⟩
  have hmem := List.mem_of_getElem? hp
  obtain ⟨tried, closing, ok, hstep⟩ :=
    submitEntry_step env (env.available .closeRule) old.length st p m
  refine ⟨_, _, hsubmitted.step hp (hnonzero p hmem) hstep, ?_⟩
  intro v hv
  rcases List.mem_append.mp hv with hv | hv
  · exact hverdicts v hv
  · rw [List.mem_singleton.mp hv]
    have hclient : st.session.clientHandle = s.clientHandle :=
      hsubmitted.client
    rw [submitEntry_verdict hstateless havailable (hanchors p hmem) hstep,
      hclient, hentries p hmem]
    rfl

/-! ## The whole install -/

def createdBy (c : Call × Reply) : Option Handle :=
  createdRule ⟨none, c.1, c.2⟩

theorem createdFor_iff_transcript {new : List Event} {i : ℕ}
    {rule : Handle} :
    CreatedFor new i rule ↔
      ∃ c ∈ transcript (filedAt i new), createdBy c = some rule := by
  constructor
  · rintro ⟨e, he, htag, hcreated⟩
    refine ⟨(e.call, e.reply), ?_, hcreated⟩
    have hdescribes : e.call.describesRule = true := by
      unfold createdRule at hcreated
      split at hcreated
      · rename_i hcall
        rw [hcall]
        rfl
      · cases hcreated
    refine List.mem_map.mpr ⟨e, List.mem_filter.mpr ⟨?_, hdescribes⟩, rfl⟩
    exact List.mem_filter.mpr ⟨he, by simp [htag]⟩
  · rintro ⟨c, hc, hcreated⟩
    obtain ⟨e, he, rfl⟩ := List.mem_map.mp hc
    obtain ⟨hfiled, _⟩ := List.mem_filter.mp he
    obtain ⟨he, htag⟩ := List.mem_filter.mp hfiled
    exact ⟨e, he, by simpa using htag, hcreated⟩

theorem acceptedFor_append {before after : List Event} {i : ℕ}
    {rule : Handle} (h : ∀ e ∈ before, acceptedRule e = none) :
    AcceptedFor (before ++ after) i rule ↔ AcceptedFor after i rule := by
  constructor
  · rintro ⟨e, he, htag, hrule⟩
    rcases List.mem_append.mp he with he | he
    · rw [h e he] at hrule
      cases hrule
    · exact ⟨e, he, htag, hrule⟩
  · rintro ⟨e, he, htag, hrule⟩
    exact ⟨e, List.mem_append_right _ he, htag, hrule⟩

theorem Submitted.acceptedFor_iff {canClose : Bool} {s : Session}
    {old : List Handle} {made : List Pending} {st : SubmitState}
    {new : List Event} {judged : List Judged}
    (h : Submitted canClose s old made made.length st new judged)
    {client : Handle}
    (hverdicts : ∀ v ∈ judged, v.2 = true ↔ Armed env client v.1.rule)
    {i : ℕ} {rule : Handle} :
    AcceptedFor new i rule ↔
      (∃ p ∈ made, p.origin = i ∧ p.rule = rule) ∧
        Armed env client rule := by
  have hmade : judged.map Prod.fst = made := by
    rw [h.judges, List.take_length]
  unfold AcceptedFor
  rw [← mem_filedUnder, h.accepted, List.mem_map]
  constructor
  · rintro ⟨v, hv, hfiled⟩
    obtain ⟨hv, harmed⟩ := List.mem_filter.mp hv
    cases hfiled
    refine ⟨⟨v.1, ?_, rfl, rfl⟩, (hverdicts v hv).mp harmed⟩
    rw [← hmade]
    exact List.mem_map_of_mem hv
  · rintro ⟨⟨p, hp, rfl, rfl⟩, harmed⟩
    rw [← hmade] at hp
    obtain ⟨v, hv, rfl⟩ := List.mem_map.mp hp
    exact ⟨v, List.mem_filter.mpr ⟨hv, (hverdicts v hv).mpr harmed⟩, rfl⟩

theorem Submitted.transcript_eq_nil {canClose : Bool} {s : Session}
    {old : List Handle} {made : List Pending} {m : ℕ} {st : SubmitState}
    {new : List Event} {judged : List Judged}
    (h : Submitted canClose s old made m st new judged) (i : ℕ) :
    transcript (filedAt i new) = [] := by
  refine Esp.transcript_eq_nil fun e he => ?_
  rcases h.calls e (List.mem_filter.mp he).1 with
    ⟨p, _, _, hcall⟩ | ⟨_, rule, hcall⟩
  · rw [hcall]
    rfl
  · rw [hcall]
    rfl

theorem installRules_solo (hstateless : env.respond.Stateless)
    {document : RuleDocument} {s : Session}
    (hplain : ∀ spec ∈ document.rules,
      resolvedSelector spec ≠ kActionMatchSubrules)
    (hready : (installPrologue env document (s.atRule none)).1 = true)
    (havailable : env.available .updateRules = true)
    {i : ℕ} {spec : RuleSpec} (hspec : document.rules[i]? = some spec)
    {calls : List (Call × Reply)}
    (hcalls : MakesCalls env
      ((installPrologue env document (s.atRule none)).2.view env)
      spec calls) :
    let new := (installRules env document s).2.since s
    transcript (filedAt i new) = calls ∧
      ∀ rule, AcceptedFor new i rule ↔
        (∃ c ∈ calls, createdBy c = some rule) ∧
          Armed env s.clientHandle rule := by
  intro new
  obtain ⟨⟨opening, hopening⟩, _⟩ :=
    installPrologue_step env document (s.atRule none)
  obtain ⟨building, made, hbuilt⟩ := buildRules_built env document
    (installPrologue env document (s.atRule none)).2
  have hundisturbed := buildRules_calls hstateless hplain hspec
    (installPrologue env document (s.atRule none)).2 hcalls
  obtain ⟨building', hlog', _, htranscript⟩ := hundisturbed.filed
  have hsame : building' = building :=
    List.append_cancel_left (hlog'.symm.trans hbuilt.log)
  have hi : i < document.rules.length :=
    (List.getElem?_eq_some_iff.mp hspec).1
  have htranscript := htranscript hi
  rw [hsame] at htranscript
  have hopeningFiled : filedAt i opening = [] := by
    refine filedAt_eq_nil fun e he htag => ?_
    rw [(hopening.builds e he).1] at htag
    cases htag
  have hquiet : ∀ e ∈ opening ++ building, acceptedRule e = none := by
    intro e he
    rcases List.mem_append.mp he with he | he
    · exact (sparesRules_of_buildsObjects (hopening.builds e he).2).2.1
    · exact (hbuilt.quiet e he).1
  have hcreated (rule : Handle) :
      (∃ c ∈ calls, createdBy c = some rule) ↔
        ∃ p ∈ made, p.origin = i ∧ p.rule = rule := by
    rw [← htranscript, ← createdFor_iff_transcript, CreatedFor,
      ← mem_filedUnder, hbuilt.created, List.mem_map]
    simp
  have hprepared : transcript (filedAt i (opening ++ building)) = calls := by
    rw [filedAt_append, hopeningFiled, List.nil_append, htranscript]
  have hlogBuilt : (buildRules env document
      (installPrologue env document (s.atRule none)).2).session.log =
        s.log ++ (opening ++ building) := by
    rw [hbuilt.log, hopening.log, List.append_assoc]
    rfl
  rcases installRules_cases env document s with
    ⟨hrefused, _⟩ | ⟨_, hempty, heq⟩ | ⟨_, _, heq⟩
  · rw [hready] at hrefused
    cases hrefused
  · have hnew : new = opening ++ building := by
      show ((installRules env document s).2).log.drop s.log.length = _
      rw [heq, atRule_log, hlogBuilt, List.drop_left]
    have hmade : made = [] := by
      rw [hbuilt.entries] at hempty
      exact List.map_eq_nil_iff.mp hempty
    rw [hnew]
    refine ⟨hprepared, fun rule => ?_⟩
    rw [hcreated, hmade]
    constructor
    · rintro ⟨e, he, _, hrule⟩
      rw [hquiet e he] at hrule
      cases hrule
    · rintro ⟨⟨p, hp, _⟩, _⟩
      cases hp
  · have hanchors : ∀ p ∈ made, p.anchor = 0 := by
      intro p hp
      apply hundisturbed.anchors
      rw [hbuilt.anchors]
      exact List.mem_map_of_mem hp
    obtain ⟨submitting, judged, hsubmitted, hverdicts⟩ :=
      submitRules_verdicts hstateless havailable
        (installPrologue env document (s.atRule none)).2.rules made
        ((buildRules env document
          (installPrologue env document (s.atRule none)).2).session.atRule
          none) hbuilt.rules (fun p hp => hbuilt.rule_ne_zero hp) hanchors
        hbuilt.entry
    have hnew : new = opening ++ building ++ submitting := by
      show ((installRules env document s).2).log.drop s.log.length = _
      rw [heq, hbuilt.pending, atRule_log, compactRules_log, hsubmitted.log,
        require_run_log, atRule_log, hlogBuilt, List.append_assoc,
        List.drop_left]
    have hclient : (buildRules env document
        (installPrologue env document (s.atRule none)).2).session.clientHandle
          = s.clientHandle := hbuilt.client.trans hopening.client
    rw [hnew]
    refine ⟨?_, fun rule => ?_⟩
    · rw [filedAt_append, transcript_append, hprepared,
        hsubmitted.transcript_eq_nil, List.append_nil]
    · rw [acceptedFor_append hquiet, hsubmitted.acceptedFor_iff hverdicts,
        hcreated, ← hclient]
      rfl

/-! ## Two documents with the same collections -/

def SameGates (x y : Bool × Session) : Prop :=
  x.1 = y.1 ∧ y.2 = { x.2 with notifyQueries := y.2.notifyQueries }

theorem proceed_sameGates (gate : Bool × Session)
    {next next' : Session → Bool × Session}
    (h : ∀ s, SameGates (next s) (next' s)) :
    SameGates (proceed gate next) (proceed gate next') := by
  obtain ⟨ok, s⟩ := gate
  cases ok with
  | false => exact ⟨rfl, rfl⟩
  | true => exact h s

theorem SameGates.view {x y : Bool × Session} (h : SameGates x y) :
    y.2.view env = x.2.view env := by
  rw [h.2]
  rfl

theorem installPrologue_sameGates {document other : RuleDocument}
    (hrules : document.rules ≠ []) (hother : other.rules ≠ [])
    (hcollections : other.collections = document.collections)
    {s : Session} (hqueue : s.queueHandle ≠ 0) :
    SameGates (installPrologue env document s)
      (installPrologue env other s) := by
  have hconnected : connectedGate other s = connectedGate document s := by
    unfold connectedGate
    rw [List.isEmpty_eq_false_iff.mpr hrules,
      List.isEmpty_eq_false_iff.mpr hother]
  have hqueued (document : RuleDocument) :
      queueGate document s = (true, s) := by
    unfold queueGate
    rw [beq_eq_false_iff_ne.mpr hqueue, Bool.and_false]
    rfl
  have hgate (s : Session) :
      collectionsGate env other s = collectionsGate env document s := by
    unfold collectionsGate installDocumentCollections documentCollections
    rw [hcollections]
  unfold installPrologue
  rw [hconnected]
  unfold connectedGate gate
  cases s.clientHandle == 0 || document.rules.isEmpty with
  | true => exact ⟨rfl, rfl⟩
  | false =>
      simp only [proceed]
      rw [hqueued document, hqueued other]
      refine proceed_sameGates _ fun s => proceed_sameGates _ fun s => ?_
      rw [hgate]
      exact proceed_sameGates _ fun s => ⟨rfl, rfl⟩

theorem installPrologue_available {document : RuleDocument} {s : Session}
    (h : (installPrologue env document s).1 = true) :
    env.available .updateRules = true := by
  have hqueue := (proceed_true h).2
  have hcreate := (proceed_true hqueue).2
  have hupdate := (proceed_true hcreate).2
  rw [← require_run_fst env .updateRules]
  exact (proceed_true hupdate).1

theorem installRules_of_refused_quiet {document : RuleDocument}
    {s : Session}
    (h : (installPrologue env document (s.atRule none)).1 = false) (i : ℕ) :
    filedAt i ((installRules env document s).2.since s) = [] := by
  obtain ⟨⟨opening, hopening⟩, _⟩ :=
    installPrologue_step env document (s.atRule none)
  rw [installRules_of_refused h, Session.since, hopening.log, atRule_log,
    List.drop_left]
  refine filedAt_eq_nil fun e he htag => ?_
  rw [(hopening.builds e he).1] at htag
  cases htag

theorem not_acceptedFor {new : List Event} {i : ℕ}
    (h : filedAt i new = []) (rule : Handle) : ¬ AcceptedFor new i rule := by
  rintro ⟨e, he, htag, _⟩
  have hmem : e ∈ filedAt i new :=
    List.mem_filter.mpr ⟨he, by simp [htag]⟩
  rw [h] at hmem
  cases hmem

end

/-- On a session with a queue and against a history-free library, a rule of a
document without match-subrules rules gets the verdict and the filter and
descriptor calls that it gets as the only rule of the document. -/
theorem installRules_independent (env : Env)
    (hstateless : env.respond.Stateless) (document : RuleDocument)
    (s : Session) (hqueue : s.queueHandle ≠ 0)
    (hplain : ∀ spec ∈ document.rules,
      resolvedSelector spec ≠ kActionMatchSubrules)
    (i : ℕ) (spec : RuleSpec) (hspec : document.rules[i]? = some spec) :
    let whole := (installRules env document s).2.since s
    let alone :=
      (installRules env { document with rules := [spec] } s).2.since s
    (∀ rule, AcceptedFor whole i rule ↔ AcceptedFor alone 0 rule) ∧
      transcript (filedAt i whole) = transcript (filedAt 0 alone) := by
  intro whole alone
  let single : RuleDocument := { document with rules := [spec] }
  have hmem := List.mem_of_getElem? hspec
  have hgates : SameGates (installPrologue env document (s.atRule none))
      (installPrologue env single (s.atRule none)) :=
    installPrologue_sameGates (List.ne_nil_of_mem hmem)
      (List.cons_ne_nil spec []) (by rfl) hqueue
  cases hready : (installPrologue env document (s.atRule none)).1 with
  | false =>
      have hwhole : filedAt i whole = [] :=
        installRules_of_refused_quiet hready i
      have halone : filedAt 0 alone = [] :=
        installRules_of_refused_quiet (hgates.1.symm.trans hready) 0
      refine ⟨fun rule => ?_, by rw [hwhole, halone]⟩
      exact iff_of_false (not_acceptedFor hwhole rule)
        (not_acceptedFor halone rule)
  | true =>
      have havailable := installPrologue_available hready
      have hreadyAlone : (installPrologue env single (s.atRule none)).1 =
          true := hgates.1.symm.trans hready
      obtain ⟨calls, hcalls⟩ := buildRule_uniform hstateless
        (hplain spec hmem)
        ((installPrologue env document (s.atRule none)).2.view env)
      have hcallsAlone : MakesCalls env
          ((installPrologue env single (s.atRule none)).2.view env)
          spec calls := by
        rw [hgates.view]
        exact hcalls
      have hspecAlone : single.rules[0]? = some spec := rfl
      have hplainAlone : ∀ spec ∈ single.rules,
          resolvedSelector spec ≠ kActionMatchSubrules := by
        simpa [single] using hplain spec hmem
      obtain ⟨hwhole, hacceptedWhole⟩ := installRules_solo hstateless hplain
        hready havailable hspec hcalls
      obtain ⟨halone, hacceptedAlone⟩ := installRules_solo hstateless
        hplainAlone hreadyAlone havailable hspecAlone hcallsAlone
      refine ⟨fun rule => ?_, hwhole.trans halone.symm⟩
      rw [hacceptedWhole rule]
      exact (hacceptedAlone rule).symm

/-- A history-free library: a handle shows the event type of its rule, and
even handles are refused. -/
def contentEnv : Env where
  available _ := true
  respond _ call :=
    match call with
    | .createRule descriptor =>
        { result := kOk, out := descriptor.eventType + 1 }
    | .updateRules _ [entry] =>
        { result := if entry.rule % 2 = 0 then kFail else kOk }
    | _ => { result := kOk, out := 1 }
  expandFilterValue value := value.toList.map fun c => UInt16.ofNat c.toNat
  patchError _ := ""

/-- A rule without an event type, one that is refused when it is submitted,
and one with a filter that is armed. -/
def mixedRules : RuleDocument :=
  { rules := [{}, { eventType := 7001 },
      { eventType := 2000
        filter :=
          { type := kFilterCtorFileObject, propertyId := 1, comparand := 3
            value := "*" } }] }

theorem installRules_independent_mixedRules :
    let alone := { mixedRules with rules := mixedRules.rules.drop 2 }
    let whole := (installRules contentEnv mixedRules connectedSession).2.since
      connectedSession
    AcceptedFor whole 2 2001 ∧ (transcript (filedAt 2 whole)).length = 2 ∧
      AcceptedFor ((installRules contentEnv alone connectedSession).2.since
        connectedSession) 0 2001 := by
  intro alone whole
  have hwhole : AcceptedFor whole 2 2001 := by
    unfold AcceptedFor
    decide
  refine ⟨hwhole, by decide, ?_⟩
  exact ((installRules_independent contentEnv (fun _ _ _ => rfl) mixedRules
    connectedSession (by decide) (by decide) 2 _ rfl).1 2001).mp hwhole

end Esptool.Esp
