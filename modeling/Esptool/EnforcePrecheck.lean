import Esptool.Enforcement

/-!
# The pre-check of the service host

`DocumentRequiresEnforceCompat` looks at the selector and the event type of
every rule and at nothing else.  A document it reports is never installed
completely without the opt-in, and for every other document the opt-in makes
no difference to an install.
-/

namespace Esptool.Esp

open Model Interaction

theorem documentRequiresEnforceCompat_iff (document : RuleDocument) :
    documentRequiresEnforceCompat document = true ↔
      ∃ spec ∈ document.rules, NeedsPatch spec := by
  simp [documentRequiresEnforceCompat, NeedsPatch]

theorem not_needsPatch_of_not_required {document : RuleDocument}
    (h : documentRequiresEnforceCompat document = false)
    {spec : RuleSpec} (hspec : spec ∈ document.rules) :
    ¬NeedsPatch spec := by
  intro hneeds
  have hrequired := (documentRequiresEnforceCompat_iff document).mpr
    ⟨spec, hspec, hneeds⟩
  rw [h] at hrequired
  cases hrequired

/-! ## Without the opt-in -/

theorem ReachesCreate.optedIn {env : Env} {rulesBefore : ℕ}
    {st : BuildState} {spec : RuleSpec} {index : ℕ} {filter : Handle}
    {descriptor : RuleDescriptor} {anchor : Handle} {t : Session}
    (h : ReachesCreate env rulesBefore st spec index filter descriptor
      anchor t)
    (hneeds : NeedsPatch spec) : st.session.enforceCompat = true := by
  obtain ⟨hrewrite, hcompat⟩ := hneeds
  have hflag : (warnNotifySuppress spec
      (filterRule env st spec index).2).enforceCompat =
        st.session.enforceCompat :=
    ((filterRule_extends env st spec index).trans
      (warnNotifySuppress_extends spec _)).enforceCompat
  rcases describeRule_cases h.described with
    ⟨_, kind, hgate, _⟩ | ⟨hseven, _⟩ | ⟨hother, _⟩
  · rw [← hflag]
    exact ((enforceModifyKind_some hgate).1 hcompat).2.1
  · rw [hrewrite] at hseven
    cases hseven
  · exact absurd hrewrite hother

theorem CreatedFor.createCall {env : Env} {document : RuleDocument}
    {s : Session} {i : ℕ} {rule : Handle}
    (h : CreatedFor ((installRules env document s).2.since s) i rule) :
    ∃ spec rulesBefore st filter descriptor anchor t,
      document.rules[i]? = some spec ∧ Inside s st ∧
        ReachesCreate env rulesBefore st spec i filter descriptor
          anchor t := by
  obtain ⟨e, he, htag, hrule⟩ := h
  obtain ⟨new, judged, hrun⟩ := installRules_run env document s
  rw [hrun.since_eq] at he
  obtain ⟨before, after, hsplit⟩ := List.append_of_mem he
  have hlog := hrun.log
  rw [hsplit] at hlog
  obtain ⟨carried, hcall⟩ : ∃ carried, e.call = .createRule carried := by
    unfold createdRule at hrule
    split at hrule
    · rename_i carried hcall
      exact ⟨carried, hcall⟩
    · cases hrule
  obtain ⟨i', spec, rulesBefore, st, filter, descriptor, anchor, t, hspec,
    hinside, hreaches, hevent, _⟩ :=
    installRules_creates env document s before e after hlog carried hcall
  obtain ⟨_, _, _, htag'⟩ := hreaches.new
  rw [hevent, htag', Option.some.injEq] at htag
  subst htag
  exact ⟨spec, rulesBefore, st, filter, descriptor, anchor, t, hspec,
    hinside, hreaches⟩

theorem installRules_ne_complete {env : Env} {document : RuleDocument}
    {s : Session} (hrequired : documentRequiresEnforceCompat document = true)
    (hoff : s.enforceCompat = false) :
    (installRules env document s).1 ≠ .complete := by
  intro hcomplete
  obtain ⟨spec, hspec, hneeds⟩ :=
    (documentRequiresEnforceCompat_iff document).mp hrequired
  obtain ⟨i, hi, hget⟩ := List.getElem_of_mem hspec
  obtain ⟨new, judged, hrun⟩ := installRules_run env document s
  obtain ⟨rule, hcreated, _⟩ := (hrun.complete_iff.mp hcomplete).2 i hi
  rw [← hrun.since_eq] at hcreated
  obtain ⟨spec', rulesBefore, st, filter, descriptor, anchor, t, hspec',
    hinside, hreaches⟩ := hcreated.createCall
  have hsame : spec' = spec := by
    rw [List.getElem?_eq_getElem hi, hget, Option.some.injEq] at hspec'
    exact hspec'.symm
  rw [hsame] at hreaches
  have hopted := hreaches.optedIn hneeds
  rw [hinside.enforceCompat, hoff] at hopted
  cases hopted

/-! ## No patch without need -/

theorem buildRules_unpatched {env : Env} {document : RuleDocument}
    (h : documentRequiresEnforceCompat document = false) (s : Session) :
    ∃ new, (buildRules env document s).session.log = s.log ++ new ∧
      ∀ e ∈ new, e.call ≠ .applyFromFfiCompatPatch := by
  unfold buildRules
  refine Loops.foldl_zipIdx_invariant
    (motive := fun _ (st : BuildState) => ∃ new, st.session.log = s.log ++ new ∧
      ∀ e ∈ new, e.call ≠ .applyFromFfiCompatPatch)
    ⟨[], (List.append_nil _).symm, by simp⟩ ?_
  rintro k st spec hspec ⟨older, holder, hunpatched⟩
  obtain ⟨new, made, hstep⟩ := buildRule_step env s.rules.length st spec k
  refine ⟨older ++ new, ?_, fun e he => ?_⟩
  · rw [hstep.log, holder, List.append_assoc]
  · rcases List.mem_append.mp he with he | he
    · exact hunpatched e he
    · exact fun hcall => not_needsPatch_of_not_required h
        (List.mem_of_getElem? hspec) (hstep.patches e he hcall)

theorem installRules_unpatched (env : Env) {document : RuleDocument}
    (h : documentRequiresEnforceCompat document = false) (s : Session) :
    ∀ e ∈ (installRules env document s).2.since s,
      e.call ≠ .applyFromFfiCompatPatch := by
  let prologue := installPrologue env document (s.atRule none)
  obtain ⟨⟨opening, hopening⟩, _⟩ :=
    installPrologue_step env document (s.atRule none)
  obtain ⟨building, hbuilding, hunpatched⟩ :
      ∃ new, (buildRules env document prologue.2).session.log =
        prologue.2.log ++ new ∧
          ∀ e ∈ new, e.call ≠ .applyFromFfiCompatPatch :=
    buildRules_unpatched h prologue.2
  have hopened : ∀ e ∈ opening, e.call ≠ .applyFromFfiCompatPatch := by
    intro e he hcall
    have hbuilds := (hopening.builds e he).2
    rw [hcall] at hbuilds
    cases hbuilds
  -- the log of the install is that of the phases, one after the other
  suffices hlog : ∃ new, (installRules env document s).2.log =
      s.log ++ new ∧ ∀ e ∈ new, e.call ≠ .applyFromFfiCompatPatch by
    obtain ⟨new, hnew, hall⟩ := hlog
    rw [Session.since, hnew, List.drop_left]
    exact hall
  have hbuilt : (buildRules env document prologue.2).session.log =
      s.log ++ (opening ++ building) := by
    rw [hbuilding, hopening.log, List.append_assoc]
    rfl
  have hprepared : ∀ e ∈ opening ++ building,
      e.call ≠ .applyFromFfiCompatPatch := by
    intro e he
    rcases List.mem_append.mp he with he | he
    · exact hopened e he
    · exact hunpatched e he
  rcases installRules_cases env document s with
    ⟨_, heq⟩ | ⟨_, _, heq⟩ | ⟨_, _, heq⟩
  · rw [heq]
    exact ⟨opening, hopening.log, hopened⟩
  · rw [heq]
    exact ⟨opening ++ building, hbuilt, hprepared⟩
  · obtain ⟨_, made, hmade⟩ := buildRules_built env document prologue.2
    obtain ⟨submitting, judged, hsubmitted⟩ :=
      submitRules_submitted env prologue.2.rules made
        ((buildRules env document prologue.2).session.atRule none)
        hmade.rules fun p hp => hmade.rule_ne_zero hp
    rw [heq, hmade.pending]
    refine ⟨opening ++ building ++ submitting, ?_, fun e he => ?_⟩
    · rw [atRule_log, compactRules_log, hsubmitted.log, require_run_log,
        atRule_log, hbuilt]
      simp only [List.append_assoc]
    · rcases List.mem_append.mp he with he | he
      · exact hprepared e he
      · rcases hsubmitted.calls e he with ⟨p, _, _, hcall⟩ | ⟨_, rule, hcall⟩
        · rw [hcall]
          intro hpatch
          cases hpatch
        · rw [hcall]
          intro hpatch
          cases hpatch

/-! ## The opt-in makes no difference -/

section OptIn

variable (value : Bool)

def BuildState.optIn (st : BuildState) : BuildState :=
  { st with session := st.session.setEnforceCompat value }

def SubmitState.optIn (st : SubmitState) : SubmitState :=
  { st with session := st.session.setEnforceCompat value }

theorem setEnforceCompat_run {α : Type} (s : Session) (m : JournalM α) :
    (s.setEnforceCompat value).run m =
      ((s.run m).1, (s.run m).2.setEnforceCompat value) := rfl

theorem proceed_optIn {gate : Bool × Session}
    {next : Session → Bool × Session}
    (hnext : ∀ s, next (s.setEnforceCompat value) =
      ((next s).1, (next s).2.setEnforceCompat value)) :
    proceed (gate.1, gate.2.setEnforceCompat value) next =
      ((proceed gate next).1,
        (proceed gate next).2.setEnforceCompat value) := by
  obtain ⟨ok, s⟩ := gate
  cases ok with
  | false => rfl
  | true => exact hnext s

theorem gate_optIn (refuses : Bool) (message : String) (s : Session) :
    gate refuses message (s.setEnforceCompat value) =
      ((gate refuses message s).1,
        (gate refuses message s).2.setEnforceCompat value) := by
  cases refuses with
  | true => rfl
  | false => rfl

theorem collectionsGate_optIn (env : Env) (document : RuleDocument)
    (s : Session) :
    collectionsGate env document (s.setEnforceCompat value) =
      ((collectionsGate env document s).1,
        (collectionsGate env document s).2.setEnforceCompat value) := by
  let collections := installDocumentCollections env document
    { s with notifyQueries := [], namedCollections := [] }
  have hcollections : installDocumentCollections env document
      { s.setEnforceCompat value with
        notifyQueries := [], namedCollections := [] } =
      (collections.1, collections.2.setEnforceCompat value) := rfl
  unfold collectionsGate
  rw [hcollections]
  dsimp only [collections]
  cases (installDocumentCollections env document
    { s with notifyQueries := [], namedCollections := [] }).1 with
  | false => rfl
  | true => rfl

theorem installPrologue_optIn (env : Env) (document : RuleDocument)
    (s : Session) :
    installPrologue env document (s.setEnforceCompat value) =
      ((installPrologue env document s).1,
        (installPrologue env document s).2.setEnforceCompat value) := by
  unfold installPrologue connectedGate queueGate
  rw [gate_optIn]
  refine proceed_optIn value fun s => ?_
  rw [gate_optIn]
  refine proceed_optIn value fun s => ?_
  rw [setEnforceCompat_run]
  refine proceed_optIn value fun s => ?_
  rw [setEnforceCompat_run]
  refine proceed_optIn value fun s => ?_
  rw [collectionsGate_optIn]
  exact proceed_optIn value fun s => rfl

theorem enforceModifyKind_optIn (env : Env) {spec : RuleSpec}
    (h : isEnforceCompatEventType spec.eventType = false) (s : Session) :
    enforceModifyKind env spec (s.setEnforceCompat value) =
      ((enforceModifyKind env spec s).1,
        (enforceModifyKind env spec s).2.setEnforceCompat value) := by
  unfold enforceModifyKind
  rw [h]
  split
  · rename_i hfalse
    cases hfalse
  · split
    · rfl
    · rfl

theorem describeRule_optIn (env : Env) (rulesBefore : ℕ) (st : BuildState)
    {spec : RuleSpec} (h : ¬NeedsPatch spec) (s : Session) :
    describeRule env rulesBefore (st.optIn value) spec
        (s.setEnforceCompat value) =
      ((describeRule env rulesBefore st spec s).1,
        (describeRule env rulesBefore st spec s).2.setEnforceCompat
          value) := by
  unfold describeRule
  dsimp only
  by_cases hrewrite : resolvedSelector spec = kActionRewrite
  · have hcompat : isEnforceCompatEventType spec.eventType = false := by
      by_contra htrue
      exact h ⟨hrewrite, by simpa using htrue⟩
    rw [if_pos hrewrite, if_pos hrewrite,
      enforceModifyKind_optIn value env hcompat]
    dsimp only
    cases (enforceModifyKind env spec s).1 with
    | none => rfl
    | some kind =>
        dsimp only
        split
        · rfl
        · rfl
  · rw [if_neg hrewrite, if_neg hrewrite]
    split
    · rfl
    · split
      · rfl
      · rfl

theorem warnNotifySuppress_optIn (spec : RuleSpec) (s : Session) :
    warnNotifySuppress spec (s.setEnforceCompat value) =
      (warnNotifySuppress spec s).setEnforceCompat value := by
  unfold warnNotifySuppress
  split
  · rfl
  · rfl

theorem createRule_optIn (env : Env) (st : BuildState) (index : ℕ)
    (spec : RuleSpec) (filter : Handle) (descriptor : RuleDescriptor)
    (anchor : Handle) (s : Session) :
    createRule env (st.optIn value) index spec filter descriptor anchor
        (s.setEnforceCompat value) =
      (createRule env st index spec filter descriptor anchor s).optIn
        value := by
  let attached (s : Session) := attachRule env spec filter descriptor s
  let reply (s : Session) := (attached s).2.run
    (ask env.respond (.createRule (attached s).1))
  let logged (s : Session) := ((reply s).2.run
    (record ("EspCreateRule:" ++ spec.label) (reply s).1.result)).2
  have hrefused (st : BuildState) (s : Session)
      (h : (failed (reply s).1.result || (reply s).1.out == 0) = true) :
      createRule env st index spec filter descriptor anchor s =
        st.refuse (logged s) := if_pos h
  have hcreated (st : BuildState) (s : Session)
      (h : ¬(failed (reply s).1.result || (reply s).1.out == 0) = true) :
      createRule env st index spec filter descriptor anchor s =
        { st with
          session :=
            { logged s with rules := (logged s).rules ++ [(reply s).1.out] }
          entries := st.entries ++ [{ rule := (reply s).1.out }]
          origins := st.origins ++ [index]
          subruleAnchors := st.subruleAnchors ++ [anchor] } := if_neg h
  by_cases h : (failed (reply s).1.result || (reply s).1.out == 0) = true
  · rw [hrefused st s h,
      hrefused (st.optIn value) (s.setEnforceCompat value) h]
    rfl
  · rw [hcreated st s h,
      hcreated (st.optIn value) (s.setEnforceCompat value) h]
    rfl

theorem buildRule_optIn (env : Env) (rulesBefore : ℕ) (st : BuildState)
    {rule : RuleSpec × ℕ} (h : ¬NeedsPatch rule.1) :
    buildRule env rulesBefore (st.optIn value) rule =
      (buildRule env rulesBefore st rule).optIn value := by
  unfold buildRule
  dsimp only
  have hfilter : filterRule env (st.optIn value) rule.1 rule.2 =
      ((filterRule env st rule.1 rule.2).1,
        (filterRule env st rule.1 rule.2).2.setEnforceCompat value) := rfl
  rw [hfilter]
  dsimp only
  split
  · rfl
  · cases (filterRule env st rule.1 rule.2).1 with
    | none => rfl
    | some filter =>
        dsimp only
        split
        · rfl
        · rw [warnNotifySuppress_optIn, describeRule_optIn value env
            rulesBefore st h]
          dsimp only
          cases (describeRule env rulesBefore st rule.1
            (warnNotifySuppress rule.1
              (filterRule env st rule.1 rule.2).2)).1 with
          | none => rfl
          | some described => exact createRule_optIn value env st _ _ _ _ _ _

theorem buildRules_optIn (env : Env) {document : RuleDocument}
    (h : documentRequiresEnforceCompat document = false) (s : Session) :
    buildRules env document (s.setEnforceCompat value) =
      (buildRules env document s).optIn value := by
  have hloop (rules : List (RuleSpec × ℕ))
      (hrules : ∀ rule ∈ rules, ¬NeedsPatch rule.1) (st : BuildState) :
      rules.foldl (buildRule env s.rules.length) (st.optIn value) =
        (rules.foldl (buildRule env s.rules.length) st).optIn value := by
    induction rules generalizing st with
    | nil => rfl
    | cons rule rest ih =>
        rw [List.foldl_cons, List.foldl_cons,
          buildRule_optIn value env _ st (hrules rule List.mem_cons_self)]
        exact ih (fun r hr => hrules r (List.mem_cons_of_mem rule hr)) _
  exact hloop document.rules.zipIdx (fun rule hrule =>
    not_needsPatch_of_not_required h (List.fst_mem_of_mem_zipIdx hrule))
    { session := s }

theorem submitEntry_optIn (env : Env) (canClose : Bool) (rulesBefore : ℕ)
    (st : SubmitState) (pending : Pending × ℕ) :
    submitEntry env canClose rulesBefore (st.optIn value) pending =
      (submitEntry env canClose rulesBefore st pending).optIn value := by
  let submitted (st : SubmitState) :=
    (st.session.atRule (some pending.1.origin)).run
      (submitPending env (st.session.atRule
        (some pending.1.origin)).clientHandle st.rejectedHandles pending.1)
  have hsame : (submitted (st.optIn value)).1 = (submitted st).1 := rfl
  have haccepted (st : SubmitState) (h : (submitted st).1 = true) :
      submitEntry env canClose rulesBefore st pending =
        { st with
          session := (submitted st).2, committed := st.committed + 1 } :=
    if_pos h
  have hrefused (st : SubmitState) (h : ¬(submitted st).1 = true) :
      submitEntry env canClose rulesBefore st pending =
        { session := closeLedgerSlot env canClose (rulesBefore + pending.2)
            (submitted st).2
          committed := st.committed
          refusedAtSubmit := st.refusedAtSubmit + 1
          rejectedHandles :=
            st.rejectedHandles ++ [pending.1.entry.rule] } :=
    if_neg h
  by_cases hok : (submitted st).1 = true
  · rw [haccepted st hok, haccepted (st.optIn value) (hsame.trans hok)]
    rfl
  · rw [hrefused st hok, hrefused (st.optIn value) (hsame ▸ hok)]
    rfl

theorem submitRules_optIn (env : Env) (rulesBefore : ℕ)
    (pending : List Pending) (s : Session) :
    submitRules env rulesBefore pending (s.setEnforceCompat value) =
      (submitRules env rulesBefore pending s).optIn value := by
  let start : SubmitState := { session := (s.run (require env .closeRule)).2 }
  change pending.zipIdx.foldl (submitEntry env
    (s.run (require env .closeRule)).1 rulesBefore) (start.optIn value) = _
  exact List.foldl_hom (SubmitState.optIn value)
    fun st entry => submitEntry_optIn value env _ rulesBefore st entry

theorem compactRules_optIn (rulesBefore : ℕ) (st : SubmitState) :
    compactRules rulesBefore (st.optIn value) =
      (compactRules rulesBefore st).setEnforceCompat value := by
  have hcompacted (st : SubmitState) (h : st.refusedAtSubmit ≠ 0) :
      compactRules rulesBefore st =
        { st.session with
          rules := Loops.compactFrom (· != 0) rulesBefore
            st.session.rules } := if_pos h
  have hkept (st : SubmitState) (h : ¬st.refusedAtSubmit ≠ 0) :
      compactRules rulesBefore st = st.session := if_neg h
  by_cases hrefused : st.refusedAtSubmit ≠ 0
  · rw [hcompacted st hrefused, hcompacted (st.optIn value) hrefused]
    rfl
  · rw [hkept st hrefused, hkept (st.optIn value) hrefused]
    rfl

/-- For a document that needs no patch the opt-in shows in no call, no reply
and no verdict, only in the flag itself. -/
theorem installRules_optIn (env : Env) {document : RuleDocument}
    (h : documentRequiresEnforceCompat document = false) (s : Session) :
    installRules env document (s.setEnforceCompat value) =
      ((installRules env document s).1,
        (installRules env document s).2.setEnforceCompat value) := by
  let prologue := installPrologue env document (s.atRule none)
  have hprologue : installPrologue env document
      ((s.setEnforceCompat value).atRule none) =
        (prologue.1, prologue.2.setEnforceCompat value) :=
    installPrologue_optIn value env document (s.atRule none)
  have hbuilt : buildRules env document
      (installPrologue env document
        ((s.setEnforceCompat value).atRule none)).2 =
      (buildRules env document prologue.2).optIn value := by
    rw [hprologue]
    exact buildRules_optIn value env h prologue.2
  have hgate : (installPrologue env document
      ((s.setEnforceCompat value).atRule none)).1 = prologue.1 := by
    rw [hprologue]
  rcases installRules_cases env document s with
    ⟨hfalse, heq⟩ | ⟨htrue, hempty, heq⟩ | ⟨htrue, hsome, heq⟩
  · rw [heq, installRules_of_refused (hgate.trans hfalse), hprologue]
  · have hempty' : (buildRules env document (installPrologue env document
        ((s.setEnforceCompat value).atRule none)).2).entries = [] := by
      rw [hbuilt]
      exact hempty
    rw [heq, installRules_of_no_entries (hgate.trans htrue) hempty', hbuilt]
    rfl
  · have hsome' : (buildRules env document (installPrologue env document
        ((s.setEnforceCompat value).atRule none)).2).entries ≠ [] := by
      rw [hbuilt]
      exact hsome
    let built := buildRules env document prologue.2
    let submitted' := submitRules env prologue.2.rules.length built.pending
      ((built.session.atRule none).setEnforceCompat value)
    have hsubmitted : submitted' =
        (submitRules env prologue.2.rules.length built.pending
          (built.session.atRule none)).optIn value :=
      submitRules_optIn value env _ _ (built.session.atRule none)
    have hfull := installRules_of_entries (hgate.trans htrue) hsome'
    dsimp only at hfull
    rw [hbuilt, hprologue] at hfull
    rw [heq, hfull]
    change (installVerdict (built.optIn value) submitted',
      (compactRules prologue.2.rules.length submitted').atRule none) = _
    rw [hsubmitted, compactRules_optIn]
    rfl

end OptIn

/-- The pre-check agrees with the installer in both directions. -/
theorem documentRequiresEnforceCompat_agrees (document : RuleDocument) :
    (documentRequiresEnforceCompat document = true →
      ∀ (env : Env) (s : Session), s.enforceCompat = false →
        (installRules env document s).1 ≠ .complete) ∧
    (documentRequiresEnforceCompat document = false →
      ∀ (env : Env) (s : Session),
        (∀ e ∈ (installRules env document s).2.since s,
          e.call ≠ .applyFromFfiCompatPatch) ∧
        (installRules env document (s.setEnforceCompat true)).1 =
          (installRules env document (s.setEnforceCompat false)).1 ∧
        (installRules env document (s.setEnforceCompat true)).2.log =
          (installRules env document (s.setEnforceCompat false)).2.log ∧
        (installRules env document (s.setEnforceCompat true)).2 =
          (installRules env document
            (s.setEnforceCompat false)).2.setEnforceCompat true) := by
  refine ⟨fun hrequired env s hoff =>
    installRules_ne_complete hrequired hoff, fun hfree env s => ?_⟩
  have hsame : installRules env document (s.setEnforceCompat true) =
      ((installRules env document (s.setEnforceCompat false)).1,
        (installRules env document
          (s.setEnforceCompat false)).2.setEnforceCompat true) :=
    installRules_optIn true env hfree (s.setEnforceCompat false)
  refine ⟨installRules_unpatched env hfree s, ?_, ?_, ?_⟩
  · rw [hsame]
  · rw [hsame]
    rfl
  · rw [hsame]

theorem documentRequiresEnforceCompat_agrees_samples :
    (installRules oddArmingEnv denyProcessCreate connectedSession).1 ≠
        .complete ∧
      ∀ e ∈ (installRules oddArmingEnv threeRules
          connectedSession).2.since connectedSession,
        e.call ≠ .applyFromFfiCompatPatch := by
  have hdenies := documentRequiresEnforceCompat_agrees denyProcessCreate
  have hthree := documentRequiresEnforceCompat_agrees threeRules
  constructor
  · exact hdenies.1 (by decide) oddArmingEnv connectedSession rfl
  · exact (hthree.2 (by decide) oddArmingEnv connectedSession).1

end Esptool.Esp
