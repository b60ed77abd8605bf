import Esptool.RuleInstall

/-!
# What one step of an install can do

The gates and the two loops of `InstallRules` change the session in few ways:
they log calls, they fill the patch cache, they enter a created rule, they
null a refused one.  Each step is described here once; the results about whole
installs are derived from these descriptions and do not unfold the steps.
-/

namespace Esptool.Esp

open Model Interaction

/-! ## Reading the log -/

/-- The handle that a call of `EspCreateRule` left for the installer. -/
def createdRule (e : Event) : Option Handle :=
  match e.call with
  | .createRule _ =>
      if failed e.reply.result || e.reply.out == 0 then none
      else some e.reply.out
  | _ => none

def acceptedRule (e : Event) : Option Handle :=
  match e.call with
  | .updateRules _ [entry] =>
      if succeeded e.reply.result then some entry.rule else none
  | _ => none

def closedRule (e : Event) : Option Handle :=
  match e.call with
  | .closeRule rule => some rule
  | _ => none

theorem createdRule_ne_zero {e : Event} {rule : Handle}
    (h : createdRule e = some rule) : rule ≠ 0 := by
  unfold createdRule at h
  split at h
  · split at h
    · cases h
    · rename_i hreply
      cases h
      intro hzero
      simp [hzero] at hreply
  · cases h

def NeedsPatch (spec : RuleSpec) : Prop :=
  resolvedSelector spec = kActionRewrite ∧
    isEnforceCompatEventType spec.eventType = true

def Call.preparesRule (spec : RuleSpec) (call : Call) : Prop :=
  call.buildsObjects = true ∨
    (call = .applyFromFfiCompatPatch ∧ NeedsPatch spec)

def SparesRules (e : Event) : Prop :=
  createdRule e = none ∧ acceptedRule e = none ∧ closedRule e = none ∧
    (∀ descriptor, e.call ≠ .createRule descriptor) ∧
    ∀ client entries, e.call ≠ .updateRules client entries

theorem sparesRules_of_buildsObjects {e : Event}
    (h : e.call.buildsObjects = true) : SparesRules e := by
  unfold SparesRules createdRule acceptedRule closedRule
  cases hcall : e.call <;> simp [hcall, Call.buildsObjects] at h ⊢

theorem sparesRules_of_preparesRule {e : Event} {spec : RuleSpec}
    (h : e.call.preparesRule spec) : SparesRules e := by
  rcases h with h | ⟨h, _⟩
  · exact sparesRules_of_buildsObjects h
  · unfold SparesRules createdRule acceptedRule closedRule
    simp [h]

theorem needsPatch_of_preparesRule {call : Call} {spec : RuleSpec}
    (h : call.preparesRule spec)
    (hpatch : call = .applyFromFfiCompatPatch) : NeedsPatch spec := by
  rcases h with h | ⟨_, h⟩
  · rw [hpatch] at h
    cases h
  · exact h

/-! ## The patch cache -/

/-- The cache of the patch outcome agrees with the log. -/
structure PatchCached (s : Session) : Prop where
  untried : s.enforceCompatPatchAttempted = false →
    ∀ e ∈ s.log, e.call ≠ .applyFromFfiCompatPatch
  once : (s.log.countP fun e => e.call == .applyFromFfiCompatPatch) ≤ 1
  applied : s.enforceCompatPatchOk = true →
    ∃ e ∈ s.log, e.call = .applyFromFfiCompatPatch ∧
      succeeded e.reply.result = true

theorem PatchCached.extend {s t : Session} {new : List Event}
    (h : PatchCached s) (hlog : t.log = s.log ++ new)
    (hnew : ∀ e ∈ new, e.call ≠ .applyFromFfiCompatPatch)
    (hattempted : t.enforceCompatPatchAttempted =
      s.enforceCompatPatchAttempted)
    (hok : t.enforceCompatPatchOk = s.enforceCompatPatchOk) :
    PatchCached t := by
  have hcount :
      new.countP (fun e => e.call == .applyFromFfiCompatPatch) = 0 := by
    rw [List.countP_eq_zero]
    intro e he
    simpa using hnew e he
  refine ⟨fun hfalse e he => ?_, ?_, fun htrue => ?_⟩
  · rw [hlog] at he
    rcases List.mem_append.mp he with he | he
    · exact h.untried (hattempted.symm.trans hfalse) e he
    · exact hnew e he
  · rw [hlog, List.countP_append, hcount]
    exact h.once
  · obtain ⟨e, he, hcall, hresult⟩ := h.applied (hok.symm.trans htrue)
    exact ⟨e, hlog ▸ List.mem_append_left _ he, hcall, hresult⟩

/-! ## Steps that leave the ledger alone -/

/-- `t` is `s` after calls that satisfy `P`: nothing but the journal and the
patch cache has changed. -/
structure Extends (P : Call → Prop) (s t : Session) : Prop where
  frame : t =
    { s with
      journal := t.journal
      enforceCompatPatchAttempted := t.enforceCompatPatchAttempted
      enforceCompatPatchOk := t.enforceCompatPatchOk
      enforceCompatError := t.enforceCompatError }
  grows : Grows (fun call _ => P call) s.journal t.journal
  cached : PatchCached s → PatchCached t

section Extends

variable {P Q : Call → Prop} {s t u : Session}

theorem Extends.refl (s : Session) : Extends P s s :=
  ⟨rfl, Grows.refl _, id⟩

theorem Extends.trans (h : Extends P s t) (h' : Extends P t u) :
    Extends P s u := by
  refine ⟨?_, h.grows.trans h'.grows, fun hs => h'.cached (h.cached hs)⟩
  rw [h'.frame, h.frame]

theorem Extends.mono (h : Extends P s t) (hPQ : ∀ call, P call → Q call) :
    Extends Q s t := by
  have hgrows := h.grows.mono fun call _ => hPQ call
  exact ⟨h.frame, hgrows, h.cached⟩

theorem Extends.rules (h : Extends P s t) : t.rules = s.rules := by
  rw [h.frame]

theorem Extends.clientHandle (h : Extends P s t) :
    t.clientHandle = s.clientHandle := by
  rw [h.frame]

theorem Extends.queueHandle (h : Extends P s t) :
    t.queueHandle = s.queueHandle := by
  rw [h.frame]

theorem Extends.enforceCompat (h : Extends P s t) :
    t.enforceCompat = s.enforceCompat := by
  rw [h.frame]

theorem Extends.filterContext (h : Extends P s t) :
    t.filterContext = s.filterContext := by
  rw [h.frame]
  rfl

theorem Extends.of_run {α : Type} {env : Env} {m : JournalM α}
    (hm : Scripted env.respond P m)
    (hpatch : ¬P .applyFromFfiCompatPatch) (s : Session) :
    Extends P s (s.run m).2 := by
  have hgrows := hm.emits s.journal
  refine ⟨rfl, hgrows, fun hs => ?_⟩
  obtain ⟨_, new, hlog, hnew⟩ := hgrows
  refine hs.extend hlog (fun e he hcall => ?_) rfl rfl
  exact hpatch (hcall ▸ (hnew e he).2)

theorem Extends.of_script {α : Type} {env : Env} {m : JournalM α}
    {spec : RuleSpec} (hm : BuildScript env m) (s : Session) :
    Extends (Call.preparesRule spec) s (s.run m).2 := by
  have hbuilds : Extends (fun call => call.buildsObjects = true) s
      (s.run m).2 :=
    Extends.of_run hm (by simp [Call.buildsObjects]) s
  exact hbuilds.mono fun _ => Or.inl

theorem Extends.of_warn (s : Session) (message : String) :
    Extends P s (s.warn message) := by
  have hlog : (s.warn message).log = s.log ++ [] := by
    simp [Session.log, Session.warn, Session.run, Esp.warn, note_run]
  exact ⟨rfl, ⟨rfl, [], hlog, by simp⟩,
    fun hs => hs.extend hlog (by simp) rfl rfl⟩

end Extends

theorem atRule_log (s : Session) (tag : Option ℕ) :
    (s.atRule tag).log = s.log := rfl

theorem atRule_rules (s : Session) (tag : Option ℕ) :
    (s.atRule tag).rules = s.rules := rfl

theorem PatchCached.atRule {s : Session} (h : PatchCached s)
    (tag : Option ℕ) : PatchCached (s.atRule tag) :=
  ⟨h.untried, h.once, h.applied⟩

theorem Extends.new {P : Call → Prop} {s t : Session} (h : Extends P s t) :
    ∃ new, t.log = s.log ++ new ∧ t.journal.tag = s.journal.tag ∧
      ∀ e ∈ new, e.tag = s.journal.tag ∧ P e.call := by
  obtain ⟨htag, new, hlog, hnew⟩ := h.grows
  exact ⟨new, hlog, htag, hnew⟩

/-! ## The gates of an enforcing rule -/

theorem warnNotifySuppress_extends {P : Call → Prop} (spec : RuleSpec)
    (s : Session) : Extends P s (warnNotifySuppress spec s) := by
  unfold warnNotifySuppress
  split
  · exact Extends.of_warn _ _
  · exact Extends.refl _

theorem warnNotifySuppress_log (spec : RuleSpec) (s : Session) :
    (warnNotifySuppress spec s).log = s.log := by
  unfold warnNotifySuppress
  split
  · rfl
  · rfl

theorem ensureEnforceCompatPatch_extends {P : Call → Prop}
    (hpatch : P .applyFromFfiCompatPatch) (env : Env) (s : Session) :
    Extends P s (ensureEnforceCompatPatch env s).2 := by
  unfold ensureEnforceCompatPatch
  split
  · exact Extends.refl s
  · rename_i huntried
    have huntried : s.enforceCompatPatchAttempted = false := by
      simpa using huntried
    refine ⟨rfl, ⟨rfl, [⟨s.journal.tag, .applyFromFfiCompatPatch,
      env.respond s.log .applyFromFfiCompatPatch⟩], rfl, ?_⟩, fun hs => ?_⟩
    · intro e he
      rw [List.mem_singleton] at he
      subst he
      exact ⟨rfl, hpatch⟩
    · -- the only patch event is the one just logged
      have hnone := hs.untried huntried
      refine ⟨fun hfalse => Bool.noConfusion hfalse, ?_, fun hok => ?_⟩
      · have hcount :
            s.log.countP (fun e => e.call == .applyFromFfiCompatPatch) = 0 := by
          rw [List.countP_eq_zero]
          intro e he
          simpa using hnone e he
        change List.countP _ (s.log ++ [_]) ≤ 1
        rw [List.countP_append, hcount]
        simp
      · exact ⟨_, List.mem_append_right s.log (List.mem_singleton_self _),
          rfl, hok⟩

theorem ensureEnforceCompatPatch_ok {env : Env} {s : Session}
    (h : (ensureEnforceCompatPatch env s).1 = true) :
    (ensureEnforceCompatPatch env s).2.enforceCompatPatchOk = true := by
  unfold ensureEnforceCompatPatch at h ⊢
  split at h
  · rename_i hattempted
    rw [if_pos hattempted]
    exact h
  · rename_i hattempted
    rw [if_neg hattempted]
    exact h

theorem enforceModifyKind_extends {P : Call → Prop} (env : Env)
    {spec : RuleSpec} (hpatch : NeedsPatch spec → P .applyFromFfiCompatPatch)
    (hrewrite : resolvedSelector spec = kActionRewrite) (s : Session) :
    Extends P s (enforceModifyKind env spec s).2 := by
  unfold enforceModifyKind
  split
  · rename_i hcompat
    have hpatched : Extends P s (ensureEnforceCompatPatch env s).2 :=
      ensureEnforceCompatPatch_extends (hpatch ⟨hrewrite, hcompat⟩) env s
    split
    · exact Extends.of_warn _ _
    · dsimp only
      split
      · exact hpatched.trans (Extends.of_warn _ _)
      · exact hpatched
  · split
    · exact Extends.of_warn _ _
    · exact Extends.refl s

theorem describeRule_extends {P : Call → Prop} (env : Env)
    (rulesBefore : ℕ) (st : BuildState) (spec : RuleSpec)
    (hpatch : NeedsPatch spec → P .applyFromFfiCompatPatch) (s : Session) :
    Extends P s (describeRule env rulesBefore st spec s).2 := by
  unfold describeRule
  dsimp only
  split
  · rename_i hrewrite
    have hgate := enforceModifyKind_extends env hpatch hrewrite s
    split
    · exact hgate
    · split
      · exact hgate.trans (Extends.of_warn _ _)
      · exact hgate
  · split
    · exact Extends.refl s
    · split
      · exact Extends.refl s
      · exact Extends.refl s

theorem describeRule_cases {env : Env} {rulesBefore : ℕ} {st : BuildState}
    {spec : RuleSpec} {s t : Session} {descriptor : RuleDescriptor}
    {anchor : Handle}
    (h : describeRule env rulesBefore st spec s =
      (some (descriptor, anchor), t)) :
    (resolvedSelector spec = kActionRewrite ∧
      ∃ kind, enforceModifyKind env spec s = (some kind, t) ∧
        supportsEnforcePayload spec.eventType = true ∧
        descriptor = enforceDescriptor spec kind (baseDescriptor spec) ∧
        anchor = 0) ∨
    (resolvedSelector spec = kActionMatchSubrules ∧ t = s ∧
      descriptor = subruleDescriptor s.rules (baseDescriptor spec) ∧
      anchor = subruleAnchor rulesBefore { st with session := s }) ∨
    (resolvedSelector spec ≠ kActionRewrite ∧
      resolvedSelector spec ≠ kActionMatchSubrules ∧ t = s ∧ anchor = 0 ∧
      descriptor =
        { baseDescriptor spec with
          eventQueue := if resolvedSelector spec = kActionQueueBacked then
            s.queueHandle else 0 }) := by
  unfold describeRule at h
  dsimp only at h
  by_cases hrewrite : resolvedSelector spec = kActionRewrite
  · rw [if_pos hrewrite] at h
    rcases hgate : enforceModifyKind env spec s with ⟨_ | kind, gated⟩
    · rw [hgate] at h
      cases h
    · rw [hgate] at h
      cases hpayload : supportsEnforcePayload spec.eventType with
      | false =>
          rw [hpayload] at h
          cases h
      | true =>
          rw [hpayload] at h
          cases h
          exact .inl ⟨hrewrite, kind, rfl, rfl, rfl, rfl⟩
  · rw [if_neg hrewrite] at h
    by_cases hchained : resolvedSelector spec = kActionMatchSubrules
    · rw [if_pos hchained] at h
      cases h
      exact .inr (.inl ⟨hchained, rfl, rfl, rfl⟩)
    · rw [if_neg hchained] at h
      by_cases hqueued : resolvedSelector spec = kActionQueueBacked
      · rw [if_pos hqueued] at h
        cases h
        exact .inr (.inr ⟨hrewrite, hchained, rfl, rfl, by rw [if_pos hqueued]⟩)
      · rw [if_neg hqueued] at h
        cases h
        exact .inr (.inr ⟨hrewrite, hchained, rfl, rfl, by rw [if_neg hqueued]; rfl⟩)

/-- The action of a rule changes the fields of its action only. -/
theorem describeRule_frame {env : Env} {rulesBefore : ℕ}
    {st : BuildState} {spec : RuleSpec} {s t : Session}
    {descriptor : RuleDescriptor} {anchor : Handle}
    (h : describeRule env rulesBefore st spec s =
      (some (descriptor, anchor), t)) :
    descriptor =
      { baseDescriptor spec with
        eventModifyCount := descriptor.eventModifyCount
        eventModifySize := descriptor.eventModifySize
        eventModifyPtr := descriptor.eventModifyPtr
        eventQueue := descriptor.eventQueue
        subruleArray := descriptor.subruleArray } := by
  rcases describeRule_cases h with
    ⟨_, kind, _, _, rfl, _⟩ | ⟨_, _, rfl, _⟩ | ⟨_, _, _, _, rfl⟩
  · rfl
  · unfold subruleDescriptor
    split
    · rfl
    · rfl
  · rfl

theorem describeRule_selector {env : Env} {rulesBefore : ℕ}
    {st : BuildState} {spec : RuleSpec} {s t : Session}
    {descriptor : RuleDescriptor} {anchor : Handle}
    (h : describeRule env rulesBefore st spec s =
      (some (descriptor, anchor), t)) :
    descriptor.actionSelector = resolvedSelector spec := by
  rw [describeRule_frame h]
  rfl

/-! ## One iteration of the build loop -/

/-- The iteration comes to call `EspCreateRule`: `t` is the session when the
descriptor is complete up to the filter. -/
structure ReachesCreate (env : Env) (rulesBefore : ℕ) (st : BuildState)
    (spec : RuleSpec) (index : ℕ) (filter : Handle)
    (descriptor : RuleDescriptor) (anchor : Handle) (t : Session) :
    Prop where
  typed : spec.eventType ≠ 0
  filtered : (filterRule env st spec index).1 = some filter
  agrees : selectorConflict spec = false
  described : describeRule env rulesBefore st spec
    (warnNotifySuppress spec (filterRule env st spec index).2) =
      (some (descriptor, anchor), t)

theorem filterRule_extends (env : Env) (st : BuildState) (spec : RuleSpec)
    (index : ℕ) :
    Extends (Call.preparesRule spec) (st.session.atRule (some index))
      (filterRule env st spec index).2 :=
  Extends.of_script (tryBuildRuleFilter_script spec) _

theorem ReachesCreate.extends_ {env : Env} {rulesBefore : ℕ}
    {st : BuildState} {spec : RuleSpec} {index : ℕ} {filter : Handle}
    {descriptor : RuleDescriptor} {anchor : Handle} {t : Session}
    (h : ReachesCreate env rulesBefore st spec index filter descriptor
      anchor t) :
    Extends (Call.preparesRule spec) (st.session.atRule (some index)) t := by
  have hdescribed := describeRule_extends env rulesBefore st spec
    (P := Call.preparesRule spec) (fun hneeds => .inr ⟨rfl, hneeds⟩)
    (warnNotifySuppress spec (filterRule env st spec index).2)
  rw [h.described] at hdescribed
  exact ((filterRule_extends env st spec index).trans
    (warnNotifySuppress_extends spec _)).trans hdescribed

theorem buildRule_cases (env : Env) (rulesBefore : ℕ) (st : BuildState)
    (spec : RuleSpec) (index : ℕ) :
    (∃ t, buildRule env rulesBefore st (spec, index) = st.refuse t ∧
      Extends (Call.preparesRule spec) (st.session.atRule (some index)) t) ∨
    (∃ filter descriptor anchor t,
      ReachesCreate env rulesBefore st spec index filter descriptor
        anchor t ∧
      buildRule env rulesBefore st (spec, index) =
        createRule env st index spec filter descriptor anchor t) := by
  have hfilter := filterRule_extends env st spec index
  unfold buildRule
  dsimp only
  by_cases htype : spec.eventType = 0
  · rw [if_pos htype]
    exact .inl ⟨_, rfl, Extends.of_warn _ _⟩
  · rw [if_neg htype]
    cases hfiltered : (filterRule env st spec index).1 with
    | none => exact .inl ⟨_, rfl, hfilter⟩
    | some filter =>
        dsimp only
        by_cases hconflict : selectorConflict spec = true
        · rw [if_pos hconflict]
          exact .inl ⟨_, rfl, hfilter.trans (Extends.of_warn _ _)⟩
        · rw [if_neg hconflict]
          have hwarned := hfilter.trans
            (warnNotifySuppress_extends spec
              (filterRule env st spec index).2)
          have hdescribed := describeRule_extends env rulesBefore st spec
            (P := Call.preparesRule spec) (fun hneeds => .inr ⟨rfl, hneeds⟩)
            (warnNotifySuppress spec (filterRule env st spec index).2)
          rcases hdescribe : describeRule env rulesBefore st spec
            (warnNotifySuppress spec (filterRule env st spec index).2) with
            ⟨_ | ⟨descriptor, anchor⟩, t⟩
          · rw [hdescribe] at hdescribed
            exact .inl ⟨t, rfl, hwarned.trans hdescribed⟩
          · exact .inr ⟨filter, descriptor, anchor, t,
              ⟨htype, hfiltered, by simpa using hconflict, hdescribe⟩, rfl⟩

/-! ## The create call -/

def createEvent (env : Env) (spec : RuleSpec) (filter : Handle)
    (descriptor : RuleDescriptor) (t : Session) : Event :=
  let attached := attachRule env spec filter descriptor t
  ⟨t.journal.tag, .createRule attached.1,
    env.respond attached.2.log (.createRule attached.1)⟩

theorem attachRule_extends (env : Env) (spec : RuleSpec) (filter : Handle)
    (descriptor : RuleDescriptor) (t : Session) :
    Extends (Call.preparesRule spec) t
      (attachRule env spec filter descriptor t).2 :=
  Extends.of_script (attachFilterToDescriptor_script _ _ _) t

theorem attachRule_tag (env : Env) (spec : RuleSpec) (filter : Handle)
    (descriptor : RuleDescriptor) (t : Session) :
    (attachRule env spec filter descriptor t).2.journal.tag =
      t.journal.tag := by
  have hextends := attachRule_extends env spec filter descriptor t
  exact hextends.grows.1

theorem attachRule_frame (env : Env) (spec : RuleSpec) (filter : Handle)
    (descriptor : RuleDescriptor) (t : Session) :
    (attachRule env spec filter descriptor t).1 =
      { descriptor with
        filterSlots :=
          (attachRule env spec filter descriptor t).1.filterSlots
        eventConfig :=
          (attachRule env spec filter descriptor t).1.eventConfig } := by
  have hslot (node : FilterNode) (config : RuleDescriptor) :
      attachDescriptorFilter config node filter =
        { config with
          filterSlots :=
            (attachDescriptorFilter config node filter).filterSlots } := by
    unfold attachDescriptorFilter
    dsimp only
    split
    · rfl
    · rfl
  simp only [attachRule, Session.run, attachFilterToDescriptor]
  split
  · rfl
  · split
    · split
      · simp only [pure_run]
        rw [hslot]
        rfl
      · rfl
    · split
      · rfl
      · split
        · rfl
        · split
          · rfl
          · split
            · rfl
            · split
              · simp only [pure_run]
                rw [hslot]
              · rfl

theorem createRule_cases (env : Env) (st : BuildState) (index : ℕ)
    (spec : RuleSpec) (filter : Handle) (descriptor : RuleDescriptor)
    (anchor : Handle) (t : Session) :
    ∃ u : Session, u = { t with journal := u.journal } ∧
      u.log = (attachRule env spec filter descriptor t).2.log ++
        [createEvent env spec filter descriptor t] ∧
      ((createdRule (createEvent env spec filter descriptor t) = none ∧
        createRule env st index spec filter descriptor anchor t =
          st.refuse u) ∨
      (∃ rule, createdRule (createEvent env spec filter descriptor t) =
          some rule ∧
        createRule env st index spec filter descriptor anchor t =
          { st with
            session := { u with rules := u.rules ++ [rule] }
            entries := st.entries ++ [{ rule := rule }]
            origins := st.origins ++ [index]
            subruleAnchors := st.subruleAnchors ++ [anchor] })) := by
  let attached := attachRule env spec filter descriptor t
  let reply := attached.2.run (ask env.respond (.createRule attached.1))
  let u := (reply.2.run
    (record ("EspCreateRule:" ++ spec.label) reply.1.result)).2
  have hlog : u.log = attached.2.log ++
      [createEvent env spec filter descriptor t] := by
    change attached.2.log ++ [⟨attached.2.journal.tag, _, _⟩] = _
    rw [attachRule_tag]
    rfl
  refine ⟨u, rfl, hlog, ?_⟩
  by_cases hreply :
      (failed reply.1.result || reply.1.out == 0) = true
  · refine .inl ⟨?_, ?_⟩
    · exact if_pos hreply
    · unfold createRule
      exact if_pos hreply
  · refine .inr ⟨reply.1.out, ?_, ?_⟩
    · exact if_neg hreply
    · unfold createRule
      exact if_neg hreply

/-- The predecessor in the subrule array of a match-subrules rule with
subrule count one. -/
def subrulePredecessor (e : Event) : Option Handle :=
  match e.call with
  | .createRule descriptor =>
      if descriptor.actionSelector = kActionMatchSubrules ∧
          descriptor.eventQueue = 1 then
        descriptor.subruleArray.bind List.head?
      else none
  | _ => none

/-- A rule is chained to the newest rule of the session, and its anchor says
whether that rule was made by the same call. -/
theorem ReachesCreate.predecessor {env : Env} {rulesBefore : ℕ}
    {st : BuildState} {spec : RuleSpec} {index : ℕ} {filter : Handle}
    {descriptor : RuleDescriptor} {anchor : Handle} {t : Session}
    (h : ReachesCreate env rulesBefore st spec index filter descriptor
      anchor t)
    {parent : Handle}
    (hparent : subrulePredecessor
      (createEvent env spec filter descriptor t) = some parent) :
    st.session.rules.getLast? = some parent ∧
      anchor = subruleAnchor rulesBefore st := by
  have hrules :
      (warnNotifySuppress spec (filterRule env st spec index).2).rules =
        st.session.rules :=
    ((filterRule_extends env st spec index).trans
      (warnNotifySuppress_extends spec _)).rules
  unfold subrulePredecessor createEvent at hparent
  dsimp only at hparent
  rw [attachRule_frame] at hparent
  dsimp only at hparent
  split at hparent
  · rename_i hchain
    obtain ⟨hseven, hcount⟩ := hchain
    have hselector := (describeRule_selector h.described).symm.trans hseven
    rcases describeRule_cases h.described with
      ⟨hrewrite, _⟩ | ⟨_, _, hdescriptor, hanchor⟩ | ⟨_, hother, _⟩
    · rw [hrewrite] at hselector
      cases hselector
    · rw [hrules] at hdescriptor
      subst hdescriptor
      refine ⟨?_, ?_⟩
      · unfold subruleDescriptor at hparent hcount
        split at hparent
        · rename_i hempty
          rw [hempty] at hcount
          cases hcount
        · rename_i predecessor hlast
          rw [hlast]
          exact hparent
      · rw [hanchor]
        unfold subruleAnchor
        rw [hrules]
    · exact absurd hselector hother
  · cases hparent

/-- What an iteration of the build loop leaves behind: `new` is what it
logged and `made` the entry it added. -/
structure BuildStep (rulesBefore : ℕ) (spec : RuleSpec)
    (st st' : BuildState) (index : ℕ) (new : List Event)
    (made : Option Pending) : Prop where
  log : st'.session.log = st.session.log ++ new
  tagged : ∀ e ∈ new, e.tag = some index
  client : st'.session.clientHandle = st.session.clientHandle
  queue : st'.session.queueHandle = st.session.queueHandle
  enforceCompat : st'.session.enforceCompat = st.session.enforceCompat
  entries : st'.entries = st.entries ++ made.toList.map Pending.entry
  origins : st'.origins = st.origins ++ made.toList.map Pending.origin
  anchors : st'.subruleAnchors =
    st.subruleAnchors ++ made.toList.map Pending.anchor
  rules : st'.session.rules =
    st.session.rules ++ made.toList.map fun p => p.entry.rule
  allOk : st'.allOk = (st.allOk && made.isSome)
  quiet : ∀ e ∈ new, acceptedRule e = none ∧ closedRule e = none ∧
    ∀ client entries, e.call ≠ .updateRules client entries
  created : new.filterMap createdRule =
    made.toList.map fun p => p.entry.rule
  entry : ∀ p ∈ made, p.origin = index ∧ p.entry = { rule := p.entry.rule }
  chained : ∀ p ∈ made, ∀ e ∈ new, createdRule e = some p.entry.rule →
    ∀ parent ∈ subrulePredecessor e,
      st.session.rules.getLast? = some parent ∧
        p.anchor = subruleAnchor rulesBefore st
  patches : ∀ e ∈ new, e.call = .applyFromFfiCompatPatch → NeedsPatch spec
  cached : PatchCached st.session → PatchCached st'.session

theorem SparesRules.quiet {e : Event} (h : SparesRules e) :
    acceptedRule e = none ∧ closedRule e = none ∧
      ∀ client entries, e.call ≠ .updateRules client entries :=
  ⟨h.2.1, h.2.2.1, h.2.2.2.2⟩

theorem filterMap_createdRule_of_spares {new : List Event}
    (h : ∀ e ∈ new, SparesRules e) : new.filterMap createdRule = [] := by
  rw [List.filterMap_eq_nil_iff]
  intro e he
  exact (h e he).1

theorem BuildStep.of_refuse {rulesBefore : ℕ} {spec : RuleSpec}
    {st : BuildState} {index : ℕ} {t : Session}
    (h : Extends (Call.preparesRule spec) (st.session.atRule (some index)) t) :
    ∃ new, BuildStep rulesBefore spec st (st.refuse t) index new none := by
  obtain ⟨new, hlog, _, hnew⟩ := h.new
  have hspares : ∀ e ∈ new, SparesRules e :=
    fun e he => sparesRules_of_preparesRule (hnew e he).2
  refine ⟨new, ?_⟩
  exact
    { log := hlog
      tagged := fun e he => (hnew e he).1
      client := h.clientHandle
      queue := h.queueHandle
      enforceCompat := h.enforceCompat
      entries := (List.append_nil _).symm
      origins := (List.append_nil _).symm
      anchors := (List.append_nil _).symm
      rules := h.rules.trans (List.append_nil _).symm
      allOk := (Bool.and_false _).symm
      quiet := fun e he => (hspares e he).quiet
      created := filterMap_createdRule_of_spares hspares
      entry := by simp
      chained := by simp
      patches := fun e he => needsPatch_of_preparesRule (hnew e he).2
      cached := fun hs => h.cached (hs.atRule _) }

theorem ReachesCreate.new {env : Env} {rulesBefore : ℕ} {st : BuildState}
    {spec : RuleSpec} {index : ℕ} {filter : Handle}
    {descriptor : RuleDescriptor} {anchor : Handle} {t : Session}
    (h : ReachesCreate env rulesBefore st spec index filter descriptor
      anchor t) :
    ∃ prepared,
      (attachRule env spec filter descriptor t).2.log =
        st.session.log ++ prepared ∧
      (∀ e ∈ prepared, e.tag = some index ∧
        e.call.preparesRule spec) ∧
      (createEvent env spec filter descriptor t).tag = some index := by
  have hattached := h.extends_.trans
    (attachRule_extends env spec filter descriptor t)
  obtain ⟨prepared, hlog, _, hprepared⟩ := hattached.new
  exact ⟨prepared, hlog, hprepared, h.extends_.grows.1⟩

theorem createEvent_quiet (env : Env) (spec : RuleSpec) (filter : Handle)
    (descriptor : RuleDescriptor) (t : Session) :
    acceptedRule (createEvent env spec filter descriptor t) = none ∧
      closedRule (createEvent env spec filter descriptor t) = none ∧
      ∀ client entries, (createEvent env spec filter descriptor t).call ≠
        .updateRules client entries :=
  ⟨rfl, rfl, fun _ _ => nofun⟩

theorem BuildStep.of_create {env : Env} {rulesBefore : ℕ} {st : BuildState}
    {spec : RuleSpec} {index : ℕ} {filter : Handle}
    {descriptor : RuleDescriptor} {anchor : Handle} {t : Session}
    (h : ReachesCreate env rulesBefore st spec index filter descriptor
      anchor t) :
    ∃ new made, BuildStep rulesBefore spec st
      (createRule env st index spec filter descriptor anchor t)
      index new made := by
  obtain ⟨prepared, hlog, hprepared, htag⟩ := h.new
  obtain ⟨u, huframe, hulog, houtcome⟩ :=
    createRule_cases env st index spec filter descriptor anchor t
  let event := createEvent env spec filter descriptor t
  have hattached := h.extends_.trans
    (attachRule_extends env spec filter descriptor t)
  have hspares : ∀ e ∈ prepared, SparesRules e :=
    fun e he => sparesRules_of_preparesRule (hprepared e he).2
  have hlog' : u.log = st.session.log ++ (prepared ++ [event]) := by
    rw [hulog, hlog, List.append_assoc]
  have hrules : u.rules = st.session.rules := by
    rw [huframe]
    exact h.extends_.rules
  have hclient : u.clientHandle = st.session.clientHandle := by
    rw [huframe]
    exact h.extends_.clientHandle
  have hqueue : u.queueHandle = st.session.queueHandle := by
    rw [huframe]
    exact h.extends_.queueHandle
  have hcompat : u.enforceCompat = st.session.enforceCompat := by
    rw [huframe]
    exact h.extends_.enforceCompat
  have htagged : ∀ e ∈ prepared ++ [event], e.tag = some index := by
    intro e he
    rcases List.mem_append.mp he with he | he
    · exact (hprepared e he).1
    · rw [List.mem_singleton] at he
      rw [he]
      exact htag
  have hquiet : ∀ e ∈ prepared ++ [event], acceptedRule e = none ∧
      closedRule e = none ∧
      ∀ client entries, e.call ≠ .updateRules client entries := by
    intro e he
    rcases List.mem_append.mp he with he | he
    · exact (hspares e he).quiet
    · rw [List.mem_singleton] at he
      rw [he]
      exact createEvent_quiet env spec filter descriptor t
  have hpatches : ∀ e ∈ prepared ++ [event],
      e.call = .applyFromFfiCompatPatch → NeedsPatch spec := by
    intro e he hcall
    rcases List.mem_append.mp he with he | he
    · exact needsPatch_of_preparesRule (hprepared e he).2 hcall
    · rw [List.mem_singleton] at he
      subst he
      cases hcall
  have hcreated : (prepared ++ [event]).filterMap createdRule =
      (createdRule event).toList := by
    rw [List.filterMap_append, filterMap_createdRule_of_spares hspares]
    cases hevent : createdRule event with
    | none => simp [hevent]
    | some rule => simp [hevent]
  have hcached (hs : PatchCached st.session) : PatchCached u := by
    -- the patch cache is the one of `t`; attaching and creating do not patch
    have ht := h.extends_.cached (hs.atRule _)
    have hscript : BuildScript env (attachFilterToDescriptor env
        t.filterContext descriptor spec filter) :=
      attachFilterToDescriptor_script descriptor spec filter
    obtain ⟨attaching, hattaching, _, hnew⟩ :=
      (Extends.of_run hscript (by simp [Call.buildsObjects]) t).new
    have hulog' : u.log = t.log ++ (attaching ++ [event]) := by
      rw [hulog, ← List.append_assoc, ← hattaching]
      rfl
    refine ht.extend hulog' ?_ ?_ ?_
    · intro e he hcall
      rcases List.mem_append.mp he with he | he
      · have hbuilds := (hnew e he).2
        rw [hcall] at hbuilds
        cases hbuilds
      · rw [List.mem_singleton] at he
        subst he
        cases hcall
    · rw [huframe]
    · rw [huframe]
  rcases houtcome with ⟨hnone, hrefuse⟩ | ⟨rule, hsome, hcreate⟩
  · rw [hrefuse]
    refine ⟨prepared ++ [event], none, ?_⟩
    exact
      { log := hlog'
        tagged := htagged
        client := hclient
        queue := hqueue
        enforceCompat := hcompat
        entries := (List.append_nil _).symm
        origins := (List.append_nil _).symm
        anchors := (List.append_nil _).symm
        rules := hrules.trans (List.append_nil _).symm
        allOk := (Bool.and_false _).symm
        quiet := hquiet
        created := by
          rw [hcreated, hnone]
          rfl
        entry := by simp
        chained := by simp
        patches := hpatches
        cached := hcached }
  · rw [hcreate]
    refine ⟨prepared ++ [event],
      some ⟨{ rule := rule }, index, anchor⟩, ?_⟩
    exact
      { log := hlog'
        tagged := htagged
        client := hclient
        queue := hqueue
        enforceCompat := hcompat
        entries := rfl
        origins := rfl
        anchors := rfl
        rules := by
          dsimp only
          rw [hrules]
          rfl
        allOk := (Bool.and_true _).symm
        quiet := hquiet
        created := by
          rw [hcreated, hsome]
          rfl
        entry := by
          intro p hp
          cases hp
          exact ⟨rfl, rfl⟩
        chained := by
          intro p hp e he hrule parent hparent
          cases hp
          rcases List.mem_append.mp he with he | he
          · rw [(hspares e he).1] at hrule
            cases hrule
          · rw [List.mem_singleton] at he
            subst he
            exact h.predecessor hparent
        patches := hpatches
        cached := fun hs => ⟨(hcached hs).untried, (hcached hs).once,
          (hcached hs).applied⟩ }

theorem buildRule_step (env : Env) (rulesBefore : ℕ) (st : BuildState)
    (spec : RuleSpec) (index : ℕ) :
    ∃ new made, BuildStep rulesBefore spec st
      (buildRule env rulesBefore st (spec, index)) index new made := by
  rcases buildRule_cases env rulesBefore st spec index with
    ⟨t, heq, hextends⟩ | ⟨filter, descriptor, anchor, t, hreaches, heq⟩
  · rw [heq]
    obtain ⟨new, hstep⟩ := BuildStep.of_refuse hextends
    exact ⟨new, none, hstep⟩
  · rw [heq]
    exact BuildStep.of_create hreaches

/-! ## One iteration of the submit loop -/

def Submits (client : Handle) (pending : Pending) (tried : List Event) :
    Prop :=
  tried = [] ∨ ∃ reply, tried =
    [⟨some pending.origin, .updateRules client [pending.entry], reply⟩]

theorem submitRuleBatch_of_available {env : Env}
    (h : env.available .updateRules = true) (client : Handle)
    (entries : List RuleUpdateEntry) (j : Journal) :
    let reply := env.respond j.log (.updateRules client entries)
    submitRuleBatch env client entries j =
      (succeeded reply.result,
        (record "EspUpdateRules" reply.result
          (ask env.respond (.updateRules client entries) j).2).2) := by
  simp only [submitRuleBatch, require, if_pos h]
  rfl

theorem submitRuleBatch_of_missing {env : Env}
    (h : env.available .updateRules = false) (client : Handle)
    (entries : List RuleUpdateEntry) (j : Journal) :
    submitRuleBatch env client entries j =
      (false, (require env .updateRules j).2) := by
  simp only [submitRuleBatch, require, h, Bool.false_eq_true, if_false]
  rfl

theorem acceptedRule_update (tag : Option ℕ) (client : Handle)
    (entry : RuleUpdateEntry) (reply : Reply) :
    acceptedRule ⟨tag, .updateRules client [entry], reply⟩ =
      if succeeded reply.result then some entry.rule else none := rfl

theorem submitRuleBatch_run (env : Env) (s : Session) (pending : Pending)
    (htag : s.journal.tag = some pending.origin) :
    ∃ tried, Submits s.clientHandle pending tried ∧
      (s.run (submitRuleBatch env s.clientHandle [pending.entry])).2.log =
        s.log ++ tried ∧
      (s.run (submitRuleBatch env s.clientHandle
        [pending.entry])).2.journal.tag = s.journal.tag ∧
      tried.filterMap acceptedRule =
        if (s.run (submitRuleBatch env s.clientHandle [pending.entry])).1
        then [pending.entry.rule] else [] := by
  unfold Session.run Session.log
  dsimp only
  cases havailable : env.available .updateRules with
  | true =>
      let reply := env.respond s.journal.log
        (.updateRules s.clientHandle [pending.entry])
      rw [submitRuleBatch_of_available havailable]
      refine ⟨[⟨some pending.origin,
        .updateRules s.clientHandle [pending.entry], reply⟩],
        .inr ⟨reply, rfl⟩, ?_, rfl, ?_⟩
      · rw [← htag]
        rfl
      · rw [List.filterMap_cons, acceptedRule_update]
        cases succeeded reply.result with
        | true => rfl
        | false => rfl
  | false =>
      rw [submitRuleBatch_of_missing havailable]
      refine ⟨[], .inl rfl, ?_, ?_, rfl⟩
      · simp [require, havailable, bind_run, pure_run, warn, note_run]
      · simp [require, havailable, bind_run, pure_run, warn, note_run]

def slotToClose (canClose : Bool) (slot : ℕ) (rules : List Handle) :
    List Handle :=
  if rules.getD slot 0 ≠ 0 ∧ canClose then [rules.getD slot 0] else []

theorem closeLedgerSlot_spec (env : Env) (canClose : Bool) (slot : ℕ)
    (s : Session) :
    ∃ closing : List Event,
      closeLedgerSlot env canClose slot s =
        { s with
          journal := (closeLedgerSlot env canClose slot s).journal
          rules := s.rules.set slot 0 } ∧
      (closeLedgerSlot env canClose slot s).log = s.log ++ closing ∧
      (∀ e ∈ closing, e.tag = s.journal.tag ∧ ∃ rule, e.call = .closeRule rule) ∧
      closing.filterMap closedRule =
        slotToClose canClose slot s.rules := by
  by_cases hclose : s.rules.getD slot 0 ≠ 0 ∧ canClose = true
  · refine ⟨[⟨s.journal.tag, .closeRule (s.rules.getD slot 0),
      env.respond s.log (.closeRule (s.rules.getD slot 0))⟩], ?_, ?_, ?_, ?_⟩
    · rfl
    · simp only [closeLedgerSlot, closeRefused, if_pos hclose]
      rfl
    · intro e he
      rw [List.mem_singleton] at he
      subst he
      exact ⟨rfl, _, rfl⟩
    · rw [slotToClose, if_pos hclose]
      rfl
  · refine ⟨[], ?_, ?_, by simp, ?_⟩
    · rfl
    · simp only [closeLedgerSlot, closeRefused, if_neg hclose,
        List.append_nil]
      rfl
    · rw [slotToClose, if_neg hclose]
      rfl

/-- What an iteration of the submit loop leaves behind: `tried` is its
submission and `closing` the close of a refused rule. -/
structure SubmitStep (canClose : Bool) (slot : ℕ) (pending : Pending)
    (st st' : SubmitState) (tried closing : List Event) (ok : Bool) :
    Prop where
  log : st'.session.log = st.session.log ++ (tried ++ closing)
  client : st'.session.clientHandle = st.session.clientHandle
  submits : Submits st.session.clientHandle pending tried
  anchored : tried ≠ [] →
    pending.anchor = 0 ∨ pending.anchor ∉ st.rejectedHandles
  accepted : tried.filterMap acceptedRule =
    if ok then [pending.entry.rule] else []
  closes : ∀ e ∈ closing,
    e.tag = some pending.origin ∧ ∃ rule, e.call = .closeRule rule
  closed : closing.filterMap closedRule =
    if ok then [] else slotToClose canClose slot st.session.rules
  committed : st'.committed = st.committed + if ok then 1 else 0
  refused : st'.refusedAtSubmit = st.refusedAtSubmit + if ok then 0 else 1
  rejected : st'.rejectedHandles =
    st.rejectedHandles ++ if ok then [] else [pending.entry.rule]
  rules : st'.session.rules =
    if ok then st.session.rules else st.session.rules.set slot 0
  cached : PatchCached st.session → PatchCached st'.session

theorem submitPending_run (env : Env) (rejectedHandles : List Handle)
    (s : Session) (pending : Pending)
    (htag : s.journal.tag = some pending.origin) :
    let submitted := s.run
      (submitPending env s.clientHandle rejectedHandles pending)
    ∃ tried, submitted.2.log = s.log ++ tried ∧
      submitted.2.journal.tag = some pending.origin ∧
      Submits s.clientHandle pending tried ∧
      (tried ≠ [] →
        pending.anchor = 0 ∨ pending.anchor ∉ rejectedHandles) ∧
      tried.filterMap acceptedRule =
        if submitted.1 then [pending.entry.rule] else [] := by
  unfold submitPending
  by_cases hanchor :
      (pending.anchor != 0 && rejectedHandles.contains pending.anchor) =
        true
  · rw [if_pos hanchor]
    exact ⟨[], (List.append_nil _).symm, htag, .inl rfl, by simp, rfl⟩
  · rw [if_neg hanchor]
    obtain ⟨tried, hsubmits, hlog, htag', haccepted⟩ :=
      submitRuleBatch_run env s pending htag
    refine ⟨tried, hlog, htag'.trans htag, hsubmits, fun _ => ?_, haccepted⟩
    simp only [Bool.and_eq_true, bne_iff_ne, ne_eq,
      List.contains_iff_mem, not_and] at hanchor
    by_cases hzero : pending.anchor = 0
    · exact .inl hzero
    · exact .inr (hanchor hzero)

theorem Submits.ne_patch {client : Handle} {pending : Pending}
    {tried : List Event} (h : Submits client pending tried) :
    ∀ e ∈ tried, e.call ≠ .applyFromFfiCompatPatch := by
  rcases h with rfl | ⟨reply, rfl⟩
  · simp
  · intro e he
    rw [List.mem_singleton] at he
    subst he
    simp

theorem submitEntry_step (env : Env) (canClose : Bool) (rulesBefore : ℕ)
    (st : SubmitState) (pending : Pending) (index : ℕ) :
    ∃ tried closing ok,
      SubmitStep canClose (rulesBefore + index) pending st
        (submitEntry env canClose rulesBefore st (pending, index))
        tried closing ok := by
  let s := st.session.atRule (some pending.origin)
  let submitted := s.run
    (submitPending env s.clientHandle st.rejectedHandles pending)
  obtain ⟨tried, hlog, htag, hsubmits, hanchor, haccepted⟩ :=
    submitPending_run env st.rejectedHandles s pending rfl
  change submitted.2.log = st.session.log ++ tried at hlog
  have hcached : PatchCached st.session → PatchCached submitted.2 :=
    fun hs => hs.extend hlog hsubmits.ne_patch rfl rfl
  have hrules : submitted.2.rules = st.session.rules := rfl
  have hclient : submitted.2.clientHandle = st.session.clientHandle := rfl
  change ∃ tried closing ok,
    SubmitStep canClose (rulesBefore + index) pending st
      (if submitted.1 then
        { st with session := submitted.2, committed := st.committed + 1 }
      else
        { session := closeLedgerSlot env canClose (rulesBefore + index)
            submitted.2
          committed := st.committed
          refusedAtSubmit := st.refusedAtSubmit + 1
          rejectedHandles := st.rejectedHandles ++ [pending.entry.rule] })
      tried closing ok
  cases hok : submitted.1 with
  | true =>
      rw [hok] at haccepted
      refine ⟨tried, [], true, ?_⟩
      exact
        { log := by rw [List.append_nil]; exact hlog
          client := hclient
          submits := hsubmits
          anchored := hanchor
          accepted := haccepted
          closes := by simp
          closed := rfl
          committed := rfl
          refused := rfl
          rejected := (List.append_nil _).symm
          rules := hrules
          cached := hcached }
  | false =>
      rw [hok] at haccepted
      obtain ⟨closing, hslot, hclosing, hcloses, hclosed⟩ :=
        closeLedgerSlot_spec env canClose (rulesBefore + index) submitted.2
      refine ⟨tried, closing, false, ?_⟩
      exact
        { log := by
            simp only [Bool.false_eq_true, if_false]
            rw [hclosing, hlog, List.append_assoc]
          client := by
            simp only [Bool.false_eq_true, if_false]
            rw [hslot]
            exact hclient
          submits := hsubmits
          anchored := hanchor
          accepted := haccepted
          closes := by
            intro e he
            rw [← htag]
            exact hcloses e he
          closed := by
            rw [hclosed, hrules]
            rfl
          committed := rfl
          refused := rfl
          rejected := rfl
          rules := by
            simp only [Bool.false_eq_true, if_false]
            rw [hslot, hrules]
          cached := by
            intro hs
            simp only [Bool.false_eq_true, if_false]
            refine (hcached hs).extend hclosing ?_ ?_ ?_
            · intro e he hcall
              obtain ⟨rule, hrule⟩ := (hcloses e he).2
              rw [hcall] at hrule
              cases hrule
            · rw [hslot]
            · rw [hslot] }

end Esptool.Esp
