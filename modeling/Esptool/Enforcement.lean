import Esptool.CreateCalls
import Esptool.InstallLedger

/-!
# The enforcing action

The selector of a rule is resolved from a number, a name and an override, and
an enforcing rule passes five gates before its create call.  A rule that is
named `deny` keeps the enforcing selector up to the driver, and no create call
carries that selector unless the driver can enforce it.
-/

namespace Esptool.Esp

open Model Interaction

/-! ## One create call -/

theorem resolvedSelector_deny {spec : RuleSpec}
    (hdeny : spec.actionName = "deny")
    (hagrees : selectorConflict spec = false) :
    resolvedSelector spec = kActionRewrite := by
  have hnamed : namedSelector spec = kActionRewrite := by
    unfold namedSelector actionSelectorForName
    rw [if_pos hdeny]
    rfl
  unfold resolvedSelector
  cases hoverride : spec.selectorOverride with
  | none => rw [Option.getD_none, hnamed]
  | some override =>
      unfold selectorConflict at hagrees
      rw [hdeny, hoverride, hnamed] at hagrees
      simpa using hagrees

theorem enforceModifyKind_some {env : Env} {spec : RuleSpec} {s t : Session}
    {kind : ℕ} (h : enforceModifyKind env spec s = (some kind, t)) :
    (isEnforceCompatEventType spec.eventType = true →
      kind = kEventModifyKindFoCreate ∧ s.enforceCompat = true ∧
        t.enforceCompatPatchOk = true) ∧
      (isEnforceCompatEventType spec.eventType = false →
        kind = eventModifyKindForEvent spec.eventType) := by
  unfold enforceModifyKind at h
  by_cases hcompat : isEnforceCompatEventType spec.eventType = true
  · rw [if_pos hcompat] at h
    refine ⟨fun _ => ?_, fun hnot => by rw [hcompat] at hnot; cases hnot⟩
    cases hopted : s.enforceCompat with
    | false =>
        rw [hopted] at h
        cases h
    | true =>
        rw [hopted] at h
        cases hpatched : (ensureEnforceCompatPatch env s).1 with
        | false =>
            simp only [hpatched, Bool.not_true, Bool.not_false,
              Bool.false_eq_true, if_true, if_false, Prod.mk.injEq,
              reduceCtorEq, false_and] at h
        | true =>
            simp only [hpatched, Bool.not_true, Bool.false_eq_true,
              if_false, Prod.mk.injEq, Option.some.injEq] at h
            refine ⟨h.1.symm, rfl, ?_⟩
            rw [← h.2]
            exact ensureEnforceCompatPatch_ok hpatched
  · rw [if_neg hcompat] at h
    refine ⟨fun hyes => absurd hyes hcompat, fun _ => ?_⟩
    split at h
    · cases h
    · exact (Option.some.inj (congrArg Prod.fst h)).symm

theorem enforceModifyKind_eq_three {env : Env} {spec : RuleSpec}
    {s t : Session} {kind : ℕ}
    (h : enforceModifyKind env spec s = (some kind, t))
    (hpayload : supportsEnforcePayload spec.eventType = true) :
    kind = kEventModifyKindFoCreate := by
  obtain ⟨hcompat, hother⟩ := enforceModifyKind_some h
  cases htype : isEnforceCompatEventType spec.eventType with
  | true => exact (hcompat htype).1
  | false =>
      rw [supportsEnforcePayload_iff, htype] at hpayload
      have hcreate : spec.eventType = kEventFoCreate := by
        simpa using hpayload
      rw [hother htype, hcreate]
      rfl

structure EnforcingPayload (spec : RuleSpec) (descriptor : RuleDescriptor) :
    Prop where
  eventType : descriptor.eventType = spec.eventType
  supported : supportsEnforcePayload spec.eventType = true
  modifyCount : descriptor.eventModifyCount = 3
  modifySize : descriptor.eventModifySize = 16
  modifyList : ∃ entry, descriptor.eventModifyPtr =
    some { count := 1, entries := [entry] }
  disposition : descriptor.eventQueue = spec.modifyKindOverride.getD 3

theorem ReachesCreate.selector_eq {env : Env} {rulesBefore : ℕ}
    {st : BuildState} {spec : RuleSpec} {index : ℕ} {filter : Handle}
    {descriptor : RuleDescriptor} {anchor : Handle} {t : Session}
    (h : ReachesCreate env rulesBefore st spec index filter descriptor
      anchor t) :
    (attachRule env spec filter descriptor t).1.actionSelector =
      resolvedSelector spec := by
  have hselector := describeRule_selector h.described
  rw [attachRule_frame]
  exact hselector

theorem ReachesCreate.enforcing {env : Env} {rulesBefore : ℕ}
    {st : BuildState} {spec : RuleSpec} {index : ℕ} {filter : Handle}
    {descriptor : RuleDescriptor} {anchor : Handle} {t : Session}
    (h : ReachesCreate env rulesBefore st spec index filter descriptor
      anchor t)
    (hfive : (attachRule env spec filter descriptor t).1.actionSelector =
      kActionRewrite) :
    EnforcingPayload spec (attachRule env spec filter descriptor t).1 ∧
      (isEnforceCompatEventType spec.eventType = true →
        st.session.enforceCompat = true ∧
          t.enforceCompatPatchOk = true) := by
  have hselector := h.selector_eq.symm.trans hfive
  rcases describeRule_cases h.described with
    ⟨_, kind, hgate, hpayload, hdescriptor, _⟩ | ⟨hseven, _⟩ | ⟨hother, _⟩
  · have hkind := enforceModifyKind_eq_three hgate hpayload
    rw [attachRule_frame, hdescriptor, hkind]
    refine ⟨⟨rfl, hpayload, rfl, rfl, ⟨{}, rfl⟩, rfl⟩, fun hcompat => ?_⟩
    obtain ⟨_, hopted, hpatched⟩ :=
      (enforceModifyKind_some hgate).1 hcompat
    refine ⟨?_, hpatched⟩
    rw [← hopted]
    exact ((filterRule_extends env st spec index).trans
      (warnNotifySuppress_extends spec _)).enforceCompat.symm
  · rw [hseven] at hselector
    cases hselector
  · exact absurd hselector hother

/-! ## Sessions -/

/-- An operation of the session other than an install: it neither patches
nor touches the patch cache. -/
structure KeepsPatch (s t : Session) : Prop where
  log : ∃ new, t.log = s.log ++ new ∧
    ∀ e ∈ new, e.call ≠ .applyFromFfiCompatPatch
  attempted : t.enforceCompatPatchAttempted = s.enforceCompatPatchAttempted
  applied : t.enforceCompatPatchOk = s.enforceCompatPatchOk

inductive SessionRun (env : Env) : Session → Prop
  | fresh : SessionRun env Session.fresh
  | install {s : Session} (document : RuleDocument)
      (h : SessionRun env s) : SessionRun env (installRules env document s).2
  | other {s t : Session} (h : SessionRun env s) (hkeeps : KeepsPatch s t) :
      SessionRun env t

theorem patchCached_fresh : PatchCached Session.fresh where
  untried := by
    intro _ e he
    cases he
  once := Nat.zero_le 1
  applied := nofun

theorem SessionRun.patchCached {env : Env} {s : Session}
    (h : SessionRun env s) : PatchCached s := by
  induction h with
  | fresh => exact patchCached_fresh
  | install document _ ih =>
      obtain ⟨new, judged, hrun⟩ := installRules_run env document _
      exact hrun.cached ih
  | other _ hkeeps ih =>
      obtain ⟨new, hlog, hnew⟩ := hkeeps.log
      exact ih.extend hlog hnew hkeeps.attempted hkeeps.applied

/-- The patch stands in the log before the create call that relies on it. -/
theorem CreateCall.enforcing {env : Env} {document : RuleDocument}
    {s : Session} {before : List Event} {e : Event}
    (hcached : PatchCached s) (h : CreateCall env document s before e) :
    ∃ i spec descriptor, document.rules[i]? = some spec ∧ e.tag = some i ∧
      e.call = .createRule descriptor ∧
      (spec.actionName = "deny" →
        descriptor.actionSelector = kActionDeny) ∧
      (descriptor.actionSelector = kActionRewrite →
        EnforcingPayload spec descriptor ∧
          (isEnforceCompatEventType spec.eventType = true →
            s.enforceCompat = true ∧
              ∃ p ∈ before, p.call = .applyFromFfiCompatPatch ∧
                succeeded p.reply.result = true)) := by
  obtain ⟨i, spec, rulesBefore, st, filter, descriptor, anchor, t, hspec,
    hinside, hreaches, hevent, hbefore⟩ := h
  obtain ⟨_, _, _, htag⟩ := hreaches.new
  refine ⟨i, spec, (attachRule env spec filter descriptor t).1, hspec,
    hevent ▸ htag, by rw [hevent]; rfl, ?_, ?_⟩
  · intro hdeny
    rw [hreaches.selector_eq]
    exact resolvedSelector_deny hdeny hreaches.agrees
  · intro hfive
    obtain ⟨hpayload, hcompat⟩ := hreaches.enforcing hfive
    refine ⟨hpayload, fun htype => ?_⟩
    obtain ⟨hopted, hpatched⟩ := hcompat htype
    refine ⟨hinside.enforceCompat ▸ hopted, ?_⟩
    have hcachedT := hreaches.extends_.cached
      ((hinside.cached hcached).atRule _)
    obtain ⟨p, hp, hcall, hresult⟩ := hcachedT.applied hpatched
    obtain ⟨new, hlog, _⟩ :=
      (attachRule_extends env spec filter descriptor t).new
    refine ⟨p, ?_, hcall, hresult⟩
    rw [hbefore, hlog]
    exact List.mem_append_left _ hp

/-- The enforcing action is neither downgraded nor submitted where the driver
cannot enforce it, and the patch is tried at most once in a session. -/
theorem installRules_enforcing (env : Env) (s : Session)
    (hrun : SessionRun env s) (document : RuleDocument) :
    let t := (installRules env document s).2
    (t.log.countP fun e => e.call == .applyFromFfiCompatPatch) ≤ 1 ∧
      ∀ before e after descriptor,
        t.log = s.log ++ (before ++ e :: after) →
        e.call = .createRule descriptor →
        ∃ i spec, document.rules[i]? = some spec ∧ e.tag = some i ∧
          (spec.actionName = "deny" →
            descriptor.actionSelector = kActionDeny) ∧
          (descriptor.actionSelector = kActionRewrite →
            EnforcingPayload spec descriptor ∧
              (isEnforceCompatEventType spec.eventType = true →
                s.enforceCompat = true ∧
                  ∃ p ∈ s.log ++ before,
                    p.call = .applyFromFfiCompatPatch ∧
                      succeeded p.reply.result = true)) := by
  intro t
  refine ⟨(hrun.install document).patchCached.once, ?_⟩
  intro before e after descriptor hlog hcall
  obtain ⟨i, spec, carried, hspec, htag, hcarried, hdeny, henforcing⟩ :=
    (installRules_creates env document s before e after hlog descriptor
      hcall).enforcing hrun.patchCached
  have hsame : carried = descriptor :=
    Call.createRule.inj (hcarried.symm.trans hcall)
  rw [hsame] at hdeny henforcing
  exact ⟨i, spec, hspec, htag, hdeny, henforcing⟩

def denyProcessCreate : RuleDocument :=
  { rules := [{ eventType := 1000, actionName := "deny" },
      { eventType := 2000, actionName := "deny" }] }

theorem installRules_enforcing_denyProcessCreate :
    let s : Session :=
      { clientHandle := 7, queueHandle := 8, enforceCompat := true }
    (installRules oddArmingEnv denyProcessCreate s).1 = .partial_ ∧
      ((installRules oddArmingEnv denyProcessCreate s).2.log.countP
        fun e => e.call == .applyFromFfiCompatPatch) ≤ 1 := by
  intro s
  have hrun : SessionRun oddArmingEnv s :=
    .other .fresh ⟨⟨[], rfl, by simp⟩, rfl, rfl⟩
  exact ⟨by decide,
    (installRules_enforcing oddArmingEnv s hrun denyProcessCreate).1⟩

end Esptool.Esp
