import Esptool.CreateCalls
import Esptool.InstallLedger
import Esptool.Lib.Lifecycle

/-!
# Chains of match-subrules rules

Rules are opened by `EspCreateRule`, submitted by `EspUpdateRules` and closed
by `EspCloseRule`; a match-subrules rule refers to the newest rule before it.
All descriptors of an install are built before the first submission, so the
anchors and the list of rejected handles are what keeps a rule from being
submitted over a predecessor that was refused and closed.
-/

namespace Esptool.Esp

open Model Interaction

def submittedRule (e : Event) : Option Handle :=
  match e.call with
  | .updateRules _ [entry] => some entry.rule
  | _ => none

def ruleLifecycle : Lifecycle Event Handle where
  opens := createdRule
  submits := submittedRule
  grants e := succeeded e.reply.result
  closes := closedRule
  parent := subrulePredecessor

theorem ruleLifecycle_arms (e : Event) :
    ruleLifecycle.arms e = acceptedRule e := by
  have hsubmits : ruleLifecycle.submits e = submittedRule e := rfl
  have hgrants : ruleLifecycle.grants e = succeeded e.reply.result := rfl
  rw [Lifecycle.arms, hgrants, hsubmits]
  unfold submittedRule acceptedRule
  cases succeeded e.reply.result with
  | true => rfl
  | false =>
      rw [if_neg Bool.false_ne_true]
      split
      · rfl
      · rfl

theorem submittedRule_of_ne {e : Event}
    (h : ∀ client entries, e.call ≠ .updateRules client entries) :
    submittedRule e = none := by
  unfold submittedRule
  split
  · rename_i client entry hcall
    exact absurd hcall (h client [entry])
  · rfl

theorem onlyOpens_of_quiet {new : List Event}
    (h : ∀ e ∈ new, acceptedRule e = none ∧ closedRule e = none ∧
      ∀ client entries, e.call ≠ .updateRules client entries) :
    ruleLifecycle.OnlyOpens new := by
  intro e he
  obtain ⟨-, hclosed, hupdate⟩ := h e he
  exact ⟨submittedRule_of_ne hupdate, hclosed⟩

theorem onlyOpens_of_spares {new : List Event}
    (h : ∀ e ∈ new, SparesRules e) : ruleLifecycle.OnlyOpens new :=
  onlyOpens_of_quiet fun e he => (h e he).quiet

/-! ## The rules of one install after the build loop -/

/-- What the submit loop relies on: the older rules are armed, and the rules
just made are live, unarmed and distinct, and chained as their anchors say. -/
structure Staged (old : List Handle) (made : List Pending)
    (log : List Event) : Prop where
  sound : ruleLifecycle.Sound log
  armed : ∀ rule ∈ old, ruleLifecycle.armed log rule = true
  distinct : (made.map Pending.rule).Nodup
  live : ∀ p ∈ made, ruleLifecycle.live log p.rule = true
  unarmed : ∀ p ∈ made, ruleLifecycle.armed log p.rule = false
  anchored : ∀ before p after, made = before ++ p :: after →
    ∀ o ∈ ruleLifecycle.opener log p.rule,
      ∀ predecessor ∈ subrulePredecessor o,
        AnchorsTo old before p predecessor

theorem Built.createdRules {s : Session} {k : ℕ} {st : BuildState}
    {new : List Event} {made : List Pending} (h : Built s k st new made) :
    new.filterMap createdRule = made.map Pending.rule := by
  rw [filterMap_eq_map_snd, h.created, List.map_map]
  rfl

theorem Built.staged {s : Session} {k : ℕ} {st : BuildState}
    {new : List Event} {made : List Pending} (h : Built s k st new made)
    (hsound : ruleLifecycle.Sound s.log)
    (harmed : ∀ rule ∈ s.rules, ruleLifecycle.armed s.log rule = true)
    (hfresh : ruleLifecycle.OpensFresh st.session.log) :
    Staged s.rules made st.session.log := by
  have hquiet := onlyOpens_of_quiet h.quiet
  rw [h.log] at hfresh ⊢
  have hsound' := hsound.append_opens hquiet hfresh
  have hdistinct : (made.map Pending.rule).Nodup := by
    rw [← h.createdRules]
    exact hquiet.nodup hfresh
  have hopened (p : Pending) (hp : p ∈ made) :
      p.rule ∈ new.filterMap ruleLifecycle.opens := by
    change p.rule ∈ new.filterMap createdRule
    rw [h.createdRules]
    exact List.mem_map_of_mem hp
  refine
    { sound := hsound'
      armed := fun rule hrule => hsound'.armed_append (harmed rule hrule)
      distinct := hdistinct
      live := fun p hp => (hquiet.opened (hopened p hp)).1
      unarmed := fun p hp => (hquiet.opened (hopened p hp)).2.1
      anchored := ?_ }
  intro before p after hsplit o ho predecessor hpredecessor
  have hp : p ∈ made := by simp [hsplit]
  obtain ⟨_, _, o', ho', hopener, hopens⟩ := hquiet.opened (hopened p hp)
  rw [Option.mem_def, hopener, Option.some.injEq] at ho
  rw [← ho] at hpredecessor
  -- the opener is the create call of `p` itself, as handles are distinct
  have hfiled : (o'.tag, p.rule) ∈
      new.filterMap (filedUnder createdRule) := by
    refine List.mem_filterMap.mpr ⟨o', ho', ?_⟩
    change (createdRule o').map _ = _
    rw [show createdRule o' = some p.rule from hopens]
    rfl
  rw [h.created] at hfiled
  obtain ⟨q, hq, hpair⟩ := List.mem_map.mp hfiled
  rw [Prod.mk.injEq] at hpair
  have hsame : q = p := List.inj_on_of_nodup_map hdistinct hq hp hpair.2
  rw [hsame] at hpair
  exact h.chained before p after hsplit o' ho' hpair.1.symm hopens
    predecessor hpredecessor

/-! ## The submit loop -/

/-- After `m` submissions: the accepted rules are armed, the rest is as the
build loop left it. -/
structure Arming (old : List Handle) (made : List Pending)
    (start : List Event) (m : ℕ) (log : List Event)
    (judged : List Judged) : Prop where
  sound : ruleLifecycle.Sound log
  older : ∀ rule ∈ old, ruleLifecycle.armed log rule = true
  accepted : ∀ v ∈ judged, v.2 = true →
    ruleLifecycle.armed log v.1.rule = true
  live : ∀ p ∈ made.drop m, ruleLifecycle.live log p.rule = true
  unarmed : ∀ p ∈ made.drop m, ruleLifecycle.armed log p.rule = false
  opener : ∀ rule,
    ruleLifecycle.opener log rule = ruleLifecycle.opener start rule

theorem Arming.init {old : List Handle} {made : List Pending}
    {start : List Event} (h : Staged old made start) :
    Arming old made start 0 start [] where
  sound := h.sound
  older := h.armed
  accepted := by simp
  live := fun p hp => h.live p (by simpa using hp)
  unarmed := fun p hp => h.unarmed p (by simpa using hp)
  opener := fun _ => rfl

theorem Arming.predecessor_armed {old : List Handle} {made : List Pending}
    {start log : List Event} {m : ℕ} {judged : List Judged} {p : Pending}
    (h : Arming old made start m log judged)
    (hstaged : Staged old made start)
    (hjudges : judged.map Prod.fst = made.take m)
    (hnonzero : ∀ q ∈ made, q.rule ≠ 0) (hp : made[m]? = some p)
    (hanchor : p.anchor = 0 ∨ p.anchor ∉ refusedRules judged)
    {o : Event} (ho : o ∈ ruleLifecycle.opener log p.rule)
    {predecessor : Handle} (hpredecessor : predecessor ∈ subrulePredecessor o) :
    ruleLifecycle.armed log predecessor = true := by
  obtain ⟨hm, hget⟩ := List.getElem?_eq_some_iff.mp hp
  have hsplit : made = made.take m ++ p :: made.drop (m + 1) := by
    rw [← hget, ← List.drop_eq_getElem_cons hm, List.take_append_drop]
  rw [h.opener] at ho
  rcases hstaged.anchored _ p _ hsplit o ho predecessor hpredecessor with
    ⟨_, hold⟩ | ⟨hsame, hbefore⟩
  · exact h.older predecessor hold
  · -- made by this call: it was judged, and not refused
    rw [← hjudges, List.map_map] at hbefore
    obtain ⟨v, hv, hrule⟩ := List.mem_map.mp hbefore
    have hvmade : v.1 ∈ made := by
      have hmem : v.1 ∈ judged.map Prod.fst := List.mem_map_of_mem hv
      rw [hjudges] at hmem
      exact List.mem_of_mem_take hmem
    have hok : v.2 = true := by
      by_contra hfalse
      have hrefused : p.anchor ∈ refusedRules judged :=
        mem_refusedRules.mpr
          ⟨v, hv, by simpa using hfalse, hrule.trans hsame.symm⟩
      rcases hanchor with hzero | hnot
      · have hpredecessorZero : predecessor = 0 := hsame.symm.trans hzero
        exact hnonzero v.1 hvmade (hrule.trans hpredecessorZero)
      · exact hnot hrefused
    rw [← hrule]
    exact h.accepted v hv hok

theorem sound_append_submits {log tried : List Event} {client : Handle}
    {p : Pending} (hsound : ruleLifecycle.Sound log)
    (hsubmits : Submits client p tried)
    (hlive : ruleLifecycle.live log p.rule = true)
    (hpredecessor : tried ≠ [] → ∀ o ∈ ruleLifecycle.opener log p.rule,
      ∀ predecessor ∈ subrulePredecessor o,
        ruleLifecycle.armed log predecessor = true) :
    ruleLifecycle.Sound (log ++ tried) := by
  rcases hsubmits with rfl | ⟨reply, rfl⟩
  · rwa [List.append_nil]
  · have hrule (handle : Handle)
        (h : ruleLifecycle.submits ⟨some p.origin,
          .updateRules client [p.entry], reply⟩ = some handle) :
        handle = p.rule := (Option.some.inj h).symm
    refine Lifecycle.sound_concat_iff.mpr ⟨hsound, ?_⟩
    exact
      { fresh := fun handle h => by cases h
        spares := fun handle h => by cases h
        opened := fun handle h => by rw [hrule handle h]; exact hlive
        anchored := fun handle h => by
          rw [hrule handle h]
          exact hpredecessor (by simp)
        single := fun handle h => ⟨rfl, rfl⟩ }

theorem armed_append_submits {log tried : List Event} {client : Handle}
    {p : Pending} {ok : Bool} (hsubmits : Submits client p tried)
    (haccepted : tried.filterMap acceptedRule =
      if ok then [p.rule] else [])
    (hunarmed : ruleLifecycle.armed log p.rule = false) :
    ruleLifecycle.armed (log ++ tried) p.rule = ok := by
  rcases hsubmits with rfl | ⟨reply, rfl⟩
  · cases ok with
    | true => cases haccepted
    | false => rwa [List.append_nil]
  · rw [Lifecycle.armed_concat, Lifecycle.armedStep, ruleLifecycle_arms,
      hunarmed]
    rw [List.filterMap_cons, acceptedRule_update] at haccepted
    rw [acceptedRule_update]
    cases hresult : succeeded reply.result with
    | true =>
        rw [hresult] at haccepted
        cases ok with
        | true => simp [Pending.rule]
        | false => cases haccepted
    | false =>
        rw [hresult] at haccepted
        cases ok with
        | true => cases haccepted
        | false => simp

theorem ignores_of_submits {client : Handle} {p : Pending}
    {tried : List Event} (hsubmits : Submits client p tried)
    {rule : Handle} (hne : rule ≠ p.rule) :
    ∀ e ∈ tried, ruleLifecycle.Ignores e rule := by
  rcases hsubmits with rfl | ⟨reply, rfl⟩
  · simp
  · intro e he
    rw [List.mem_singleton] at he
    subst he
    refine ⟨nofun, ?_, nofun⟩
    intro harms
    have hsubmitted := Lifecycle.submits_of_arms harms
    exact hne (Option.some.inj hsubmitted).symm

theorem ignores_of_closes {closing : List Event} {rule : Handle}
    (hcloses : ∀ e ∈ closing, ∃ handle, e.call = .closeRule handle)
    (hne : rule ∉ closing.filterMap closedRule) :
    ∀ e ∈ closing, ruleLifecycle.Ignores e rule := by
  intro e he
  obtain ⟨handle, hcall⟩ := hcloses e he
  refine ⟨?_, ?_, ?_⟩
  · change createdRule e ≠ _
    unfold createdRule
    rw [hcall]
    nofun
  · rw [ruleLifecycle_arms]
    unfold acceptedRule
    rw [hcall]
    nofun
  · intro hclosed
    exact hne (List.mem_filterMap.mpr ⟨e, he, hclosed⟩)

theorem onlyCloses_of_closes {closing : List Event}
    (hcloses : ∀ e ∈ closing, ∃ handle, e.call = .closeRule handle) :
    ruleLifecycle.OnlyCloses closing := by
  intro e he
  obtain ⟨handle, hcall⟩ := hcloses e he
  constructor
  · change createdRule e = none
    unfold createdRule
    rw [hcall]
  · change submittedRule e = none
    unfold submittedRule
    rw [hcall]

theorem Arming.step {canClose : Bool} {s : Session} {old : List Handle}
    {made : List Pending} {start : List Event} {m : ℕ}
    {st st' : SubmitState} {new tried closing : List Event}
    {judged : List Judged} {p : Pending} {ok : Bool}
    (h : Arming old made start m st.session.log judged)
    (hstaged : Staged old made start)
    (hsubmitted : Submitted canClose s old made m st new judged)
    (hnonzero : ∀ q ∈ made, q.rule ≠ 0) (hp : made[m]? = some p)
    (hstep : SubmitStep canClose (old.length + m) p st st' tried closing
      ok) :
    Arming old made start (m + 1) st'.session.log
      (judged ++ [(p, ok)]) := by
  obtain ⟨hm, hget⟩ := List.getElem?_eq_some_iff.mp hp
  have hmem : p ∈ made := hget ▸ List.getElem_mem hm
  have hdrop : made.drop m = p :: made.drop (m + 1) := by
    rw [List.drop_eq_getElem_cons hm, hget]
  have hplive := h.live p (by simp [hdrop])
  have hpunarmed := h.unarmed p (by simp [hdrop])
  have hcloses : ∀ e ∈ closing, ∃ handle, e.call = .closeRule handle :=
    fun e he => (hstep.closes e he).2
  have honly := onlyCloses_of_closes hcloses
  have hclosed : ∀ handle ∈ closing.filterMap closedRule,
      ok = false ∧ handle = p.rule := by
    intro handle hhandle
    rw [hstep.closed,
      hsubmitted.slotToClose_eq hp (hnonzero p hmem)] at hhandle
    cases ok with
    | true => cases hhandle
    | false =>
        cases canClose with
        | true => exact ⟨rfl, List.mem_singleton.mp hhandle⟩
        | false => cases hhandle
  -- the submission
  have hsound : ruleLifecycle.Sound (st.session.log ++ tried) := by
    refine sound_append_submits h.sound hstep.submits hplive ?_
    intro htried o ho predecessor hpredecessor
    refine h.predecessor_armed hstaged hsubmitted.judges hnonzero hp ?_ ho
      hpredecessor
    rw [← hsubmitted.rejected]
    exact hstep.anchored htried
  have harmed : ruleLifecycle.armed (st.session.log ++ tried) p.rule = ok :=
    armed_append_submits hstep.submits hstep.accepted hpunarmed
  -- the close of a refused rule
  have hsound' :
      ruleLifecycle.Sound (st.session.log ++ (tried ++ closing)) := by
    rw [← List.append_assoc]
    refine hsound.append_closes honly fun handle hhandle => ?_
    obtain ⟨hok, hrule⟩ := hclosed handle hhandle
    rw [hrule, harmed, hok]
  -- no other rule made by the call is touched
  have hne (q : Pending) (hq : q ∈ made.drop (m + 1)) :
      q.rule ≠ p.rule := by
    have hnodup := hstaged.distinct
    rw [← List.take_append_drop m made, hdrop, List.map_append] at hnodup
    have htail := hnodup.of_append_right
    rw [List.map_cons, List.nodup_cons] at htail
    intro heq
    exact htail.1 (heq ▸ List.mem_map_of_mem hq)
  have hignores (q : Pending) (hq : q ∈ made.drop (m + 1)) :
      ∀ e ∈ tried ++ closing, ruleLifecycle.Ignores e q.rule := by
    intro e he
    rcases List.mem_append.mp he with he | he
    · exact ignores_of_submits hstep.submits (hne q hq) e he
    · refine ignores_of_closes hcloses (fun hmem => ?_) e he
      exact hne q hq (hclosed q.rule hmem).2
  have hlater (q : Pending) (hq : q ∈ made.drop (m + 1)) :
      q ∈ made.drop m := by
    rw [hdrop]
    exact List.mem_cons_of_mem p hq
  rw [hstep.log]
  refine
    { sound := hsound'
      older := fun rule hrule => hsound'.armed_append (h.older rule hrule)
      accepted := ?_
      live := fun q hq => ?_
      unarmed := fun q hq => ?_
      opener := fun rule => ?_ }
  · intro v hv hvok
    rcases List.mem_append.mp hv with hv | hv
    · exact hsound'.armed_append (h.accepted v hv hvok)
    · rw [List.mem_singleton] at hv
      subst hv
      rw [← List.append_assoc] at hsound' ⊢
      exact hsound'.armed_append (harmed.trans hvok)
  · rw [Lifecycle.live_append_of_ignores (hignores q hq)]
    exact h.live q (hlater q hq)
  · rw [Lifecycle.armed_append_of_ignores (hignores q hq)]
    exact h.unarmed q (hlater q hq)
  · rw [Lifecycle.opener_append_of_no_opens _ rule, h.opener rule]
    intro e he
    rcases List.mem_append.mp he with he | he
    · change createdRule e = none
      unfold createdRule
      rw [(mem_submits hstep.submits he).2]
    · exact (honly e he).1

theorem submitRules_arming (env : Env) (old : List Handle)
    (made : List Pending) (s : Session)
    (hrules : s.rules = old ++ made.map Pending.rule)
    (hnonzero : ∀ p ∈ made, p.rule ≠ 0)
    (hstaged : Staged old made s.log) :
    ∃ new judged,
      Submitted (env.available .closeRule)
        (s.run (require env .closeRule)).2 old made made.length
        (submitRules env old.length made s) new judged ∧
      Arming old made s.log made.length
        (submitRules env old.length made s).session.log judged := by
  unfold submitRules
  dsimp only
  rw [require_run_fst]
  refine Loops.foldl_zipIdx_invariant
    (motive := fun m st => ∃ new judged,
      Submitted (env.available .closeRule)
        (s.run (require env .closeRule)).2 old made m st new judged ∧
      Arming old made s.log m st.session.log judged)
    ⟨[], [], Submitted.init _ _ old made hrules, ?_⟩ ?_
  · change Arming old made s.log 0 (s.run (require env .closeRule)).2.log []
    rw [require_run_log]
    exact Arming.init hstaged
  · rintro m st p hp ⟨new, judged, hsubmitted, harming⟩
    obtain ⟨tried, closing, ok, hstep⟩ :=
      submitEntry_step env (env.available .closeRule) old.length st p m
    exact ⟨_, _, hsubmitted.step hp
      (hnonzero p (List.mem_of_getElem? hp)) hstep,
      harming.step hstaged hsubmitted hnonzero hp hstep⟩

/-! ## Sequences of installs -/

/-- The rules of the ledger are armed, over a log that never submitted a
chained rule without an armed predecessor. -/
structure ChainSafe (s : Session) : Prop where
  sound : ruleLifecycle.Sound s.log
  armed : ∀ rule ∈ s.rules, ruleLifecycle.armed s.log rule = true

theorem ChainSafe.prologue {s t : Session} {opening : List Event}
    (h : ChainSafe s) (hstep : PrologueStep s t opening)
    (hfresh : ruleLifecycle.OpensFresh t.log) : ChainSafe t := by
  have honly := onlyOpens_of_spares fun e he =>
    sparesRules_of_buildsObjects (hstep.builds e he).2
  rw [hstep.log] at hfresh
  have hsound := h.sound.append_opens honly hfresh
  refine ⟨by rwa [hstep.log], fun rule hrule => ?_⟩
  rw [hstep.rules] at hrule
  rw [hstep.log]
  exact hsound.armed_append (h.armed rule hrule)

theorem ChainSafe.install {env : Env} {document : RuleDocument}
    {s : Session} (h : ChainSafe s)
    (hfresh : ruleLifecycle.OpensFresh
      (installRules env document s).2.log) :
    ChainSafe (installRules env document s).2 := by
  obtain ⟨⟨opening, hopening⟩, _⟩ :=
    installPrologue_step env document (s.atRule none)
  obtain ⟨building, made, hbuilt⟩ := buildRules_built env document
    (installPrologue env document (s.atRule none)).2
  have hstart : ChainSafe (s.atRule none) := ⟨h.sound, h.armed⟩
  have hnonzero : ∀ p ∈ made, p.rule ≠ 0 :=
    fun p hp => hbuilt.rule_ne_zero hp
  rcases installRules_cases env document s with
    ⟨_, heq⟩ | ⟨_, hempty, heq⟩ | ⟨_, _, heq⟩
  · rw [heq] at hfresh ⊢
    exact hstart.prologue hopening hfresh
  · rw [heq] at hfresh ⊢
    have hfresh' := hfresh
    rw [atRule_log, hbuilt.log] at hfresh'
    have hprologue := hstart.prologue hopening hfresh'.of_append
    have hstaged := hbuilt.staged hprologue.sound hprologue.armed hfresh
    have hmade : made = [] := by
      rw [hbuilt.entries] at hempty
      exact List.map_eq_nil_iff.mp hempty
    refine ⟨hstaged.sound, fun rule hrule => hstaged.armed rule ?_⟩
    rw [atRule_rules, hbuilt.rules, hmade] at hrule
    simpa using hrule
  · rw [heq, hbuilt.pending] at hfresh ⊢
    obtain ⟨submitting, judged, hsubmitted⟩ := submitRules_submitted env
      (installPrologue env document (s.atRule none)).2.rules made
      ((buildRules env document
        (installPrologue env document (s.atRule none)).2).session.atRule
        none) hbuilt.rules hnonzero
    have hfresh' := hfresh
    rw [atRule_log, compactRules_log, hsubmitted.log, require_run_log,
      atRule_log] at hfresh'
    have hfreshBuilt := hfresh'.of_append
    have hfreshOpening := hfreshBuilt
    rw [hbuilt.log] at hfreshOpening
    have hprologue := hstart.prologue hopening hfreshOpening.of_append
    have hstaged := hbuilt.staged hprologue.sound hprologue.armed
      hfreshBuilt
    obtain ⟨_, judged', hsubmitted', harming⟩ := submitRules_arming env
      (installPrologue env document (s.atRule none)).2.rules made
      ((buildRules env document
        (installPrologue env document (s.atRule none)).2).session.atRule
        none) hbuilt.rules hnonzero hstaged
    constructor
    · rw [atRule_log, compactRules_log]
      exact harming.sound
    · intro rule hrule
      rw [atRule_rules, compactRules_rules hsubmitted' hnonzero] at hrule
      rw [atRule_log, compactRules_log]
      rcases List.mem_append.mp hrule with hrule | hrule
      · exact harming.older rule hrule
      · obtain ⟨v, hv, hok, rfl⟩ := mem_armedRules.mp hrule
        exact harming.accepted v hv hok

theorem installRules_log (env : Env) (document : RuleDocument)
    (s : Session) :
    (installRules env document s).2.log =
      s.log ++ (installRules env document s).2.since s := by
  obtain ⟨new, judged, hrun⟩ := installRules_run env document s
  rw [hrun.since_eq]
  exact hrun.log

theorem installAll_log (env : Env) (documents : List RuleDocument)
    (s : Session) : ∃ new, (installAll env documents s).log = s.log ++ new := by
  induction documents generalizing s with
  | nil => exact ⟨[], (List.append_nil _).symm⟩
  | cons document rest ih =>
      obtain ⟨new, hnew⟩ := ih (installRules env document s).2
      refine ⟨(installRules env document s).2.since s ++ new, ?_⟩
      rw [← List.append_assoc, ← installRules_log]
      exact hnew

theorem ChainSafe.installAll {env : Env} {documents : List RuleDocument}
    {s : Session} (h : ChainSafe s)
    (hfresh : ruleLifecycle.OpensFresh (installAll env documents s).log) :
    ChainSafe (installAll env documents s) := by
  induction documents generalizing s with
  | nil => exact h
  | cons document rest ih =>
      obtain ⟨new, hnew⟩ := installAll_log env rest
        (installRules env document s).2
      have hfirst : ruleLifecycle.OpensFresh
          (installRules env document s).2.log := by
        have hall := hfresh
        change ruleLifecycle.OpensFresh
          (Esp.installAll env rest (installRules env document s).2).log at hall
        rw [hnew] at hall
        exact hall.of_append
      exact ih (h.install hfirst) hfresh

theorem forall_mem_installAll {P : Event → Prop} {env : Env}
    (hinstall : ∀ (document : RuleDocument) (s : Session),
      ∀ e ∈ (installRules env document s).2.since s, P e)
    (documents : List RuleDocument) {s : Session} (hs : ∀ e ∈ s.log, P e) :
    ∀ e ∈ (installAll env documents s).log, P e := by
  induction documents generalizing s with
  | nil => exact hs
  | cons document rest ih =>
      refine ih fun e he => ?_
      rw [installRules_log] at he
      rcases List.mem_append.mp he with he | he
      · exact hs e he
      · exact hinstall document s e he

def NamesPredecessor (e : Event) : Prop :=
  ∀ descriptor, e.call = .createRule descriptor →
    descriptor.actionSelector = kActionMatchSubrules →
    descriptor.eventQueue = 1 →
      ∃ predecessor, descriptor.subruleArray = some [predecessor]

theorem ReachesCreate.namesPredecessor {env : Env} {rulesBefore : ℕ}
    {st : BuildState} {spec : RuleSpec} {index : ℕ} {filter : Handle}
    {descriptor : RuleDescriptor} {anchor : Handle} {t : Session}
    (h : ReachesCreate env rulesBefore st spec index filter descriptor
      anchor t) :
    NamesPredecessor (createEvent env spec filter descriptor t) := by
  intro attached hcall hseven hcount
  have hattached : (attachRule env spec filter descriptor t).1 = attached :=
    Call.createRule.inj hcall
  rw [attachRule_frame] at hattached
  subst hattached
  have hselector : resolvedSelector spec = kActionMatchSubrules :=
    (describeRule_selector h.described).symm.trans hseven
  rcases describeRule_cases h.described with
    ⟨hrewrite, _⟩ | ⟨_, _, hdescriptor, _⟩ | ⟨_, hother, _⟩
  · rw [hrewrite] at hselector
    cases hselector
  · dsimp only at hcount ⊢
    rw [hdescriptor] at hcount ⊢
    unfold subruleDescriptor at hcount ⊢
    split at hcount
    · cases hcount
    · rename_i predecessor hlast
      exact ⟨predecessor, rfl⟩
  · exact absurd hselector hother

theorem installRules_namesPredecessor (env : Env) (document : RuleDocument)
    (s : Session) :
    ∀ e ∈ (installRules env document s).2.since s, NamesPredecessor e := by
  intro e he descriptor hcall
  obtain ⟨before, after, hsplit⟩ := List.append_of_mem he
  have hlog := installRules_log env document s
  rw [hsplit] at hlog
  obtain ⟨i, spec, rulesBefore, st, filter, plain, anchor, t, _, _,
    hreaches, hevent, _⟩ :=
    installRules_creates env document s before e after hlog descriptor hcall
  rw [hevent] at hcall
  exact hreaches.namesPredecessor descriptor hcall

/-- Whenever a chained rule is submitted its predecessor is armed, and at the
end every armed rule stands on a chain of armed rules. -/
theorem installAll_chains (env : Env) (documents : List RuleDocument)
    (s : Session) (hledger : s.rules = [])
    (hlog : ∀ e ∈ s.log, SparesRules e)
    (hfresh : ruleLifecycle.OpensFresh (installAll env documents s).log) :
    (∀ before e after,
      (installAll env documents s).log = before ++ e :: after →
      ∀ client entries, e.call = .updateRules client entries →
        ∀ entry ∈ entries, ∃ o descriptor,
          ruleLifecycle.opener before entry.rule = some o ∧
          o.call = .createRule descriptor ∧
          (descriptor.actionSelector = kActionMatchSubrules →
            descriptor.eventQueue = 1 →
            ∃ predecessor, descriptor.subruleArray = some [predecessor] ∧
              ruleLifecycle.armed before predecessor = true)) ∧
      ∀ rule, ruleLifecycle.armed (installAll env documents s).log rule =
          true →
        ruleLifecycle.Grounded (installAll env documents s).log rule := by
  have hstart : ChainSafe s := by
    refine ⟨?_, by simp [hledger]⟩
    have hsound := Lifecycle.sound_nil.append_opens
      (onlyOpens_of_spares hlog)
    rw [List.nil_append] at hsound
    obtain ⟨new, hnew⟩ := installAll_log env documents s
    rw [hnew] at hfresh
    exact hsound hfresh.of_append
  have hsafe := hstart.installAll hfresh
  have hnames := forall_mem_installAll
    (installRules_namesPredecessor env) documents (s := s)
    fun e he descriptor hcall =>
      absurd hcall ((hlog e he).2.2.2.1 descriptor)
  have hsingle : ∀ e ∈ (installAll env documents s).log,
      ∀ client entries, e.call = .updateRules client entries →
        ∃ entry, entries = [entry] := by
    refine forall_mem_installAll (fun document s' => ?_) documents
      fun e he client entries hcall =>
        absurd hcall ((hlog e he).2.2.2.2 client entries)
    obtain ⟨new, judged, hrun⟩ := installRules_run env document s'
    rw [hrun.since_eq]
    exact hrun.updates
  refine ⟨?_, fun rule harmed => hsafe.sound.grounded harmed⟩
  intro before e after hsplit client entries hcall entry hentry
  have hmem : e ∈ (installAll env documents s).log := by simp [hsplit]
  obtain ⟨only, rfl⟩ := hsingle e hmem client entries hcall
  rw [List.mem_singleton] at hentry
  subst hentry
  have hsubmits : ruleLifecycle.submits e = some entry.rule := by
    change submittedRule e = _
    unfold submittedRule
    rw [hcall]
  have hstep := hsafe.sound before e after hsplit
  obtain ⟨o, hopener, homem, hopens⟩ :=
    Lifecycle.exists_opener_of_live (hstep.opened entry.rule hsubmits)
  obtain ⟨descriptor, hcreate⟩ : ∃ descriptor,
      o.call = .createRule descriptor := by
    change createdRule o = some entry.rule at hopens
    unfold createdRule at hopens
    split at hopens
    · rename_i descriptor hcreate
      exact ⟨descriptor, hcreate⟩
    · cases hopens
  refine ⟨o, descriptor, hopener, hcreate, fun hseven hcount => ?_⟩
  obtain ⟨predecessor, harray⟩ := hnames o (by simp [hsplit, homem])
    descriptor hcreate hseven hcount
  refine ⟨predecessor, harray, ?_⟩
  refine hstep.anchored entry.rule hsubmits o hopener predecessor ?_
  change subrulePredecessor o = some predecessor
  unfold subrulePredecessor
  rw [hcreate]
  dsimp only
  rw [if_pos ⟨hseven, hcount⟩, harray]
  rfl

/-- A rule, then a chained rule over it, a rule that is refused and a chained
rule over that one. -/
def chainedDocuments : List RuleDocument :=
  [{ rules := [{ eventType := 2000 }] },
    { rules := [{ eventType := 2000, selectorOverride := some 7 },
        { eventType := 2000 },
        { eventType := 2000, selectorOverride := some 7 }] }]

theorem installAll_chains_chainedDocuments :
    let s : Session := { clientHandle := 7, queueHandle := 8 }
    (installAll oddArmingEnv chainedDocuments s).rules = [1, 3] ∧
      ruleLifecycle.Grounded
        (installAll oddArmingEnv chainedDocuments s).log 3 := by
  intro s
  refine ⟨by decide, ?_⟩
  exact (installAll_chains oddArmingEnv chainedDocuments s rfl
    (by intro e he; cases he) (by decide)).2 3 (by decide)

end Esptool.Esp
