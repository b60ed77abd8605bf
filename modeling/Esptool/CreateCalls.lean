import Esptool.InstallRun

/-!
# Where the create calls of an install come from

Every call of `EspCreateRule` that an install logs was made by the iteration
of the build loop for one rule of the document, from a state that the install
reached, with the log up to the call.  Results about what such a call carries
are proved for one iteration and hold for every install.
-/

namespace Esptool.Esp

open Model Interaction

structure Inside (s : Session) (st : BuildState) : Prop where
  log : ∃ new, st.session.log = s.log ++ new
  client : st.session.clientHandle = s.clientHandle
  queue : st.session.queueHandle = s.queueHandle
  enforceCompat : st.session.enforceCompat = s.enforceCompat
  cached : PatchCached s → PatchCached st.session

theorem Inside.step {s : Session} {st st' : BuildState} {rulesBefore : ℕ}
    {spec : RuleSpec} {index : ℕ} {new : List Event} {made : Option Pending}
    (h : Inside s st)
    (hstep : BuildStep rulesBefore spec st st' index new made) : Inside s st' := by
  obtain ⟨older, hlog⟩ := h.log
  refine ⟨⟨older ++ new, ?_⟩, hstep.client.trans h.client,
    hstep.queue.trans h.queue, hstep.enforceCompat.trans h.enforceCompat,
    fun hs => hstep.cached (h.cached hs)⟩
  rw [hstep.log, hlog, List.append_assoc]

/-- The event `e` is the create call of an iteration of an install of the
document on `s`, and `before` is the log when it is made. -/
def CreateCall (env : Env) (document : RuleDocument) (s : Session)
    (before : List Event) (e : Event) : Prop :=
  ∃ (i : ℕ) (spec : RuleSpec) (rulesBefore : ℕ) (st : BuildState)
    (filter : Handle) (descriptor : RuleDescriptor) (anchor : Handle)
    (t : Session),
    document.rules[i]? = some spec ∧ Inside s st ∧
      ReachesCreate env rulesBefore st spec i filter descriptor anchor t ∧
      e = createEvent env spec filter descriptor t ∧
      before = (attachRule env spec filter descriptor t).2.log

def CreatesFrom (env : Env) (document : RuleDocument) (s : Session)
    (log : List Event) : Prop :=
  ∀ before e after, log = s.log ++ (before ++ e :: after) →
    ∀ descriptor, e.call = .createRule descriptor →
      CreateCall env document s (s.log ++ before) e

theorem CreatesFrom.append {env : Env} {document : RuleDocument}
    {s : Session} {older new : List Event}
    (h : CreatesFrom env document s (s.log ++ older))
    (hnew : ∀ before e after, new = before ++ e :: after →
      ∀ descriptor, e.call = .createRule descriptor →
        CreateCall env document s (s.log ++ older ++ before) e) :
    CreatesFrom env document s (s.log ++ older ++ new) := by
  intro before e after hsplit descriptor hcall
  rw [List.append_assoc] at hsplit
  rcases Loops.split_append (List.append_cancel_left hsplit) with
    ⟨rest, holder⟩ | ⟨middle, hbefore, hnew'⟩
  · exact h before e rest (by rw [holder]) descriptor hcall
  · rw [hbefore, ← List.append_assoc]
    exact hnew middle e after hnew' descriptor hcall

theorem CreatesFrom.append_other {env : Env} {document : RuleDocument}
    {s : Session} {older new : List Event}
    (h : CreatesFrom env document s (s.log ++ older))
    (hnew : ∀ e ∈ new, ∀ descriptor, e.call ≠ .createRule descriptor) :
    CreatesFrom env document s (s.log ++ older ++ new) := by
  refine h.append fun before e after hsplit descriptor hcall => ?_
  exact absurd hcall (hnew e (by simp [hsplit]) descriptor)

theorem CreatesFrom.buildRule {env : Env} {document : RuleDocument}
    {s : Session} {st : BuildState} {older : List Event}
    {rulesBefore i : ℕ} {spec : RuleSpec}
    (hspec : document.rules[i]? = some spec) (hinside : Inside s st)
    (holder : st.session.log = s.log ++ older)
    (h : CreatesFrom env document s st.session.log) :
    CreatesFrom env document s
      (buildRule env rulesBefore st (spec, i)).session.log := by
  rw [holder] at h
  rcases buildRule_cases env rulesBefore st spec i with
    ⟨t, heq, hextends⟩ | ⟨filter, descriptor, anchor, t, hreaches, heq⟩
  · obtain ⟨new, hlog, _, hnew⟩ := hextends.new
    have htotal : (st.refuse t).session.log = s.log ++ older ++ new := by
      rw [← holder]
      exact hlog
    rw [heq, htotal]
    exact h.append_other fun e he =>
      (sparesRules_of_preparesRule (hnew e he).2).2.2.2.1
  · obtain ⟨prepared, hlog, hprepared, _⟩ := hreaches.new
    obtain ⟨u, _, hulog, houtcome⟩ :=
      createRule_cases env st i spec filter descriptor anchor t
    have hsession : (createRule env st i spec filter descriptor anchor
        t).session.log = s.log ++ older ++ (prepared ++
          [createEvent env spec filter descriptor t]) := by
      rw [← holder, ← List.append_assoc, ← hlog, ← hulog]
      rcases houtcome with ⟨_, hrefuse⟩ | ⟨rule, _, hcreate⟩
      · rw [hrefuse]
        rfl
      · rw [hcreate]
        rfl
    rw [heq, hsession]
    refine h.append fun before e after hsplit d hcall => ?_
    rcases Loops.split_append hsplit with
      ⟨rest, hprep⟩ | ⟨middle, hbefore, hlast⟩
    · have hspares := sparesRules_of_preparesRule
        (hprepared e (by simp [hprep])).2
      exact absurd hcall (hspares.2.2.2.1 d)
    · rw [List.singleton_eq_append_iff] at hlast
      rcases hlast with ⟨hmiddle, hevent⟩ | ⟨_, hevent⟩
      · cases hevent
        refine ⟨i, spec, rulesBefore, st, filter, descriptor, anchor, t,
          hspec, hinside, hreaches, rfl, ?_⟩
        rw [hbefore, hmiddle, List.append_nil, ← holder, hlog]
      · cases hevent

theorem PrologueStep.inside {s p : Session} {opening : List Event}
    (h : PrologueStep (s.atRule none) p opening) : Inside s { session := p } := by
  have hcached : PatchCached s → PatchCached p := by
    intro hs
    exact h.patchCached (hs.atRule none)
  exact ⟨⟨opening, h.log⟩, h.client, h.queue, h.enforceCompat, hcached⟩

theorem PrologueStep.createsFrom {s p : Session} {opening : List Event}
    (h : PrologueStep (s.atRule none) p opening) (env : Env) (document : RuleDocument) :
    CreatesFrom env document s p.log := by
  intro before e after hsplit descriptor hcall
  rw [h.log, atRule_log] at hsplit
  have hopening := List.append_cancel_left hsplit
  have hspares := sparesRules_of_buildsObjects
    (h.builds e (by simp [hopening])).2
  exact absurd hcall (hspares.2.2.2.1 descriptor)

theorem buildRules_creates {s p : Session} {opening : List Event}
    (h : PrologueStep (s.atRule none) p opening) (env : Env) (document : RuleDocument) :
    CreatesFrom env document s (buildRules env document p).session.log := by
  have hloop : Inside s (buildRules env document p) ∧
      CreatesFrom env document s
        (buildRules env document p).session.log := by
    unfold buildRules
    refine Loops.foldl_zipIdx_invariant
      (motive := fun _ st => Inside s st ∧
        CreatesFrom env document s st.session.log)
      ⟨h.inside, h.createsFrom env document⟩ ?_
    rintro k st spec hspec ⟨hinside, hcreates⟩
    obtain ⟨older, holder⟩ := hinside.log
    obtain ⟨new, made, hstep⟩ :=
      buildRule_step env p.rules.length st spec k
    exact ⟨hinside.step hstep,
      CreatesFrom.buildRule hspec hinside holder hcreates⟩
  exact hloop.2

theorem installRules_creates (env : Env) (document : RuleDocument)
    (s : Session) :
    CreatesFrom env document s (installRules env document s).2.log := by
  obtain ⟨⟨opening, hopening⟩, _⟩ :=
    installPrologue_step env document (s.atRule none)
  have hcreates := buildRules_creates hopening env document
  obtain ⟨building, made, hbuilt⟩ := buildRules_built env document
    (installPrologue env document (s.atRule none)).2
  rcases installRules_cases env document s with
    ⟨_, heq⟩ | ⟨_, _, heq⟩ | ⟨_, _, heq⟩
  · rw [heq]
    exact hopening.createsFrom env document
  · rw [heq]
    exact hcreates
  · rw [heq, hbuilt.pending]
    obtain ⟨submitting, judged, hsubmitted⟩ :=
      submitRules_submitted env
        (installPrologue env document (s.atRule none)).2.rules made
        ((buildRules env document
          (installPrologue env document (s.atRule none)).2).session.atRule
          none) hbuilt.rules fun p hp => hbuilt.rule_ne_zero hp
    rw [atRule_log, compactRules_log, hsubmitted.log, require_run_log,
      atRule_log]
    have hlog : (buildRules env document
        (installPrologue env document (s.atRule none)).2).session.log =
          s.log ++ (opening ++ building) := by
      rw [hbuilt.log, hopening.log, List.append_assoc]
      rfl
    rw [hlog] at hcreates ⊢
    refine CreatesFrom.append_other hcreates fun e he descriptor => ?_
    rcases hsubmitted.calls e he with ⟨p, _, _, hcall⟩ | ⟨_, rule, hcall⟩
    · rw [hcall]
      nofun
    · rw [hcall]
      nofun

/-- A create call is filed under its rule, and the fields that neither the
action nor the filter of the rule touches arrive as they were set first. -/
theorem CreateCall.base {env : Env} {document : RuleDocument}
    {s : Session} {before : List Event} {e : Event}
    {carried : RuleDescriptor} (h : CreateCall env document s before e)
    (hcall : e.call = .createRule carried) :
    ∃ i spec, e.tag = some i ∧ document.rules[i]? = some spec ∧
      carried.actionSelector = (baseDescriptor spec).actionSelector ∧
      carried.lifetime = (baseDescriptor spec).lifetime := by
  obtain ⟨i, spec, rulesBefore, st, filter, descriptor, anchor, t, hspec, _,
    hreaches, rfl, _⟩ := h
  have hframe := describeRule_frame hreaches.described
  cases hcall
  refine ⟨i, spec, hreaches.extends_.grows.1, hspec, ?_, ?_⟩
  · rw [attachRule_frame, hframe]
  · rw [attachRule_frame, hframe]

end Esptool.Esp
