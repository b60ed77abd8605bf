import Esptool.EspRefs
import Esptool.HandleCustody
import Esptool.SessionCalls

/-!
# Who closes an object reference

`object_refs_` holds every open reference once, next to null entries for the
ones that were closed by hand.  The invariant survives every operation on
references as long as the driver does not issue a handle that is open, and
`Disconnect` then closes exactly the references that are left.
-/

namespace Esptool.Esp

open Model Interaction Custody

def Call.createsReference : Call → Bool
  | .createReference .. => true
  | .duplicateEventObjectReference _ => true
  | _ => false

def createdReference (e : Event) : Option Handle :=
  if e.call.createsReference ∧ succeeded e.reply.result ∧
      e.reply.out ≠ 0 then some e.reply.out
  else none

def closedReferenceBy : Call → Option Handle
  | .closeEventObjectReference reference =>
      if reference ≠ 0 then some reference else none
  | _ => none

def closedReference (e : Event) : Option Handle := closedReferenceBy e.call

def refCustody : Custody Event Handle := ⟨createdReference, closedReference⟩

def liveRefs (refs : List Handle) : List Handle := refs.filter (· != 0)

/-- The references of the session are the open ones, each of them once. -/
structure RefsHeld (s : Session) : Prop where
  balanced : refCustody.Balanced s.log ↑(liveRefs s.objectRefs)
  nodup : (liveRefs s.objectRefs).Nodup

/-- Whatever the driver hands out fresh, the session keeps its references. -/
structure KeepsRefs (s t : Session) : Prop where
  log : s.log <+: t.log
  held : refCustody.OpensFresh t.log → RefsHeld s → RefsHeld t

theorem KeepsRefs.refl (s : Session) : KeepsRefs s s :=
  ⟨List.prefix_rfl, fun _ h => h⟩

theorem KeepsRefs.trans {s t u : Session} (h : KeepsRefs s t)
    (h' : KeepsRefs t u) : KeepsRefs s u := by
  refine ⟨h.log.trans h'.log, fun hfresh hheld => ?_⟩
  have hfirst := h.held (hfresh.of_append h'.log) hheld
  exact h'.held hfresh hfirst

/-! ## Calls that have no part in references -/

def Call.handlesReference : Call → Bool
  | .createReference .. => true
  | .duplicateEventObjectReference _ => true
  | .closeEventObjectReference _ => true
  | _ => false

theorem createdReference_spared {e : Event}
    (h : e.call.handlesReference = false) : createdReference e = none := by
  have hcreates : e.call.createsReference = false := by
    cases hcall : e.call <;> rw [hcall] at h <;> first | rfl | cases h
  simp [createdReference, hcreates]

theorem closedReference_spared {e : Event}
    (h : e.call.handlesReference = false) : closedReference e = none := by
  unfold closedReference closedReferenceBy
  split
  · rename_i reference hcall
    rw [hcall] at h
    cases h
  · rfl

theorem KeepsRefs.of_calls {s t : Session}
    (h : Calls (fun call => call.handlesReference = false) s t)
    (hrefs : t.objectRefs = s.objectRefs) : KeepsRefs s t := by
  obtain ⟨new, hlog, hnew⟩ := h
  refine ⟨⟨new, hlog.symm⟩, ?_⟩
  intro _ hheld
  refine ⟨?_, by rw [hrefs]; exact hheld.nodup⟩
  rw [← holds_nil_iff, hrefs, hlog]
  refine Holds.append_ignored (holds_nil_iff.mpr hheld.balanced) ?_ ?_
  · exact List.filterMap_eq_nil_iff.mpr fun e he =>
      createdReference_spared (hnew e he)
  · exact List.filterMap_eq_nil_iff.mpr fun e he =>
      closedReference_spared (hnew e he)

theorem KeepsRefs.of_run {α : Type} {env : Env} {m : JournalM α}
    (h : Scripted env.respond (fun call => call.handlesReference = false) m)
    (s : Session) : KeepsRefs s (s.run m).2 :=
  KeepsRefs.of_calls (Calls.of_run h s) rfl

/-! ## Creating -/

/-- The outcome of a creation: a reference that was not null is new in the
list of the session. -/
structure CreatesRef (s : Session) (created : (Bool × Handle) × Session) :
    Prop where
  keeps : KeepsRefs s created.2
  refs : created.2.objectRefs =
    s.objectRefs ++ if created.1.1 then [created.1.2] else []
  value : created.1.1 = true → created.1.2 ≠ 0

theorem liveRefs_concat {refs : List Handle} {reference : Handle}
    (hne : reference ≠ 0) :
    liveRefs (refs ++ [reference]) = liveRefs refs ++ [reference] := by
  simp [liveRefs, hne]

theorem adoptReference_creates (env : Env) (step : String) {call : Call}
    (hcall : call.createsReference = true) (s : Session) :
    CreatesRef s (adoptReference env step call s) := by
  let reply := env.respond s.log call
  let event : Event := ⟨s.journal.tag, call, reply⟩
  let adopted := (s.run (adopt env step call)).2
  have hlog : adopted.log = s.log ++ [event] := rfl
  have hvalue : (s.run (adopt env step call)).1 =
      if failed reply.result || reply.out == 0 then none
      else some reply.out := rfl
  have hclosed : closedReference event = none := by
    change closedReferenceBy call = none
    cases call <;> first | rfl | cases hcall
  by_cases hrefused : (failed reply.result || reply.out == 0) = true
  · have hrun : adoptReference env step call s = ((false, 0), adopted) := by
      rw [adoptReference, hvalue, if_pos hrefused]
    have hcreated : createdReference event = none := by
      rw [failed_eq_not_succeeded] at hrefused
      refine if_neg fun hbuilt => ?_
      change _ ∧ succeeded reply.result = true ∧ reply.out ≠ 0 at hbuilt
      simp [hbuilt.2.1, hbuilt.2.2] at hrefused
    rw [hrun]
    refine ⟨⟨⟨[event], hlog.symm⟩, ?_⟩, (List.append_nil _).symm, nofun⟩
    intro _ hheld
    refine ⟨?_, hheld.nodup⟩
    rw [← holds_nil_iff]
    change refCustody.Holds [] adopted.log _
    rw [hlog]
    exact (holds_nil_iff.mpr hheld.balanced).concat_ignore hcreated hclosed
  · have hrun : adoptReference env step call s = ((true, reply.out),
        { adopted with objectRefs := s.objectRefs ++ [reply.out] }) := by
      rw [adoptReference, hvalue, if_neg hrefused]
      rfl
    have hbuilt : succeeded reply.result = true ∧ reply.out ≠ 0 := by
      rw [failed_eq_not_succeeded] at hrefused
      simpa using hrefused
    have hcreated : createdReference event = some reply.out :=
      if_pos ⟨hcall, hbuilt⟩
    rw [hrun]
    refine ⟨⟨⟨[event], hlog.symm⟩, ?_⟩, rfl, fun _ => hbuilt.2⟩
    intro hfresh hheld
    change refCustody.OpensFresh adopted.log at hfresh
    rw [hlog] at hfresh
    have hnew := hfresh.not_mem hheld.balanced hcreated
    rw [Multiset.mem_coe] at hnew
    constructor
    · rw [← holds_nil_iff, liveRefs_concat hbuilt.2]
      change refCustody.Holds [] adopted.log _
      rw [hlog, ← Multiset.coe_add, add_comm]
      exact (holds_nil_iff.mpr hheld.balanced).concat_open hcreated hclosed
    · rw [liveRefs_concat hbuilt.2]
      exact List.Nodup.append hheld.nodup (List.nodup_singleton _)
        (List.disjoint_singleton.mpr hnew)

theorem CreatesRef.after {s t : Session}
    {created : (Bool × Handle) × Session} (h : CreatesRef t created)
    (hkeeps : KeepsRefs s t) (hrefs : t.objectRefs = s.objectRefs) :
    CreatesRef s created := by
  refine ⟨hkeeps.trans h.keeps, ?_, h.value⟩
  rw [h.refs, hrefs]

theorem CreatesRef.none {s t : Session} (out : Handle)
    (hkeeps : KeepsRefs s t) (hrefs : t.objectRefs = s.objectRefs) :
    CreatesRef s ((false, out), t) := by
  refine ⟨hkeeps, ?_, nofun⟩
  rw [hrefs]
  exact (List.append_nil _).symm

theorem require_keepsRefs (env : Env) (wanted : Export) (s : Session) :
    KeepsRefs s (s.run (require env wanted)).2 :=
  KeepsRefs.of_run (require_scripted wanted) s

theorem createReference_creates (env : Env) (name : String) (ready : Bool)
    (key : ReferenceKey) (out : Handle) (s : Session) :
    CreatesRef s (createReference env name ready key out s) := by
  have hrequire := require_keepsRefs env (.createReference name) s
  unfold createReference
  dsimp only
  split
  · exact CreatesRef.none out hrequire rfl
  · exact (adoptReference_creates env name rfl _).after hrequire rfl

theorem duplicateReference_creates (env : Env) (reference out : Handle)
    (s : Session) :
    CreatesRef s (duplicateReference env reference out s) := by
  have hrequire := require_keepsRefs env .duplicateEventObjectReference s
  unfold duplicateReference
  dsimp only
  split
  · exact CreatesRef.none out hrequire rfl
  · exact (adoptReference_creates env _ rfl _).after hrequire rfl

/-! ## Closing -/

theorem liveRefs_cons (first : Handle) (rest : List Handle) :
    liveRefs (first :: rest) =
      if first = 0 then liveRefs rest else first :: liveRefs rest := by
  by_cases hzero : first = 0
  · simp [liveRefs, hzero]
  · simp [liveRefs, hzero]

theorem liveRefs_close (refs : List Handle) (reference : Handle) :
    liveRefs (refs.map fun stored =>
      if stored = reference then 0 else stored) =
      (liveRefs refs).filter (· != reference) := by
  induction refs with
  | nil => rfl
  | cons first rest ih =>
      rw [List.map_cons, liveRefs_cons, liveRefs_cons, ih]
      by_cases hzero : first = 0
      · simp [hzero]
      · by_cases hsame : first = reference
        · rw [if_pos hsame, if_pos rfl, if_neg hzero,
            List.filter_cons_of_neg (by simp [hsame])]
        · rw [if_neg hsame, if_neg hzero, if_neg hzero,
            List.filter_cons_of_pos (by simp [hsame])]

theorem closeReference_refs (env : Env) (reference : Handle) (s : Session) :
    liveRefs (closeReference env reference s).objectRefs =
      (liveRefs s.objectRefs).filter (· != reference) :=
  liveRefs_close s.objectRefs reference

theorem closeReference_log {env : Env}
    (hclose : env.available .closeEventObjectReference = true)
    {reference : Handle} (hne : reference ≠ 0) (s : Session) :
    ∃ e : Event, e.call = .closeEventObjectReference reference ∧
      (closeReference env reference s).log = s.log ++ [e] := by
  obtain ⟨new, hlog, hnew⟩ := closeOne_makes env .closeEventObjectReference
    .closeEventObjectReference reference s.journal
  have hcalls : closeCalls env .closeEventObjectReference
      .closeEventObjectReference [reference] =
        [.closeEventObjectReference reference] := by
    simp [closeCalls, hclose, hne]
  rw [hcalls] at hnew
  obtain ⟨e, hsingle, hcall⟩ := List.map_eq_singleton_iff.mp hnew
  refine ⟨e, hcall, ?_⟩
  rw [← hsingle]
  exact hlog

/-- Closing a reference that the session holds, or a null one. -/
theorem RefsHeld.closeReference {env : Env} {s : Session}
    (h : RefsHeld s)
    (hclose : env.available .closeEventObjectReference = true)
    {reference : Handle}
    (hmem : reference ≠ 0 → reference ∈ s.objectRefs) :
    RefsHeld (closeReference env reference s) := by
  have hnodup : (liveRefs (Esp.closeReference env reference
      s).objectRefs).Nodup := by
    rw [closeReference_refs]
    exact h.nodup.filter _
  refine ⟨?_, hnodup⟩
  rw [closeReference_refs]
  by_cases hzero : reference = 0
  · have hlog : (Esp.closeReference env reference s).log = s.log := by
      rw [hzero]
      rfl
    have hsame : (liveRefs s.objectRefs).filter (· != reference) =
        liveRefs s.objectRefs := by
      rw [List.filter_eq_self, hzero]
      intro live hlive
      exact (List.mem_filter.mp hlive).2
    rw [hlog, hsame]
    exact h.balanced
  · obtain ⟨e, hcall, hlog⟩ := closeReference_log hclose hzero s
    have hclosed : closedReference e = some reference := by
      rw [closedReference, hcall]
      exact if_pos hzero
    have hcreated : createdReference e = none := by
      rw [createdReference, hcall]
      exact if_neg fun h => nomatch h.1
    have hlive : reference ∈ liveRefs s.objectRefs := by
      rw [liveRefs, List.mem_filter]
      exact ⟨hmem hzero, by simpa using hzero⟩
    have hsplit : (↑(liveRefs s.objectRefs) : Multiset Handle) =
        {reference} + ↑((liveRefs s.objectRefs).filter (· != reference)) := by
      rw [← h.nodup.erase_eq_filter, Multiset.singleton_add,
        Multiset.cons_coe, Multiset.coe_eq_coe]
      exact List.perm_cons_erase hlive
    have hholds := holds_nil_iff.mpr h.balanced
    rw [hsplit] at hholds
    rw [← holds_nil_iff, hlog]
    exact hholds.concat_close hcreated hclosed

theorem closeReference_extends (env : Env) (reference : Handle)
    (s : Session) : s.log <+: (closeReference env reference s).log := by
  obtain ⟨new, hlog, -⟩ := closeOne_makes env .closeEventObjectReference
    .closeEventObjectReference reference s.journal
  exact ⟨new, hlog.symm⟩

theorem closeReference_keepsRefs {env : Env} {s : Session}
    (hclose : env.available .closeEventObjectReference = true)
    {reference : Handle}
    (hmem : RefsHeld s → reference ≠ 0 → reference ∈ s.objectRefs) :
    KeepsRefs s (closeReference env reference s) := by
  refine ⟨closeReference_extends env reference s, fun _ hheld => ?_⟩
  exact hheld.closeReference hclose (hmem hheld)

theorem refCustody_eq : refCustody = Owned.reference.custody := by
  have hopens : ∀ call,
      Owned.reference.opens call = call.createsReference := by
    intro call
    cases call <;> rfl
  have hcloses : ∀ call,
      Owned.reference.closedBy call = closedReferenceBy call := by
    intro call
    cases call <;> rfl
  unfold refCustody Owned.custody
  congr 1
  · funext e
    simp only [createdReference, Owned.returned, hopens]
  · funext e
    exact (hcloses e.call).symm

theorem disconnect_refs {env : Env} {s : Session} (h : RefsHeld s)
    (hclose : env.available .closeEventObjectReference = true) :
    refCustody.Balanced (disconnect env s).log 0 := by
  have hholds := holds_nil_iff.mpr h.balanced
  rw [refCustody_eq] at hholds ⊢
  refine holds_nil_iff.mp (disconnect_settled hclose ?_)
  rw [add_zero]
  exact hholds

theorem disconnect_keepsRefs {env : Env}
    (hclose : env.available .closeEventObjectReference = true)
    (s : Session) : KeepsRefs s (disconnect env s) := by
  obtain ⟨⟨new, hlog, -⟩, -⟩ := disconnect_calls env s
  refine ⟨⟨new, hlog.symm⟩, ?_⟩
  intro _ hheld
  have hnone : (disconnect env s).objectRefs = [] :=
    (disconnect_released env s).objectRefs
  constructor
  · rw [hnone]
    exact disconnect_refs hheld hclose
  · rw [hnone]
    exact List.nodup_nil

/-! ## Querying -/

/-- The computation has no part in references. -/
abbrev SparesRefs (env : Env) {α : Type} (m : JournalM α) : Prop :=
  Scripted env.respond (fun call => call.handlesReference = false) m

/-- The calls that look at the object behind a reference. -/
def Call.queriesView : Call → Bool
  | .getEventObjectFromReference _ => true
  | .getEventObjectId _ => true
  | .getEventObjectType _ => true
  | .setEventObjectContextKey _ => true
  | .enumerateAllEventObjectContextKeys _ => true
  | .queryProperties .. => true
  | .isPropertySupported .. => true
  | .freeMemory _ => true
  | _ => false

abbrev QueryScript (env : Env) {α : Type} (m : JournalM α) : Prop :=
  Scripted env.respond (fun call => call.queriesView = true) m

theorem QueryScript.sparesRefs {env : Env} {α : Type} {m : JournalM α}
    (h : QueryScript env m) : SparesRefs env m := by
  refine h.mono fun call hcall => ?_
  cases call <;> first | rfl | cases hcall

section

variable (env : Env)

theorem closeOne_scripted {P : Call → Prop} {close : Handle → Call}
    (hclose : ∀ handle, P (close handle)) (closer : Export)
    (handle : Handle) :
    Scripted env.respond P (closeOne env closer close handle) := by
  refine .ite (.bind (require_scripted _) fun _ => ?_) (.pure _)
  refine .ite ?_ (.pure _)
  exact .bind (.ask _ (hclose _)) fun _ => .pure _

theorem freeEspBuffer_queries (buffer : Handle) :
    QueryScript env (freeEspBuffer env buffer) :=
  closeOne_scripted (P := fun call => call.queriesView = true) env
    (fun _ => rfl) .freeMemory buffer

theorem unwrapReference_queries (reference : Handle) :
    QueryScript env (unwrapReference env reference) := by
  refine .bind (require_scripted _) fun _ => .ite (.pure _) ?_
  exact adopt_scripted _ rfl

theorem getEventObjectId_queries (view : Handle) :
    QueryScript env (getEventObjectId env view) := by
  refine .bind (require_scripted _) fun _ => .ite (.pure _) ?_
  refine .bind (.ask _ rfl) fun _ => ?_
  exact .bind (record_scripted _ _) fun _ => .pure _

theorem getEventObjectType_queries (view : Handle) :
    QueryScript env (getEventObjectType env view) := by
  refine .bind (require_scripted _) fun _ => .ite ?_ (.pure _)
  exact .bind (.ask _ rfl) fun _ => record_scripted _ _

theorem setEventObjectContextKey_queries (reference : Handle) :
    QueryScript env (setEventObjectContextKey env reference) := by
  refine .bind (require_scripted _) fun _ => .ite ?_ (.pure _)
  exact .bind (.ask _ rfl) fun _ => record_scripted _ _

theorem enumerateEventObjectContextKeys_queries (reference : Handle) :
    QueryScript env (enumerateEventObjectContextKeys env reference) := by
  refine .bind (require_scripted _) fun _ => .ite ?_ (.pure _)
  refine .bind (.ask _ rfl) fun _ => ?_
  exact .bind (record_scripted _ _) fun _ => freeEspBuffer_queries env _

theorem isPropertySupported_queries (client : Handle) (kind : String)
    (property : ℕ) :
    QueryScript env (isPropertySupported env client kind property) := by
  unfold isPropertySupported
  split
  · exact .pure _
  · refine .ite (.pure _) (.bind (require_scripted _) fun _ => .ite ?_
      (.pure _))
    exact .bind (.ask _ rfl) fun _ => record_scripted _ _

theorem queryKind_queries (client : Handle) (kind : String)
    (view : Handle) (ids : List ℕ) :
    QueryScript env (queryKind env client kind view ids) := by
  refine .ite (warn_scripted _) ?_
  split
  · exact warn_scripted _
  · refine .bind (require_scripted _) fun _ => .ite ?_ (.pure _)
    refine .ite (warn_scripted _) (.bind (.ask _ rfl) fun _ => ?_)
    exact .bind (record_scripted _ _) fun _ => freeEspBuffer_queries env _

theorem forM_queries {α : Type} {f : α → JournalM Unit}
    (h : ∀ a, QueryScript env (f a)) (as : List α) :
    QueryScript env (as.forM f) := by
  induction as with
  | nil => exact .pure _
  | cons a as ih => exact .bind (h a) fun _ => ih

theorem supportedProperties_queries (client : Handle)
    (recipe : QueryRecipe) :
    QueryScript env (supportedProperties env client recipe) := by
  have hsupported :=
    forM_queries env (isPropertySupported_queries env client recipe.kind)
  refine .bind (hsupported recipe.properties) fun _ => ?_
  exact .ite (isPropertySupported_queries env _ _ _) (.pure _)

theorem queryRecipe_queries (client : Handle) (keys : NotificationKeys)
    (view contextRef : Handle) (query : ℕ × QueryRecipe) :
    QueryScript env
      (queryRecipe env client keys view contextRef query) := by
  refine .ite (.pure _) ?_
  refine .bind (.ite (queryKind_queries env _ _ _ _) (.pure _))
    fun _ => ?_
  refine .bind (.ite (supportedProperties_queries env _ _) (.pure _))
    fun _ => ?_
  refine .bind (.ite (setEventObjectContextKey_queries env _) (.pure _))
    fun _ => ?_
  exact .ite (enumerateEventObjectContextKeys_queries env _) (.pure _)

end

/-- A second attempt, made only when the first one created nothing. -/
theorem CreatesRef.retry {s : Session}
    {first second : (Bool × Handle) × Session} (h : CreatesRef s first)
    (hfailed : first.1.1 = false) (h' : CreatesRef first.2 second) :
    CreatesRef s second := by
  refine h'.after h.keeps ?_
  rw [h.refs, hfailed]
  exact List.append_nil _

theorem warn_keepsRefs (s : Session) (message : String) :
    KeepsRefs s (s.warn message) :=
  KeepsRefs.of_calls (Calls.of_log rfl) rfl

theorem createNatural_creates (env : Env) (host : NotifyHost)
    (keys : NotificationKeys) (s : Session) :
    CreatesRef s (createNatural env host keys s) := by
  unfold createNatural
  split
  · let path := notificationPath env host keys.name
    let first := if path.isEmpty then ((false, 0), s)
      else createPathReference env "EspCreateFileReferenceByPath" path 0 s
    have hfirst : CreatesRef s first := by
      by_cases hempty : path.isEmpty = true
      · rw [show first = _ from if_pos hempty]
        exact CreatesRef.none 0 (KeepsRefs.refl s) rfl
      · rw [show first = _ from if_neg hempty]
        exact createReference_creates env _ _ _ 0 s
    let second := if !first.1.1 && !host.fallbackPath.isEmpty
      then createPathReference env "EspCreateFileReferenceByPath"
        host.fallbackPath first.1.2 first.2
      else first
    have hsecond : CreatesRef s second := by
      by_cases hagain : (!first.1.1 && !host.fallbackPath.isEmpty) = true
      · rw [show second = _ from if_pos hagain]
        rw [Bool.and_eq_true, Bool.not_eq_true'] at hagain
        exact hfirst.retry hagain.1
          (createReference_creates env _ _ _ first.1.2 first.2)
      · rw [show second = _ from if_neg hagain]
        exact hfirst
    change CreatesRef s (if second.1.1 = true then second
      else (second.1, second.2.warn
        "QueryFromNotification Fo event has no usable path"))
    by_cases hcreated : second.1.1 = true
    · rw [if_pos hcreated]
      exact hsecond
    · rw [if_neg hcreated]
      refine ⟨hsecond.keeps.trans (warn_keepsRefs _ _), ?_, hsecond.value⟩
      exact hsecond.refs
  · dsimp only
    generalize (if keys.pid = 0 then (host.fallbackPid % 2 ^ 32).toNat
      else keys.pid) = pid
    split
    · exact CreatesRef.none 0 (warn_keepsRefs s _) rfl
    · exact createReference_creates env _ _ _ 0 s

theorem createReference_failed (env : Env) (name : String) (ready : Bool)
    (key : ReferenceKey) (s : Session)
    (h : (createReference env name ready key 0 s).1.1 = false) :
    (createReference env name ready key 0 s).1.2 = 0 := by
  unfold createReference adoptReference at h ⊢
  dsimp only at h ⊢
  split
  · rfl
  · rename_i hready
    rw [if_neg hready] at h
    split
    · rfl
    · rename_i hadopted
      rw [hadopted] at h
      cases h

/-- The reference by identifier is null or the newest of the session. -/
theorem createById_keeps (env : Env) (id : ℕ) (s : Session) :
    KeepsRefs s (createById env id s).2 ∧
      (createById env id s).2.objectRefs = s.objectRefs ++
        if (createById env id s).1.1 ≠ 0 then [(createById env id s).1.1]
        else [] := by
  unfold createById
  split
  · exact ⟨KeepsRefs.refl s, (List.append_nil _).symm⟩
  · have hcreated : CreatesRef s (createEventObjectById env id 0 s) :=
      createReference_creates env _ _ _ 0 s
    dsimp only
    split
    · rename_i hok
      have hview := KeepsRefs.of_run (unwrapReference_queries env
        (createEventObjectById env id 0 s).1.2).sparesRefs
        (createEventObjectById env id 0 s).2
      refine ⟨hcreated.keeps.trans hview, ?_⟩
      rw [if_pos (hcreated.value hok)]
      have hrefs := hcreated.refs
      rw [if_pos hok] at hrefs
      exact hrefs
    · rename_i hfailed
      have hnull : (createEventObjectById env id 0 s).1.2 = 0 :=
        createReference_failed env _ _ _ s
          (Bool.eq_false_of_not_eq_true hfailed)
      refine ⟨hcreated.keeps, ?_⟩
      rw [if_neg (not_not.mpr hnull)]
      have hrefs := hcreated.refs
      rw [if_neg hfailed] at hrefs
      exact hrefs

theorem mem_close {refs : List Handle} {reference other : Handle}
    (hmem : reference ∈ refs) (hne : reference ≠ other) :
    reference ∈ refs.map fun stored =>
      if stored = other then 0 else stored :=
  List.mem_map.mpr ⟨reference, hmem, if_neg hne⟩

/-- At the end of the query both of its references are closed, the second one
because the first was another one. -/
theorem closeBoth_keepsRefs {env : Env} {s : Session}
    (hclose : env.available .closeEventObjectReference = true)
    {old : List Handle} {natural byId : Handle} (hne : natural ≠ 0)
    (hmem : natural ∈ old)
    (hrefs : s.objectRefs = old ++ if byId ≠ 0 then [byId] else []) :
    KeepsRefs s
      (closeReference env natural (closeReference env byId s)) := by
  refine ⟨(closeReference_extends env byId s).trans
    (closeReference_extends env natural _), ?_⟩
  intro _ hheld
  have hnatural : natural ∈ s.objectRefs := by
    rw [hrefs]
    exact List.mem_append_left _ hmem
  have hbyId : byId ≠ 0 → byId ∈ s.objectRefs := by
    intro hnull
    rw [hrefs, if_pos hnull]
    simp
  have hother : natural ≠ byId := by
    intro hsame
    have hnodup := hheld.nodup
    have hnull : byId ≠ 0 := by
      rw [← hsame]
      exact hne
    rw [hrefs, if_pos hnull, liveRefs_concat hnull] at hnodup
    refine List.disjoint_of_nodup_append hnodup ?_
      (List.mem_singleton.mpr rfl)
    rw [← hsame, liveRefs, List.mem_filter]
    exact ⟨hmem, by simpa using hne⟩
  exact (hheld.closeReference hclose hbyId).closeReference hclose
    fun _ => mem_close hnatural hother

theorem queryNatural_keepsRefs {env : Env}
    (hclose : env.available .closeEventObjectReference = true)
    (keys : NotificationKeys) {natural : Handle} {s : Session}
    (hne : natural ≠ 0) (hmem : natural ∈ s.objectRefs) :
    KeepsRefs s (queryNatural env keys natural s) := by
  have hview := KeepsRefs.of_run
    (unwrapReference_queries env natural).sparesRefs s
  unfold queryNatural
  dsimp only
  split
  · exact hview.trans (closeReference_keepsRefs hclose fun _ _ => hmem)
  · rename_i object _
    let viewed := (s.run (unwrapReference env natural)).2
    let identified := viewed.run do
      getEventObjectType env object
      getEventObjectId env object
    have hidentified : KeepsRefs s identified.2 :=
      hview.trans (KeepsRefs.of_run
        (.bind (getEventObjectType_queries env object).sparesRefs fun _ =>
          (getEventObjectId_queries env object).sparesRefs) viewed)
    let byId := createById env identified.1 identified.2
    obtain ⟨hcreated, hrefs⟩ :=
      createById_keeps env identified.1 identified.2
    have hqueried := KeepsRefs.of_run (forM_queries env
      (queryRecipe_queries env byId.2.clientHandle keys
        (byId.1.2.getD object)
        (if byId.1.2.isSome then byId.1.1 else natural))
      byId.2.notifyQueries).sparesRefs byId.2
    exact ((hidentified.trans hcreated).trans hqueried).trans
      (closeBoth_keepsRefs hclose hne hmem hrefs)

theorem queryFromNotification_keepsRefs {env : Env} {host : NotifyHost}
    (hclose : env.available .closeEventObjectReference = true)
    (s : Session) : KeepsRefs s (queryFromNotification env host s).2 := by
  unfold queryFromNotification
  split
  · exact KeepsRefs.refl s
  · split
    · exact warn_keepsRefs s _
    · rename_i keys _
      have hnatural := createNatural_creates env host keys s
      dsimp only
      split
      · rename_i hcreated
        refine hnatural.keeps.trans (queryNatural_keepsRefs hclose keys
          (hnatural.value hcreated) ?_)
        rw [hnatural.refs, if_pos hcreated]
        simp
      · exact hnatural.keeps

/-! ## Connecting -/

theorem handlesReference_of_connects {call : Call}
    (h : call.connects = true) : call.handlesReference = false := by
  cases call <;> first | rfl | cases h

theorem connect_objectRefs (env : Env) (client : ClientSpec) (s : Session) :
    (connect env client s).2.objectRefs = s.objectRefs := by
  have hchosen (t : Session) :
      (chooseClientId env client t).2.objectRefs = t.objectRefs := by
    rw [(chooseClientId_frame env client t).1]
  have hreleased (t : Session) :
      (unregisterIfOwned env t).objectRefs = t.objectRefs := by
    rw [(unregisterIfOwned_frame env t).1]
  unfold connect
  dsimp only
  split
  · rfl
  · split
    · exact hchosen _
    · generalize (if client.name = "" then kDefaultClientName
        else client.name) = name
      split
      · exact hchosen _
      · split
        · exact hchosen _
        · exact (hreleased _).trans (hchosen _)

theorem connect_keepsRefs (env : Env) (client : ClientSpec) (s : Session) :
    KeepsRefs s (connect env client s).2 := by
  have hcalls := (connect_calls env client s).mono fun _ =>
    handlesReference_of_connects
  exact KeepsRefs.of_calls hcalls (connect_objectRefs env client s)

theorem connectExisting_keepsRefs (env : Env) (id : Guid) (s : Session) :
    KeepsRefs s (connectExisting env id s).2 := by
  refine KeepsRefs.of_calls ((connectExisting_calls env id s).mono fun _ =>
    handlesReference_of_connects) ?_
  unfold connectExisting
  dsimp only
  split
  · rfl
  · rfl

theorem handleQueueNotification_keepsRefs (notification : Handle)
    (s : Session) : KeepsRefs s (handleQueueNotification notification s) := by
  unfold handleQueueNotification
  split
  · exact KeepsRefs.refl s
  · exact KeepsRefs.of_calls (Calls.of_log rfl) rfl

/-! ## Runs -/

inductive ReferenceRequest
  | pid (name : String) (pid : ℤ)
  | path (name : String) (path : WString)
  | desktop (name : WString)
  | volume (volume : Guid)
  | fileId (volume : Guid) (fileId : FileIdDescriptorRaw)
  | streamById (volume : Guid) (fileId : FileIdDescriptorRaw)
      (streamName : Option WString)
  | eventObject (id : ℕ)

def ReferenceRequest.create (env : Env) :
    ReferenceRequest → Handle → Session → (Bool × Handle) × Session
  | .pid name process => createPidReference env name process
  | .path name target => createPathReference env name target
  | .desktop name => createDesktopReference env name
  | .volume id => createVolumeReference env id
  | .fileId id file => createFileIdReference env id file
  | .streamById id file streamName =>
      createStreamByIdReference env id file streamName
  | .eventObject id => createEventObjectById env id

theorem ReferenceRequest.create_creates (env : Env)
    (request : ReferenceRequest) (out : Handle) (s : Session) :
    CreatesRef s (request.create env out s) := by
  cases request <;> exact createReference_creates env _ _ _ out s

/-- A session and the reference variables of its caller. -/
structure RefState where
  session : Session
  vars : String → Handle

inductive RefOp
  | create (request : ReferenceRequest) (out : String)
  | duplicate (reference out : String)
  | close (reference : String)
  | queryFromNotification
  | handleQueueNotification (notification : Handle)
  | connect (client : ClientSpec)
  | connectExisting (id : Guid)
  | disconnect

def RefOp.apply (env : Env) (host : NotifyHost) (st : RefState) :
    RefOp → RefState
  | .create request out =>
      let created := request.create env (st.vars out) st.session
      ⟨created.2, Function.update st.vars out created.1.2⟩
  | .duplicate reference out =>
      let copied := duplicateReference env (st.vars reference) (st.vars out)
        st.session
      ⟨copied.2, Function.update st.vars out copied.1.2⟩
  | .close reference =>
      ⟨closeReference env (st.vars reference) st.session,
        Function.update st.vars reference 0⟩
  | .queryFromNotification =>
      { st with session := (Esp.queryFromNotification env host st.session).2 }
  | .handleQueueNotification notification =>
      { st with
        session := Esp.handleQueueNotification notification st.session }
  | .connect client =>
      { st with session := (Esp.connect env client st.session).2 }
  | .connectExisting id =>
      { st with session := (Esp.connectExisting env id st.session).2 }
  | .disconnect => { st with session := Esp.disconnect env st.session }

def runRefs (env : Env) (host : NotifyHost) (ops : List RefOp)
    (st : RefState) : RefState :=
  ops.foldl (RefOp.apply env host) st

/-- `CloseReference` is called on a variable that is null or holds a
reference that is not closed yet. -/
def RefOp.Open (st : RefState) : RefOp → Prop
  | .close reference =>
      st.vars reference ≠ 0 →
        refCustody.closed st.session.log (st.vars reference) <
          refCustody.opened st.session.log (st.vars reference)
  | _ => True

def OpenRun (env : Env) (host : NotifyHost) : RefState → List RefOp → Prop
  | _, [] => True
  | st, op :: ops => op.Open st ∧ OpenRun env host (op.apply env host st) ops

section

variable {env : Env} {host : NotifyHost} {st : RefState}

theorem apply_keepsRefs
    (hclose : env.available .closeEventObjectReference = true) {op : RefOp}
    (hopen : op.Open st) :
    KeepsRefs st.session (op.apply env host st).session := by
  cases op with
  | create request out => exact (request.create_creates env _ _).keeps
  | duplicate reference out =>
      exact (duplicateReference_creates env _ _ _).keeps
  | close reference =>
      refine closeReference_keepsRefs hclose fun hheld hne => ?_
      have hlive := hheld.balanced.mem_of_open (hopen hne)
      rw [Multiset.mem_coe] at hlive
      exact (List.mem_filter.mp hlive).1
  | queryFromNotification =>
      exact queryFromNotification_keepsRefs hclose st.session
  | handleQueueNotification notification =>
      exact handleQueueNotification_keepsRefs notification st.session
  | connect client => exact connect_keepsRefs env client st.session
  | connectExisting id => exact connectExisting_keepsRefs env id st.session
  | disconnect => exact disconnect_keepsRefs hclose st.session

theorem runRefs_keepsRefs
    (hclose : env.available .closeEventObjectReference = true)
    {ops : List RefOp} (hopen : OpenRun env host st ops) :
    KeepsRefs st.session (runRefs env host ops st).session := by
  induction ops generalizing st with
  | nil => exact KeepsRefs.refl st.session
  | cons op ops ih =>
      exact (apply_keepsRefs hclose hopen.1).trans (ih hopen.2)

end

/-- In every run of operations on references, in which references that are
open at the same time are distinct and `CloseReference` is called on open
references only, every reference that was created is closed exactly once by
the end of `Disconnect`, and never before it was created; and a second
`Disconnect` makes no call at all. -/
theorem runRefs_closed {env : Env} {host : NotifyHost} {ops : List RefOp}
    {st : RefState}
    (hclose : env.available .closeEventObjectReference = true)
    (hrefs : st.session.objectRefs = [])
    (hlog : refCustody.Balanced st.session.log 0)
    (hopen : OpenRun env host st ops)
    (hfresh : refCustody.OpensFresh
      (disconnect env (runRefs env host ops st).session).log) :
    let final := disconnect env (runRefs env host ops st).session
    (∀ reference, refCustody.closed final.log reference =
      refCustody.opened final.log reference) ∧
    (∀ before, before <+: final.log → ∀ reference,
      refCustody.closed before reference ≤
        refCustody.opened before reference) ∧
    (disconnect env final).log = final.log := by
  intro final
  have hstart : RefsHeld st.session := by
    constructor
    · rw [hrefs]
      exact hlog
    · rw [hrefs]
      exact List.nodup_nil
  have hrun := runRefs_keepsRefs hclose hopen
  have hend := disconnect_keepsRefs hclose (runRefs env host ops st).session
  have hheld := hrun.held (hfresh.of_append hend.log) hstart
  have hsettled : refCustody.Balanced final.log 0 :=
    disconnect_refs hheld hclose
  exact ⟨fun reference => (hsettled.settled reference).symm, hsettled.sound,
    disconnect_disconnect_log env _⟩

/-- A library that issues the handle of a closed reference again. -/
def recyclingEnv : Env :=
  { acceptingEnv with
    respond := fun _ call =>
      match call with
      | .duplicateEventObjectReference _ => { result := kOk, out := 6 }
      | _ => { result := kOk, out := 5 } }

def quietHost : NotifyHost where
  decodeNotificationKeys _ := none
  toUtf16 _ := []
  fallbackPath := []
  fallbackPid := 0

def processRequest : ReferenceRequest := .pid "EspCreateProcessReference" 4

/-- The variable is used twice, for the same handle value both times. -/
def recyclingOps : List RefOp :=
  [.create processRequest "ref", .close "ref", .create processRequest "ref",
    .duplicate "ref" "copy"]

theorem runRefs_closed_recycling :
    let st : RefState := ⟨{ clientHandle := 7 }, fun _ => 0⟩
    let final := disconnect recyclingEnv
      (runRefs recyclingEnv quietHost recyclingOps st).session
    final.log.filterMap createdReference = [5, 5, 6] ∧
      (∀ reference, refCustody.closed final.log reference =
        refCustody.opened final.log reference) ∧
      (disconnect recyclingEnv final).log = final.log := by
  intro st final
  have hopen : OpenRun recyclingEnv quietHost st recyclingOps := by
    refine ⟨trivial, fun _ => ?_, trivial, trivial, trivial⟩
    decide
  have hfresh : refCustody.OpensFresh final.log := by
    decide
  obtain ⟨hclosed, -, hagain⟩ :=
    runRefs_closed rfl rfl balanced_nil hopen hfresh
  exact ⟨by decide, hclosed, hagain⟩

end Esptool.Esp
