import Esptool.HandleBooks
import Esptool.NotificationPump

/-!
# The handles of a pump

A pump hands out one notification at most, and references while it queries.
Whatever the order in which the driver, the callbacks and the loop take their
steps, the notification of the session stays the one that the driver was
armed with, so nothing is lost when it comes back.
-/

namespace Esptool.Esp

open Model Interaction Custody

section

variable {kind : Owned} {env : Env} {s t : Session}

/-! ## The query from a notification -/

theorem supportedProperties_skips (client : Handle) (recipe : QueryRecipe) :
    Skips kind (supportedProperties env client recipe) := by
  have hasked : ∀ property,
      Skips kind (isPropertySupported env client recipe.kind property) :=
    isPropertySupported_skips client recipe.kind
  refine .bind (.forM hasked recipe.properties) fun _ => ?_
  exact .ite (isPropertySupported_skips _ _ _) (.pure _)

theorem queryRecipe_skips (client : Handle) (keys : NotificationKeys)
    (view reference : Handle) (query : ℕ × QueryRecipe) :
    Skips kind (queryRecipe env client keys view reference query) := by
  refine .ite (.pure _) ?_
  refine .bind (.ite (queryKind_skips _ _ _ _) (.pure _)) fun _ => ?_
  refine .bind (.ite (supportedProperties_skips _ _) (.pure _)) fun _ => ?_
  refine .bind (.ite (setEventObjectContextKey_skips _) (.pure _))
    fun _ => ?_
  exact .ite (enumerateEventObjectContextKeys_skips _) (.pure _)

theorem createNatural_untouched (hne : kind ≠ .reference)
    (host : NotifyHost) (keys : NotificationKeys) (s : Session) :
    Untouched kind s (createNatural env host keys s).2 := by
  have hcreate (path : WString) (created : (Bool × Handle) × Session)
      (h : Untouched kind s created.2) :
      Untouched kind s (createPathReference env
        "EspCreateFileReferenceByPath" path created.1.2 created.2).2 :=
    h.trans (createReference_untouched hne _ _ _ _ _)
  unfold createNatural
  split
  · let path := notificationPath env host keys.name
    let first := if path.isEmpty then ((false, 0), s)
      else createPathReference env "EspCreateFileReferenceByPath" path 0 s
    have hfirst : Untouched kind s first.2 := by
      by_cases hempty : path.isEmpty = true
      · rw [show first = _ from if_pos hempty]
        exact .refl s
      · rw [show first = _ from if_neg hempty]
        exact hcreate path ((false, 0), s) (.refl s)
    let second := if !first.1.1 && !host.fallbackPath.isEmpty
      then createPathReference env "EspCreateFileReferenceByPath"
        host.fallbackPath first.1.2 first.2
      else first
    have hsecond : Untouched kind s second.2 := by
      by_cases hagain : (!first.1.1 && !host.fallbackPath.isEmpty) = true
      · rw [show second = _ from if_pos hagain]
        exact hcreate _ first hfirst
      · rw [show second = _ from if_neg hagain]
        exact hfirst
    change Untouched kind s (if second.1.1 = true then second
      else (second.1, second.2.warn
        "QueryFromNotification Fo event has no usable path")).2
    by_cases hcreated : second.1.1 = true
    · rw [if_pos hcreated]
      exact hsecond
    · rw [if_neg hcreated]
      exact hsecond.trans (warn_untouched _)
  · dsimp only
    generalize (if keys.pid = 0 then (host.fallbackPid % 2 ^ 32).toNat
      else keys.pid) = pid
    split
    · exact warn_untouched _
    · exact createReference_untouched hne _ _ _ 0 s

theorem createById_untouched (hne : kind ≠ .reference) (id : ℕ)
    (s : Session) : Untouched kind s (createById env id s).2 := by
  unfold createById
  split
  · exact .refl s
  · have hcreated : Untouched kind s (createEventObjectById env id 0 s).2 :=
      createReference_untouched hne _ _ _ 0 s
    dsimp only
    split
    · exact hcreated.trans ((unwrapReference_skips _).untouched _)
    · exact hcreated

theorem queryNatural_untouched (hne : kind ≠ .reference)
    (keys : NotificationKeys) (natural : Handle) (s : Session) :
    Untouched kind s (queryNatural env keys natural s) := by
  have hview : Untouched kind s (s.run (unwrapReference env natural)).2 :=
    (unwrapReference_skips natural).untouched s
  unfold queryNatural
  dsimp only
  split
  · exact hview.trans (closeReference_untouched hne _ _)
  · rename_i object _
    let viewed := (s.run (unwrapReference env natural)).2
    let identified := viewed.run do
      getEventObjectType env object
      getEventObjectId env object
    have hidentified : Untouched kind s identified.2 :=
      hview.trans (Skips.untouched (.bind (getEventObjectType_skips object)
        fun _ => getEventObjectId_skips object) viewed)
    let byId := createById env identified.1 identified.2
    have hcreated : Untouched kind s byId.2 :=
      hidentified.trans (createById_untouched hne _ _)
    have hqueries : Skips kind (byId.2.notifyQueries.forM
        (queryRecipe env byId.2.clientHandle keys
          (byId.1.2.getD object)
          (if byId.1.2.isSome then byId.1.1 else natural))) :=
      .forM (fun query => queryRecipe_skips _ keys _ _ query) _
    have hqueried : Untouched kind s _ :=
      hcreated.trans (hqueries.untouched byId.2)
    exact (hqueried.trans (closeReference_untouched hne _ _)).trans
      (closeReference_untouched hne _ _)

theorem queryFromNotification_keepsBooks
    (hclose : env.available kind.closer = true) (host : NotifyHost)
    (s : Session) : KeepsBooks kind s (queryFromNotification env host s).2 := by
  by_cases hkind : kind = .reference
  · subst hkind
    exact (queryFromNotification_keepsRefs hclose s).keepsBooks
  · refine Untouched.keepsBooks ?_
    unfold queryFromNotification
    split
    · exact .refl s
    · split
      · exact warn_untouched _
      · rename_i keys _
        have hnatural : Untouched kind s (createNatural env host keys s).2 :=
          createNatural_untouched hkind host keys s
        dsimp only
        split
        · exact hnatural.trans (queryNatural_untouched hkind keys _ _)
        · exact hnatural

/-! ## The pump -/

theorem armNotification_notification (env : Env) (s : Session) :
    (s.notification ≠ 0 →
        (armNotification env s).2.notification = s.notification) ∧
      ((armNotification env s).1 = true →
        (armNotification env s).2.notification ≠ 0) := by
  let looked := ((s.run (require env .allocateEventNotification)).2.run
    (require env .armEventNotification)).2
  have hallocated (hkept : s.notification ≠ 0) :
      allocateNotification env looked = looked := if_pos hkept
  unfold armNotification
  dsimp only
  split
  · exact ⟨fun _ => rfl, nofun⟩
  · split
    · rename_i hnull
      refine ⟨fun hkept => ?_, nofun⟩
      change (allocateNotification env looked).notification = _
      rw [hallocated hkept]
      rfl
    · rename_i harmed
      refine ⟨fun hkept => ?_, fun _ => harmed⟩
      change (allocateNotification env looked).notification = _
      rw [hallocated hkept]
      rfl

end

/-- Along a pump the books are kept, and everything that is under way is the
notification of the session. -/
structure Pump.Booked (kind : Owned) (start : Session) (p : Pump) : Prop where
  books : KeepsBooks kind start p.session
  armed : ∀ notification ∈ p.outstanding ++ p.packets,
    notification ≠ 0 ∧ notification = p.session.notification

section

variable {kind : Owned} {env : Env} {job : PumpJob} {start : Session}
  {p q : Pump}

theorem Pump.start_booked (kind : Owned) (s : Session) :
    (Pump.start s).Booked kind s := by
  refine ⟨Untouched.keepsBooks ⟨Calls.of_log rfl, ?_⟩, by simp [Pump.start]⟩
  cases kind <;> rfl

/-- A step that keeps the notification and puts nothing under way. -/
theorem Pump.Booked.move (h : p.Booked kind start)
    (hbooks : KeepsBooks kind p.session q.session)
    (hkept : q.session.notification = p.session.notification)
    (hsubset : q.outstanding ++ q.packets ⊆ p.outstanding ++ p.packets) :
    q.Booked kind start := by
  refine ⟨h.books.trans hbooks, fun notification hmem => ?_⟩
  rw [hkept]
  exact h.armed notification (hsubset hmem)

theorem Pump.Booked.stay (h : p.Booked kind start)
    (hsession : q.session = p.session)
    (hsubset : q.outstanding ++ q.packets ⊆ p.outstanding ++ p.packets) :
    q.Booked kind start := by
  refine h.move ?_ (by rw [hsession]) hsubset
  rw [hsession]
  exact (Untouched.refl p.session).keepsBooks

theorem Pump.Booked.arming (h : p.Booked kind start)
    (halways : kind = .notification → AllocatesAlways env)
    (hphase : p.phase = .arming) (hstep : p.advance env job = some q) :
    q.Booked kind start := by
  have hbooks : KeepsBooks kind p.session (armNotification env p.session).2 :=
    (armNotification_keepsHeld env p.session halways).keepsBooks
  obtain ⟨hkept, hnonzero⟩ := armNotification_notification env p.session
  have hsame (notification : Handle)
      (hmem : notification ∈ p.outstanding ++ p.packets) :
      notification ≠ 0 ∧
        notification = (armNotification env p.session).2.notification := by
    obtain ⟨hne, hold⟩ := h.armed notification hmem
    exact ⟨hne, by rw [hkept (hold ▸ hne)]; exact hold⟩
  simp only [Pump.advance, hphase, Option.some.injEq] at hstep
  subst hstep
  split
  · rename_i harmed
    refine ⟨h.books.trans hbooks, fun notification hmem => ?_⟩
    change notification ∈ (p.outstanding ++
      [(armNotification env p.session).2.notification]) ++ p.packets at hmem
    rw [List.append_assoc, List.mem_append, List.mem_append,
      List.mem_singleton] at hmem
    rcases hmem with hmem | rfl | hmem
    · exact hsame _ (List.mem_append_left _ hmem)
    · exact ⟨hnonzero harmed, rfl⟩
    · exact hsame _ (List.mem_append_right _ hmem)
  · exact ⟨h.books.trans hbooks, hsame⟩

theorem Pump.Booked.waiting (h : p.Booked kind start)
    (hphase : p.phase = .waiting) (hstep : p.advance env job = some q) :
    q.Booked kind start := by
  simp only [Pump.advance, hphase] at hstep
  split at hstep
  · cases hstep
    exact h.stay rfl (List.Subset.refl _)
  · rename_i _ packet packets _ hpackets
    cases hstep
    have hpacket := h.armed packet (by simp [hpackets])
    refine h.stay ?_ ?_
    · exact if_neg fun hnull => hpacket.1 (hpacket.2.trans hnull)
    · rw [hpackets]
      exact (List.Sublist.append_left (List.sublist_cons_self _ _) _).subset
  · cases hstep

/-- A step that makes one call which no handle depends on. -/
theorem Pump.Booked.call (h : p.Booked kind start) {wanted : Export}
    {ready : Bool} {call : Call} (hneutral : call.neutral = true)
    (hsession : q.session = (callExport env wanted ready call p.session).2)
    (hsubset : q.outstanding ++ q.packets ⊆ p.outstanding ++ p.packets) :
    q.Booked kind start := by
  have hcalled : Untouched kind p.session q.session := by
    rw [hsession]
    exact callExport_untouched wanted ready hneutral p.session
  refine h.move hcalled.keepsBooks ?_ hsubset
  rw [hsession, callExport_frame]

theorem Pump.Booked.starting (h : p.Booked kind start)
    (hphase : p.phase = .starting) (hstep : p.advance env job = some q) :
    q.Booked kind start := by
  simp only [Pump.advance, hphase] at hstep
  split at hstep
  · cases hstep
    exact h.move (warn_untouched _).keepsBooks rfl (List.Subset.refl _)
  · cases hstep
    exact h.stay rfl (List.Subset.refl _)

theorem Pump.Booked.connecting (h : p.Booked kind start)
    (hphase : p.phase = .connecting) (hstep : p.advance env job = some q) :
    q.Booked kind start := by
  simp only [Pump.advance, hphase] at hstep
  split at hstep
  · cases hstep
    split
    · exact h.call rfl rfl (List.Subset.refl _)
    · exact h.call rfl rfl (List.Subset.refl _)
  · cases hstep
    split
    · exact h.call rfl rfl (List.Subset.refl _)
    · exact h.call rfl rfl (List.Subset.refl _)

theorem Pump.Booked.emitting (h : p.Booked kind start)
    (hphase : p.phase = .emitting) (hstep : p.advance env job = some q) :
    q.Booked kind start := by
  simp only [Pump.advance, hphase] at hstep
  cases hstep
  have hcounted : Untouched kind p.session
      { p.session with
        notificationsReceived := p.session.notificationsReceived + 1 } := by
    refine ⟨Calls.of_log rfl, ?_⟩
    cases kind <;> rfl
  exact h.move (hcounted.trans
    ((record_skips "notification" kOk).untouched _)).keepsBooks rfl
    (List.Subset.refl _)

theorem Pump.Booked.querying (h : p.Booked kind start)
    (hclose : env.available kind.closer = true)
    (hphase : p.phase = .querying) (hstep : p.advance env job = some q) :
    q.Booked kind start := by
  simp only [Pump.advance, hphase] at hstep
  cases hstep
  by_cases hempty : p.session.notifyQueries.isEmpty = true
  · exact h.stay (if_pos hempty) (List.Subset.refl _)
  · have hqueries : Queries p.session
        (queryFromNotification env job.host p.session).2 :=
      queryFromNotification_queries job.host p.session
    have hsession : (if p.session.notifyQueries.isEmpty then p.session
        else (queryFromNotification env job.host p.session).2) =
          (queryFromNotification env job.host p.session).2 := if_neg hempty
    refine h.move ?_ ?_ (List.Subset.refl _)
    · change KeepsBooks kind p.session (if p.session.notifyQueries.isEmpty
        then p.session else (queryFromNotification env job.host p.session).2)
      rw [hsession]
      exact queryFromNotification_keepsBooks hclose job.host p.session
    · change (if p.session.notifyQueries.isEmpty then p.session
        else (queryFromNotification env job.host p.session).2).notification = _
      rw [hsession, hqueries.frame]

theorem Pump.Booked.completing (h : p.Booked kind start)
    (hphase : p.phase = .completing) (hstep : p.advance env job = some q) :
    q.Booked kind start := by
  simp only [Pump.advance, hphase] at hstep
  cases hstep
  split
  · exact h.call rfl rfl (List.Subset.refl _)
  · exact h.call rfl rfl (List.Subset.refl _)

theorem Pump.Booked.advance (h : p.Booked kind start)
    (hclose : env.available kind.closer = true)
    (halways : kind = .notification → AllocatesAlways env)
    (hstep : p.advance env job = some q) : q.Booked kind start := by
  cases hphase : p.phase with
  | starting => exact h.starting hphase hstep
  | connecting => exact h.connecting hphase hstep
  | arming => exact h.arming halways hphase hstep
  | waiting => exact h.waiting hphase hstep
  | emitting => exact h.emitting hphase hstep
  | querying => exact h.querying hclose hphase hstep
  | completing => exact h.completing hphase hstep
  | opening =>
      simp only [Pump.advance, hphase] at hstep
      cases hstep
      exact h.stay rfl (List.Subset.refl _)
  | looping | capping =>
      simp only [Pump.advance, hphase] at hstep
      split at hstep <;> cases hstep <;>
        exact h.stay rfl (List.Subset.refl _)
  | stopped =>
      simp only [Pump.advance, hphase] at hstep
      cases hstep

/-- A delivery hands the session the notification that it has. -/
theorem Pump.Booked.deliver (h : p.Booked kind start) {index : ℕ}
    (hstep : p.deliver job index = some q) : q.Booked kind start := by
  unfold Pump.deliver at hstep
  split at hstep
  · cases hstep
  · rename_i notification hfound
    have hmem : notification ∈ p.outstanding := List.mem_of_getElem? hfound
    have hleft : p.outstanding.eraseIdx index ⊆ p.outstanding :=
      (List.eraseIdx_sublist p.outstanding index).subset
    obtain ⟨hne, hsame⟩ := h.armed notification (List.mem_append_left _ hmem)
    split at hstep
    · cases hstep
      refine h.stay ?_ (List.append_subset.mpr
        ⟨List.Subset.trans hleft (List.subset_append_left _ _),
          List.subset_append_right _ _⟩)
      change handleQueueNotification notification p.session = p.session
      rw [handleQueueNotification, if_neg hne, hsame]
    · cases hstep
      refine h.stay rfl (List.append_subset.mpr
        ⟨List.Subset.trans hleft (List.subset_append_left _ _),
          List.append_subset.mpr ⟨List.subset_append_right _ _, ?_⟩⟩)
      intro other hother
      rw [List.mem_singleton.mp hother]
      exact List.mem_append_left _ hmem

theorem Pump.Booked.step (h : p.Booked kind start)
    (hclose : env.available kind.closer = true)
    (halways : kind = .notification → AllocatesAlways env)
    (action : PumpAction) (hstep : p.step env job action = some q) :
    q.Booked kind start := by
  cases action with
  | advance => exact h.advance hclose halways hstep
  | eventFails =>
      simp only [Pump.step] at hstep
      split at hstep
      · cases hstep
        exact h.move (warn_untouched _).keepsBooks rfl (List.Subset.refl _)
      · cases hstep
  | timeout =>
      simp only [Pump.step] at hstep
      split at hstep
      · cases hstep
        exact h.stay rfl (List.Subset.refl _)
      · cases hstep
  | packetFails =>
      simp only [Pump.step] at hstep
      split at hstep
      · cases hstep
        exact h.stay rfl
          (List.Sublist.append_left (List.tail_sublist _) _).subset
      · cases hstep
  | deliver index => exact h.deliver hstep
  | signal =>
      simp only [Pump.step] at hstep
      split at hstep
      · cases hstep
      · cases hstep
        exact h.stay rfl (List.Subset.refl _)

theorem Pump.Booked.run (hclose : env.available kind.closer = true)
    (halways : kind = .notification → AllocatesAlways env)
    (actions : List PumpAction) (h : p.Booked kind start)
    (hrun : p.run env job actions = some q) : q.Booked kind start := by
  induction actions generalizing p with
  | nil =>
      cases hrun
      exact h
  | cons action actions ih =>
      unfold Pump.run at hrun
      rw [List.foldlM_cons] at hrun
      cases hstep : p.step env job action with
      | none =>
          rw [hstep] at hrun
          cases hrun
      | some moved =>
          rw [hstep] at hrun
          exact ih (h.step hclose halways action hstep) hrun

end

/-- Whatever the order of the steps, all that is under way is the notification
of the session, and what a pump and the session before it were handed out is
given back once by the disconnect. -/
theorem Pump.run_losesNothing (env : Env) (job : PumpJob) (kind : Owned)
    (s : Session) (actions : List PumpAction) (p : Pump)
    (hclose : env.available kind.closer = true)
    (halways : kind = .notification → AllocatesAlways env)
    (hstart : kind.custody.Balanced s.log (kind.held s))
    (hrun : (Pump.start s).run env job actions = some p)
    (hfresh : IssuesFresh kind (disconnect env p.session).log) :
    (∀ notification ∈ p.outstanding ++ p.packets,
      notification ≠ 0 ∧ notification = p.session.notification) ∧
      kind.custody.Balanced (disconnect env p.session).log 0 := by
  have hbooked := (Pump.start_booked kind s).run hclose halways actions hrun
  exact ⟨hbooked.armed, hbooked.books.settles hclose hfresh hstart⟩

theorem Pump.run_losesNothing_late :
    ∃ p, (Pump.start lateSession).run acceptingEnv lateJob lateActions =
        some p ∧
      (∀ notification ∈ p.outstanding ++ p.packets,
        notification ≠ 0 ∧ notification = p.session.notification) ∧
      Owned.notification.custody.Balanced
        (disconnect acceptingEnv p.session).log 0 := by
  have hsome : ((Pump.start lateSession).run acceptingEnv lateJob
      lateActions).isSome = true := by
    decide
  obtain ⟨p, hrun⟩ := Option.isSome_iff_exists.mp hsome
  exact ⟨p, hrun, Pump.run_losesNothing acceptingEnv lateJob .notification
    lateSession lateActions p rfl (fun _ _ => rfl) balanced_nil hrun nofun⟩

end Esptool.Esp
