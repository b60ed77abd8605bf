import Esptool.HandleBooks
import Esptool.QueueAgreement
import Esptool.SweepRuns

/-!
# The handles of a whole command

A command that installs no document gives back every handle that its sessions
were handed out, on every way out, but for one: `open-queue` loses the queue of
its owner when the owner has to open the queue itself.  The handles that the
raw calls of `exercise` and `call-one` write into their scratch record belong
to no session: they are not in these books, and nothing gives them back.
-/

namespace Esptool.Cli

open Model Esp Interaction Custody

namespace ClientHost

variable (host : ClientHost) {kind : Owned}

/-! ## Side calls -/

theorem requireSide_untouched (name : String) (s : Session) :
    Untouched kind s (host.requireSide name s).2 := by
  unfold requireSide
  split
  · exact .refl s
  · exact warn_untouched _

theorem askSide_untouched (call : SideCall) (s : Session) :
    Untouched kind s (host.askSide call s).2 :=
  (record_skips _ _).untouched s

theorem callSide_untouched (ready : Bool) (call : SideCall) (s : Session) :
    Untouched kind s (host.callSide ready call s).2 := by
  have hlookup : Untouched kind s (host.requireSide call.name s).2 :=
    host.requireSide_untouched call.name s
  unfold callSide
  dsimp only
  split
  · exact hlookup
  · exact hlookup.trans (host.askSide_untouched call _)

theorem getQueueId_untouched (s : Session) :
    Untouched kind s (host.getQueueId s).2 :=
  host.callSide_untouched _ _ s

theorem enumerateAllRules_untouched (s : Session) :
    Untouched kind s (host.enumerateAllRules s) :=
  host.callSide_untouched _ _ s

theorem exerciseContextKeys_untouched (s : Session) :
    Untouched kind s (host.exerciseContextKeys s).2 := by
  unfold exerciseContextKeys
  dsimp only
  split
  · exact (host.requireSide_untouched _ s).trans
      (host.requireSide_untouched _ _)
  · exact (((host.requireSide_untouched _ s).trans
      (host.requireSide_untouched _ _)).trans
      (host.askSide_untouched _ _)).trans (host.askSide_untouched _ _)

/-! ## What a reference is used for -/

theorem optionalQueries_skips (o : Options) (name : String)
    (client reference view : Handle) :
    Skips kind (host.optionalQueries o name client reference view) := by
  refine .bind (.ite (queryKind_skips _ _ _ _) (.pure _)) fun _ => ?_
  refine .bind ?_ fun _ => .bind (.ite (setEventObjectContextKey_skips _)
    (.pure _)) fun _ => .ite (enumerateEventObjectContextKeys_skips _)
      (.pure _)
  split
  · exact isPropertySupported_skips _ _ _
  · exact .pure _

theorem duplicateOnce_untouched (hne : kind ≠ .reference) (o : Options)
    (reference : Handle) (s : Session) :
    Untouched kind s (host.duplicateOnce o reference s) := by
  unfold duplicateOnce
  dsimp only
  split
  · have hcopied : Untouched kind s
        (duplicateReference host.env reference 0 s).2 :=
      duplicateReference_untouched hne reference 0 s
    split
    · exact hcopied.trans (closeReference_untouched hne _ _)
    · exact hcopied
  · exact .refl s

theorem duplicateOnce_keepsRef
    (hclose : host.env.available .closeEventObjectReference = true)
    (o : Options) {reference : Handle} (hne : reference ≠ 0) (s : Session) :
    KeepsRef reference s (host.duplicateOnce o reference s) := by
  unfold duplicateOnce
  dsimp only
  split
  · have hcreates : CreatesRef s
        (duplicateReference host.env reference 0 s) :=
      duplicateReference_creates host.env reference 0 s
    split
    · rename_i hok
      exact closeCreated_keepsRef hclose hcreates hok hne
    · rename_i hfailed
      refine ⟨hcreates.keeps, fun _ _ hmem => ?_⟩
      rw [hcreates.refs, if_neg hfailed, List.append_nil]
      exact hmem
  · exact (Untouched.refl s).keepsRef

theorem applyOptionalRefOps_untouched (hne : kind ≠ .reference)
    (o : Options) (name : String) (reference view : Handle) (s : Session) :
    Untouched kind s (host.applyOptionalRefOps o name reference view s) := by
  have hcopied := host.duplicateOnce_untouched hne o reference s
  have hqueried : Skips kind (host.optionalQueries o name
      (host.duplicateOnce o reference s).clientHandle reference view) :=
    host.optionalQueries_skips o name _ reference view
  exact hcopied.trans (hqueried.untouched _)

theorem applyOptionalRefOps_keepsRef
    (hclose : host.env.available .closeEventObjectReference = true)
    (o : Options) (name : String) {reference : Handle}
    (hne : reference ≠ 0) (view : Handle) (s : Session) :
    KeepsRef reference s
      (host.applyOptionalRefOps o name reference view s) := by
  have hcopied := host.duplicateOnce_keepsRef hclose o hne s
  have hqueried : Skips .reference (host.optionalQueries o name
      (host.duplicateOnce o reference s).clientHandle reference view) :=
    host.optionalQueries_skips o name _ reference view
  exact hcopied.trans (hqueried.untouched _).keepsRef

theorem createReferenceForKind_creates (o : Options) (name : String)
    (s : Session) : CreatesRef s (host.createReferenceForKind o name s) := by
  unfold createReferenceForKind
  split
  · exact .none 0 (KeepsRefs.refl s) rfl
  · exact ReferenceRequest.create_creates host.env _ 0 s

theorem createReferenceForKind_untouched (hne : kind ≠ .reference)
    (o : Options) (name : String) (s : Session) :
    Untouched kind s (host.createReferenceForKind o name s).2 := by
  unfold createReferenceForKind
  split
  · exact .refl s
  · exact ReferenceRequest.create_untouched hne _ 0 s

/-- A reference is created, worked on and closed. -/
theorem useReference_keepsBooks
    (hclose : kind = .reference →
      host.env.available .closeEventObjectReference = true)
    (o : Options) (name : String) (s : Session) {use : Handle → Session → Session}
    (huntouched : kind ≠ .reference → ∀ reference t,
      Untouched kind t (use reference t))
    (hkeeps : kind = .reference → ∀ reference t, reference ≠ 0 →
      KeepsRef reference t (use reference t)) :
    let created := host.createReferenceForKind o name s
    KeepsBooks kind s
      (if created.1.1 then
        closeReference host.env created.1.2 (use created.1.2 created.2)
      else created.2) := by
  intro created
  by_cases hkind : kind = .reference
  · have hcreates : CreatesRef s created :=
      host.createReferenceForKind_creates o name s
    subst hkind
    split
    · rename_i hok
      have hne := hcreates.value hok
      have hmem : created.1.2 ∈ created.2.objectRefs := by
        rw [hcreates.refs, if_pos hok]
        simp
      exact (hcreates.keeps.trans ((hkeeps rfl _ _ hne).close (hclose rfl)
        hmem)).keepsBooks
    · exact hcreates.keeps.keepsBooks
  · have hcreated : Untouched kind s created.2 :=
      host.createReferenceForKind_untouched hkind o name s
    split
    · exact ((hcreated.trans (huntouched hkind _ _)).trans
        (closeReference_untouched hkind _ _)).keepsBooks
    · exact hcreated.keepsBooks

/-! ## Single sessions -/

theorem connect_started (kind : Owned) (client : ClientSpec) :
    KeepsBooks kind (startedOn [])
      (connect host.env client (startedOn [])).2 :=
  (connect_keepsHeld host.env (startedOn []) client rfl).keepsBooks

/-- A client and a queue. -/
theorem createQueue_started (client : ClientSpec) :
    KeepsBooks kind (startedOn []) (createQueue host.env
      (connect host.env client (startedOn [])).2).2 := by
  refine (host.connect_started kind client).trans
    (createQueue_keepsHeld host.env _ fun _ => ?_).keepsBooks
  rw [connect_frame]
  rfl

theorem settles {s : Session} (hclose : host.env.available kind.closer = true)
    (h : KeepsBooks kind (startedOn []) s)
    (hfresh : IssuesFresh kind (disconnect host.env s).log) :
    kind.custody.Balanced (disconnect host.env s).log 0 := by
  refine h.settles hclose hfresh ?_
  cases kind <;> exact balanced_nil

theorem runConnectedAction_settled
    (hclose : host.env.available kind.closer = true)
    {action : Session → Session}
    (haction : ∀ s, s.journal.notes.collections = [] →
      KeepsBooks kind s (action s))
    (hfresh : IssuesFresh kind (host.runConnectedAction action []).log) :
    kind.custody.Balanced (host.runConnectedAction action []).log 0 := by
  refine host.settles hclose ((host.connect_started kind {}).trans
    (haction _ ?_)) hfresh
  exact (connect_quiet host.env (startedOn []) {}).collections

theorem runConnect_settled (hclose : host.env.available kind.closer = true)
    (halways : kind = .notification → AllocatesAlways host.env)
    (hfresh : IssuesFresh kind (host.runConnect []).log) :
    kind.custody.Balanced (host.runConnect []).log 0 := by
  have hqueued : KeepsBooks kind (startedOn []) (createQueue host.env
      (connect host.env {} (startedOn [])).2).2 :=
    host.createQueue_started {}
  have harmed := armNotification_keepsHeld host.env
    (createQueue host.env (connect host.env {} (startedOn [])).2).2 halways
  exact host.settles hclose (hqueued.trans harmed.keepsBooks) hfresh

theorem enumerateClients_untouched (s : Session) :
    Untouched kind s (enumerateClients host.env s).2 :=
  callExport_untouched _ _ rfl s

theorem unregisterClientId_untouched (id : Guid) (s : Session) :
    Untouched kind s (unregisterClientId host.env id s).2 :=
  callExport_untouched _ _ rfl s

theorem foldl_unregisterOne_untouched (ids : List Guid) (st : ℕ × Session) :
    Untouched kind st.2 (ids.foldl host.unregisterOne st).2 := by
  induction ids generalizing st with
  | nil => exact .refl st.2
  | cons id ids ih =>
      exact (host.unregisterClientId_untouched id st.2).trans
        (ih (host.unregisterOne st id))

theorem runUnregister_settled
    (hclose : host.env.available kind.closer = true) (o : Options)
    (hfresh : IssuesFresh kind (host.runUnregister o []).log) :
    kind.custody.Balanced (host.runUnregister o []).log 0 := by
  have hlisted : KeepsBooks kind (startedOn [])
      (enumerateClients host.env (startedOn [])).2 :=
    (host.enumerateClients_untouched _).keepsBooks
  revert hfresh
  unfold runUnregister unregisterAll
  dsimp only
  split
  · split
    · exact host.settles hclose hlisted
    · exact host.settles hclose (hlisted.trans
        (host.foldl_unregisterOne_untouched _ (0, _)).keepsBooks)
  split
  · exact fun _ => balanced_nil
  split
  · exact fun _ => balanced_nil
  · exact host.settles hclose
      (host.unregisterClientId_untouched _ _).keepsBooks

theorem runEnumRules_settled
    (hclose : host.env.available kind.closer = true)
    (hfresh : IssuesFresh kind (host.runEnumRules []).log) :
    kind.custody.Balanced (host.runEnumRules []).log 0 := by
  refine host.runConnectedAction_settled hclose (fun s _ => ?_) hfresh
  refine ((host.enumerateAllRules_untouched s).trans ?_).keepsBooks
  generalize host.enumerateAllRules s = t
  induction kLifetimesFfi generalizing t with
  | nil => exact .refl t
  | cons lifetime lifetimes ih =>
      exact (callExport_untouched _ _ rfl t).trans (ih _)

/-! ## Queries, references and collections -/

theorem querySupported_untouched (o : Options) (name : String) (ok : Bool)
    (s : Session) :
    Untouched kind s (host.querySupported o name ok s).2 := by
  unfold querySupported
  split
  · exact .refl s
  split
  · exact .refl s
  · exact (isPropertySupported_skips _ _ _).untouched s

theorem queryClient_untouched (o : Options) (name : String) (s : Session) :
    Untouched kind s (host.queryClient o name s).2 := by
  unfold queryClient
  dsimp only
  split
  · exact .refl s
  split
  · split
    · exact .refl s
    · exact ((queryKind_skips _ _ _ _).untouched s).trans
        (host.querySupported_untouched o name true _)
  · exact host.querySupported_untouched o name false s

theorem queryWithoutReference_untouched (o : Options) (name : String)
    (s : Session) :
    Untouched kind s (host.queryWithoutReference o name s).2 := by
  unfold queryWithoutReference
  dsimp only
  split
  · exact ((queryKind_skips _ _ _ _).untouched s).trans
      (host.querySupported_untouched o _ false _)
  · exact host.querySupported_untouched o _ false s

theorem queryReference_keepsBooks
    (hclose : kind = .reference →
      host.env.available .closeEventObjectReference = true)
    (o : Options) (name : String) (s : Session) :
    KeepsBooks kind s (host.queryReference o name s).2 := by
  let use (reference : Handle) (t : Session) : Session :=
    let view := t.run (unwrapReference host.env reference)
    host.applyOptionalRefOps o (Esp.canonicalQueryKind name) reference
      (view.1.getD 0) view.2
  have hused := @useReference_keepsBooks host kind hclose o name s use
    (fun hne reference t => ((unwrapReference_skips reference).untouched
      t).trans (host.applyOptionalRefOps_untouched hne o _ reference _ _))
    fun hkind reference t hne => ?_
  · unfold queryReference
    dsimp only at hused ⊢
    split
    · rename_i hfailed
      rw [if_neg (by simpa using hfailed)] at hused
      exact hused
    · rename_i hok
      rw [if_pos (by simpa using hok)] at hused
      exact hused
  · have hviewed : Untouched .reference t
        (t.run (unwrapReference host.env reference)).2 :=
      (unwrapReference_skips reference).untouched t
    exact hviewed.keepsRef.trans
      (host.applyOptionalRefOps_keepsRef (hclose hkind) o _ hne _ _)

theorem queryByKind_keepsBooks
    (hclose : kind = .reference →
      host.env.available .closeEventObjectReference = true)
    (o : Options) (name : String) (s : Session) :
    KeepsBooks kind s (host.queryByKind o name s).2 := by
  unfold queryByKind
  split
  · exact (host.queryClient_untouched o name s).keepsBooks
  split
  · exact (host.queryWithoutReference_untouched o name s).keepsBooks
  · exact host.queryReference_keepsBooks hclose o name s

theorem queryAllProperties_untouched (s : Session) :
    Untouched kind s (host.queryAllProperties s) :=
  (Skips.forM (queryProperties_skips host _) _).untouched s

theorem closes_references (hclose : host.env.available kind.closer = true)
    (hkind : kind = .reference) :
    host.env.available .closeEventObjectReference = true := by
  rw [hkind] at hclose
  exact hclose

theorem runQuery_settled (hclose : host.env.available kind.closer = true)
    (o : Options) (hfresh : IssuesFresh kind (host.runQuery o []).log) :
    kind.custody.Balanced (host.runQuery o []).log 0 := by
  revert hfresh
  unfold runQuery
  dsimp only
  split
  · exact host.runConnectedAction_settled hclose fun s _ =>
      (host.queryAllProperties_untouched s).keepsBooks
  have hconnected := host.connect_started kind
    (host.uniqueClientSpec "esptool-query")
  split
  · exact host.settles hclose hconnected
  · have hqueried := hconnected.trans (host.queryByKind_keepsBooks
      (host.closes_references hclose) o (Text.toLowerAscii o.kind) _)
    split <;> exact host.settles hclose hqueried

/-- The branch of `refs` on a reference that was created. -/
theorem inspectReference_keepsBooks
    (hclose : kind = .reference →
      host.env.available .closeEventObjectReference = true)
    (o : Options) (name : String) (s : Session) :
    let created := host.createReferenceForKind o name s
    KeepsBooks kind s
      (if created.1.1 then
        host.inspectReference o name created.1.2 created.2
      else created.2) := by
  have hobject (view : Handle) :
      Skips kind (do
        getEventObjectType host.env view
        let _ ← getEventObjectId host.env view) :=
    .bind (getEventObjectType_skips view) fun _ =>
      .bind (getEventObjectId_skips view) fun _ => .pure _
  let look (reference : Handle) (t : Session) : Session :=
    let view := t.run (unwrapReference host.env reference)
    if view.1.getD 0 ≠ 0 then
      (view.2.run do
        getEventObjectType host.env (view.1.getD 0)
        let _ ← getEventObjectId host.env (view.1.getD 0)).2
    else view.2
  have hlook (reference : Handle) (t : Session) :
      Untouched kind t (look reference t) := by
    have hviewed : Untouched kind t
        (t.run (unwrapReference host.env reference)).2 :=
      (unwrapReference_skips reference).untouched t
    dsimp only [look]
    split
    · exact hviewed.trans ((hobject _).untouched _)
    · exact hviewed
  let use (reference : Handle) (t : Session) : Session :=
    host.applyOptionalRefOps o (Esp.canonicalQueryKind name) reference
      ((t.run (unwrapReference host.env reference)).1.getD 0)
      (look reference t)
  refine @useReference_keepsBooks host kind hclose o name s use
    (fun hne reference t => ?_) fun hkind reference t hne => ?_
  · exact (hlook reference t).trans
      (host.applyOptionalRefOps_untouched hne o _ reference _ _)
  · refine KeepsRef.trans (t := look reference t) ?_
      (host.applyOptionalRefOps_keepsRef (hclose hkind) o _ hne _ _)
    subst hkind
    exact (hlook reference t).keepsRef

theorem runRefsDirect_settled
    (hclose : host.env.available kind.closer = true) (o : Options)
    (hfresh : IssuesFresh kind (host.runRefsDirect o []).log) :
    kind.custody.Balanced (host.runRefsDirect o []).log 0 := by
  revert hfresh
  unfold runRefsDirect
  dsimp only
  generalize (if o.kind = "" then
      Text.toLowerAscii (o.positional.headD "") else Text.toLowerAscii o.kind)
    = name
  split
  · exact fun _ => balanced_nil
  have hconnected := host.connect_started kind
    (host.uniqueClientSpec "esptool-refs")
  split
  · exact host.settles hclose hconnected
  · exact host.settles hclose (hconnected.trans
      (host.inspectReference_keepsBooks (host.closes_references hclose) o name
        _))

theorem exerciseExtended_settled
    (hclose : host.env.available kind.closer = true) (openId : Option Guid)
    (o : Options) {s : Session} (hstarted : KeepsBooks kind (startedOn []) s)
    (hfresh : IssuesFresh kind (host.exerciseExtended openId o s).log) :
    kind.custody.Balanced (host.exerciseExtended openId o s).log 0 := by
  have hexercised : KeepsHeld kind s (exerciseCollectionsExtended host.env
      (extendedExercise o openId) s).2 :=
    exerciseCollectionsExtended_keepsHeld _ s
  exact host.settles hclose (hstarted.trans hexercised.keepsBooks) hfresh

theorem runCollections_settled
    (hclose : host.env.available kind.closer = true) (o : Options)
    (hfresh : IssuesFresh kind (host.runCollections o []).log) :
    kind.custody.Balanced (host.runCollections o []).log 0 := by
  revert hfresh
  unfold runCollections
  dsimp only
  split
  · refine host.runConnectedAction_settled hclose fun s hempty =>
      exerciseCollections_keepsBooks (fun hkind => ?_) hempty
    rw [hkind] at hclose
    exact hclose
  have hconnected := host.connect_started kind {}
  split
  · exact host.settles hclose hconnected
  split
  · exact host.exerciseExtended_settled hclose none o hconnected
  split
  · exact host.settles hclose hconnected
  · exact host.exerciseExtended_settled hclose _ o hconnected

/-! ## The sweep -/

theorem withSteps_untouched (s : Session) (steps : List StepResult) :
    Untouched kind s (s.withSteps steps) := by
  refine ⟨⟨[], (List.append_nil _).symm, nofun⟩, ?_⟩
  cases kind <;> rfl

theorem prepareSession_keepsHeld (s : Session) :
    KeepsHeld kind s (prepareSession host.env s) := by
  have hcalled (t : Session) :
      Untouched kind t (connectQueueToCallback host.env t).2 :=
    callExport_untouched _ _ rfl t
  have hqueued : KeepsHeld kind s
      (if s.queueHandle = 0 then (createQueue host.env s).2 else s) := by
    split
    · rename_i hempty
      exact createQueue_keepsHeld host.env s fun _ => hempty
    · exact .refl s
  unfold prepareSession
  split
  · exact .refl s
  generalize (if s.queueHandle = 0 then (createQueue host.env s).2 else s)
    = queued at hqueued ⊢
  dsimp only
  split
  · exact hqueued.trans (hcalled queued).keepsHeld
  · exact hqueued

/-- The raw calls leave the handles of the session alone. -/
theorem runInProcess_keepsHeld (api : EspApi) (s : Session) :
    KeepsHeld kind s (runInProcess host.exerciseHost api s).session := by
  obtain ⟨reported, made, h⟩ := foldl_exerciseOne host.exerciseHost
    api.exports
    { session := prepareSession host.env s
      scratch := initialScratch host.windowsDirectory }
  have hsession : (runInProcess host.exerciseHost api s).session =
      (prepareSession host.env s).withSteps (stepsOf made) := h.session
  rw [hsession]
  exact (host.prepareSession_keepsHeld s).trans
    (withSteps_untouched _ _).keepsHeld

theorem runExercise_settled (hclose : host.env.available kind.closer = true)
    (api : EspApi) (o : Options)
    (hfresh : IssuesFresh kind (host.runExercise api o []).2.log) :
    kind.custody.Balanced (host.runExercise api o []).2.log 0 := by
  have hconnected := host.connect_started kind {}
  revert hfresh
  unfold runExercise
  dsimp only
  split
  · exact host.settles hclose hconnected
  · exact host.settles hclose
      (hconnected.trans (host.runInProcess_keepsHeld api _).keepsBooks)

theorem runCallOne_settled (hclose : host.env.available kind.closer = true)
    (api : EspApi) (o : Options)
    (hfresh : IssuesFresh kind (host.runCallOne api o []).2.log) :
    kind.custody.Balanced (host.runCallOne api o []).2.log 0 := by
  revert hfresh
  unfold runCallOne
  split
  · exact fun _ => balanced_nil
  · exact host.settles hclose (host.connect_started kind {})

/-! ## Two sessions on one queue -/

/-- The frame of one session while another one works on the same log. -/
theorem disconnect_resumed (hclose : host.env.available kind.closer = true)
    {s : Session} {log : List Event} {others : Multiset Handle}
    (h : kind.custody.Holds [] log (kind.held s + others)) :
    kind.custody.Holds [] (disconnect host.env (resume s log)).log
      others := by
  have hheld : kind.held (resume s log) = kind.held s := by
    cases kind <;> rfl
  have hafter := (disconnect_keepsHeld hclose (resume s log)).holds [] others
    (by rwa [hheld])
  rwa [held_disconnect, zero_add] at hafter

theorem createQueue_queue_ne_zero {env : Env} {s : Session}
    (h : (createQueue env s).1 = true) :
    (createQueue env s).2.queueHandle ≠ 0 := by
  obtain ⟨e, -, -, hvalue⟩ := adopt_event env "EspCreateEventQueue"
    (.createEventQueue s.clientHandle)
    (s.run (require env .createEventQueue)).2
  unfold createQueue at h ⊢
  dsimp only at h ⊢
  split at h
  · cases h
  rename_i hready
  rw [if_neg hready]
  change ((_ : Option Handle).isSome) = true at h
  change (_ : Option Handle).getD 0 ≠ 0
  rw [hvalue] at h ⊢
  split at h
  · rename_i hdone
    rw [if_pos hdone]
    exact hdone.2
  · cases h

/-- The second session did not open the queue, and the owner may try. -/
def ownerReopens : Bool :=
  let owned := host.ownQueue []
  let identified := host.getQueueId owned.2
  owned.1 && host.env.available .openEventQueue &&
    identified.1.any fun id => !(host.openFrom id identified.2).1

theorem ownQueue_keepsHeld :
    KeepsHeld kind (startedOn []) (host.ownQueue []).2 := by
  have hconnected := @connect_keepsHeld kind host.env (startedOn [])
    (host.uniqueClientSpec "esptool-oq1") rfl
  unfold ownQueue
  dsimp only
  split
  · refine hconnected.trans (createQueue_keepsHeld host.env _ fun _ => ?_)
    rw [connect_frame]
    rfl
  · exact hconnected

theorem ownQueue_handles (h : (host.ownQueue []).1 = true) :
    (host.ownQueue []).2.clientHandle ≠ 0 ∧
      (host.ownQueue []).2.queueHandle ≠ 0 := by
  unfold ownQueue at h ⊢
  dsimp only at h ⊢
  split at h
  · rename_i hconnected
    rw [if_pos hconnected]
    refine ⟨?_, createQueue_queue_ne_zero h⟩
    have hkept (s : Session) :
        (createQueue host.env s).2.clientHandle = s.clientHandle := by
      unfold createQueue
      dsimp only
      split <;> rfl
    rw [hkept]
    exact connect_client_ne_zero hconnected
  · cases h

/-- What opening a queue does to the books while other handles are open. -/
theorem openQueue_holds (id : Guid) {s : Session} {others : Multiset Handle}
    (h : kind.custody.Holds [] s.log (kind.held s + others)) :
    let replaced := kind = .queue ∧
      (host.env.available .openEventQueue && s.clientHandle != 0) = true
    let opened := (openQueue host.env id s).2
    kind.custody.Holds [] opened.log
      (kind.held opened + (others + if replaced then kind.held s else 0)) := by
  intro replaced opened
  by_cases hkind : kind = .queue
  · subst hkind
    have hafter := (queue_slotStep host.env s .openEventQueue
      "EspOpenEventQueue" (.openEventQueue s.clientHandle id) rfl
      rfl).1.holds h
    have hreplaced : replaced ↔
        (host.env.available .openEventQueue && s.clientHandle != 0) = true :=
      and_iff_right rfl
    rw [add_comm others, if_congr hreplaced rfl rfl]
    exact hafter
  · rw [if_neg fun hreplaced => hkind hreplaced.1, add_zero]
    exact (openQueue_keepsHeld host.env s id
      fun hqueue => absurd hqueue hkind).holds [] others h

/-- The second session starts with nothing and keeps its own books. -/
theorem openFrom_holds (id : Guid) {owner : Session}
    (h : kind.custody.Holds [] owner.log (kind.held owner)) :
    let opened := (host.openFrom id owner).2
    kind.custody.Holds [] opened.log
      (kind.held opened + kind.held owner) := by
  have hstarted : kind.held (startedOn owner.log) = 0 := by
    cases kind <;> rfl
  have hconnected := @connect_keepsHeld kind host.env
    (startedOn owner.log) (host.uniqueClientSpec "esptool-oq2") rfl
  have hopened : KeepsHeld kind (startedOn owner.log)
      (host.openFrom id owner).2 := by
    unfold openFrom
    dsimp only
    split
    · refine hconnected.trans (openQueue_keepsHeld host.env _ id fun _ => ?_)
      rw [connect_frame]
      rfl
    · exact hconnected
  refine hopened.holds [] (kind.held owner) ?_
  rwa [hstarted, zero_add]

/-- The sessions are closed one after the other, the second one first. -/
theorem openSecond_settled (hclose : host.env.available kind.closer = true)
    (id : Guid) {owner : Session} (hclient : owner.clientHandle ≠ 0)
    (h : kind.custody.Holds [] owner.log (kind.held owner)) :
    let opened := host.openSecond id owner
    let closed := disconnect host.env opened.2.2
    kind.custody.Holds []
      (disconnect host.env (resume opened.2.1 closed.log)).log
      (if kind = .queue ∧ host.env.available .openEventQueue = true ∧
          (host.openFrom id owner).1 = false then kind.held owner
        else 0) := by
  have htried := host.openFrom_holds id h
  have hresumed (s : Session) (log : List Event) :
      kind.held (resume s log) = kind.held s := by
    cases kind <;> rfl
  unfold openSecond
  dsimp only at htried ⊢
  by_cases hopened : (host.openFrom id owner).1 = true
  · rw [if_pos hopened, if_neg fun h => by simp [hopened] at h]
    have hsecond := (disconnect_keepsHeld hclose
      (host.openFrom id owner).2).holds [] (kind.held owner) htried
    rw [held_disconnect, zero_add] at hsecond
    refine host.disconnect_resumed hclose ?_
    rwa [add_zero, hresumed]
  · rw [if_neg hopened]
    have howned : kind.custody.Holds []
        (resume owner (host.openFrom id owner).2.log).log
        (kind.held (resume owner (host.openFrom id owner).2.log) +
          kind.held (host.openFrom id owner).2) := by
      rw [hresumed, add_comm]
      exact htried
    have hreopened := host.openQueue_holds id howned
    dsimp only at hreopened
    have hlost : (if kind = .queue ∧
          (host.env.available .openEventQueue &&
            (resume owner (host.openFrom id owner).2.log).clientHandle != 0)
            = true
        then kind.held (resume owner (host.openFrom id owner).2.log)
        else 0) =
        if kind = .queue ∧ host.env.available .openEventQueue = true ∧
          (host.openFrom id owner).1 = false then kind.held owner
        else 0 := by
      rw [hresumed]
      refine if_congr ?_ rfl rfl
      have hkept : (resume owner (host.openFrom id owner).2.log).clientHandle
          ≠ 0 := hclient
      simp [hkept, hopened]
    rw [hlost] at hreopened
    refine host.disconnect_resumed hclose
      (host.disconnect_resumed hclose ?_)
    dsimp only
    rw [add_left_comm]
    exact hreopened

theorem settles_held {s : Session}
    (hclose : host.env.available kind.closer = true)
    (h : KeepsHeld kind (startedOn []) s) :
    kind.custody.Balanced (disconnect host.env s).log 0 := by
  have hend := (h.trans (disconnect_keepsHeld hclose s)).holds [] 0 (by
    cases kind <;> exact holds_nil_iff.mpr balanced_nil)
  rw [held_disconnect, add_zero] at hend
  exact holds_nil_iff.mp hend

theorem getQueueId_frame (s : Session) :
    (host.getQueueId s).2.clientHandle = s.clientHandle ∧
      (host.getQueueId s).2.queueHandle = s.queueHandle := by
  unfold getQueueId callSide requireSide askSide
  dsimp only
  split
  · split
    · exact ⟨rfl, rfl⟩
    · exact ⟨rfl, rfl⟩
  · split
    · exact ⟨rfl, rfl⟩
    · exact ⟨rfl, rfl⟩

/-- The owner's queue is lost exactly when the owner opens it itself. -/
theorem runOpenQueue_settled
    (hclose : host.env.available kind.closer = true) :
    kind.custody.Balanced (host.runOpenQueue []).log
      (if kind = .queue ∧ host.ownerReopens = true then
        {(host.ownQueue []).2.queueHandle}
      else 0) := by
  have howned : KeepsHeld kind (startedOn []) (host.ownQueue []).2 :=
    host.ownQueue_keepsHeld
  have hidentified := howned.trans
    (host.getQueueId_untouched (host.ownQueue []).2).keepsHeld
  unfold runOpenQueue
  dsimp only
  by_cases hok : (host.ownQueue []).1 = true
  swap
  · have hnever : host.ownerReopens = false := by
      simp [ownerReopens, hok]
    rw [if_pos (by simpa using hok), hnever, if_neg (by simp)]
    exact host.settles_held hclose howned
  rw [if_neg (by simpa using hok)]
  have hhandles := host.ownQueue_handles hok
  have hreopens : host.ownerReopens =
      (host.env.available .openEventQueue &&
        (host.getQueueId (host.ownQueue []).2).1.any fun id =>
          !(host.openFrom id (host.getQueueId (host.ownQueue []).2).2).1) := by
    simp [ownerReopens, hok]
  obtain ⟨hclient, hqueue⟩ := host.getQueueId_frame (host.ownQueue []).2
  generalize host.getQueueId (host.ownQueue []).2 = identified
    at hidentified hclient hqueue hreopens ⊢
  obtain ⟨found, owner⟩ := identified
  cases found with
  | none =>
      have hnever : host.ownerReopens = false := by
        simp [hreopens]
      rw [hnever, if_neg (by simp)]
      exact host.settles_held hclose hidentified
  | some id =>
      have hheld : kind.custody.Holds [] owner.log (kind.held owner) := by
        have hafter := hidentified.holds [] 0 (by
          cases kind <;> exact holds_nil_iff.mpr balanced_nil)
        rwa [add_zero] at hafter
      have hsettled := host.openSecond_settled hclose id
        (hclient.trans_ne hhandles.1) hheld
      have hlost : (if kind = .queue ∧
            host.env.available .openEventQueue = true ∧
              (host.openFrom id owner).1 = false then kind.held owner
          else 0) =
          if kind = .queue ∧ host.ownerReopens = true then
            {(host.ownQueue []).2.queueHandle}
          else 0 := by
        have hcondition : host.ownerReopens = true ↔
            host.env.available .openEventQueue = true ∧
              (host.openFrom id owner).1 = false := by
          rw [hreopens]
          simp
        simp only [← hcondition]
        split
        · rename_i hreopened
          have hne : owner.queueHandle ≠ 0 := hqueue.trans_ne hhandles.2
          have hsame : (host.ownQueue []).2.queueHandle =
              owner.queueHandle := hqueue.symm
          rw [hreopened.1, hsame]
          simp [Owned.held, Owned.kept, hne]
        · rfl
      rw [hlost] at hsettled
      exact holds_nil_iff.mp hsettled

/-! ## The simple commands -/

theorem runTrust_settled (hclose : host.env.available kind.closer = true)
    (hfresh : IssuesFresh kind (host.runTrust []).log) :
    kind.custody.Balanced (host.runTrust []).log 0 := by
  have hqueued : KeepsBooks kind (startedOn []) (createQueue host.env
      (connect host.env (host.uniqueClientSpec "esptool-trust")
        (startedOn [])).2).2 :=
    host.createQueue_started _
  exact host.settles hclose hqueued hfresh

theorem runClients_settled (hclose : host.env.available kind.closer = true)
    (hfresh : IssuesFresh kind (host.runClients []).log) :
    kind.custody.Balanced (host.runClients []).log 0 := by
  have hlisted : Untouched kind (startedOn []) _ :=
    host.enumerateClients_untouched _
  exact host.settles hclose hlisted.keepsBooks hfresh

theorem runRemoveRules_settled
    (hclose : host.env.available kind.closer = true)
    (hfresh : IssuesFresh kind (host.runRemoveRules []).log) :
    kind.custody.Balanced (host.runRemoveRules []).log 0 := by
  refine host.runConnectedAction_settled hclose (fun s _ => ?_) hfresh
  have hcalled : Untouched kind s (removeAllRules host.env s).2 :=
    callExport_untouched _ _ rfl s
  exact hcalled.keepsBooks

theorem runContext_settled (hclose : host.env.available kind.closer = true)
    (hfresh : IssuesFresh kind (host.runContext []).log) :
    kind.custody.Balanced (host.runContext []).log 0 := by
  refine host.runConnectedAction_settled hclose (fun s _ => ?_) hfresh
  have hexercised : Untouched kind s (host.exerciseContextKeys s).2 :=
    host.exerciseContextKeys_untouched s
  exact hexercised.keepsBooks

end ClientHost

/-- What the sessions of a command were handed out is given back once, but
for the queue that the owner of `open-queue` drops when it opens that queue
itself. -/
theorem ClientCommand.run_settled (command : ClientCommand)
    (host : ClientHost) (api : EspApi) (o : Options) (kind : Owned)
    (hclose : host.env.available kind.closer = true)
    (halways : kind = .notification → AllocatesAlways host.env)
    (hfresh : IssuesFresh kind (command.run host api o []).log) :
    kind.custody.Balanced (command.run host api o []).log
      (if kind = .queue ∧ command = .openQueue ∧
          host.ownerReopens = true then
        {(host.ownQueue []).2.queueHandle}
      else 0) := by
  have hnothing {log : List Event} (hother : command ≠ .openQueue)
      (h : kind.custody.Balanced log 0) :
      kind.custody.Balanced log
        (if kind = .queue ∧ command = .openQueue ∧
            host.ownerReopens = true then
          {(host.ownQueue []).2.queueHandle}
        else 0) := by
    rw [if_neg fun hlost => hother hlost.2.1]
    exact h
  cases command with
  | exports => exact hnothing nofun balanced_nil
  | status => exact hnothing nofun balanced_nil
  | connect =>
      exact hnothing nofun (host.runConnect_settled hclose halways hfresh)
  | clients => exact hnothing nofun (host.runClients_settled hclose hfresh)
  | unregister =>
      exact hnothing nofun (host.runUnregister_settled hclose o hfresh)
  | enumRules =>
      exact hnothing nofun (host.runEnumRules_settled hclose hfresh)
  | removeRules =>
      exact hnothing nofun (host.runRemoveRules_settled hclose hfresh)
  | openQueue =>
      have hsettled := @ClientHost.runOpenQueue_settled host kind hclose
      simp only [true_and]
      exact hsettled
  | trust => exact hnothing nofun (host.runTrust_settled hclose hfresh)
  | query => exact hnothing nofun (host.runQuery_settled hclose o hfresh)
  | refs => exact hnothing nofun (host.runRefsDirect_settled hclose o hfresh)
  | collections =>
      exact hnothing nofun (host.runCollections_settled hclose o hfresh)
  | context => exact hnothing nofun (host.runContext_settled hclose hfresh)
  | exercise =>
      exact hnothing nofun (host.runExercise_settled hclose api o hfresh)
  | callOne =>
      exact hnothing nofun (host.runCallOne_settled hclose api o hfresh)

/-- A library that accepts every call, on a quiet machine. -/
def acceptingClient : ClientHost where
  commands := {
    env := acceptingEnv
    parseRuleText _ := { error := "" }
    ruleFile _ := ⟨none, some 0, .ok []⟩
    readStream _ := none
    pumpNotifications _ _ s := s
    pumpNotificationsIocp _ _ s := s
    queryFromNotification s := s
    fileTrigger s := s
    processTrigger _ s := s }
  sideAvailable _ := true
  respondSide _ _ := { result := kOk }
  stamp _ := 0
  processId := 4
  threadId := 8
  windowsDirectory := []
  respondRaw _ call := ⟨0, call.scratch⟩
  systems _ := Process.failingWait

/-- A library on which a queue is opened by nobody but its owner. -/
def jealousClient : ClientHost :=
  { acceptingClient with
    commands := { acceptingClient.commands with
      env := { acceptingEnv with
        respond := fun log call =>
          match call with
          | .openEventQueue _ _ => { result := kInvalidArg }
          | _ => acceptingEnv.respond log call } } }

/-- The references of `refs`, and the queue that `open-queue` loses there. -/
theorem ClientCommand.run_settled_openQueue :
    Owned.reference.custody.Balanced
        (ClientCommand.refs.run acceptingClient {}
          { kind := "event", eventId := "5" } []).log
        (if Owned.reference = .queue ∧ ClientCommand.refs = .openQueue ∧
            acceptingClient.ownerReopens = true then
          {(acceptingClient.ownQueue []).2.queueHandle}
        else 0) ∧
      jealousClient.ownerReopens = true ∧
      Owned.queue.custody.Balanced
        (ClientCommand.openQueue.run jealousClient {} {} []).log
        (if Owned.queue = .queue ∧ ClientCommand.openQueue = .openQueue ∧
            jealousClient.ownerReopens = true then
          {(jealousClient.ownQueue []).2.queueHandle}
        else 0) := by
  refine ⟨?_, by decide +kernel, ?_⟩
  · exact ClientCommand.run_settled .refs acceptingClient {}
      { kind := "event", eventId := "5" } .reference rfl nofun
      fun _ => by decide +kernel
  · exact ClientCommand.run_settled .openQueue jealousClient {} {} .queue
      rfl nofun fun _ => by decide +kernel

end Esptool.Cli
