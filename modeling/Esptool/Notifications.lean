import Esptool.ObjectReferences

/-!
# Arming, completing and querying a notification

The operations that the notification pumps are made of, and what each of them
calls.  A session has one notification at a time; arming allocates it when
there is none.
-/

namespace Esptool.Esp

open Model Interaction

def kOutOfMemory : EspResult := 0x8007000E - 2 ^ 32
def kIoPending : EspResult := 0x800703E5 - 2 ^ 32

/-- An arm may be pending: that is not a failure. -/
def armAccepted (result : EspResult) : Bool :=
  succeeded result || result == kIoPending

/-- The first half of `ArmNotification`: a notification is allocated unless
the session has one. -/
def allocateNotification (env : Env) (s : Session) : Session :=
  if s.notification ≠ 0 then s
  else
    let allocated := s.run (ask env.respond .allocateEventNotification)
    if allocated.1.out = 0 then
      (allocated.2.run (record "EspAllocateEventNotification"
        kOutOfMemory)).2
    else
      ({ allocated.2 with notification := allocated.1.out }.run
        (record "EspAllocateEventNotification" kOk)).2

def armNotification (env : Env) (s : Session) : Bool × Session :=
  let allocateFn := s.run (require env .allocateEventNotification)
  let armFn := allocateFn.2.run (require env .armEventNotification)
  if !(allocateFn.1 && armFn.1) || s.queueHandle == 0 then (false, armFn.2)
  else
    let allocated := allocateNotification env armFn.2
    if allocated.notification = 0 then (false, allocated)
    else allocated.run do
      let reply ← ask env.respond
        (.armEventNotification allocated.queueHandle allocated.notification)
      let armed := armAccepted reply.result
      note fun n =>
        { n with steps := n.steps ++
          [⟨"EspArmEventNotification", reply.result, armed⟩] }
      return armed

def completeNotification (env : Env) (s : Session) : Bool × Session :=
  let completed := callExport env .completeEventNotification
    (s.notification != 0) (.completeEventNotification s.notification) s
  (replySucceeded completed.1, completed.2)

def connectQueueToCallback (env : Env) (s : Session) : Bool × Session :=
  let connected := callExport env .connectEventQueueWithCallback
    (s.queueHandle != 0) (.connectEventQueueWithCallback s.queueHandle) s
  (replySucceeded connected.1, connected.2)

/-- The port of the queue has to come back as well. -/
def createIocpQueue (env : Env) (s : Session) : Bool × Session :=
  let connected := callExport env .connectEventQueueWithIocp
    (s.queueHandle != 0) (.connectEventQueueWithIocp s.queueHandle 0) s
  (connected.1.any fun reply =>
    succeeded reply.result && reply.out != 0, connected.2)

/-! ## Accounts -/

/-- What the pump is held accountable for: the notifications that it counts,
and its calls, each with its outcome. -/
inductive PumpEvent
  | counted
  | armed (ok : Bool)
  | completed (ok : Bool)
deriving DecidableEq, Repr

def PumpEvent.ofCall (e : Event) : Option PumpEvent :=
  match e.call with
  | .armEventNotification .. => some (.armed (armAccepted e.reply.result))
  | .completeEventNotification _ =>
      some (.completed (succeeded e.reply.result))
  | _ => none

/-- Between the two sessions the calls of the pump are these. -/
def PumpCalls (calls : List PumpEvent) (s t : Session) : Prop :=
  ∃ new, t.log = s.log ++ new ∧ new.filterMap PumpEvent.ofCall = calls

def Call.pumps : Call → Bool
  | .armEventNotification .. => true
  | .completeEventNotification _ => true
  | _ => false

section

variable {s t u : Session} {calls calls' : List PumpEvent}

theorem PumpCalls.refl (s : Session) : PumpCalls [] s s :=
  ⟨[], by simp, rfl⟩

theorem PumpCalls.of_log (h : t.log = s.log) : PumpCalls [] s t :=
  ⟨[], by simp [h], rfl⟩

theorem PumpCalls.trans (h : PumpCalls calls s t)
    (h' : PumpCalls calls' t u) : PumpCalls (calls ++ calls') s u := by
  obtain ⟨new, hlog, hnew⟩ := h
  obtain ⟨new', hlog', hnew'⟩ := h'
  refine ⟨new ++ new', ?_, ?_⟩
  · rw [hlog', hlog, List.append_assoc]
  · rw [List.filterMap_append, hnew, hnew']

theorem PumpEvent.ofCall_none {e : Event} (h : e.call.pumps = false) :
    PumpEvent.ofCall e = none := by
  unfold PumpEvent.ofCall
  split
  · rename_i hcall
    rw [hcall] at h
    cases h
  · rename_i hcall
    rw [hcall] at h
    cases h
  · rfl

theorem Calls.pumpCalls (h : Calls (fun call => call.pumps = false) s t) :
    PumpCalls [] s t := by
  obtain ⟨new, hlog, hnew⟩ := h
  exact ⟨new, hlog, List.filterMap_eq_nil_iff.mpr fun e he =>
    PumpEvent.ofCall_none (hnew e he)⟩

end

/-! ## What the operations call -/

section

variable (env : Env) (s : Session)

theorem callExport_frame (wanted : Export) (ready : Bool) (call : Call) :
    (callExport env wanted ready call s).2 =
      { s with journal := (callExport env wanted ready call s).2.journal } := by
  unfold callExport
  dsimp only
  split
  · rfl
  · rfl

theorem connectQueueToCallback_pump :
    (connectQueueToCallback env s).2 =
        { s with journal := (connectQueueToCallback env s).2.journal } ∧
      PumpCalls [] s (connectQueueToCallback env s).2 :=
  ⟨callExport_frame env s _ _ _,
    (callExport_calls (P := fun call => call.pumps = false) env rfl _ _
      s).pumpCalls⟩

theorem createIocpQueue_pump :
    (createIocpQueue env s).2 =
        { s with journal := (createIocpQueue env s).2.journal } ∧
      PumpCalls [] s (createIocpQueue env s).2 :=
  ⟨callExport_frame env s _ _ _,
    (callExport_calls (P := fun call => call.pumps = false) env rfl _ _
      s).pumpCalls⟩

/-- With its export and a notification, `CompleteNotification` calls once. -/
theorem completeNotification_pump
    (hresolved : env.available .completeEventNotification = true)
    (hnotification : s.notification ≠ 0) :
    (completeNotification env s).2 =
        { s with journal := (completeNotification env s).2.journal } ∧
      PumpCalls [.completed (completeNotification env s).1] s
        (completeNotification env s).2 := by
  refine ⟨callExport_frame env s _ _ _, ?_⟩
  have hrequire := require_run_of_available env s hresolved
  let call : Call := .completeEventNotification s.notification
  have heq : completeNotification env s =
      (succeeded (env.respond s.journal.log call).result,
        (s.run (do
          let reply ← ask env.respond call
          record "EspCompleteEventNotification" reply.result
          return reply)).2) := by
    unfold completeNotification callExport
    dsimp only
    rw [hrequire]
    rw [if_neg (by simpa using hnotification)]
    rfl
  rw [heq]
  exact ⟨[⟨s.journal.tag, call, env.respond s.journal.log call⟩], rfl, rfl⟩

theorem allocateNotification_pump :
    allocateNotification env s =
        { s with
          notification := (allocateNotification env s).notification
          journal := (allocateNotification env s).journal } ∧
      PumpCalls [] s (allocateNotification env s) := by
  unfold allocateNotification
  split
  · exact ⟨rfl, PumpCalls.refl s⟩
  · dsimp only
    split
    · exact ⟨rfl, [⟨s.journal.tag, .allocateEventNotification, _⟩], rfl, rfl⟩
    · exact ⟨rfl, [⟨s.journal.tag, .allocateEventNotification, _⟩], rfl, rfl⟩

/-- `ArmNotification` answers true after one accepted arm, of the session's
notification. -/
theorem armNotification_pump :
    let armed := armNotification env s
    armed.2 =
        { s with
          notification := armed.2.notification
          journal := armed.2.journal } ∧
      ∃ calls, PumpCalls calls s armed.2 ∧
        (armed.1 = true → armed.2.notification ≠ 0 ∧ calls = [.armed true]) ∧
        (armed.1 = false → calls = [] ∨ calls = [.armed false]) := by
  have hlookup : PumpCalls [] s
      ((s.run (require env .allocateEventNotification)).2.run
        (require env .armEventNotification)).2 := by
    have hfirst : Calls (fun call => call.pumps = false) s
        (s.run (require env .allocateEventNotification)).2 :=
      require_calls env _ s
    exact (hfirst.trans (require_calls env _ _)).pumpCalls
  unfold armNotification
  dsimp only
  split
  · exact ⟨rfl, [], hlookup, nofun, fun _ => .inl rfl⟩
  · let looked := ((s.run (require env .allocateEventNotification)).2.run
      (require env .armEventNotification)).2
    obtain ⟨hframe, hcalls⟩ := allocateNotification_pump env looked
    have hallocated := hlookup.trans hcalls
    split
    · exact ⟨hframe, [], hallocated, nofun, fun _ => .inl rfl⟩
    · rename_i hnotification
      let allocated := allocateNotification env looked
      let call : Call := .armEventNotification allocated.queueHandle
        allocated.notification
      let ok := armAccepted (env.respond allocated.journal.log call).result
      have hcall : PumpCalls [.armed ok] allocated (allocated.run do
          let reply ← ask env.respond call
          let armed := armAccepted reply.result
          note fun n =>
            { n with steps := n.steps ++
              [⟨"EspArmEventNotification", reply.result, armed⟩] }
          return armed).2 :=
        ⟨[⟨allocated.journal.tag, call,
          env.respond allocated.journal.log call⟩], rfl, rfl⟩
      refine ⟨?_, [.armed ok], hallocated.trans hcall, ?_, ?_⟩
      · rw [hframe]
        rfl
      · intro harmed
        have hok : ok = true := harmed
        exact ⟨hnotification, by rw [hok]⟩
      · intro harmed
        have hok : ok = false := harmed
        exact .inr (by rw [hok])

end

/-! ## The query from a notification -/

/-- A query touches the references of the session and calls for no
notification. -/
structure Queries (s t : Session) : Prop where
  calls : Calls (fun call => call.pumps = false) s t
  frame : t = { s with objectRefs := t.objectRefs, journal := t.journal }

section

variable {env : Env} {s t u : Session}

theorem Queries.refl (s : Session) : Queries s s :=
  ⟨Calls.refl s, rfl⟩

theorem Queries.trans (h : Queries s t) (h' : Queries t u) :
    Queries s u := by
  refine ⟨h.calls.trans h'.calls, ?_⟩
  rw [h'.frame, h.frame]

theorem pumps_of_queriesView {call : Call} (h : call.queriesView = true) :
    call.pumps = false := by
  cases call <;> first | rfl | cases h

theorem Queries.of_run {α : Type} {m : JournalM α}
    (h : QueryScript env m) (s : Session) : Queries s (s.run m).2 :=
  ⟨Calls.of_run (h.mono fun _ => pumps_of_queriesView) s, rfl⟩

theorem Queries.of_warn (s : Session) (message : String) :
    Queries s (s.warn message) :=
  ⟨Calls.of_log rfl, rfl⟩

theorem createReference_queries (name : String) (ready : Bool)
    (key : ReferenceKey) (out : Handle) (s : Session) :
    Queries s (createReference env name ready key out s).2 := by
  have hrequire : Calls (fun call => call.pumps = false) s
      (s.run (require env (.createReference name))).2 :=
    require_calls env _ s
  unfold createReference
  dsimp only
  split
  · exact ⟨hrequire, rfl⟩
  · have hscript : Scripted env.respond (fun call => call.pumps = false)
        (adopt env name (.createReference name s.clientHandle key)) :=
      adopt_scripted name rfl
    have hadopted := hrequire.trans (Calls.of_run hscript
      (s.run (require env (.createReference name))).2)
    unfold adoptReference
    dsimp only
    split
    · exact ⟨hadopted, rfl⟩
    · exact ⟨hadopted, rfl⟩

theorem closeReference_queries (reference : Handle) (s : Session) :
    Queries s (closeReference env reference s) := by
  have hscript : Scripted env.respond (fun call => call.pumps = false)
      (closeOne env .closeEventObjectReference .closeEventObjectReference
        reference) := by
    apply closeOne_scripted (P := fun call => call.pumps = false)
    intro handle
    rfl
  exact ⟨Calls.of_run hscript s, rfl⟩

theorem createNatural_queries (host : NotifyHost) (keys : NotificationKeys)
    (s : Session) : Queries s (createNatural env host keys s).2 := by
  unfold createNatural
  split
  · let path := notificationPath env host keys.name
    let first := if path.isEmpty then ((false, 0), s)
      else createPathReference env "EspCreateFileReferenceByPath" path 0 s
    have hfirst : Queries s first.2 := by
      by_cases hempty : path.isEmpty = true
      · rw [show first = _ from if_pos hempty]
        exact Queries.refl s
      · rw [show first = _ from if_neg hempty]
        exact createReference_queries _ _ _ 0 s
    let second := if !first.1.1 && !host.fallbackPath.isEmpty
      then createPathReference env "EspCreateFileReferenceByPath"
        host.fallbackPath first.1.2 first.2
      else first
    have hsecond : Queries s second.2 := by
      by_cases hagain : (!first.1.1 && !host.fallbackPath.isEmpty) = true
      · rw [show second = _ from if_pos hagain]
        exact hfirst.trans (createReference_queries _ _ _ first.1.2 first.2)
      · rw [show second = _ from if_neg hagain]
        exact hfirst
    change Queries s (if second.1.1 = true then second
      else (second.1, second.2.warn
        "QueryFromNotification Fo event has no usable path")).2
    by_cases hcreated : second.1.1 = true
    · rw [if_pos hcreated]
      exact hsecond
    · rw [if_neg hcreated]
      exact hsecond.trans (Queries.of_warn _ _)
  · dsimp only
    generalize (if keys.pid = 0 then (host.fallbackPid % 2 ^ 32).toNat
      else keys.pid) = pid
    split
    · exact Queries.of_warn s _
    · exact createReference_queries _ _ _ 0 s

theorem createById_queries (id : ℕ) (s : Session) :
    Queries s (createById env id s).2 := by
  unfold createById
  split
  · exact Queries.refl s
  · have hcreated : Queries s (createEventObjectById env id 0 s).2 :=
      createReference_queries _ _ _ 0 s
    dsimp only
    split
    · exact hcreated.trans (Queries.of_run (unwrapReference_queries env _) _)
    · exact hcreated

theorem queryNatural_queries (keys : NotificationKeys) (natural : Handle)
    (s : Session) : Queries s (queryNatural env keys natural s) := by
  have hview := Queries.of_run (unwrapReference_queries env natural) s
  unfold queryNatural
  dsimp only
  split
  · exact hview.trans (closeReference_queries _ _)
  · rename_i object _
    let viewed := (s.run (unwrapReference env natural)).2
    let identified := viewed.run do
      getEventObjectType env object
      getEventObjectId env object
    have hidentified : Queries s identified.2 := hview.trans (Queries.of_run
      (.bind (getEventObjectType_queries env object) fun _ =>
        getEventObjectId_queries env object) viewed)
    let byId := createById env identified.1 identified.2
    have hqueried := (hidentified.trans (createById_queries identified.1
      identified.2)).trans (Queries.of_run (forM_queries env
        (queryRecipe_queries env byId.2.clientHandle keys
          (byId.1.2.getD object)
          (if byId.1.2.isSome then byId.1.1 else natural))
        byId.2.notifyQueries) byId.2)
    exact (hqueried.trans (closeReference_queries _ _)).trans
      (closeReference_queries _ _)

theorem queryFromNotification_queries (host : NotifyHost) (s : Session) :
    Queries s (queryFromNotification env host s).2 := by
  unfold queryFromNotification
  split
  · exact Queries.refl s
  · split
    · exact Queries.of_warn s _
    · rename_i keys _
      have hnatural : Queries s (createNatural env host keys s).2 :=
        createNatural_queries host keys s
      dsimp only
      split
      · exact hnatural.trans (queryNatural_queries keys _ _)
      · exact hnatural

end

end Esptool.Esp
