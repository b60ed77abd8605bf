import Esptool.EspSession

/-!
# What a disconnect calls

The calls of `Disconnect` are known beforehand: they depend on what the
session holds and on which exports are resolved, never on a reply.
-/

namespace Esptool.Esp

open Model Interaction

theorem require_log (env : Env) (wanted : Export) (j : Journal) :
    (require env wanted j).2.log = j.log := by
  unfold require
  cases env.available wanted with
  | true => rfl
  | false => rfl

theorem require_value (env : Env) (wanted : Export) (j : Journal) :
    (require env wanted j).1 = env.available wanted := by
  unfold require
  cases env.available wanted with
  | true => rfl
  | false => rfl

/-- `Adopt` makes its call once, keeps the handle of a success and leaves the
ledgers alone. -/
theorem adopt_run (env : Env) (step : String) (call : Call) (j : Journal) :
    ∃ e : Event, e.call = call ∧ (adopt env step call j).2.log = j.log ++ [e] ∧
      (adopt env step call j).2.notes.collections = j.notes.collections ∧
      (adopt env step call j).1 =
        if succeeded e.reply.result = true ∧ e.reply.out ≠ 0
          then some e.reply.out else none := by
  let reply := env.respond j.log call
  refine ⟨⟨j.tag, call, reply⟩, rfl, rfl, rfl, ?_⟩
  have hadopted : (adopt env step call j).1 =
      if failed reply.result || reply.out == 0 then none
        else some reply.out := rfl
  rw [hadopted, failed_eq_not_succeeded]
  dsimp only
  by_cases hok : succeeded reply.result = true ∧ reply.out ≠ 0
  · rw [if_pos hok, if_neg (by simp [hok.1, hok.2])]
  · rw [if_neg hok, if_pos]
    by_contra hnot
    exact hok (by simpa using hnot)

/-- The close calls for these handles: null ones are passed over. -/
def closeCalls (env : Env) (closer : Export) (close : Handle → Call)
    (handles : List Handle) : List Call :=
  if env.available closer then (handles.filter (· != 0)).map close else []

section

variable (env : Env) (closer : Export) (close : Handle → Call)

theorem closeCalls_cons (handle : Handle) (handles : List Handle) :
    closeCalls env closer close (handle :: handles) =
      closeCalls env closer close [handle] ++
        closeCalls env closer close handles := by
  unfold closeCalls
  cases env.available closer with
  | false => rfl
  | true =>
      rw [if_pos rfl, if_pos rfl, if_pos rfl, ← List.map_append,
        ← List.filter_append]
      rfl

theorem forall_closeCalls {P : Call → Prop} (h : ∀ handle, P (close handle))
    (handles : List Handle) :
    ∀ call ∈ closeCalls env closer close handles, P call := by
  intro call hcall
  unfold closeCalls at hcall
  split at hcall
  · obtain ⟨handle, _, rfl⟩ := List.mem_map.mp hcall
    exact h handle
  · cases hcall

theorem filterMap_closeCalls_none {α : Type} {read : Call → Option α}
    (handles : List Handle) (h : ∀ handle, read (close handle) = none) :
    (closeCalls env closer close handles).filterMap read = [] := by
  rw [List.filterMap_eq_nil_iff]
  exact forall_closeCalls env closer close h handles

theorem filterMap_closeCalls_some {read : Call → Option Handle}
    (handles : List Handle) (havailable : env.available closer = true)
    (h : ∀ handle, handle ≠ 0 → read (close handle) = some handle) :
    (closeCalls env closer close handles).filterMap read =
      handles.filter (· != 0) := by
  have hread : ∀ handle ∈ handles.filter (· != 0),
      (read ∘ close) handle = some handle := by
    intro handle hmem
    rw [List.mem_filter] at hmem
    exact h handle (by simpa using hmem.2)
  rw [closeCalls, if_pos havailable, List.filterMap_map,
    List.filterMap_congr hread]
  exact List.filterMap_some

theorem require_makes {m : JournalM Unit} {calls : List Call}
    (hm : Makes calls m) :
    Makes (if env.available closer then calls else []) (do
      if ← require env closer then m) := by
  intro j
  rw [bind_run, require_value]
  cases env.available closer with
  | false =>
      refine ⟨[], ?_, rfl⟩
      rw [List.append_nil, ← require_log env closer j]
      rfl
  | true =>
      obtain ⟨new, hlog, hnew⟩ := hm (require env closer j).2
      rw [require_log] at hlog
      exact ⟨new, hlog, hnew⟩

theorem closeOne_makes (handle : Handle) :
    Makes (closeCalls env closer close [handle])
      (closeOne env closer close handle) := by
  by_cases hzero : handle = 0
  · subst hzero
    have hcalls : closeCalls env closer close [0] = [] := by
      simp [closeCalls]
    rw [hcalls]
    exact Makes.of_same_log fun _ => rfl
  · have hcalls : closeCalls env closer close [handle] =
        if env.available closer then [close handle] else [] := by
      simp [closeCalls, hzero]
    rw [hcalls, closeOne, if_pos hzero]
    exact require_makes env closer ((Makes.ask env.respond _).bind
      fun _ => Makes.of_same_log fun _ => rfl)

theorem closeOwned_makes (handles : List Handle) :
    Makes (closeCalls env closer close handles)
      (closeOwned env closer close handles) := by
  induction handles with
  | nil =>
      unfold closeCalls
      simp only [List.filter_nil, List.map_nil, ite_self]
      exact Makes.of_same_log fun _ => rfl
  | cons handle rest ih =>
      rw [closeCalls_cons]
      exact (closeOne_makes env closer close handle).bind fun _ => ih

end

/-- The calls of `Disconnect` up to the registration. -/
def releaseCalls (env : Env) (s : Session) : List Call :=
  closeCalls env .freeEventNotification .freeEventNotification
      [s.notification] ++
    (closeCalls env .closeFilter .closeFilter s.journal.notes.filters ++
    (closeCalls env .closeRule .closeRule s.rules ++
    (closeCalls env .closeEventObjectReference .closeEventObjectReference
      s.objectRefs ++
    (closeCalls env .closeCollection .closeCollection
      s.journal.notes.collections ++
    (closeCalls env .closeEventQueue .closeEventQueue [s.queueHandle] ++
    closeCalls env .disconnectClient .disconnectClient
      [s.clientHandle])))))

def Call.releases : Call → Bool
  | .freeEventNotification _ => true
  | .closeFilter _ => true
  | .closeRule _ => true
  | .closeEventObjectReference _ => true
  | .closeCollection _ => true
  | .closeEventQueue _ => true
  | .disconnectClient _ => true
  | _ => false

theorem releases_of_mem_releaseCalls {env : Env} {s : Session} {call : Call}
    (h : call ∈ releaseCalls env s) : call.releases = true := by
  have hcloses (closer : Export) (close : Handle → Call)
      (handles : List Handle) (hclose : ∀ handle, (close handle).releases = true)
      (hmem : call ∈ closeCalls env closer close handles) :
      call.releases = true :=
    forall_closeCalls (P := fun call => call.releases = true) env closer
      close hclose handles call hmem
  simp only [releaseCalls, List.mem_append] at h
  rcases h with h | h | h | h | h | h | h
  · exact hcloses _ _ _ (fun _ => rfl) h
  · exact hcloses _ _ _ (fun _ => rfl) h
  · exact hcloses _ _ _ (fun _ => rfl) h
  · exact hcloses _ _ _ (fun _ => rfl) h
  · exact hcloses _ _ _ (fun _ => rfl) h
  · exact hcloses _ _ _ (fun _ => rfl) h
  · exact hcloses _ _ _ (fun _ => rfl) h

theorem releaseHandles_makes (env : Env) (s : Session) :
    Makes (releaseCalls env s) (releaseHandles env s) := by
  have hnote : Makes [] (note fun n : Notes =>
      { n with filters := [], collections := [] } : JournalM Unit) :=
    Makes.of_same_log fun _ => rfl
  have hall :=
    (closeOne_makes env .freeEventNotification .freeEventNotification
      s.notification).bind fun _ =>
    (closeOwned_makes env .closeFilter .closeFilter
      s.journal.notes.filters).bind fun _ =>
    (closeOwned_makes env .closeRule .closeRule s.rules).bind fun _ =>
    (closeOwned_makes env .closeEventObjectReference
      .closeEventObjectReference s.objectRefs).bind fun _ =>
    (closeOwned_makes env .closeCollection .closeCollection
      s.journal.notes.collections).bind fun _ =>
    (closeOne_makes env .closeEventQueue .closeEventQueue
      s.queueHandle).bind fun _ =>
    (closeOne_makes env .disconnectClient .disconnectClient
      s.clientHandle).bind fun _ => hnote
  rw [List.append_nil] at hall
  exact hall

/-- The call of `UnregisterIfOwned`. -/
def unregisterCalls (env : Env) (s : Session) : List Call :=
  if s.registeredThisSession ∧ s.unregisterOnDisconnect ∧
      env.available .unregisterClient then
    [.unregisterClient s.clientId]
  else []

theorem forall_disconnectCalls {env : Env} {s : Session} {P : Call → Prop}
    {new : List Event}
    (hnew : new.map Event.call = releaseCalls env s ++ unregisterCalls env s)
    (hrelease : ∀ call, call.releases = true → P call)
    (hunregister : ∀ id, P (.unregisterClient id)) :
    ∀ e ∈ new, P e.call := by
  intro e he
  have hmem : e.call ∈ releaseCalls env s ++ unregisterCalls env s := by
    rw [← hnew]
    exact List.mem_map_of_mem he
  rcases List.mem_append.mp hmem with hmem | hmem
  · exact hrelease e.call (releases_of_mem_releaseCalls hmem)
  · unfold unregisterCalls at hmem
    split at hmem
    · rw [List.mem_singleton] at hmem
      rw [hmem]
      exact hunregister s.clientId
    · cases hmem

/-- `UnregisterIfOwned` gives up the registration it owns and changes nothing
else. -/
theorem unregisterIfOwned_frame (env : Env) (s : Session) :
    unregisterIfOwned env s =
      { s with
        registeredThisSession :=
          s.registeredThisSession && !s.unregisterOnDisconnect
        journal := (unregisterIfOwned env s).journal } ∧
      ∃ new, (unregisterIfOwned env s).log = s.log ++ new ∧
        new.map Event.call = unregisterCalls env s := by
  by_cases howned : s.registeredThisSession = true ∧
      s.unregisterOnDisconnect = true
  · have hmakes := require_makes env .unregisterClient
      ((Makes.ask env.respond (.unregisterClient s.clientId)).bind
        fun reply => (Makes.of_same_log fun _ => rfl :
          Makes [] (record "EspUnregisterClient" reply.result)))
    obtain ⟨new, hlog, hnew⟩ := hmakes s.journal
    rw [unregisterIfOwned, if_pos howned]
    refine ⟨?_, new, hlog, ?_⟩
    · have hgiven : (s.registeredThisSession && !s.unregisterOnDisconnect) =
          false := by
        simp [howned.1, howned.2]
      rw [hgiven]
      rfl
    · rw [hnew, unregisterCalls]
      simp [howned.1, howned.2]
  · rw [unregisterIfOwned, if_neg howned]
    refine ⟨?_, [], (List.append_nil _).symm, ?_⟩
    · have hkept : (s.registeredThisSession && !s.unregisterOnDisconnect) =
          s.registeredThisSession := by
        cases hregistered : s.registeredThisSession with
        | false => rfl
        | true =>
            have hflag : s.unregisterOnDisconnect = false := by
              simpa [hregistered] using howned
            rw [hflag]
            rfl
      rw [hkept]
    · rw [unregisterCalls, if_neg fun h => howned ⟨h.1, h.2.1⟩]
      rfl

/-- A disconnected session holds nothing that it would have to release. -/
structure Released (s : Session) : Prop where
  notification : s.notification = 0
  filters : s.journal.notes.filters = []
  rules : s.rules = []
  objectRefs : s.objectRefs = []
  collections : s.journal.notes.collections = []
  queue : s.queueHandle = 0
  client : s.clientHandle = 0

/-- The session between the releases of `Disconnect` and its registration. -/
def releasedSession (env : Env) (s : Session) : Session :=
  { (s.run (releaseHandles env s)).2 with
    notification := 0
    rules := []
    objectRefs := []
    namedCollections := []
    notifyQueries := []
    queueHandle := 0
    clientHandle := 0 }

theorem disconnect_eq (env : Env) (s : Session) :
    disconnect env s = unregisterIfOwned env (releasedSession env s) := rfl

theorem unregisterIfOwned_notes (env : Env) (s : Session) :
    (unregisterIfOwned env s).journal.notes.filters =
        s.journal.notes.filters ∧
      (unregisterIfOwned env s).journal.notes.collections =
        s.journal.notes.collections := by
  unfold unregisterIfOwned
  split
  · unfold require
    cases env.available .unregisterClient with
    | true => exact ⟨rfl, rfl⟩
    | false => exact ⟨rfl, rfl⟩
  · exact ⟨rfl, rfl⟩

theorem disconnect_released (env : Env) (s : Session) :
    Released (disconnect env s) := by
  obtain ⟨hfilters, hcollections⟩ :=
    unregisterIfOwned_notes env (releasedSession env s)
  rw [disconnect_eq]
  obtain ⟨hframe, -⟩ := unregisterIfOwned_frame env (releasedSession env s)
  constructor
  · rw [hframe]
    rfl
  · rw [hfilters]
    rfl
  · rw [hframe]
    rfl
  · rw [hframe]
    rfl
  · rw [hcollections]
    rfl
  · rw [hframe]
    rfl
  · rw [hframe]
    rfl

/-- What `Disconnect` calls, and what it makes of the registration. -/
theorem disconnect_calls (env : Env) (s : Session) :
    (∃ new, (disconnect env s).log = s.log ++ new ∧
      new.map Event.call = releaseCalls env s ++ unregisterCalls env s) ∧
    (disconnect env s).registeredThisSession =
      (s.registeredThisSession && !s.unregisterOnDisconnect) ∧
    (disconnect env s).unregisterOnDisconnect = s.unregisterOnDisconnect ∧
    (disconnect env s).clientId = s.clientId := by
  obtain ⟨new, hlog, hnew⟩ := releaseHandles_makes env s s.journal
  obtain ⟨hframe, new', hlog', hnew'⟩ :=
    unregisterIfOwned_frame env (releasedSession env s)
  have hmiddle : (releasedSession env s).log = s.log ++ new := hlog
  rw [disconnect_eq]
  refine ⟨⟨new ++ new', ?_, ?_⟩, ?_, ?_, ?_⟩
  · rw [hlog', hmiddle, List.append_assoc]
  · rw [List.map_append, hnew, hnew']
    rfl
  · rw [hframe]
    rfl
  · rw [hframe]
    rfl
  · rw [hframe]
    rfl

theorem Released.releaseCalls_eq {env : Env} {s : Session}
    (h : Released s) : releaseCalls env s = [] := by
  have hnone (closer : Export) (close : Handle → Call) :
      closeCalls env closer close [] = [] := by
    simp [closeCalls]
  have hnull (closer : Export) (close : Handle → Call) :
      closeCalls env closer close [0] = [] := by
    simp [closeCalls]
  simp only [releaseCalls, h.notification, h.filters, h.rules, h.objectRefs,
    h.collections, h.queue, h.client, hnone, hnull, List.append_nil]

/-- A disconnect right after a disconnect makes no call. -/
theorem disconnect_disconnect_log (env : Env) (s : Session) :
    (disconnect env (disconnect env s)).log = (disconnect env s).log := by
  obtain ⟨⟨new, hlog, hnew⟩, -⟩ := disconnect_calls env (disconnect env s)
  obtain ⟨-, hregistered, hflag, -⟩ := disconnect_calls env s
  have hunregister : unregisterCalls env (disconnect env s) = [] := by
    rw [unregisterCalls, hregistered, hflag]
    cases s.unregisterOnDisconnect with
    | false => simp
    | true => simp
  rw [(disconnect_released env s).releaseCalls_eq, hunregister,
    List.append_nil, List.map_eq_nil_iff] at hnew
  rw [hlog, hnew, List.append_nil]

end Esptool.Esp
