import Esptool.Commands
import Esptool.Registrations

/-!
# Orphaned clients are released only after a probe

The calls of `CleanOrphanClients` for one listed client are a segment of the
log.  A segment unregisters its client only behind a probe that connected to
it and counted no persistent rules; nothing outside the segments unregisters
anything.
-/

namespace Esptool.Cli

open Model Esp Interaction

/-! ## Sessions that only probe -/

/-- A session with at most a client handle, and with no registration. -/
structure Probing (s : Session) : Prop where
  notification : s.notification = 0
  filters : s.journal.notes.filters = []
  rules : s.rules = []
  objectRefs : s.objectRefs = []
  collections : s.journal.notes.collections = []
  queue : s.queueHandle = 0
  registered : s.registeredThisSession = false

section

variable (env : Env) {s : Session}

theorem probing_startedOn (log : List Event) : Probing (startedOn log) :=
  ⟨rfl, rfl, rfl, rfl, rfl, rfl, rfl⟩

theorem Probing.require (h : Probing s) (wanted : Export) :
    Probing (s.run (require env wanted)).2 := by
  unfold Session.run Esp.require
  dsimp only
  cases env.available wanted with
  | true => exact h
  | false => exact ⟨h.1, h.2, h.3, h.4, h.5, h.6, h.7⟩

theorem Probing.callExport (h : Probing s) (wanted : Export) (ready : Bool)
    (call : Call) : Probing (callExport env wanted ready call s).2 := by
  have hresolved := h.require env wanted
  unfold Esp.callExport
  dsimp only
  split
  · exact hresolved
  · exact ⟨hresolved.1, hresolved.2, hresolved.3, hresolved.4, hresolved.5,
      hresolved.6, hresolved.7⟩

/-- An export is called once or not at all; the client of the session stays
as it is. -/
theorem callExport_event (wanted : Export) (ready : Bool) (call : Call)
    (s : Session) :
    let called := callExport env wanted ready call s
    called.2.clientHandle = s.clientHandle ∧
      ((called.1 = none ∧ called.2.log = s.log) ∨
        ∃ e : Event, called.1 = some e.reply ∧ e.call = call ∧
          called.2.log = s.log ++ [e]) := by
  have hlog := require_run_log env wanted s
  unfold callExport
  dsimp only
  split
  · exact ⟨rfl, .inl ⟨rfl, hlog⟩⟩
  · refine ⟨rfl, .inr ⟨⟨(s.run (require env wanted)).2.journal.tag, call, _⟩,
      rfl, rfl, ?_⟩⟩
    rw [← hlog]
    rfl

theorem adoptClient_event (s : Session) :
    let adopted := adoptClient env s
    ∃ e : Event, e.call = .connectClient s.clientId ∧
      adopted.2.log = s.log ++ [e] ∧
      if succeeded e.reply.result = true ∧ e.reply.out ≠ 0 then
        adopted.1 = true ∧ adopted.2.clientHandle = e.reply.out
      else adopted.1 = false ∧ adopted.2.clientHandle = 0 := by
  intro adopted
  obtain ⟨e, hcall, hlog, hvalue⟩ := adopt_event env "EspConnectClient"
    (.connectClient s.clientId) s
  refine ⟨e, hcall, hlog, ?_⟩
  have hok : adopted.1 = (s.run (adopt env "EspConnectClient"
    (.connectClient s.clientId))).1.isSome := rfl
  have hhandle : adopted.2.clientHandle = (s.run (adopt env
    "EspConnectClient" (.connectClient s.clientId))).1.getD 0 := rfl
  rw [hvalue] at hok hhandle
  split
  · rename_i hdone
    rw [if_pos hdone] at hok hhandle
    exact ⟨hok, hhandle⟩
  · rename_i hdone
    rw [if_neg hdone] at hok hhandle
    exact ⟨hok, hhandle⟩

/-- A probing session gives back its client handle and nothing else. -/
theorem Probing.disconnect (h : Probing s) :
    ∃ new, (disconnect env s).log = s.log ++ new ∧
      new.map Event.call = closeCalls env .disconnectClient .disconnectClient
        [s.clientHandle] := by
  obtain ⟨⟨new, hlog, hnew⟩, -⟩ := disconnect_calls env s
  refine ⟨new, hlog, ?_⟩
  have hnone : ∀ (closer : Export) (close : Handle → Call),
      closeCalls env closer close [] = [] ∧
        closeCalls env closer close [0] = [] := by
    intro closer close
    simp [closeCalls]
  rw [hnew, unregisterCalls, if_neg (by simp [h.registered]), releaseCalls,
    h.notification, h.filters, h.rules, h.objectRefs, h.collections, h.queue]
  simp only [(hnone _ _).1, (hnone _ _).2, List.nil_append, List.append_nil]

end

/-! ## One listed client -/

/-- The calls of a probe that lets its client go: the client was connected,
it has no persistent rules, and the connection was given back. -/
def ProbedClean (env : Env) (id : Guid) (probe : List Event) : Prop :=
  ∃ connected counted closing,
    probe = connected :: counted :: closing ∧
    connected.call = .connectClient id ∧
    succeeded connected.reply.result = true ∧ connected.reply.out ≠ 0 ∧
    counted.call = .enumerateRuleIds connected.reply.out
      kLifetimePersistFfi ∧
    succeeded counted.reply.result = true ∧ counted.reply.count ≤ 0 ∧
    closing.map Event.call = if env.available .disconnectClient
      then [.disconnectClient connected.reply.out] else []

/-- The calls for one listed client: no unregistration, or a probe and then
that of the client. -/
def CleanStep (env : Env) (id : Guid) (segment : List Event) : Prop :=
  (∀ e ∈ segment, unregisteredId e = none) ∨
    ∃ probe e, segment = probe ++ [e] ∧ ProbedClean env id probe ∧
      e.call = .unregisterClient id

section

variable {env : Env} {id : Guid}

theorem unregisteredId_of_handlesClient {e : Event}
    (h : e.call.handlesClient = false) : unregisteredId e = none := by
  unfold unregisteredId
  split
  · rename_i hcall
    rw [hcall] at h
    cases h
  · rfl

theorem filterMap_releasedId {new : List Event}
    (h : ∀ e ∈ new, unregisteredId e = none) :
    new.filterMap releasedId = [] := by
  rw [List.filterMap_eq_nil_iff]
  intro e he
  rw [releasedId, h e he]
  exact ite_self none

theorem ProbedClean.spares {probe : List Event}
    (h : ProbedClean env id probe) :
    ∀ e ∈ probe, unregisteredId e = none := by
  obtain ⟨connected, counted, closing, rfl, hconnect, -, -, hcount, -, -,
    hclosing⟩ := h
  intro e he
  refine unregisteredId_of_handlesClient ?_
  simp only [List.mem_cons] at he
  rcases he with rfl | rfl | he
  · rw [hconnect]
    rfl
  · rw [hcount]
    rfl
  · have hmem := List.mem_map_of_mem (f := Event.call) he
    rw [hclosing] at hmem
    split at hmem
    · rw [List.mem_singleton.mp hmem]
      rfl
    · cases hmem

theorem connectExisting_event (env : Env) (id : Guid) {s : Session}
    (h : Probing s) (hclient : s.clientHandle = 0) :
    let connected := connectExisting env id s
    Probing connected.2 ∧
      ((connected.1 = false ∧ connected.2.clientHandle = 0 ∧
        ∃ new, connected.2.log = s.log ++ new ∧
          ∀ e ∈ new, unregisteredId e = none) ∨
      (connected.1 = true ∧ ∃ e : Event, connected.2.log = s.log ++ [e] ∧
        e.call = .connectClient id ∧ succeeded e.reply.result = true ∧
        e.reply.out ≠ 0 ∧ connected.2.clientHandle = e.reply.out)) := by
  have hresolved := h.require env .connectClient
  have hlog := require_run_log env .connectClient s
  unfold connectExisting
  dsimp only
  split
  · exact ⟨hresolved, .inl ⟨rfl, hclient, [], by simp [hlog], by simp⟩⟩
  · refine ⟨⟨hresolved.1, hresolved.2, hresolved.3, hresolved.4, hresolved.5,
      hresolved.6, rfl⟩, ?_⟩
    obtain ⟨e, hcall, hadopted, hcases⟩ := adoptClient_event env
      { (s.run (require env .connectClient)).2 with
        clientId := id, registeredThisSession := false }
    have hadopted' := hadopted.trans (congrArg (· ++ [e]) hlog)
    split at hcases
    · rename_i hok
      exact .inr ⟨hcases.1, e, hadopted', hcall, hok.1, hok.2, hcases.2⟩
    · refine .inl ⟨hcases.1, hcases.2, [e], hadopted', fun e' he' => ?_⟩
      rw [List.mem_singleton.mp he']
      refine unregisteredId_of_handlesClient ?_
      rw [hcall]
      rfl

theorem enumerateRuleIds_event (env : Env) (lifetime : ℕ) {s : Session}
    (h : Probing s) :
    let counted := enumerateRuleIds env lifetime s
    Probing counted.2 ∧ counted.2.clientHandle = s.clientHandle ∧
      ((counted.1.1 = false ∧ counted.2.log = s.log) ∨
        ∃ e : Event, e.call = .enumerateRuleIds s.clientHandle lifetime ∧
          counted.2.log = s.log ++ [e] ∧
          counted.1 = (succeeded e.reply.result, e.reply.count)) := by
  have hprobing := h.callExport env .enumerateRuleIds (s.clientHandle != 0)
    (.enumerateRuleIds s.clientHandle lifetime)
  obtain ⟨hkept, hevents⟩ := callExport_event env .enumerateRuleIds
    (s.clientHandle != 0) (.enumerateRuleIds s.clientHandle lifetime) s
  unfold enumerateRuleIds
  dsimp only
  refine ⟨hprobing, hkept, ?_⟩
  rcases hevents with ⟨hnone, hsame⟩ | ⟨e, hsome, hcall, hmore⟩
  · rw [hnone]
    exact .inl ⟨rfl, hsame⟩
  · rw [hsome]
    exact .inr ⟨e, hcall, hmore, rfl⟩

theorem unregisterClientId_event (env : Env) (id : Guid) {s : Session}
    (h : Probing s) :
    let released := unregisterClientId env id s
    Probing released.2 ∧
      ((released.1 = false ∧ released.2.log = s.log) ∨
        ∃ e : Event, e.call = .unregisterClient id ∧
          released.2.log = s.log ++ [e] ∧
          released.1 = succeeded e.reply.result) := by
  have hprobing := h.callExport env .unregisterClient true
    (.unregisterClient id)
  obtain ⟨-, hevents⟩ := callExport_event env .unregisterClient true
    (.unregisterClient id) s
  unfold unregisterClientId
  dsimp only
  refine ⟨hprobing, ?_⟩
  rcases hevents with ⟨hnone, hsame⟩ | ⟨e, hsome, hcall, hmore⟩
  · rw [hnone]
    exact .inl ⟨rfl, hsame⟩
  · rw [hsome]
    exact .inr ⟨e, hcall, hmore, rfl⟩

theorem closing_spares {handles : List Handle} {closing : List Event}
    (h : closing.map Event.call = closeCalls env .disconnectClient
      .disconnectClient handles) : ∀ e ∈ closing, unregisteredId e = none := by
  intro e he
  refine unregisteredId_of_handlesClient ?_
  have hmem := List.mem_map_of_mem (f := Event.call) he
  rw [h] at hmem
  exact forall_closeCalls (P := fun call => call.handlesClient = false) env
    .disconnectClient .disconnectClient (fun _ => rfl) handles _ hmem

/-- The calls of a probe.  One that fails, or that counts persistent rules,
unregisters nothing. -/
theorem probeClient_segment (env : Env) (id : Guid) (log : List Event) :
    ∃ probe, (probeClient env id log).2 = log ++ probe ∧
      (∀ e ∈ probe, unregisteredId e = none) ∧
      ((probeClient env id log).1 = true → ProbedClean env id probe) := by
  obtain ⟨hprobing, hcases⟩ := connectExisting_event env id
    (probing_startedOn log) rfl
  unfold probeClient
  dsimp only
  rcases hcases with ⟨hnot, hclient, new, hlog, hnew⟩ |
    ⟨hconnected, connected, hlog, hconnect, hok, hout, hclient⟩
  · rw [hnot, if_neg Bool.false_ne_true]
    obtain ⟨closing, hclosed, hclosing⟩ := hprobing.disconnect env
    refine ⟨new ++ closing, ?_, ?_, nofun⟩
    · rw [hclosed, hlog, List.append_assoc]
      rfl
    · intro e he
      rcases List.mem_append.mp he with he | he
      · exact hnew e he
      · exact closing_spares hclosing e he
  · rw [hconnected, if_pos rfl]
    generalize (connectExisting env id (startedOn log)).2 = session
      at hprobing hlog hclient ⊢
    have hspared : unregisteredId connected = none :=
      unregisteredId_of_handlesClient (by rw [hconnect]; rfl)
    obtain ⟨hcounted, hkept, hevents⟩ :=
      enumerateRuleIds_event env kLifetimePersistFfi hprobing
    generalize enumerateRuleIds env kLifetimePersistFfi session = counting
      at hcounted hkept hevents ⊢
    obtain ⟨closing, hclosed, hclosing⟩ := hcounted.disconnect env
    rw [hclosed]
    rw [hkept, hclient] at hclosing
    rcases hevents with ⟨hnone, hsame⟩ | ⟨counted, hcall, hmore, hreply⟩
    · rw [hnone, hsame, hlog]
      refine ⟨[connected] ++ closing, List.append_assoc _ _ _, ?_, nofun⟩
      intro e he
      rcases List.mem_append.mp he with he | he
      · rw [List.mem_singleton.mp he]
        exact hspared
      · exact closing_spares hclosing e he
    · rw [hreply, hmore, hlog]
      have hspares : unregisteredId counted = none :=
        unregisteredId_of_handlesClient (by rw [hcall]; rfl)
      refine ⟨[connected] ++ ([counted] ++ closing), ?_, ?_, ?_⟩
      · simp only [List.append_assoc]
        rfl
      · intro e he
        simp only [List.cons_append, List.nil_append, List.mem_cons] at he
        rcases he with rfl | rfl | he
        · exact hspared
        · exact hspares
        · exact closing_spares hclosing e he
      · intro hclean
        rw [Bool.and_eq_true, Bool.not_eq_true', decide_eq_false_iff_not,
          not_lt] at hclean
        refine ⟨connected, counted, closing, rfl, hconnect, hok, hout, ?_,
          hclean.1, hclean.2, ?_⟩
        · rw [hcall, hclient]
        · rw [hclosing]
          simp [closeCalls, hout]

/-- One turn of the loop. -/
theorem cleanOrphanClient_segment (env : Env) (id : Guid) {st : ℕ × Session}
    (h : Probing st.2) :
    let cleaned := cleanOrphanClient env false st id
    Probing cleaned.2 ∧ ∃ segment,
      cleaned.2.log = st.2.log ++ segment ∧ CleanStep env id segment ∧
      cleaned.1 = st.1 + (segment.filterMap releasedId).length := by
  obtain ⟨probe, hlog, hspares, hclean⟩ :=
    probeClient_segment env id st.2.log
  have hreleased := filterMap_releasedId hspares
  have hresumed : Probing (resume st.2 (probeClient env id st.2.log).2) :=
    ⟨h.1, h.2, h.3, h.4, h.5, h.6, h.7⟩
  unfold cleanOrphanClient
  dsimp only
  rw [if_neg Bool.false_ne_true]
  split
  · rename_i hgo
    obtain ⟨hprobing, hevents⟩ := unregisterClientId_event env id hresumed
    generalize unregisterClientId env id
      (resume st.2 (probeClient env id st.2.log).2) = released
      at hprobing hevents ⊢
    refine ⟨hprobing, ?_⟩
    rcases hevents with ⟨hnone, hsame⟩ | ⟨e, hcall, hmore, hreply⟩
    · refine ⟨probe, hsame.trans hlog, .inl hspares, ?_⟩
      rw [hnone, hreleased]
      rfl
    · refine ⟨probe ++ [e], ?_, .inr ⟨probe, e, rfl, hclean hgo, hcall⟩, ?_⟩
      · rw [hmore, ← List.append_assoc, ← hlog]
        rfl
      · have hunregistered : unregisteredId e = some id := by
          rw [unregisteredId, hcall]
        rw [hreply, List.filterMap_append, hreleased, List.nil_append,
          List.filterMap_cons, releasedId, hunregistered]
        cases succeeded e.reply.result with
        | true => rfl
        | false => rfl
  · exact ⟨hresumed, probe, hlog, .inl hspares, by rw [hreleased]; rfl⟩

theorem cleanOrphanClient_segments (env : Env) (ids : List Guid)
    {st : ℕ × Session} (h : Probing st.2) :
    let cleaned := ids.foldl (cleanOrphanClient env false) st
    Probing cleaned.2 ∧ ∃ segments,
      cleaned.2.log = st.2.log ++ segments.flatten ∧
      List.Forall₂ (CleanStep env) ids segments ∧
      cleaned.1 = st.1 + (segments.flatten.filterMap releasedId).length := by
  induction ids generalizing st with
  | nil => exact ⟨h, [], (List.append_nil _).symm, .nil, rfl⟩
  | cons id ids ih =>
      obtain ⟨hprobing, segment, hlog, hstep, hcount⟩ :=
        cleanOrphanClient_segment env id h
      obtain ⟨hlast, segments, hlogs, hsteps, hcounts⟩ := ih hprobing
      refine ⟨hlast, segment :: segments, ?_, .cons hstep hsteps, ?_⟩
      · rw [List.foldl_cons, hlogs, hlog, List.flatten_cons,
          List.append_assoc]
      · rw [List.foldl_cons, hcounts, hcount, List.flatten_cons,
          List.filterMap_append, List.length_append, Nat.add_assoc]

end

/-! ## The whole cleanup -/

/-- The clients that `CleanOrphanClients` goes through. -/
def listedClients (env : Env) (log : List Event) : List Guid :=
  (enumerateClients env (startedOn log)).1.2

theorem enumerateClients_event (env : Env) {s : Session} (h : Probing s) :
    let listed := enumerateClients env s
    Probing listed.2 ∧ (listed.1.1 = false → listed.1.2 = []) ∧
      ∃ listing, listed.2.log = s.log ++ listing ∧
        ∀ e ∈ listing, unregisteredId e = none := by
  have hprobing := h.callExport env .enumerateRegisteredClients true
    .enumerateRegisteredClients
  obtain ⟨-, hevents⟩ := callExport_event env .enumerateRegisteredClients
    true .enumerateRegisteredClients s
  unfold enumerateClients
  dsimp only
  refine ⟨hprobing, ?_⟩
  rcases hevents with ⟨hnone, hsame⟩ | ⟨e, hsome, hcall, hmore⟩
  · rw [hnone, hsame]
    exact ⟨fun _ => rfl, [], (List.append_nil _).symm, by simp⟩
  · rw [hsome, hmore]
    refine ⟨fun hfailed => ?_, [e], rfl, fun e' he' => ?_⟩
    · have hnot : succeeded e.reply.result = false := hfailed
      simp [hnot]
    · rw [List.mem_singleton.mp he']
      refine unregisteredId_of_handlesClient ?_
      rw [hcall]
      rfl

/-- Without `--fresh`, every client that the cleanup unregisters was probed
at its own place in the list and found without persistent rules; the sessions
that probe unregister nothing, and the count is that of the calls that
succeeded. -/
theorem cleanOrphanClients_failClosed (env : Env) (log : List Event) :
    ∃ listing segments closing,
      (cleanOrphanClients env false log).2 =
        log ++ (listing ++ (segments.flatten ++ closing)) ∧
      List.Forall₂ (CleanStep env) (listedClients env log) segments ∧
      (∀ e ∈ listing ++ closing, unregisteredId e = none) ∧
      (cleanOrphanClients env false log).1 =
        ((listing ++ (segments.flatten ++ closing)).filterMap
          releasedId).length := by
  obtain ⟨hlisted, hnone, listing, hlisting, hspares⟩ :=
    enumerateClients_event env (probing_startedOn log)
  unfold cleanOrphanClients listedClients
  dsimp only
  generalize enumerateClients env (startedOn log) = listed
    at hlisted hnone hlisting ⊢
  split
  · rename_i hempty
    have hids : listed.1.2 = [] := by
      rcases (Bool.or_eq_true _ _).mp hempty with hfailed | hempty
      · exact hnone (by simpa using hfailed)
      · exact List.isEmpty_iff.mp hempty
    obtain ⟨closing, hclosed, hclosing⟩ := hlisted.disconnect env
    have hall : ∀ e ∈ listing ++ closing, unregisteredId e = none := by
      intro e he
      rcases List.mem_append.mp he with he | he
      · exact hspares e he
      · exact closing_spares hclosing e he
    refine ⟨listing, [], closing, ?_, ?_, hall, ?_⟩
    · rw [hclosed, hlisting, List.append_assoc]
      rfl
    · rw [hids]
      exact .nil
    · rw [List.flatten_nil, List.nil_append, filterMap_releasedId hall]
      rfl
  · have hstart : Probing ((0, listed.2) : ℕ × Session).2 := hlisted
    obtain ⟨hcleaned, segments, hlog, hsteps, hcount⟩ :=
      cleanOrphanClient_segments env listed.1.2 hstart
    obtain ⟨closing, hclosed, hclosing⟩ := hcleaned.disconnect env
    have hlast := closing_spares hclosing
    refine ⟨listing, segments, closing, ?_, hsteps, ?_, ?_⟩
    · rw [hclosed, hlog, hlisting, List.append_assoc, List.append_assoc]
      rfl
    · intro e he
      rcases List.mem_append.mp he with he | he
      · exact hspares e he
      · exact hlast e he
    · rw [hcount, List.filterMap_append, List.filterMap_append,
        filterMap_releasedId hspares, filterMap_releasedId hlast,
        List.nil_append, List.append_nil]
      exact Nat.zero_add _

/-- A driver with one client, whose rules it counts as a negative number. -/
def negativeCountEnv : Env :=
  { acceptingEnv with
    respond := fun log call =>
      match call with
      | .enumerateRegisteredClients =>
          { result := kOk, count := 1, ids := [sampleId 1] }
      | .enumerateRuleIds _ _ => { result := kOk, count := -1 }
      | _ => { result := kOk, out := log.length + 1 } }

/-- The persistent rules that a call counted. -/
def persistentCount (e : Event) : Option ℤ :=
  match e.call with
  | .enumerateRuleIds _ lifetime =>
      if lifetime = kLifetimePersistFfi ∧ succeeded e.reply.result then
        some e.reply.count
      else none
  | _ => none

/-- The client is unregistered although no probe counted zero rules. -/
theorem cleanOrphanClients_negative :
    let calls := (cleanOrphanClients negativeCountEnv false []).2
    (∃ e ∈ calls, unregisteredId e = some (sampleId 1)) ∧
      ∀ e ∈ calls, persistentCount e ≠ some 0 := by
  decide

end Esptool.Cli
