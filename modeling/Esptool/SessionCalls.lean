import Esptool.InstallRun
import Esptool.SessionClient
import Esptool.SessionRelease

/-!
# The calls of the operations of a session

For every operation of a session: which calls it can make, and which fields
of the session it leaves alone.  Results about whole commands put these
together and do not unfold the operations.
-/

namespace Esptool.Esp

open Model Interaction

/-- `t` is reached from `s` by calls that satisfy `P`. -/
def Calls (P : Call → Prop) (s t : Session) : Prop :=
  ∃ new, t.log = s.log ++ new ∧ ∀ e ∈ new, P e.call

section

variable {P Q : Call → Prop} {s t u : Session}

theorem Calls.refl (s : Session) : Calls P s s :=
  ⟨[], by simp, by simp⟩

theorem Calls.trans (h : Calls P s t) (h' : Calls P t u) : Calls P s u := by
  obtain ⟨new, hlog, hnew⟩ := h
  obtain ⟨new', hlog', hnew'⟩ := h'
  refine ⟨new ++ new', ?_, ?_⟩
  · rw [hlog', hlog, List.append_assoc]
  · intro e he
    rcases List.mem_append.mp he with he | he
    · exact hnew e he
    · exact hnew' e he

theorem Calls.mono (h : Calls P s t) (himp : ∀ call, P call → Q call) :
    Calls Q s t := by
  obtain ⟨new, hlog, hnew⟩ := h
  exact ⟨new, hlog, fun e he => himp _ (hnew e he)⟩

theorem Calls.of_run {α : Type} {env : Env} {m : JournalM α}
    (h : Scripted env.respond P m) (s : Session) : Calls P s (s.run m).2 := by
  obtain ⟨-, new, hlog, hnew⟩ := h.emits s.journal
  exact ⟨new, hlog, fun e he => (hnew e he).2⟩

theorem Calls.of_log (h : t.log = s.log) : Calls P s t :=
  ⟨[], by simp [h], by simp⟩

end

/-! ## Connecting -/

section

variable {P : Call → Prop} (env : Env)

theorem require_calls (wanted : Export) (s : Session) :
    Calls P s (s.run (require env wanted)).2 :=
  Calls.of_run (require_scripted wanted) s

theorem require_run_of_available (s : Session) {wanted : Export}
    (h : env.available wanted = true) :
    s.run (require env wanted) = (true, s) := by
  rw [Session.run, require, if_pos h]
  rfl

theorem registerAltitudes_scripted {id : Guid} {name : String}
    (hregister : ∀ altitude, P (.registerClient id name altitude))
    (base remaining : ℕ) (last : EspResult) :
    Scripted env.respond P
      (registerAltitudes env id name base remaining last) := by
  induction remaining generalizing last with
  | zero => exact .pure last
  | succ remaining ih =>
      exact .bind (.ask _ (hregister _)) fun reply => .ite (ih _) (.pure _)

theorem chooseClientId_calls (hgenerate : P .coCreateGuid)
    (client : ClientSpec) (s : Session) :
    Calls P s (chooseClientId env client s).2 := by
  have hgenerated : Calls P { s with clientId := client.guid }
      (Session.run { s with clientId := client.guid }
        (ask env.respond .coCreateGuid)).2 :=
    Calls.of_run (.ask _ hgenerate) _
  unfold chooseClientId
  split
  · exact Calls.refl s
  · dsimp only
    split
    · exact hgenerated
    · exact hgenerated

theorem adopt_event (step : String) (call : Call) (s : Session) :
    let adopted := s.run (adopt env step call)
    ∃ e : Event, e.call = call ∧ adopted.2.log = s.log ++ [e] ∧
      adopted.1 = if succeeded e.reply.result = true ∧ e.reply.out ≠ 0
        then some e.reply.out else none := by
  obtain ⟨e, hcall, hlog, -, hvalue⟩ := adopt_run env step call s.journal
  exact ⟨e, hcall, hlog, hvalue⟩

theorem adoptClient_calls (s : Session)
    (hconnect : P (.connectClient s.clientId)) :
    Calls P s (adoptClient env s).2 :=
  Calls.of_run (adopt_scripted _ hconnect) s

theorem callExport_calls {call : Call} (hcall : P call) (wanted : Export)
    (ready : Bool) (s : Session) :
    Calls P s (callExport env wanted ready call s).2 := by
  have hrequire := require_calls (P := P) env wanted s
  unfold callExport
  dsimp only
  split
  · exact hrequire
  · exact hrequire.trans (Calls.of_run (.bind (.ask _ hcall) fun _ =>
      .bind (record_scripted _ _) fun _ => .pure _) _)

theorem createQueue_calls (s : Session)
    (hcreate : P (.createEventQueue s.clientHandle)) :
    Calls P s (createQueue env s).2 := by
  have hrequire := require_calls (P := P) env .createEventQueue s
  unfold createQueue
  dsimp only
  split
  · exact hrequire
  · exact hrequire.trans (Calls.of_run (adopt_scripted _ hcreate) _)

end

/-! ## Registrations -/

/-- The client that a call of `EspRegisterClient` registered. -/
def registeredId (e : Event) : Option Guid :=
  match e.call with
  | .registerClient id _ _ => if e.reply.result = kOk then some id else none
  | _ => none

def unregisteredId (e : Event) : Option Guid :=
  match e.call with
  | .unregisterClient id => some id
  | _ => none

def Call.handlesClient : Call → Bool
  | .registerClient .. => true
  | .unregisterClient _ => true
  | _ => false

/-- Between the two sessions the clients `registered` were registered and the
clients `unregistered` were passed to `EspUnregisterClient`. -/
def ClientCalls (registered unregistered : List Guid) (s t : Session) :
    Prop :=
  ∃ new, t.log = s.log ++ new ∧ new.filterMap registeredId = registered ∧
    new.filterMap unregisteredId = unregistered

section

variable {s t u : Session} {first second first' second' : List Guid}

theorem ClientCalls.refl (s : Session) : ClientCalls [] [] s s :=
  ⟨[], by simp, rfl, rfl⟩

theorem ClientCalls.trans (h : ClientCalls first second s t)
    (h' : ClientCalls first' second' t u) :
    ClientCalls (first ++ first') (second ++ second') s u := by
  obtain ⟨new, hlog, hfirst, hsecond⟩ := h
  obtain ⟨new', hlog', hfirst', hsecond'⟩ := h'
  refine ⟨new ++ new', ?_, ?_, ?_⟩
  · rw [hlog', hlog, List.append_assoc]
  · rw [List.filterMap_append, hfirst, hfirst']
  · rw [List.filterMap_append, hsecond, hsecond']

theorem Calls.clientCalls (h : Calls (fun call => call.handlesClient = false) s t) :
    ClientCalls [] [] s t := by
  obtain ⟨new, hlog, hnew⟩ := h
  refine ⟨new, hlog, ?_, ?_⟩
  · rw [List.filterMap_eq_nil_iff]
    intro e he
    have hcall := hnew e he
    unfold registeredId
    split
    · rename_i hregister
      rw [hregister] at hcall
      cases hcall
    · rfl
  · rw [List.filterMap_eq_nil_iff]
    intro e he
    have hcall := hnew e he
    unfold unregisteredId
    split
    · rename_i hunregister
      rw [hunregister] at hcall
      cases hcall
    · rfl

end

/-- The registration loop registers at most once, and says so. -/
theorem registerAltitudes_client (env : Env) (id : Guid) (name : String)
    (base remaining : ℕ) (last : EspResult) (hlast : last ≠ kOk)
    (s : Session) :
    let registered := s.run (registerAltitudes env id name base remaining last)
    ClientCalls (if registered.1 = kOk then [id] else []) [] s
      registered.2 := by
  induction remaining generalizing last s with
  | zero =>
      have hresult : (s.run (registerAltitudes env id name base 0
          last)).1 ≠ kOk := hlast
      dsimp only
      rw [if_neg hresult]
      exact ClientCalls.refl s
  | succ remaining ih =>
      let call : Call := .registerClient id name
        (altitudeAt base (kAltitudeCollisionTries - (remaining + 1)))
      let asked := s.run (ask env.respond call)
      have hasked : ClientCalls (if asked.1.result = kOk then [id] else []) []
          s asked.2 := by
        refine ⟨[⟨s.journal.tag, call, asked.1⟩], rfl, ?_, rfl⟩
        by_cases hok : asked.1.result = kOk
        · rw [if_pos hok]
          simp [registeredId, call, hok]
        · rw [if_neg hok]
          simp [registeredId, call, hok]
      by_cases hcollision : asked.1.result = kAlreadyExists
      · have hrun : s.run (registerAltitudes env id name base (remaining + 1)
            last) = asked.2.run (registerAltitudes env id name base remaining
              asked.1.result) := by
          have hstep : registerAltitudes env id name base (remaining + 1) last
              s.journal = registerAltitudes env id name base remaining
                asked.1.result asked.2.journal := by
            rw [registerAltitudes, bind_run]
            exact congrFun (if_pos hcollision) _
          rw [Session.run, hstep]
          rfl
        have hfailed : asked.1.result ≠ kOk := by
          rw [hcollision]
          decide
        rw [if_neg hfailed] at hasked
        dsimp only
        rw [hrun]
        exact hasked.trans (ih asked.1.result hfailed asked.2)
      · have hrun : s.run (registerAltitudes env id name base (remaining + 1)
            last) = (asked.1.result, asked.2) := by
          have hstep : registerAltitudes env id name base (remaining + 1) last
              s.journal = (asked.1.result, asked.2.journal) := by
            rw [registerAltitudes, bind_run]
            exact congrFun (if_neg hcollision) _
          rw [Session.run, hstep]
          rfl
        dsimp only
        rw [hrun]
        exact hasked

/-- The client that a disconnect passes to `EspUnregisterClient`. -/
def ownedIds (env : Env) (s : Session) : List Guid :=
  if s.registeredThisSession ∧ s.unregisterOnDisconnect ∧
      env.available .unregisterClient then [s.clientId]
  else []

/-- The client that a call unregisters. -/
def unregisteredBy : Call → Option Guid
  | .unregisterClient id => some id
  | _ => none

theorem clientCalls_of_calls {s t : Session} {new : List Event}
    (calls : List Call) (ids : List Guid) (hlog : t.log = s.log ++ new)
    (hnew : new.map Event.call = calls ++ ids.map .unregisterClient)
    (h : ∀ call ∈ calls, call.handlesClient = false) :
    ClientCalls [] ids s t := by
  refine ⟨new, hlog, ?_, ?_⟩
  · rw [List.filterMap_eq_nil_iff]
    intro e he
    have hmem : e.call ∈ calls ++ ids.map .unregisterClient := by
      rw [← hnew]
      exact List.mem_map_of_mem he
    unfold registeredId
    split
    · rename_i hregister
      rw [hregister] at hmem
      rcases List.mem_append.mp hmem with hmem | hmem
      · exact absurd (h _ hmem) (by simp [Call.handlesClient])
      · obtain ⟨id, _, hid⟩ := List.mem_map.mp hmem
        cases hid
    · rfl
  · have hread : new.filterMap unregisteredId =
        (new.map Event.call).filterMap unregisteredBy := by
      rw [List.filterMap_map]
      rfl
    have hnone : calls.filterMap unregisteredBy = [] := by
      rw [List.filterMap_eq_nil_iff]
      intro call hcall
      have hhandles := h call hcall
      unfold unregisteredBy
      split
      · cases hhandles
      · rfl
    rw [hread, hnew, List.filterMap_append, hnone, List.filterMap_map]
    exact List.filterMap_some

theorem handlesClient_of_releases {call : Call} (h : call.releases = true) :
    call.handlesClient = false := by
  cases call <;> first | rfl | cases h

theorem unregisterIfOwned_client (env : Env) (s : Session) :
    ClientCalls [] (ownedIds env s) s (unregisterIfOwned env s) := by
  obtain ⟨-, new, hlog, hnew⟩ := unregisterIfOwned_frame env s
  refine clientCalls_of_calls [] (ownedIds env s) hlog ?_ (by simp)
  rw [hnew, unregisterCalls, ownedIds]
  split
  · rfl
  · rfl

theorem disconnect_client (env : Env) (s : Session) :
    ClientCalls [] (ownedIds env s) s (disconnect env s) := by
  obtain ⟨⟨new, hlog, hnew⟩, -⟩ := disconnect_calls env s
  refine clientCalls_of_calls (releaseCalls env s) (ownedIds env s) hlog ?_
    fun call hcall => handlesClient_of_releases
      (releases_of_mem_releaseCalls hcall)
  rw [hnew, unregisterCalls, ownedIds]
  split
  · rfl
  · rfl

/-! ## Connect -/

/-- The client identity of `Connect` is all that choosing it changes. -/
theorem chooseClientId_frame (env : Env) (client : ClientSpec)
    (s : Session) :
    (chooseClientId env client s).2 =
      { s with
        clientId := (chooseClientId env client s).2.clientId
        journal := (chooseClientId env client s).2.journal } ∧
      (client.guid ≠ Guid.null →
        (chooseClientId env client s).2.clientId = client.guid) := by
  unfold chooseClientId
  split
  · exact ⟨rfl, fun _ => rfl⟩
  · rename_i hnull
    dsimp only
    split
    · exact ⟨rfl, fun h => absurd h hnull⟩
    · exact ⟨rfl, fun h => absurd h hnull⟩

/-- What `Connect` does to the registration of the session. -/
inductive Connects (env : Env) (client : ClientSpec) (s : Session) :
    Bool × Session → Prop
  | unresolved {t : Session} (hcalls : ClientCalls [] [] s t)
      (hregistered : t.registeredThisSession = s.registeredThisSession)
      (hflag : t.unregisterOnDisconnect = s.unregisterOnDisconnect)
      (hid : t.clientId = s.clientId)
      (hmissing : ¬(env.available .connectClient = true ∧
        env.available .registerClient = true)) :
      Connects env client s (false, t)
  | refused {t : Session} (hcalls : ClientCalls [] [] s t)
      (hregistered : t.registeredThisSession = s.registeredThisSession)
      (hflag : t.unregisterOnDisconnect = s.unregisterOnDisconnect)
      (hresolved : env.available .connectClient = true ∧
        env.available .registerClient = true)
      (hid : client.guid ≠ Guid.null → t.clientId = client.guid) :
      Connects env client s (false, t)
  | connected {t : Session} (hcalls : ClientCalls [t.clientId] [] s t)
      (hregistered : t.registeredThisSession = true)
      (hflag : t.unregisterOnDisconnect = s.unregisterOnDisconnect)
      (hresolved : env.available .connectClient = true ∧
        env.available .registerClient = true)
      (hid : client.guid ≠ Guid.null → t.clientId = client.guid) :
      Connects env client s (true, t)
  | unconnected {t : Session} (hcalls : ClientCalls [t.clientId] [] s t)
      (hregistered : t.registeredThisSession = true)
      (hflag : t.unregisterOnDisconnect = s.unregisterOnDisconnect)
      (hresolved : env.available .connectClient = true ∧
        env.available .registerClient = true)
      (hid : client.guid ≠ Guid.null → t.clientId = client.guid) :
      Connects env client s (false, unregisterIfOwned env t)

theorem adoptClient_client (env : Env) (s : Session) :
    ClientCalls [] [] s (adoptClient env s).2 := by
  have hcalls : Calls (fun call => call.handlesClient = false) s
      (adoptClient env s).2 := adoptClient_calls env s rfl
  exact hcalls.clientCalls

theorem require_client (env : Env) (wanted : Export) (s : Session) :
    ClientCalls [] [] s (s.run (require env wanted)).2 := by
  have hcalls : Calls (fun call => call.handlesClient = false) s
      (s.run (require env wanted)).2 := require_calls env wanted s
  exact hcalls.clientCalls

theorem chooseClientId_client (env : Env) (client : ClientSpec)
    (s : Session) :
    ClientCalls [] [] s (chooseClientId env client s).2 := by
  have hcalls : Calls (fun call => call.handlesClient = false) s
      (chooseClientId env client s).2 :=
    chooseClientId_calls (P := fun call => call.handlesClient = false) env
      rfl client s
  exact hcalls.clientCalls

theorem connect_connects (env : Env) (client : ClientSpec) (s : Session) :
    Connects env client s (connect env client s) := by
  let connectFn := s.run (require env .connectClient)
  let registerFn := connectFn.2.run (require env .registerClient)
  have hlookup : ClientCalls [] [] s registerFn.2 :=
    (require_client env .connectClient s).trans
      (require_client env .registerClient connectFn.2)
  unfold connect
  dsimp only
  split
  · rename_i hmissing
    refine .unresolved hlookup rfl rfl rfl ?_
    rw [require_run_fst, require_run_fst] at hmissing
    intro hboth
    rw [hboth.1, hboth.2] at hmissing
    cases hmissing
  · rename_i hpresent
    have hresolved : env.available .connectClient = true ∧
        env.available .registerClient = true := by
      rw [require_run_fst, require_run_fst] at hpresent
      simpa using hpresent
    let chosen := chooseClientId env client registerFn.2
    obtain ⟨hchosen, hid⟩ := chooseClientId_frame env client registerFn.2
    have hchosenCalls := hlookup.trans
      (chooseClientId_client env client registerFn.2)
    split
    · refine .refused hchosenCalls ?_ ?_ hresolved hid
      · rw [hchosen]
        rfl
      · rw [hchosen]
        rfl
    · let name :=
        if client.name = "" then kDefaultClientName else client.name
      let registered := chosen.2.run do
        let result ← registerAltitudes env chosen.2.clientId name
          (altitudeBase client) kAltitudeCollisionTries kFail
        record "EspRegisterClient" result
        return result
      have hregistered : ClientCalls
          (if registered.1 = kOk then [chosen.2.clientId] else []) [] s
          registered.2 :=
        hchosenCalls.trans (registerAltitudes_client env chosen.2.clientId
          name (altitudeBase client) kAltitudeCollisionTries kFail (by decide)
          chosen.2)
      have hflag : registered.2.unregisterOnDisconnect =
          s.unregisterOnDisconnect := by
        change chosen.2.unregisterOnDisconnect = _
        rw [show chosen.2 = _ from hchosen]
        rfl
      let adopted := adoptClient env
        { registered.2 with registeredThisSession := true }
      change Connects env client s
        (if registered.1 ≠ kOk then (false, registered.2)
        else if adopted.1 then (true, adopted.2)
        else (false, unregisterIfOwned env adopted.2))
      by_cases hok : registered.1 = kOk
      · rw [if_pos hok] at hregistered
        have hadopted := hregistered.trans (adoptClient_client env
          { registered.2 with registeredThisSession := true })
        rw [if_neg (not_not.mpr hok)]
        split
        · exact .connected hadopted rfl hflag hresolved hid
        · exact .unconnected hadopted rfl hflag hresolved hid
      · rw [if_neg hok] at hregistered
        rw [if_pos hok]
        refine .refused hregistered ?_ hflag hresolved hid
        change chosen.2.registeredThisSession = _
        rw [show chosen.2 = _ from hchosen]
        rfl

theorem connectExisting_client (env : Env) (id : Guid) (s : Session) :
    ClientCalls [] [] s (connectExisting env id s).2 ∧
      (connectExisting env id s).2.unregisterOnDisconnect =
        s.unregisterOnDisconnect ∧
      if env.available .connectClient = true ∧ id ≠ Guid.null then
        (connectExisting env id s).2.registeredThisSession = false ∧
          (connectExisting env id s).2.clientId = id
      else
        (connectExisting env id s).2.registeredThisSession =
            s.registeredThisSession ∧
          (connectExisting env id s).2.clientId = s.clientId := by
  have hlookup := require_client env .connectClient s
  have hresolved := require_run_fst env .connectClient s
  unfold connectExisting
  dsimp only
  rw [hresolved]
  by_cases hready : env.available .connectClient = true ∧ id ≠ Guid.null
  · have hguard : (!env.available .connectClient || id == Guid.null) =
        false := by
      simp [hready.1, hready.2]
    rw [if_neg (by simp [hguard]), if_pos hready]
    exact ⟨hlookup.trans (adoptClient_client env _), rfl, rfl, rfl⟩
  · have hguard : (!env.available .connectClient || id == Guid.null) =
        true := by
      by_contra hopen
      refine hready ?_
      simpa using hopen
    rw [if_pos hguard, if_neg hready]
    exact ⟨hlookup, rfl, rfl, rfl⟩

/-! ## The calls of whole operations -/

def Call.connects : Call → Bool
  | .coCreateGuid => true
  | .registerClient .. => true
  | .connectClient _ => true
  | .unregisterClient _ => true
  | _ => false

theorem unregisterIfOwned_calls (env : Env) (s : Session) :
    Calls (fun call => call.connects = true) s (unregisterIfOwned env s) := by
  obtain ⟨-, new, hlog, hnew⟩ := unregisterIfOwned_frame env s
  refine ⟨new, hlog, fun e he => ?_⟩
  have hmem : e.call ∈ unregisterCalls env s := by
    rw [← hnew]
    exact List.mem_map_of_mem he
  unfold unregisterCalls at hmem
  split at hmem
  · rw [List.mem_singleton] at hmem
    rw [hmem]
    rfl
  · cases hmem

theorem connect_calls (env : Env) (client : ClientSpec) (s : Session) :
    Calls (fun call => call.connects = true) s (connect env client s).2 := by
  let connectFn := s.run (require env .connectClient)
  let registerFn := connectFn.2.run (require env .registerClient)
  have hlookup : Calls (fun call => call.connects = true) s registerFn.2 :=
    (require_calls env .connectClient s).trans
      (require_calls env .registerClient connectFn.2)
  unfold connect
  dsimp only
  split
  · exact hlookup
  · let chosen := chooseClientId env client registerFn.2
    have hchosen : Calls (fun call => call.connects = true) s chosen.2 :=
      hlookup.trans (chooseClientId_calls
        (P := fun call => call.connects = true) env rfl client registerFn.2)
    split
    · exact hchosen
    · let name :=
        if client.name = "" then kDefaultClientName else client.name
      let registered := chosen.2.run do
        let result ← registerAltitudes env chosen.2.clientId name
          (altitudeBase client) kAltitudeCollisionTries kFail
        record "EspRegisterClient" result
        return result
      have hregistered : Calls (fun call => call.connects = true) s
          registered.2 :=
        hchosen.trans (Calls.of_run (.bind (registerAltitudes_scripted env
          (fun _ => rfl) _ _ _) fun _ =>
            .bind (record_scripted _ _) fun _ => .pure _) chosen.2)
      let adopted := adoptClient env
        { registered.2 with registeredThisSession := true }
      have hadopted : Calls (fun call => call.connects = true) s adopted.2 :=
        hregistered.trans (adoptClient_calls
          (P := fun call => call.connects = true) env
          { registered.2 with registeredThisSession := true } rfl)
      change Calls (fun call => call.connects = true) s
        (if registered.1 ≠ kOk then (false, registered.2)
        else if adopted.1 then (true, adopted.2)
        else (false, unregisterIfOwned env adopted.2)).2
      split
      · exact hregistered
      · split
        · exact hadopted
        · exact hadopted.trans (unregisterIfOwned_calls env adopted.2)

theorem connectExisting_calls (env : Env) (id : Guid) (s : Session) :
    Calls (fun call => call.connects = true) s
      (connectExisting env id s).2 := by
  have hlookup : Calls (fun call => call.connects = true) s
      (s.run (require env .connectClient)).2 :=
    require_calls env .connectClient s
  unfold connectExisting
  dsimp only
  split
  · exact hlookup
  · exact hlookup.trans
      (adoptClient_calls (P := fun call => call.connects = true) env _ rfl)

theorem disconnect_session_calls (env : Env) (s : Session) :
    Calls (fun call => call.releases = true ∨ call.connects = true) s
      (disconnect env s) := by
  obtain ⟨⟨new, hlog, hnew⟩, -⟩ := disconnect_calls env s
  exact ⟨new, hlog, forall_disconnectCalls
    (P := fun call => call.releases = true ∨ call.connects = true) hnew
    (fun _ => .inl) fun _ => .inr rfl⟩

/-! ## Operations that leave the registration alone -/

structure KeepsClient (s t : Session) : Prop where
  calls : Calls (fun call => call.handlesClient = false) s t
  registered : t.registeredThisSession = s.registeredThisSession
  flag : t.unregisterOnDisconnect = s.unregisterOnDisconnect
  clientId : t.clientId = s.clientId

section

variable {s t u : Session}

theorem KeepsClient.refl (s : Session) : KeepsClient s s :=
  ⟨Calls.refl s, rfl, rfl, rfl⟩

theorem KeepsClient.trans (h : KeepsClient s t) (h' : KeepsClient t u) :
    KeepsClient s u := by
  have hregistered := h'.registered.trans h.registered
  have hflag := h'.flag.trans h.flag
  have hclientId := h'.clientId.trans h.clientId
  exact ⟨h.calls.trans h'.calls, hregistered, hflag, hclientId⟩

theorem KeepsClient.of_run {α : Type} {env : Env} {m : JournalM α}
    (h : Scripted env.respond (fun call => call.handlesClient = false) m)
    (s : Session) : KeepsClient s (s.run m).2 :=
  ⟨Calls.of_run h s, rfl, rfl, rfl⟩

end

/-! ## The calls of an install -/

/-- The calls that an install makes for its document and its rules. -/
def Call.installs : Call → Bool
  | .createTypedFilter .. => true
  | .createBinaryFilter .. => true
  | .createNotFilter _ => true
  | .closeFilter _ => true
  | .createCollection .. => true
  | .openCollection .. => true
  | .updateCollection .. => true
  | .applyFromFfiCompatPatch => true
  | .createRule _ => true
  | .updateRules .. => true
  | .closeRule _ => true
  | _ => false

/-- An install changes its rules, what its document names and the patch
cache; the rest of the session stays. -/
structure Installs (s t : Session) : Prop where
  calls : Calls (fun call => call.installs = true) s t
  frame : t =
    { s with
      rules := t.rules
      namedCollections := t.namedCollections
      notifyQueries := t.notifyQueries
      enforceCompatPatchAttempted := t.enforceCompatPatchAttempted
      enforceCompatPatchOk := t.enforceCompatPatchOk
      enforceCompatError := t.enforceCompatError
      journal := t.journal }

section

variable {s t u : Session}

theorem Installs.refl (s : Session) : Installs s s :=
  ⟨Calls.refl s, rfl⟩

theorem Installs.trans (h : Installs s t) (h' : Installs t u) :
    Installs s u := by
  refine ⟨h.calls.trans h'.calls, ?_⟩
  rw [h'.frame, h.frame]

theorem Installs.of_run {α : Type} {env : Env} {m : JournalM α}
    (h : Scripted env.respond (fun call => call.installs = true) m)
    (s : Session) : Installs s (s.run m).2 :=
  ⟨Calls.of_run h s, rfl⟩

theorem Installs.of_warn (s : Session) (message : String) :
    Installs s (s.warn message) :=
  ⟨Calls.of_log rfl, rfl⟩

theorem Installs.atRule (s : Session) (tag : Option ℕ) :
    Installs s (s.atRule tag) :=
  ⟨Calls.of_log rfl, rfl⟩

theorem installs_of_buildsObjects {call : Call}
    (h : call.buildsObjects = true) : call.installs = true := by
  cases call <;> first | rfl | cases h

theorem installs_of_preparesRule {spec : RuleSpec} {call : Call}
    (h : call.preparesRule spec) : call.installs = true := by
  rcases h with h | ⟨h, _⟩
  · exact installs_of_buildsObjects h
  · rw [h]
    rfl

theorem handlesClient_of_installs {call : Call} (h : call.installs = true) :
    call.handlesClient = false := by
  cases call <;> first | rfl | cases h

theorem Installs.keepsClient (h : Installs s t) : KeepsClient s t := by
  refine ⟨h.calls.mono fun _ => handlesClient_of_installs, ?_, ?_, ?_⟩
  · rw [h.frame]
  · rw [h.frame]
  · rw [h.frame]

theorem Extends.installs {spec : RuleSpec}
    (h : Extends (Call.preparesRule spec) s t) : Installs s t := by
  obtain ⟨new, hlog, _, hnew⟩ := h.new
  refine ⟨⟨new, hlog, fun e he => installs_of_preparesRule (hnew e he).2⟩, ?_⟩
  rw [h.frame]

end

theorem proceed_installs {s : Session} {gate : Bool × Session}
    {next : Session → Bool × Session} (hgate : Installs s gate.2)
    (hnext : ∀ t, Installs t (next t).2) :
    Installs s (proceed gate next).2 := by
  obtain ⟨ok, t⟩ := gate
  cases ok with
  | false => exact hgate
  | true => exact hgate.trans (hnext t)

theorem gate_installs (refuses : Bool) (message : String)
    (s : Session) : Installs s (gate refuses message s).2 := by
  cases refuses with
  | true => exact Installs.of_warn s message
  | false => exact Installs.refl s

theorem collectionsGate_installs (env : Env) (document : RuleDocument)
    (s : Session) : Installs s (collectionsGate env document s).2 := by
  have hscript : BuildScript env
      (documentCollections env s.clientHandle document) :=
    documentCollections_script s.clientHandle document
  have hrun := Installs.of_run
    (hscript.mono fun _ => installs_of_buildsObjects) s
  have hcollections : Installs s (installDocumentCollections env document
      { s with notifyQueries := [], namedCollections := [] }).2 :=
    ⟨hrun.calls, rfl⟩
  unfold collectionsGate
  dsimp only
  split
  · exact hcollections.trans (Installs.of_warn _ _)
  · exact hcollections

theorem installPrologue_installs (env : Env) (document : RuleDocument)
    (s : Session) : Installs s (installPrologue env document s).2 := by
  have hdocument := collectionsGate_installs env document
  refine proceed_installs (gate_installs _ _ _) fun s => ?_
  refine proceed_installs (gate_installs _ _ s) fun s => ?_
  refine proceed_installs (Installs.of_run (require_scripted _) s)
    fun s => ?_
  refine proceed_installs (Installs.of_run (require_scripted _) s)
    fun s => ?_
  refine proceed_installs (hdocument s) fun _ => ?_
  exact ⟨Calls.of_log rfl, rfl⟩

theorem buildRule_installs (env : Env) (rulesBefore : ℕ)
    (st : BuildState) (spec : RuleSpec) (index : ℕ) :
    Installs st.session
      (buildRule env rulesBefore st (spec, index)).session := by
  have htagged := Installs.atRule st.session (some index)
  rcases buildRule_cases env rulesBefore st spec index with
    ⟨t, heq, hextends⟩ | ⟨filter, descriptor, anchor, t, hreaches, heq⟩
  · rw [heq]
    exact htagged.trans hextends.installs
  · obtain ⟨u, hframe, hlog, houtcome⟩ :=
      createRule_cases env st index spec filter descriptor anchor t
    have hattached :=
      (attachRule_extends env spec filter descriptor t).installs.calls
    have hcreated : Installs t u := by
      refine ⟨hattached.trans ⟨_, hlog, ?_⟩, ?_⟩
      · intro e he
        rw [List.mem_singleton] at he
        rw [he]
        rfl
      · rw [hframe]
    have hall := (htagged.trans hreaches.extends_.installs).trans hcreated
    rw [heq]
    rcases houtcome with ⟨_, hrefuse⟩ | ⟨rule, _, hcreate⟩
    · rw [hrefuse]
      exact hall
    · rw [hcreate]
      exact hall.trans ⟨Calls.of_log rfl, rfl⟩

theorem submitPending_scripted {P : Call → Prop} (env : Env)
    (hupdate : ∀ client entries, P (.updateRules client entries))
    (client : Handle) (rejected : List Handle) (pending : Pending) :
    Scripted env.respond P (submitPending env client rejected pending) := by
  refine .ite (.pure _) (.bind (require_scripted _) fun _ => ?_)
  refine .ite (.pure _) (.bind (.ask _ (hupdate _ _)) fun _ => ?_)
  exact .bind (record_scripted _ _) fun _ => .pure _

theorem closeRefused_scripted {P : Call → Prop} (env : Env)
    (hclose : ∀ rule, P (.closeRule rule)) (canClose : Bool)
    (rule : Handle) :
    Scripted env.respond P (closeRefused env canClose rule) :=
  .ite (.bind (.ask _ (hclose _)) fun _ => .pure _) (.pure _)

theorem submitEntry_installs (env : Env) (canClose : Bool)
    (rulesBefore : ℕ) (st : SubmitState) (pending : Pending × ℕ) :
    Installs st.session
      (submitEntry env canClose rulesBefore st pending).session := by
  have htagged := Installs.atRule st.session (some pending.1.origin)
  have hsubmitted := htagged.trans (Installs.of_run
    (submitPending_scripted env (fun _ _ => rfl) st.session.clientHandle
      st.rejectedHandles pending.1) _)
  unfold submitEntry
  dsimp only
  split
  · exact hsubmitted
  · refine hsubmitted.trans ⟨?_, rfl⟩
    exact Calls.of_run (P := fun call => call.installs = true)
      (closeRefused_scripted env (fun _ => rfl) _ _) _

theorem compactRules_installs (rulesBefore : ℕ) (st : SubmitState) :
    Installs st.session (compactRules rulesBefore st) := by
  unfold compactRules
  split
  · exact ⟨Calls.of_log rfl, rfl⟩
  · exact Installs.refl _

theorem submitRules_installs (env : Env) (rulesBefore : ℕ)
    (pending : List Pending) (s : Session) :
    Installs s (submitRules env rulesBefore pending s).session := by
  have hrequire : Installs s (s.run (require env .closeRule)).2 :=
    Installs.of_run (require_scripted .closeRule) s
  unfold submitRules
  dsimp only
  refine Loops.foldl_zipIdx_invariant
    (motive := fun _ (st : SubmitState) => Installs s st.session)
    hrequire ?_
  intro k st p _ hst
  exact hst.trans (submitEntry_installs env _ rulesBefore st (p, k))

theorem installRules_installs (env : Env) (document : RuleDocument)
    (s : Session) : Installs s (installRules env document s).2 := by
  have hprologue := (Installs.atRule s none).trans
    (installPrologue_installs env document (s.atRule none))
  have hbuilt : Installs s (buildRules env document
      (installPrologue env document (s.atRule none)).2).session := by
    unfold buildRules
    refine Loops.foldl_zipIdx_invariant
      (motive := fun _ (st : BuildState) => Installs s st.session)
      hprologue ?_
    intro k st spec _ hst
    exact hst.trans (buildRule_installs env _ st spec k)
  rcases installRules_cases env document s with
    ⟨_, heq⟩ | ⟨_, _, heq⟩ | ⟨_, _, heq⟩
  · rw [heq]
    exact hprologue
  · rw [heq]
    exact hbuilt.trans (Installs.atRule _ none)
  · rw [heq]
    exact hbuilt.trans ((((Installs.atRule _ none).trans
      (submitRules_installs env _ _ _)).trans
      (compactRules_installs _ _)).trans (Installs.atRule _ none))

theorem installRules_keepsClient (env : Env) (document : RuleDocument)
    (s : Session) : KeepsClient s (installRules env document s).2 :=
  (installRules_installs env document s).keepsClient

end Esptool.Esp
