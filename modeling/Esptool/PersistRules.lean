import Esptool.Commands
import Esptool.CreateCalls
import Esptool.ParserFaithful
import Esptool.SessionCalls

/-!
# The rules and the registration that persist-rules leaves behind

`RunPersistRules` rewrites the lifetime of every rule before it installs the
document, and keeps the client registered only when the driver lists a
persistent rule afterwards.  Both are followed through every step of the
command: which lifetime a create call carries, and which client the session
gives back on each of its ways out.
-/

namespace Esptool.Cli

open Model Esp Interaction

/-! ## The steps before the install -/

section

variable {P : Call → Prop}

theorem enumerateRuleIds_calls (env : Env) (lifetime : ℕ) (s : Session)
    (hlist : ∀ client, P (.enumerateRuleIds client lifetime)) :
    Calls P s (enumerateRuleIds env lifetime s).2 :=
  callExport_calls env (hlist _) _ _ s

theorem enumerateClients_calls (env : Env) (s : Session)
    (hlist : P .enumerateRegisteredClients) :
    Calls P s (enumerateClients env s).2 :=
  callExport_calls env hlist _ _ s

theorem unregisterClientId_calls (env : Env) (id : Guid) (s : Session)
    (hunregister : P (.unregisterClient id)) :
    Calls P s (unregisterClientId env id s).2 :=
  callExport_calls env hunregister _ _ s

theorem removeAllRules_calls (env : Env) (s : Session)
    (hremove : ∀ client, P (.removeAllRulesForClient client)) :
    Calls P s (removeAllRules env s).2 :=
  callExport_calls env (hremove _) _ _ s

theorem bypassEventtype_calls (env : Env) (options : Options) (s : Session)
    (hpatch : P .applyEventTypeBypassPatch) :
    Calls P s (bypassEventtype env options s).2 := by
  unfold bypassEventtype
  split
  · exact Calls.of_run (.ask _ hpatch) s
  · exact Calls.refl s

theorem queueForDocument_calls (env : Env) (document : RuleDocument)
    (s : Session) (hcreate : ∀ client, P (.createEventQueue client)) :
    Calls P s (queueForDocument env document s).2 := by
  unfold queueForDocument
  split
  · exact createQueue_calls env s (hcreate _)
  · exact Calls.refl s

end

/-- The session that `PrepareRulesSession` goes on with or gives up on. -/
def openedSession : Except Prepared Session → Session
  | .error prepared => prepared.session
  | .ok opened => opened

def preparesSession : Call → Bool
  | .applyEventTypeBypassPatch => true
  | .createEventQueue _ => true
  | .removeAllRulesForClient _ => true
  | _ => false

theorem openRulesSession_calls (env : Env) (document : RuleDocument)
    (options : Options) (s : Session) :
    Calls (fun call => preparesSession call = true)
      (connect env document.client s).2
      (openedSession (openRulesSession env document options s)) := by
  let connected := connect env document.client s
  let bypassed := bypassEventtype env options
    (connected.2.setEnforceCompat options.enforceCompat)
  have hbypassed : Calls (fun call => preparesSession call = true)
      connected.2 bypassed.2 :=
    bypassEventtype_calls (P := fun call => preparesSession call = true) env
      options (connected.2.setEnforceCompat options.enforceCompat) rfl
  have hqueued := hbypassed.trans (queueForDocument_calls env document
    bypassed.2 fun _ => rfl)
  have hremoved := hqueued.trans (removeAllRules_calls env
    (queueForDocument env document bypassed.2).2 fun _ => rfl)
  unfold openRulesSession
  dsimp only
  split
  · exact Calls.refl _
  · split
    · exact hbypassed
    · split
      · exact hqueued
      · split
        · exact hremoved
        · exact hremoved

/-! ## Orphaned clients -/

def createsRule : Call → Bool
  | .createRule _ => true
  | _ => false

theorem createsRule_of_connects {call : Call} (h : call.connects = true) :
    createsRule call = false := by
  cases call <;> first | rfl | cases h

theorem createsRule_of_releases {call : Call} (h : call.releases = true) :
    createsRule call = false := by
  cases call <;> first | rfl | cases h

theorem createsRule_of_preparesSession {call : Call}
    (h : preparesSession call = true) : createsRule call = false := by
  cases call <;> first | rfl | cases h

/-- `t` is reached from `s` without a call that creates a rule. -/
def SparesCreate (s t : Session) : Prop :=
  Calls (fun call => createsRule call = false) s t

theorem disconnect_sparesCreate (env : Env) (s : Session) :
    SparesCreate s (disconnect env s) := by
  refine (disconnect_session_calls env s).mono fun _ h => ?_
  rcases h with hreleases | hconnects
  · exact createsRule_of_releases hreleases
  · exact createsRule_of_connects hconnects

theorem probeClient_sparesCreate (env : Env) (id : Guid)
    (log : List Event) :
    SparesCreate (startedOn log) (startedOn (probeClient env id log).2) := by
  have hconnected : SparesCreate (startedOn log)
      (connectExisting env id (startedOn log)).2 :=
    (connectExisting_calls env id (startedOn log)).mono fun _ =>
      createsRule_of_connects
  have hcounted := hconnected.trans (enumerateRuleIds_calls env
    kLifetimePersistFfi (connectExisting env id (startedOn log)).2
    fun _ => rfl)
  unfold probeClient
  dsimp only
  split
  · exact hcounted.trans (disconnect_sparesCreate env _)
  · exact hconnected.trans (disconnect_sparesCreate env _)

theorem cleanOrphanClient_sparesCreate (env : Env)
    (releasePersistent : Bool) (st : ℕ × Session) (id : Guid) :
    SparesCreate st.2
      (cleanOrphanClient env releasePersistent st id).2 := by
  have hprobed : SparesCreate st.2 (resume st.2
      (if releasePersistent then (true, st.2.log)
        else probeClient env id st.2.log).2) := by
    cases releasePersistent with
    | true => exact Calls.of_log rfl
    | false => exact probeClient_sparesCreate env id st.2.log
  unfold cleanOrphanClient
  dsimp only
  generalize (if releasePersistent then (true, st.2.log)
    else probeClient env id st.2.log) = probed at hprobed ⊢
  split
  · exact hprobed.trans (unregisterClientId_calls
      (P := fun call => createsRule call = false) env id _ rfl)
  · exact hprobed

theorem cleanOrphanClients_sparesCreate (env : Env)
    (releasePersistent : Bool) (log : List Event) :
    SparesCreate (startedOn log)
      (startedOn (cleanOrphanClients env releasePersistent log).2) := by
  have hlisted : SparesCreate (startedOn log)
      (enumerateClients env (startedOn log)).2 :=
    enumerateClients_calls (P := fun call => createsRule call = false) env
      (startedOn log) rfl
  unfold cleanOrphanClients
  dsimp only
  split
  · exact hlisted.trans (disconnect_sparesCreate env _)
  · refine Calls.trans ?_ (disconnect_sparesCreate env _)
    refine List.foldlRecOn
      (motive := fun st : ℕ × Session => SparesCreate (startedOn log) st.2)
      _ _ hlisted ?_
    intro st hst id _
    exact Calls.trans hst
      (cleanOrphanClient_sparesCreate env releasePersistent st id)

/-! ## The lifetime that arrives -/

theorem openRulesSession_sparesCreate (env : Env) (document : RuleDocument)
    (options : Options) (s : Session) :
    SparesCreate s
      (openedSession (openRulesSession env document options s)) := by
  have hconnected := (connect_calls env document.client s).mono fun _ =>
    createsRule_of_connects
  have hopened := (openRulesSession_calls env document options s).mono
    fun _ => createsRule_of_preparesSession
  exact hconnected.trans hopened

/-- Every create call of the log, after `older`, is one of `document`. -/
def CreatesOf (document : RuleDocument) (older log : List Event) : Prop :=
  ∃ new, log = older ++ new ∧ ∀ e ∈ new, ∀ descriptor,
    e.call = .createRule descriptor →
    ∃ i spec, e.tag = some i ∧ document.rules[i]? = some spec ∧
      descriptor.lifetime = (baseDescriptor spec).lifetime

section

variable {document : RuleDocument} {older : List Event} {s t : Session}

theorem CreatesOf.spares (h : CreatesOf document older s.log)
    (hspares : SparesCreate s t) : CreatesOf document older t.log := by
  obtain ⟨new, hlog, hnew⟩ := h
  obtain ⟨new', hlog', hnew'⟩ := hspares
  refine ⟨new ++ new', ?_, ?_⟩
  · rw [hlog', hlog, List.append_assoc]
  · intro e he descriptor hcall
    rcases List.mem_append.mp he with he | he
    · exact hnew e he descriptor hcall
    · have hspared := hnew' e he
      rw [hcall] at hspared
      cases hspared

theorem CreatesOf.refl (document : RuleDocument) (log : List Event) :
    CreatesOf document log log :=
  ⟨[], by simp, by simp⟩

theorem CreatesOf.installRules (h : CreatesOf document older s.log)
    (env : Env) :
    CreatesOf document older (installRules env document s).2.log := by
  obtain ⟨new, hlog, hnew⟩ := h
  obtain ⟨new', hlog', -⟩ := (installRules_keepsClient env document s).calls
  refine ⟨new ++ new', ?_, ?_⟩
  · rw [hlog', hlog, List.append_assoc]
  · intro e he descriptor hcall
    rcases List.mem_append.mp he with he | he
    · exact hnew e he descriptor hcall
    · obtain ⟨before, after, hsplit⟩ := List.append_of_mem he
      have hcreate := installRules_creates env document s before e after
        (by rw [hlog', hsplit]) descriptor hcall
      obtain ⟨i, spec, htag, hspec, _, hlifetime⟩ := hcreate.base hcall
      exact ⟨i, spec, htag, hspec, hlifetime⟩

end

theorem CreatesOf.prepareRulesSession {document : RuleDocument}
    {older : List Event} {s : Session}
    (h : CreatesOf document older s.log) (env : Env) (options : Options) :
    CreatesOf document older
      (prepareRulesSession env document options s).session.log := by
  have hopened :=
    h.spares (openRulesSession_sparesCreate env document options s)
  unfold Cli.prepareRulesSession
  split
  · rename_i prepared herror
    rw [herror] at hopened
    exact hopened
  · rename_i opened hok
    rw [hok] at hopened
    exact hopened.installRules env

/-- The session of `RunPersistRules` up to its `Disconnect`, and whether the
registration is kept. -/
def persistSession (host : CommandHost) (options : Options)
    (loaded : RuleDocument) (log : List Event) : Bool × Session :=
  let cleaned := cleanOrphanClients host.env options.fresh log
  let prepared := prepareRulesSession host.env (persistDocument loaded)
    options ((startedOn cleaned.2).setUnregisterOnDisconnect false)
  let listed := if prepared.prep = .ok
    then enumerateRuleIds host.env kLifetimePersistFfi prepared.session
    else ((false, 0), prepared.session)
  let kept := listed.1.1 && decide (listed.1.2 ≥ 1)
  (kept, if kept then listed.2
    else listed.2.setUnregisterOnDisconnect true)

section

variable {host : CommandHost} {options : Options} {loaded : RuleDocument}

theorem runPersistRules_eq
    (hload : loadRuleDocument host options "persist-rules" = .ok loaded)
    (log : List Event) :
    (runPersistRules host options log).code =
        (if (persistSession host options loaded log).1 then 0 else 1) ∧
      (runPersistRules host options log).log =
        (disconnect host.env
          (persistSession host options loaded log).2).log := by
  unfold runPersistRules
  rw [hload]
  exact ⟨rfl, rfl⟩

theorem persistRules_at {i : ℕ} {spec : RuleSpec}
    (h : (persistDocument loaded).rules[i]? = some spec) :
    ∃ written, loaded.rules[i]? = some written ∧
      (baseDescriptor spec).lifetime =
        written.modifierOverride.getD kLifetimePersistFfi := by
  rw [persistDocument, List.getElem?_map, Option.map_eq_some_iff] at h
  obtain ⟨written, hwritten, hspec⟩ := h
  refine ⟨written, hwritten, ?_⟩
  rw [← hspec]
  rfl

theorem getD_eq_iff (modifier : Option ℕ) (lifetime : ℕ) :
    modifier.getD lifetime = lifetime ↔
      modifier = none ∨ modifier = some lifetime := by
  cases modifier with
  | none => simp
  | some value => simp

theorem persistSession_creates (host : CommandHost) (options : Options)
    (loaded : RuleDocument) (log : List Event) :
    CreatesOf (persistDocument loaded) log
      (disconnect host.env
        (persistSession host options loaded log).2).log := by
  let cleaned := cleanOrphanClients host.env options.fresh log
  let started := (startedOn cleaned.2).setUnregisterOnDisconnect false
  have hcleaned : CreatesOf (persistDocument loaded) log started.log :=
    (CreatesOf.refl (persistDocument loaded) log).spares
      (cleanOrphanClients_sparesCreate host.env options.fresh log)
  let prepared := prepareRulesSession host.env (persistDocument loaded)
    options started
  have hprepared := hcleaned.prepareRulesSession host.env options
  let listed := if prepared.prep = .ok
    then enumerateRuleIds host.env kLifetimePersistFfi prepared.session
    else ((false, 0), prepared.session)
  have hlisted : CreatesOf (persistDocument loaded) log listed.2.log := by
    by_cases hok : prepared.prep = .ok
    · rw [show listed = _ from if_pos hok]
      exact hprepared.spares (enumerateRuleIds_calls host.env
        kLifetimePersistFfi prepared.session fun _ => rfl)
    · rw [show listed = _ from if_neg hok]
      exact hprepared
  refine CreatesOf.spares ?_ (disconnect_sparesCreate host.env _)
  change CreatesOf (persistDocument loaded) log
    (if (listed.1.1 && decide (listed.1.2 ≥ 1)) = true then listed.2
      else listed.2.setUnregisterOnDisconnect true).log
  split
  · exact hlisted
  · exact hlisted

/-- In every run of persist-rules, a create call is one for a rule of the
loaded document, and it carries the persistent lifetime exactly when the
rule has no modifier, or that very value as its modifier. -/
theorem runPersistRules_lifetimes (host : CommandHost) (options : Options)
    (log : List Event) :
    ∃ new, (runPersistRules host options log).log = log ++ new ∧
      ∀ e ∈ new, ∀ descriptor, e.call = .createRule descriptor →
        ∃ loaded i spec,
          loadRuleDocument host options "persist-rules" = .ok loaded ∧
          e.tag = some i ∧ loaded.rules[i]? = some spec ∧
          (descriptor.lifetime = kLifetimePersistFfi ↔
            spec.modifierOverride = none ∨
              spec.modifierOverride = some kLifetimePersistFfi) := by
  cases hload : loadRuleDocument host options "persist-rules" with
  | error message =>
      refine ⟨[], ?_, by simp⟩
      rw [runPersistRules, hload]
      exact (List.append_nil log).symm
  | ok loaded =>
      obtain ⟨new, hlog, hnew⟩ :=
        persistSession_creates host options loaded log
      rw [(runPersistRules_eq hload log).2]
      refine ⟨new, hlog, ?_⟩
      intro e he descriptor hcall
      obtain ⟨i, spec, htag, hspec, hlifetime⟩ := hnew e he descriptor hcall
      obtain ⟨written, hwritten, hbase⟩ := persistRules_at hspec
      refine ⟨loaded, i, written, rfl, htag, hwritten, ?_⟩
      rw [hlifetime, hbase]
      exact getD_eq_iff written.modifierOverride kLifetimePersistFfi

end

def carriedLifetime (e : Event) : Option ℕ :=
  match e.call with
  | .createRule descriptor => some descriptor.lifetime
  | _ => none

def persistReader (attributes : List (String × String))
    (_ : List UInt8) : Except String XmlStream :=
  .ok ⟨(rootedAt [.emptyElement ⟨"rule",
    [("eventType", "2000"), ("action", "deny")] ++ attributes, 2⟩]).events,
    true⟩

/-- A library that accepts every call and lists one persistent rule. -/
def persistingEnv : Env :=
  { acceptingEnv with
    respond := fun log call =>
      match call with
      | .coCreateGuid => { result := kOk, ids := [Vector.replicate 16 1] }
      | .enumerateRuleIds .. => { result := kOk, count := 1 }
      | _ => { result := kOk, out := log.length + 1 } }

/-- One file, whose only rule has the given further attributes. -/
def persistHost (attributes : List (String × String)) : CommandHost where
  env := persistingEnv
  parseRuleText := parseRuleText (persistReader attributes)
  ruleFile _ := ⟨none, some 1, .ok [0]⟩
  readStream _ := some [0]
  pumpNotifications _ _ s := s
  pumpNotificationsIocp _ _ s := s
  queryFromNotification s := s
  fileTrigger s := s
  processTrigger _ s := s

/-- A modifier reaches the descriptor in place of the persistent lifetime. -/
theorem runPersistRules_modifier_transient :
    let options : Options := { rulesPath := "persist_deny.xml" }
    let outcome := runPersistRules (persistHost [("modifier", "1")]) options []
    outcome.code = 0 ∧ outcome.log.filterMap carriedLifetime = [1] ∧
      ¬ ∀ e ∈ outcome.log, ∀ descriptor, e.call = .createRule descriptor →
        descriptor.lifetime = kLifetimePersistFfi := by
  intro options outcome
  have hrun : outcome.code = 0 ∧
      outcome.log.filterMap carriedLifetime = [1] := by
    decide +kernel
  refine ⟨hrun.1, hrun.2, fun hall => ?_⟩
  have hmem : 1 ∈ outcome.log.filterMap carriedLifetime := by
    rw [hrun.2]
    exact List.mem_singleton.mpr rfl
  obtain ⟨e, he, hcarried⟩ := List.mem_filterMap.mp hmem
  unfold carriedLifetime at hcarried
  split at hcarried
  · rename_i descriptor hcall
    rw [hall e he descriptor hcall] at hcarried
    cases hcarried
  · cases hcarried

/-! ## The registration -/

theorem bypassEventtype_keepsClient (env : Env) (options : Options)
    (s : Session) : KeepsClient s (bypassEventtype env options s).2 := by
  unfold bypassEventtype
  split
  · exact KeepsClient.of_run (.ask _ rfl) s
  · exact KeepsClient.refl s

theorem createQueue_keepsClient (env : Env) (s : Session) :
    KeepsClient s (createQueue env s).2 := by
  have hframe : (createQueue env s).2 =
      { s with
        queueHandle := (createQueue env s).2.queueHandle
        journal := (createQueue env s).2.journal } := by
    unfold createQueue
    dsimp only
    split
    · rfl
    · rfl
  refine ⟨createQueue_calls env s rfl, ?_, ?_, ?_⟩
  · rw [hframe]
  · rw [hframe]
  · rw [hframe]

theorem queueForDocument_keepsClient (env : Env) (document : RuleDocument)
    (s : Session) : KeepsClient s (queueForDocument env document s).2 := by
  unfold queueForDocument
  split
  · exact createQueue_keepsClient env s
  · exact KeepsClient.refl s

theorem callExport_keepsClient {call : Call}
    (hcall : call.handlesClient = false) (env : Env) (wanted : Export)
    (ready : Bool) (s : Session) :
    KeepsClient s (callExport env wanted ready call s).2 := by
  have hframe : (callExport env wanted ready call s).2 =
      { s with journal := (callExport env wanted ready call s).2.journal } := by
    unfold callExport
    dsimp only
    split
    · rfl
    · rfl
  refine ⟨callExport_calls env hcall wanted ready s, ?_, ?_, ?_⟩
  · rw [hframe]
  · rw [hframe]
  · rw [hframe]

theorem openRulesSession_keepsClient (env : Env) (document : RuleDocument)
    (options : Options) (s : Session) :
    KeepsClient (connect env document.client s).2
      (openedSession (openRulesSession env document options s)) := by
  let connected := connect env document.client s
  let bypassed := bypassEventtype env options
    (connected.2.setEnforceCompat options.enforceCompat)
  have hcompat : KeepsClient connected.2
      (connected.2.setEnforceCompat options.enforceCompat) :=
    ⟨Calls.of_log rfl, rfl, rfl, rfl⟩
  have hbypassed : KeepsClient connected.2 bypassed.2 :=
    hcompat.trans (bypassEventtype_keepsClient env options _)
  have hqueued := hbypassed.trans
    (queueForDocument_keepsClient env document bypassed.2)
  have hremoved : KeepsClient connected.2
      (removeAllRules env (queueForDocument env document bypassed.2).2).2 :=
    hqueued.trans (callExport_keepsClient rfl env _ _ _)
  unfold openRulesSession
  dsimp only
  split
  · exact KeepsClient.refl _
  · split
    · exact hbypassed
    · split
      · exact hqueued
      · split
        · exact hremoved
        · exact hremoved

theorem prepareRulesSession_keepsClient (env : Env)
    (document : RuleDocument) (options : Options) (s : Session) :
    KeepsClient (connect env document.client s).2
      (prepareRulesSession env document options s).session := by
  have hopened := openRulesSession_keepsClient env document options s
  unfold prepareRulesSession
  split
  · rename_i prepared herror
    rw [herror] at hopened
    exact hopened
  · rename_i opened hok
    rw [hok] at hopened
    exact hopened.trans (installRules_keepsClient env document opened)

/-- Since `s`, the session registered the client it owns and no other, and
did not unregister any. -/
structure OwnsRegistration (s t : Session) : Prop where
  calls : ClientCalls (if t.registeredThisSession then [t.clientId] else [])
    [] s t
  flag : t.unregisterOnDisconnect = false

theorem OwnsRegistration.keeps {s t u : Session}
    (h : OwnsRegistration s t) (hkeeps : KeepsClient t u) :
    OwnsRegistration s u := by
  refine ⟨?_, hkeeps.flag.trans h.flag⟩
  rw [hkeeps.registered, hkeeps.clientId]
  simpa using h.calls.trans hkeeps.calls.clientCalls

/-- With the flag cleared, a failed `Connect` leaves the registration for the
command to decide on. -/
theorem connect_ownsRegistration {env : Env} {client : ClientSpec}
    {s : Session} (hregistered : s.registeredThisSession = false)
    (hflag : s.unregisterOnDisconnect = false) :
    OwnsRegistration s (connect env client s).2 := by
  have hconnects := connect_connects env client s
  generalize connect env client s = connected at hconnects ⊢
  cases hconnects with
  | unresolved hcalls hkept hflag' =>
      refine ⟨?_, hflag'.trans hflag⟩
      rw [hkept, hregistered]
      exact hcalls
  | refused hcalls hkept hflag' =>
      refine ⟨?_, hflag'.trans hflag⟩
      rw [hkept, hregistered]
      exact hcalls
  | connected hcalls howned hflag' =>
      refine ⟨?_, hflag'.trans hflag⟩
      rw [howned]
      exact hcalls
  | @unconnected t hcalls howned hflag' =>
      have hsame : unregisterIfOwned env t = t := by
        rw [unregisterIfOwned, hflag'.trans hflag, if_neg (by simp)]
      dsimp only
      rw [hsame]
      refine ⟨?_, hflag'.trans hflag⟩
      rw [howned]
      exact hcalls

/-- On its way to `Disconnect` the command registers at most one client, and
the flag then asks for its release exactly when the command fails. -/
theorem persistSession_registration (host : CommandHost)
    (options : Options) (loaded : RuleDocument) (log : List Event) :
    let own := persistSession host options loaded log
    ClientCalls
        (if own.2.registeredThisSession then [own.2.clientId] else []) []
        (startedOn (cleanOrphanClients host.env options.fresh log).2) own.2 ∧
      own.2.unregisterOnDisconnect = !own.1 := by
  let cleaned := cleanOrphanClients host.env options.fresh log
  let started := (startedOn cleaned.2).setUnregisterOnDisconnect false
  let prepared := prepareRulesSession host.env (persistDocument loaded)
    options started
  let listed := if prepared.prep = .ok
    then enumerateRuleIds host.env kLifetimePersistFfi prepared.session
    else ((false, 0), prepared.session)
  have hprepared : OwnsRegistration started prepared.session :=
    OwnsRegistration.keeps (connect_ownsRegistration rfl rfl)
      (prepareRulesSession_keepsClient host.env (persistDocument loaded)
        options started)
  have hlisted : OwnsRegistration started listed.2 := by
    by_cases hok : prepared.prep = .ok
    · rw [show listed = _ from if_pos hok]
      exact hprepared.keeps (callExport_keepsClient rfl host.env _ _ _)
    · rw [show listed = _ from if_neg hok]
      exact hprepared
  have hown : persistSession host options loaded log =
      (listed.1.1 && decide (listed.1.2 ≥ 1),
        if (listed.1.1 && decide (listed.1.2 ≥ 1)) = true then listed.2
        else listed.2.setUnregisterOnDisconnect true) := rfl
  rw [hown]
  cases listed.1.1 && decide (listed.1.2 ≥ 1) with
  | true => exact ⟨hlisted.calls, hlisted.flag⟩
  | false => exact ⟨hlisted.calls, rfl⟩

/-- A persist-rules command that returns zero never unregisters the client it
registered, and one that fails after a registration unregisters it exactly
once, with the destructor of the session counted in. -/
theorem runPersistRules_registration {host : CommandHost}
    {options : Options} {loaded : RuleDocument}
    (hload : loadRuleDocument host options "persist-rules" = .ok loaded)
    (hunregister : host.env.available .unregisterClient = true)
    (log : List Event) :
    let outcome := runPersistRules host options log
    let disconnected := disconnect host.env
      (persistSession host options loaded log).2
    outcome.log = disconnected.log ∧
      ∃ calls, (disconnect host.env disconnected).log =
          (cleanOrphanClients host.env options.fresh log).2 ++ calls ∧
        ∀ id ∈ calls.filterMap registeredId,
          (outcome.code = 0 → id ∉ calls.filterMap unregisteredId) ∧
          (outcome.code ≠ 0 →
            (calls.filterMap unregisteredId).count id = 1) := by
  obtain ⟨hcode, hlog⟩ := runPersistRules_eq hload log
  obtain ⟨hcalls, hflag⟩ :=
    persistSession_registration host options loaded log
  dsimp only
  generalize persistSession host options loaded log = own at *
  obtain ⟨calls, hrun, hregistered, hunregistered⟩ :=
    hcalls.trans (disconnect_client host.env own.2)
  rw [List.append_nil] at hregistered
  rw [List.nil_append] at hunregistered
  refine ⟨hlog, calls, ?_, ?_⟩
  · rw [disconnect_disconnect_log]
    exact hrun
  · intro id hid
    rw [hregistered] at hid
    rw [hcode, hunregistered, ownedIds, hflag, hunregister]
    by_cases howned : own.2.registeredThisSession = true
    · rw [if_pos howned, List.mem_singleton] at hid
      cases own.1 with
      | true => simp
      | false => simp [howned, hid]
    · rw [if_neg howned] at hid
      cases hid

/-- The library of `persistingEnv`, with one persistent rule less. -/
def forgettingEnv : Env :=
  { persistingEnv with
    respond := fun log call =>
      match call with
      | .enumerateRuleIds .. => { result := kOk }
      | call => persistingEnv.respond log call }

theorem runPersistRules_registration_forgotten :
    let host := { persistHost [] with env := forgettingEnv }
    let outcome := runPersistRules host { rulesPath := "persist_deny.xml" } []
    (outcome.code = 1 ∧
        outcome.log.filterMap registeredId = [Vector.replicate 16 1]) ∧
      ∃ loaded calls, (disconnect forgettingEnv (disconnect forgettingEnv
          (persistSession host { rulesPath := "persist_deny.xml" } loaded
            []).2)).log =
          (cleanOrphanClients forgettingEnv false []).2 ++ calls ∧
        ∀ id ∈ calls.filterMap registeredId,
          (calls.filterMap unregisteredId).count id = 1 := by
  intro host outcome
  have hrun : outcome.code = 1 ∧ outcome.log.filterMap registeredId =
      [Vector.replicate 16 1] := by
    decide +kernel
  have hload : loadRuleDocument host { rulesPath := "persist_deny.xml" }
      "persist-rules" =
        .ok (parseRuleFile host "persist_deny.xml").document := by
    rfl
  obtain ⟨-, calls, hlog, hcalls⟩ :=
    runPersistRules_registration hload rfl []
  refine ⟨hrun, _, calls, hlog, ?_⟩
  intro id hid
  refine (hcalls id hid).2 ?_
  change outcome.code ≠ 0
  rw [hrun.1]
  decide

end Esptool.Cli
