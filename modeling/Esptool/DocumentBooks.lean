import Esptool.CommandBooks
import Esptool.InstallBooks
import Esptool.PumpBooks

/-!
# The handles of a command with a document

`rules`, `monitor`, `persist-rules` and `refs --from-notify` first release
orphaned clients, each probed with a session of its own, then install the
document and pump notifications.  They give back whatever they were handed
out, in whatever order the notifications come.
-/

namespace Esptool.Cli

open Model Esp Interaction Custody

/-- The pumps of a host are runs of the pump, each with some order of steps,
and its triggers make no call. -/
structure CommandHost.Pumps (host : CommandHost) : Prop where
  callback : ∀ duration count s, ∃ job actions p,
    job.transport = .callback ∧ job.maxNotifications = count ∧
      (Pump.start s).run host.env job actions = some p ∧
      host.pumpNotifications duration count s = p.session
  iocp : ∀ duration count s, ∃ job actions p,
    job.transport = .iocp ∧ job.maxNotifications = count ∧
      (Pump.start s).run host.env job actions = some p ∧
      host.pumpNotificationsIocp duration count s = p.session
  query : ∀ s, ∃ notify, host.queryFromNotification s =
    (Esp.queryFromNotification host.env notify s).2
  fileTrigger : ∀ s, host.fileTrigger s = s
  processTrigger : ∀ document s, host.processTrigger document s = s

/-- A session that holds nothing of a kind, after books that balance. -/
structure Clear (kind : Owned) (s : Session) : Prop where
  held : kind.held s = 0
  balanced : kind.custody.Balanced s.log 0

section

variable {kind : Owned} {env : Env} {s t : Session} {log : List Event}

theorem Clear.startedOn (h : kind.custody.Balanced log 0) :
    Clear kind (startedOn log) := by
  refine ⟨?_, h⟩
  cases kind <;> rfl

theorem Clear.resume (h : Clear kind s) (hlog : kind.custody.Balanced log 0) :
    Clear kind (resume s log) := by
  refine ⟨?_, hlog⟩
  have hheld := h.held
  cases kind <;> exact hheld

theorem Clear.holds (h : Clear kind s) :
    kind.custody.Holds [] s.log (kind.held s + 0) := by
  rw [h.held, add_zero]
  exact holds_nil_iff.mpr h.balanced

theorem Clear.untouched (h : Clear kind s) (hsame : Untouched kind s t) :
    Clear kind t := by
  have hheld : kind.held t = 0 :=
    (Owned.held_of_kept hsame.kept).trans h.held
  refine ⟨hheld, ?_⟩
  have hafter := hsame.keepsHeld.holds [] 0 h.holds
  rw [hheld, add_zero] at hafter
  exact holds_nil_iff.mp hafter

theorem Clear.disconnected (h : Clear kind s)
    (hclose : env.available kind.closer = true) (hkeeps : KeepsHeld kind s t) :
    kind.custody.Balanced (disconnect env t).log 0 := by
  have hend := (hkeeps.trans (disconnect_keepsHeld hclose t)).holds [] 0
    h.holds
  rw [held_disconnect, add_zero] at hend
  exact holds_nil_iff.mp hend

/-! ## Orphaned clients -/

theorem connectExisting_keepsHeld (id : Guid) (hempty : s.clientHandle = 0) :
    KeepsHeld kind s (connectExisting env id s).2 := by
  have hcalls := connectExisting_calls env id s
  by_cases hkind : kind = .client
  · subst hkind
    refine (connectExisting_slotStep env s id).1.keepsHeld
      hcalls.log_extends fun _ => ?_
    rw [Owned.held, Owned.kept, hempty]
    rfl
  · refine Untouched.keepsHeld ⟨hcalls.mono fun _ h =>
      Owned.ignores_of_connects h hkind, ?_⟩
    have hquiet := connectExisting_quiet env s id
    have hframe : (connectExisting env id s).2 =
        { s with
          registeredThisSession :=
            (connectExisting env id s).2.registeredThisSession
          clientHandle := (connectExisting env id s).2.clientHandle
          clientId := (connectExisting env id s).2.clientId
          journal := (connectExisting env id s).2.journal } := by
      unfold connectExisting
      dsimp only
      split <;> rfl
    cases kind with
    | client => exact absurd rfl hkind
    | filter => exact hquiet.filters
    | collection => exact hquiet.collections
    | _ =>
        rw [hframe]
        rfl

theorem probeClient_balanced (hclose : env.available kind.closer = true)
    (id : Guid) (h : kind.custody.Balanced log 0) :
    kind.custody.Balanced (probeClient env id log).2 0 := by
  have hconnected : KeepsHeld kind (startedOn log)
      (connectExisting env id (startedOn log)).2 :=
    connectExisting_keepsHeld id rfl
  unfold probeClient
  dsimp only
  split
  · have hcounted : Untouched kind _ (enumerateRuleIds env kLifetimePersistFfi
        (connectExisting env id (startedOn log)).2).2 :=
      callExport_untouched _ _ rfl _
    exact (Clear.startedOn h).disconnected hclose
      (hconnected.trans hcounted.keepsHeld)
  · exact (Clear.startedOn h).disconnected hclose hconnected

theorem cleanOrphanClient_clear (hclose : env.available kind.closer = true)
    (releasePersistent : Bool) (id : Guid) {st : ℕ × Session}
    (h : Clear kind st.2) :
    Clear kind (cleanOrphanClient env releasePersistent st id).2 := by
  let probed := if releasePersistent then (true, st.2.log)
    else probeClient env id st.2.log
  have hprobed : kind.custody.Balanced probed.2 0 := by
    cases releasePersistent with
    | true => exact h.balanced
    | false => exact probeClient_balanced hclose id h.balanced
  have hprobe : Clear kind (Cli.resume st.2 probed.2) := h.resume hprobed
  change Clear kind (if probed.1 = true then _ else _ : ℕ × Session).2
  split
  · exact hprobe.untouched (callExport_untouched _ _ rfl _)
  · exact hprobe

theorem cleanOrphanClients_balanced
    (hclose : env.available kind.closer = true) (releasePersistent : Bool)
    (h : kind.custody.Balanced log 0) :
    kind.custody.Balanced (cleanOrphanClients env releasePersistent log).2
      0 := by
  have hlisted : Clear kind (enumerateClients env (startedOn log)).2 :=
    (Clear.startedOn h).untouched (callExport_untouched _ _ rfl _)
  have hcleaned (ids : List Guid) {st : ℕ × Session} (hst : Clear kind st.2) :
      Clear kind (ids.foldl (cleanOrphanClient env releasePersistent) st).2 := by
    induction ids generalizing st with
    | nil => exact hst
    | cons id ids ih =>
        exact ih (cleanOrphanClient_clear hclose releasePersistent id hst)
  unfold cleanOrphanClients
  dsimp only
  split
  · exact hlisted.disconnected hclose (.refl _)
  · exact (hcleaned _ hlisted).disconnected hclose (.refl _)

/-! ## Preparing the session -/

/-- An opening keeps what it was handed out, also where it fails. -/
inductive Opens (kind : Owned) (s : Session) : Except Prepared Session → Prop
  | failed {prepared : Prepared} (keeps : KeepsHeld kind s prepared.session) :
      Opens kind s (.error prepared)
  | opened {t : Session} (keeps : KeepsHeld kind s t) : Opens kind s (.ok t)

theorem openRulesSession_opens (document : RuleDocument) (o : Options)
    (hclient : s.clientHandle = 0) (hqueue : s.queueHandle = 0) :
    Opens kind s (openRulesSession env document o s) := by
  let connected := connect env document.client s
  let enforced := connected.2.setEnforceCompat o.enforceCompat
  let bypassed := bypassEventtype env o enforced
  let queued := queueForDocument env document bypassed.2
  have hconnected : KeepsHeld kind s connected.2 :=
    connect_keepsHeld env s document.client hclient
  have henforced : Untouched kind connected.2 enforced := by
    refine ⟨Calls.of_log rfl, ?_⟩
    cases kind <;> rfl
  have hpatched : Untouched kind enforced bypassed.2 := by
    change Untouched kind enforced (bypassEventtype env o enforced).2
    unfold bypassEventtype
    split
    · exact (askNeutral_skips rfl).untouched enforced
    · exact .refl enforced
  have hbypassed := hconnected.trans (henforced.trans hpatched).keepsHeld
  have hempty : bypassed.2.queueHandle = 0 := by
    have hframe : bypassed.2.queueHandle = connected.2.queueHandle := by
      change (bypassEventtype env o enforced).2.queueHandle = _
      unfold bypassEventtype
      split <;> rfl
    rw [hframe]
    change (connect env document.client s).2.queueHandle = 0
    rw [connect_frame]
    exact hqueue
  have hqueued : KeepsHeld kind s queued.2 := by
    refine hbypassed.trans ?_
    change KeepsHeld kind bypassed.2
      (queueForDocument env document bypassed.2).2
    unfold queueForDocument
    split
    · exact createQueue_keepsHeld env bypassed.2 fun _ => hempty
    · exact .refl _
  have hremoved : KeepsHeld kind s (removeAllRules env queued.2).2 :=
    hqueued.trans (callExport_untouched _ _ rfl _).keepsHeld
  unfold openRulesSession
  dsimp only
  split
  · exact .failed hconnected
  split
  · exact .failed hbypassed
  split
  · exact .failed hqueued
  split
  · exact .failed hremoved
  · exact .opened hremoved

theorem prepareRulesSession_keepsBooks (document : RuleDocument) (o : Options)
    (hclose : env.available kind.closer = true)
    (hresolved : kind = .filter → ∀ spec ∈ document.rules,
      combinatorsResolved env spec.filter = true)
    (hclient : s.clientHandle = 0) (hqueue : s.queueHandle = 0) :
    KeepsBooks kind s (prepareRulesSession env document o s).session := by
  have hopens : Opens kind s (openRulesSession env document o s) :=
    openRulesSession_opens document o hclient hqueue
  unfold prepareRulesSession
  generalize openRulesSession env document o s = result at hopens ⊢
  cases hopens with
  | failed hkeeps => exact hkeeps.keepsBooks
  | opened hkeeps =>
      exact hkeeps.keepsBooks.trans
        (installRules_keepsBooks document hclose hresolved _)

end

/-! ## The commands -/

section

variable {kind : Owned} {host : CommandHost} {o : Options} {s : Session}

theorem CommandHost.Pumps.pumpNotifications_keepsBooks (h : host.Pumps)
    (hclose : host.env.available kind.closer = true)
    (halways : kind = .notification → AllocatesAlways host.env)
    (duration count : ℕ) (s : Session) :
    KeepsBooks kind s (host.pumpNotifications duration count s) := by
  obtain ⟨job, actions, p, -, -, hrun, hpumped⟩ := h.callback duration count s
  rw [hpumped]
  exact ((Pump.start_booked kind s).run hclose halways actions hrun).books

theorem CommandHost.Pumps.pumpNotificationsIocp_keepsBooks (h : host.Pumps)
    (hclose : host.env.available kind.closer = true)
    (halways : kind = .notification → AllocatesAlways host.env)
    (duration count : ℕ) (s : Session) :
    KeepsBooks kind s (host.pumpNotificationsIocp duration count s) := by
  obtain ⟨job, actions, p, -, -, hrun, hpumped⟩ := h.iocp duration count s
  rw [hpumped]
  exact ((Pump.start_booked kind s).run hclose halways actions hrun).books

theorem CommandHost.Pumps.holdSession_keepsBooks (h : host.Pumps)
    (hclose : host.env.available kind.closer = true)
    (halways : kind = .notification → AllocatesAlways host.env)
    (document : RuleDocument) (s : Session) :
    KeepsBooks kind s (holdSession host o document s) := by
  unfold holdSession
  dsimp only
  split
  · split
    · exact h.pumpNotificationsIocp_keepsBooks hclose halways _ _ s
    · exact h.pumpNotifications_keepsBooks hclose halways _ _ s
  · exact (Untouched.refl s).keepsBooks

/-- The document that a command installs. -/
def CommandHost.document (host : CommandHost) (o : Options) : RuleDocument :=
  (parseRuleFile host o.rulesPath).document

theorem loadRuleDocument_document {command : String} {document : RuleDocument}
    (h : loadRuleDocument host o command = .ok document) :
    document = host.document o := by
  unfold loadRuleDocument at h
  dsimp only at h
  split at h
  · cases h
  · split at h
    · cases h
      rfl
    · cases h

theorem setUnregisterOnDisconnect_untouched (value : Bool) (s : Session) :
    Untouched kind s (s.setUnregisterOnDisconnect value) := by
  refine ⟨Calls.of_log rfl, ?_⟩
  cases kind <;> rfl

/-- After the orphans were released, a session that keeps its books gives
everything back. -/
theorem released_settled (hclose : host.env.available kind.closer = true)
    (releasePersistent : Bool) {t : Session}
    (hbooks : KeepsBooks kind (startedOn
      (cleanOrphanClients host.env releasePersistent []).2) t)
    (hfresh : IssuesFresh kind (disconnect host.env t).log) :
    kind.custody.Balanced (disconnect host.env t).log 0 := by
  have hstart := Clear.startedOn
    (cleanOrphanClients_balanced hclose releasePersistent balanced_nil)
  refine hbooks.settles hclose hfresh ?_
  rw [hstart.held]
  exact hstart.balanced

theorem runRules_settled (hpumps : host.Pumps)
    (hclose : host.env.available kind.closer = true)
    (halways : kind = .notification → AllocatesAlways host.env)
    (hresolved : kind = .filter → ∀ spec ∈ (host.document o).rules,
      combinatorsResolved host.env spec.filter = true)
    (hfresh : IssuesFresh kind (runRules host o []).log) :
    kind.custody.Balanced (runRules host o []).log 0 := by
  revert hfresh
  unfold runRules
  cases hload : loadRuleDocument host o "rules" with
  | error message => exact fun _ => balanced_nil
  | ok document =>
      rw [← loadRuleDocument_document hload] at hresolved
      let cleaned := cleanOrphanClients host.env o.fresh []
      let prepared := prepareRulesSession host.env document o
        (startedOn cleaned.2)
      have hprepared : KeepsBooks kind (startedOn cleaned.2)
          prepared.session :=
        prepareRulesSession_keepsBooks document o hclose hresolved rfl rfl
      have hheld : KeepsBooks kind prepared.session
          (if prepared.prep = .ok then holdSession host o document
            prepared.session else prepared.session) := by
        split
        · exact hpumps.holdSession_keepsBooks hclose halways document _
        · exact (Untouched.refl _).keepsBooks
      dsimp only
      split
      · exact released_settled hclose o.fresh hprepared
      · exact released_settled hclose o.fresh (hprepared.trans hheld)

theorem runMonitor_settled (hpumps : host.Pumps)
    (hclose : host.env.available kind.closer = true)
    (halways : kind = .notification → AllocatesAlways host.env)
    (hresolved : kind = .filter → ∀ spec ∈ (host.document o).rules,
      combinatorsResolved host.env spec.filter = true)
    (hfresh : IssuesFresh kind (runMonitor host o []).log) :
    kind.custody.Balanced (runMonitor host o []).log 0 := by
  revert hfresh
  unfold runMonitor
  cases hload : loadRuleDocument host o "monitor" with
  | error message => exact fun _ => balanced_nil
  | ok document =>
      rw [← loadRuleDocument_document hload] at hresolved
      let cleaned := cleanOrphanClients host.env o.fresh []
      let prepared := prepareRulesSession host.env document o
        (startedOn cleaned.2)
      have hprepared : KeepsBooks kind (startedOn cleaned.2)
          prepared.session :=
        prepareRulesSession_keepsBooks document o hclose hresolved rfl rfl
      have hpumped : KeepsBooks kind prepared.session
          ((if o.iocp then host.pumpNotificationsIocp
            else host.pumpNotifications) o.durationMs o.maxNotifications
              prepared.session) := by
        split
        · exact hpumps.pumpNotificationsIocp_keepsBooks hclose halways _ _ _
        · exact hpumps.pumpNotifications_keepsBooks hclose halways _ _ _
      dsimp only
      split
      · exact released_settled hclose o.fresh hprepared
      · exact released_settled hclose o.fresh (hprepared.trans hpumped)

theorem runPersistRules_settled
    (hclose : host.env.available kind.closer = true)
    (hresolved : kind = .filter → ∀ spec ∈ (host.document o).rules,
      combinatorsResolved host.env spec.filter = true)
    (hfresh : IssuesFresh kind (runPersistRules host o []).log) :
    kind.custody.Balanced (runPersistRules host o []).log 0 := by
  revert hfresh
  unfold runPersistRules
  cases hload : loadRuleDocument host o "persist-rules" with
  | error message => exact fun _ => balanced_nil
  | ok loaded =>
      rw [← loadRuleDocument_document hload] at hresolved
      -- only the lifetimes of the rules are changed
      have hpersistent : kind = .filter →
          ∀ spec ∈ (persistDocument loaded).rules,
            combinatorsResolved host.env spec.filter = true := by
        intro hkind spec hspec
        obtain ⟨rule, hrule, rfl⟩ := List.mem_map.mp hspec
        exact hresolved hkind rule hrule
      let cleaned := cleanOrphanClients host.env o.fresh []
      let started := (startedOn cleaned.2).setUnregisterOnDisconnect false
      let prepared := prepareRulesSession host.env (persistDocument loaded) o
        started
      have hprepared : KeepsBooks kind (startedOn cleaned.2)
          prepared.session :=
        (setUnregisterOnDisconnect_untouched false _).keepsBooks.trans
          (prepareRulesSession_keepsBooks _ o hclose hpersistent rfl rfl)
      let listed := if prepared.prep = .ok
        then enumerateRuleIds host.env kLifetimePersistFfi prepared.session
        else ((false, 0), prepared.session)
      have hlisted : Untouched kind prepared.session listed.2 := by
        by_cases hok : prepared.prep = .ok
        · rw [show listed = _ from if_pos hok]
          exact callExport_untouched _ _ rfl _
        · rw [show listed = _ from if_neg hok]
          exact .refl _
      have hended : Untouched kind listed.2
          (if (listed.1.1 && decide (listed.1.2 ≥ 1)) = true then listed.2
            else listed.2.setUnregisterOnDisconnect true) := by
        split
        · exact .refl _
        · exact setUnregisterOnDisconnect_untouched true _
      exact released_settled hclose o.fresh
        (hprepared.trans (hlisted.trans hended).keepsBooks)

theorem runRefsFromNotify_settled (hpumps : host.Pumps)
    (hclose : host.env.available kind.closer = true)
    (halways : kind = .notification → AllocatesAlways host.env)
    (hresolved : kind = .filter → ∀ spec ∈ (host.document o).rules,
      combinatorsResolved host.env spec.filter = true)
    (hfresh : IssuesFresh kind (runRefsFromNotify host o []).log) :
    kind.custody.Balanced (runRefsFromNotify host o []).log 0 := by
  revert hfresh
  unfold runRefsFromNotify
  split
  · exact fun _ => balanced_nil
  cases hload : loadRuleDocument host o "refs" with
  | error message => exact fun _ => balanced_nil
  | ok document =>
      rw [← loadRuleDocument_document hload] at hresolved
      let cleaned := cleanOrphanClients host.env o.fresh []
      let prepared := prepareRulesSession host.env document o
        (startedOn cleaned.2)
      have hprepared : KeepsBooks kind (startedOn cleaned.2)
          prepared.session :=
        prepareRulesSession_keepsBooks document o hclose hresolved rfl rfl
      let triggered := if documentWantsFoTrigger document
        then host.fileTrigger prepared.session
        else host.processTrigger document prepared.session
      have htriggered : triggered = prepared.session := by
        by_cases hfile : documentWantsFoTrigger document = true
        · rw [show triggered = _ from if_pos hfile]
          exact hpumps.fileTrigger _
        · rw [show triggered = _ from if_neg hfile]
          exact hpumps.processTrigger document _
      let pumped := host.pumpNotifications o.durationMs 1 triggered
      have hpumped : KeepsBooks kind prepared.session pumped := by
        change KeepsBooks kind prepared.session
          (host.pumpNotifications o.durationMs 1 triggered)
        rw [htriggered]
        exact hpumps.pumpNotifications_keepsBooks hclose halways _ _ _
      have hqueried : KeepsBooks kind pumped
          (if document.rules.all (·.queries.isEmpty)
            then host.queryFromNotification pumped else pumped) := by
        split
        · obtain ⟨notify, hquery⟩ := hpumps.query pumped
          rw [hquery]
          exact queryFromNotification_keepsBooks hclose notify pumped
        · exact (Untouched.refl _).keepsBooks
      dsimp only
      split
      · exact released_settled hclose o.fresh hprepared
      · exact released_settled hclose o.fresh
          ((hprepared.trans hpumped).trans hqueried)

end

/-- The commands that install a document. -/
inductive DocumentCommand
  | rules
  | monitor
  | persistRules
  | refsFromNotify
deriving DecidableEq, Repr

def DocumentCommand.run (host : CommandHost) (o : Options)
    (log : List Event) : DocumentCommand → Outcome
  | rules => runRules host o log
  | monitor => runMonitor host o log
  | persistRules => runPersistRules host o log
  | refsFromNotify => runRefsFromNotify host o log

/-- A command with a document gives back every handle, on every way out and
in whatever order its notifications come.  The combinators of its filters
have to be there: without one of them the operands are lost. -/
theorem DocumentCommand.run_givesBack (command : DocumentCommand)
    (host : CommandHost) (o : Options) (kind : Owned) (hpumps : host.Pumps)
    (hclose : host.env.available kind.closer = true)
    (halways : kind = .notification → AllocatesAlways host.env)
    (hresolved : kind = .filter → ∀ spec ∈ (host.document o).rules,
      combinatorsResolved host.env spec.filter = true)
    (hfresh : IssuesFresh kind (command.run host o []).log) :
    kind.custody.Balanced (command.run host o []).log 0 := by
  cases command with
  | rules => exact runRules_settled hpumps hclose halways hresolved hfresh
  | monitor => exact runMonitor_settled hpumps hclose halways hresolved hfresh
  | persistRules => exact runPersistRules_settled hclose hresolved hfresh
  | refsFromNotify =>
      exact runRefsFromNotify_settled hpumps hclose halways hresolved hfresh

/-- A rule with a negated filter. -/
def negatedRules : RuleDocument :=
  { rules := [{ eventType := 2000
                filter :=
                  { kind := .not
                    children := [{ type := 1, operand := 1 }] } }] }

/-- A pump that takes the late steps, where they can be taken. -/
def latePump (transport : Transport) (count : ℕ) (s : Session) : Session :=
  (((Pump.start s).run acceptingEnv ⟨transport, count, lateJob.host⟩
    lateActions).getD (Pump.start s)).session

theorem latePump_runs (transport : Transport) (count : ℕ) (s : Session) :
    ∃ job actions p,
      job.transport = transport ∧ job.maxNotifications = count ∧
        (Pump.start s).run acceptingEnv job actions = some p ∧
        latePump transport count s = p.session := by
  unfold latePump
  cases hrun : (Pump.start s).run acceptingEnv
      ⟨transport, count, lateJob.host⟩ lateActions with
  | none =>
      exact ⟨⟨transport, count, lateJob.host⟩, [], Pump.start s, rfl, rfl,
        rfl, rfl⟩
  | some p =>
      exact ⟨⟨transport, count, lateJob.host⟩, lateActions, p, rfl, rfl, hrun,
        rfl⟩

/-- A library that accepts every call, and pumps that are late. -/
def quietHost : CommandHost where
  env := acceptingEnv
  parseRuleText _ := { ok := true, document := negatedRules }
  ruleFile _ := ⟨none, some 1, .ok [0]⟩
  readStream _ := none
  pumpNotifications _ count s := latePump .callback count s
  pumpNotificationsIocp _ count s := latePump .iocp count s
  queryFromNotification s :=
    (Esp.queryFromNotification acceptingEnv lateJob.host s).2
  fileTrigger s := s
  processTrigger _ s := s

theorem quietHost_pumps : quietHost.Pumps where
  callback _ count s := latePump_runs .callback count s
  iocp _ count s := latePump_runs .iocp count s
  query _ := ⟨lateJob.host, rfl⟩
  fileTrigger _ := rfl
  processTrigger _ _ := rfl

def armsNotification (e : Event) : Bool :=
  match e.call with
  | .armEventNotification .. => true
  | _ => false

/-- The monitor builds the negated filter and arms two notifications. -/
theorem DocumentCommand.run_givesBack_negated :
    let log := (DocumentCommand.monitor.run quietHost
      { rulesPath := "a.xml", maxNotifications := 2 } []).log
    (log.filter armsNotification).length = 2 ∧
      (log.filter fun e => e.call.createsFilter).length = 2 ∧
      Owned.filter.custody.Balanced log 0 := by
  intro log
  refine ⟨by decide +kernel, by decide +kernel, ?_⟩
  exact DocumentCommand.run_givesBack .monitor quietHost
    { rulesPath := "a.xml", maxNotifications := 2 } .filter quietHost_pumps rfl nofun
    (fun _ => by decide +kernel) nofun

end Esptool.Cli
