import Esptool.ClientHandles
import Esptool.Enforcement
import Esptool.PersistRules

/-!
# The queue of a prepared session and the descriptors that carry it

The selector of a rule is resolved three times: by the command, which decides
whether the session gets a queue, by the gate of the install, and by the
descriptor, whose word at +1112 is shared by three selectors.  The three
agree, so that a rule carries the queue exactly when it has to, and the queue
is there when it does.
-/

namespace Esptool.Cli

open Model Esp Interaction

theorem documentNeedsQueue_iff (document : RuleDocument) :
    documentNeedsQueue document = true ↔
      ∃ spec ∈ document.rules, resolvedSelector spec = kActionQueueBacked := by
  unfold documentNeedsQueue
  rw [List.any_eq_true]
  refine exists_congr fun spec => and_congr_right fun _ => ?_
  exact beq_iff_eq

/-! ## The word at +1112 -/

/-- What the word at +1112 of a create call holds, by the selector: `queue`
is the call that made the session queue, if there was one. -/
structure QueueField (queue : Option Event) (spec : RuleSpec)
    (descriptor : RuleDescriptor) : Prop where
  selector : descriptor.actionSelector = resolvedSelector spec
  queued : descriptor.actionSelector = kActionQueueBacked →
    ∃ created ∈ queue, succeeded created.reply.result = true ∧
      created.reply.out ≠ 0 ∧ descriptor.eventQueue = created.reply.out
  disposed : descriptor.actionSelector = kActionRewrite →
    descriptor.eventQueue =
      spec.modifyKindOverride.getD kEventModifyKindFoCreate
  counted : descriptor.actionSelector = kActionMatchSubrules →
    (descriptor.eventQueue = 0 ∧
      descriptor.subruleArray = some kEmptySubruleArray) ∨
    ∃ predecessor, descriptor.eventQueue = 1 ∧
      descriptor.subruleArray = some [predecessor]
  other : descriptor.actionSelector ≠ kActionQueueBacked →
    descriptor.actionSelector ≠ kActionRewrite →
    descriptor.actionSelector ≠ kActionMatchSubrules →
    descriptor.eventQueue = 0

section

variable {env : Env} {rulesBefore index : ℕ} {st : BuildState}
  {spec : RuleSpec} {filter anchor : Handle} {descriptor : RuleDescriptor}
  {t : Session}

/-- The descriptor of one iteration, over the queue of its session. -/
theorem queueField_of_reaches {queue : Option Event}
    (h : ReachesCreate env rulesBefore st spec index filter descriptor anchor
      t)
    (hqueue : resolvedSelector spec = kActionQueueBacked →
      ∃ created ∈ queue, succeeded created.reply.result = true ∧
        created.reply.out ≠ 0 ∧
        st.session.queueHandle = created.reply.out) :
    QueueField queue spec (attachRule env spec filter descriptor t).1 := by
  have hselector := h.selector_eq
  have hsession : (warnNotifySuppress spec
      (filterRule env st spec index).2).queueHandle =
        st.session.queueHandle :=
    ((filterRule_extends env st spec index).trans
      (warnNotifySuppress_extends spec _)).queueHandle
  have hfive (hrewrite : resolvedSelector spec = kActionRewrite) :=
    (h.enforcing (hselector.trans hrewrite)).1.disposition
  refine ⟨hselector, ?_, fun hsel => hfive (hselector.symm.trans hsel), ?_,
    ?_⟩
  · intro hsel
    have hqueued := hselector.symm.trans hsel
    obtain ⟨created, hmem, hok, hne, hhandle⟩ := hqueue hqueued
    refine ⟨created, hmem, hok, hne, ?_⟩
    rcases describeRule_cases h.described with
      ⟨hrewrite, _⟩ | ⟨hseven, _⟩ | ⟨_, _, _, _, hdescriptor⟩
    · rw [hqueued] at hrewrite
      cases hrewrite
    · rw [hqueued] at hseven
      cases hseven
    · rw [attachRule_frame, hdescriptor]
      dsimp only
      rw [if_pos hqueued, hsession, hhandle]
  · intro hsel
    have hchained := hselector.symm.trans hsel
    rcases describeRule_cases h.described with
      ⟨hrewrite, _⟩ | ⟨_, _, hdescriptor, _⟩ | ⟨_, hnot, _⟩
    · rw [hchained] at hrewrite
      cases hrewrite
    · rw [attachRule_frame, hdescriptor]
      unfold subruleDescriptor
      split
      · exact .inl ⟨rfl, rfl⟩
      · exact .inr ⟨_, rfl, rfl⟩
    · exact absurd hchained hnot
  · intro hone hrewrite hseven
    rw [hselector] at hone hrewrite hseven
    rcases describeRule_cases h.described with
      ⟨hyes, _⟩ | ⟨hyes, _⟩ | ⟨_, _, _, _, hdescriptor⟩
    · exact absurd hyes hrewrite
    · exact absurd hyes hseven
    · rw [attachRule_frame, hdescriptor]
      dsimp only
      rw [if_neg hone]

end

/-! ## The calls for a queue -/

def createsQueue : Call → Bool
  | .createEventQueue _ => true
  | _ => false

/-- Between the two sessions `queue` is the only call for a queue. -/
def QueueCalls (queue : Option Event) (s t : Session) : Prop :=
  ∃ new, t.log = s.log ++ new ∧
    new.filter (fun e => createsQueue e.call) = queue.toList

section

variable {queue : Option Event} {s t u : Session}

theorem filter_createsQueue {new : List Event}
    (h : ∀ e ∈ new, createsQueue e.call = false) :
    new.filter (fun e => createsQueue e.call) = [] := by
  rw [List.filter_eq_nil_iff]
  intro e he hcreates
  rw [h e he] at hcreates
  cases hcreates

theorem QueueCalls.after (h : QueueCalls queue s t)
    (hspares : Calls (fun call => createsQueue call = false) t u) :
    QueueCalls queue s u := by
  obtain ⟨new, hlog, hnew⟩ := h
  obtain ⟨new', hlog', hnew'⟩ := hspares
  refine ⟨new ++ new', ?_, ?_⟩
  · rw [hlog', hlog, List.append_assoc]
  · rw [List.filter_append, hnew, filter_createsQueue hnew',
      List.append_nil]

theorem QueueCalls.before
    (hspares : Calls (fun call => createsQueue call = false) s t)
    (h : QueueCalls queue t u) : QueueCalls queue s u := by
  obtain ⟨new, hlog, hnew⟩ := hspares
  obtain ⟨new', hlog', hnew'⟩ := h
  refine ⟨new ++ new', ?_, ?_⟩
  · rw [hlog', hlog, List.append_assoc]
  · rw [List.filter_append, hnew', filter_createsQueue hnew,
      List.nil_append]

theorem createsQueue_of_connects {call : Call} (h : call.connects = true) :
    createsQueue call = false := by
  cases call <;> first | rfl | cases h

theorem createsQueue_of_installs {call : Call} (h : call.installs = true) :
    createsQueue call = false := by
  cases call <;> first | rfl | cases h

end

/-! ## Preparing a session -/

section

variable {env : Env} {document : RuleDocument} {s : Session}

theorem connect_client_ne_zero {client : ClientSpec}
    (h : (connect env client s).1 = true) :
    (connect env client s).2.clientHandle ≠ 0 := by
  have hcases := connect_registers env s client
  split at hcases
  · obtain ⟨r, -, -, heq⟩ := hcases
    obtain ⟨e, -, -, hok, hkept⟩ := adoptClient_slotStep env r
    rw [heq] at h ⊢
    split at h
    · rename_i hadopted
      rw [if_pos hadopted]
      rw [hadopted] at hok
      cases hreturned : Owned.client.returned e with
      | none =>
          rw [hreturned] at hok
          cases hok
      | some handle =>
          have hhandle : (adoptClient env r).2.clientHandle = handle := by
            rw [hreturned] at hkept
            exact List.head_eq_of_cons_eq hkept
          rw [hhandle]
          exact Owned.returned_ne_zero hreturned
    · cases h
  · rw [hcases.1] at h
    cases h

/-- The command's queue: it is asked for when the document needs one, and the
command goes on only with its handle. -/
theorem queueForDocument_queue (document : RuleDocument)
    (hresolved : env.available .createEventQueue = true)
    (hclient : s.clientHandle ≠ 0) :
    let queued := queueForDocument env document s
    ∃ queue : Option Event, QueueCalls queue s queued.2 ∧
      (queue.isSome ↔ documentNeedsQueue document = true) ∧
      (queued.1 = true → ∀ created ∈ queue,
        succeeded created.reply.result = true ∧ created.reply.out ≠ 0 ∧
          queued.2.queueHandle = created.reply.out) := by
  unfold queueForDocument
  by_cases hneeds : documentNeedsQueue document = true
  · rw [if_pos hneeds]
    obtain ⟨e, hcall, hlog, hvalue⟩ := adopt_event env "EspCreateEventQueue"
      (.createEventQueue s.clientHandle) s
    have heq : createQueue env s =
        let adopted := s.run (adopt env "EspCreateEventQueue"
          (.createEventQueue s.clientHandle))
        (adopted.1.isSome,
          { adopted.2 with queueHandle := adopted.1.getD 0 }) := by
      unfold createQueue
      dsimp only
      rw [require_run_of_available env s hresolved]
      rw [if_neg (by simpa using hclient)]
    rw [heq]
    refine ⟨some e, ⟨[e], hlog, ?_⟩, by simp [hneeds], ?_⟩
    · rw [List.filter_cons_of_pos (by rw [hcall]; rfl)]
      rfl
    · intro hok created hmem
      cases hmem
      dsimp only at hok ⊢
      rw [hvalue] at hok ⊢
      split at hok
      · rename_i hdone
        exact ⟨hdone.1, hdone.2, by rw [if_pos hdone]; rfl⟩
      · cases hok
  · rw [if_neg hneeds]
    refine ⟨none, ⟨[], by simp, rfl⟩, by simp [hneeds], ?_⟩
    intro _ created hmem
    cases hmem

theorem removeAllRules_queueHandle (env : Env) (s : Session) :
    (removeAllRules env s).2.queueHandle = s.queueHandle := by
  unfold removeAllRules callExport
  dsimp only
  split
  · rfl
  · rfl

theorem openRulesSession_queue {options : Options}
    (hconnected : (connect env document.client s).1 = true)
    (hbypass : options.bypassEventtype = false)
    (hresolved : env.available .createEventQueue = true) :
    ∃ queue : Option Event,
      QueueCalls queue s
        (openedSession (openRulesSession env document options s)) ∧
      (queue.isSome ↔ documentNeedsQueue document = true) ∧
      ∀ opened, openRulesSession env document options s = .ok opened →
        ∀ created ∈ queue, succeeded created.reply.result = true ∧
          created.reply.out ≠ 0 ∧
          opened.queueHandle = created.reply.out := by
  let connected := connect env document.client s
  let compat := connected.2.setEnforceCompat options.enforceCompat
  obtain ⟨queue, hcalls, hneeded, hcreated⟩ :=
    queueForDocument_queue (s := compat) document hresolved
      (connect_client_ne_zero hconnected)
  let queued := queueForDocument env document compat
  let removed := removeAllRules env queued.2
  have hbefore : Calls (fun call => createsQueue call = false) s compat :=
    (connect_calls env document.client s).mono fun _ =>
      createsQueue_of_connects
  have hqueued : QueueCalls queue s queued.2 := hcalls.before hbefore
  have hremoved : QueueCalls queue s removed.2 :=
    hqueued.after (removeAllRules_calls env queued.2 fun _ => rfl)
  have hkept : removed.2.queueHandle = queued.2.queueHandle :=
    removeAllRules_queueHandle env queued.2
  have heq : openRulesSession env document options s =
      if !queued.1 then
        .error { prep := .failedQueue, session := queued.2 }
      else if !removed.1 then
        .error
          { prep := .failedRemoveRules
            errors := ["rules: EspRemoveAllRulesForClient failed on start"]
            session := removed.2 }
      else .ok removed.2 := by
    unfold openRulesSession bypassEventtype
    dsimp only
    rw [if_neg (by simp [hconnected]), hbypass, if_neg Bool.false_ne_true]
  refine ⟨queue, ?_, hneeded, ?_⟩
  · rw [heq]
    split
    · exact hqueued
    · split
      · exact hremoved
      · exact hremoved
  · intro opened hopened created hmem
    rw [heq] at hopened
    split at hopened
    · cases hopened
    · rename_i hok
      split at hopened
      · cases hopened
      · cases hopened
        rw [hkept]
        exact hcreated (by simpa using hok) created hmem

end

/-- On every way out of `PrepareRulesSession` on a connected session: one
call for a queue if some rule is queue-backed and none otherwise, and every
create call carries at +1112 what its selector asks for. -/
theorem prepareRulesSession_queue (env : Env) (document : RuleDocument)
    (options : Options) (s : Session)
    (hconnected : (connect env document.client s).1 = true)
    (hbypass : options.bypassEventtype = false)
    (hresolved : env.available .createEventQueue = true) :
    ∃ (calls : List Event) (queue : Option Event),
      (prepareRulesSession env document options s).session.log =
        s.log ++ calls ∧
      calls.filter (fun e => createsQueue e.call) = queue.toList ∧
      (queue.isSome ↔ ∃ spec ∈ document.rules,
        resolvedSelector spec = kActionQueueBacked) ∧
      ∀ e ∈ calls, ∀ descriptor, e.call = .createRule descriptor →
        ∃ i spec, document.rules[i]? = some spec ∧ e.tag = some i ∧
          QueueField queue spec descriptor := by
  obtain ⟨queue, ⟨opening, hopening, hqueue⟩, hneeded, hcreated⟩ :=
    openRulesSession_queue hconnected hbypass hresolved
  rw [documentNeedsQueue_iff] at hneeded
  obtain ⟨opening', hopening', hspares⟩ :=
    openRulesSession_sparesCreate env document options s
  have hsame : opening' = opening :=
    List.append_cancel_left (hopening'.symm.trans hopening)
  subst hsame
  have hnone (e : Event) (he : e ∈ opening') (descriptor : RuleDescriptor)
      (hcall : e.call = .createRule descriptor) : False := by
    have hspared := hspares e he
    rw [hcall] at hspared
    cases hspared
  unfold prepareRulesSession
  cases hopen : openRulesSession env document options s with
  | error prepared =>
      rw [hopen] at hopening
      exact ⟨opening', queue, hopening, hqueue, hneeded,
        fun e he descriptor hcall => (hnone e he descriptor hcall).elim⟩
  | ok opened =>
      rw [hopen] at hopening
      obtain ⟨installing, hinstalling, hinstalls⟩ :=
        (installRules_installs env document opened).calls
      refine ⟨opening' ++ installing, queue, ?_, ?_, hneeded, ?_⟩
      · exact hinstalling.trans
          (by rw [← List.append_assoc]; exact congrArg (· ++ installing) hopening)
      · rw [List.filter_append, hqueue, filter_createsQueue
          fun e he => createsQueue_of_installs (hinstalls e he),
          List.append_nil]
      · intro e he descriptor hcall
        rcases List.mem_append.mp he with he | he
        · exact (hnone e he descriptor hcall).elim
        · obtain ⟨before, after, hsplit⟩ := List.append_of_mem he
          obtain ⟨i, spec, rulesBefore, st, filter, carried, anchor, t,
            hspec, hinside, hreaches, hevent, -⟩ :=
            installRules_creates env document opened before e after
              (by rw [hinstalling, hsplit]) descriptor hcall
          rw [hevent] at hcall
          cases hcall
          refine ⟨i, spec, hspec, ?_, queueField_of_reaches hreaches ?_⟩
          · rw [hevent]
            exact hreaches.extends_.grows.1
          · intro hbacked
            obtain ⟨created, hmem⟩ := Option.isSome_iff_exists.mp
              (hneeded.mpr ⟨spec, List.mem_of_getElem? hspec, hbacked⟩)
            obtain ⟨hok, hne, hhandle⟩ := hcreated opened hopen created hmem
            exact ⟨created, hmem, hok, hne, hinside.queue.trans hhandle⟩

/-- A notifying and a denying rule: one queue, which the first carries. -/
def notifyAndDeny : RuleDocument :=
  { rules := [{ eventType := 1000, action := 1 },
      { eventType := 2000, actionName := "deny" }] }

theorem prepareRulesSession_queue_notifyAndDeny :
    (prepareRulesSession acceptingEnv notifyAndDeny {}
      (startedOn [])).prep = .ok ∧
    ∃ (calls : List Event) (queue : Option Event),
      (prepareRulesSession acceptingEnv notifyAndDeny {}
        (startedOn [])).session.log = calls ∧
      calls.filter (fun e => createsQueue e.call) = queue.toList ∧
      queue.isSome ∧
      ∀ e ∈ calls, ∀ descriptor, e.call = .createRule descriptor →
        ∃ i spec, notifyAndDeny.rules[i]? = some spec ∧ e.tag = some i ∧
          QueueField queue spec descriptor := by
  have hagrees := prepareRulesSession_queue acceptingEnv notifyAndDeny {}
    (startedOn []) (by decide) rfl rfl
  obtain ⟨calls, queue, hlog, hqueue, hneeded, hcreates⟩ := hagrees
  refine ⟨by decide, calls, queue, hlog, hqueue, ?_, hcreates⟩
  exact hneeded.mpr ⟨_, List.mem_cons_self, rfl⟩

end Esptool.Cli
