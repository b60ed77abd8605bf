import Esptool.ClientCommands

/-!
# What the operations do to the handles of a kind

An operation leaves the handles of most kinds alone, and the books of every
kind go through a whole command: what the session holds at a point is what was
handed out up to there and not taken back.
-/

namespace Esptool.Esp

open Model Interaction Custody

/-! ## Calls that no handle depends on -/

/-- The calls that neither hand out nor take back a handle of any kind. -/
def Call.neutral (call : Call) : Bool :=
  Owned.all.all fun kind => !kind.opens call && (kind.closedBy call).isNone

theorem Owned.mem_all (kind : Owned) : kind ∈ Owned.all := by
  cases kind <;> decide

theorem Owned.ignores_of_neutral {call : Call} (h : call.neutral = true)
    (kind : Owned) : kind.Ignores call := by
  have hkind := List.all_eq_true.mp h kind kind.mem_all
  rw [Bool.and_eq_true, Bool.not_eq_true', Option.isNone_iff_eq_none] at hkind
  exact hkind

theorem Owned.ignores_of_closes {kind other : Owned} (hne : kind ≠ other)
    (handle : Handle) : kind.Ignores (other.close handle) := by
  refine ⟨?_, ?_⟩
  · cases kind <;> cases other <;> rfl
  · rw [Owned.closedBy_close, if_neg fun h => hne h.1.symm]

/-! ## Leaving a kind alone -/

/-- Nothing of the kind is handed out, taken back or moved. -/
structure Untouched (kind : Owned) (s t : Session) : Prop where
  calls : Calls kind.Ignores s t
  kept : kind.kept t = kind.kept s

/-- The journal side: the filters and the collections are kept in it. -/
structure JournalUntouched (kind : Owned) (j j' : Journal) : Prop where
  calls : ∃ new, j'.log = j.log ++ new ∧ ∀ e ∈ new, kind.Ignores e.call
  filters : kind = .filter → j'.notes.filters = j.notes.filters
  collections : kind = .collection →
    j'.notes.collections = j.notes.collections

def Skips (kind : Owned) {α : Type} (m : JournalM α) : Prop :=
  Within (JournalUntouched kind) m

section

variable {kind : Owned} {s t u : Session} {j j' : Journal}

theorem Untouched.refl (s : Session) : Untouched kind s s :=
  ⟨Calls.refl s, rfl⟩

theorem Untouched.trans (h : Untouched kind s t) (h' : Untouched kind t u) :
    Untouched kind s u := by
  have hkept := h'.kept.trans h.kept
  exact ⟨h.calls.trans h'.calls, hkept⟩

theorem JournalUntouched.refl (j : Journal) : JournalUntouched kind j j := by
  have hlog : j.log = j.log ++ [] := (List.append_nil j.log).symm
  exact ⟨⟨[], hlog, by simp⟩, fun _ => rfl, fun _ => rfl⟩

theorem JournalUntouched.trans {j'' : Journal}
    (h : JournalUntouched kind j j') (h' : JournalUntouched kind j' j'') :
    JournalUntouched kind j j'' := by
  obtain ⟨new, hlog, hnew⟩ := h.calls
  obtain ⟨new', hlog', hnew'⟩ := h'.calls
  refine ⟨⟨new ++ new', ?_, ?_⟩,
    fun hkind => (h'.filters hkind).trans (h.filters hkind),
    fun hkind => (h'.collections hkind).trans (h.collections hkind)⟩
  · rw [hlog', hlog, List.append_assoc]
  · exact List.forall_mem_append.mpr ⟨hnew, hnew'⟩

variable {α β : Type} {env : Env}

theorem Skips.pure (a : α) : Skips kind (pure a : JournalM α) :=
  Within.pure JournalUntouched.refl a

theorem Skips.bind {m : JournalM α} {f : α → JournalM β}
    (hm : Skips kind m) (hf : ∀ a, Skips kind (f a)) :
    Skips kind (m >>= f) :=
  Within.bind (fun _ _ _ h h' => h.trans h') hm hf

theorem Skips.ite {c : Prop} [Decidable c] {m m' : JournalM α}
    (hm : Skips kind m) (hm' : Skips kind m') :
    Skips kind (if c then m else m') :=
  Within.ite hm hm'

theorem Skips.forM {f : α → JournalM Unit} (hf : ∀ a, Skips kind (f a))
    (as : List α) : Skips kind (as.forM f) := by
  induction as with
  | nil => exact .pure ()
  | cons a as ih => exact .bind (hf a) fun _ => ih

theorem ask_skips {call : Call} (h : kind.Ignores call) :
    Skips kind (ask env.respond call) := by
  refine fun j => ⟨⟨[⟨j.tag, call, env.respond j.log call⟩], rfl, ?_⟩,
    fun _ => rfl, fun _ => rfl⟩
  intro e he
  rw [List.mem_singleton.mp he]
  exact h

theorem askNeutral_skips {call : Call} (h : call.neutral = true) :
    Skips kind (ask env.respond call) :=
  ask_skips (Owned.ignores_of_neutral h kind)

theorem warn_skips (message : String) : Skips kind (warn message) := by
  intro j
  have hlog : (warn message j).2.log = j.log ++ [] := by
    simp [warn, note_run]
  exact ⟨⟨[], hlog, by simp⟩, fun _ => rfl, fun _ => rfl⟩

theorem record_skips (step : String) (result : EspResult) :
    Skips kind (record step result) := by
  intro j
  have hlog : (record step result j).2.log = j.log ++ [] := by
    simp [record, note_run]
  exact ⟨⟨[], hlog, by simp⟩, fun _ => rfl, fun _ => rfl⟩

theorem require_skips (wanted : Export) : Skips kind (require env wanted) := by
  refine .ite (.pure _) (.bind (warn_skips _) fun _ => ?_)
  exact .pure _

theorem adopt_skips (step : String) {call : Call} (h : kind.Ignores call) :
    Skips kind (adopt env step call) := by
  refine .bind (ask_skips h) fun _ => ?_
  exact .bind (record_skips _ _) fun _ => .pure _

theorem closeOne_skips {closer : Export} {close : Handle → Call}
    (h : ∀ handle, kind.Ignores (close handle)) (handle : Handle) :
    Skips kind (closeOne env closer close handle) := by
  refine .ite (.bind (require_skips _) fun _ => ?_) (.pure _)
  refine .ite ?_ (.pure _)
  exact .bind (ask_skips (h handle)) fun _ => .pure _

theorem freeEspBuffer_skips (buffer : Handle) :
    Skips kind (freeEspBuffer env buffer) := by
  have hneutral : ∀ handle, kind.Ignores (.freeMemory handle) :=
    fun _ => Owned.ignores_of_neutral rfl kind
  exact closeOne_skips hneutral buffer

theorem pushCollection_skips (h : kind ≠ .collection) (collection : Handle) :
    Skips kind (pushCollection collection) := by
  intro j
  have hlog : (pushCollection collection j).2.log = j.log ++ [] := by
    simp [pushCollection, note_run]
  exact ⟨⟨[], hlog, by simp⟩, fun _ => rfl, fun hkind => absurd hkind h⟩

theorem Skips.untouched {m : JournalM α} (h : Skips kind m) (s : Session) :
    Untouched kind s (s.run m).2 := by
  obtain ⟨hcalls, hfilters, hcollections⟩ := h s.journal
  refine ⟨hcalls, ?_⟩
  cases kind with
  | filter => exact hfilters rfl
  | collection => exact hcollections rfl
  | _ => rfl

theorem warn_untouched (message : String) :
    Untouched kind s (s.warn message) :=
  (warn_skips message).untouched s

/-- A recorded call that no handle depends on. -/
theorem callExport_untouched (wanted : Export) (ready : Bool) {call : Call}
    (h : call.neutral = true) (s : Session) :
    Untouched kind s (callExport env wanted ready call s).2 := by
  have hlookup : Untouched kind s (s.run (require env wanted)).2 :=
    (require_skips wanted).untouched s
  unfold callExport
  dsimp only
  split
  · exact hlookup
  · refine hlookup.trans (Skips.untouched ?_ _)
    exact .bind (askNeutral_skips h) fun _ =>
      .bind (record_skips _ _) fun _ => .pure _

end

/-! ## The books of a kind -/

/-- Whatever else is open, the books balance after the operation as they did
before it. -/
structure KeepsHeld (kind : Owned) (s t : Session) : Prop where
  log : s.log <+: t.log
  holds : ∀ base others,
    kind.custody.Holds base s.log (kind.held s + others) →
    kind.custody.Holds base t.log (kind.held t + others)

/-- References are looked up by their value, so their books are kept only as
long as no reference is issued that is open. -/
def IssuesFresh (kind : Owned) (log : List Event) : Prop :=
  kind = .reference → kind.custody.OpensFresh log

structure KeepsBooks (kind : Owned) (s t : Session) : Prop where
  log : s.log <+: t.log
  balanced : IssuesFresh kind t.log →
    kind.custody.Balanced s.log (kind.held s) →
    kind.custody.Balanced t.log (kind.held t)

section

variable {kind : Owned} {s t u : Session} {env : Env}

theorem Calls.log_extends {P : Call → Prop} (h : Calls P s t) :
    s.log <+: t.log := by
  obtain ⟨new, hlog, -⟩ := h
  exact ⟨new, hlog.symm⟩

theorem Untouched.keepsHeld (h : Untouched kind s t) : KeepsHeld kind s t := by
  refine ⟨h.calls.log_extends, fun base others hholds => ?_⟩
  rw [Owned.held_of_kept h.kept]
  exact h.calls.holds hholds

theorem KeepsHeld.refl (s : Session) : KeepsHeld kind s s :=
  (Untouched.refl s).keepsHeld

theorem KeepsHeld.trans (h : KeepsHeld kind s t) (h' : KeepsHeld kind t u) :
    KeepsHeld kind s u := by
  refine ⟨h.log.trans h'.log, fun base others hholds => ?_⟩
  have hfirst := h.holds base others hholds
  exact h'.holds base others hfirst

theorem KeepsHeld.keepsBooks (h : KeepsHeld kind s t) :
    KeepsBooks kind s t := by
  refine ⟨h.log, fun _ hbalanced => ?_⟩
  have hholds := h.holds [] 0 (by
    rw [add_zero]
    exact holds_nil_iff.mpr hbalanced)
  rw [add_zero] at hholds
  exact holds_nil_iff.mp hholds

theorem Untouched.keepsBooks (h : Untouched kind s t) :
    KeepsBooks kind s t :=
  h.keepsHeld.keepsBooks

theorem IssuesFresh.of_prefix {log log' : List Event}
    (h : IssuesFresh kind log') (hbefore : log <+: log') :
    IssuesFresh kind log :=
  fun hkind => (h hkind).of_append hbefore

theorem KeepsBooks.trans (h : KeepsBooks kind s t)
    (h' : KeepsBooks kind t u) : KeepsBooks kind s u := by
  refine ⟨h.log.trans h'.log, fun hfresh hbalanced => ?_⟩
  have hfirst := h.balanced (hfresh.of_prefix h'.log) hbalanced
  exact h'.balanced hfresh hfirst

/-- A step that adopts a handle into an empty slot. -/
theorem SlotStep.keepsHeld {adopts ok : Bool} (hlog : s.log <+: t.log)
    (h : SlotStep kind s adopts (ok, t))
    (hempty : adopts = true → kind.held s = 0) : KeepsHeld kind s t := by
  refine ⟨hlog, fun base others hholds => ?_⟩
  have hafter := h.holds hholds
  cases adopts with
  | false => rwa [if_neg Bool.false_ne_true, zero_add] at hafter
  | true => rwa [if_pos rfl, hempty rfl, zero_add] at hafter

theorem RefsHeld.of_balanced
    (hfresh : Owned.reference.custody.OpensFresh s.log)
    (h : Owned.reference.custody.Balanced s.log (Owned.reference.held s)) :
    RefsHeld s := by
  refine ⟨?_, ?_⟩
  · rw [refCustody_eq]
    exact h
  · exact Multiset.coe_nodup.mp (h.nodup hfresh)

theorem KeepsRefs.keepsBooks (h : KeepsRefs s t) :
    KeepsBooks .reference s t := by
  refine ⟨h.log, fun hfresh hbalanced => ?_⟩
  have hopens := hfresh rfl
  have hheld := h.held (by rwa [refCustody_eq])
    (.of_balanced (hopens.of_append h.log) hbalanced)
  have hafter := hheld.balanced
  rw [refCustody_eq] at hafter
  exact hafter

/-! ## Disconnect -/

theorem held_disconnect (env : Env) (kind : Owned) (s : Session) :
    kind.held (disconnect env s) = 0 := by
  have hreleased := disconnect_released env s
  have hkept : (kind.kept (disconnect env s)).filter (· != 0) = [] := by
    cases kind with
    | notification => simp [Owned.kept, hreleased.notification]
    | filter => simp [Owned.kept, hreleased.filters]
    | rule => simp [Owned.kept, hreleased.rules]
    | reference => simp [Owned.kept, hreleased.objectRefs]
    | collection => simp [Owned.kept, hreleased.collections]
    | queue => simp [Owned.kept, hreleased.queue]
    | client => simp [Owned.kept, hreleased.client]
  rw [Owned.held, hkept]
  rfl

theorem disconnect_keepsHeld (hclose : env.available kind.closer = true)
    (s : Session) : KeepsHeld kind s (disconnect env s) := by
  refine ⟨(disconnect_session_calls env s).log_extends, fun base others hholds => ?_⟩
  rw [held_disconnect, zero_add]
  exact disconnect_settled hclose hholds

/-- A session that held nothing and went through operations that keep the
books is settled by `Disconnect`. -/
theorem KeepsBooks.settles (h : KeepsBooks kind s t)
    (hclose : env.available kind.closer = true)
    (hfresh : IssuesFresh kind (disconnect env t).log)
    (hstart : kind.custody.Balanced s.log (kind.held s)) :
    kind.custody.Balanced (disconnect env t).log 0 := by
  have hend := (disconnect_keepsHeld hclose t).keepsBooks
  have hafter := (h.trans hend).balanced hfresh hstart
  rwa [held_disconnect] at hafter

end

/-! ## Clients, queues and notifications -/

section

variable {kind : Owned} (env : Env) (s : Session)

theorem Owned.client_opens_ignored {call : Call}
    (h : Owned.client.opens call = true) (hne : kind ≠ .client) :
    kind.Ignores call :=
  Owned.ignores_of_opens h hne

theorem Owned.ignores_of_connects {call : Call}
    (h : call.connects = true) (hne : kind ≠ .client) :
    kind.Ignores call := by
  cases call <;> first
    | exact Owned.ignores_of_neutral rfl kind
    | exact Owned.client_opens_ignored rfl hne
    | cases h

/-- What `Connect` changes. -/
theorem connect_frame (client : ClientSpec) :
    (connect env client s).2 =
      { s with
        registeredThisSession :=
          (connect env client s).2.registeredThisSession
        clientHandle := (connect env client s).2.clientHandle
        clientId := (connect env client s).2.clientId
        journal := (connect env client s).2.journal } := by
  have hchosen (t : Session) := (chooseClientId_frame env client t).1
  have hreleased (t : Session) := (unregisterIfOwned_frame env t).1
  unfold connect
  dsimp only
  generalize (if client.name = "" then kDefaultClientName
    else client.name) = name
  split
  · rfl
  split
  · rw [hchosen]
    rfl
  split
  · rw [hchosen]
    rfl
  split
  · rw [hchosen]
    rfl
  · rw [hreleased, hchosen]
    rfl

theorem connect_untouched (client : ClientSpec) (hne : kind ≠ .client) :
    Untouched kind s (connect env client s).2 := by
  refine ⟨(connect_calls env client s).mono fun _ h =>
    Owned.ignores_of_connects h hne, ?_⟩
  have hquiet := connect_quiet env s client
  cases kind with
  | client => exact absurd rfl hne
  | filter => exact hquiet.filters
  | collection => exact hquiet.collections
  | _ =>
      rw [connect_frame]
      rfl

/-- A session without a client can connect. -/
theorem connect_keepsHeld (client : ClientSpec)
    (hempty : s.clientHandle = 0) :
    KeepsHeld kind s (connect env client s).2 := by
  by_cases hkind : kind = .client
  · subst hkind
    refine (connect_slotStep env s client).1.keepsHeld
      (connect_calls env client s).log_extends fun _ => ?_
    rw [Owned.held, Owned.kept, hempty]
    rfl
  · exact (connect_untouched env s client hkind).keepsHeld

/-- `CreateQueue` and `OpenQueue`: a lookup, a guard, and a queue adopted
into its slot. -/
theorem adoptQueue_keepsHeld (wanted : Export) (step : String) {call : Call}
    (hopens : Owned.queue.opens call = true) {t : Bool × Session}
    (ht : t = if !(s.run (require env wanted)).1 || s.clientHandle == 0 then
        (false, (s.run (require env wanted)).2)
      else
        let adopted := (s.run (require env wanted)).2.run
          (adopt env step call)
        (adopted.1.isSome,
          { adopted.2 with queueHandle := adopted.1.getD 0 }))
    (hempty : kind = .queue → s.queueHandle = 0) : KeepsHeld kind s t.2 := by
  have hlookup (kind : Owned) :
      Untouched kind s (s.run (require env wanted)).2 :=
    (require_skips wanted).untouched s
  have hadopted (kind : Owned) (hne : kind ≠ .queue) :
      Untouched kind (s.run (require env wanted)).2
        ((s.run (require env wanted)).2.run (adopt env step call)).2 :=
    (adopt_skips step (Owned.ignores_of_opens hopens hne)).untouched _
  by_cases hkind : kind = .queue
  · subst hkind
    have hprefix : s.log <+: t.2.log := by
      have hlooked := (hlookup .client).calls.log_extends
      rw [ht]
      split
      · exact hlooked
      · exact hlooked.trans
          (hadopted .client (by decide)).calls.log_extends
    refine (queue_slotStep env s wanted step call hopens ht).1.keepsHeld
      hprefix fun _ => ?_
    rw [Owned.held, Owned.kept, hempty rfl]
    rfl
  · refine Untouched.keepsHeld ?_
    rw [ht]
    split
    · exact hlookup kind
    · refine (hlookup kind).trans ⟨(hadopted kind hkind).calls, ?_⟩
      cases kind with
      | queue => exact absurd rfl hkind
      | filter => exact (hadopted .filter hkind).kept
      | collection => exact (hadopted .collection hkind).kept
      | _ => rfl

theorem createQueue_keepsHeld (hempty : kind = .queue → s.queueHandle = 0) :
    KeepsHeld kind s (createQueue env s).2 :=
  adoptQueue_keepsHeld env s .createEventQueue "EspCreateEventQueue" rfl rfl
    hempty

theorem openQueue_keepsHeld (id : Guid)
    (hempty : kind = .queue → s.queueHandle = 0) :
    KeepsHeld kind s (openQueue env id s).2 :=
  adoptQueue_keepsHeld env s .openEventQueue "EspOpenEventQueue" rfl rfl
    hempty

/-- The allocation has no result code; its reply counts as a success. -/
def AllocatesAlways : Prop :=
  ∀ log, succeeded (env.respond log .allocateEventNotification).result = true

theorem allocateNotification_keepsHeld
    (halways : kind = .notification → AllocatesAlways env) :
    KeepsHeld kind s (allocateNotification env s) := by
  unfold allocateNotification
  by_cases hpresent : s.notification ≠ 0
  · rw [if_pos hpresent]
    exact .refl s
  have hnull : s.notification = 0 := not_not.mp hpresent
  rw [if_neg hpresent]
  let reply := env.respond s.log .allocateEventNotification
  let e : Event := ⟨s.journal.tag, .allocateEventNotification, reply⟩
  have hlog : (s.run (ask env.respond .allocateEventNotification)).2.log =
      s.log ++ [e] := rfl
  have hvalue : (s.run (ask env.respond
      .allocateEventNotification)).1.out = reply.out := rfl
  dsimp only
  rw [hvalue]
  by_cases hkind : kind = .notification
  · subst hkind
    have hempty : Owned.notification.held s = 0 := by
      rw [Owned.held, Owned.kept, hnull]
      rfl
    have hclose : Owned.notification.custody.closes e = none := rfl
    split
    · rename_i hrefused
      have hopen : Owned.notification.custody.opens e = none :=
        if_neg fun h => h.2.2 hrefused
      refine ⟨⟨[e], hlog.symm⟩, fun base others hholds => ?_⟩
      exact hholds.concat_ignore hopen hclose
    · rename_i hne
      have hopen : Owned.notification.custody.opens e = some reply.out :=
        if_pos ⟨rfl, halways rfl s.log, hne⟩
      refine ⟨⟨[e], hlog.symm⟩, fun base others hholds => ?_⟩
      rw [hempty, zero_add] at hholds
      have hafter := hholds.concat_open hopen hclose
      have hheld : Owned.notification.held
          ({ (s.run (ask env.respond .allocateEventNotification)).2 with
            notification := reply.out }.run
              (record "EspAllocateEventNotification" kOk)).2 =
          {reply.out} := by
        change (↑([reply.out].filter (· != 0)) : Multiset Handle) = _
        rw [List.filter_cons_of_pos (by simpa using hne)]
        rfl
      rw [hheld]
      exact hafter
  · have hasked : Untouched kind s
        (s.run (ask env.respond .allocateEventNotification)).2 := by
      refine (ask_skips ?_).untouched s
      exact Owned.ignores_of_opens (h := rfl) hkind
    refine Untouched.keepsHeld ?_
    split
    · exact hasked.trans ((record_skips _ _).untouched _)
    · refine Untouched.trans (t := { (s.run (ask env.respond
        .allocateEventNotification)).2 with notification := reply.out })
        ⟨hasked.calls, ?_⟩ ((record_skips _ _).untouched _)
      cases kind with
      | notification => exact absurd rfl hkind
      | _ => rfl

theorem armNotification_keepsHeld
    (halways : kind = .notification → AllocatesAlways env) :
    KeepsHeld kind s (armNotification env s).2 := by
  have hlookup : Untouched kind s ((s.run
      (require env .allocateEventNotification)).2.run
        (require env .armEventNotification)).2 :=
    ((require_skips _).untouched s).trans ((require_skips _).untouched _)
  unfold armNotification
  dsimp only
  split
  · exact hlookup.keepsHeld
  have hallocated := hlookup.keepsHeld.trans
    (allocateNotification_keepsHeld env _ halways)
  split
  · exact hallocated
  · refine hallocated.trans (Untouched.keepsHeld (Skips.untouched ?_ _))
    refine .bind (askNeutral_skips rfl) fun reply => .bind ?_ fun _ => .pure _
    exact fun _ => ⟨⟨[], by simp [note_run], by simp⟩, fun _ => rfl,
      fun _ => rfl⟩

end

/-! ## Collections -/

section

variable {kind : Owned} {env : Env}

theorem exerciseExport_skips (wanted : Export) {call : Call}
    (h : call.neutral = true) : Skips kind (exerciseExport env wanted call) := by
  refine .bind (require_skips _) fun _ => .ite ?_ (.pure _)
  refine .bind (askNeutral_skips h) fun _ => ?_
  exact .bind (record_skips _ _) fun _ => .pure _

theorem enumerateCollectionEntries_skips (collection : Handle) :
    Skips kind (enumerateCollectionEntries env collection) :=
  .bind (exerciseExport_skips _ rfl) fun _ => freeEspBuffer_skips _

theorem adoptCollection_skips {α : Type} (hne : kind ≠ .collection)
    {step : String} {call : Call}
    (hopens : Owned.collection.opens call = true)
    {f : Option Handle → JournalM α} (hf : ∀ created, Skips kind (f created)) :
    Skips kind (adopt env step call >>= f) :=
  .bind (adopt_skips step (Owned.ignores_of_opens hopens hne)) hf

theorem createStringCollection_skips (hne : kind ≠ .collection)
    (client : Handle) (value : WString) :
    Skips kind (createStringCollection env client value) := by
  refine .bind (require_skips _) fun _ => .bind (require_skips _) fun _ =>
    .ite (.pure _) (adoptCollection_skips hne rfl fun created => ?_)
  cases created with
  | none => exact .pure _
  | some collection =>
      refine .bind (pushCollection_skips hne collection) fun _ =>
        .ite (.pure _) (.bind (askNeutral_skips rfl) fun _ => ?_)
      exact .bind (record_skips _ _) fun _ => .pure _

theorem createEntryCollection_skips (hne : kind ≠ .collection)
    (client : Handle) (type : ℕ) (entry : CollectionEntry) :
    Skips kind (createEntryCollection env client type entry) := by
  refine .bind (require_skips _) fun _ => .bind (require_skips _) fun _ =>
    .ite (.pure _) (adoptCollection_skips hne rfl fun created => ?_)
  cases created with
  | none => exact .pure _
  | some collection =>
      refine .bind (pushCollection_skips hne collection) fun _ =>
        .bind (askNeutral_skips rfl) fun _ => ?_
      exact .bind (record_skips _ _) fun _ => .pure _

theorem openNamedCollection_skips (hne : kind ≠ .collection)
    (client : Handle) (id : Guid) :
    Skips kind (openNamedCollection env client id) := by
  refine .bind (require_skips _) fun _ =>
    .ite (.pure _) (adoptCollection_skips hne rfl fun created => ?_)
  cases created with
  | none => exact .pure _
  | some collection =>
      exact .bind (pushCollection_skips hne collection) fun _ => .pure _

theorem createExercised_skips (hne : kind ≠ .collection) (client : Handle)
    (createType : ℕ) : Skips kind (createExercised env client createType) := by
  refine .ite ?_ (.ite ?_ ?_)
  · exact createEntryCollection_skips hne _ _ _
  · exact createEntryCollection_skips hne _ _ _
  · exact createStringCollection_skips hne _ _

theorem enumerateCollectionIds_skips (client : Handle) (lifetime : ℤ) :
    Skips kind (enumerateCollectionIds env client lifetime) := by
  refine .bind (require_skips _) fun _ => .ite (.pure _) (.ite ?_ ?_)
  · exact .bind (warn_skips _) fun _ => .pure _
  · refine .bind (askNeutral_skips rfl) fun _ => ?_
    refine .bind (record_skips _ _) fun _ => ?_
    exact .bind (freeEspBuffer_skips _) fun _ => .pure _

theorem collectionExerciseExtended_skips (hne : kind ≠ .collection)
    (client : Handle) (exercise : ExtendedExercise) :
    Skips kind (collectionExerciseExtended env client exercise) := by
  refine .bind (createExercised_skips hne client exercise.createType)
    fun created => ?_
  cases created with
  | none => exact .pure _
  | some collection =>
      refine .bind (exerciseExport_skips _ rfl) fun identified => ?_
      refine .bind (exerciseExport_skips _ rfl) fun _ => ?_
      refine .bind (enumerateCollectionEntries_skips _) fun _ => ?_
      refine .bind (.ite (enumerateCollectionIds_skips _ _) (.pure _))
        fun listed => ?_
      refine .bind (.ite ?_ (.pure _)) fun _ => .pure _
      exact .bind (openNamedCollection_skips hne client _) fun _ => .pure _

theorem collectionExercise_skips (hne : kind ≠ .collection)
    (client : Handle) : Skips kind (collectionExercise env client) := by
  refine .bind (require_skips _) fun _ => .ite ?_ (.pure _)
  refine .bind (createStringCollection_skips hne client _) fun created => ?_
  cases created with
  | none => exact .pure _
  | some collection =>
      refine .bind ?_ fun _ => .bind (ask_skips ?_) fun _ => ?_
      · exact .bind (enumerateCollectionEntries_skips collection) fun _ =>
          .bind (exerciseExport_skips _ rfl) fun _ =>
          .bind (exerciseExport_skips _ rfl) fun _ => .pure _
      · exact Owned.ignores_of_closes hne collection
      · refine .bind (record_skips _ _) fun _ => .bind ?_ fun _ => .pure _
        exact fun _ => ⟨⟨[], by simp [note_run], by simp⟩, fun _ => rfl,
          fun hkind => absurd hkind hne⟩

theorem exerciseCollectionsExtended_keepsHeld (exercise : ExtendedExercise)
    (s : Session) :
    KeepsHeld kind s (exerciseCollectionsExtended env exercise s).2 := by
  by_cases hkind : kind = .collection
  · subst hkind
    have hfiles : FilesCollections s.journal
        (exerciseCollectionsExtended env exercise s).2.journal :=
      collectionExerciseExtended_files s.clientHandle exercise s.journal
    refine ⟨?_, fun base others hholds => hfiles.holds hholds⟩
    obtain ⟨new, hlog, -⟩ := hfiles
    exact ⟨new, hlog.symm⟩
  · exact ((collectionExerciseExtended_skips hkind _ _).untouched s).keepsHeld

/-- The exercise drops the ledger, so nothing may be in it. -/
theorem exerciseCollections_keepsBooks
    (hclose : kind = .collection →
      env.available .closeCollection = true) {s : Session}
    (hempty : s.journal.notes.collections = []) :
    KeepsBooks kind s (exerciseCollections env s).2 := by
  by_cases hkind : kind = .collection
  · subst hkind
    have hskips : Skips .filter (collectionExercise env s.clientHandle) :=
      collectionExercise_skips (by decide) s.clientHandle
    have hlog : s.log <+: (exerciseCollections env s).2.log :=
      (hskips.untouched s).calls.log_extends
    refine ⟨hlog, fun _ hbalanced => ?_⟩
    have hledger : Ledger s.journal 0 := by
      refine ⟨?_, ?_⟩
      · rw [hempty]
        exact nofun
      · rw [add_zero]
        exact holds_nil_iff.mpr hbalanced
    have hnothing : heldCollections s.journal = 0 := by
      rw [heldCollections, hempty]
      rfl
    have hafter := (hledger.exercise (hclose rfl)).1.books
    rw [hnothing, ite_self, add_zero, add_zero] at hafter
    exact holds_nil_iff.mp hafter
  · exact ((collectionExercise_skips hkind _).untouched s).keepsBooks

end

/-! ## References and queries -/

section

variable {kind : Owned} {env : Env}

theorem unwrapReference_skips (reference : Handle) :
    Skips kind (unwrapReference env reference) := by
  refine .bind (require_skips _) fun _ => .ite (.pure _) ?_
  exact adopt_skips _ (Owned.ignores_of_neutral rfl kind)

theorem getEventObjectType_skips (view : Handle) :
    Skips kind (getEventObjectType env view) := by
  refine .bind (require_skips _) fun _ => .ite ?_ (.pure _)
  exact .bind (askNeutral_skips rfl) fun _ => record_skips _ _

theorem getEventObjectId_skips (view : Handle) :
    Skips kind (getEventObjectId env view) := by
  refine .bind (require_skips _) fun _ => .ite (.pure _) ?_
  refine .bind (askNeutral_skips rfl) fun _ => ?_
  exact .bind (record_skips _ _) fun _ => .pure _

theorem setEventObjectContextKey_skips (reference : Handle) :
    Skips kind (setEventObjectContextKey env reference) := by
  refine .bind (require_skips _) fun _ => .ite ?_ (.pure _)
  exact .bind (askNeutral_skips rfl) fun _ => record_skips _ _

theorem enumerateEventObjectContextKeys_skips (reference : Handle) :
    Skips kind (enumerateEventObjectContextKeys env reference) := by
  refine .bind (require_skips _) fun _ => .ite ?_ (.pure _)
  refine .bind (askNeutral_skips rfl) fun _ => ?_
  exact .bind (record_skips _ _) fun _ => freeEspBuffer_skips _

theorem isPropertySupported_skips (client : Handle) (name : String)
    (property : ℕ) :
    Skips kind (isPropertySupported env client name property) := by
  unfold isPropertySupported
  split
  · exact .pure _
  · exact .ite (.pure _) (.bind (require_skips _) fun _ => .ite
      (.bind (askNeutral_skips rfl) fun _ => record_skips _ _) (.pure _))

theorem queryKind_skips (client : Handle) (name : String) (view : Handle)
    (ids : List ℕ) : Skips kind (queryKind env client name view ids) := by
  unfold queryKind
  refine .ite (warn_skips _) ?_
  split
  · exact warn_skips _
  · exact .bind (require_skips _) fun _ => .ite (.ite (warn_skips _)
      (.bind (askNeutral_skips rfl) fun _ => .bind (record_skips _ _) fun _ =>
        freeEspBuffer_skips _)) (.pure _)

theorem queryProperties_skips (host : Cli.ClientHost) (client : Handle)
    (name : String) : Skips kind (host.queryProperties client name) := by
  refine .bind (require_skips _) fun _ => .ite ?_ (.pure _)
  refine .bind (askNeutral_skips rfl) fun _ => ?_
  exact .bind (record_skips _ _) fun _ => freeEspBuffer_skips _

theorem adoptReference_untouched (hne : kind ≠ .reference) (step : String)
    {call : Call} (hopens : Owned.reference.opens call = true)
    (s : Session) : Untouched kind s (adoptReference env step call s).2 := by
  have hadopted : Untouched kind s (s.run (adopt env step call)).2 :=
    (adopt_skips step (Owned.ignores_of_opens hopens hne)).untouched s
  unfold adoptReference
  dsimp only
  split
  · exact hadopted
  · refine ⟨hadopted.calls, ?_⟩
    cases kind with
    | reference => exact absurd rfl hne
    | filter => exact hadopted.kept
    | collection => exact hadopted.kept
    | _ => rfl

theorem createReference_untouched (hne : kind ≠ .reference) (name : String)
    (ready : Bool) (key : ReferenceKey) (out : Handle) (s : Session) :
    Untouched kind s (createReference env name ready key out s).2 := by
  have hlookup : Untouched kind s
      (s.run (require env (.createReference name))).2 :=
    (require_skips _).untouched s
  unfold createReference
  dsimp only
  split
  · exact hlookup
  · exact hlookup.trans (adoptReference_untouched hne name rfl _)

theorem ReferenceRequest.create_untouched (hne : kind ≠ .reference)
    (request : ReferenceRequest) (out : Handle) (s : Session) :
    Untouched kind s (request.create env out s).2 := by
  cases request <;> exact createReference_untouched hne _ _ _ out s

theorem duplicateReference_untouched (hne : kind ≠ .reference)
    (reference out : Handle) (s : Session) :
    Untouched kind s (duplicateReference env reference out s).2 := by
  have hlookup : Untouched kind s
      (s.run (require env .duplicateEventObjectReference)).2 :=
    (require_skips _).untouched s
  unfold duplicateReference
  dsimp only
  split
  · exact hlookup
  · exact hlookup.trans (adoptReference_untouched hne _ rfl _)

theorem closeReference_untouched (hne : kind ≠ .reference)
    (reference : Handle) (s : Session) :
    Untouched kind s (closeReference env reference s) := by
  have hclosed : Untouched kind s (s.run (closeOne env
      .closeEventObjectReference .closeEventObjectReference reference)).2 :=
    (closeOne_skips (fun handle => Owned.ignores_of_closes hne handle)
      reference).untouched s
  refine ⟨hclosed.calls, ?_⟩
  cases kind with
  | reference => exact absurd rfl hne
  | filter => exact hclosed.kept
  | collection => exact hclosed.kept
  | _ => rfl

end

/-! ## A reference in use -/

/-- The session keeps its references, and this one with them. -/
structure KeepsRef (reference : Handle) (s t : Session) : Prop where
  keeps : KeepsRefs s t
  member : refCustody.OpensFresh t.log → RefsHeld s →
    reference ∈ s.objectRefs → reference ∈ t.objectRefs

section

variable {reference : Handle} {s t u : Session} {env : Env}

theorem KeepsRef.trans (h : KeepsRef reference s t)
    (h' : KeepsRef reference t u) : KeepsRef reference s u := by
  refine ⟨h.keeps.trans h'.keeps, fun hfresh hheld hmem => ?_⟩
  have hbefore := hfresh.of_append h'.keeps.log
  exact h'.member hfresh (h.keeps.held hbefore hheld)
    (h.member hbefore hheld hmem)

theorem Untouched.keepsRefs (h : Untouched .reference s t) :
    KeepsRefs s t := by
  have hrefs : t.objectRefs = s.objectRefs := h.kept
  refine ⟨h.calls.log_extends, fun _ hheld => ⟨?_, ?_⟩⟩
  · rw [hrefs, refCustody_eq]
    have hbalanced := hheld.balanced
    rw [refCustody_eq, ← holds_nil_iff] at hbalanced
    exact holds_nil_iff.mp (h.calls.holds hbalanced)
  · rw [hrefs]
    exact hheld.nodup

theorem Untouched.keepsRef (h : Untouched .reference s t) :
    KeepsRef reference s t := by
  have hrefs : t.objectRefs = s.objectRefs := h.kept
  refine ⟨h.keepsRefs, fun _ _ hmem => ?_⟩
  rwa [hrefs]

/-- A reference that was just created is another one than those before, so
closing it leaves them alone. -/
theorem closeCreated_keepsRef
    (hclose : env.available .closeEventObjectReference = true)
    {created : (Bool × Handle) × Session} (h : CreatesRef s created)
    (hok : created.1.1 = true) (hne : reference ≠ 0) :
    KeepsRef reference s (closeReference env created.1.2 created.2) := by
  have hrefs := h.refs
  rw [if_pos hok] at hrefs
  have hlast : created.1.2 ∈ created.2.objectRefs := by
    rw [hrefs]
    simp
  have hlog := closeReference_extends env created.1.2 created.2
  refine ⟨h.keeps.trans (closeReference_keepsRefs hclose fun _ _ => hlast),
    fun hfresh hheld hmem => ?_⟩
  have hcreated := h.keeps.held (hfresh.of_append hlog) hheld
  have hother : reference ≠ created.1.2 := by
    intro hsame
    have hnodup := hcreated.nodup
    rw [hrefs, liveRefs_concat (h.value hok)] at hnodup
    refine List.disjoint_of_nodup_append hnodup ?_
      (List.mem_singleton.mpr rfl)
    rw [← hsame, liveRefs, List.mem_filter]
    exact ⟨hmem, by simpa using hne⟩
  refine mem_close ?_ hother
  change reference ∈ created.2.objectRefs
  rw [hrefs]
  exact List.mem_append_left _ hmem

/-- At the end the reference itself is closed. -/
theorem KeepsRef.close
    (hclose : env.available .closeEventObjectReference = true)
    (h : KeepsRef reference s t) (hmem : reference ∈ s.objectRefs) :
    KeepsRefs s (closeReference env reference t) := by
  have hlog := closeReference_extends env reference t
  refine ⟨h.keeps.log.trans hlog, fun hfresh hheld => ?_⟩
  have hbefore := hfresh.of_append hlog
  exact (h.keeps.held hbefore hheld).closeReference hclose
    fun _ => h.member hbefore hheld hmem

end

end Esptool.Esp
