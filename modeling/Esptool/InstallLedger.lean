import Esptool.InstallRun
import Esptool.SessionRelease
import Mathlib.Data.List.Nodup
import Mathlib.Data.List.Perm.Subperm

/-!
# The verdict and the ledger of an install

What `InstallRules` returns and what it leaves in the rule ledger, in terms
of the calls it logged: which rules were created, which were armed by their
own update, and which were closed.
-/

namespace Esptool.Esp

open Model Interaction

def Session.since (t s : Session) : List Event :=
  t.log.drop s.log.length

theorem InstallRun.since_eq {canClose : Bool} {n : ℕ} {s t : Session}
    {status : InstallStatus} {new : List Event} {judged : List Judged}
    (h : InstallRun canClose n s t status new judged) : t.since s = new := by
  rw [Session.since, h.log, List.drop_left]

/-- The calls made for rule `i` created `rule`. -/
def CreatedFor (new : List Event) (i : ℕ) (rule : Handle) : Prop :=
  ∃ e ∈ new, e.tag = some i ∧ createdRule e = some rule

/-- An update of its own armed `rule` for rule `i`. -/
def AcceptedFor (new : List Event) (i : ℕ) (rule : Handle) : Prop :=
  ∃ e ∈ new, e.tag = some i ∧ acceptedRule e = some rule

theorem mem_filedUnder {read : Event → Option Handle} {new : List Event}
    {i : ℕ} {rule : Handle} :
    (some i, rule) ∈ new.filterMap (filedUnder read) ↔
      ∃ e ∈ new, e.tag = some i ∧ read e = some rule := by
  rw [List.mem_filterMap]
  constructor
  · rintro ⟨e, he, hfiled⟩
    obtain ⟨rule', hrule, heq⟩ := Option.map_eq_some_iff.mp hfiled
    rw [Prod.mk.injEq] at heq
    exact ⟨e, he, heq.1, hrule.trans (congrArg some heq.2)⟩
  · rintro ⟨e, he, htag, hrule⟩
    exact ⟨e, he, by rw [filedUnder, hrule, htag]; rfl⟩

section Verdict

variable {canClose : Bool} {n : ℕ} {s t : Session} {status : InstallStatus}
  {new : List Event} {judged : List Judged}

theorem InstallRun.createdFor_iff
    (h : InstallRun canClose n s t status new judged)
    {i : ℕ} {rule : Handle} :
    CreatedFor new i rule ↔
      ∃ v ∈ judged, v.1.origin = i ∧ v.1.rule = rule := by
  unfold CreatedFor
  rw [← mem_filedUnder, h.created, List.mem_map]
  simp

theorem InstallRun.acceptedFor_iff
    (h : InstallRun canClose n s t status new judged)
    {i : ℕ} {rule : Handle} :
    AcceptedFor new i rule ↔
      ∃ v ∈ judged, v.2 = true ∧ v.1.origin = i ∧ v.1.rule = rule := by
  unfold AcceptedFor
  rw [← mem_filedUnder, h.accepted, List.mem_map]
  simp [List.mem_filter, and_assoc]

theorem InstallRun.origins_nodup
    (h : InstallRun canClose n s t status new judged) :
    (judged.map fun v => v.1.origin).Nodup := by
  have hsorted := h.sorted
  rw [List.pairwise_map] at hsorted
  rw [List.Nodup, List.pairwise_map]
  exact hsorted.imp fun hlt => Nat.ne_of_lt hlt

theorem InstallRun.length_eq_iff
    (h : InstallRun canClose n s t status new judged) :
    judged.length = n ↔ ∀ i < n, ∃ v ∈ judged, v.1.origin = i := by
  have hsubset :
      (judged.map fun v => v.1.origin) ⊆ List.range n := by
    intro i hi
    obtain ⟨v, hv, rfl⟩ := List.mem_map.mp hi
    exact List.mem_range.mpr (h.bounded v hv)
  have hsubperm := h.origins_nodup.subperm hsubset
  constructor
  · intro hlength i hi
    have hperm := hsubperm.perm_of_length_le (by simp [hlength])
    have hmem := hperm.mem_iff.mpr (List.mem_range.mpr hi)
    exact List.mem_map.mp hmem
  · intro hall
    have hrange : List.range n ⊆ judged.map fun v => v.1.origin := by
      intro i hi
      exact List.mem_map.mpr (hall i (List.mem_range.mp hi))
    have hge := (List.nodup_range.subperm hrange).length_le
    have hle := hsubperm.length_le
    simp only [List.length_map, List.length_range] at hge hle
    omega

theorem armedRules_eq_nil_iff (judged : List Judged) :
    armedRules judged = [] ↔ ∀ v ∈ judged, v.2 = false := by
  simp [armedRules, List.filter_eq_nil_iff]

theorem refusedRules_eq_nil_iff (judged : List Judged) :
    refusedRules judged = [] ↔ ∀ v ∈ judged, v.2 = true := by
  simp [refusedRules, List.filter_eq_nil_iff]

theorem InstallRun.eq_of_origin
    (h : InstallRun canClose n s t status new judged) {v w : Judged}
    (hv : v ∈ judged) (hw : w ∈ judged)
    (horigin : v.1.origin = w.1.origin) : v = w :=
  List.inj_on_of_nodup_map h.origins_nodup hv hw horigin

theorem InstallRun.complete_iff
    (h : InstallRun canClose n s t status new judged) :
    status = .complete ↔
      n ≠ 0 ∧ ∀ i < n, ∃ rule, CreatedFor new i rule ∧
        AcceptedFor new i rule := by
  rw [h.status]
  unfold verdictOf
  constructor
  · intro hcomplete
    split at hcomplete
    · cases hcomplete
    · rename_i hsome
      split at hcomplete
      · rename_i hall
        obtain ⟨hlength, hrefused⟩ := hall
        rw [refusedRules_eq_nil_iff] at hrefused
        refine ⟨?_, fun i hi => ?_⟩
        · intro hzero
          rw [hzero, List.length_eq_zero_iff] at hlength
          rw [hlength] at hsome
          exact hsome rfl
        · obtain ⟨v, hv, horigin⟩ := h.length_eq_iff.mp hlength i hi
          exact ⟨v.1.rule, h.createdFor_iff.mpr ⟨v, hv, horigin, rfl⟩,
            h.acceptedFor_iff.mpr
              ⟨v, hv, hrefused v hv, horigin, rfl⟩⟩
      · cases hcomplete
  · rintro ⟨hn, hall⟩
    have haccepted : ∀ i < n, ∃ v ∈ judged, v.2 = true ∧
        v.1.origin = i := by
      intro i hi
      obtain ⟨rule, _, hrule⟩ := hall i hi
      obtain ⟨v, hv, hok, horigin, _⟩ := h.acceptedFor_iff.mp hrule
      exact ⟨v, hv, hok, horigin⟩
    have hlength : judged.length = n := by
      refine h.length_eq_iff.mpr fun i hi => ?_
      obtain ⟨v, hv, _, horigin⟩ := haccepted i hi
      exact ⟨v, hv, horigin⟩
    have hnone : refusedRules judged = [] := by
      rw [refusedRules_eq_nil_iff]
      intro v hv
      obtain ⟨w, hw, hok, horigin⟩ := haccepted _ (h.bounded v hv)
      rwa [h.eq_of_origin hv hw horigin.symm]
    have hsome : armedRules judged ≠ [] := by
      intro hempty
      rw [armedRules_eq_nil_iff] at hempty
      obtain ⟨v, hv, hok, _⟩ := haccepted 0 (Nat.pos_of_ne_zero hn)
      rw [hempty v hv] at hok
      cases hok
    rw [if_neg hsome, if_pos ⟨hlength, hnone⟩]

theorem InstallRun.acceptedRule_eq_none_iff
    (h : InstallRun canClose n s t status new judged) :
    (∀ e ∈ new, acceptedRule e = none) ↔
      ∀ e ∈ new, ∀ client entries, e.call = .updateRules client entries →
        succeeded e.reply.result = false := by
  constructor
  · intro hnone e he client entries hcall
    obtain ⟨entry, rfl⟩ := h.updates e he client entries hcall
    have hentry := hnone e he
    unfold acceptedRule at hentry
    rw [hcall] at hentry
    simpa using hentry
  · intro hfailed e he
    unfold acceptedRule
    split
    · rename_i client entry hcall
      rw [hfailed e he client [entry] hcall]
      rfl
    · rfl

theorem InstallRun.failed_iff
    (h : InstallRun canClose n s t status new judged) :
    status = .failed ↔
      ∀ e ∈ new, ∀ client entries, e.call = .updateRules client entries →
        succeeded e.reply.result = false := by
  have hverdict : status = .failed ↔ armedRules judged = [] := by
    rw [h.status]
    unfold verdictOf
    constructor
    · intro hfailed
      split at hfailed
      · assumption
      · split at hfailed
        · cases hfailed
        · cases hfailed
    · intro hnone
      rw [if_pos hnone]
  rw [hverdict, ← h.acceptedRule_eq_none_iff]
  have hlog : armedRules judged = [] ↔
      new.filterMap (filedUnder acceptedRule) = [] := by
    rw [h.accepted, armedRules, List.map_eq_nil_iff, List.map_eq_nil_iff]
  rw [hlog, List.filterMap_eq_nil_iff]
  simp [filedUnder]

end Verdict

/-- The verdict says what the calls of the install did. -/
theorem installRules_status (env : Env) (document : RuleDocument)
    (s : Session) :
    let result := installRules env document s
    let new := result.2.since s
    let allArmed := document.rules ≠ [] ∧
      ∀ i < document.rules.length, ∃ rule,
        CreatedFor new i rule ∧ AcceptedFor new i rule
    let noneArmed := ∀ e ∈ new, ∀ client entries,
      e.call = .updateRules client entries →
        succeeded e.reply.result = false
    (result.1 = .complete ↔ allArmed) ∧
      (result.1 = .failed ↔ noneArmed) ∧
      (result.1 = .partial_ ↔ ¬allArmed ∧ ¬noneArmed) := by
  intro result new allArmed noneArmed
  obtain ⟨new', judged, hrun⟩ := installRules_run env document s
  have hnew : new = new' := hrun.since_eq
  have hcomplete : result.1 = .complete ↔ allArmed := by
    have hiff := hrun.complete_iff
    rw [← hnew, Ne, List.length_eq_zero_iff] at hiff
    exact hiff
  have hfailed : result.1 = .failed ↔ noneArmed := by
    have hiff := hrun.failed_iff
    rw [← hnew] at hiff
    exact hiff
  refine ⟨hcomplete, hfailed, ?_⟩
  rw [← hcomplete, ← hfailed]
  cases result.1 with
  | failed => simp
  | partial_ => simp
  | complete => simp

/-! ## The rules a disconnect closes -/

/-- Wherever it is started, the computation closes exactly these rules, in
this order. -/
def Closes {α : Type} (m : JournalM α) (rules : List Handle) : Prop :=
  ∀ j, ∃ new, (m j).2.log = j.log ++ new ∧ new.filterMap closedRule = rules

/-- The rule that a call closes. -/
def closedByCall : Call → Option Handle
  | .closeRule rule => some rule
  | _ => none

theorem filterMap_closedRule {new : List Event} {calls : List Call}
    (h : new.map Event.call = calls) :
    new.filterMap closedRule = calls.filterMap closedByCall := by
  rw [← h, List.filterMap_map]
  rfl

theorem releaseHandles_closes {env : Env} {s : Session}
    (hclose : env.available .closeRule = true)
    (hrules : ∀ rule ∈ s.rules, rule ≠ 0) :
    Closes (releaseHandles env s) s.rules := by
  intro j
  obtain ⟨new, hlog, hnew⟩ := releaseHandles_makes env s j
  refine ⟨new, hlog, ?_⟩
  have hfilter : s.rules.filter (· != 0) = s.rules :=
    List.filter_eq_self.mpr fun rule hrule => by
      simpa using hrules rule hrule
  have hnone (closer : Export) (close : Handle → Call)
      (handles : List Handle) (h : ∀ handle, closedByCall (close handle) = none) :
      (closeCalls env closer close handles).filterMap closedByCall = [] :=
    filterMap_closeCalls_none env closer close handles h
  rw [filterMap_closedRule hnew]
  simp only [releaseCalls, List.filterMap_append]
  rw [filterMap_closeCalls_some env .closeRule .closeRule s.rules hclose
    fun _ _ => rfl, hfilter, hnone _ .freeEventNotification _ fun _ => rfl,
    hnone _ .closeFilter _ fun _ => rfl,
    hnone _ .closeEventObjectReference _ fun _ => rfl,
    hnone _ .closeCollection _ fun _ => rfl,
    hnone _ .closeEventQueue _ fun _ => rfl,
    hnone _ .disconnectClient _ fun _ => rfl]
  simp

theorem disconnect_closes {env : Env} {s : Session}
    (hclose : env.available .closeRule = true)
    (hrules : ∀ rule ∈ s.rules, rule ≠ 0) :
    ((disconnect env s).since s).filterMap closedRule = s.rules := by
  obtain ⟨new, hlog, hnew⟩ := releaseHandles_closes hclose hrules s.journal
  obtain ⟨-, new', hlog', hnew'⟩ :=
    unregisterIfOwned_frame env (releasedSession env s)
  have hmiddle : (releasedSession env s).log = s.log ++ new := hlog
  have hsince : (disconnect env s).since s = new ++ new' := by
    unfold Session.since
    rw [disconnect_eq, hlog', hmiddle, List.append_assoc]
    exact List.drop_left
  have hunregister : new'.filterMap closedRule = [] := by
    rw [filterMap_closedRule hnew', unregisterCalls]
    split
    · rfl
    · rfl
  rw [hsince, List.filterMap_append, hnew, hunregister, List.append_nil]

/-! ## The ledger -/

def acceptedAt (new : List Event) (i : ℕ) : Option Handle :=
  new.findSome? fun e => if e.tag = some i then acceptedRule e else none

theorem acceptedAt_eq_lookup (new : List Event) (i : ℕ) :
    acceptedAt new i =
      (new.filterMap (filedUnder acceptedRule)).lookup (some i) := by
  induction new with
  | nil => rfl
  | cons e rest ih =>
      unfold acceptedAt at ih ⊢
      rw [List.findSome?_cons, List.filterMap_cons, ih]
      cases hread : acceptedRule e with
      | none => simp [filedUnder, hread]
      | some rule =>
          by_cases htag : e.tag = some i
          · simp [filedUnder, hread, htag]
          · have hbeq : (some i == e.tag) = false :=
              beq_eq_false_iff_ne.mpr fun h => htag h.symm
            simp [filedUnder, hread, htag, hbeq, List.lookup_cons]

theorem lookup_map_some (xs : List (ℕ × Handle)) (i : ℕ) :
    (xs.map fun x => (some x.1, x.2)).lookup (some i) = xs.lookup i := by
  induction xs with
  | nil => rfl
  | cons x rest ih =>
      rw [List.map_cons, List.lookup_cons, List.lookup_cons, ih]
      rfl

theorem filterMap_eq_map_snd (read : Event → Option Handle)
    (new : List Event) :
    new.filterMap read =
      (new.filterMap (filedUnder read)).map Prod.snd := by
  rw [List.map_filterMap]
  apply List.filterMap_congr
  intro e _
  cases hread : read e with
  | none => simp [filedUnder, hread]
  | some rule => simp [filedUnder, hread]

section Ledger

variable {canClose : Bool} {n : ℕ} {s t : Session} {status : InstallStatus}
  {new : List Event} {judged : List Judged}

theorem InstallRun.createdRules
    (h : InstallRun canClose n s t status new judged) :
    new.filterMap createdRule = judged.map fun v => v.1.rule := by
  rw [filterMap_eq_map_snd, h.created, List.map_map]
  rfl

theorem InstallRun.acceptedRules
    (h : InstallRun canClose n s t status new judged) :
    new.filterMap acceptedRule = armedRules judged := by
  rw [filterMap_eq_map_snd, h.accepted, List.map_map]
  rfl

theorem InstallRun.armed_in_order
    (h : InstallRun canClose n s t status new judged) :
    (List.range n).filterMap (acceptedAt new) = armedRules judged := by
  let armed := (judged.filter fun v => v.2).map fun v =>
    (v.1.origin, v.1.rule)
  have hsorted : armed.Pairwise fun x y => x.1 < y.1 := by
    have hall := h.sorted
    rw [List.pairwise_map] at hall
    rw [List.pairwise_map]
    exact (hall.filter _).imp id
  have hbounded : ∀ x ∈ armed, 0 ≤ x.1 ∧ x.1 < 0 + n := by
    intro x hx
    obtain ⟨v, hv, rfl⟩ := List.mem_map.mp hx
    have hlt := h.bounded v (List.mem_filter.mp hv).1
    dsimp only
    omega
  have hlookup (i : ℕ) : acceptedAt new i = armed.lookup i := by
    rw [acceptedAt_eq_lookup, h.accepted, ← lookup_map_some, List.map_map]
    rfl
  rw [List.range_eq_range', List.filterMap_congr fun i _ => hlookup i,
    Loops.filterMap_range'_lookup n 0 armed hsorted hbounded, List.map_map]
  rfl

theorem mem_armedRules {rule : Handle} :
    rule ∈ armedRules judged ↔
      ∃ v ∈ judged, v.2 = true ∧ v.1.rule = rule := by
  simp [armedRules, List.mem_filter]

theorem mem_refusedRules {rule : Handle} :
    rule ∈ refusedRules judged ↔
      ∃ v ∈ judged, v.2 = false ∧ v.1.rule = rule := by
  simp [refusedRules, List.mem_filter]

theorem InstallRun.count_closed_of_refused
    (h : InstallRun true n s t status new judged)
    (hdistinct : (s.rules ++ new.filterMap createdRule).Nodup)
    {rule : Handle} (hcreated : rule ∈ new.filterMap createdRule)
    (hrefused : rule ∉ new.filterMap acceptedRule) :
    (new.filterMap closedRule).count rule = 1 := by
  rw [h.createdRules] at hcreated hdistinct
  rw [h.acceptedRules, mem_armedRules] at hrefused
  obtain ⟨v, hv, hrule⟩ := List.mem_map.mp hcreated
  have hmem : rule ∈ refusedRules judged := by
    refine mem_refusedRules.mpr ⟨v, hv, ?_, hrule⟩
    by_contra hok
    exact hrefused ⟨v, hv, by simpa using hok, hrule⟩
  have hnodup : (refusedRules judged).Nodup :=
    (List.filter_sublist.map _).nodup hdistinct.of_append_right
  rw [h.closed, if_pos rfl]
  exact List.count_eq_one_of_mem hnodup hmem

theorem InstallRun.count_closed_of_kept
    (h : InstallRun canClose n s t status new judged)
    (hdistinct : (s.rules ++ new.filterMap createdRule).Nodup)
    {rule : Handle}
    (hkept : rule ∈ s.rules ∨ rule ∈ new.filterMap acceptedRule) :
    (new.filterMap closedRule).count rule = 0 := by
  rw [h.createdRules] at hdistinct
  rw [h.acceptedRules, mem_armedRules] at hkept
  have hspared : rule ∉ refusedRules judged := by
    intro hmem
    obtain ⟨v, hv, hfalse, hrule⟩ := mem_refusedRules.mp hmem
    rcases hkept with hold | ⟨w, hw, htrue, hrule'⟩
    · exact (List.nodup_append.mp hdistinct).2.2 rule hold rule
        (List.mem_map.mpr ⟨v, hv, hrule⟩) rfl
    · have hsame : v = w :=
        List.inj_on_of_nodup_map hdistinct.of_append_right hv hw
          (hrule.trans hrule'.symm)
      rw [hsame, htrue] at hfalse
      cases hfalse
  rw [h.closed]
  cases canClose with
  | true => exact List.count_eq_zero_of_not_mem hspared
  | false => rfl

end Ledger

/-- After an install the ledger holds the older rules and then the armed
ones, and every other created rule is closed; a disconnect that follows
closes what is left. -/
theorem installRules_ledger (env : Env) (document : RuleDocument)
    (s : Session)
    (hclose : env.available .closeRule = true)
    (hrules : ∀ rule ∈ s.rules, rule ≠ 0)
    (hdistinct : (s.rules ++ ((installRules env document s).2.since
      s).filterMap createdRule).Nodup) :
    let t := (installRules env document s).2
    let new := t.since s
    t.rules = s.rules ++
        (List.range document.rules.length).filterMap (acceptedAt new) ∧
      (∀ rule ∈ t.rules, rule ≠ 0) ∧
      (∀ rule ∈ new.filterMap createdRule,
        rule ∉ new.filterMap acceptedRule →
          (new.filterMap closedRule).count rule = 1) ∧
      (∀ rule, rule ∈ s.rules ∨ rule ∈ new.filterMap acceptedRule →
        (new.filterMap closedRule).count rule = 0) ∧
      ∀ rule ∈ t.rules,
        (((disconnect env t).since t).filterMap closedRule).count rule =
          1 := by
  intro t new
  obtain ⟨new', judged, hrun⟩ := installRules_run env document s
  rw [hclose] at hrun
  have hnew : new = new' := hrun.since_eq
  have hdistinct' : (s.rules ++ new'.filterMap createdRule).Nodup := by
    rw [← hnew]
    exact hdistinct
  have hledger : t.rules = s.rules ++ armedRules judged := hrun.rules
  have harmed : ∀ rule ∈ armedRules judged, rule ≠ 0 := by
    intro rule hrule
    obtain ⟨v, hv, _, rfl⟩ := mem_armedRules.mp hrule
    exact hrun.nonzero v hv
  have hnonzero : ∀ rule ∈ t.rules, rule ≠ 0 := by
    intro rule hrule
    rw [hledger] at hrule
    rcases List.mem_append.mp hrule with hrule | hrule
    · exact hrules rule hrule
    · exact harmed rule hrule
  refine ⟨?_, hnonzero, ?_, ?_, ?_⟩
  · rw [hledger, hnew, hrun.armed_in_order]
  · rw [hnew]
    exact fun rule hcreated hrefused =>
      hrun.count_closed_of_refused hdistinct' hcreated hrefused
  · rw [hnew]
    exact fun rule hkept => hrun.count_closed_of_kept hdistinct' hkept
  · intro rule hrule
    rw [disconnect_closes hclose hnonzero]
    refine List.count_eq_one_of_mem ?_ hrule
    rw [hledger]
    rw [hrun.createdRules] at hdistinct'
    have hsublist : (armedRules judged).Sublist
        (judged.map fun v => v.1.rule) := List.filter_sublist.map _
    exact ((List.Sublist.refl s.rules).append hsublist).nodup hdistinct'

/-- A library that hands out handles by the length of the log and refuses to
arm the even ones. -/
def oddArmingEnv : Env where
  available _ := true
  respond log call :=
    match call with
    | .updateRules _ [entry] =>
        { result := if entry.rule % 2 = 0 then kFail else kOk }
    | _ => { result := kOk, out := log.length + 1 }
  expandFilterValue value := value.toList.map fun c => UInt16.ofNat c.toNat
  patchError _ := ""

def connectedSession : Session :=
  { clientHandle := 7, queueHandle := 8, rules := [50] }

def threeRules : RuleDocument :=
  { rules := [{ eventType := 2000 }, { eventType := 7002 },
      { eventType := 2001 }] }

theorem installRules_ledger_threeRules :
    (installRules oddArmingEnv threeRules connectedSession).2.rules =
        [50, 1, 3] ∧
      ∀ rule ∈ (installRules oddArmingEnv threeRules
          connectedSession).2.rules,
        (((disconnect oddArmingEnv
          (installRules oddArmingEnv threeRules connectedSession).2).since
          (installRules oddArmingEnv threeRules
            connectedSession).2).filterMap closedRule).count rule = 1 := by
  have hledger := installRules_ledger oddArmingEnv threeRules
    connectedSession (by decide) (by decide) (by decide)
  exact ⟨by decide, hledger.2.2.2.2⟩

end Esptool.Esp
