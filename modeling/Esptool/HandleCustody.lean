import Esptool.Lib.Custody
import Esptool.SessionRelease

/-!
# The handles that a session owns

A session owns handles of seven kinds.  A kind has the calls that hand one
out, the export that takes it back, and the place in the session where the
handle is kept until then.  `Disconnect` gives back what is kept in those
places, and nothing else.
-/

namespace Esptool.Esp

open Model Interaction Custody

inductive Owned
  | notification
  | filter
  | rule
  | reference
  | collection
  | queue
  | client
deriving DecidableEq, Repr

namespace Owned

/-- The calls that hand out a handle of the kind. -/
def opens : Owned → Call → Bool
  | notification, .allocateEventNotification => true
  | filter, .createTypedFilter .. => true
  | filter, .createBinaryFilter .. => true
  | filter, .createNotFilter _ => true
  | rule, .createRule _ => true
  | reference, .createReference .. => true
  | reference, .duplicateEventObjectReference _ => true
  | collection, .createCollection .. => true
  | collection, .openCollection .. => true
  | queue, .createEventQueue _ => true
  | queue, .openEventQueue .. => true
  | client, .connectClient _ => true
  | _, _ => false

def closer : Owned → Export
  | notification => .freeEventNotification
  | filter => .closeFilter
  | rule => .closeRule
  | reference => .closeEventObjectReference
  | collection => .closeCollection
  | queue => .closeEventQueue
  | client => .disconnectClient

def close : Owned → Handle → Call
  | notification => .freeEventNotification
  | filter => .closeFilter
  | rule => .closeRule
  | reference => .closeEventObjectReference
  | collection => .closeCollection
  | queue => .closeEventQueue
  | client => .disconnectClient

/-- The handle that a call takes back; a null one is none. -/
def closedBy (kind : Owned) (call : Call) : Option Handle :=
  match kind, call with
  | notification, .freeEventNotification handle => nonNull handle
  | filter, .closeFilter handle => nonNull handle
  | rule, .closeRule handle => nonNull handle
  | reference, .closeEventObjectReference handle => nonNull handle
  | collection, .closeCollection handle => nonNull handle
  | queue, .closeEventQueue handle => nonNull handle
  | client, .disconnectClient handle => nonNull handle
  | _, _ => none
where
  nonNull (handle : Handle) : Option Handle :=
    if handle ≠ 0 then some handle else none

/-- Where the session keeps the handles of the kind. -/
def kept (s : Session) : Owned → List Handle
  | notification => [s.notification]
  | filter => s.journal.notes.filters
  | rule => s.rules
  | reference => s.objectRefs
  | collection => s.journal.notes.collections
  | queue => [s.queueHandle]
  | client => [s.clientHandle]

def all : List Owned :=
  [notification, filter, rule, reference, collection, queue, client]

end Owned

/-- The handle that a call handed out. -/
def Owned.returned (kind : Owned) (e : Event) : Option Handle :=
  if kind.opens e.call ∧ succeeded e.reply.result ∧ e.reply.out ≠ 0 then
    some e.reply.out
  else none

def Owned.custody (kind : Owned) : Custody Event Handle :=
  ⟨kind.returned, fun e => kind.closedBy e.call⟩

/-- The handles that the session owns. -/
def Owned.held (kind : Owned) (s : Session) : Multiset Handle :=
  ↑((kind.kept s).filter (· != 0))

/-! ## Disconnect -/

section

variable (env : Env) (s : Session) (kind : Owned)

theorem releaseCalls_eq :
    releaseCalls env s = Owned.all.flatMap fun kind =>
      closeCalls env kind.closer kind.close (kind.kept s) := by
  simp only [Owned.all, List.flatMap_cons, List.flatMap_nil,
    List.append_nil]
  rfl

theorem Owned.closedBy_close (other : Owned) (handle : Handle) :
    kind.closedBy (other.close handle) =
      if other = kind ∧ handle ≠ 0 then some handle else none := by
  cases kind <;> cases other <;>
    simp [Owned.closedBy, Owned.close, Owned.closedBy.nonNull]

theorem filterMap_closeCalls_kind (other : Owned) :
    (closeCalls env other.closer other.close (other.kept s)).filterMap
        kind.closedBy =
      if other = kind ∧ env.available kind.closer = true then
        (kind.kept s).filter (· != 0)
      else [] := by
  by_cases hother : other = kind
  · subst hother
    cases havailable : env.available other.closer with
    | false =>
        rw [closeCalls, havailable, if_neg Bool.false_ne_true,
          if_neg fun h => Bool.false_ne_true h.2]
        rfl
    | true =>
        rw [if_pos ⟨rfl, rfl⟩]
        refine filterMap_closeCalls_some env other.closer other.close
          (other.kept s) havailable fun handle hne => ?_
        rw [Owned.closedBy_close, if_pos ⟨rfl, hne⟩]
  · rw [if_neg fun h => hother h.1]
    refine filterMap_closeCalls_none env other.closer other.close
      (other.kept s) fun handle => ?_
    rw [Owned.closedBy_close, if_neg fun h => hother h.1]

/-- Of each kind, `Disconnect` takes back what the session keeps. -/
theorem filterMap_releaseCalls :
    (releaseCalls env s).filterMap kind.closedBy =
      if env.available kind.closer = true then
        (kind.kept s).filter (· != 0)
      else [] := by
  rw [releaseCalls_eq]
  simp only [Owned.all, List.flatMap_cons, List.flatMap_nil,
    List.append_nil, List.filterMap_append, filterMap_closeCalls_kind]
  cases kind <;> simp

theorem Owned.opens_of_releases {call : Call} (h : call.releases = true) :
    kind.opens call = false := by
  cases kind <;> cases call <;> first | rfl | cases h

theorem Owned.returned_none {e : Event} (h : kind.opens e.call = false) :
    kind.returned e = none := by
  simp [Owned.returned, h]

theorem Owned.returned_ne_zero {kind : Owned} {e : Event} {handle : Handle}
    (h : kind.returned e = some handle) : handle ≠ 0 := by
  unfold Owned.returned at h
  split at h
  · rename_i hok
    cases h
    exact hok.2.2
  · cases h

/-- Events that neither hand out nor take back a handle of the kind. -/
theorem Owned.append_ignored {kind : Owned} {base log new : List Event}
    {held : Multiset Handle} (h : kind.custody.Holds base log held)
    (hopens : ∀ e ∈ new, kind.opens e.call = false)
    (hcloses : ∀ e ∈ new, kind.closedBy e.call = none) :
    kind.custody.Holds base (log ++ new) held := by
  refine h.append_ignored ?_ ?_
  · exact List.filterMap_eq_nil_iff.mpr fun e he =>
      kind.returned_none (hopens e he)
  · exact List.filterMap_eq_nil_iff.mpr hcloses

/-- After `Disconnect` nothing of a kind is open whose closer is there, save
what the session had lost before. -/
theorem disconnect_settled {env : Env} {s : Session} {kind : Owned}
    {base : List Event} {lost : Multiset Handle}
    (hclose : env.available kind.closer = true)
    (h : kind.custody.Holds base s.log (kind.held s + lost)) :
    kind.custody.Holds base (disconnect env s).log lost := by
  obtain ⟨⟨new, hlog, hnew⟩, -⟩ := disconnect_calls env s
  have hopens : ∀ e ∈ new, kind.opens e.call = false := by
    refine forall_disconnectCalls (P := fun call => kind.opens call = false)
      hnew (fun _ => kind.opens_of_releases) fun id => ?_
    cases kind <;> rfl
  have hcloses : new.filterMap kind.custody.closes =
      (kind.kept s).filter (· != 0) := by
    have hread : new.filterMap kind.custody.closes =
        (new.map Event.call).filterMap kind.closedBy := by
      rw [List.filterMap_map]
      rfl
    have hunregister :
        (unregisterCalls env s).filterMap kind.closedBy = [] := by
      unfold unregisterCalls
      split
      · cases kind <;> rfl
      · rfl
    rw [hread, hnew, List.filterMap_append, hunregister, List.append_nil,
      filterMap_releaseCalls, if_pos hclose]
  rw [hlog]
  refine Holds.append_closes ?_ ?_
  · rw [hcloses]
    exact h
  · exact List.filterMap_eq_nil_iff.mpr fun e he =>
      kind.returned_none (hopens e he)

end

end Esptool.Esp
