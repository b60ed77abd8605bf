import Mathlib.Algebra.Order.Group.Multiset
import Esptool.Lib.Interaction

/-!
# Custody of handles

A log opens handles and closes them.  Handle values may be issued again after
they were closed, and nothing is assumed about how they are chosen, so the
books are kept by counting: `Balanced log held` says that no stretch from the
start of the log closes a handle more often than it opens it, and that the
handles still open at its end are `held`; `Holds base log held` says so of
the events since `base`.

`Passes given m kept` is the triple for a computation on a journal: it takes
over the handles `given`, answers for `kept`, and files everything else in
the notes.  A frame is part of the definition.
-/

/-- How the events of a log act on handles. -/
structure Custody (Event Handle : Type) where
  opens : Event → Option Handle
  closes : Event → Option Handle

namespace Custody

variable {Event Handle : Type} [DecidableEq Handle]
variable (c : Custody Event Handle)

def opened (log : List Event) (handle : Handle) : ℕ :=
  (log.filterMap c.opens).count handle

def closed (log : List Event) (handle : Handle) : ℕ :=
  (log.filterMap c.closes).count handle

structure Balanced (log : List Event) (held : Multiset Handle) : Prop where
  sound : ∀ before, before <+: log → ∀ handle,
    c.closed before handle ≤ c.opened before handle
  balance : ∀ handle,
    c.opened log handle = c.closed log handle + held.count handle

variable {c}

theorem opened_append (log new : List Event) (handle : Handle) :
    c.opened (log ++ new) handle =
      c.opened log handle + c.opened new handle := by
  rw [opened, List.filterMap_append, List.count_append]
  rfl

theorem closed_append (log new : List Event) (handle : Handle) :
    c.closed (log ++ new) handle =
      c.closed log handle + c.closed new handle := by
  rw [closed, List.filterMap_append, List.count_append]
  rfl

theorem balanced_nil : c.Balanced [] 0 := by
  refine ⟨?_, fun handle => rfl⟩
  intro before hbefore handle
  rw [List.prefix_nil.mp hbefore]
  exact Nat.le_refl 0

theorem Balanced.settled {log : List Event} (h : c.Balanced log 0)
    (handle : Handle) : c.opened log handle = c.closed log handle := by
  rw [h.balance handle, Multiset.count_zero, Nat.add_zero]

/-- One more event: the books have to balance after it. -/
theorem Balanced.concat {log : List Event} {held held' : Multiset Handle}
    {e : Event} (h : c.Balanced log held)
    (hbalance : ∀ handle, c.opened [e] handle + held.count handle =
      c.closed [e] handle + held'.count handle) :
    c.Balanced (log ++ [e]) held' := by
  have hall : ∀ handle, c.opened (log ++ [e]) handle =
      c.closed (log ++ [e]) handle + held'.count handle := by
    intro handle
    have hlog := h.balance handle
    have hevent := hbalance handle
    rw [opened_append, closed_append]
    omega
  refine ⟨?_, hall⟩
  intro before hbefore handle
  rcases List.prefix_concat_iff.mp hbefore with heq | hbefore
  · have hlast := hall handle
    rw [heq]
    omega
  · exact h.sound before hbefore handle

/-! ## Handles that are not issued while they are open -/

variable (c) in
/-- No event opens a handle that is open. -/
def OpensFresh (log : List Event) : Prop :=
  ∀ k < log.length, ∀ e ∈ log[k]?, ∀ handle ∈ c.opens e,
    c.opened (log.take k) handle ≤ c.closed (log.take k) handle

instance (log : List Event) : Decidable (c.OpensFresh log) :=
  inferInstanceAs (Decidable (∀ k < log.length, ∀ e ∈ log[k]?,
    ∀ handle ∈ c.opens e,
      c.opened (log.take k) handle ≤ c.closed (log.take k) handle))

theorem OpensFresh.of_append {log log' : List Event}
    (h : c.OpensFresh log') (hbefore : log <+: log') : c.OpensFresh log := by
  obtain ⟨new, rfl⟩ := hbefore
  intro k hk e he handle hopen
  have hlt : k < (log ++ new).length := by
    rw [List.length_append]
    omega
  have hat := h k hlt e (by rwa [List.getElem?_append_left hk]) handle hopen
  rwa [List.take_append_of_le_length (Nat.le_of_lt hk)] at hat

theorem OpensFresh.not_mem {log : List Event} {e : Event}
    {held : Multiset Handle} {handle : Handle}
    (h : c.OpensFresh (log ++ [e])) (hbalanced : c.Balanced log held)
    (hopen : c.opens e = some handle) : handle ∉ held := by
  have hat := h log.length (by simp) e (by simp) handle hopen
  rw [List.take_left] at hat
  have hbalance := hbalanced.balance handle
  rw [← Multiset.count_eq_zero]
  omega

/-- A handle that is never issued while it is open is open once. -/
theorem OpensFresh.opened_le {log : List Event} (h : c.OpensFresh log)
    (handle : Handle) :
    c.opened log handle ≤ c.closed log handle + 1 := by
  induction log using List.reverseRecOn with
  | nil => exact Nat.zero_le _
  | append_singleton log e ih =>
      have hbefore := ih (h.of_append (List.prefix_append log [e]))
      rw [opened_append, closed_append]
      by_cases hopen : c.opens e = some handle
      · have hat := h log.length (by simp) e (by simp) handle hopen
        rw [List.take_left] at hat
        have hone : c.opened [e] handle ≤ 1 :=
          List.count_le_length.trans (List.length_filterMap_le _ _)
        omega
      · have hnone : c.opened [e] handle = 0 := by
          rw [opened, List.count_eq_zero]
          simpa using hopen
        omega

theorem Balanced.nodup {log : List Event} {held : Multiset Handle}
    (h : c.Balanced log held) (hfresh : c.OpensFresh log) : held.Nodup := by
  rw [Multiset.nodup_iff_count_le_one]
  intro handle
  have hbalance := h.balance handle
  have hopened := hfresh.opened_le handle
  omega

theorem Balanced.mem_of_open {log : List Event} {held : Multiset Handle}
    {handle : Handle} (h : c.Balanced log held)
    (hopen : c.closed log handle < c.opened log handle) :
    handle ∈ held := by
  have hbalance := h.balance handle
  rw [← Multiset.count_pos]
  omega

/-! ## The events since a point of the log -/

variable (c) in
def Holds (base log : List Event) (held : Multiset Handle) : Prop :=
  ∃ new, log = base ++ new ∧ c.Balanced new held

section

variable {base log new : List Event} {held held' : Multiset Handle}

theorem Holds.refl (base : List Event) : c.Holds base base 0 := by
  have hlog : base = base ++ [] := (List.append_nil base).symm
  exact ⟨[], hlog, balanced_nil⟩

theorem holds_nil_iff : c.Holds [] log held ↔ c.Balanced log held := by
  constructor
  · rintro ⟨new, hlog, hnew⟩
    rw [hlog]
    exact hnew
  · exact fun h => ⟨log, rfl, h⟩

theorem Holds.concat {e : Event} (h : c.Holds base log held)
    (hbalance : ∀ handle, c.opened [e] handle + held.count handle =
      c.closed [e] handle + held'.count handle) :
    c.Holds base (log ++ [e]) held' := by
  obtain ⟨new, hlog, hnew⟩ := h
  refine ⟨new ++ [e], ?_, hnew.concat hbalance⟩
  rw [hlog, List.append_assoc]

theorem opened_singleton {e : Event} {handle : Handle}
    (hopen : c.opens e = some handle) (other : Handle) :
    c.opened [e] other = Multiset.count other {handle} := by
  have hfiled : [e].filterMap c.opens = [handle] := by
    rw [List.filterMap_cons_some hopen, List.filterMap_nil]
  calc
    c.opened [e] other = [handle].count other := by rw [opened, hfiled]
    _ = Multiset.count other {handle} := by
      rw [← Multiset.coe_count, Multiset.coe_singleton]

theorem closed_singleton {e : Event} {handle : Handle}
    (hclose : c.closes e = some handle) (other : Handle) :
    c.closed [e] other = Multiset.count other {handle} := by
  have hfiled : [e].filterMap c.closes = [handle] := by
    rw [List.filterMap_cons_some hclose, List.filterMap_nil]
  calc
    c.closed [e] other = [handle].count other := by rw [closed, hfiled]
    _ = Multiset.count other {handle} := by
      rw [← Multiset.coe_count, Multiset.coe_singleton]

theorem opened_none {e : Event} (hopen : c.opens e = none)
    (handle : Handle) : c.opened [e] handle = 0 := by
  rw [opened, List.filterMap_cons_none hopen]
  rfl

theorem closed_none {e : Event} (hclose : c.closes e = none)
    (handle : Handle) : c.closed [e] handle = 0 := by
  rw [closed, List.filterMap_cons_none hclose]
  rfl

theorem Holds.concat_open {e : Event} {handle : Handle}
    (h : c.Holds base log held) (hopen : c.opens e = some handle)
    (hclose : c.closes e = none) :
    c.Holds base (log ++ [e]) ({handle} + held) := by
  refine h.concat fun other => ?_
  rw [opened_singleton hopen, closed_none hclose, Nat.zero_add,
    Multiset.count_add]

theorem Holds.concat_close {e : Event} {handle : Handle}
    (h : c.Holds base log ({handle} + held)) (hopen : c.opens e = none)
    (hclose : c.closes e = some handle) :
    c.Holds base (log ++ [e]) held := by
  refine h.concat fun other => ?_
  rw [opened_none hopen, closed_singleton hclose, Nat.zero_add,
    Multiset.count_add]

theorem Holds.concat_ignore {e : Event} (h : c.Holds base log held)
    (hopen : c.opens e = none) (hclose : c.closes e = none) :
    c.Holds base (log ++ [e]) held := by
  refine h.concat fun other => ?_
  rw [opened_none hopen, closed_none hclose]

/-- A block without openings closes handles that are held. -/
theorem Holds.append_closes
    (h : c.Holds base log (↑(new.filterMap c.closes) + held))
    (hopens : new.filterMap c.opens = []) :
    c.Holds base (log ++ new) held := by
  induction new generalizing log with
  | nil => simpa using h
  | cons e new ih =>
      have hopen : c.opens e = none :=
        List.filterMap_eq_nil_iff.mp hopens e (by simp)
      rw [List.filterMap_cons_none hopen] at hopens
      rw [List.append_cons]
      refine ih ?_ hopens
      cases hclose : c.closes e with
      | none =>
          rw [List.filterMap_cons_none hclose] at h
          exact h.concat_ignore hopen hclose
      | some handle =>
          rw [List.filterMap_cons_some hclose, ← Multiset.cons_coe,
            ← Multiset.singleton_add, add_assoc] at h
          exact h.concat_close hopen hclose

/-- A block without closings opens handles that are held after it. -/
theorem Holds.append_opens (h : c.Holds base log held)
    (hcloses : ∀ e ∈ new, c.closes e = none) :
    c.Holds base (log ++ new) (↑(new.filterMap c.opens) + held) := by
  induction new using List.reverseRecOn with
  | nil => simpa using h
  | append_singleton new e ih =>
      have hbefore := ih fun e' he' => hcloses e' (by simp [he'])
      have hclose := hcloses e (by simp)
      rw [← List.append_assoc]
      cases hopen : c.opens e with
      | none =>
          rw [List.filterMap_append, List.filterMap_cons_none hopen,
            List.filterMap_nil, List.append_nil]
          exact hbefore.concat_ignore hopen hclose
      | some handle =>
          have hafter := hbefore.concat_open hopen hclose
          rw [List.filterMap_append, List.filterMap_cons_some hopen,
            List.filterMap_nil, ← Multiset.coe_add, Multiset.coe_singleton,
            add_comm (Multiset.ofList _) {handle}, add_assoc]
          exact hafter

theorem Holds.append_ignored (h : c.Holds base log held)
    (hopens : new.filterMap c.opens = [])
    (hcloses : new.filterMap c.closes = []) :
    c.Holds base (log ++ new) held := by
  refine Holds.append_closes ?_ hopens
  rw [hcloses, Multiset.coe_nil, zero_add]
  exact h

end

/-! ## Computations on a journal -/

section

open Interaction

variable {Tag Call Reply Notes α β : Type}
variable (c : Custody (Interaction.Event Tag Call Reply) Handle)
variable (stored : Notes → Multiset Handle)

/-- The handles `given` go into the computation, `kept` come out of it, and
the rest of what it opens is closed or stored. -/
def Passes (given : Multiset Handle)
    (m : StateM (Journal Tag Call Reply Notes) α)
    (kept : α → Multiset Handle) : Prop :=
  ∀ base frame j,
    c.Holds base j.log (given + (frame + stored j.notes)) →
    c.Holds base (m j).2.log
      (kept (m j).1 + (frame + stored (m j).2.notes))

variable {c stored} {given extra : Multiset Handle}
variable {m m' : StateM (Journal Tag Call Reply Notes) α}
variable {f : α → StateM (Journal Tag Call Reply Notes) β}
variable {kept kept₁ : α → Multiset Handle} {kept₂ : β → Multiset Handle}

theorem Passes.pure {a : α} (h : kept a = given) :
    Passes c stored given (pure a) kept := by
  intro base frame j hholds
  rw [pure_run, h]
  exact hholds

theorem Passes.bind (hm : Passes c stored given m kept₁)
    (hf : ∀ a, Passes c stored (kept₁ a) (f a) kept₂) :
    Passes c stored given (m >>= f) kept₂ := by
  intro base frame j hholds
  have hfirst := hm base frame j hholds
  exact hf (m j).1 base frame (m j).2 hfirst

theorem Passes.ite {p : Prop} [Decidable p]
    (hm : p → Passes c stored given m kept)
    (hm' : ¬p → Passes c stored given m' kept) :
    Passes c stored given (if p then m else m') kept := by
  split
  · exact hm ‹_›
  · exact hm' ‹_›

/-- Handles that the computation does not know of stay where they are. -/
theorem Passes.frame (hm : Passes c stored given m kept)
    (extra : Multiset Handle) :
    Passes c stored (given + extra) m fun a => kept a + extra := by
  intro base frame j hholds
  rw [add_assoc, ← add_assoc extra] at hholds
  have hafter := hm base (extra + frame) j hholds
  rw [add_assoc, ← add_assoc extra]
  exact hafter

theorem Passes.rename {given' : Multiset Handle}
    {kept' : α → Multiset Handle} (hm : Passes c stored given m kept)
    (hgiven : given' = given) (hkept : ∀ a, kept' a = kept a) :
    Passes c stored given' m kept' := by
  intro base frame j hholds
  rw [hgiven] at hholds
  rw [hkept]
  exact hm base frame j hholds

end

end Custody
