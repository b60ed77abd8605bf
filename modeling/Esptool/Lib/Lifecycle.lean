import Mathlib.Data.List.Basic
import Mathlib.Data.List.Induction
import Mathlib.Data.List.Nodup
import Mathlib.Data.Option.Defs

/-!
# Life cycles of handles on an append-only log

A log opens handles, submits them to be armed and closes them; a submission
may be granted or not, and an opening may refer to a parent handle.  Whether a handle is open, whether it is armed and which event
opened it last are read off the log from left to right.  A log whose events
never reopen a live handle, never close an armed one, and submit a handle
only over an armed parent keeps every armed handle grounded: its chain of parents
ends, and every handle on it is armed.
-/

/-- How the events of a log act on handles. -/
structure Lifecycle (Event Handle : Type) where
  opens : Event → Option Handle
  submits : Event → Option Handle
  grants : Event → Bool
  closes : Event → Option Handle
  parent : Event → Option Handle

namespace Lifecycle

variable {Event Handle : Type} [DecidableEq Handle]
variable (lc : Lifecycle Event Handle)

def arms (e : Event) : Option Handle :=
  if lc.grants e then lc.submits e else none

def liveStep (handle : Handle) (live : Bool) (e : Event) : Bool :=
  if lc.opens e = some handle then true
  else if lc.closes e = some handle then false
  else live

/-- Opened on the log and not closed since. -/
def live (log : List Event) (handle : Handle) : Bool :=
  log.foldl (lc.liveStep handle) false

def armedStep (handle : Handle) (armed : Bool) (e : Event) : Bool :=
  if lc.arms e = some handle then true
  else if lc.closes e = some handle ∨ lc.opens e = some handle then false
  else armed

/-- Armed on the log and neither closed nor opened anew since. -/
def armed (log : List Event) (handle : Handle) : Bool :=
  log.foldl (lc.armedStep handle) false

def openerStep (handle : Handle) (opener : Option Event) (e : Event) :
    Option Event :=
  if lc.opens e = some handle then some e else opener

def opener (log : List Event) (handle : Handle) : Option Event :=
  log.foldl (lc.openerStep handle) none

theorem live_concat (log : List Event) (e : Event) (handle : Handle) :
    lc.live (log ++ [e]) handle = lc.liveStep handle (lc.live log handle) e :=
  List.foldl_concat ..

theorem armed_concat (log : List Event) (e : Event) (handle : Handle) :
    lc.armed (log ++ [e]) handle =
      lc.armedStep handle (lc.armed log handle) e :=
  List.foldl_concat ..

theorem opener_concat (log : List Event) (e : Event) (handle : Handle) :
    lc.opener (log ++ [e]) handle =
      lc.openerStep handle (lc.opener log handle) e :=
  List.foldl_concat ..

/-- The event has no part in the life of the handle. -/
def Ignores (e : Event) (handle : Handle) : Prop :=
  lc.opens e ≠ some handle ∧ lc.arms e ≠ some handle ∧
    lc.closes e ≠ some handle

section Frame

variable {lc} {handle : Handle}

theorem Ignores.live_concat {e : Event} (h : lc.Ignores e handle)
    (log : List Event) : lc.live (log ++ [e]) handle = lc.live log handle := by
  rw [Lifecycle.live_concat, liveStep, if_neg h.1, if_neg h.2.2]

theorem Ignores.armed_concat {e : Event} (h : lc.Ignores e handle)
    (log : List Event) :
    lc.armed (log ++ [e]) handle = lc.armed log handle := by
  have hneither : ¬(lc.closes e = some handle ∨ lc.opens e = some handle) := by
    rintro (hclose | hopen)
    · exact h.2.2 hclose
    · exact h.1 hopen
  rw [Lifecycle.armed_concat, armedStep, if_neg h.2.1, if_neg hneither]

theorem Ignores.opener_concat {e : Event} (h : lc.Ignores e handle)
    (log : List Event) :
    lc.opener (log ++ [e]) handle = lc.opener log handle := by
  rw [Lifecycle.opener_concat, openerStep, if_neg h.1]

theorem live_append_of_ignores {new : List Event}
    (h : ∀ e ∈ new, lc.Ignores e handle) (log : List Event) :
    lc.live (log ++ new) handle = lc.live log handle := by
  induction new using List.reverseRecOn with
  | nil => rw [List.append_nil]
  | append_singleton new e ih =>
      rw [← List.append_assoc, (h e (by simp)).live_concat]
      exact ih fun e' he' => h e' (by simp [he'])

theorem armed_append_of_ignores {new : List Event}
    (h : ∀ e ∈ new, lc.Ignores e handle) (log : List Event) :
    lc.armed (log ++ new) handle = lc.armed log handle := by
  induction new using List.reverseRecOn with
  | nil => rw [List.append_nil]
  | append_singleton new e ih =>
      rw [← List.append_assoc, (h e (by simp)).armed_concat]
      exact ih fun e' he' => h e' (by simp [he'])

end Frame

/-! ## Sound logs -/

/-- No event opens a handle that is live. -/
def OpensFresh (log : List Event) : Prop :=
  ∀ k < log.length, ∀ e ∈ log[k]?, ∀ handle ∈ lc.opens e,
    lc.live (log.take k) handle = false

instance (log : List Event) : Decidable (lc.OpensFresh log) :=
  inferInstanceAs (Decidable (∀ k < log.length, ∀ e ∈ log[k]?,
    ∀ handle ∈ lc.opens e, lc.live (log.take k) handle = false))

/-- What one more event may do after the log. -/
structure StepSound (log : List Event) (e : Event) : Prop where
  fresh : ∀ handle, lc.opens e = some handle → lc.live log handle = false
  spares : ∀ handle, lc.closes e = some handle → lc.armed log handle = false
  opened : ∀ handle, lc.submits e = some handle → lc.live log handle = true
  anchored : ∀ handle, lc.submits e = some handle →
    ∀ o ∈ lc.opener log handle, ∀ parent ∈ lc.parent o,
      lc.armed log parent = true
  single : ∀ handle, lc.submits e = some handle →
    lc.opens e = none ∧ lc.closes e = none

/-- Every event of the log is a sound step after the events before it. -/
def Sound (log : List Event) : Prop :=
  ∀ before e after, log = before ++ e :: after → lc.StepSound before e

/-- Armed, over a chain of armed parents that ends. -/
inductive Grounded (log : List Event) : Handle → Prop
  | root {handle : Handle} (harmed : lc.armed log handle = true)
      (hparent : ∀ o ∈ lc.opener log handle, lc.parent o = none) :
      Grounded log handle
  | chained {handle parent : Handle} {o : Event}
      (harmed : lc.armed log handle = true)
      (hopener : lc.opener log handle = some o)
      (hparent : lc.parent o = some parent)
      (hgrounded : Grounded log parent) : Grounded log handle

variable {lc}

omit [DecidableEq Handle] in
theorem submits_of_arms {e : Event} {handle : Handle}
    (h : lc.arms e = some handle) : lc.submits e = some handle := by
  unfold arms at h
  split at h
  · exact h
  · cases h

theorem OpensFresh.before {log before after : List Event} {e : Event}
    (hfresh : lc.OpensFresh log) (hlog : log = before ++ e :: after)
    {handle : Handle} (hopen : lc.opens e = some handle) :
    lc.live before handle = false := by
  have hat := hfresh before.length (by simp [hlog]) e (by simp [hlog])
    handle hopen
  have htake : log.take before.length = before := by simp [hlog]
  rwa [htake] at hat

theorem OpensFresh.of_append {log new : List Event}
    (h : lc.OpensFresh (log ++ new)) : lc.OpensFresh log := by
  intro k hk e he handle hopen
  have hlt : k < (log ++ new).length := by
    rw [List.length_append]
    omega
  have hat := h k hlt e (by rwa [List.getElem?_append_left hk]) handle hopen
  rwa [List.take_append_of_le_length (Nat.le_of_lt hk)] at hat

theorem exists_opener_of_live {log : List Event} {handle : Handle}
    (h : lc.live log handle = true) :
    ∃ o, lc.opener log handle = some o ∧ o ∈ log ∧
      lc.opens o = some handle := by
  induction log using List.reverseRecOn with
  | nil => simp [live] at h
  | append_singleton log e ih =>
      rw [live_concat, liveStep] at h
      rw [opener_concat, openerStep]
      by_cases hopens : lc.opens e = some handle
      · rw [if_pos hopens]
        exact ⟨e, rfl, by simp, hopens⟩
      · rw [if_neg hopens] at h ⊢
        split at h
        · cases h
        · obtain ⟨o, ho, hmem, hopen⟩ := ih h
          exact ⟨o, ho, by simp [hmem], hopen⟩

theorem sound_nil : lc.Sound [] := by
  intro before e after h
  simp at h

theorem sound_concat_iff {log : List Event} {e : Event} :
    lc.Sound (log ++ [e]) ↔ lc.Sound log ∧ lc.StepSound log e := by
  constructor
  · intro h
    refine ⟨fun before e' after hlog => ?_, h log e [] rfl⟩
    exact h before e' (after ++ [e]) (by simp [hlog])
  · rintro ⟨hlog, hstep⟩ before e' after heq
    rcases List.eq_nil_or_concat after with rfl | ⟨after', last, rfl⟩
    · obtain ⟨rfl, hlast⟩ := List.append_inj' heq rfl
      cases hlast
      exact hstep
    · have heq' : log ++ [e] = (before ++ e' :: after') ++ [last] := by
        simpa using heq
      obtain ⟨rfl, _⟩ := List.append_inj' heq' rfl
      exact hlog before e' after' rfl

theorem Sound.live_of_armed {log : List Event} (hsound : lc.Sound log)
    {handle : Handle} (harmed : lc.armed log handle = true) :
    lc.live log handle = true := by
  induction log using List.reverseRecOn with
  | nil => simp [Lifecycle.armed] at harmed
  | append_singleton log e ih =>
      obtain ⟨hlog, hstep⟩ := sound_concat_iff.mp hsound
      rw [live_concat, liveStep]
      rw [armed_concat, armedStep] at harmed
      split at harmed
      · rename_i harms
        have hsubmits := submits_of_arms harms
        obtain ⟨hopens, hcloses⟩ := hstep.single handle hsubmits
        simp [hopens, hcloses, hstep.opened handle hsubmits]
      · split at harmed
        · cases harmed
        · rename_i hneither
          rw [not_or] at hneither
          rw [if_neg hneither.2, if_neg hneither.1]
          exact ih hlog harmed

theorem StepSound.preserves {log : List Event} {e : Event}
    (hsound : lc.Sound log) (hstep : lc.StepSound log e)
    {handle : Handle} (harmed : lc.armed log handle = true) :
    lc.armed (log ++ [e]) handle = true ∧
      lc.opener (log ++ [e]) handle = lc.opener log handle := by
  have hopens : lc.opens e ≠ some handle := by
    intro hopens
    have hdead := hstep.fresh handle hopens
    rw [hsound.live_of_armed harmed] at hdead
    cases hdead
  have hcloses : lc.closes e ≠ some handle := by
    intro hcloses
    rw [hstep.spares handle hcloses] at harmed
    cases harmed
  constructor
  · rw [armed_concat, armedStep]
    simp [hopens, hcloses, harmed]
  · rw [opener_concat, openerStep, if_neg hopens]

theorem Sound.armed_append {log new : List Event}
    (hsound : lc.Sound (log ++ new)) {handle : Handle}
    (harmed : lc.armed log handle = true) :
    lc.armed (log ++ new) handle = true := by
  induction new using List.reverseRecOn with
  | nil => rwa [List.append_nil]
  | append_singleton new e ih =>
      rw [← List.append_assoc] at hsound ⊢
      obtain ⟨hbefore, hstep⟩ := sound_concat_iff.mp hsound
      exact (hstep.preserves hbefore (ih hbefore)).1

theorem Grounded.concat {log : List Event} {e : Event}
    (hsound : lc.Sound log) (hstep : lc.StepSound log e)
    {handle : Handle} (h : lc.Grounded log handle) :
    lc.Grounded (log ++ [e]) handle := by
  induction h with
  | root harmed hparent =>
      obtain ⟨harmed', hopener⟩ := hstep.preserves hsound harmed
      exact .root harmed' (by rwa [hopener])
  | chained harmed hopener hparent _ ih =>
      obtain ⟨harmed', hopener'⟩ := hstep.preserves hsound harmed
      exact .chained harmed' (hopener'.trans hopener) hparent ih

/-- Every armed handle of a sound log is grounded. -/
theorem Sound.grounded {log : List Event} (hsound : lc.Sound log)
    {handle : Handle} (harmed : lc.armed log handle = true) :
    lc.Grounded log handle := by
  induction log using List.reverseRecOn generalizing handle with
  | nil => simp [Lifecycle.armed] at harmed
  | append_singleton log e ih =>
      obtain ⟨hlog, hstep⟩ := sound_concat_iff.mp hsound
      by_cases harms : lc.arms e = some handle
      · -- the handle is armed by the last event, over a parent armed before
        have hsubmits := submits_of_arms harms
        have hopener : lc.opener (log ++ [e]) handle =
            lc.opener log handle := by
          rw [opener_concat, openerStep]
          simp [(hstep.single handle hsubmits).1]
        by_cases hparent :
            ∃ o parent, lc.opener log handle = some o ∧
              lc.parent o = some parent
        · obtain ⟨o, parent, ho, hp⟩ := hparent
          have hbefore := hstep.anchored handle hsubmits o ho parent hp
          exact .chained harmed (hopener.trans ho) hp
            ((ih hlog hbefore).concat hlog hstep)
        · refine .root harmed fun o ho => ?_
          rw [hopener] at ho
          by_contra hp
          obtain ⟨parent, hp⟩ := Option.ne_none_iff_exists'.mp hp
          exact hparent ⟨o, parent, ho, hp⟩
      · -- otherwise it was armed before
        rw [armed_concat, armedStep, if_neg harms] at harmed
        split at harmed
        · cases harmed
        · exact (ih hlog harmed).concat hlog hstep

/-! ## Blocks of openings -/

variable (lc) in
def OnlyOpens (new : List Event) : Prop :=
  ∀ e ∈ new, lc.submits e = none ∧ lc.closes e = none

omit [DecidableEq Handle] in
theorem OnlyOpens.arms {new : List Event} (h : lc.OnlyOpens new)
    {e : Event} (he : e ∈ new) : lc.arms e = none := by
  unfold Lifecycle.arms
  rw [(h e he).1, ite_self]

omit [DecidableEq Handle] in
theorem OnlyOpens.of_concat {new : List Event} {e : Event}
    (h : lc.OnlyOpens (new ++ [e])) : lc.OnlyOpens new := by
  intro e' he'
  have hmem := List.mem_append_left [e] he'
  exact h e' hmem

theorem Sound.append_opens {log new : List Event} (hsound : lc.Sound log)
    (hnew : lc.OnlyOpens new) (hfresh : lc.OpensFresh (log ++ new)) :
    lc.Sound (log ++ new) := by
  induction new using List.reverseRecOn with
  | nil => rwa [List.append_nil]
  | append_singleton new e ih =>
      rw [← List.append_assoc] at hfresh ⊢
      obtain ⟨hsubmits, hcloses⟩ := hnew e (by simp)
      refine sound_concat_iff.mpr
        ⟨ih hnew.of_concat hfresh.of_append, ?_⟩
      exact
        { fresh := fun handle hopen => hfresh.before rfl hopen
          spares := fun handle h => by rw [hcloses] at h; cases h
          opened := fun handle h => by rw [hsubmits] at h; cases h
          anchored := fun handle h => by rw [hsubmits] at h; cases h
          single := fun handle h => by rw [hsubmits] at h; cases h }

/-- A handle opened by the block is live and unarmed after it, and its opener
lies in the block. -/
theorem OnlyOpens.opened {log new : List Event} (hnew : lc.OnlyOpens new)
    {handle : Handle} (hmem : handle ∈ new.filterMap lc.opens) :
    lc.live (log ++ new) handle = true ∧
      lc.armed (log ++ new) handle = false ∧
      ∃ o ∈ new, lc.opener (log ++ new) handle = some o ∧
        lc.opens o = some handle := by
  induction new using List.reverseRecOn with
  | nil => simp at hmem
  | append_singleton new e ih =>
      have harms := hnew.arms (show e ∈ new ++ [e] by simp)
      obtain ⟨_, hcloses⟩ := hnew e (by simp)
      rw [← List.append_assoc]
      by_cases hopen : lc.opens e = some handle
      · refine ⟨?_, ?_, e, by simp, ?_, hopen⟩
        · rw [live_concat, liveStep, if_pos hopen]
        · rw [armed_concat, armedStep, harms]
          simp [hopen]
        · rw [opener_concat, openerStep, if_pos hopen]
      · have hignores : lc.Ignores e handle := by
          refine ⟨hopen, ?_, ?_⟩
          · rw [harms]
            nofun
          · rw [hcloses]
            nofun
        have hbefore : handle ∈ new.filterMap lc.opens := by
          rw [List.filterMap_append] at hmem
          rcases List.mem_append.mp hmem with hmem | hmem
          · exact hmem
          · simp [hopen] at hmem
        obtain ⟨hlive, hunarmed, o, ho, hopener, hopens⟩ :=
          ih hnew.of_concat hbefore
        rw [hignores.live_concat, hignores.armed_concat,
          hignores.opener_concat]
        exact ⟨hlive, hunarmed, o, by simp [ho], hopener, hopens⟩

theorem OnlyOpens.nodup {log new : List Event} (hnew : lc.OnlyOpens new)
    (hfresh : lc.OpensFresh (log ++ new)) :
    (new.filterMap lc.opens).Nodup := by
  induction new using List.reverseRecOn with
  | nil => exact List.nodup_nil
  | append_singleton new e ih =>
      rw [← List.append_assoc] at hfresh
      have hbefore := ih hnew.of_concat hfresh.of_append
      rw [List.filterMap_append]
      cases hopen : lc.opens e with
      | none => simpa [hopen] using hbefore
      | some handle =>
          have hdead := hfresh.before rfl hopen
          have hnot : handle ∉ new.filterMap lc.opens := by
            intro hmem
            have hlive : lc.live (log ++ new) handle = true :=
              (hnew.of_concat.opened hmem).1
            rw [hlive] at hdead
            cases hdead
          have hlast : [e].filterMap lc.opens = [handle] := by
            simp [hopen]
          rw [hlast]
          exact List.Nodup.append hbefore (List.nodup_singleton handle)
            (List.disjoint_singleton.mpr hnot)

/-! ## Blocks of closings -/

variable (lc) in
def OnlyCloses (new : List Event) : Prop :=
  ∀ e ∈ new, lc.opens e = none ∧ lc.submits e = none

omit [DecidableEq Handle] in
theorem OnlyCloses.of_concat {new : List Event} {e : Event}
    (h : lc.OnlyCloses (new ++ [e])) : lc.OnlyCloses new := by
  intro e' he'
  have hmem := List.mem_append_left [e] he'
  exact h e' hmem

theorem OnlyCloses.unarmed {log new : List Event} (hnew : lc.OnlyCloses new)
    {handle : Handle} (hunarmed : lc.armed log handle = false) :
    lc.armed (log ++ new) handle = false := by
  induction new using List.reverseRecOn with
  | nil => rwa [List.append_nil]
  | append_singleton new e ih =>
      have harms : lc.arms e = none := by
        unfold arms
        rw [(hnew e (by simp)).2, ite_self]
      rw [← List.append_assoc, armed_concat, armedStep, harms,
        ih hnew.of_concat]
      simp

theorem Sound.append_closes {log new : List Event} (hsound : lc.Sound log)
    (hnew : lc.OnlyCloses new)
    (hunarmed : ∀ handle ∈ new.filterMap lc.closes,
      lc.armed log handle = false) :
    lc.Sound (log ++ new) := by
  induction new using List.reverseRecOn with
  | nil => rwa [List.append_nil]
  | append_singleton new e ih =>
      obtain ⟨hopens, hsubmits⟩ := hnew e (by simp)
      rw [← List.append_assoc]
      rw [List.filterMap_append] at hunarmed
      refine sound_concat_iff.mpr ⟨ih hnew.of_concat fun handle h =>
        hunarmed handle (List.mem_append_left _ h), ?_⟩
      exact
        { fresh := fun handle h => by rw [hopens] at h; cases h
          spares := fun handle h => hnew.of_concat.unarmed
            (hunarmed handle (by simp [h]))
          opened := fun handle h => by rw [hsubmits] at h; cases h
          anchored := fun handle h => by rw [hsubmits] at h; cases h
          single := fun handle h => by rw [hsubmits] at h; cases h }

theorem opener_append_of_no_opens {log new : List Event}
    (hnew : ∀ e ∈ new, lc.opens e = none) (handle : Handle) :
    lc.opener (log ++ new) handle = lc.opener log handle := by
  induction new using List.reverseRecOn with
  | nil => rw [List.append_nil]
  | append_singleton new e ih =>
      rw [← List.append_assoc, opener_concat, openerStep,
        hnew e (by simp)]
      exact ih fun e' he' => hnew e' (by simp [he'])

/-! ## Closings of live handles -/

theorem live_append_of_opens {new : List Event}
    (hcloses : new.filterMap lc.closes = []) (log : List Event)
    (handle : Handle) :
    lc.live (log ++ new) handle = true ↔
      lc.live log handle = true ∨ handle ∈ new.filterMap lc.opens := by
  induction new using List.reverseRecOn with
  | nil => simp
  | append_singleton new e ih =>
      rw [List.filterMap_append, List.append_eq_nil_iff] at hcloses
      have hclose : lc.closes e = none := by
        simpa using hcloses.2
      rw [← List.append_assoc, live_concat, liveStep, hclose,
        List.filterMap_append]
      by_cases hopen : lc.opens e = some handle
      · simp [hopen]
      · have hlast : handle ∉ [e].filterMap lc.opens := by
          simpa using hopen
        rw [if_neg hopen, if_neg (by simp), ih hcloses.1, List.mem_append,
          or_iff_left hlast]

theorem live_append_of_closes {new : List Event}
    (hopens : new.filterMap lc.opens = []) (log : List Event)
    (handle : Handle) :
    lc.live (log ++ new) handle = true ↔
      lc.live log handle = true ∧ handle ∉ new.filterMap lc.closes := by
  induction new using List.reverseRecOn with
  | nil => simp
  | append_singleton new e ih =>
      rw [List.filterMap_append, List.append_eq_nil_iff] at hopens
      have hopen : lc.opens e = none := by
        simpa using hopens.2
      rw [← List.append_assoc, live_concat, liveStep, hopen, if_neg (by simp),
        List.filterMap_append]
      by_cases hclose : lc.closes e = some handle
      · simp [hclose]
      · have hlast : handle ∉ [e].filterMap lc.closes := by
          simpa using hclose
        rw [if_neg hclose, ih hopens.1, List.mem_append, or_iff_left hlast]

variable (lc) in
/-- Every handle that an event closes is live before it. -/
def ClosesLive (log : List Event) : Prop :=
  ∀ k < log.length, ∀ e ∈ log[k]?, ∀ handle ∈ lc.closes e,
    lc.live (log.take k) handle = true

instance (log : List Event) : Decidable (lc.ClosesLive log) :=
  inferInstanceAs (Decidable (∀ k < log.length, ∀ e ∈ log[k]?,
    ∀ handle ∈ lc.closes e, lc.live (log.take k) handle = true))

theorem closesLive_nil : lc.ClosesLive [] := by
  intro k hk
  cases hk

theorem closesLive_concat {log : List Event} {e : Event}
    (h : lc.ClosesLive log)
    (hlive : ∀ handle, lc.closes e = some handle →
      lc.live log handle = true) :
    lc.ClosesLive (log ++ [e]) := by
  intro k hk e' he' handle hclose
  rw [List.length_append, List.length_singleton] at hk
  rcases Nat.lt_succ_iff_lt_or_eq.mp hk with hlt | rfl
  · rw [List.getElem?_append_left hlt] at he'
    rw [List.take_append_of_le_length (Nat.le_of_lt hlt)]
    exact h k hlt e' he' handle hclose
  · rw [List.getElem?_concat_length, Option.mem_some_iff] at he'
    rw [List.take_left]
    rw [← he'] at hclose
    exact hlive handle hclose

theorem ClosesLive.append_opens {log new : List Event}
    (h : lc.ClosesLive log) (hcloses : new.filterMap lc.closes = []) :
    lc.ClosesLive (log ++ new) := by
  induction new using List.reverseRecOn with
  | nil => rwa [List.append_nil]
  | append_singleton new e ih =>
      rw [List.filterMap_append, List.append_eq_nil_iff] at hcloses
      rw [← List.append_assoc]
      refine closesLive_concat (ih hcloses.1) ?_
      intro handle hclose
      simp [hclose] at hcloses

theorem ClosesLive.append_closes {log new : List Event}
    (h : lc.ClosesLive log) (hopens : new.filterMap lc.opens = [])
    (hnodup : (new.filterMap lc.closes).Nodup)
    (hlive : ∀ handle ∈ new.filterMap lc.closes,
      lc.live log handle = true) :
    lc.ClosesLive (log ++ new) := by
  induction new using List.reverseRecOn with
  | nil => rwa [List.append_nil]
  | append_singleton new e ih =>
      rw [List.filterMap_append] at hopens hnodup hlive
      have hbefore : new.filterMap lc.opens = [] :=
        (List.append_eq_nil_iff.mp hopens).1
      rw [← List.append_assoc]
      refine closesLive_concat (ih hbefore hnodup.of_append_left
        fun handle hmem => hlive handle (List.mem_append_left _ hmem)) ?_
      intro handle hclose
      have hlast : [e].filterMap lc.closes = [handle] := by
        simp [hclose]
      rw [hlast] at hnodup hlive
      have hfresh : handle ∉ new.filterMap lc.closes := fun hmem =>
        (List.disjoint_of_nodup_append hnodup) hmem
          (List.mem_singleton.mpr rfl)
      rw [live_append_of_closes hbefore]
      exact ⟨hlive handle (by simp), hfresh⟩

end Lifecycle
