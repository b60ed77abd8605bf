import Esptool.Dispatch

/-!
# Runs of one process

A process ends in one of five ways.  The library is only touched in the last
of them: the probe of the process succeeded, no worker has to take over, the
account and the privilege were checked, and the token is the one that the
plan asks for.  The service loop, which has a library of its own, is not part
of these runs.
-/

namespace Esptool.Cli

open Model Esp Process Interaction Custody

section

variable {Token : Type} (host : ToolHost Token) (o : Options) (token : Token)

/-- The plan that `Dispatch` derives. -/
def dispatchPlan : TrustPlan :=
  evaluateTrustPlan o (probeCurrentTrustContext host token)

def dispatchOptions : Options :=
  effectiveOptions o (dispatchPlan host o token)

def dispatchPrepared : PreparedProcess Token :=
  ensureWorkerOrTcb host (dispatchOptions host o token)
    (dispatchPlan host o token) token

/-- A worker takes over. -/
def hops : Prop :=
  (dispatchPlan host o token).childRequired = true ∧ o.worker = false

variable {o} in
/-- A command without a worker keeps its process. -/
theorem not_hops (h : commandNeedsWorker o = false) : ¬hops host o token := by
  rintro ⟨hchild, -⟩
  have hplan : (dispatchPlan host o token).childRequired =
      if o.worker then false
      else if o.noHop then false
      else if o.forceHop then commandNeedsWorker o
      else if !commandNeedsWorker o then false
      else _ := rfl
  rw [hplan, h] at hchild
  simp at hchild

variable {o} in
theorem dispatchPrepared_unneeded (h : commandNeedsWorker o = false)
    (hcontext : commandNeedsSystemContext o = false) :
    dispatchPrepared host o token = ⟨0, none, token⟩ := by
  have hneeds : commandNeedsWorker (dispatchOptions host o token) = false := h
  have hneedsContext : commandNeedsSystemContext
      (dispatchOptions host o token) = false := hcontext
  rw [dispatchPrepared, ensureWorkerOrTcb, hneeds, hneedsContext]
  rfl

/-- The ways in which `Dispatch` ends. -/
inductive DispatchEnds : Dispatched Token → Prop
  | untrusted (hneeds : commandNeedsWorker o = true)
      (hprobe : (probeCurrentTrustContext host token).probeOk = false) :
      DispatchEnds
        { code := 1
          errors := ["trust probe failed: " ++
            (probeCurrentTrustContext host token).error]
          token := token }
  | hopped (hhops : hops host o token) :
      DispatchEnds (hopToWorker host (dispatchOptions host o token) token)
  | unprepared (hstays : ¬hops host o token)
      (hfailed : (dispatchPrepared host o token).code ≠ 0) :
      DispatchEnds
        { code := (dispatchPrepared host o token).code
          errors := (dispatchPrepared host o token).error.toList
          token := (dispatchPrepared host o token).token }
  | locally {outcome : Outcome} {left : Token}
      (hstays : ¬hops host o token)
      (hprepared : (dispatchPrepared host o token).code = 0)
      (hlocal : dispatchLocal host (dispatchOptions host o token)
        (dispatchPrepared host o token).token = some (outcome, left)) :
      DispatchEnds
        { code := outcome.code
          errors := outcome.errors
          token := left
          log := outcome.log }
  | throughLibrary
      (hprobe : commandNeedsWorker o = true →
        (probeCurrentTrustContext host token).probeOk = true)
      (hstays : ¬hops host o token)
      (hprepared : (dispatchPrepared host o token).code = 0)
      (hlocal : dispatchLocal host (dispatchOptions host o token)
        (dispatchPrepared host o token).token = none) :
      DispatchEnds (dispatchEsp host (dispatchOptions host o token)
        (dispatchPrepared host o token).token)

theorem dispatch_ends :
    DispatchEnds host o token (dispatch host o token) := by
  unfold dispatch
  dsimp only
  split
  · rename_i huntrusted
    rw [Bool.and_eq_true, Bool.not_eq_true'] at huntrusted
    exact .untrusted huntrusted.2 huntrusted.1
  rename_i htrusted
  have hprobe : commandNeedsWorker o = true →
      (probeCurrentTrustContext host token).probeOk = true := by
    intro hneeds
    simpa [hneeds] using htrusted
  split
  · rename_i hhops
    rw [Bool.and_eq_true, Bool.not_eq_true'] at hhops
    exact .hopped hhops
  rename_i hhops
  have hstays : ¬hops host o token := by
    intro h
    refine hhops ?_
    rw [Bool.and_eq_true, Bool.not_eq_true']
    exact h
  split
  · rename_i hfailed
    exact .unprepared hstays hfailed
  rename_i hprepared
  split
  · rename_i outcome left hlocal
    exact .locally hstays (not_not.mp hprepared) hlocal
  · rename_i hlocal
    exact .throughLibrary hprobe hstays (not_not.mp hprepared) hlocal

end

/-! ## Preparing the token -/

section

variable {Token : Type} (host : TokenHost Token)

end

/-! ## The library in a process -/

section

variable {Token : Type} (host : ToolHost Token) (o : Options) (token : Token)

variable {host o token}

end

end Esptool.Cli
