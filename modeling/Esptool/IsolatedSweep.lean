import Esptool.SweepRuns

/-!
# The isolated sweep

The isolated sweep starts one process for each export and reads its outcome
from the way the process ended.  What the parent reports and what happened to
the process agree, but for a process whose end could not be observed.
-/

namespace Esptool.Esp

open Process Interaction

/-- A launch ends before a process was created, or it creates one and waits
for it. -/
theorem runSameImage_awaits (sys : System) (arguments : List WString)
    (options : LaunchOptions) :
    let attempt := runSameImage sys arguments options
    (¬createsProcess sys options ∧ attempt.1.created = false ∧
      ∀ call ∈ attempt.2, ∃ image commandLine inherited flags,
        call = .createProcess image commandLine inherited flags false) ∨
    (createsProcess sys options ∧ ∃ inherited flags,
      attempt = ((awaitProcess sys options).1,
        .createProcess sys.currentImagePath
            (buildCommandLine sys.currentImagePath arguments) inherited flags
            true ::
          (awaitProcess sys options).2)) := by
  unfold runSameImage createsProcess
  dsimp only
  by_cases himage : sys.currentImagePath = []
  · rw [if_pos himage]
    exact .inl ⟨fun h => h.1 himage, rfl, nofun⟩
  rw [if_neg himage]
  cases hprepared : prepareStdio sys options with
  | error error => exact .inl ⟨fun h => (nomatch h.2.1), rfl, nofun⟩
  | ok inherited =>
      cases hcreated : sys.createProcess with
      | error error =>
          refine .inl ⟨fun h => (nomatch h.2.2), rfl, fun call hcall => ?_⟩
          rw [List.mem_singleton.mp hcall]
          exact ⟨_, _, _, _, rfl⟩
      | ok started => exact .inr ⟨⟨himage, rfl, rfl⟩, _, _, rfl⟩

/-- The exports that get a process of their own. -/
def launchable (descriptor : ExportDescriptor) : Bool :=
  !isExcluded descriptor.name && descriptor.address != 0

def ProcessCall.terminates : ProcessCall → Bool
  | .terminateProcess _ => true
  | _ => false

/-- The wait for the process of one export timed out. -/
def overruns (sys : System) : Prop :=
  createsProcess sys sweepLaunch ∧ sys.waitForSingleObject.1 = kWaitTimeout

instance (sys : System) (options : LaunchOptions) :
    Decidable (createsProcess sys options) :=
  inferInstanceAs (Decidable (_ ∧ _ ∧ _))

instance (sys : System) : Decidable (overruns sys) :=
  inferInstanceAs (Decidable (_ ∧ _))

/-- What the turn of one export did and what it reports. -/
structure Isolates (sys : System) (descriptor : ExportDescriptor)
    (turn : ExportOutcome × List ProcessCall) : Prop where
  name : turn.1.name = descriptor.name
  arity : turn.1.arity = descriptor.arity
  resolved : turn.1.resolved = (descriptor.address != 0)
  /-- No process without an export to call, and one otherwise, if it can be
  created. -/
  created : (turn.2.filter ProcessCall.creates).length =
    if launchable descriptor = true ∧ createsProcess sys sweepLaunch then 1
    else 0
  quiet : launchable descriptor = false → turn.2 = []
  /-- A process is terminated exactly when it overruns its time, and then it
  is reported so. -/
  terminated : (∃ call ∈ turn.2, ProcessCall.terminates call = true) ↔
    launchable descriptor = true ∧ overruns sys
  overrun : launchable descriptor = true → overruns sys →
    turn.1.result = kStatusCancelled ∧
      turn.1.detail = "timed out and was terminated"
  /-- The export counts as invoked when the end of its process was seen. -/
  invoked : turn.1.invoked = true ↔
    launchable descriptor = true ∧ createsProcess sys sweepLaunch ∧
      (overruns sys ∨ reportsExit sys)
  /-- The result is the exit code. -/
  exited : turn.1.invoked = true → ¬overruns sys →
    ∃ exitCode, sys.getExitCodeProcess = .ok exitCode ∧
      turn.1.result = toResult exitCode
  /-- An export that was not invoked says why. -/
  passed : turn.1.invoked = false →
    turn.1.result = 0 ∧ turn.1.detail ≠ ""

section

variable {sys : System} {descriptor : ExportDescriptor}

/-- The four ways in which the launch of one export ends. -/
inductive LaunchEnds (sys : System) : LaunchOutcome × List ProcessCall → Prop
  | notCreated {attempt : LaunchOutcome × List ProcessCall}
      (hnot : ¬createsProcess sys sweepLaunch)
      (hcreated : attempt.1.created = false)
      (hcalls : ∀ call ∈ attempt.2, call.creates = false ∧
        ProcessCall.terminates call = false) : LaunchEnds sys attempt
  | overran {create : ProcessCall} (hcreates : create.creates = true)
      (hoverruns : overruns sys) : LaunchEnds sys
        ({ created := true, timedOut := true
           exitCode := sweepLaunch.timeoutExitCode },
          [create, .waitForSingleObject sweepLaunch.waitMs,
            .terminateProcess sweepLaunch.timeoutExitCode,
            .waitForSingleObject kTerminateDrainMs])
  | unseen {create : ProcessCall} {outcome : LaunchOutcome}
      {calls : List ProcessCall} (hcreates : create.creates = true)
      (hprocess : createsProcess sys sweepLaunch)
      (hwait : sys.waitForSingleObject.1 ≠ kWaitTimeout)
      (hunseen : ¬reportsExit sys) (hcreated : outcome.created = false)
      (hcalls : ∀ call ∈ calls, call.creates = false ∧
        ProcessCall.terminates call = false) :
      LaunchEnds sys (outcome, create :: calls)
  | exited {create : ProcessCall} {exitCode : ℕ}
      (hcreates : create.creates = true)
      (hprocess : createsProcess sys sweepLaunch)
      (hwait : sys.waitForSingleObject.1 = kWaitObject0)
      (hexit : sys.getExitCodeProcess = .ok exitCode) : LaunchEnds sys
        ({ created := true, exitCode := exitCode },
          [create, .waitForSingleObject sweepLaunch.waitMs,
            .getExitCodeProcess])

theorem runSameImage_launchEnds (sys : System) (arguments : List WString) :
    LaunchEnds sys (runSameImage sys arguments sweepLaunch) := by
  rcases runSameImage_awaits sys arguments sweepLaunch with
    ⟨hnot, hcreated, hcalls⟩ | ⟨hprocess, inherited, flags, hattempt⟩
  · refine .notCreated hnot hcreated fun call hcall => ?_
    obtain ⟨_, _, _, _, rfl⟩ := hcalls call hcall
    exact ⟨rfl, rfl⟩
  rw [hattempt]
  unfold awaitProcess
  dsimp only
  by_cases htimeout : sys.waitForSingleObject.1 = kWaitTimeout
  · have hterminates : sweepLaunch.terminateOnTimeout = true := rfl
    rw [if_pos htimeout, if_pos hterminates]
    exact .overran rfl ⟨hprocess, htimeout⟩
  rw [if_neg htimeout]
  have hwaits : ∀ call ∈ [ProcessCall.waitForSingleObject sweepLaunch.waitMs,
      .getExitCodeProcess], call.creates = false ∧
        ProcessCall.terminates call = false := by
    simp [ProcessCall.creates, ProcessCall.terminates]
  by_cases hwait : sys.waitForSingleObject.1 = kWaitObject0
  · rw [if_neg (not_not.mpr hwait)]
    cases hexit : sys.getExitCodeProcess with
    | error error =>
        refine .unseen rfl hprocess htimeout ?_ rfl
          hwaits
        rw [reportsExit, hexit]
        exact fun h => nomatch h.2
    | ok exitCode => exact .exited rfl hprocess hwait hexit
  · rw [if_pos hwait]
    refine .unseen rfl hprocess htimeout
      (fun h => hwait h.1) rfl fun call hcall => ?_
    exact hwaits call (List.mem_cons.mpr (.inl (List.mem_singleton.mp hcall)))

theorem toResult_timeout :
    toResult sweepLaunch.timeoutExitCode = kStatusCancelled := by
  decide

theorem isolatedDetail_cancelled :
    isolatedDetail sweepLaunch.timeoutExitCode =
      "timed out and was terminated" := by
  decide

theorem seedOutcome_fst (descriptor : ExportDescriptor) :
    (seedOutcome descriptor).1 = launchable descriptor := by
  unfold seedOutcome launchable
  dsimp only
  by_cases hexcluded : isExcluded descriptor.name = true
  · rw [if_pos hexcluded, hexcluded]
    rfl
  rw [if_neg hexcluded, Bool.eq_false_iff.mpr hexcluded]
  by_cases haddress : descriptor.address = 0
  · rw [if_pos haddress]
    simp [haddress]
  · rw [if_neg haddress]
    simp [haddress]

/-- What the outcome holds before the launch. -/
theorem seedOutcome_snd (descriptor : ExportDescriptor) :
    (seedOutcome descriptor).2.name = descriptor.name ∧
      (seedOutcome descriptor).2.arity = descriptor.arity ∧
      (seedOutcome descriptor).2.resolved = (descriptor.address != 0) ∧
      (seedOutcome descriptor).2.invoked = false ∧
      (seedOutcome descriptor).2.result = 0 ∧
      (launchable descriptor = false →
        (seedOutcome descriptor).2.detail ≠ "") := by
  have hexcludedDetail : "excluded from CallRaw" ≠ "" := by decide
  have hmissingDetail : "not exported by the loaded library" ≠ "" := by
    decide
  have hfirst := seedOutcome_fst descriptor
  revert hfirst
  unfold seedOutcome
  dsimp only
  split
  · exact fun _ => ⟨rfl, rfl, rfl, rfl, rfl, fun _ => hexcludedDetail⟩
  split
  · exact fun _ => ⟨rfl, rfl, rfl, rfl, rfl, fun _ => hmissingDetail⟩
  · intro hfirst
    refine ⟨rfl, rfl, rfl, rfl, rfl, fun hnot => ?_⟩
    rw [hnot] at hfirst
    cases hfirst

theorem filter_creates_nil {calls : List ProcessCall}
    (h : ∀ call ∈ calls, call.creates = false ∧
      ProcessCall.terminates call = false) :
    calls.filter ProcessCall.creates = [] := by
  refine List.filter_eq_nil_iff.mpr fun call hcall => ?_
  rw [(h call hcall).1]
  exact Bool.false_ne_true

theorem forall_not_terminates {calls : List ProcessCall}
    (h : ∀ call ∈ calls, call.creates = false ∧
      ProcessCall.terminates call = false) :
    ¬∃ call ∈ calls, ProcessCall.terminates call = true := by
  rintro ⟨call, hcall, hterminates⟩
  rw [(h call hcall).2] at hterminates
  cases hterminates

theorem terminates_of_creates {call : ProcessCall}
    (h : call.creates = true) : ProcessCall.terminates call = false := by
  cases call <;> first | rfl | cases h

theorem isolateOne_isolates (sys : System) (hostLibrary : WString)
    (descriptor : ExportDescriptor) :
    Isolates sys descriptor (isolateOne sys hostLibrary descriptor) := by
  obtain ⟨hname, harity, hresolved, hinvoked, hresult, hdetail⟩ :=
    seedOutcome_snd descriptor
  unfold isolateOne
  dsimp only
  rw [seedOutcome_fst]
  generalize (seedOutcome descriptor).2 = seeded at *
  have hpassed : ¬seeded.invoked = true := by
    rw [hinvoked]
    exact Bool.false_ne_true
  by_cases hlaunch : launchable descriptor = true
  · have hends := runSameImage_launchEnds sys
      (callOneArguments hostLibrary descriptor.name)
    generalize runSameImage sys
      (callOneArguments hostLibrary descriptor.name) sweepLaunch = attempt
      at hends
    have hmessage (error : String) :
        (if error = "" then "child process creation failed"
          else error) ≠ "" := by
      have hfailed : "child process creation failed" ≠ "" := by decide
      split
      · exact hfailed
      · assumption
    rw [if_neg (by simp [hlaunch])]
    cases hends with
    | notCreated hnot hcreated hcalls =>
        have hoverruns : ¬overruns sys := fun h => hnot h.1
        rw [if_pos (by simp [hcreated])]
        refine ⟨hname, harity, hresolved, ?_, ?_, ?_, ?_, ?_, ?_,
          fun _ => ⟨hresult, hmessage _⟩⟩
        · have hnone : ¬(launchable descriptor = true ∧
              createsProcess sys sweepLaunch) := fun h => hnot h.2
          rw [if_neg hnone, filter_creates_nil hcalls]
          rfl
        · exact fun h => absurd hlaunch (by simp [h])
        · exact ⟨fun h => absurd h (forall_not_terminates hcalls),
            fun h => absurd h.2 hoverruns⟩
        · exact fun _ h => absurd h hoverruns
        · exact ⟨fun h => absurd h hpassed, fun h => absurd h.2.1 hnot⟩
        · exact fun h => absurd h hpassed
    | @overran create hcreates hoverruns =>
        rw [if_neg (by simp)]
        refine ⟨hname, harity, hresolved, ?_, ?_, ?_, ?_, ?_, ?_, nofun⟩
        · rw [if_pos ⟨hlaunch, hoverruns.1⟩, List.filter_cons_of_pos hcreates]
          rfl
        · exact fun h => absurd hlaunch (by simp [h])
        · refine ⟨fun _ => ⟨hlaunch, hoverruns⟩, fun _ => ?_⟩
          exact ⟨.terminateProcess sweepLaunch.timeoutExitCode, by simp, rfl⟩
        · intro _ _
          dsimp only
          exact ⟨toResult_timeout, isolatedDetail_cancelled⟩
        · exact ⟨fun _ => ⟨hlaunch, hoverruns.1, .inl hoverruns⟩,
            fun _ => rfl⟩
        · exact fun _ h => absurd hoverruns h
    | unseen hcreates hprocess hwait hunseen hcreated hcalls =>
        have hoverruns : ¬overruns sys := fun h => hwait h.2
        rw [if_pos (by simp [hcreated])]
        refine ⟨hname, harity, hresolved, ?_, ?_, ?_, ?_, ?_, ?_,
          fun _ => ⟨hresult, hmessage _⟩⟩
        · have hone : launchable descriptor = true ∧
              createsProcess sys sweepLaunch := ⟨hlaunch, hprocess⟩
          rw [if_pos hone, List.filter_cons_of_pos hcreates,
            filter_creates_nil hcalls]
          rfl
        · exact fun h => absurd hlaunch (by simp [h])
        · refine ⟨?_, fun h => absurd h.2 hoverruns⟩
          rintro ⟨call, hcall, hterminates⟩
          rcases List.mem_cons.mp hcall with rfl | hcall
          · rw [terminates_of_creates hcreates] at hterminates
            cases hterminates
          · exact absurd ⟨call, hcall, hterminates⟩
              (forall_not_terminates hcalls)
        · exact fun _ h => absurd h hoverruns
        · exact ⟨fun h => absurd h hpassed,
            fun h => absurd h.2.2 (not_or.mpr ⟨hoverruns, hunseen⟩)⟩
        · exact fun h => absurd h hpassed
    | @exited create exitCode hcreates hprocess hwait hexit =>
        have hoverruns : ¬overruns sys := by
          intro h
          rw [overruns, hwait] at h
          exact absurd h.2 (by decide)
        have hreports : reportsExit sys := by
          rw [reportsExit, hexit]
          exact ⟨hwait, rfl⟩
        rw [if_neg (by simp)]
        refine ⟨hname, harity, hresolved, ?_, ?_, ?_, ?_, ?_, ?_, nofun⟩
        · rw [if_pos ⟨hlaunch, hprocess⟩, List.filter_cons_of_pos hcreates]
          rfl
        · exact fun h => absurd hlaunch (by simp [h])
        · refine ⟨?_, fun h => absurd h.2 hoverruns⟩
          rintro ⟨call, hcall, hterminates⟩
          rcases List.mem_cons.mp hcall with rfl | hcall
          · rw [terminates_of_creates hcreates] at hterminates
            cases hterminates
          · simp only [List.mem_cons, List.not_mem_nil, or_false] at hcall
            rcases hcall with rfl | rfl <;> cases hterminates
        · exact fun _ h => absurd h hoverruns
        · exact ⟨fun _ => ⟨hlaunch, hprocess, .inr hreports⟩, fun _ => rfl⟩
        · intro _ _
          dsimp only
          exact ⟨exitCode, hexit, rfl⟩
  · rw [if_pos (by simp [hlaunch])]
    refine ⟨hname, harity, hresolved, ?_, fun _ => rfl, ?_,
      fun h => absurd h hlaunch, ?_, fun h => absurd h hpassed,
      fun _ => ⟨hresult, hdetail (Bool.eq_false_iff.mpr hlaunch)⟩⟩
    · rw [if_neg fun h => hlaunch h.1]
      rfl
    · exact ⟨fun ⟨call, hcall, _⟩ => (nomatch hcall),
        fun h => absurd h.1 hlaunch⟩
    · exact ⟨fun h => absurd h hpassed, fun h => absurd h.1 hlaunch⟩

end

/-! ## The counters -/

/-- Outcomes that agree with the table. -/
structure Counted (api : EspApi) (outcomes : List ExportOutcome) : Prop where
  resolved : outcomes.map ExportOutcome.resolved =
    api.exports.map fun descriptor => descriptor.address != 0
  invoked : ∀ outcome ∈ outcomes, outcome.invoked = true →
    outcome.resolved = true
  results : ∀ outcome ∈ outcomes, outcome.invoked = true →
    toResult outcome.result = outcome.result

theorem tallyOutcomes_eq (outcomes : List ExportOutcome) :
    tallyOutcomes outcomes =
      { total := outcomes.length
        resolved := outcomes.countP ExportOutcome.resolved
        invoked := outcomes.countP ExportOutcome.invoked
        ok := outcomes.countP fun outcome =>
          outcome.invoked ∧ 0 ≤ outcome.result
        failed := outcomes.countP fun outcome =>
          outcome.invoked ∧ outcome.result < 0
        faulted := outcomes.countP fun outcome =>
          outcome.invoked ∧ isFault outcome.result } := by
  rw [tallyOutcomes]
  induction outcomes using List.reverseRecOn with
  | nil => rfl
  | append_singleton outcomes outcome ih =>
      rw [List.foldl_concat, ih, Tally.count]
      simp only [List.length_append, List.length_singleton,
        List.countP_append, List.countP_singleton, decide_eq_true_eq]

/-- The counters of an exercise in which `made` calls or processes were
made. -/
structure Tally.Sound (tally : Tally) (api : EspApi) (made : ℕ) : Prop where
  total : tally.total = buildCatalog.length
  resolved : tally.resolved = api.resolvedCount
  invoked : tally.invoked ≤ made
  made : made ≤ tally.resolved
  split : tally.ok + tally.failed = tally.invoked
  faulted : tally.faulted ≤ tally.failed

theorem Counted.sound {api : EspApi} {outcomes : List ExportOutcome}
    {made : ℕ} (h : Counted api outcomes) (hlinked : api.Linked)
    (hinvoked : outcomes.countP ExportOutcome.invoked ≤ made)
    (hmade : made ≤ api.resolvedCount) :
    (tallyOutcomes outcomes).Sound api made := by
  have hresolved : outcomes.countP ExportOutcome.resolved =
      api.resolvedCount := by
    have hcount := congrArg (List.countP id) h.resolved
    rw [List.countP_map, List.countP_map] at hcount
    exact hcount
  have hlength := congrArg List.length h.resolved
  rw [List.length_map, List.length_map] at hlength
  have htable := congrArg List.length hlinked.table
  rw [List.length_map, List.length_map] at htable
  rw [tallyOutcomes_eq]
  refine ⟨hlength.trans htable, hresolved, hinvoked, ?_, ?_, ?_⟩
  · dsimp only
    rw [hresolved]
    exact hmade
  · have hsplit := List.countP_eq_countP_filter_add outcomes
      ExportOutcome.invoked fun outcome => decide (0 ≤ outcome.result)
    rw [List.countP_filter, List.countP_filter] at hsplit
    dsimp only
    rw [hsplit]
    refine congrArg₂ (· + ·) (List.countP_congr fun outcome _ => ?_)
      (List.countP_congr fun outcome _ => ?_)
    · simp
    · simp
  · refine List.countP_mono_left fun outcome hmem hfault => ?_
    rw [decide_eq_true_eq] at hfault ⊢
    exact ⟨hfault.1, isFault_failed (h.results outcome hmem hfault.1) hfault.2⟩

theorem SweepsTable.counted {api : EspApi} {s : Session} {st : Sweep}
    (h : SweepsTable api s st) : Counted api st.outcomes := by
  have hreports {descriptors : List ExportDescriptor}
      {outcomes : List ExportOutcome}
      (h : List.Forall₂ Reports descriptors outcomes) :
      outcomes.map ExportOutcome.resolved =
        descriptors.map (fun descriptor => descriptor.address != 0) ∧
      ∀ outcome ∈ outcomes, outcome.invoked = true →
        outcome.resolved = true := by
    induction h with
    | nil => exact ⟨rfl, nofun⟩
    | @cons descriptor outcome descriptors outcomes hone hrest ih =>
        refine ⟨?_, List.forall_mem_cons.mpr ⟨fun hinvoked => ?_, ih.2⟩⟩
        · rw [List.map_cons, List.map_cons, hone.resolved, ih.1]
        · rw [hone.invoked, sweepable, Bool.and_eq_true,
            Bool.and_eq_true] at hinvoked
          rw [hone.resolved]
          exact hinvoked.1.2
  obtain ⟨hresolved, hinvoked⟩ := hreports h.reports
  refine ⟨hresolved, hinvoked, fun outcome hmem houtcome => ?_⟩
  have hresult : outcome.result ∈ (st.outcomes.filter
      ExportOutcome.invoked).map ExportOutcome.result :=
    List.mem_map_of_mem (List.mem_filter.mpr ⟨hmem, houtcome⟩)
  rw [h.results] at hresult
  obtain ⟨call, -, hcall⟩ := List.mem_map.mp hresult
  rw [← hcall]
  exact toResult_idem call.2.value

/-- In the own process every call that was made is counted as invoked. -/
theorem SweepsTable.countP_invoked {api : EspApi} {s : Session} {st : Sweep}
    (h : SweepsTable api s st) :
    st.outcomes.countP ExportOutcome.invoked = st.calls.length := by
  have hlength := congrArg List.length h.results
  rw [List.length_map, List.length_map] at hlength
  rw [List.countP_eq_length_filter, hlength]

theorem SweepsTable.calls_le {api : EspApi} {s : Session} {st : Sweep}
    (h : SweepsTable api s st) : st.calls.length ≤ api.resolvedCount := by
  have hlength := congrArg List.length h.called
  rw [List.length_map] at hlength
  rw [hlength, ← List.countP_eq_length_filter, EspApi.resolvedCount]
  refine List.countP_mono_left fun descriptor _ hsweepable => ?_
  rw [sweepable, Bool.and_eq_true, Bool.and_eq_true] at hsweepable
  exact hsweepable.1.2

/-- The processes that an isolated sweep creates. -/
def createdProcesses (turns : List (ExportOutcome × List ProcessCall)) : ℕ :=
  ((turns.flatMap Prod.snd).filter ProcessCall.creates).length

theorem createdProcesses_cons (turn : ExportOutcome × List ProcessCall)
    (turns : List (ExportOutcome × List ProcessCall)) :
    createdProcesses (turn :: turns) =
      (turn.2.filter ProcessCall.creates).length +
        createdProcesses turns := by
  calc
    createdProcesses (turn :: turns) =
        ((turn.2 ++ turns.flatMap (·.2)).filter
          ProcessCall.creates).length := by
      rw [createdProcesses, List.flatMap_cons]
    _ = (turn.2.filter ProcessCall.creates).length +
          createdProcesses turns := by
      rw [List.filter_append, List.length_append, createdProcesses]

/-- The turns of an isolated sweep, over any part of a table. -/
theorem isolates_counted {systems : String → System}
    {descriptors : List ExportDescriptor}
    {turns : List (ExportOutcome × List ProcessCall)}
    (h : List.Forall₂ (fun descriptor turn =>
      Isolates (systems descriptor.name) descriptor turn) descriptors turns) :
    (turns.map Prod.fst).map ExportOutcome.resolved =
        descriptors.map (fun descriptor => descriptor.address != 0) ∧
      (∀ outcome ∈ turns.map Prod.fst, outcome.invoked = true →
        outcome.resolved = true ∧ toResult outcome.result = outcome.result) ∧
      (turns.map Prod.fst).countP ExportOutcome.invoked ≤
        createdProcesses turns ∧
      createdProcesses turns ≤
        descriptors.countP fun descriptor => descriptor.address != 0 := by
  induction h with
  | nil => exact ⟨rfl, nofun, Nat.le_refl 0, Nat.le_refl 0⟩
  | @cons descriptor turn descriptors turns hone hrest ih =>
      obtain ⟨hresolved, hinvoked, hmade, hbound⟩ := ih
      have hlaunch : turn.1.invoked = true →
          (descriptor.address != 0) = true := by
        intro h
        have hlaunchable := (hone.invoked.mp h).1
        rw [launchable, Bool.and_eq_true] at hlaunchable
        exact hlaunchable.2
      refine ⟨?_, ?_, ?_, ?_⟩
      · rw [List.map_cons, List.map_cons, List.map_cons, hone.resolved,
          hresolved]
      · rw [List.map_cons, List.forall_mem_cons]
        refine ⟨fun h => ⟨hone.resolved.trans (hlaunch h), ?_⟩, hinvoked⟩
        by_cases hoverruns : overruns (systems descriptor.name)
        · have hresult := (hone.overrun (hone.invoked.mp h).1 hoverruns).1
          rw [hresult, ← toResult_timeout]
          exact toResult_idem _
        · obtain ⟨exitCode, -, hresult⟩ := hone.exited h hoverruns
          rw [hresult]
          exact toResult_idem _
      · rw [List.map_cons, List.countP_cons, createdProcesses_cons,
          hone.created, Nat.add_comm]
        refine Nat.add_le_add ?_ hmade
        by_cases h : turn.1.invoked = true
        · obtain ⟨hlaunchable, hcreates, -⟩ := hone.invoked.mp h
          rw [if_pos h, if_pos ⟨hlaunchable, hcreates⟩]
        · rw [if_neg h]
          exact Nat.zero_le _
      · rw [createdProcesses_cons, List.countP_cons, hone.created,
          Nat.add_comm]
        refine Nat.add_le_add hbound ?_
        by_cases h : launchable descriptor = true ∧
            createsProcess (systems descriptor.name) sweepLaunch
        · have hlaunchable := h.1
          rw [launchable, Bool.and_eq_true] at hlaunchable
          rw [if_pos h, if_pos hlaunchable.2]
        · rw [if_neg h]
          exact Nat.zero_le _

/-! ## The isolated sweep -/

/-- An isolated sweep over the table of `api`. -/
structure SweepsIsolated (systems : String → System) (api : EspApi)
    (turns : List (ExportOutcome × List ProcessCall)) : Prop where
  /-- Every export has its turn, in the order of the table. -/
  isolates : List.Forall₂ (fun descriptor turn =>
    Isolates (systems descriptor.name) descriptor turn) api.exports turns
  /-- The processes are counted, but for those whose end was not seen. -/
  counts : (tallyOutcomes (turns.map Prod.fst)).Sound api
    (createdProcesses turns)

theorem runIsolated_sweepsIsolated (systems : String → System)
    (linker : Linker) (ops : List ApiOp) :
    SweepsIsolated systems (runApi linker ops)
      (runIsolated systems (runApi linker ops)) := by
  have hlinked := (runApi_invariant linker ops).1
  generalize runApi linker ops = api at hlinked ⊢
  have hisolates : List.Forall₂ (fun descriptor turn =>
      Isolates (systems descriptor.name) descriptor turn) api.exports
      (runIsolated systems api) := by
    rw [runIsolated, List.forall₂_map_right_iff, List.forall₂_same]
    exact fun descriptor _ => isolateOne_isolates _ _ descriptor
  obtain ⟨hresolved, hinvoked, hmade, hbound⟩ := isolates_counted hisolates
  exact ⟨hisolates, Counted.sound
    ⟨hresolved, fun outcome hmem h => (hinvoked outcome hmem h).1,
      fun outcome hmem h => (hinvoked outcome hmem h).2⟩ hlinked hmade
    hbound⟩

/-- The counters of a sweep in the own process: what is counted as invoked is
what was called. -/
theorem runInProcess_counts (host : ExerciseHost) (linker : Linker)
    (ops : List ApiOp) (s : Session) :
    let api := runApi linker ops
    let swept := runInProcess host api s
    (tallyOutcomes swept.outcomes).Sound api swept.calls.length ∧
      (tallyOutcomes swept.outcomes).invoked = swept.calls.length := by
  intro api swept
  have hlinked : api.Linked := (runApi_invariant linker ops).1
  have htable := sweepsTable host s hlinked
  have hinvoked := htable.countP_invoked
  refine ⟨htable.counted.sound hlinked (Nat.le_of_eq hinvoked)
    htable.calls_le, ?_⟩
  rw [tallyOutcomes_eq]
  exact hinvoked

end Esptool.Esp
