import Esptool.CommandLine
import Esptool.Options

/-!
# Starting the worker

`RunSameImage` starts a second process of the own image and waits for it;
`LaunchWorker` builds the arguments of the worker and tries a second time,
without inherited handles, when the first attempt does not report a process.

What the operating system answers in one attempt is a `System`.  An attempt
returns its outcome and the calls it made on a process.
-/

namespace Esptool.Process

open Esp Cli Text

/-! ## The arguments of the worker -/

def kWorkerFlag : WString := wide "--worker"

def workerArguments (tokens : List WString) : List WString :=
  kWorkerFlag :: tokens.filter (· != kWorkerFlag)

/-- Append a flag that is in effect, unless the list holds its text. -/
def appendFlag (wanted : Bool) (flag : WString) (arguments : List WString) :
    List WString :=
  if wanted && !arguments.contains flag then arguments ++ [flag]
  else arguments

/-- A flag that is passed on, and its field. -/
structure LaunchFlag where
  flag : String
  given : Options → Bool

def noProvisionFlag : LaunchFlag :=
  ⟨"--no-provision", Options.noProvision⟩

def clearAttributeFlag : LaunchFlag :=
  ⟨"--clear-attribute", Options.clearAttribute⟩

def noAutoProvisionFlag : LaunchFlag :=
  ⟨"--no-auto-provision", Options.noAutoProvision⟩

def forceProvisionFlag : LaunchFlag :=
  ⟨"--force-provision", Options.forceProvision⟩

def kLaunchFlags : List LaunchFlag := [noProvisionFlag, clearAttributeFlag,
  noAutoProvisionFlag, forceProvisionFlag]

/-- The argument list that `LaunchWorker` builds. -/
def launchArguments (o : Options) : List WString :=
  kLaunchFlags.foldl (fun arguments entry =>
    appendFlag (entry.given o) (wide entry.flag) arguments)
    (workerArguments o.tokens)

/-! ## One attempt -/

structure LaunchOptions where
  inheritStdio : Bool := false
  hidden : Bool := false
  waitMs : ℕ := 0xFFFFFFFF
  terminateOnTimeout : Bool := false
  timeoutExitCode : ℕ := 0xC0000120

structure LaunchOutcome where
  created : Bool := false
  timedOut : Bool := false
  exitCode : ℕ := 1
  error : String := ""
deriving DecidableEq, Repr

/-- The outcomes of the system calls of one attempt.  A failed call gives the
error code of the thread. -/
structure System where
  currentImagePath : WString
  stdInput : Handle
  stdOutput : Handle
  stdError : Handle
  getHandleInformation : Handle → Except ℕ ℕ
  setHandleInformation : Handle → Except ℕ Unit
  attributeListSize : Except ℕ ℕ
  initializeAttributeList : Except ℕ Unit
  updateAttribute : List Handle → Except ℕ Unit
  createProcess : Except ℕ Unit
  waitForSingleObject : ℕ × ℕ
  getExitCodeProcess : Except ℕ ℕ

inductive ProcessCall
  | createProcess (image commandLine : WString) (inherited : List Handle)
      (flags : ℕ) (created : Bool)
  | waitForSingleObject (milliseconds : ℕ)
  | terminateProcess (exitCode : ℕ)
  | getExitCodeProcess
deriving DecidableEq, Repr

def ProcessCall.creates : ProcessCall → Bool
  | .createProcess _ _ _ _ created => created
  | _ => false

def kInvalidHandleValue : Handle := 2 ^ 64 - 1
def kHandleFlagInherit : ℕ := 1
def kWaitObject0 : ℕ := 0
def kWaitTimeout : ℕ := 0x102
def kTerminateDrainMs : ℕ := 5000
def kCreateNoWindow : ℕ := 0x08000000
def kExtendedStartupinfoPresent : ℕ := 0x00080000

def win32Message (what : String) (error : ℕ) : String :=
  what ++ " (error " ++ toString error ++ ")"

def usableStdHandle (handle : Handle) : Bool :=
  handle != 0 && handle != kInvalidHandleValue

def markInheritable (sys : System) (handle : Handle) : Except String Unit :=
  match sys.getHandleInformation handle with
  | .error error =>
      .error (win32Message "GetHandleInformation failed" error)
  | .ok flags =>
      if flags &&& kHandleFlagInherit ≠ 0 then .ok ()
      else
        (sys.setHandleInformation handle).mapError
          (win32Message "SetHandleInformation(HANDLE_FLAG_INHERIT) failed")

/-- The handles to inherit: the usable ones, each of them marked. -/
def inheritedHandles (sys : System) : List Handle →
    Except String (List Handle)
  | [] => .ok []
  | handle :: candidates =>
      if usableStdHandle handle then do
        markInheritable sys handle
        let rest ← inheritedHandles sys candidates
        return handle :: rest
      else inheritedHandles sys candidates

def makeHandleList (sys : System) (handles : List Handle) :
    Except String Unit := do
  let _ ← sys.attributeListSize.mapError
    (win32Message "InitializeProcThreadAttributeList size probe failed")
  sys.initializeAttributeList.mapError
    (win32Message "InitializeProcThreadAttributeList failed")
  (sys.updateAttribute handles).mapError
    (win32Message "UpdateProcThreadAttribute(HANDLE_LIST) failed")

/-- The handles that the process inherits, in its handle list. -/
def prepareStdio (sys : System) (options : LaunchOptions) :
    Except String (List Handle) :=
  if options.inheritStdio then do
    let handles ← inheritedHandles sys
      [sys.stdInput, sys.stdOutput, sys.stdError]
    if !handles.isEmpty then makeHandleList sys handles
    return handles
  else .ok []

def creationFlags (options : LaunchOptions) (inherited : List Handle) : ℕ :=
  (if options.hidden then kCreateNoWindow else 0) |||
    (if inherited.isEmpty then 0 else kExtendedStartupinfoPresent)

/-- The wait for a process that was created, and its exit code.  `created` is
set on the way out only. -/
def awaitProcess (sys : System) (options : LaunchOptions) :
    LaunchOutcome × List ProcessCall :=
  let wait := .waitForSingleObject options.waitMs
  if sys.waitForSingleObject.1 = kWaitTimeout then
    if options.terminateOnTimeout then
      ({ created := true, timedOut := true
         exitCode := options.timeoutExitCode },
        [wait, .terminateProcess options.timeoutExitCode,
          .waitForSingleObject kTerminateDrainMs])
    else
      ({ timedOut := true
         error := "the worker process did not finish in time" }, [wait])
  else if sys.waitForSingleObject.1 ≠ kWaitObject0 then
    ({ error := win32Message "WaitForSingleObject failed"
        sys.waitForSingleObject.2 }, [wait])
  else
    match sys.getExitCodeProcess with
    | .error error =>
        ({ error := win32Message "GetExitCodeProcess failed" error },
          [wait, .getExitCodeProcess])
    | .ok exitCode =>
        ({ created := true, exitCode := exitCode },
          [wait, .getExitCodeProcess])

def runSameImage (sys : System) (arguments : List WString)
    (options : LaunchOptions) : LaunchOutcome × List ProcessCall :=
  let image := sys.currentImagePath
  if image = [] then
    ({ error := "could not resolve the current executable path" }, [])
  else
    match prepareStdio sys options with
    | .error error => ({ error := error }, [])
    | .ok inherited =>
        let create (created : Bool) := ProcessCall.createProcess image
          (buildCommandLine image arguments) inherited
          (creationFlags options inherited) created
        match sys.createProcess with
        | .error error =>
            ({ error := win32Message "CreateProcessW failed" error },
              [create false])
        | .ok () =>
            let awaited := awaitProcess sys options
            (awaited.1, create true :: awaited.2)

/-! ## The launch -/

/-- The outcome, and the calls of each attempt. -/
structure Launched where
  outcome : LaunchOutcome
  attempts : List (List ProcessCall)

/-- `LaunchWorker`; `first` and `second` answer the two attempts. -/
def launchWorker (first second : System) (o : Options) : Launched :=
  if o.worker then
    ⟨{ error := "internal error: worker process attempted a parent hop" },
      []⟩
  else
    let arguments := launchArguments o
    let attempt := runSameImage first arguments { inheritStdio := true }
    if attempt.1.created then ⟨attempt.1, [attempt.2]⟩
    else
      let retry := runSameImage second arguments {}
      let outcome :=
        if retry.1.created then { retry.1 with error := "" }
        else if attempt.1.error ≠ "" ∧ retry.1.error ≠ "" then
          { retry.1 with
            error := attempt.1.error ++ "; retry without stdio inherit: " ++
              retry.1.error }
        else retry.1
      ⟨outcome, [attempt.2, retry.2]⟩

/-! ## Processes that were created -/

/-- At most one process was created, and an attempt is only followed by
another when it created none. -/
structure CreatesOnce (attempts : List (List ProcessCall)) : Prop where
  once : (attempts.flatten.filter ProcessCall.creates).length ≤ 1
  retried : ∀ before attempt next after,
    attempts = before ++ attempt :: next :: after →
      attempt.filter ProcessCall.creates = []

theorem awaitProcess_creates (sys : System) (options : LaunchOptions) :
    (awaitProcess sys options).2.filter ProcessCall.creates = [] := by
  unfold awaitProcess
  split
  · split
    · rfl
    · rfl
  split
  · rfl
  split
  · rfl
  · rfl

/-- The system calls before `CreateProcessW` let the attempt get there, and
that call succeeds. -/
def createsProcess (sys : System) (options : LaunchOptions) : Prop :=
  sys.currentImagePath ≠ [] ∧ (prepareStdio sys options).isOk = true ∧
    sys.createProcess.isOk = true

/-- The wait ends with the process, and its exit code can be read. -/
def reportsExit (sys : System) : Prop :=
  sys.waitForSingleObject.1 = kWaitObject0 ∧
    sys.getExitCodeProcess.isOk = true

/-- An attempt ends before a process was created, or it creates one and goes
on to wait for it. -/
theorem runSameImage_cases (sys : System) (arguments : List WString)
    (options : LaunchOptions) :
    let attempt := runSameImage sys arguments options
    (¬createsProcess sys options ∧ attempt.1.created = false ∧
      attempt.2.filter ProcessCall.creates = []) ∨
    (createsProcess sys options ∧
      attempt.1 = (awaitProcess sys options).1 ∧
      (attempt.2.filter ProcessCall.creates).length = 1) := by
  intro attempt
  have hattempt : attempt = runSameImage sys arguments options := rfl
  unfold runSameImage at hattempt
  dsimp only at hattempt
  by_cases himage : sys.currentImagePath = []
  · rw [if_pos himage] at hattempt
    rw [hattempt]
    exact .inl ⟨fun h => h.1 himage, rfl, rfl⟩
  rw [if_neg himage] at hattempt
  cases hprepared : prepareStdio sys options with
  | error error =>
      rw [hprepared] at hattempt
      rw [hattempt]
      refine .inl ⟨fun h => ?_, rfl, rfl⟩
      rw [createsProcess, hprepared] at h
      cases h.2.1
  | ok inherited =>
      rw [hprepared] at hattempt
      cases hcreated : sys.createProcess with
      | error error =>
          rw [hcreated] at hattempt
          rw [hattempt]
          refine .inl ⟨fun h => ?_, rfl, rfl⟩
          rw [createsProcess, hcreated] at h
          cases h.2.2
      | ok started =>
          rw [hcreated] at hattempt
          rw [hattempt]
          refine .inr ⟨?_, rfl, ?_⟩
          · rw [createsProcess, hprepared, hcreated]
            exact ⟨himage, rfl, rfl⟩
          · rw [List.filter_cons_of_pos rfl, awaitProcess_creates]
            rfl

theorem runSameImage_creates (sys : System) (arguments : List WString)
    (options : LaunchOptions) :
    ((runSameImage sys arguments options).2.filter
      ProcessCall.creates).length ≤ 1 := by
  rcases runSameImage_cases sys arguments options with
    ⟨-, -, hnone⟩ | ⟨-, -, hone⟩
  · rw [hnone]
    exact Nat.zero_le 1
  · exact Nat.le_of_eq hone

theorem runSameImage_creates_iff (sys : System) (arguments : List WString)
    (options : LaunchOptions) :
    (runSameImage sys arguments options).2.filter ProcessCall.creates ≠ [] ↔
      createsProcess sys options := by
  rcases runSameImage_cases sys arguments options with
    ⟨hnot, -, hnone⟩ | ⟨hcreates, -, hone⟩
  · exact ⟨fun h => absurd hnone h, fun h => absurd h hnot⟩
  · refine ⟨fun _ => hcreates, fun _ hnone => ?_⟩
    rw [hnone] at hone
    cases hone

theorem awaitProcess_created_iff {options : LaunchOptions}
    (hoptions : options.terminateOnTimeout = false) (sys : System) :
    (awaitProcess sys options).1.created = true ↔ reportsExit sys := by
  unfold awaitProcess reportsExit
  split
  · rename_i htimeout
    rw [if_neg (by simp [hoptions]), htimeout]
    exact ⟨nofun, fun h => absurd h.1 (by decide)⟩
  split
  · rename_i hwait
    exact ⟨nofun, fun h => absurd h.1 hwait⟩
  · rename_i hwait
    cases hexit : sys.getExitCodeProcess with
    | error error => exact ⟨nofun, fun h => by cases h.2⟩
    | ok exitCode => exact ⟨fun _ => ⟨not_not.mp hwait, rfl⟩, fun _ => rfl⟩

/-- Without a timeout that terminates the process, `created` says that the
exit of a created process could be observed. -/
theorem runSameImage_created_iff {options : LaunchOptions}
    (hoptions : options.terminateOnTimeout = false) (sys : System)
    (arguments : List WString) :
    (runSameImage sys arguments options).1.created = true ↔
      createsProcess sys options ∧ reportsExit sys := by
  rcases runSameImage_cases sys arguments options with
    ⟨hnot, hunseen, -⟩ | ⟨hcreates, hawaited, -⟩
  · rw [hunseen]
    exact ⟨nofun, fun h => absurd h.1 hnot⟩
  · rw [hawaited, awaitProcess_created_iff hoptions]
    exact ⟨fun h => ⟨hcreates, h⟩, fun h => h.2⟩

/-- The worker is started at most once exactly when a first process that was
created is also seen to exit. -/
theorem launchWorker_createsOnce_iff (first second : System) (o : Options) :
    CreatesOnce (launchWorker first second o).attempts ↔
      (o.worker = false →
        createsProcess first { inheritStdio := true } →
          reportsExit first) := by
  by_cases hworker : o.worker = true
  · rw [launchWorker, if_pos hworker]
    refine ⟨fun _ hnot => by simp [hworker] at hnot, fun _ => ?_⟩
    exact ⟨Nat.zero_le 1, fun before attempt next after h => by simp at h⟩
  have hparent : o.worker = false := by
    simpa using hworker
  rw [launchWorker, if_neg hworker]
  dsimp only
  have hoptions : LaunchOptions.terminateOnTimeout { inheritStdio := true } =
      false := rfl
  have hcreated := runSameImage_created_iff hoptions first
    (launchArguments o)
  have hprocess := runSameImage_creates_iff first (launchArguments o)
    { inheritStdio := true }
  have honce := runSameImage_creates first (launchArguments o)
    { inheritStdio := true }
  have hretry := runSameImage_creates second (launchArguments o) {}
  generalize runSameImage first (launchArguments o)
    { inheritStdio := true } = attempt at hcreated hprocess honce ⊢
  generalize runSameImage second (launchArguments o) {} = retry
    at hretry ⊢
  by_cases hseen : attempt.1.created = true
  · rw [if_pos hseen]
    refine ⟨fun _ _ _ => (hcreated.mp hseen).2, fun _ => ⟨?_, ?_⟩⟩
    · simpa using honce
    · intro before attempt' next after h
      have hlength := congrArg List.length h
      simp at hlength
      omega
  · rw [if_neg hseen]
    constructor
    · intro hcreates _ hfirst
      exact absurd (hcreates.retried [] attempt.2 retry.2 [] rfl)
        (hprocess.mpr hfirst)
    · intro hexits
      have hnone : attempt.2.filter ProcessCall.creates = [] := by
        by_contra hsome
        have hfirst := hprocess.mp hsome
        exact hseen (hcreated.mpr ⟨hfirst, hexits hparent hfirst⟩)
      refine ⟨?_, ?_⟩
      · simpa [hnone] using hretry
      · intro before attempt' next after h
        cases before with
        | nil =>
            cases h
            exact hnone
        | cons head before =>
            have hlength := congrArg List.length h
            simp at hlength
            omega

/-- A desktop session in which the wait for the first process fails. -/
def failingWait : System where
  currentImagePath := wide "C:\\esptool.exe"
  stdInput := 4
  stdOutput := 8
  stdError := 12
  getHandleInformation _ := .ok kHandleFlagInherit
  setHandleInformation _ := .ok ()
  attributeListSize := .ok 48
  initializeAttributeList := .ok ()
  updateAttribute _ := .ok ()
  createProcess := .ok ()
  waitForSingleObject := (0xFFFFFFFF, 6)
  getExitCodeProcess := .ok 0

/-- The command runs in two processes. -/
theorem launchWorker_twice :
    ((launchWorker failingWait failingWait
        { command := "rules" }).attempts.flatten.filter
      ProcessCall.creates).length = 2 ∧
      ¬CreatesOnce (launchWorker failingWait failingWait
        { command := "rules" }).attempts := by
  have htwo : ((launchWorker failingWait failingWait
      { command := "rules" }).attempts.flatten.filter
    ProcessCall.creates).length = 2 := by
    decide
  refine ⟨htwo, fun h => ?_⟩
  have honce := h.once
  rw [htwo] at honce
  exact absurd honce (by decide)

end Esptool.Process
