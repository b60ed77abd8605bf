import Esptool.Options

/-!
# Trust of the process

`Dispatch` probes the state of the process, derives a plan from the options,
and either hops to a worker or prepares the token of its own process.  The
worker derives the plan again, from the options it was given.

The token calls of the operating system are a `TokenHost`: the privilege
calls, the security attribute calls, and the record that is really on the
token.  Informational log lines are not modelled.
-/

namespace Esptool.Cli

open Model Esp

def kWespPermissionFull : ℕ := 2
def kWespPermissionRestricted : ℕ := 1
def kWespPermissionAbcdDeny : ℕ := 0x4D564900
def kWespPermissionClaim : String := "WESP://Permission"

/-! ## The plan -/

structure ProvisioningContext where
  isSystem : Bool := false
  isTcb : Bool := false
  isPpl : Bool := false
  testSigning : Bool := false
  attributePresent : Bool := false
  attributePermission : ℕ := 0
  probeOk : Bool := false
  error : String := ""

structure TrustPlan where
  effectiveNoProvision : Bool := false
  autoNoProvisionApplied : Bool := false
  stampNeeded : Bool := false
  cleanNeeded : Bool := false
  childRequired : Bool := false
  targetPermission : ℕ := 0
  reason : String := ""

def parsePermission (value : String) : Option ℕ :=
  if Text.equalsIgnoreCase value.toList "full".toList then
    some kWespPermissionFull
  else if Text.equalsIgnoreCase value.toList "restricted".toList then
    some kWespPermissionRestricted
  else if Text.equalsIgnoreCase value.toList "abcd".toList then
    some kWespPermissionAbcdDeny
  else parseCount value

/-- `ResolvePermission` with a probed context. -/
def resolvePermission (o : Options) (ctx : ProvisioningContext) : ℕ :=
  (parsePermission o.permission).getD
    (if ctx.isPpl then kWespPermissionFull else kWespPermissionRestricted)

def kWorkerCommands : List String := [
  "connect", "rules", "monitor", "query", "refs", "collections", "context",
  "exercise", "call-one", "provision", "clients", "unregister",
  "enum-rules", "remove-rules", "persist-rules", "open-queue", "trust"]

def commandNeedsWorker (o : Options) : Bool :=
  kWorkerCommands.contains o.command

/-- The effective `--no-provision` and the permission to stamp. -/
def provisionPlan (o : Options) (ctx : ProvisioningContext) : TrustPlan :=
  if o.noProvision then
    { effectiveNoProvision := true
      reason := "explicit --no-provision" }
  else if o.forceProvision || o.permission != "" then
    { targetPermission := resolvePermission o ctx
      reason := "explicit permission requested" }
  else if o.noAutoProvision then
    { targetPermission := resolvePermission o ctx
      reason := "auto-provision disabled via --no-auto-provision" }
  else if ctx.testSigning && !ctx.isPpl && o.command != "provision" then
    { effectiveNoProvision := true
      autoNoProvisionApplied := true
      reason := "test-signing active on non-PPL process " ++
        "(automatic --no-provision)" }
  else
    { targetPermission := resolvePermission o ctx
      reason := "production trust required (PPL or test-signing inactive)" }

/-- Whether the attribute on the token has to be stamped or removed. -/
def tokenPlan (o : Options) (ctx : ProvisioningContext)
    (plan : TrustPlan) : TrustPlan :=
  if plan.effectiveNoProvision then
    { plan with
      cleanNeeded :=
        ctx.attributePresent && ctx.testSigning && !ctx.isPpl }
  else if commandNeedsWorker o then
    { plan with
      stampNeeded := !(ctx.attributePresent &&
        ctx.attributePermission == plan.targetPermission) }
  else plan

/-- The precedence of the flags that decide about a worker. -/
def childPlan (o : Options) (plan : TrustPlan) : TrustPlan :=
  { plan with
    childRequired :=
      if o.worker then false
      else if o.noHop then false
      else if o.forceHop then commandNeedsWorker o
      else if !commandNeedsWorker o then false
      else plan.stampNeeded || plan.cleanNeeded }

def evaluateTrustPlan (o : Options) (ctx : ProvisioningContext) :
    TrustPlan :=
  childPlan o (tokenPlan o ctx (provisionPlan o ctx))

/-- The options that `Dispatch` goes on with. -/
def effectiveOptions (o : Options) (plan : TrustPlan) : Options :=
  { o with
    noProvision := o.noProvision || plan.autoNoProvisionApplied
    clearAttribute := o.clearAttribute || plan.cleanNeeded }

/-! ## The token -/

structure TokenAttributeState where
  queried : Bool := false
  present : Bool := false
  permission : ℕ := 0
  queryStatus : ℤ := 0

inductive TokenOperation
  | add
  | replace
  | delete

/-- The token calls.  A query that succeeds tells what is on the token. -/
structure TokenHost (Token : Type) where
  permissionOf : Token → Option ℕ
  isSystemAccount : Token → Bool
  tcbPresent : Token → Bool
  enablePrivilege : Token → Option String × Token
  openToken : Token → Option String
  applyOperation : TokenOperation → ℕ → Token → ℤ × Token
  queryWespPermission : Token → Option String × TokenAttributeState
  query_permissionOf : ∀ token, (queryWespPermission token).1 = none →
    permissionOf token =
      if (queryWespPermission token).2.present then
        some (queryWespPermission token).2.permission
      else none

section

variable {Token : Type} (host : TokenHost Token)

def ntSuccess (status : ℤ) : Bool := decide (0 ≤ status)

/-- Eight upper-case digits behind `0x`. -/
def statusHex (status : ℤ) : String :=
  let digits := (Nat.toDigits 16 (status % 2 ^ 32).toNat).map Char.toUpper
  "0x" ++ String.ofList (List.replicate (8 - digits.length) '0' ++ digits)

def TokenAttributeState.describe (state : TokenAttributeState) : String :=
  if !state.queried then "not queried"
  else if !state.present then
    "absent (query " ++ statusHex state.queryStatus ++ ")"
  else if state.permission = kWespPermissionFull then
    "present full (" ++ toString state.permission ++ ")"
  else if state.permission = kWespPermissionRestricted then
    "present restricted (" ++ toString state.permission ++ ")"
  else "present value=" ++ toString state.permission

def requireSystemWithTcb (token : Token) : Option String × Token :=
  if !host.isSystemAccount token then
    (some "this command requires a process launched as NT AUTHORITY\\SYSTEM",
      token)
  else if !host.tcbPresent token then
    (some "this command requires SeTcbPrivilege on the process token", token)
  else
    let enabled := host.enablePrivilege token
    (enabled.1.map fun error =>
      "SeTcbPrivilege is present but could not be enabled: " ++ error,
      enabled.2)

/-- A failed privilege call is appended to the error of the token call. -/
def withPrivilegeError (error : String) : Option String → String
  | none => error
  | some privilegeError =>
      if privilegeError = "" then error
      else error ++ " (" ++ privilegeError ++ ")"

def setWespPermission (permission : ℕ) (token : Token) :
    Option String × Token :=
  let enabled := host.enablePrivilege token
  match host.openToken enabled.2 with
  | some error => (some error, enabled.2)
  | none =>
      let added := host.applyOperation .add permission enabled.2
      let applied := if ntSuccess added.1 then added
        else host.applyOperation .replace permission added.2
      if !ntSuccess applied.1 then
        (some (withPrivilegeError
          ("NtSetInformationToken failed " ++ statusHex applied.1)
          enabled.1), applied.2)
      else
        let verified := host.queryWespPermission applied.2
        if verified.1.isSome || !verified.2.present ||
            verified.2.permission != permission then
          (some (withPrivilegeError
            ("NtSetInformationToken succeeded but " ++
              kWespPermissionClaim ++ " is " ++ verified.2.describe)
            verified.1), applied.2)
        else (none, applied.2)

def deleteWespPermission (token : Token) : Option String × Token :=
  let enabled := host.enablePrivilege token
  match host.openToken enabled.2 with
  | some error => (some error, enabled.2)
  | none =>
      let applied :=
        host.applyOperation .delete kWespPermissionFull enabled.2
      if !ntSuccess applied.1 then
        (some (withPrivilegeError
          ("NtSetInformationToken(DELETE) failed " ++ statusHex applied.1)
          enabled.1), applied.2)
      else
        let verified := host.queryWespPermission applied.2
        match verified.1 with
        | some error =>
            (some ("NtSetInformationToken(DELETE) succeeded but failed to " ++
              "re-query " ++ kWespPermissionClaim ++ ": " ++ error),
              applied.2)
        | none =>
            if verified.2.present then
              (some ("NtSetInformationToken(DELETE) succeeded but " ++
                kWespPermissionClaim ++ " is still present: " ++
                verified.2.describe), applied.2)
            else (none, applied.2)

structure PreparedProcess (Token : Type) where
  code : ℕ
  error : Option String := none
  token : Token

def prepareThisProcess (o : Options) (plan : TrustPlan) (token : Token) :
    PreparedProcess Token :=
  let required := requireSystemWithTcb host token
  match required.1 with
  | some error => ⟨1, some error, required.2⟩
  | none =>
      if plan.cleanNeeded || o.clearAttribute then
        let deleted := deleteWespPermission host required.2
        match deleted.1 with
        | some error =>
            ⟨1, some ("could not clear " ++ kWespPermissionClaim ++ ": " ++
              error), deleted.2⟩
        | none => ⟨0, none, deleted.2⟩
      else if plan.stampNeeded then
        let stamped := setWespPermission host plan.targetPermission
          required.2
        match stamped.1 with
        | some error =>
            ⟨1, some ("could not set " ++ kWespPermissionClaim ++ ": " ++
              error), stamped.2⟩
        | none => ⟨0, none, stamped.2⟩
      else ⟨0, none, required.2⟩

/-! ## What the token calls verify -/

theorem deleteWespPermission_verified {token : Token}
    (h : (deleteWespPermission host token).1 = none) :
    host.permissionOf (deleteWespPermission host token).2 = none := by
  unfold deleteWespPermission at h ⊢
  generalize host.enablePrivilege token = enabled at h ⊢
  dsimp only at h ⊢
  cases hopen : host.openToken enabled.2 with
  | some error =>
      rw [hopen] at h
      cases h
  | none =>
      rw [hopen] at h
      dsimp only at h ⊢
      generalize host.applyOperation .delete kWespPermissionFull enabled.2 =
        applied at h ⊢
      by_cases happlied : (!ntSuccess applied.1) = true
      · rw [if_pos happlied] at h
        cases h
      rw [if_neg happlied] at h ⊢
      cases hqueried : (host.queryWespPermission applied.2).1 with
      | some error =>
          rw [hqueried] at h
          cases h
      | none =>
          rw [hqueried] at h
          dsimp only at h ⊢
          by_cases hpresent :
              (host.queryWespPermission applied.2).2.present = true
          · rw [if_pos hpresent] at h
            cases h
          · rw [if_neg hpresent, host.query_permissionOf _ hqueried,
              if_neg hpresent]

theorem setWespPermission_verified {permission : ℕ} {token : Token}
    (h : (setWespPermission host permission token).1 = none) :
    host.permissionOf (setWespPermission host permission token).2 =
      some permission := by
  unfold setWespPermission at h ⊢
  generalize host.enablePrivilege token = enabled at h ⊢
  dsimp only at h ⊢
  cases hopen : host.openToken enabled.2 with
  | some error =>
      rw [hopen] at h
      cases h
  | none =>
      rw [hopen] at h
      dsimp only at h ⊢
      generalize (if ntSuccess (host.applyOperation .add permission
        enabled.2).1 then host.applyOperation .add permission enabled.2
        else host.applyOperation .replace permission
          (host.applyOperation .add permission enabled.2).2) = applied
        at h ⊢
      by_cases happlied : (!ntSuccess applied.1) = true
      · rw [if_pos happlied] at h
        cases h
      rw [if_neg happlied] at h ⊢
      by_cases hrefused :
          ((host.queryWespPermission applied.2).1.isSome ||
            !(host.queryWespPermission applied.2).2.present ||
            (host.queryWespPermission applied.2).2.permission !=
              permission) = true
      · rw [if_pos hrefused] at h
        cases h
      rw [if_neg hrefused]
      simp only [Bool.or_eq_true, not_or, Bool.not_eq_true',
        Bool.not_eq_false, bne_iff_ne, ne_eq, not_not, Bool.not_eq_true,
        Option.isSome_eq_false_iff, Option.isNone_iff_eq_none] at hrefused
      obtain ⟨⟨hqueried, hpresent⟩, hpermission⟩ := hrefused
      rw [host.query_permissionOf _ hqueried, if_pos hpresent, hpermission]

/-- A plan never asks to stamp and to clean. -/
theorem evaluateTrustPlan_exclusive (o : Options)
    (ctx : ProvisioningContext)
    (h : (evaluateTrustPlan o ctx).stampNeeded = true) :
    (evaluateTrustPlan o ctx).cleanNeeded = false := by
  have hbase : (provisionPlan o ctx).stampNeeded = false ∧
      (provisionPlan o ctx).cleanNeeded = false := by
    unfold provisionPlan
    split
    · exact ⟨rfl, rfl⟩
    split
    · exact ⟨rfl, rfl⟩
    split
    · exact ⟨rfl, rfl⟩
    split
    · exact ⟨rfl, rfl⟩
    · exact ⟨rfl, rfl⟩
  change (tokenPlan o ctx (provisionPlan o ctx)).stampNeeded = true at h
  change (tokenPlan o ctx (provisionPlan o ctx)).cleanNeeded = false
  unfold tokenPlan at h ⊢
  split at h
  · rw [hbase.1] at h
    cases h
  · rename_i heffective
    rw [if_neg heffective]
    split
    · exact hbase.2
    · exact hbase.2

/-- A process that was prepared has the token that its plan asks for. -/
theorem prepareThisProcess_prepared {o : Options}
    {ctx : ProvisioningContext} {token : Token}
    (hclear : o.clearAttribute = true →
      (evaluateTrustPlan o ctx).cleanNeeded = true)
    (h : (prepareThisProcess host o (evaluateTrustPlan o ctx)
      token).code = 0) :
    let prepared := prepareThisProcess host o (evaluateTrustPlan o ctx) token
    ((evaluateTrustPlan o ctx).cleanNeeded = true →
      host.permissionOf prepared.token = none) ∧
    ((evaluateTrustPlan o ctx).stampNeeded = true →
      host.permissionOf prepared.token =
        some (evaluateTrustPlan o ctx).targetPermission) := by
  have hexclusive := evaluateTrustPlan_exclusive o ctx
  generalize evaluateTrustPlan o ctx = plan at hclear h hexclusive ⊢
  intro prepared
  have hprepared : prepared = prepareThisProcess host o plan token := rfl
  unfold prepareThisProcess at h hprepared
  dsimp only at h hprepared
  split at h
  · cases h
  rename_i hrequired
  rw [hrequired] at hprepared
  dsimp only at hprepared
  split at h
  · rename_i hclean
    rw [if_pos hclean] at hprepared
    split at h
    · cases h
    rename_i hdeleted
    rw [hdeleted] at hprepared
    dsimp only at hprepared
    have hcleaned : plan.cleanNeeded = true := by
      rcases (Bool.or_eq_true _ _).mp hclean with hclean | hclear'
      · exact hclean
      · exact hclear hclear'
    constructor
    · intro _
      rw [hprepared]
      exact deleteWespPermission_verified host hdeleted
    · intro hstamp
      rw [hexclusive hstamp] at hcleaned
      cases hcleaned
  · rename_i hclean
    rw [if_neg hclean] at hprepared
    have hkept : plan.cleanNeeded = false := by
      cases hcleaned : plan.cleanNeeded with
      | false => rfl
      | true => exact absurd (by simp [hcleaned]) hclean
    refine ⟨fun hcleaned => ?_, fun hstamp => ?_⟩
    · rw [hkept] at hcleaned
      cases hcleaned
    · rw [if_pos hstamp] at h hprepared
      split at h
      · cases h
      rename_i hstamped
      rw [hstamped] at hprepared
      rw [hprepared]
      exact setWespPermission_verified host hstamped

end

/-! ## The plan of the worker -/

/-- The options that the worker is meant to run with. -/
def workerOptions (o : Options) (ctx : ProvisioningContext) : Options :=
  { effectiveOptions o (evaluateTrustPlan o ctx) with worker := true }

theorem evaluateTrustPlan_auto (o : Options) (ctx : ProvisioningContext) :
    (evaluateTrustPlan o ctx).autoNoProvisionApplied =
      (provisionPlan o ctx).autoNoProvisionApplied := by
  change (tokenPlan o ctx (provisionPlan o ctx)).autoNoProvisionApplied = _
  unfold tokenPlan
  split
  · rfl
  split
  · rfl
  · rfl

/-- The fields of a plan that decide about the token. -/
structure SameTrust (plan plan' : TrustPlan) : Prop where
  effectiveNoProvision :
    plan'.effectiveNoProvision = plan.effectiveNoProvision
  stampNeeded : plan'.stampNeeded = plan.stampNeeded
  cleanNeeded : plan'.cleanNeeded = plan.cleanNeeded
  targetPermission : plan'.targetPermission = plan.targetPermission

/-- The automatic `--no-provision` of the parent is an explicit one in the
worker; every other branch is taken by both. -/
theorem provisionPlan_worker (o : Options) (ctx : ProvisioningContext) :
    SameTrust (provisionPlan o ctx)
      (provisionPlan (workerOptions o ctx) ctx) := by
  have hworker : (workerOptions o ctx).noProvision =
      (o.noProvision || (provisionPlan o ctx).autoNoProvisionApplied) := by
    rw [← evaluateTrustPlan_auto]
    rfl
  have hforce : (workerOptions o ctx).forceProvision = o.forceProvision := rfl
  have hpermission : (workerOptions o ctx).permission = o.permission := rfl
  have hauto : (workerOptions o ctx).noAutoProvision = o.noAutoProvision :=
    rfl
  have hcommand : (workerOptions o ctx).command = o.command := rfl
  have hresolve : resolvePermission (workerOptions o ctx) ctx =
      resolvePermission o ctx := rfl
  generalize workerOptions o ctx = worker at *
  unfold provisionPlan at hworker ⊢
  rw [hforce, hpermission, hauto, hcommand, hresolve]
  by_cases hno : o.noProvision = true
  · rw [hno, Bool.true_or] at hworker
    rw [if_pos hno, if_pos hworker]
    exact ⟨rfl, rfl, rfl, rfl⟩
  rw [if_neg hno] at hworker ⊢
  have hfalse : o.noProvision = false := by
    simpa using hno
  rw [hfalse, Bool.false_or] at hworker
  by_cases hexplicit : (o.forceProvision || o.permission != "") = true
  · rw [if_pos hexplicit] at hworker ⊢
    rw [if_neg (by simp [hworker])]
    exact ⟨rfl, rfl, rfl, rfl⟩
  rw [if_neg hexplicit] at hworker ⊢
  by_cases hdisabled : o.noAutoProvision = true
  · rw [if_pos hdisabled] at hworker ⊢
    rw [if_neg (by simp [hworker])]
    exact ⟨rfl, rfl, rfl, rfl⟩
  rw [if_neg hdisabled] at hworker ⊢
  by_cases hdetected : (ctx.testSigning && !ctx.isPpl &&
      o.command != "provision") = true
  · rw [if_pos hdetected] at hworker ⊢
    rw [if_pos hworker]
    exact ⟨rfl, rfl, rfl, rfl⟩
  · rw [if_neg hdetected] at hworker ⊢
    rw [if_neg (by simp [hworker])]
    exact ⟨rfl, rfl, rfl, rfl⟩

theorem SameTrust.tokenPlan {o worker : Options} {ctx : ProvisioningContext}
    {plan plan' : TrustPlan} (h : SameTrust plan plan')
    (hcommand : worker.command = o.command) :
    SameTrust (tokenPlan o ctx plan) (tokenPlan worker ctx plan') := by
  have hneeds : commandNeedsWorker worker = commandNeedsWorker o := by
    rw [commandNeedsWorker, hcommand]
    rfl
  unfold Cli.tokenPlan
  rw [h.effectiveNoProvision, hneeds, h.targetPermission]
  split
  · exact ⟨rfl, h.stampNeeded, rfl, rfl⟩
  split
  · exact ⟨rfl, rfl, h.cleanNeeded, rfl⟩
  · exact h

theorem evaluateTrustPlan_worker (o : Options) (ctx : ProvisioningContext) :
    SameTrust (evaluateTrustPlan o ctx)
      (evaluateTrustPlan (workerOptions o ctx) ctx) := by
  have hsame : SameTrust (tokenPlan o ctx (provisionPlan o ctx))
      (tokenPlan (workerOptions o ctx) ctx
        (provisionPlan (workerOptions o ctx) ctx)) :=
    (provisionPlan_worker o ctx).tokenPlan rfl
  exact ⟨hsame.effectiveNoProvision, hsame.stampNeeded, hsame.cleanNeeded,
    hsame.targetPermission⟩

/-- The worker makes the plan of its parent, does not hop again, and leaves
its token as the plan asks when it could be prepared.  This holds of the
options of every parent, whether it hops or not. -/
theorem worker_trust {o : Options} (ctx : ProvisioningContext)
    (hclear : o.clearAttribute = false) :
    let plan := evaluateTrustPlan o ctx
    let worker := evaluateTrustPlan (workerOptions o ctx) ctx
    worker.effectiveNoProvision = plan.effectiveNoProvision ∧
      worker.stampNeeded = plan.stampNeeded ∧
      worker.cleanNeeded = plan.cleanNeeded ∧
      worker.targetPermission = plan.targetPermission ∧
      worker.childRequired = false ∧
      ∀ (Token : Type) (host : TokenHost Token) (token : Token),
        let prepared :=
          prepareThisProcess host (workerOptions o ctx) worker token
        prepared.code = 0 →
          (plan.cleanNeeded = true →
            host.permissionOf prepared.token = none) ∧
          (plan.stampNeeded = true →
            host.permissionOf prepared.token = some plan.targetPermission) := by
  intro plan worker
  have hsame := evaluateTrustPlan_worker o ctx
  refine ⟨hsame.effectiveNoProvision, hsame.stampNeeded, hsame.cleanNeeded,
    hsame.targetPermission, rfl, ?_⟩
  intro Token host token prepared hcode
  have hcleared : (workerOptions o ctx).clearAttribute = true →
      (evaluateTrustPlan (workerOptions o ctx) ctx).cleanNeeded = true := by
    intro hset
    have hor : (o.clearAttribute || plan.cleanNeeded) = true := hset
    rw [hclear, Bool.false_or] at hor
    rw [hsame.cleanNeeded]
    exact hor
  obtain ⟨hclean, hstamp⟩ :=
    prepareThisProcess_prepared host hcleared hcode
  constructor
  · intro hneeded
    exact hclean (hsame.cleanNeeded.trans hneeded)
  · intro hneeded
    rw [← hsame.targetPermission]
    exact hstamp (hsame.stampNeeded.trans hneeded)

/-- A token that takes every attribute call of a privileged process: an
attribute is added once and then replaced. -/
def plainToken : TokenHost (Option ℕ) where
  permissionOf token := token
  isSystemAccount _ := true
  tcbPresent _ := true
  enablePrivilege token := (none, token)
  openToken _ := none
  applyOperation operation permission token :=
    match operation, token with
    | .add, none => (0, some permission)
    | .add, some _ => (-1, token)
    | .replace, _ => (0, some permission)
    | .delete, _ => (0, none)
  queryWespPermission token :=
    (none,
      { queried := true, present := token.isSome
        permission := token.getD 0 })
  query_permissionOf token _ := by
    cases token with
    | none => rfl
    | some permission => rfl

theorem worker_trust_stamped :
    let o : Options := { command := "connect" }
    let ctx : ProvisioningContext := { probeOk := true }
    let worker := evaluateTrustPlan (workerOptions o ctx) ctx
    (evaluateTrustPlan o ctx).childRequired = true ∧
      worker.stampNeeded = true ∧ worker.childRequired = false ∧
      (prepareThisProcess plainToken (workerOptions o ctx) worker
        none).token = some kWespPermissionRestricted := by
  intro o ctx worker
  have hstamp : (evaluateTrustPlan o ctx).stampNeeded = true := by
    decide
  obtain ⟨-, hneeded, -, htarget, hchild, hprepared⟩ :=
    worker_trust (o := o) ctx rfl
  refine ⟨by decide, hneeded.trans hstamp, hchild, ?_⟩
  exact ((hprepared (Option ℕ) plainToken none (by decide)).2
    hstamp).trans (by decide)

end Esptool.Cli
